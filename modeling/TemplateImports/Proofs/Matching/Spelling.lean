import TemplateImports.Matching.Library
import TemplateImports.Proofs.Casing.Inverse
import TemplateImports.Proofs.Registration.BlockContent
import TemplateImports.Proofs.Text.Run

/-!
# Spellings of library names

A template may write a component as `VListItem`, `vListItem` or `v-list-item`, and may mix these
spellings.  The built-in matchers look at a name only through its kebab-case and its registered
spelling, and both are the same for all of them.

A block for the library is known from the set of its keys: its imports are sorted, and each key has
one statement.

Main results:

- Definition `IsSpelling` lists the spellings of a name, and definition `AreUses` says which names
  of a template use given components.
- Theorem `block?_eq_of_same_imports` says that a block of the library depends on the set of its
  imports only.
- Theorem `block?_of_spellings` says that the spellings do not matter to the block.
-/

namespace TemplateImports

open Casing Text

/-! ## Spellings -/

/-- A name as it is registered for a category: icons start in lower case, all others in upper
case. -/
def IsRegisteredName : Category → String → Prop
  | .tag, name => IsPascalName name
  | .directive, name => IsPascalName name
  | .icon, name => IsCamelName name

/-- The spellings under which a template may use a registered name. -/
inductive IsSpelling (c : Category) (name : String) : String → Prop where
  | registered : IsSpelling c name name
  | kebab : IsSpelling c name (hyphenate name)
  | lowered (h : c ≠ .icon) : IsSpelling c name (lowerFirst name)

/-- Names of a template that use the given registered names, each in at least one spelling, and
nothing else. -/
structure AreUses (c : Category) (names uses : List String) : Prop where
  each_use : ∀ use ∈ uses, ∃ name ∈ names, IsSpelling c name use
  each_name : ∀ name ∈ names, ∃ use ∈ uses, IsSpelling c name use

theorem IsRegisteredName.mem_isAsciiWord {c : Category} {name : String}
    (h : IsRegisteredName c name) : ∀ d ∈ name.toList, isAsciiWord d = true := by
  cases c with
  | tag => exact IsPascalName.mem_isAsciiWord h
  | directive => exact IsPascalName.mem_isAsciiWord h
  | icon => exact IsCamelName.mem_isAsciiWord h

/-- A registered name is in its registered spelling. -/
theorem IsRegisteredName.camelName_eq {c : Category} {name : String}
    (h : IsRegisteredName c name) : c.camelName name = name := by
  have hdash := no_dash_of_mem_isAsciiWord h.mem_isAsciiWord
  cases c with
  | tag => exact IsPascalName.pascalize_eq h
  | directive => exact IsPascalName.pascalize_eq h
  | icon => exact camelize_of_no_dash hdash

/-- Every spelling of a name is registered as the name. -/
theorem IsSpelling.camelName_eq {c : Category} {name use : String} (h : IsRegisteredName c name)
    (hspelling : IsSpelling c name use) : c.camelName use = name := by
  cases hspelling with
  | registered => exact h.camelName_eq
  | kebab =>
    cases c with
    | tag => exact IsPascalName.pascalize_hyphenate h
    | directive => exact IsPascalName.pascalize_hyphenate h
    | icon => exact IsCamelName.camelize_hyphenate h
  | lowered hc =>
    cases c with
    | tag => exact IsPascalName.pascalize_lowerFirst h
    | directive => exact IsPascalName.pascalize_lowerFirst h
    | icon => exact absurd rfl hc

/-- Every spelling of a name has the same kebab case. -/
theorem IsSpelling.hyphenate_eq {c : Category} {name use : String} (h : IsRegisteredName c name)
    (hspelling : IsSpelling c name use) : hyphenate use = hyphenate name := by
  have hwords := h.mem_isAsciiWord
  cases hspelling with
  | registered => rfl
  | kebab => exact hyphenate_hyphenate fun d hd => toNat_lt_of_isAsciiWord (hwords d hd)
  | lowered hc =>
    cases hname : name.toList with
    | nil => simp [lowerFirst, lowerFirstChars, hyphenate, hname, hyphenateAfter]
    | cons d ds => exact hyphenate_lowerFirst hname (hwords d (by simp [hname]))

/-! ## Answers of the library -/

/-- The built-in matchers look at the kebab-case and the registered spelling of a name only. -/
theorem Library.matcher_congr (library : Library) {c : Category} {u v : NameUse}
    (hkebab : u.kebab = v.kebab) (hcamel : u.camel = v.camel) :
    library.matcher c u = library.matcher c v := by
  cases c <;>
    simp [Library.matcher, Library.ownsTag, Library.ownsDirective, Library.ownsIcon, hkebab, hcamel]

/-- The module that a category is imported from. -/
def Library.moduleOf (library : Library) : Category → String
  | .tag => library.componentsModule
  | .directive => library.directivesModule
  | .icon => library.iconsModule

/-- A built-in matcher answers with the import of a name in its registered spelling. -/
theorem Library.eq_namedImport_of_matcher {library : Library} {c : Category} {u : NameUse}
    {answer : Import} (h : library.matcher c u = some answer) :
    answer = Library.namedImport answer.key (library.moduleOf c) := by
  cases c <;>
    simp only [Library.matcher, Option.ite_none_right_eq_some, Option.some.injEq] at h <;>
    simp [← h.2, Library.namedImport, Library.moduleOf]

/-- The statement of a named import shows its name. -/
theorem Library.statement_namedImport_inj {name name' moduleName : String}
    (h : (Library.namedImport name moduleName).statement =
      (Library.namedImport name' moduleName).statement) : name = name' := by
  simpa [Library.namedImport, ← String.toList_inj] using h

/-- The imports that the built-in matcher finds for names. -/
abbrev libraryImports (library : Library) (c : Category) (path : String) (component : Component)
    (names : List String) : List Import :=
  resolve [library.matcher c] ⟨c, path, component⟩ names

variable {library : Library} {c : Category}

theorem mem_libraryImports_iff {path : String} {component : Component} {names : List String}
    {i : Import} :
    i ∈ libraryImports library c path component names ↔
      ∃ name ∈ names, library.matcher c ⟨c, name, path, component⟩ = some i := by
  simp [mem_resolve_iff, Site.use]

/-! ## Blocks of the library -/

/-- Which imports are in front in a block of the library can be seen from their statements. -/
theorem exists_le_of_firstBefore {imports : List Import} {moduleName : String}
    (hnamed : ∀ i ∈ imports, i = Library.namedImport i.key moduleName)
    (hsorted : imports.Pairwise fun i j => i.key ≤ j.key) {s t : String}
    (h : FirstBefore (imports.map Import.statement) s t) :
    ∃ m n, s = (Library.namedImport m moduleName).statement ∧
      t = (Library.namedImport n moduleName).statement ∧ m ≤ n := by
  obtain ⟨front, back, hcut, -, hmem⟩ := h
  obtain ⟨first, later, rfl, hfirst, hlater⟩ := List.map_eq_append_iff.1 hcut
  obtain ⟨j, rest, rfl, rfl, -⟩ := List.map_eq_cons_iff.1 hlater
  rw [← hfirst, List.mem_map] at hmem
  obtain ⟨i, hi, rfl⟩ := hmem
  have hle := (List.pairwise_append.1 hsorted).2.2 i hi j (by simp)
  refine ⟨i.key, j.key, ?_, ?_, hle⟩
  · exact congrArg Import.statement (hnamed i (by simp [hi]))
  · exact congrArg Import.statement (hnamed j (by simp))

/-- A block of the library depends on the set of its imports only. -/
theorem block?_eq_of_same_imports (g : Generator) {moduleName : String}
    {imports imports' : List Import}
    (hnamed : ∀ i ∈ imports, i = Library.namedImport i.key moduleName)
    (hsorted : imports.Pairwise fun i j => i.key ≤ j.key)
    (hsorted' : imports'.Pairwise fun i j => i.key ≤ j.key)
    (hsame : ∀ i, i ∈ imports ↔ i ∈ imports') :
    g.block? c imports = g.block? c imports' := by
  have hnamed' : ∀ i ∈ imports', i = Library.namedImport i.key moduleName :=
    fun i hi => hnamed i ((hsame i).2 hi)
  have hempty : imports = [] ↔ imports' = [] := by
    simp [List.eq_nil_iff_forall_not_mem, hsame]
  by_cases hnil : imports = []
  · rw [hnil, hempty.1 hnil]
  · have hnil' : imports' ≠ [] := fun h => hnil (hempty.2 h)
    have hkeys : registeredKeys imports = registeredKeys imports' := by
      refine List.Perm.eq_of_pairwise ?_ (pairwise_registeredKeys hsorted)
        (pairwise_registeredKeys hsorted') ?_
      · intro a b _ _ hab hba
        exact absurd hba (String.lt_asymm hab)
      · rw [List.perm_ext_iff_of_nodup (nodup_registeredKeys _) (nodup_registeredKeys _)]
        simp [mem_registeredKeys, hsame]
    have hstatements : statements imports = statements imports' := by
      have hfirst := keepsFirst_statements imports
      have hfirst' := keepsFirst_statements imports'
      refine List.Perm.eq_of_pairwise ?_
        (hfirst.ordered.imp (exists_le_of_firstBefore hnamed hsorted))
        (hfirst'.ordered.imp (exists_le_of_firstBefore hnamed' hsorted')) ?_
      · rintro s t _ _ ⟨m, n, rfl, rfl, hmn⟩ ⟨n', m', hn, hm, hnm⟩
        obtain rfl := Library.statement_namedImport_inj hn
        obtain rfl := Library.statement_namedImport_inj hm
        rw [String.le_antisymm hmn hnm]
      · rw [List.perm_ext_iff_of_nodup hfirst.nodup hfirst'.nodup]
        simp [hfirst.mem_iff, hfirst'.mem_iff, hsame]
    rw [g.block?_of_ne_nil c hnil, g.block?_of_ne_nil c hnil', hkeys, hstatements]

/-! ## Two templates with the same names -/

/-- The built-in matcher finds for the uses of names what it finds for the names themselves. -/
theorem mem_libraryImports_of_areUses (library : Library) {names uses : List String}
    (hnames : ∀ name ∈ names, IsRegisteredName c name) (huses : AreUses c names uses)
    (path path' : String) (component component' : Component) (i : Import) :
    i ∈ libraryImports library c path component (insertNames [] uses) ↔
      i ∈ libraryImports library c path' component' names := by
  have hanswer : ∀ {name use : String}, name ∈ names → IsSpelling c name use →
      library.matcher c ⟨c, use, path, component⟩ =
        library.matcher c ⟨c, name, path', component'⟩ := by
    intro name use hname hspelling
    have hregistered := hnames name hname
    exact library.matcher_congr (hspelling.hyphenate_eq hregistered)
      ((hspelling.camelName_eq hregistered).trans hregistered.camelName_eq.symm)
  rw [mem_libraryImports_iff, mem_libraryImports_iff]
  simp only [(keepsFirst_insertNames uses).mem_iff]
  constructor
  · rintro ⟨use, huse, hi⟩
    obtain ⟨name, hname, hspelling⟩ := huses.each_use use huse
    exact ⟨name, hname, (hanswer hname hspelling).symm.trans hi⟩
  · rintro ⟨name, hname, hi⟩
    obtain ⟨use, huse, hspelling⟩ := huses.each_name name hname
    exact ⟨use, huse, (hanswer hname hspelling).trans hi⟩

/-- Two templates that use the same names of the library, in whatever spellings, in whatever order and
however often, get the same block, or both get none. -/
theorem block?_of_spellings (g : Generator) (library : Library) (c : Category)
    {names uses uses' : List String} (hnames : ∀ name ∈ names, IsRegisteredName c name)
    (huses : AreUses c names uses) (huses' : AreUses c names uses')
    (path path' : String) (component component' : Component) :
    g.block? c (resolve [library.matcher c] ⟨c, path, component⟩ (insertNames [] uses)) =
      g.block? c (resolve [library.matcher c] ⟨c, path', component'⟩ (insertNames [] uses')) := by
  have hnamed : ∀ i ∈ libraryImports library c path component (insertNames [] uses),
      i = Library.namedImport i.key (library.moduleOf c) := by
    intro i hi
    obtain ⟨name, -, hanswer⟩ := mem_libraryImports_iff.1 hi
    exact Library.eq_namedImport_of_matcher hanswer
  have hmem := mem_libraryImports_of_areUses library hnames huses path path
    component component
  have hmem' := mem_libraryImports_of_areUses library hnames huses' path' path
    component' component
  exact block?_eq_of_same_imports g hnamed (resolve_pairwise _ _ _) (resolve_pairwise _ _ _)
    fun i => (hmem i).trans (hmem' i).symm

/-- Two components under all their spellings, one of them with runs of capitals, digits and
underscores. -/
theorem block?_of_spellings_mixed :
    Generator.block? {} .tag (resolve [Library.matcher {} .tag] ⟨.tag, "App.vue", {}⟩
        (insertNames [] ["v-btn", "VBtn", "vV2_Px", "VBtn", "v-v2_-px"])) =
      Generator.block? {} .tag (resolve [Library.matcher {} .tag] ⟨.tag, "Home.vue", {}⟩
        (insertNames [] ["VV2_Px", "vBtn"])) := by
  have hpascal : ∀ name ∈ ["VBtn", "VV2_Px"], IsRegisteredName .tag name := by
    simp only [List.forall_mem_cons]
    exact ⟨⟨'V', ['B', 't', 'n'], by decide_cbv, by decide, by decide_cbv⟩,
      ⟨'V', ['V', '2', '_', 'P', 'x'], by decide_cbv, by decide, by decide_cbv⟩, by simp⟩
  have hkebab : IsSpelling .tag "VBtn" "v-btn" := by
    have h : hyphenate "VBtn" = "v-btn" := by decide_cbv
    exact h ▸ .kebab
  have hkebab' : IsSpelling .tag "VV2_Px" "v-v2_-px" := by
    have h : hyphenate "VV2_Px" = "v-v2_-px" := by decide_cbv
    exact h ▸ .kebab
  have hlowered : IsSpelling .tag "VBtn" "vBtn" := by
    have h : lowerFirst "VBtn" = "vBtn" := by decide_cbv
    exact h ▸ .lowered (by decide)
  have hlowered' : IsSpelling .tag "VV2_Px" "vV2_Px" := by
    have h : lowerFirst "VV2_Px" = "vV2_Px" := by decide_cbv
    exact h ▸ .lowered (by decide)
  refine block?_of_spellings {} {} .tag hpascal ⟨?_, ?_⟩ ⟨?_, ?_⟩ "App.vue" "Home.vue" {} {}
  · simp only [List.forall_mem_cons]
    exact ⟨⟨_, by simp, hkebab⟩, ⟨_, by simp, .registered⟩, ⟨_, by simp, hlowered'⟩,
      ⟨_, by simp, .registered⟩, ⟨_, by simp, hkebab'⟩, by simp⟩
  · simp only [List.forall_mem_cons]
    exact ⟨⟨_, by simp, hkebab⟩, ⟨_, by simp, hlowered'⟩, by simp⟩
  · simp only [List.forall_mem_cons]
    exact ⟨⟨_, by simp, .registered⟩, ⟨_, by simp, hlowered⟩, by simp⟩
  · simp only [List.forall_mem_cons]
    exact ⟨⟨_, by simp, hlowered⟩, ⟨_, by simp, .registered⟩, by simp⟩

end TemplateImports
