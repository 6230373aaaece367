import TemplateImports.Proofs.Registration.CommentSentinel

/-!
# The names that a block declares

The lines of a block that import something declare the helper and what the statements of the imports
declare.  Keys are registered once each, but statements are dropped only if they repeat another one
character by character.  So two answers with one key declare it twice, unless they have one
statement as well.

Main results:

- Definition `Generator.importLines` lists the lines of a block that import something.
- Definition `Script.declaredNames?` lists the names that lines declare.
- Theorem `declaredNames?_importLines` says what the import lines of a block declare.
- Theorem `nodup_declaredNames_iff` says when no name is declared twice.
-/

namespace TemplateImports

namespace Script

/-- The names that the imports of a statement declare; there are none if it is no script. -/
def boundNames (statement : String) : List String :=
  (importedNames? statement).getD []

/-- The names that the imports of lines declare, unless one of the lines is no script. -/
def declaredNames? (lines : List String) : Option (List String) :=
  (lines.mapM importedNames?).map List.flatten

theorem declaredNames?_of_isSome {lines : List String}
    (h : ∀ line ∈ lines, (importedNames? line).isSome = true) :
    declaredNames? lines = some (lines.flatMap boundNames) := by
  have hmap : lines.mapM importedNames? = some (lines.map boundNames) := by
    induction lines with
    | nil => rfl
    | cons line lines ih =>
      obtain ⟨names, hnames⟩ := Option.isSome_iff_exists.1 (h line (List.mem_cons_self ..))
      simp [boundNames, hnames, ih fun l hl => h l (List.mem_cons_of_mem _ hl)]
  rw [declaredNames?, hmap, Option.map_some, ← List.flatMap_def]

/-- A line by itself declares what it imports. -/
theorem importedNames?_write {line : ScriptLine} (hline : line.WellFormed) {text : String}
    (htext : text.toList = line.write) :
    importedNames? text = some (line.imported.map String.ofList) := by
  have hlines : ∀ l ∈ [line], l.WellFormed := List.forall_mem_singleton.2 hline
  have hread := read?_writeLines hlines
  rw [writeLines, behind, List.append_nil, ← htext] at hread
  rw [importedNames?, hread, Option.map_some, importedNames, List.flatMap_singleton]

end Script

open Script

/-- The statement of an import declares the key, and it declares none of the helpers. -/
structure Import.IsBinding (i : Import) : Prop where
  parses : (importedNames? i.statement).isSome = true
  binds_key : i.key ∈ boundNames i.statement
  binds_no_helper : ∀ c : Category, c.helper ∉ boundNames i.statement

namespace Generator

/-- The lines of a block that import something: that of the helper and the statements. -/
def importLines (g : Generator) (c : Category) (imports : List Import) : List String :=
  g.helperImport c :: statements imports

theorem importedNames?_helperImport (g : Generator) (c : Category) :
    importedNames? (g.helperImport c) = some [c.helper] := by
  have hline : (ScriptLine.defaultImport c.helper.toList ("!" ++ g.helperPaths.path c)).WellFormed :=
    isPlainWord_helper c
  rw [importedNames?_write hline (toList_helperImport g c)]
  simp [ScriptLine.imported]

/-- The import lines of a block declare the helper and the names of the statements. -/
theorem declaredNames?_importLines (g : Generator) (c : Category) {imports : List Import}
    (h : ∀ i ∈ imports, i.IsBinding) :
    declaredNames? (g.importLines c imports) =
      some (c.helper :: (statements imports).flatMap boundNames) := by
  have hhelper := importedNames?_helperImport g c
  have hbound : boundNames (g.helperImport c) = [c.helper] := by
    rw [boundNames, hhelper]
    rfl
  have hparses : ∀ line ∈ g.importLines c imports, (importedNames? line).isSome = true := by
    intro line hline
    rcases List.mem_cons.1 hline with rfl | hline
    · rw [hhelper]
      rfl
    · obtain ⟨i, hi, rfl⟩ := List.mem_map.1 (((keepsFirst_statements imports).mem_iff line).1 hline)
      exact (h i hi).parses
  rw [declaredNames?_of_isSome hparses, importLines, List.flatMap_cons, hbound]
  rfl

/-- Of lines without repeats, no name is declared twice exactly if none of them declares one twice and no
two of them declare a common one. -/
theorem nodup_flatMap_iff {lines : List String} (h : lines.Nodup) (names : String → List String) :
    (lines.flatMap names).Nodup ↔
      (∀ line ∈ lines, (names line).Nodup) ∧
        ∀ line ∈ lines, ∀ other ∈ lines, line ≠ other → (names line).Disjoint (names other) := by
  have hsymm : Std.Symm (Function.onFun List.Disjoint names) := ⟨fun _ _ => List.Disjoint.symm⟩
  rw [List.nodup_flatMap]
  refine and_congr_right fun _ => ⟨fun hdisjoint line hline other hother hne => ?_, fun hall => ?_⟩
  · exact hdisjoint.forall hline hother hne
  · exact h.pairwise_of_forall_ne hall

variable {chain : Chain} {site : Site} {names : List String}

theorem mem_statements_resolve_iff {statement : String} :
    statement ∈ statements (resolve chain site names) ↔
      ∃ i ∈ chain.answers site names, i.statement = statement := by
  rw [(keepsFirst_statements _).mem_iff, List.mem_map]
  simp only [(resolve_perm chain site names).mem_iff]

/-- The names that are declared for the answers of a chain, without that of the helper. -/
theorem nodup_flatMap_statements_iff :
    ((statements (resolve chain site names)).flatMap boundNames).Nodup ↔
      (∀ i ∈ chain.answers site names, (boundNames i.statement).Nodup) ∧
        ∀ i ∈ chain.answers site names, ∀ j ∈ chain.answers site names,
          i.statement ≠ j.statement →
            (boundNames i.statement).Disjoint (boundNames j.statement) := by
  rw [nodup_flatMap_iff (keepsFirst_statements _).nodup]
  simp only [mem_statements_resolve_iff, forall_exists_index, and_imp,
    forall_apply_eq_imp_iff₂]

/-- If each answer's statement declares the key and no helper, then the import lines of the block for the
answers can be read.  They declare no name twice exactly if no statement declares one twice and no two
different statements declare a common one.  If each statement declares just the key, this means that
answers with the same key have the same statement. -/
theorem nodup_declaredNames_iff (g : Generator) (c : Category) (chain : Chain) (site : Site)
    (names : List String)
    (h : ∀ name ∈ names, ∀ i, chain.answer? (site.use name) = some i → i.IsBinding) :
    (resolve chain site names ≠ [] →
      g.block? c (resolve chain site names) =
        some (joinLines (g.marker :: g.importLines c (resolve chain site names) ++
          [registrationCall c (registeredKeys (resolve chain site names))]))) ∧
    ∃ declared, declaredNames? (g.importLines c (resolve chain site names)) = some declared ∧
      (declared.Nodup ↔
        (∀ i ∈ chain.answers site names, (boundNames i.statement).Nodup) ∧
          ∀ i ∈ chain.answers site names, ∀ j ∈ chain.answers site names,
            i.statement ≠ j.statement →
              (boundNames i.statement).Disjoint (boundNames j.statement)) ∧
      ((∀ i ∈ chain.answers site names, boundNames i.statement = [i.key]) →
        (declared.Nodup ↔
          ∀ i ∈ chain.answers site names, ∀ j ∈ chain.answers site names,
            i.key = j.key → i.statement = j.statement)) := by
  have hanswers : ∀ i ∈ chain.answers site names, i.IsBinding := by
    intro i hi
    obtain ⟨name, hname, hanswer⟩ := mem_answers_iff.1 hi
    exact h name hname i hanswer
  have hresolve : ∀ i ∈ resolve chain site names, i.IsBinding :=
    fun i hi => hanswers i ((resolve_perm chain site names).mem_iff.1 hi)
  -- The helper is declared in front of the statements, and none of them binds its name.
  have hhelper : c.helper ∉ (statements (resolve chain site names)).flatMap boundNames := by
    intro hmem
    obtain ⟨statement, hstatement, hmem⟩ := List.mem_flatMap.1 hmem
    obtain ⟨i, hi, rfl⟩ := mem_statements_resolve_iff.1 hstatement
    exact (hanswers i hi).binds_no_helper c hmem
  have hnodup : (c.helper :: (statements (resolve chain site names)).flatMap boundNames).Nodup ↔
      ((statements (resolve chain site names)).flatMap boundNames).Nodup := by
    rw [List.nodup_cons, and_iff_right hhelper]
  refine ⟨fun hne => block?_of_ne_nil g c hne, _, declaredNames?_importLines g c hresolve, ?_, ?_⟩
  · rw [hnodup, nodup_flatMap_statements_iff]
  · intro hkeys
    rw [hnodup, nodup_flatMap_statements_iff]
    constructor
    · rintro ⟨-, hdisjoint⟩ i hi j hj hkey
      by_contra hne
      refine hdisjoint i hi j hj hne (hanswers i hi).binds_key ?_
      rw [hkey]
      exact (hanswers j hj).binds_key
    · intro hsame
      refine ⟨fun i hi => by simp [hkeys i hi], fun i hi j hj hne => ?_⟩
      rw [hkeys i hi, hkeys j hj, List.singleton_disjoint, List.mem_singleton]
      exact fun hkey => hne (hsame i hi j hj hkey)

/-- The import of a module under the name `Icon` declares just that name. -/
theorem importedNames?_icon {statement : String} (moduleName : String)
    (h : statement.toList = (ScriptLine.defaultImport ['I', 'c', 'o', 'n'] moduleName).write) :
    importedNames? statement = some ["Icon"] := by
  have hline : (ScriptLine.defaultImport ['I', 'c', 'o', 'n'] moduleName).WellFormed :=
    isPlainWord_of_isAlpha (by decide) (by decide) (by decide +kernel)
  rw [importedNames?_write hline h]
  rfl

theorem boundNames_of_importedNames? {statement : String} {bound : List String}
    (h : importedNames? statement = some bound) : boundNames statement = bound := by
  rw [boundNames, h]
  rfl

theorem isBinding_icon {statement : String} (h : importedNames? statement = some ["Icon"]) :
    (Import.mk "Icon" statement).IsBinding := by
  refine ⟨by simp [h], by simp [boundNames_of_importedNames? h], fun c => ?_⟩
  rw [boundNames_of_importedNames? h]
  cases c <;> decide

/-- Two names with one key and one statement: the names that are declared are distinct. -/
theorem nodup_declaredNames_iff_same_statement :
    ∃ declared,
      declaredNames? (importLines {} .tag
        (resolve [fun _ => some ⟨"Icon", "import Icon from \"./a\""⟩] ⟨.tag, "App.vue", {}⟩
          ["my-icon", "app-icon"])) = some declared ∧
      declared.Nodup := by
  have hnames : importedNames? "import Icon from \"./a\"" = some ["Icon"] :=
    importedNames?_icon "./a" (by decide +kernel)
  have hbinding : ∀ name ∈ ["my-icon", "app-icon"], ∀ i,
      Chain.answer? [fun _ => some ⟨"Icon", "import Icon from \"./a\""⟩]
        ((Site.mk .tag "App.vue" {}).use name) = some i → i.IsBinding := by
    rintro name - i hi
    cases hi
    exact isBinding_icon hnames
  have hanswers : Chain.answers [fun _ => some ⟨"Icon", "import Icon from \"./a\""⟩]
      ⟨.tag, "App.vue", {}⟩ ["my-icon", "app-icon"] =
      [⟨"Icon", "import Icon from \"./a\""⟩, ⟨"Icon", "import Icon from \"./a\""⟩] := rfl
  obtain ⟨-, declared, hdeclared, -, hkeys⟩ := nodup_declaredNames_iff {} .tag _ _ _ hbinding
  refine ⟨declared, hdeclared, (hkeys ?_).2 ?_⟩
  · simp [hanswers, boundNames_of_importedNames? hnames]
  · simp [hanswers]

/-- Two names with one key and different statements: each statement declares the key and nothing else,
and the block declares it twice. -/
theorem declares_key_twice :
    (∀ name ∈ ["a", "b"], ∀ i,
      Chain.answer? [fun u => some ⟨"Icon", "import Icon from \"./" ++ u.name ++ "\""⟩]
        ((Site.mk .tag "App.vue" {}).use name) = some i →
      i.IsBinding ∧ boundNames i.statement = [i.key]) ∧
    ∃ declared,
      declaredNames? (importLines {} .tag
        (resolve [fun u => some ⟨"Icon", "import Icon from \"./" ++ u.name ++ "\""⟩]
          ⟨.tag, "App.vue", {}⟩ ["a", "b"])) = some declared ∧
      ¬ declared.Nodup := by
  have ha : importedNames? ("import Icon from \"./" ++ "a" ++ "\"") = some ["Icon"] :=
    importedNames?_icon "./a" (by decide +kernel)
  have hb : importedNames? ("import Icon from \"./" ++ "b" ++ "\"") = some ["Icon"] :=
    importedNames?_icon "./b" (by decide +kernel)
  have heach : ∀ name ∈ ["a", "b"], ∀ i,
      Chain.answer? [fun u => some ⟨"Icon", "import Icon from \"./" ++ u.name ++ "\""⟩]
        ((Site.mk .tag "App.vue" {}).use name) = some i →
      i.IsBinding ∧ boundNames i.statement = [i.key] := by
    intro name hname i hi
    obtain rfl | rfl : name = "a" ∨ name = "b" := by simpa using hname
    · cases hi
      exact ⟨isBinding_icon ha, boundNames_of_importedNames? ha⟩
    · cases hi
      exact ⟨isBinding_icon hb, boundNames_of_importedNames? hb⟩
  refine ⟨heach, _, declaredNames?_importLines {} .tag fun i hi => ?_, ?_⟩
  · obtain ⟨name, hname, hanswer⟩ := mem_resolve_iff.1 hi
    exact (heach name hname i hanswer).1
  · intro hnodup
    obtain ⟨-, hdisjoint⟩ := nodup_flatMap_statements_iff.1 (List.nodup_cons.1 hnodup).2
    have hfirst : ⟨"Icon", "import Icon from \"./" ++ "a" ++ "\""⟩ ∈ Chain.answers
        [fun u => some ⟨"Icon", "import Icon from \"./" ++ u.name ++ "\""⟩]
        ⟨.tag, "App.vue", {}⟩ ["a", "b"] :=
      mem_answers_iff.2 ⟨"a", by simp, rfl⟩
    have hsecond : ⟨"Icon", "import Icon from \"./" ++ "b" ++ "\""⟩ ∈ Chain.answers
        [fun u => some ⟨"Icon", "import Icon from \"./" ++ u.name ++ "\""⟩]
        ⟨.tag, "App.vue", {}⟩ ["a", "b"] :=
      mem_answers_iff.2 ⟨"b", by simp, rfl⟩
    have hcommon := hdisjoint _ hfirst _ hsecond (by decide)
    rw [boundNames_of_importedNames? ha, boundNames_of_importedNames? hb] at hcommon
    simp at hcommon

end Generator

end TemplateImports
