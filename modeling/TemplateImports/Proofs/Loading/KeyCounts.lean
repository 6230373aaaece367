import TemplateImports.Loading.Scan
import TemplateImports.Proofs.Loading.ChainOrder
import TemplateImports.Proofs.Loading.TemplateSource
import TemplateImports.Proofs.Template.DocumentOrder

/-!
# Counting keys

The counts of a scan add up the imports of all components.  A component that spells a name in two
ways, or uses two names that are answered with the same key, has two imports with that key, and both
count.

Main results:

- Theorem `sum_of_mem_keyCounts` says what the count of a key adds up.
- Theorem `count_keys_report` says that a component registers a key once for each of its names that
  is answered with it.
- Theorem `keyCounts_scan` says that a count is at least the number of components with the key, and
  when it is that number.
- Theorem `keyCounts_mixedSpellings` is a component that counts twice.
-/

namespace TemplateImports

open Text

/-! ## Names are used once -/

namespace Usage

/-- The names of each category are distinct. -/
structure Distinct (usage : Usage) : Prop where
  tags : usage.tags.Nodup
  directives : usage.directives.Nodup
  icons : usage.icons.Nodup

theorem Distinct.names {usage : Usage} (h : usage.Distinct) (c : Category) :
    (usage.names c).Nodup := by
  cases c
  · exact h.tags
  · exact h.directives
  · exact h.icons

theorem distinct_empty : ({} : Usage).Distinct :=
  ⟨List.nodup_nil, List.nodup_nil, List.nodup_nil⟩

/-- The names of an element are added once. -/
theorem Distinct.addElement {usage : Usage} (h : usage.Distinct) (tag : String)
    (attributes : List Markup.Attribute) (directives : List Template.Directive) :
    (usage.addElement tag attributes directives).Distinct where
  tags := nodup_insertName h.tags tag
  directives := nodup_insertNames h.directives _
  icons := nodup_insertNames h.icons _

/-- The names of a forest are added once. -/
theorem Distinct.collect {usage : Usage} (h : usage.Distinct) (nodes : List Template.Node) :
    (usage.collect nodes).Distinct :=
  collect_induction h (fun _ e husage => husage.addElement e.tag e.attributes e.directives) nodes

/-- Sorting the names keeps each of them once. -/
theorem Distinct.sorted_perm {usage : Usage} (h : usage.Distinct) (c : Category) :
    (usage.sorted.names c).Perm (usage.names c) := by
  have hperm : (sortDistinct (usage.names c)).Perm (usage.names c) := by
    rw [sortDistinct, eraseDups_eq_self (h.names c)]
    exact sortOn_perm _ _
  cases c <;> exact hperm

end Usage

/-! ## Adding up -/

section

variable {counts : List (String × Nat)} {keys : List String}

theorem getD_lookup_countKey (counts : List (String × Nat)) (key other : String) :
    ((countKey counts key).lookup other).getD 0 =
      (counts.lookup other).getD 0 + [key].count other := by
  rw [countKey, KeyedList.lookup_put]
  by_cases h : other = key
  · subst h
    simp
  · simp [h, Ne.symm h]

/-- The counts grow by the number of times that a key occurs. -/
theorem getD_lookup_foldl_countKey (counts : List (String × Nat)) (keys : List String)
    (key : String) :
    ((keys.foldl countKey counts).lookup key).getD 0 =
      (counts.lookup key).getD 0 + keys.count key := by
  induction keys generalizing counts with
  | nil => rfl
  | cons first keys ih =>
    rw [List.foldl_cons, ih, getD_lookup_countKey, Nat.add_assoc, ← List.count_append]
    rfl

/-- The counts have the keys that occur. -/
theorem mem_keys_foldl_countKey {key : String} :
    key ∈ (keys.foldl countKey counts).map (·.1) ↔ key ∈ counts.map (·.1) ∨ key ∈ keys := by
  induction keys generalizing counts with
  | nil => simp
  | cons first keys ih =>
    have hstep : key ∈ (countKey counts first).map (·.1) ↔
        key ∈ counts.map (·.1) ∨ key = first := by
      rw [countKey, KeyedList.keys_put]
      split
      · rename_i hfirst
        exact ⟨.inl, fun h => h.elim id fun heq => heq ▸ hfirst⟩
      · simp
    rw [List.foldl_cons, ih, hstep, List.mem_cons, or_assoc]

/-- Each key has one count. -/
theorem nodup_keys_foldl_countKey (h : (counts.map (·.1)).Nodup) (keys : List String) :
    ((keys.foldl countKey counts).map (·.1)).Nodup := by
  induction keys generalizing counts with
  | nil => exact h
  | cons first keys ih => exact ih (KeyedList.nodup_keys_put h _ _)

end

/-! ## Keys of reports -/

/-- The keys of a category that a component registers, one for each import; none if it failed. -/
def Report.keys (report : Report) (c : Category) : List String :=
  match report.outcome with
  | .ok a => (a.imports c).map Import.key
  | .error _ => []

/-- The number of components that register a key. -/
def componentsWith (reports : List Report) (c : Category) (key : String) : Nat :=
  reports.countP fun report => (report.keys c).contains key

section

variable {reports : List Report} {c : Category} {key : String}

theorem keyCounts_eq (reports : List Report) (c : Category) :
    keyCounts reports c = (reports.flatMap (·.keys c)).foldl countKey [] :=
  rfl

/-- Each key has one count. -/
theorem nodup_keyCounts (reports : List Report) (c : Category) :
    ((keyCounts reports c).map (·.1)).Nodup := by
  rw [keyCounts_eq]
  exact nodup_keys_foldl_countKey (by simp) _

/-- The keys that are counted are those of the components. -/
theorem mem_keys_keyCounts_iff :
    key ∈ (keyCounts reports c).map (·.1) ↔ ∃ report ∈ reports, key ∈ report.keys c := by
  rw [keyCounts_eq, mem_keys_foldl_countKey]
  simp

/-- The count of a key adds up how often the components register it. -/
theorem sum_of_mem_keyCounts {n : Nat} (h : (key, n) ∈ keyCounts reports c) :
    n = (reports.map fun report => (report.keys c).count key).sum := by
  have hlookup := KeyedList.lookup_of_mem (nodup_keyCounts reports c) h
  have hcount := getD_lookup_foldl_countKey [] (reports.flatMap (·.keys c)) key
  rw [← keyCounts_eq, hlookup, List.count_flatMap] at hcount
  simpa [Function.comp_def] using hcount

/-- The sum is at least the number of components with the key, and more if one of them registers the
key several times. -/
theorem componentsWith_le_sum (reports : List Report) (c : Category) (key : String) :
    componentsWith reports c key ≤ (reports.map fun report => (report.keys c).count key).sum ∧
      ((reports.map fun report => (report.keys c).count key).sum = componentsWith reports c key ↔
        ∀ report ∈ reports, (report.keys c).count key ≤ 1) := by
  induction reports with
  | nil => simp [componentsWith]
  | cons report reports ih =>
    have hcontains : (report.keys c).contains key = true ↔ 0 < (report.keys c).count key := by
      rw [List.contains_iff_mem, List.count_pos_iff]
    have hstep : componentsWith (report :: reports) c key = componentsWith reports c key +
        if (report.keys c).contains key then 1 else 0 := List.countP_cons
    rw [hstep, List.map_cons, List.sum_cons, List.forall_mem_cons, ← ih.2]
    split <;> rename_i h <;> rw [hcontains] at h <;> omega

end

/-! ## Keys of analyses -/

theorem Tracked.exists_of_outcome_bind {α β : Type} {first : Tracked α} {next : α → Tracked β}
    {value : β} (h : (first.bind next).outcome = .ok value) :
    ∃ a, first.outcome = .ok a ∧ (next a).outcome = .ok value := by
  cases hfirst : first.outcome with
  | ok a => exact ⟨a, rfl, by rwa [Tracked.outcome_bind_ok hfirst] at h⟩
  | error failure => simp [Tracked.bind, hfirst] at h

/-- The imports of names have a key as often as names are answered with it. -/
theorem count_keys_resolve (chain : Chain) (site : Site) (names : List String) (key : String) :
    ((resolve chain site names).map Import.key).count key =
      names.countP fun name => (chain.answer? (site.use name)).map Import.key == some key := by
  rw [((resolve_perm chain site names).map Import.key).count_eq, Chain.answers,
    List.map_filterMap, List.count_filterMap]

namespace Loader

variable (loader : Loader)

/-- A component that is analysed has the imports of its names. -/
theorem exists_analysisOf {host : Host} {r : Request} {a : Analysis}
    (h : (loader.analyze host r).outcome = .ok a) :
    ∃ component template, a = loader.analysisOf r.relativePath component template := by
  rw [analyze] at h
  obtain ⟨-, -, h⟩ := Tracked.exists_of_outcome_bind h
  obtain ⟨source, -, h⟩ := Tracked.exists_of_outcome_bind h
  obtain ⟨template, -, h⟩ := Tracked.exists_of_outcome_bind h
  exact ⟨Component.parse source, template, (Except.ok.inj h).symm⟩

/-- An analysis lists each name once, and its imports have a key as often as names are answered with
it. -/
theorem count_keys_analysisOf (path : String) (component : Component) (template : Option String)
    (c : Category) {a : Analysis} (ha : a = loader.analysisOf path component template) :
    (a.usage.names c).Nodup ∧ ∀ key, ((a.imports c).map Import.key).count key =
      (a.usage.names c).countP fun name =>
        ((loader.chains c).answer? ⟨c, name, path, component⟩).map Import.key == some key := by
  have hdistinct : ((template.map Usage.ofTemplate).getD {}).Distinct := by
    cases template with
    | none => exact Usage.distinct_empty
    | some template => exact Usage.distinct_empty.collect _
  have husage : a.usage = ((template.map Usage.ofTemplate).getD {}).sorted := by
    rw [ha]
    rfl
  have himports : a.imports c = resolve (loader.chains c) ⟨c, path, component⟩
      (((template.map Usage.ofTemplate).getD {}).names c) := by
    rw [ha]
    cases c <;> rfl
  have hperm := hdistinct.sorted_perm c
  rw [husage, himports]
  refine ⟨hperm.nodup_iff.2 (hdistinct.names c), fun key => ?_⟩
  rw [count_keys_resolve, hperm.countP_eq]
  rfl

variable {tree : FileTree} {root : Path} {report : Report} {a : Analysis}

/-- A component registers a key once for each of its names that is answered with it. -/
theorem count_keys_report (hreport : report ∈ scan loader tree root)
    (ha : report.analysis? = some a) (c : Category) :
    ∃ component, (a.usage.names c).Nodup ∧ ∀ key, (report.keys c).count key =
      (a.usage.names c).countP fun name =>
        ((loader.chains c).answer? ⟨c, name, report.path, component⟩).map Import.key ==
          some key := by
  unfold scan at hreport
  split at hreport
  · rw [(sortOn_perm _ _).mem_iff, List.mem_map] at hreport
    obtain ⟨p, -, rfl⟩ := hreport
    cases houtcome : (loader.report ⟨tree, some root⟩ root p).outcome with
    | error failure => simp [Report.analysis?, houtcome, Except.toOption] at ha
    | ok analysis =>
      obtain rfl : analysis = a := by
        simpa [Report.analysis?, houtcome, Except.toOption] using ha
      obtain ⟨component, template, hanalysis⟩ := loader.exists_analysisOf houtcome
      obtain ⟨hnodup, hcount⟩ := loader.count_keys_analysisOf _ component template c hanalysis
      refine ⟨component, hnodup, fun key => ?_⟩
      rw [Report.keys, houtcome]
      exact hcount key
  · simp at hreport

/-- The counts of a scan have the keys that the components register, each of them once.  A count
adds up, over all components, how many of the distinct names of a component are answered with the
key.  It is at least the number of components with the key, and it is that number exactly if no
component has two names that are answered with the key. -/
theorem keyCounts_scan (tree : FileTree) (root : Path) (c : Category) :
    ((keyCounts (scan loader tree root) c).map (·.1)).Nodup ∧
    (∀ key, key ∈ (keyCounts (scan loader tree root) c).map (·.1) ↔
      ∃ report ∈ scan loader tree root, key ∈ report.keys c) ∧
    (∀ key n, (key, n) ∈ keyCounts (scan loader tree root) c →
      n = ((scan loader tree root).map fun report => (report.keys c).count key).sum ∧
      componentsWith (scan loader tree root) c key ≤ n ∧
      (n = componentsWith (scan loader tree root) c key ↔
        ∀ report ∈ scan loader tree root, (report.keys c).count key ≤ 1)) ∧
    ∀ report ∈ scan loader tree root, ∀ a, report.analysis? = some a →
      ∃ component, (a.usage.names c).Nodup ∧ ∀ key, (report.keys c).count key =
        (a.usage.names c).countP fun name =>
          ((loader.chains c).answer? ⟨c, name, report.path, component⟩).map Import.key ==
            some key := by
  refine ⟨nodup_keyCounts _ c, fun key => mem_keys_keyCounts_iff, ?_, ?_⟩
  · intro key n hcount
    obtain rfl := sum_of_mem_keyCounts hcount
    obtain ⟨hle, hequal⟩ := componentsWith_le_sum (scan loader tree root) c key
    exact ⟨rfl, hle, hequal⟩
  · intro report hreport a ha
    exact loader.count_keys_report hreport ha c

/-! ## A component with two spellings -/

/-- A component that uses a button in both spellings. -/
def mixedSpellings : Workspace :=
  [("a.vue", .file (some "<template><v-btn></v-btn><VBtn></VBtn></template>"))]

/-- Both spellings are answered with the same import. -/
theorem answer?_mixedSpellings (path : String) (component : Component) :
    ∀ name ∈ ["v-btn", "VBtn"],
      ((declared {}).chains .tag).answer? ⟨.tag, name, path, component⟩ =
        some (Library.namedImport "VBtn" "vuetify/lib") := by
  have howns : ∀ name ∈ ["v-btn", "VBtn"], Casing.pascalize name = "VBtn" ∧
      ({} : Library).ownsTag ⟨.tag, name, "", {}⟩ = true := by
    decide +kernel
  intro name hname
  obtain ⟨hspelling, howned⟩ := howns name hname
  have hmatcher : Library.matcher {} .tag ⟨.tag, name, path, component⟩ =
      some (Library.namedImport (Casing.pascalize name) "vuetify/lib") := if_pos howned
  have hchain : (declared {}).chains .tag = [Library.matcher {} .tag] := rfl
  rw [hchain, Chain.answer?_cons, Chain.answer?_nil, Option.or_none, hmatcher, hspelling]

theorem keys_resolve_mixedSpellings (path : String) (component : Component) :
    (resolve ((declared {}).chains .tag) ⟨.tag, path, component⟩ ["v-btn", "VBtn"]).map Import.key =
      ["VBtn", "VBtn"] := by
  have hdashed := answer?_mixedSpellings path component "v-btn" (by simp)
  have hpascal := answer?_mixedSpellings path component "VBtn" (by simp)
  have hanswers : ((declared {}).chains .tag).answers ⟨.tag, path, component⟩ ["v-btn", "VBtn"] =
      [Library.namedImport "VBtn" "vuetify/lib", Library.namedImport "VBtn" "vuetify/lib"] := by
    simp only [Chain.answers, Site.use, List.filterMap_cons, List.filterMap_nil, hdashed, hpascal]
  have hperm := (resolve_perm ((declared {}).chains .tag) ⟨.tag, path, component⟩
    ["v-btn", "VBtn"]).map Import.key
  rw [hanswers] at hperm
  exact (List.perm_replicate (n := 2)).1 hperm

/-- The report on the component registers the button twice. -/
theorem keys_report_mixedSpellings :
    ((declared {}).report ⟨mixedSpellings, some ⟨"."⟩⟩ ⟨"."⟩ ⟨"./a.vue"⟩).keys .tag =
      ["VBtn", "VBtn"] := by
  have hblock :
      (Component.parse "<template><v-btn></v-btn><VBtn></VBtn></template>").template =
        some ⟨"template", "<v-btn></v-btn><VBtn></VBtn>", []⟩ := by decide +kernel
  have husage : (Usage.ofTemplate "<v-btn></v-btn><VBtn></VBtn>").tags = ["v-btn", "VBtn"] := by
    decide +kernel
  have hread : Host.read ⟨mixedSpellings, some ⟨"."⟩⟩ ⟨"./a.vue"⟩ =
      .ok "<template><v-btn></v-btn><VBtn></VBtn></template>" := rfl
  have houtcome : ((declared {}).analyze ⟨mixedSpellings, some ⟨"."⟩⟩
      { path := ⟨"./a.vue"⟩, root := ⟨"."⟩ }).outcome = .ok _ :=
    outcome_analyze_of_template hread hblock (outcome_content_of_no_src rfl)
  have hkeys : ∀ path component, (((declared {}).analysisOf path component
      (some "<v-btn></v-btn><VBtn></VBtn>")).imports .tag).map Import.key = ["VBtn", "VBtn"] := by
    intro path component
    rw [← keys_resolve_mixedSpellings path component, ← husage]
    rfl
  simp only [Report.keys, report, houtcome]
  exact hkeys _ _

/-- The loader of the default settings counts the button twice in one component. -/
theorem keyCounts_mixedSpellings :
    ofSettings {} = .ok (declared {}) ∧
      (scan (declared {}) mixedSpellings ⟨"."⟩).length = 1 ∧
      componentsWith (scan (declared {}) mixedSpellings ⟨"."⟩) .tag "VBtn" = 1 ∧
      keyCounts (scan (declared {}) mixedSpellings ⟨"."⟩) .tag = [("VBtn", 2)] := by
  have hscan : scan (declared {}) mixedSpellings ⟨"."⟩ =
      [(declared {}).report ⟨mixedSpellings, some ⟨"."⟩⟩ ⟨"."⟩ ⟨"./a.vue"⟩] :=
    List.perm_singleton.1 (sortOn_perm _ _)
  have hkeys := keys_report_mixedSpellings
  refine ⟨by rw [ofSettings_eq]; rfl, by rw [hscan]; rfl, ?_, ?_⟩
  · rw [hscan, componentsWith, List.countP_singleton, hkeys]
    decide
  · rw [hscan, keyCounts_eq, List.flatMap_singleton, hkeys]
    decide

end Loader

end TemplateImports
