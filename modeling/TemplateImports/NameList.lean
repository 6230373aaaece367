/-!
# Lists of distinct names

Names in the order in which they were first added.

Main results:

- Definition `insertName` adds a name behind the others, unless it is there.
- Theorems `mem_insertName` and `nodup_insertName` say what a list holds after that.
- Theorem `insertNames_nil` says that names that are added to nothing lose their later repeats.
-/

namespace TemplateImports

/-- Adds a name behind the others, unless it is there. -/
def insertName (names : List String) (name : String) : List String :=
  if names.contains name then names else names ++ [name]

/-- Adds names one after the other. -/
def insertNames (names added : List String) : List String :=
  added.foldl insertName names

/-- Adding a name adds just this name. -/
theorem mem_insertName {names : List String} {name other : String} :
    other ∈ insertName names name ↔ other ∈ names ∨ other = name := by
  unfold insertName
  split
  · rename_i h
    simp only [List.contains_iff_mem] at h
    constructor
    · exact Or.inl
    · rintro (h' | rfl)
      · exact h'
      · exact h
  · simp

/-- Adding names adds just these names. -/
theorem mem_insertNames {names added : List String} {other : String} :
    other ∈ insertNames names added ↔ other ∈ names ∨ other ∈ added := by
  unfold insertNames
  induction added generalizing names with
  | nil => simp
  | cons name added ih => simp [ih, mem_insertName, or_assoc]

/-- No name is kept twice. -/
theorem nodup_insertName {names : List String} (h : names.Nodup) (name : String) :
    (insertName names name).Nodup := by
  unfold insertName
  split
  · exact h
  · rename_i hc
    simp only [List.contains_iff_mem] at hc
    rw [List.nodup_append]
    refine ⟨h, by simp, ?_⟩
    rintro a ha b hb rfl
    simp only [List.mem_singleton] at hb
    exact hc (hb ▸ ha)

/-- Names that are added one after the other are kept once. -/
theorem nodup_insertNames {names : List String} (h : names.Nodup) (added : List String) :
    (insertNames names added).Nodup := by
  unfold insertNames
  induction added generalizing names with
  | nil => exact h
  | cons name added ih => exact ih (nodup_insertName h name)

/-- Names may be added in groups. -/
theorem insertNames_append (names first second : List String) :
    insertNames names (first ++ second) = insertNames (insertNames names first) second :=
  List.foldl_append

/-- Behind names without repeats, a name is added like a repeat that is removed. -/
theorem insertName_eraseDups (names : List String) (name : String) :
    insertName names.eraseDups name = (names ++ [name]).eraseDups := by
  rw [List.eraseDups_append]
  by_cases h : name ∈ names
  · have hnone : [name].removeAll names = [] := by simp [List.removeAll, h]
    rw [insertName, if_pos (by simpa [List.mem_eraseDups] using h), hnone, List.eraseDups_nil,
      List.append_nil]
  · have hone : [name].removeAll names = [name] := by simp [List.removeAll, h]
    rw [insertName, if_neg (by simpa [List.mem_eraseDups] using h), hone, List.eraseDups_cons]
    rfl

/-- Names that are added to those of a list lose the repeats of the list and their own later
repeats. -/
theorem insertNames_eraseDups (names added : List String) :
    insertNames names.eraseDups added = (names ++ added).eraseDups := by
  induction added generalizing names with
  | nil => rw [List.append_nil]; rfl
  | cons name added ih =>
    rw [insertNames, List.foldl_cons, insertName_eraseDups, ← insertNames, ih, List.append_assoc]
    rfl

/-- Names that are added to nothing lose their later repeats. -/
theorem insertNames_nil (added : List String) : insertNames [] added = added.eraseDups :=
  insertNames_eraseDups [] added

end TemplateImports
