import TemplateImports.Text.Split

/-!
# Pieces of texts

What the pieces of a text between separators are, from how the text is written.

Main results:

- Theorem `joinWith_cons` reads a joined text as its first piece and the others behind separators.
- Theorem `splitOn_append_cons` says that the pieces on both sides of a separator are independent.
- Theorem `splitOn_joinWith` says that pieces without separators are those of the text made of them.
-/

namespace TemplateImports.Text

/-- A joined text is its first piece, and then each other piece behind a separator. -/
theorem joinWith_cons (separator piece : List Char) (pieces : List (List Char)) :
    joinWith separator (piece :: pieces) = piece ++ pieces.flatMap (separator ++ ·) := by
  induction pieces generalizing piece with
  | nil => simp [joinWith]
  | cons other pieces ih => simp [joinWith, ih]

/-- A text without the separator is one piece. -/
theorem splitOn_of_not_mem {separator : Char} {cs : List Char} (h : separator ∉ cs) :
    splitOn separator cs = [cs] := by
  induction cs with
  | nil => rfl
  | cons c cs ih =>
    have hc : c ≠ separator := fun he => h (by simp [he])
    have hcs : separator ∉ cs := fun hmem => h (List.mem_cons_of_mem _ hmem)
    simp [splitOn, ih hcs, hc]

/-- The pieces on both sides of a separator are independent of each other. -/
theorem splitOn_append_cons (separator : Char) (front back : List Char) :
    splitOn separator (front ++ separator :: back) =
      splitOn separator front ++ splitOn separator back := by
  induction front with
  | nil => simp [splitOn]
  | cons c front ih =>
    have hne := splitOn_ne_nil separator front
    by_cases hc : c = separator
    · simp [splitOn, hc, ih]
    · obtain ⟨piece, pieces, hpieces⟩ := List.exists_cons_of_ne_nil hne
      simp [splitOn, hc, ih, hpieces]

/-- No separator is left in a piece. -/
theorem not_mem_of_mem_splitOn {separator : Char} {cs piece : List Char}
    (h : piece ∈ splitOn separator cs) : separator ∉ piece := by
  induction cs generalizing piece with
  | nil => simp_all [splitOn]
  | cons c cs ih =>
    obtain ⟨first, pieces, hpieces⟩ := List.exists_cons_of_ne_nil (splitOn_ne_nil separator cs)
    rw [hpieces] at ih
    by_cases hc : c = separator
    · have hmem : piece = [] ∨ piece ∈ first :: pieces := by
        simpa [splitOn, hc, hpieces] using h
      rcases hmem with rfl | hmem
      · simp
      · exact ih hmem
    · have hmem : piece = c :: first ∨ piece ∈ pieces := by
        simpa [splitOn, hc, hpieces] using h
      rcases hmem with rfl | hmem
      · simpa [Ne.symm hc] using ih (List.mem_cons_self ..)
      · exact ih (List.mem_cons_of_mem _ hmem)

/-- Pieces without separators are those of the text made of them. -/
theorem splitOn_joinWith {separator : Char} {pieces : List (List Char)} (hne : pieces ≠ [])
    (h : ∀ piece ∈ pieces, separator ∉ piece) :
    splitOn separator (joinWith [separator] pieces) = pieces := by
  induction pieces with
  | nil => exact absurd rfl hne
  | cons piece pieces ih =>
    have hpiece := splitOn_of_not_mem (h piece (List.mem_cons_self ..))
    cases pieces with
    | nil => exact hpiece
    | cons other pieces =>
      rw [joinWith, List.append_assoc, List.singleton_append, splitOn_append_cons, hpiece,
        ih (by simp) fun p hp => h p (List.mem_cons_of_mem _ hp), List.singleton_append]
      simp

end TemplateImports.Text
