/-!
# Cutting texts

Splitting at a separator, and looking for a text inside another one.

Main results:

- Theorem `joinWith_splitOn` says that joining the pieces gives the text back.
- Theorem `hasInfix_iff` reads the search as an existence statement.
-/

namespace TemplateImports.Text

/-! ## Pieces -/

/-- The pieces of a text between separators; there is always at least one. -/
def splitOn (separator : Char) : List Char → List (List Char)
  | [] => [[]]
  | c :: cs =>
    if c == separator then [] :: splitOn separator cs
    else match splitOn separator cs with
      | [] => [[c]]
      | piece :: pieces => (c :: piece) :: pieces

/-- The pieces with separators between them. -/
def joinWith (separator : List Char) : List (List Char) → List Char
  | [] => []
  | [piece] => piece
  | piece :: pieces => piece ++ separator ++ joinWith separator pieces

theorem splitOn_ne_nil (separator : Char) (cs : List Char) : splitOn separator cs ≠ [] := by
  cases cs with
  | nil => simp [splitOn]
  | cons c cs =>
    unfold splitOn
    split
    · simp
    · split <;> simp

/-- Joining the pieces of a text gives the text back. -/
theorem joinWith_splitOn (separator : Char) (cs : List Char) :
    joinWith [separator] (splitOn separator cs) = cs := by
  induction cs with
  | nil => rfl
  | cons c cs ih =>
    unfold splitOn
    have hne := splitOn_ne_nil separator cs
    split
    · rename_i h
      simp only [beq_iff_eq] at h
      subst h
      cases hs : splitOn c cs with
      | nil => exact absurd hs hne
      | cons piece pieces => rw [hs] at ih; simp [joinWith, ih]
    · cases hs : splitOn separator cs with
      | nil => exact absurd hs hne
      | cons piece pieces =>
        rw [hs] at ih
        cases pieces <;> simp_all [joinWith]

/-! ## Search -/

/-- Whether a text occurs inside another one. -/
def hasInfix (part : List Char) : List Char → Bool
  | [] => part.isEmpty
  | c :: cs => part.isPrefixOf (c :: cs) || hasInfix part cs

/-- The search succeeds exactly when the text can be cut around the part. -/
theorem hasInfix_iff {part cs : List Char} :
    hasInfix part cs = true ↔ ∃ before after, cs = before ++ part ++ after := by
  induction cs with
  | nil =>
    simp only [hasInfix, List.isEmpty_iff]
    constructor
    · rintro rfl
      exact ⟨[], [], rfl⟩
    · rintro ⟨before, after, h⟩
      simp_all
  | cons c cs ih =>
    simp only [hasInfix, Bool.or_eq_true, List.isPrefixOf_iff_prefix, ih]
    constructor
    · rintro (⟨after, h⟩ | ⟨before, after, h⟩)
      · exact ⟨[], after, by simp [h]⟩
      · exact ⟨c :: before, after, by simp [h]⟩
    · rintro ⟨before, after, h⟩
      cases before with
      | nil => exact Or.inl ⟨after, by simpa using h.symm⟩
      | cons b before =>
        simp only [List.cons_append, List.cons.injEq] at h
        exact Or.inr ⟨before, after, h.2⟩

end TemplateImports.Text
