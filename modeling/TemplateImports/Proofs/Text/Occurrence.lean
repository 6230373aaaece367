import TemplateImports.Text.Offset
import TemplateImports.Text.Split
import Mathlib

/-!
# First occurrences

A search for a part of a text stops at the first place where the rest of the text starts with the
part.  This module says what such a place is without a search, and what can be concluded about parts
that avoid a character.

Main results:

- Structure `OccursFirst` is the border in front of a first occurrence.
- Theorem `offsetOf?_eq_some_iff` says that the search finds exactly that border; theorem
  `offsetOf?_eq_none_iff` says when it finds nothing.
- Theorem `infix_of_infix_append_cons` says that a part without some character occurs on one side of
  every such character.
-/

namespace TemplateImports.Text

/-! ## The border in front of a first occurrence -/

/-- A part occurs where one text ends and another one starts, and nowhere before. -/
structure OccursFirst (part before after : List Char) : Prop where
  occurs : part <+: after
  first : ∀ early late, before = early ++ late → late ≠ [] → ¬ part <+: late ++ after

theorem occursFirst_nil {part after : List Char} (h : part <+: after) :
    OccursFirst part [] after := by
  refine ⟨h, ?_⟩
  intro early late hcut hlate
  simp only [List.nil_eq, List.append_eq_nil_iff] at hcut
  exact absurd hcut.2 hlate

/-- The border moves along with a character in front of it, unless the part occurs there. -/
theorem occursFirst_cons_iff {part before after : List Char} {c : Char} :
    OccursFirst part (c :: before) after ↔
      ¬ part <+: c :: (before ++ after) ∧ OccursFirst part before after := by
  constructor
  · intro h
    refine ⟨h.first [] (c :: before) rfl (by simp), h.occurs, ?_⟩
    intro early late hcut hlate
    exact h.first (c :: early) late (by simp [hcut]) hlate
  · rintro ⟨hc, h⟩
    refine ⟨h.occurs, ?_⟩
    intro early late hcut hlate
    cases early with
    | nil =>
      rw [List.nil_append] at hcut
      rw [← hcut]
      exact hc
    | cons d early =>
      simp only [List.cons_append, List.cons.injEq] at hcut
      exact h.first early late hcut.2 hlate

/-- A first occurrence has only one border. -/
theorem OccursFirst.unique {part before after before' after' : List Char}
    (h : OccursFirst part before after) (h' : OccursFirst part before' after')
    (heq : before ++ after = before' ++ after') : before = before' ∧ after = after' := by
  induction before generalizing before' with
  | nil =>
    cases before' with
    | nil => exact ⟨rfl, by simpa using heq⟩
    | cons c before' =>
      exfalso
      apply h'.first [] (c :: before') rfl (by simp)
      rw [← heq]
      exact h.occurs
  | cons c before ih =>
    cases before' with
    | nil =>
      exfalso
      apply h.first [] (c :: before) rfl (by simp)
      rw [heq]
      exact h'.occurs
    | cons d before' =>
      simp only [List.cons_append, List.cons.injEq] at heq
      obtain ⟨rfl, heq⟩ := heq
      obtain ⟨rfl, rfl⟩ := ih (occursFirst_cons_iff.1 h).2 (occursFirst_cons_iff.1 h').2 heq
      exact ⟨rfl, rfl⟩

/-! ## The search -/

theorem offsetFrom?_eq_some_iff {part cs : List Char} {start n : Nat} :
    offsetFrom? part start cs = some n ↔
      ∃ before after, cs = before ++ after ∧ n = start + byteSize before ∧
        OccursFirst part before after := by
  induction cs generalizing start with
  | nil =>
    unfold offsetFrom?
    constructor
    · intro h
      split at h
      · rename_i hpart
        simp only [List.isEmpty_iff] at hpart
        subst hpart
        exact ⟨[], [], rfl, by simpa [byteSize] using h.symm, occursFirst_nil (List.nil_prefix)⟩
      · simp at h
    · rintro ⟨before, after, hcut, rfl, h⟩
      simp only [List.nil_eq, List.append_eq_nil_iff] at hcut
      obtain ⟨rfl, rfl⟩ := hcut
      have hpart : part = [] := List.prefix_nil.1 h.occurs
      simp [hpart, byteSize]
  | cons c cs ih =>
    unfold offsetFrom?
    split
    · rename_i hp
      have hstart : part <+: c :: cs := List.isPrefixOf_iff_prefix.1 hp
      have hborder := occursFirst_nil hstart
      constructor
      · intro h
        simp only [Option.some.injEq] at h
        exact ⟨[], c :: cs, rfl, by simp [byteSize, h], hborder⟩
      · rintro ⟨before, after, hcut, rfl, h⟩
        obtain ⟨rfl, -⟩ := hborder.unique h (by simpa using hcut)
        simp [byteSize]
    · rename_i hp
      have hstart : ¬ part <+: c :: cs := fun h => hp (List.isPrefixOf_iff_prefix.2 h)
      -- No occurrence starts here, so that an occurrence has this character before it.
      rw [ih]
      constructor
      · rintro ⟨before, after, rfl, rfl, h⟩
        refine ⟨c :: before, after, rfl, ?_, occursFirst_cons_iff.2 ⟨hstart, h⟩⟩
        simp only [byteSize]
        omega
      · rintro ⟨before, after, hcut, rfl, h⟩
        cases before with
        | nil =>
          rw [hcut] at hstart
          exact absurd h.occurs hstart
        | cons d before =>
          simp only [List.cons_append, List.cons.injEq] at hcut
          obtain ⟨rfl, rfl⟩ := hcut
          refine ⟨before, after, rfl, ?_, (occursFirst_cons_iff.1 h).2⟩
          simp only [byteSize]
          omega

/-- The search stops at the border in front of the first occurrence. -/
theorem offsetOf?_eq_some_iff {part cs : List Char} {n : Nat} :
    offsetOf? part cs = some n ↔
      ∃ before after, cs = before ++ after ∧ n = byteSize before ∧
        OccursFirst part before after := by
  simp [offsetOf?, offsetFrom?_eq_some_iff]

/-- The search fails exactly when the part does not occur. -/
theorem offsetOf?_eq_none_iff {part cs : List Char} :
    offsetOf? part cs = none ↔ ¬ part <:+: cs := by
  suffices h : ∀ start, offsetFrom? part start cs = none ↔ ¬ part <:+: cs from h 0
  induction cs with
  | nil => simp [offsetFrom?]
  | cons c cs ih =>
    intro start
    unfold offsetFrom?
    rw [List.infix_cons_iff, not_or]
    split
    · rename_i hp
      simp [List.isPrefixOf_iff_prefix.1 hp]
    · rename_i hp
      have hstart : ¬ part <+: c :: cs := fun h => hp (List.isPrefixOf_iff_prefix.2 h)
      rw [ih]
      simp [hstart]

theorem hasInfix_iff_isInfix {part cs : List Char} : hasInfix part cs = true ↔ part <:+: cs := by
  rw [hasInfix_iff]
  exact exists_congr fun _ => exists_congr fun _ => eq_comm

/-! ## Parts that avoid a character -/

/-- A part without some character that starts a text ends before that character. -/
theorem prefix_of_prefix_append_cons {part : List Char} {c : Char} (hc : c ∉ part)
    (before after : List Char) (h : part <+: before ++ c :: after) : part <+: before := by
  rcases List.prefix_or_prefix_of_prefix h (List.prefix_append before (c :: after)) with hp | hp
  · exact hp
  · obtain ⟨rest, rfl⟩ := hp
    rw [List.prefix_append_right_inj] at h
    cases rest with
    | nil => simp
    | cons d rest =>
      rw [List.cons_prefix_cons] at h
      simp [h.1] at hc

/-- A part without some character occurs on one side of every such character. -/
theorem infix_of_infix_append_cons {part : List Char} {c : Char} (hc : c ∉ part)
    (before after : List Char) (h : part <:+: before ++ c :: after) :
    part <:+: before ∨ part <:+: after := by
  induction before with
  | nil =>
    rcases List.infix_cons_iff.1 h with h | h
    · exact Or.inl (prefix_of_prefix_append_cons hc [] after h).isInfix
    · exact Or.inr h
  | cons d before ih =>
    rcases List.infix_cons_iff.1 h with h | h
    · exact Or.inl (prefix_of_prefix_append_cons hc (d :: before) after h).isInfix
    · exact (ih h).imp_left List.infix_cons

/-- An occurrence of a part that repeats its first character nowhere cannot start in a text without
the part and end behind it. -/
theorem occursFirst_of_not_infix {c : Char} {part before : List Char} (hc : c ∉ part)
    (h : ¬ c :: part <:+: before) (rest : List Char) :
    OccursFirst (c :: part) before (c :: part ++ rest) := by
  induction before with
  | nil => exact occursFirst_nil (List.prefix_append _ _)
  | cons d before ih =>
    rw [List.infix_cons_iff, not_or] at h
    refine occursFirst_cons_iff.2 ⟨?_, ih h.2⟩
    intro hp
    rw [List.cons_prefix_cons] at hp
    apply h.1
    rw [List.cons_prefix_cons]
    exact ⟨hp.1, prefix_of_prefix_append_cons hc before (part ++ rest) hp.2⟩

end TemplateImports.Text
