import Mathlib
import TemplateImports.Text.Blank
import TemplateImports.Text.WordChar

/-!
# Runs of characters

Readers take the longest run of characters of a class and go on behind it.  The lemmas here say
what they take when the text is known to be a run followed by a character outside of the class.

Main results:

- Theorems `takeWhile_append_stop` and `dropWhile_append_stop` cut a text behind a run.
- Theorem `isWord_of_isBlank` says that no blank is a word character.
-/

namespace TemplateImports.Text

/-! ## Conditions on the characters of a text

They are decided by going through the text, not through all characters there are.
-/

instance (priority := high) decidableForallChar (cs : List Char) (p : Char → Prop)
    [DecidablePred p] : Decidable (∀ c ∈ cs, p c) :=
  List.decidableBAll p cs

instance (priority := high) decidableForallFirst (first : Option Char) (p : Char → Prop)
    [DecidablePred p] : Decidable (∀ c ∈ first, p c) :=
  decidable_of_iff (first.all fun c => decide (p c)) (by cases first <;> simp)

instance (priority := high) decidableExistsFirst (first : Option Char) (p : Char → Prop)
    [DecidablePred p] : Decidable (∃ c ∈ first, p c) :=
  decidable_of_iff (first.any fun c => decide (p c)) (by cases first <;> simp)

/-! ## Cutting behind a run -/

/-- A class does not go on into a text that is empty or starts with a character outside of it. -/
def Stops (p : Char → Bool) (rest : List Char) : Prop :=
  ∀ c ∈ rest.head?, p c = false

theorem stops_nil (p : Char → Bool) : Stops p [] := by
  simp [Stops]

theorem stops_cons {p : Char → Bool} {c : Char} (h : p c = false) (rest : List Char) :
    Stops p (c :: rest) := by
  simpa [Stops] using h

theorem takeWhile_of_stops {p : Char → Bool} {rest : List Char} (h : Stops p rest) :
    rest.takeWhile p = [] := by
  cases rest with
  | nil => rfl
  | cons c rest => simp [h c rfl]

theorem dropWhile_of_stops {p : Char → Bool} {rest : List Char} (h : Stops p rest) :
    rest.dropWhile p = rest := by
  cases rest with
  | nil => rfl
  | cons c rest => simp [h c rfl]

/-- A run does not go on into a text where its class stops. -/
theorem takeWhile_append_of_stops {p : Char → Bool} {rest : List Char} (h : Stops p rest)
    (cs : List Char) : (cs ++ rest).takeWhile p = cs.takeWhile p := by
  induction cs with
  | nil => exact takeWhile_of_stops h
  | cons c cs ih => cases hc : p c <;> simp [hc, ih]

theorem dropWhile_append_of_stops {p : Char → Bool} {rest : List Char} (h : Stops p rest)
    (cs : List Char) : (cs ++ rest).dropWhile p = cs.dropWhile p ++ rest := by
  induction cs with
  | nil => exact dropWhile_of_stops h
  | cons c cs ih => cases hc : p c <;> simp [hc, ih]

/-- The longest run at the start of a text ends where its class stops. -/
theorem takeWhile_append_stop {p : Char → Bool} {run rest : List Char}
    (hrun : ∀ c ∈ run, p c = true) (hstop : Stops p rest) : (run ++ rest).takeWhile p = run := by
  rw [List.takeWhile_append_of_pos hrun, takeWhile_of_stops hstop, List.append_nil]

/-- What follows the longest run at the start of a text starts where its class stops. -/
theorem dropWhile_append_stop {p : Char → Bool} {run rest : List Char}
    (hrun : ∀ c ∈ run, p c = true) (hstop : Stops p rest) : (run ++ rest).dropWhile p = rest := by
  rw [List.dropWhile_append_of_pos hrun, dropWhile_of_stops hstop]

/-! ## Classes -/

/-- No blank is a word character. -/
theorem isWord_of_isBlank {c : Char} (h : isBlank c = true) : isWord c = false := by
  obtain ⟨r, hr, hlo, hhi⟩ := inRanges_iff.1 h
  suffices hall : ∀ r ∈ blankRanges, ∀ n ∈ List.range' r.1 (r.2 + 1 - r.1),
      isWord (Char.ofNat n) = false by
    have hc := hall r hr c.toNat (by simp only [List.mem_range'_1]; omega)
    rwa [Char.ofNat_toNat] at hc
  decide +kernel

end TemplateImports.Text
