/-!
# Escaped code units

The numbers that escapes of quoted texts are made of.  A character past the basic plane can be
written as a pair of escapes, of which each half alone stands for no character.

Main results:

- Definition `hexValue?` is the value of a hexadecimal digit.
- Definition `ofUnits?` is the text that code units stand for.
- Theorem `ofUnits?_map_toNat` says that the numbers of characters stand for them.
-/

namespace TemplateImports.Text

/-- The value of a hexadecimal digit. -/
def hexValue? (c : Char) : Option Nat :=
  if c.isDigit then some (c.toNat - 48)
  else if 'a' ≤ c && c ≤ 'f' then some (c.toNat - 87)
  else if 'A' ≤ c && c ≤ 'F' then some (c.toNat - 55)
  else none

/-! ## Pairs -/

/-- Whether a number is the first half of a pair. -/
def isLeading (n : Nat) : Bool :=
  0xD800 ≤ n && n ≤ 0xDBFF

/-- Whether a number is the second half of a pair. -/
def isTrailing (n : Nat) : Bool :=
  0xDC00 ≤ n && n ≤ 0xDFFF

/-- The character that a pair stands for. -/
def ofPair (first second : Nat) : Char :=
  Char.ofNat (0x10000 + (first - 0xD800) * 0x400 + (second - 0xDC00))

/-- The number of a character is neither half of a pair. -/
theorem not_isLeading_toNat (c : Char) : isLeading c.toNat = false ∧ isTrailing c.toNat = false := by
  have h : c.toNat.isValidChar := c.valid
  simp only [Nat.isValidChar] at h
  simp only [isLeading, isTrailing, Bool.and_eq_false_imp, decide_eq_true_eq, decide_eq_false_iff_not]
  omega

/-! ## Texts -/

/-- The text that code units stand for, unless half of a pair stands alone. -/
def ofUnits? : List Nat → Option (List Char)
  | [] => some []
  | [n] => if isLeading n || isTrailing n then none else some [Char.ofNat n]
  | n :: m :: units =>
    if isLeading n then
      if isTrailing m then (ofUnits? units).map (ofPair n m :: ·) else none
    else if isTrailing n then none
    else (ofUnits? (m :: units)).map (Char.ofNat n :: ·)

/-- The numbers of characters stand for these characters. -/
theorem ofUnits?_map_toNat (cs : List Char) : ofUnits? (cs.map Char.toNat) = some cs := by
  induction cs with
  | nil => rfl
  | cons c cs ih =>
    have hc := not_isLeading_toNat c
    cases cs with
    | nil => simp [ofUnits?, hc]
    | cons d cs =>
      simp only [List.map_cons] at ih
      simp [ofUnits?, hc, ih]

end TemplateImports.Text
