import Mathlib
import TemplateImports.Text.Blank

/-!
# ASCII characters

Names of elements and attributes are written with ASCII characters.  What holds of each of the 128
characters holds of all ASCII characters, so that a fact about a class of names is one computation.

Main results:

- Theorem `forall_ascii` reduces a fact about ASCII characters to a computation.
- Theorem `toNat_lt_of_isAlphanum` says that letters and digits are ASCII characters.
-/

namespace TemplateImports.Text

/-- What holds of the first 128 characters holds of every ASCII character. -/
theorem forall_ascii {p : Char → Bool} (h : (List.range 128).all (fun n => p (Char.ofNat n)) = true)
    {c : Char} (hc : c.toNat < 128) : p c = true := by
  have hn := List.all_eq_true.1 h c.toNat (List.mem_range.2 hc)
  rwa [Char.ofNat_toNat] at hn

/-- Letters and digits are ASCII characters. -/
theorem toNat_lt_of_isAlphanum {c : Char} (h : c.isAlphanum = true) : c.toNat < 128 := by
  simp only [Char.isAlphanum, Char.isAlpha, Char.isUpper, Char.isLower, Char.isDigit,
    Bool.or_eq_true, Bool.and_eq_true, decide_eq_true_eq, UInt32.le_iff_toNat_le, ge_iff_le] at h
  have hval : c.toNat = c.val.toNat := rfl
  have hupper : 'Z'.val.toNat = 90 := rfl
  have hlower : 'z'.val.toNat = 122 := rfl
  have hdigit : '9'.val.toNat = 57 := rfl
  omega

/-- A character that is no capital is its own lower-case form. -/
theorem toLower_of_not_isUpper {c : Char} (h : c.isUpper = false) : c.toLower = c := by
  simp only [Char.isUpper, decide_eq_false_iff_not] at h
  exact dif_neg h

end TemplateImports.Text
