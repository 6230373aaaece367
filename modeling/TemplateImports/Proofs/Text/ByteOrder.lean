import Mathlib

/-!
# The order of bytes

Texts are compared by their code points.  Their bytes in UTF-8 compare in the same way: the encoding
of a character is a beginning of no other one, and it grows with the code point.

Main results:

- Definition `utf8` lists the bytes of a text.
- Theorem `encode_append_lt_encode_append` compares texts at the first character that differs.
- Theorems `lt_iff_utf8_lt` and `le_iff_utf8_le` say that both orders are the same.
-/

namespace TemplateImports.Text

/-- The bytes of a text in UTF-8. -/
def utf8 (s : String) : List UInt8 :=
  s.toUTF8.data.toList

/-- The bytes of a text are those of its characters, one after the other. -/
theorem utf8_eq_flatMap (s : String) : utf8 s = s.toList.flatMap String.utf8EncodeChar := by
  have hbytes : s.toUTF8 = s.toList.utf8Encode := by
    rw [String.toUTF8_eq_toByteArray, ← String.toByteArray_ofList, String.ofList_toList]
  rw [utf8, hbytes, List.utf8Encode, List.data_toByteArray]

/-! ## Bytes of one character -/

theorem ofNat_lt_ofNat_iff (m n : Nat) : UInt8.ofNat m < UInt8.ofNat n ↔ m % 256 < n % 256 := by
  rw [UInt8.lt_iff_toNat_lt, UInt8.toNat_ofNat', UInt8.toNat_ofNat']

theorem ofNat_eq_ofNat_iff (m n : Nat) : UInt8.ofNat m = UInt8.ofNat n ↔ m % 256 = n % 256 := by
  rw [← UInt8.toNat_inj, UInt8.toNat_ofNat', UInt8.toNat_ofNat']

/-- The bytes of a text that goes on with a smaller character are smaller, whatever follows. -/
theorem encode_append_lt_encode_append {c d : Char} (h : c < d) (r s : List UInt8) :
    String.utf8EncodeChar c ++ r < String.utf8EncodeChar d ++ s := by
  have hlt : c.val.toNat < d.val.toNat := UInt32.lt_iff_toNat_lt.1 h
  have hd : d.val.toNat < 1114112 := by
    rcases d.valid with hv | hv
    · exact Nat.lt_trans hv (by decide)
    · exact hv.2
  -- The digits of a code point in base 64, as quotients of quotients.
  have htwo : ∀ k, k / 4096 = k / 64 / 64 := fun k => by omega
  have hthree : ∀ k, k / 262144 = k / 64 / 64 / 64 := fun k => by omega
  unfold String.utf8EncodeChar
  generalize c.val.toNat = m at hlt ⊢
  generalize d.val.toNat = n at hlt hd ⊢
  dsimp only
  split_ifs <;>
    simp only [List.cons_append, List.nil_append, List.cons_lt_cons_iff, ofNat_lt_ofNat_iff,
      ofNat_eq_ofNat_iff, htwo, hthree] <;>
    omega

/-! ## Both orders -/

theorem append_lt_append_iff (front r s : List UInt8) : front ++ r < front ++ s ↔ r < s := by
  induction front with
  | nil => rfl
  | cons b front ih => simp [ih]

theorem flatMap_encode_lt_iff (cs ds : List Char) :
    cs.flatMap String.utf8EncodeChar < ds.flatMap String.utf8EncodeChar ↔ cs < ds := by
  induction cs generalizing ds with
  | nil =>
    cases ds with
    | nil => simp
    | cons d ds =>
      obtain ⟨b, bs, hd⟩ := List.exists_cons_of_ne_nil (String.utf8EncodeChar_ne_nil (c := d))
      simp [hd, List.nil_lt_cons]
  | cons c cs ih =>
    cases ds with
    | nil => simp
    | cons d ds =>
      rw [List.flatMap_cons, List.flatMap_cons, List.cons_lt_cons_iff]
      rcases lt_trichotomy c d with h | rfl | h
      · simp [h, encode_append_lt_encode_append h]
      · simp [append_lt_append_iff, ih]
      · have hnot := List.lt_asymm (encode_append_lt_encode_append h
          (ds.flatMap String.utf8EncodeChar) (cs.flatMap String.utf8EncodeChar))
        simp [hnot, not_lt_of_gt h, h.ne']

/-- The order of texts is that of their bytes. -/
theorem lt_iff_utf8_lt {a b : String} : a < b ↔ utf8 a < utf8 b := by
  rw [utf8_eq_flatMap, utf8_eq_flatMap, flatMap_encode_lt_iff, String.lt_iff_toList_lt]

/-- The order of texts is that of their bytes. -/
theorem le_iff_utf8_le {a b : String} : a ≤ b ↔ utf8 a ≤ utf8 b := by
  rw [← String.not_lt, ← List.not_lt, lt_iff_utf8_lt]

end TemplateImports.Text
