import TemplateImports.Text.Offset

/-!
# Pieces that are put into a text

A piece is put into a text at a byte offset, in front of a character or at the end, and can be taken
out again.

Main results:

- Theorem `cutAt?_eq_none_iff` says at which offsets a text cannot be cut.
- Structure `Insertion` is a piece with its offset; theorem `remove?_of_insert?` says that taking it
  out again undoes putting it in.
-/

namespace TemplateImports.Text

/-! ## Offsets without a cut -/

/-- The offset lies between two bytes of one character. -/
def InsideCharacter (n : Nat) (cs : List Char) : Prop :=
  ∃ before c after, cs = before ++ c :: after ∧ byteSize before < n ∧
    n < byteSize before + c.utf8Size

theorem insideCharacter_cons_iff {n : Nat} {c : Char} {cs : List Char} (h : c.utf8Size ≤ n) :
    InsideCharacter n (c :: cs) ↔ InsideCharacter (n - c.utf8Size) cs := by
  constructor
  · rintro ⟨before, d, after, hcut, hlow, hhigh⟩
    cases before with
    | nil =>
      simp only [List.nil_append, List.cons.injEq] at hcut
      simp only [byteSize, ← hcut.1] at hhigh
      omega
    | cons b before =>
      simp only [List.cons_append, List.cons.injEq] at hcut
      obtain ⟨rfl, rfl⟩ := hcut
      simp only [byteSize] at hlow hhigh
      exact ⟨before, d, after, rfl, by omega, by omega⟩
  · rintro ⟨before, d, after, rfl, hlow, hhigh⟩
    refine ⟨c :: before, d, after, rfl, ?_, ?_⟩ <;> simp only [byteSize] <;> omega

/-- A text cannot be cut behind its end and inside of a character. -/
theorem cutAt?_eq_none_iff {n : Nat} {cs : List Char} :
    cutAt? n cs = none ↔ byteSize cs < n ∨ InsideCharacter n cs := by
  induction cs generalizing n with
  | nil =>
    cases n with
    | zero => simp [cutAt?, byteSize, InsideCharacter]
    | succ n => simp [cutAt?, byteSize]
  | cons c cs ih =>
    cases n with
    | zero => simp [cutAt?, InsideCharacter]
    | succ n =>
      unfold cutAt?
      split
      · rename_i hlt
        simp only [true_iff]
        exact .inr ⟨[], c, cs, rfl, Nat.succ_pos n, by simpa [byteSize] using hlt⟩
      · rename_i hge
        have hle : c.utf8Size ≤ n + 1 := Nat.le_of_not_lt hge
        rw [Option.map_eq_none_iff, ih, insideCharacter_cons_iff hle]
        have hsize : byteSize cs < n + 1 - c.utf8Size ↔ byteSize (c :: cs) < n + 1 := by
          simp only [byteSize]
          omega
        rw [hsize]

/-! ## Insertions -/

/-- A piece that is put into a text, behind a number of bytes. -/
structure Insertion where
  offset : Nat
  piece : List Char
deriving Repr, DecidableEq

namespace Insertion

variable {i : Insertion} {cs ds : List Char}

/-- The text with the piece, unless the text cannot be cut at the offset. -/
def insert? (i : Insertion) (cs : List Char) : Option (List Char) :=
  (cutAt? i.offset cs).map fun (before, after) => before ++ i.piece ++ after

/-- The text without the piece, unless the piece does not stand at the offset. -/
def remove? (i : Insertion) (cs : List Char) : Option (List Char) :=
  (cutAt? i.offset cs).bind fun (before, rest) =>
    if i.piece.isPrefixOf rest then some (before ++ rest.drop i.piece.length) else none

/-- A piece is put between the two parts of a text. -/
theorem insert?_eq_some_iff :
    i.insert? cs = some ds ↔ ∃ before after, cs = before ++ after ∧ byteSize before = i.offset ∧
      ds = before ++ i.piece ++ after := by
  simp only [insert?, Option.map_eq_some_iff, Prod.exists, cutAt?_eq_some_iff, and_assoc,
    eq_comm (a := ds)]

/-- Taking a piece out undoes putting it in. -/
theorem remove?_of_insert? (h : i.insert? cs = some ds) : i.remove? ds = some cs := by
  obtain ⟨before, after, rfl, hsize, rfl⟩ := insert?_eq_some_iff.1 h
  have hcut : cutAt? i.offset (before ++ i.piece ++ after) = some (before, i.piece ++ after) :=
    cutAt?_eq_some_iff.2 ⟨by simp, hsize⟩
  rw [remove?, hcut]
  simp

/-- A text gets longer by the piece. -/
theorem byteSize_of_insert? (h : i.insert? cs = some ds) :
    byteSize ds = byteSize cs + byteSize i.piece := by
  obtain ⟨before, after, rfl, -, rfl⟩ := insert?_eq_some_iff.1 h
  simp only [byteSize_append]
  omega

end Insertion

end TemplateImports.Text
