/-!
# Byte offsets

Places in a text, counted in the bytes of its UTF-8 form.

Main results:

- Definition `cutAt?` cuts a text at an offset, unless that lies behind the text or inside a
  character.
- Definition `offsetOf?` is the offset of the first occurrence of a part.
- Theorem `cutAt?_eq_some_iff` says what a cut is.
-/

namespace TemplateImports.Text

/-- The number of bytes of a text. -/
def byteSize : List Char → Nat
  | [] => 0
  | c :: cs => c.utf8Size + byteSize cs

@[simp] theorem byteSize_append (first second : List Char) :
    byteSize (first ++ second) = byteSize first + byteSize second := by
  induction first with
  | nil => simp [byteSize]
  | cons c cs ih => simp [byteSize, ih, Nat.add_assoc]

/-- The text before and behind an offset. -/
def cutAt? : Nat → List Char → Option (List Char × List Char)
  | 0, cs => some ([], cs)
  | _ + 1, [] => none
  | n + 1, c :: cs =>
    if n + 1 < c.utf8Size then none
    else (cutAt? (n + 1 - c.utf8Size) cs).map fun (before, after) => (c :: before, after)

/-- A cut splits the text so that the first part has as many bytes as the offset counts. -/
theorem cutAt?_eq_some_iff {n : Nat} {cs before after : List Char} :
    cutAt? n cs = some (before, after) ↔ cs = before ++ after ∧ byteSize before = n := by
  induction cs generalizing n before with
  | nil =>
    cases n with
    | zero =>
      simp only [cutAt?, Option.some.injEq, Prod.mk.injEq]
      constructor
      · rintro ⟨rfl, rfl⟩
        simp [byteSize]
      · rintro ⟨h, _⟩
        simpa using h.symm
    | succ n =>
      simp only [cutAt?, reduceCtorEq, false_iff, not_and]
      intro h
      simp only [List.nil_eq, List.append_eq_nil_iff] at h
      simp [h.1, byteSize]
  | cons c cs ih =>
    cases n with
    | zero =>
      simp only [cutAt?, Option.some.injEq, Prod.mk.injEq]
      constructor
      · rintro ⟨rfl, rfl⟩
        simp [byteSize]
      · rintro ⟨h, hs⟩
        cases before with
        | nil => exact ⟨rfl, by simpa using h⟩
        | cons b before =>
          have := b.utf8Size_pos
          simp only [byteSize] at hs
          omega
    | succ n =>
      simp only [cutAt?]
      split
      · rename_i hlt
        simp only [reduceCtorEq, false_iff, not_and]
        intro h
        cases before with
        | nil => simp [byteSize]
        | cons b before =>
          simp only [List.cons_append, List.cons.injEq] at h
          simp only [byteSize, ← h.1]
          omega
      · rename_i hge
        simp only [Option.map_eq_some_iff, Prod.exists, Prod.mk.injEq]
        constructor
        · rintro ⟨b, a, h, rfl, rfl⟩
          obtain ⟨rfl, hs⟩ := ih.1 h
          refine ⟨rfl, ?_⟩
          simp only [byteSize, hs]
          omega
        · rintro ⟨h, hs⟩
          cases before with
          | nil => simp [byteSize] at hs
          | cons b before =>
            simp only [List.cons_append, List.cons.injEq] at h
            obtain ⟨rfl, h⟩ := h
            refine ⟨before, after, ih.2 ⟨h, ?_⟩, rfl, rfl⟩
            simp only [byteSize] at hs
            omega

/-- The offset of the first occurrence of a part, counted from `start`. -/
def offsetFrom? (part : List Char) (start : Nat) : List Char → Option Nat
  | [] => if part.isEmpty then some start else none
  | c :: cs =>
    if part.isPrefixOf (c :: cs) then some start
    else offsetFrom? part (start + c.utf8Size) cs

/-- The offset of the first occurrence of a part in a text. -/
def offsetOf? (part cs : List Char) : Option Nat :=
  offsetFrom? part 0 cs

end TemplateImports.Text
