import TemplateImports.Proofs.Component.Written
import TemplateImports.Proofs.Text.Run
import Mathlib.Data.List.Nodup

/-!
# Reading the attributes of a tag

The attributes of a block are read back from their text, and the opening tag of a block is read up
to its closing bracket.

Main results:

- Theorem `readAttributes_writeAttributes` reads written attributes back.
- Theorem `opening?_append` reads an opening tag.
- Theorem `isSelfClosed_writeAttributes` says that attributes alone do not close a tag.
-/

namespace TemplateImports.Component

open Text

/-! ## Characters of names -/

theorem isAttributeChar_of_isNameChar {c : Char} (h : WrittenAttribute.isNameChar c = true) :
    isAttributeChar c = true := by
  simp only [WrittenAttribute.isNameChar, Bool.or_eq_true, beq_iff_eq] at h
  rcases h with (h | h) | rfl
  · simp [isAttributeChar, Char.isAlphanum, Char.isAlpha, h]
  · simp [isAttributeChar, Char.isAlphanum, h]
  · decide

/-- Names of attributes hold no blanks. -/
theorem isBlank_of_isNameChar {c : Char} (h : WrittenAttribute.isNameChar c = true) :
    isBlank c = false := by
  by_contra hb
  simp only [Bool.not_eq_false] at hb
  have hword := isWord_of_isBlank hb
  simp only [WrittenAttribute.isNameChar, Bool.or_eq_true, beq_iff_eq] at h
  rcases h with (h | h) | rfl
  · simp [isWord, isAsciiWord, Char.isAlphanum, Char.isAlpha, h] at hword
  · simp [isWord, isAsciiWord, Char.isAlphanum, h] at hword
  · exact absurd hb (by decide)

theorem isAttributeChar_of_isBlank {c : Char} (h : isBlank c = true) :
    isAttributeChar c = false := by
  have hword := isWord_of_isBlank h
  have halphanum : c.isAlphanum = false := by
    by_contra hc
    simp only [Bool.not_eq_false] at hc
    simp [isWord, isAsciiWord, hc] at hword
  have hother : ∀ d ∈ ['-', '\u017F', '\u212A'], c ≠ d := by
    rintro d hd rfl
    simp only [List.mem_cons, List.not_mem_nil, or_false] at hd
    rcases hd with rfl | rfl | rfl <;> exact absurd h (by decide)
  simp [isAttributeChar, halphanum, hother]

/-- Characters of written tags go on with a name. -/
theorem isNameChar_of_isWrittenTagChar {c : Char} (h : isWrittenTagChar c = true) :
    isNameChar c = true := by
  simp only [isWrittenTagChar, Bool.or_eq_true, beq_iff_eq] at h
  rcases h with (h | rfl) | rfl
  · simp [isNameChar, isWord, isAsciiWord, h]
  · decide
  · decide

theorem isNameChar_of_isBlank {c : Char} (h : isBlank c = true) : isNameChar c = false := by
  have hword := isWord_of_isBlank h
  have hdash : c ≠ '-' := by
    rintro rfl
    exact absurd h (by decide)
  simp [isNameChar, hword, hdash]

/-! ## Attributes -/

/-- Text behind an attribute name that belongs neither to the name nor to a value. -/
def EndsName (rest : List Char) : Prop :=
  Stops isAttributeChar rest ∧ Stops (· == '=') rest

/-- Where a name ends without an equals sign, no value follows. -/
theorem readValue?_of_endsName {rest : List Char} (h : EndsName rest) : readValue? rest = none := by
  cases rest with
  | nil => rfl
  | cons c rest =>
    have hc : c ≠ '=' := by simpa using h.2 c rfl
    unfold readValue?
    split
    · rename_i heq
      simp only [List.cons.injEq] at heq
      exact absurd heq.1 hc
    · rfl

/-- A quoted value is read between its quotes. -/
theorem readValue?_quoted {value rest : List Char} (h : '"' ∉ value) :
    readValue? ('=' :: '"' :: value ++ '"' :: rest) = some (value, rest) := by
  have hrun : ∀ c ∈ value, (c != '"') = true := by
    intro c hc
    simp only [bne_iff_ne, ne_eq]
    rintro rfl
    exact h hc
  have hstop : Stops (· != '"') ('"' :: rest) := stops_cons (by decide) rest
  simp [readValue?, takeWhile_append_stop hrun hstop, dropWhile_append_stop hrun hstop]

/-- A character between attributes is passed over. -/
theorem attributeList_cons_of_not {c : Char} (h : isAttributeChar c = false) (cs : List Char) :
    attributeList (c :: cs) = attributeList cs := by
  rw [attributeList]
  simp [h]

/-- A bare name is an attribute with the value `true`. -/
theorem attributeList_bare {name rest : List Char} (hne : name ≠ [])
    (hname : ∀ c ∈ name, isAttributeChar c = true) (hrest : EndsName rest) :
    attributeList (name ++ rest) = (String.ofList name, "true") :: attributeList rest := by
  cases name with
  | nil => exact absurd rfl hne
  | cons c name =>
    have hrun : ∀ d ∈ name, isAttributeChar d = true :=
      fun d hd => hname d (List.mem_cons_of_mem c hd)
    have hdrop := dropWhile_append_stop hrun hrest.1
    have htake := takeWhile_append_stop hrun hrest.1
    rw [List.cons_append, attributeList, if_pos (hname c (by simp))]
    split
    · rename_i hvalue
      rw [hdrop, readValue?_of_endsName hrest] at hvalue
      simp at hvalue
    · rw [hdrop, htake]

/-- A name with a quoted value is an attribute with this value. -/
theorem attributeList_valued {name value rest : List Char} (hne : name ≠ [])
    (hname : ∀ c ∈ name, isAttributeChar c = true) (hvalue : '"' ∉ value) :
    attributeList (name ++ '=' :: '"' :: value ++ '"' :: rest) =
      (String.ofList name, String.ofList value) :: attributeList rest := by
  cases name with
  | nil => exact absurd rfl hne
  | cons c name =>
    have hrun : ∀ d ∈ name, isAttributeChar d = true :=
      fun d hd => hname d (List.mem_cons_of_mem c hd)
    have hstop : Stops isAttributeChar ('=' :: '"' :: value ++ '"' :: rest) :=
      stops_cons (by decide) _
    have hdrop := dropWhile_append_stop hrun hstop
    have htake := takeWhile_append_stop hrun hstop
    have happ : c :: name ++ '=' :: '"' :: value ++ '"' :: rest =
        c :: (name ++ ('=' :: '"' :: value ++ '"' :: rest)) := by simp
    rw [happ, attributeList, if_pos (hname c (by simp))]
    split
    · rename_i value' rest' hread
      rw [hdrop, readValue?_quoted hvalue] at hread
      simp only [Option.some.injEq, Prod.mk.injEq] at hread
      rw [htake, hread.1, hread.2]
    · rename_i hread
      rw [hdrop, readValue?_quoted hvalue] at hread
      simp at hread

/-- A name ends before the next attribute, or where the tag goes on. -/
theorem endsName_writeAttributes_append (attributes : List WrittenAttribute) {tail : List Char}
    (htail : EndsName tail) : EndsName (writeAttributes attributes ++ tail) := by
  cases attributes with
  | nil => exact htail
  | cons a attributes =>
    cases a <;> exact ⟨stops_cons (by decide) _, stops_cons (by decide) _⟩

/-- Written attributes are read one by one, up to text that belongs to no attribute. -/
theorem attributeList_writeAttributes_append {attributes : List WrittenAttribute}
    {tail : List Char} (h : ∀ a ∈ attributes, a.WellFormed) (htail : EndsName tail) :
    attributeList (writeAttributes attributes ++ tail) =
      attributes.map WrittenAttribute.entry ++ attributeList tail := by
  induction attributes with
  | nil => rfl
  | cons a attributes ih =>
    have ha := h a (by simp)
    have hrest := endsName_writeAttributes_append attributes htail
    have hih := ih fun b hb => h b (List.mem_cons_of_mem a hb)
    have hspace : isAttributeChar ' ' = false := by decide
    cases a with
    | bare name =>
      have hne : name ≠ [] := ha.name_ne_nil
      have hname : ∀ c ∈ name, isAttributeChar c = true :=
        fun c hc => isAttributeChar_of_isNameChar (ha.name_chars c hc)
      have hwrite : writeAttributes (.bare name :: attributes) ++ tail =
          ' ' :: (name ++ (writeAttributes attributes ++ tail)) := by
        simp [writeAttributes, WrittenAttribute.write]
      rw [hwrite, attributeList_cons_of_not hspace, attributeList_bare hne hname hrest,
        hih]
      rfl
    | valued name value =>
      have hne : name ≠ [] := ha.name_ne_nil
      have hname : ∀ c ∈ name, isAttributeChar c = true :=
        fun c hc => isAttributeChar_of_isNameChar (ha.name_chars c hc)
      have hvalue : '"' ∉ value := ha.value_no_quote
      have hwrite : writeAttributes (.valued name value :: attributes) ++ tail =
          ' ' :: (name ++ '=' :: '"' :: value ++ '"' :: (writeAttributes attributes ++ tail)) := by
        simp [writeAttributes, WrittenAttribute.write]
      rw [hwrite, attributeList_cons_of_not hspace,
        attributeList_valued hne hname hvalue, hih]
      rfl

/-- A new name is put at the end. -/
theorem put_of_not_mem {key value : String} {entries : List (String × String)}
    (h : key ∉ entries.map (·.1)) :
    KeyedList.put key value entries = entries ++ [(key, value)] := by
  induction entries with
  | nil => rfl
  | cons entry entries ih =>
    simp only [List.map_cons, List.mem_cons, not_or] at h
    simp [KeyedList.put, h.1, ih h.2]

/-- Distinct names are put one after the other. -/
theorem foldl_put_of_nodup {entries added : List (String × String)}
    (h : ((entries ++ added).map (·.1)).Nodup) :
    added.foldl (fun entries a => KeyedList.put a.1 a.2 entries) entries = entries ++ added := by
  induction added generalizing entries with
  | nil => simp
  | cons a added ih =>
    have hnew : a.1 ∉ entries.map (·.1) := by
      intro hmem
      rw [List.map_append, List.nodup_append] at h
      exact h.2.2 a.1 hmem a.1 (by simp) rfl
    rw [List.foldl_cons, put_of_not_mem hnew, ih (by simpa using h)]
    simp

/-- Attributes with distinct names have entries with distinct names. -/
theorem nodup_entry_names {attributes : List WrittenAttribute}
    (h : (attributes.map WrittenAttribute.name).Nodup) :
    ((attributes.map WrittenAttribute.entry).map (·.1)).Nodup := by
  have heq : (attributes.map WrittenAttribute.entry).map (·.1) =
      (attributes.map WrittenAttribute.name).map String.ofList := by
    simp only [List.map_map]
    apply List.map_congr_left
    intro a _
    cases a <;> rfl
  rw [heq]
  exact List.Nodup.map (fun _ _ heq => String.ofList_injective heq) h

/-- Text behind the attributes of a tag that holds no attribute. -/
theorem attributeList_eq_nil {tail : List Char} (h : ∀ c ∈ tail, isAttributeChar c = false) :
    attributeList tail = [] := by
  induction tail with
  | nil => rw [attributeList]
  | cons c tail ih =>
    rw [attributeList_cons_of_not (h c (by simp))]
    exact ih fun d hd => h d (List.mem_cons_of_mem c hd)

/-- Written attributes are read back, with nothing made of the text behind them. -/
theorem readAttributes_writeAttributes {attributes : List WrittenAttribute} {tail : List Char}
    (h : WellFormedAttributes attributes)
    (htail : ∀ c ∈ tail, isAttributeChar c = false ∧ c ≠ '=') :
    readAttributes (writeAttributes attributes ++ tail) =
      attributes.map WrittenAttribute.entry := by
  have hends : EndsName tail := by
    cases tail with
    | nil => exact ⟨stops_nil _, stops_nil _⟩
    | cons c tail =>
      have hc := htail c (by simp)
      exact ⟨stops_cons hc.1 tail, stops_cons (by simpa using hc.2) tail⟩
  unfold readAttributes
  rw [attributeList_writeAttributes_append h.each hends,
    attributeList_eq_nil fun c hc => (htail c hc).1, List.append_nil,
    foldl_put_of_nodup (by simpa using nodup_entry_names h.distinct), List.nil_append]

/-! ## Opening tags -/

/-- An opening tag is read up to its closing bracket. -/
theorem opening?_append {tag attributes : List Char} (htag : IsTag tag)
    (hblank : ∀ c ∈ attributes.head?, isBlank c = true) (hfree : '>' ∉ attributes)
    (rest : List Char) :
    opening? (tag ++ attributes ++ '>' :: rest) = some ⟨tag, attributes, rest⟩ := by
  have hrun : ∀ c ∈ tag, isNameChar c = true :=
    fun c hc => isNameChar_of_isWrittenTagChar (htag.chars c hc)
  obtain ⟨c, hc, halpha⟩ := htag.starts
  cases tag with
  | nil => simp at hc
  | cons d tag =>
    simp only [List.head?_cons, Option.mem_def, Option.some.injEq] at hc
    subst hc
    cases attributes with
    | nil =>
      have hstop : Stops isNameChar ('>' :: rest) := stops_cons (by decide) rest
      have htake := takeWhile_append_stop hrun hstop
      have hdrop := dropWhile_append_stop hrun hstop
      simp only [List.append_nil, List.cons_append] at htake hdrop ⊢
      simp [opening?, halpha, htake, hdrop]
    | cons b attributes =>
      have hb : isBlank b = true := hblank b rfl
      have hb' : b ≠ '>' := by
        rintro rfl
        simp at hfree
      have hstop : Stops isNameChar (b :: attributes ++ '>' :: rest) :=
        stops_cons (isNameChar_of_isBlank hb) _
      have htake := takeWhile_append_stop hrun hstop
      have hdrop := dropWhile_append_stop hrun hstop
      have hinside : ∀ e ∈ attributes, (e != '>') = true := by
        intro e he
        simp only [bne_iff_ne, ne_eq]
        rintro rfl
        exact hfree (List.mem_cons_of_mem b he)
      have hclose : Stops (· != '>') ('>' :: rest) := stops_cons (by decide) rest
      have htake' := takeWhile_append_stop hinside hclose
      have hdrop' := dropWhile_append_stop hinside hclose
      simp only [List.cons_append, List.append_assoc] at htake hdrop ⊢
      simp [opening?, halpha, htake, hdrop, hb, hb', htake', hdrop']

/-- Text that ends with a character other than a blank or a slash is no self-closed tag. -/
theorem isSelfClosed_concat {cs : List Char} {c : Char} (hblank : isBlank c = false) :
    isSelfClosed (cs ++ [c]) = (c == '/') := by
  simp [isSelfClosed, trimEnd, hblank]

theorem isSelfClosed_nil : isSelfClosed [] = false := rfl

/-- A blank stands before the first attribute. -/
theorem isBlank_head_writeAttributes (attributes : List WrittenAttribute) :
    ∀ c ∈ (writeAttributes attributes).head?, isBlank c = true := by
  intro c hc
  cases attributes with
  | nil => simp [writeAttributes] at hc
  | cons a attributes =>
    have hspace : c = ' ' := by
      cases a <;> simpa [writeAttributes, WrittenAttribute.write] using hc.symm
    rw [hspace]
    decide

/-- A written attribute ends with a character of its name or with a quote. -/
theorem isSelfClosed_append_write {cs : List Char} {a : WrittenAttribute} (h : a.WellFormed) :
    isSelfClosed (cs ++ a.write) = false := by
  cases a with
  | bare name =>
    rcases List.eq_nil_or_concat name with rfl | ⟨start, last, rfl⟩
    · exact absurd rfl h.name_ne_nil
    · have hlast : WrittenAttribute.isNameChar last = true :=
        h.name_chars last (by simp [WrittenAttribute.name])
      have hslash : last ≠ '/' := by
        rintro rfl
        exact absurd hlast (by decide)
      have happ : cs ++ WrittenAttribute.write (.bare (start.concat last)) =
          (cs ++ ' ' :: start) ++ [last] := by
        simp [WrittenAttribute.write]
      rw [happ, isSelfClosed_concat (isBlank_of_isNameChar hlast)]
      simpa using hslash
  | valued name value =>
    have happ : cs ++ WrittenAttribute.write (.valued name value) =
        (cs ++ ' ' :: name ++ '=' :: '"' :: value) ++ ['"'] := by
      simp [WrittenAttribute.write]
    rw [happ, isSelfClosed_concat (by decide)]
    decide

/-- Attributes alone do not close a tag. -/
theorem isSelfClosed_writeAttributes {attributes : List WrittenAttribute}
    (h : ∀ a ∈ attributes, a.WellFormed) : isSelfClosed (writeAttributes attributes) = false := by
  rcases List.eq_nil_or_concat attributes with rfl | ⟨start, last, rfl⟩
  · exact isSelfClosed_nil
  · have happ : writeAttributes (start.concat last) = writeAttributes start ++ last.write := by
      simp [writeAttributes]
    rw [happ]
    exact isSelfClosed_append_write (h last (by simp))

/-- Well-formed attributes hold no closing bracket. -/
theorem close_not_mem_writeAttributes {attributes : List WrittenAttribute}
    (h : ∀ a ∈ attributes, a.WellFormed) : '>' ∉ writeAttributes attributes := by
  intro hmem
  obtain ⟨a, ha, hc⟩ := List.mem_flatMap.1 hmem
  have hname : '>' ∉ a.name := by
    intro hc
    exact absurd ((h a ha).name_chars '>' hc) (by decide)
  cases a with
  | bare name =>
    simp only [WrittenAttribute.write, List.mem_cons] at hc
    exact hname (hc.resolve_left (by decide))
  | valued name value =>
    have hvalue : '>' ∉ value := (h _ ha).value_no_bracket
    simp only [WrittenAttribute.name] at hname
    simp [WrittenAttribute.write, hname, hvalue] at hc

end TemplateImports.Component
