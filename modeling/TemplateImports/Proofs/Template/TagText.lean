import TemplateImports.Proofs.Markup.TagScan
import TemplateImports.Proofs.Template.Written
import TemplateImports.Proofs.Text.Ascii
import TemplateImports.Proofs.Text.Run

/-!
# The text of tags

What the readers of the preparation find in the text of a written tag: its name, the run of its
attributes up to the closing bracket, and the names of these attributes.

Main results:

- Theorem `dropAttributes_writeAttributes` passes over attributes with brackets and quotes in mind.
- Theorem `attributeNames_writeAttributes` reads the names of written attributes.
- Theorem `startTag?_append` reads a start tag.
- Theorem `IsElementTag.known_or_not_ruled` says which rules a tag follows.
- Structure `IsCasedTag` says which names the preparation can bring back.
-/

namespace TemplateImports.Template

open Markup (Attribute startRules endRules)
open Text

/-! ## Classes of characters -/

namespace WrittenAttribute

/-- Characters of names are ASCII. -/
theorem toNat_lt_of_isNameChar {c : Char} (h : isNameChar c = true) : c.toNat < 128 := by
  simp only [isNameChar, isNameStart, Bool.or_eq_true, beq_iff_eq] at h
  rcases h with (((((((h | rfl) | rfl) | rfl) | rfl) | h) | rfl) | rfl)
  · exact toNat_lt_of_isAlphanum (by simp [Char.isAlphanum, h])
  · decide
  · decide
  · decide
  · decide
  · exact toNat_lt_of_isAlphanum (by simp [Char.isAlphanum, h])
  · decide
  · decide

/-- Whether a character has no meaning of its own inside a tag. -/
def isHarmless (c : Char) : Bool :=
  isAttributeChar c && Markup.Token.isAttributeNameChar c && isValueChar c && c != '\x27'

/-- The characters of attribute names have no meaning of their own inside a tag. -/
theorem isHarmless_of_isNameChar {c : Char} (h : isNameChar c = true) : isHarmless c = true := by
  have hall := forall_ascii (p := fun c => !isNameChar c || isHarmless c) (by decide +kernel)
    (toNat_lt_of_isNameChar h)
  simpa [h] using hall

/-- An attribute whose characters are those that a name and a value may have. -/
structure IsSpelled (a : WrittenAttribute) : Prop where
  starts : ∃ c ∈ a.name.head?, isNameStart c = true
  chars : ∀ c ∈ a.name, isNameChar c = true
  value_chars : ∀ c ∈ a.value, isValueChar c = true

/-- A well-formed attribute is spelled without brackets. -/
theorem WellFormed.isSpelled {a : WrittenAttribute} (h : a.WellFormed) : a.IsSpelled :=
  ⟨h.starts, h.chars, h.value_chars⟩

theorem IsSpelled.name_ne_nil {a : WrittenAttribute} (h : a.IsSpelled) : a.name ≠ [] := by
  intro hnil
  obtain ⟨c, hc, -⟩ := h.starts
  simp [hnil] at hc

/-- The name of a spelled attribute holds harmless characters only. -/
theorem IsSpelled.harmless {a : WrittenAttribute} (h : a.IsSpelled) {c : Char}
    (hc : c ∈ a.name) : isHarmless c = true :=
  isHarmless_of_isNameChar (h.chars c hc)

/-- A name holds no character with a meaning of its own. -/
theorem IsSpelled.not_mem_name {a : WrittenAttribute} (h : a.IsSpelled) {c : Char}
    (hc : isHarmless c = false) : c ∉ a.name := by
  intro hmem
  rw [h.harmless hmem] at hc
  exact absurd hc (by decide)

/-- A value holds none of the characters that it may not hold. -/
theorem IsSpelled.not_mem_value {a : WrittenAttribute} (h : a.IsSpelled) {c : Char}
    (hc : isValueChar c = false) : c ∉ a.value := by
  intro hmem
  rw [h.value_chars c hmem] at hc
  exact absurd hc (by decide)

/-- A written attribute holds none of the characters that neither its name nor its value holds. -/
theorem IsSpelled.not_mem_write {a : WrittenAttribute} (h : a.IsSpelled) {c : Char}
    (hname : isHarmless c = false) (hvalue : isValueChar c = false)
    (hmark : c ∉ [' ', '=', '"']) : c ∉ a.write := by
  have hname := h.not_mem_name hname
  have hvalue := h.not_mem_value hvalue
  simp only [List.mem_cons, List.not_mem_nil, or_false, not_or] at hmark
  cases a with
  | bare name => simpa [write, hmark, WrittenAttribute.name] using hname
  | quoted name value =>
    simp only [WrittenAttribute.name, WrittenAttribute.value] at hname hvalue
    simp [write, hmark, hname, hvalue]

end WrittenAttribute

open WrittenAttribute (IsSpelled isHarmless isValueChar)

/-- The text of attributes holds none of the characters that no attribute holds. -/
theorem not_mem_writeAttributes {attributes : List WrittenAttribute}
    (h : ∀ a ∈ attributes, a.IsSpelled) {c : Char} (hname : isHarmless c = false)
    (hvalue : isValueChar c = false) (hmark : c ∉ [' ', '=', '"']) :
    c ∉ writeAttributes attributes := by
  intro hmem
  obtain ⟨a, ha, hc⟩ := List.mem_flatMap.1 hmem
  exact (h a ha).not_mem_write hname hvalue hmark hc

/-- The text of attributes and the closing bracket behind it start with a space or a bracket. -/
theorem stops_writeAttributes {p : Char → Bool} (hspace : p ' ' = false)
    (attributes : List WrittenAttribute) {rest : List Char} (hrest : Stops p rest) :
    Stops p (writeAttributes attributes ++ rest) := by
  cases attributes with
  | nil => exact hrest
  | cons a attributes => cases a <;> exact stops_cons hspace _

/-- The text of attributes is empty or starts with a space. -/
theorem writeAttributes_eq_nil_or_cons (attributes : List WrittenAttribute) :
    writeAttributes attributes = [] ∨ ∃ cs, writeAttributes attributes = ' ' :: cs := by
  cases attributes with
  | nil => exact Or.inl rfl
  | cons a attributes => cases a <;> exact Or.inr ⟨_, rfl⟩

/-! ## Attributes up to the closing bracket -/

/-- Outside of quotes, characters of no meaning are dropped. -/
theorem dropAttributes_none_append {cs : List Char}
    (h : ∀ c ∈ cs, c ∉ ['<', '>', '"', '\x27']) (rest : List Char) :
    dropAttributes none (cs ++ rest) = dropAttributes none rest := by
  induction cs with
  | nil => rfl
  | cons c cs ih =>
    have hc := h c (by simp)
    simp only [List.mem_cons, List.not_mem_nil, or_false, not_or] at hc
    rw [List.cons_append, dropAttributes]
    simp only [if_false, Bool.or_self, Bool.false_eq_true, beq_eq_false_iff_ne.2 hc.1,
      beq_eq_false_iff_ne.2 hc.2.1, beq_eq_false_iff_ne.2 hc.2.2.1,
      beq_eq_false_iff_ne.2 hc.2.2.2]
    exact ih fun d hd => h d (List.mem_cons_of_mem c hd)

/-- A quoted value is dropped with its closing quote. -/
theorem dropAttributes_quoted {quote : Char} {cs : List Char} (h : quote ∉ cs)
    (rest : List Char) :
    dropAttributes (some quote) (cs ++ quote :: rest) = dropAttributes none rest := by
  induction cs with
  | nil =>
    rw [List.nil_append, dropAttributes]
    simp
  | cons c cs ih =>
    simp only [List.mem_cons, not_or] at h
    have hc : (c == quote) = false := beq_eq_false_iff_ne.2 (Ne.symm h.1)
    rw [List.cons_append, dropAttributes]
    simp only [hc, Bool.false_eq_true, if_false]
    exact ih h.2

/-- A written attribute is dropped whole. -/
theorem dropAttributes_write {a : WrittenAttribute} (h : a.IsSpelled) (rest : List Char) :
    dropAttributes none (a.write ++ rest) = dropAttributes none rest := by
  have hname : ∀ c ∈ a.name, c ∉ ['<', '>', '"', '\x27'] := by
    intro c hc hmem
    have hharmless := h.harmless hc
    simp only [List.mem_cons, List.not_mem_nil, or_false] at hmem
    rcases hmem with rfl | rfl | rfl | rfl <;> exact absurd hharmless (by decide)
  cases a with
  | bare name =>
    have hspace : ∀ c ∈ ' ' :: name, c ∉ ['<', '>', '"', '\x27'] := by
      intro c hc
      rcases List.mem_cons.1 hc with rfl | hc
      · decide
      · exact hname c hc
    exact dropAttributes_none_append hspace rest
  | quoted name value =>
    have hspace : ∀ c ∈ ' ' :: name ++ ['='], c ∉ ['<', '>', '"', '\x27'] := by
      intro c hc
      rcases List.mem_append.1 hc with hc | hc
      · rcases List.mem_cons.1 hc with rfl | hc
        · decide
        · exact hname c hc
      · rw [List.mem_singleton.1 hc]
        decide
    have hvalue : '"' ∉ value := h.not_mem_value (by decide)
    have happ : WrittenAttribute.write (.quoted name value) ++ rest =
        (' ' :: name ++ ['=']) ++ ('"' :: (value ++ '"' :: rest)) := by
      simp [WrittenAttribute.write]
    rw [happ, dropAttributes_none_append hspace, dropAttributes]
    simp only [beq_self_eq_true, Bool.true_or, if_true]
    exact dropAttributes_quoted hvalue rest

/-- Attributes go up to the closing bracket of the tag. -/
theorem dropAttributes_writeAttributes {attributes : List WrittenAttribute}
    (h : ∀ a ∈ attributes, a.IsSpelled) (rest : List Char) :
    dropAttributes none (writeAttributes attributes ++ '>' :: rest) = some ('>' :: rest) := by
  induction attributes with
  | nil =>
    rw [writeAttributes, List.flatMap_nil, List.nil_append, dropAttributes]
    simp
  | cons a attributes ih =>
    have happ : writeAttributes (a :: attributes) ++ '>' :: rest =
        a.write ++ (writeAttributes attributes ++ '>' :: rest) := by
      simp [writeAttributes]
    rw [happ, dropAttributes_write (h a (by simp))]
    exact ih fun b hb => h b (List.mem_cons_of_mem a hb)

/-! ## Names of attributes -/

/-- A quoted value is dropped behind its equals sign. -/
theorem dropValue_quoted {value rest : List Char} (h : '"' ∉ value) :
    dropValue ('=' :: '"' :: value ++ '"' :: rest) = rest := by
  have hrun : ∀ c ∈ value, (c != '"') = true := by
    intro c hc
    simp only [bne_iff_ne, ne_eq]
    rintro rfl
    exact h hc
  have hstop : Stops (· != '"') ('"' :: rest) := stops_cons (by decide) rest
  have hdrop := dropWhile_append_stop hrun hstop
  have hequals : isBlank '=' = false := by decide
  have hblank : isBlank '"' = false := by decide
  simp [dropValue, hequals, hblank, hdrop]

/-- A name without a value is followed by no equals sign. -/
theorem dropValue_writeAttributes {attributes : List WrittenAttribute}
    (h : ∀ a ∈ attributes, a.IsSpelled) :
    dropValue (writeAttributes attributes) = writeAttributes attributes := by
  have hstart : ∀ (name rest : List Char), name ≠ [] → (∀ c ∈ name, isHarmless c = true) →
      dropValue (' ' :: (name ++ rest)) = ' ' :: (name ++ rest) := by
    intro name rest hne hname
    cases name with
    | nil => exact absurd rfl hne
    | cons c name =>
      have hc := hname c (by simp)
      have hequals : c ≠ '=' := by
        rintro rfl
        exact absurd hc (by decide)
      have hblank : isBlank c = false := by
        simp only [isHarmless, isAttributeChar, Bool.and_eq_true, Bool.not_eq_true'] at hc
        exact hc.1.1.1.1
      have hspace : isBlank ' ' = true := by decide
      unfold dropValue
      simp only [List.cons_append, List.dropWhile_cons, hspace, hblank, if_true, Bool.false_eq_true,
        if_false]
      split
      · rename_i heq
        exact absurd (List.cons.inj heq).1 hequals
      · rfl
  cases attributes with
  | nil => rfl
  | cons a attributes =>
    have ha := h a (by simp)
    cases a with
    | bare name =>
      exact hstart name (writeAttributes attributes) ha.name_ne_nil fun c hc => ha.harmless hc
    | quoted name value =>
      have hwrite : writeAttributes (.quoted name value :: attributes) =
          ' ' :: (name ++ ('=' :: '"' :: value ++ '"' :: writeAttributes attributes)) := by
        simp [writeAttributes, WrittenAttribute.write]
      rw [hwrite]
      exact hstart name _ ha.name_ne_nil fun c hc => ha.harmless hc

/-- The names of written attributes are read in order. -/
theorem attributeNames_writeAttributes {attributes : List WrittenAttribute}
    (h : ∀ a ∈ attributes, a.IsSpelled) :
    attributeNames (writeAttributes attributes) = attributes.map WrittenAttribute.name := by
  induction attributes with
  | nil =>
    rw [writeAttributes, List.flatMap_nil, attributeNames]
    rfl
  | cons a attributes ih =>
    have ha := h a (by simp)
    have hattributes : ∀ b ∈ attributes, b.IsSpelled := fun b hb => h b (List.mem_cons_of_mem a hb)
    have hih := ih hattributes
    have hname : ∀ c ∈ a.name, isAttributeChar c = true := by
      intro c hc
      have hharmless := ha.harmless hc
      simp only [isHarmless, Bool.and_eq_true] at hharmless
      exact hharmless.1.1.1
    have hread : ∀ rest : List Char, Stops isAttributeChar rest →
        attributeNames (' ' :: (a.name ++ rest)) = a.name :: attributeNames (dropValue rest) := by
      intro rest hrest
      have htake := takeWhile_append_stop hname hrest
      have hdrop := dropWhile_append_stop hname hrest
      have hblank : isBlank ' ' = true := by decide
      have hne : a.name.isEmpty = false := by simpa using ha.name_ne_nil
      rw [attributeNames, htake, hdrop]
      simp [hblank, hne]
    cases a with
    | bare name =>
      have hstop : Stops isAttributeChar (writeAttributes attributes ++ []) :=
        stops_writeAttributes (by decide) attributes (stops_nil _)
      rw [List.append_nil] at hstop
      have hfound := hread (writeAttributes attributes) hstop
      rw [dropValue_writeAttributes hattributes, hih] at hfound
      exact hfound
    | quoted name value =>
      have hvalue : '"' ∉ value := ha.not_mem_value (by decide)
      have hwrite : writeAttributes (.quoted name value :: attributes) =
          ' ' :: (name ++ ('=' :: '"' :: value ++ '"' :: writeAttributes attributes)) := by
        simp [writeAttributes, WrittenAttribute.write]
      have hfound := hread ('=' :: '"' :: value ++ '"' :: writeAttributes attributes)
        (stops_cons (by decide) _)
      rw [dropValue_quoted hvalue, hih] at hfound
      rw [hwrite]
      exact hfound

/-! ## Names of tags -/

/-- A character of the names that elements have. -/
def isTagChar (c : Char) : Bool :=
  c.isAlphanum || c == '-'

/-- A name in the text of a tag: a letter, and letters, digits and dashes behind it. -/
structure IsTagText (tag : List Char) : Prop where
  starts : ∃ c ∈ tag.head?, c.isAlpha = true
  chars : ∀ c ∈ tag, isTagChar c = true

/-- Characters of tags are ASCII. -/
theorem toNat_lt_of_isTagChar {c : Char} (h : isTagChar c = true) : c.toNat < 128 := by
  simp only [isTagChar, Bool.or_eq_true, beq_iff_eq] at h
  rcases h with h | rfl
  · exact toNat_lt_of_isAlphanum h
  · decide

/-- What every reader of tags takes for a character of a name. -/
theorem isNameChar_of_isTagChar {c : Char} (h : isTagChar c = true) :
    isNameChar c = true ∧ Markup.Token.isTagNameChar c = true ∧ isValueChar c = true := by
  have hall := forall_ascii (p := fun c => !isTagChar c ||
    (isNameChar c && Markup.Token.isTagNameChar c && isValueChar c)) (by decide +kernel)
    (toNat_lt_of_isTagChar h)
  simpa [h, and_assoc] using hall

/-- A tag starts with a letter. -/
theorem IsTagText.exists_cons {tag : List Char} (h : IsTagText tag) :
    ∃ c cs, tag = c :: cs ∧ c.isAlpha = true := by
  obtain ⟨c, hc, halpha⟩ := h.starts
  cases tag with
  | nil => simp at hc
  | cons d cs =>
    simp only [List.head?_cons, Option.mem_def, Option.some.injEq] at hc
    exact ⟨d, cs, rfl, hc ▸ halpha⟩

/-- A tag starts with a letter whatever follows it. -/
theorem IsTagText.startsWithLetter_append {tag : List Char} (h : IsTagText tag)
    (rest : List Char) : startsWithLetter (tag ++ rest) = true := by
  obtain ⟨c, cs, rfl, halpha⟩ := h.exists_cons
  simp [startsWithLetter, halpha]

/-- A tag holds no character that is not allowed in tags. -/
theorem IsTagText.not_mem {tag : List Char} (h : IsTagText tag) {c : Char}
    (hc : isTagChar c = false) : c ∉ tag := by
  intro hmem
  rw [h.chars c hmem] at hc
  exact absurd hc (by decide)

/-- The text of a tag is a name to the tokenizer. -/
theorem IsTagText.isTagName {tag : List Char} (h : IsTagText tag) :
    Markup.Token.IsTagName tag :=
  ⟨h.starts, fun c hc => (isNameChar_of_isTagChar (h.chars c hc)).2.1, h.not_mem (by decide)⟩

/-- A start tag is read up to its closing bracket. -/
theorem startTag?_append {tag : List Char} (htag : IsTagText tag)
    {attributes : List WrittenAttribute} (h : ∀ a ∈ attributes, a.IsSpelled)
    (rest : List Char) :
    startTag? (tag ++ (writeAttributes attributes ++ '>' :: rest)) =
      some ⟨tag, writeAttributes attributes, rest⟩ := by
  have hrun : ∀ c ∈ tag, isNameChar c = true :=
    fun c hc => (isNameChar_of_isTagChar (htag.chars c hc)).1
  have hstop : Stops isNameChar (writeAttributes attributes ++ '>' :: rest) :=
    stops_writeAttributes (by decide) attributes (stops_cons (by decide) rest)
  have hdrop := dropWhile_append_stop hrun hstop
  have htake := takeWhile_append_stop hrun hstop
  have hread := dropAttributes_writeAttributes h rest
  unfold startTag?
  simp only [htag.startsWithLetter_append, Bool.not_true, Bool.false_eq_true, if_false, hdrop,
    htake]
  rcases writeAttributes_eq_nil_or_cons attributes with hnil | ⟨cs, hcs⟩
  · simp [hnil]
  · have hblank : isBlank ' ' = true := by decide
    have hlength : cs.length + (rest.length + 1) - rest.length = cs.length + 1 := by omega
    simp only [hcs, List.cons_append] at hread ⊢
    simp [hread, hblank, hlength]

/-! ## Tags of a template -/

/-- The rules of markup elements are those of names without a dash. -/
theorem dash_not_mem_ruledNames : ∀ name ∈ ruledNames, '-' ∉ name.toList := by
  decide +kernel

/-- A tag with a dash holds no capitals, and only characters of tags. -/
theorem not_isUpper_of_dashed {tag : List Char} (h : isDashedTag tag = true) :
    ∀ c ∈ tag, c.isUpper = false ∧ isTagChar c = true := by
  intro c hc
  simp only [isDashedTag, Bool.and_eq_true, List.all_eq_true] at h
  have hchar := h.1.2 c hc
  have hascii : c.toNat < 128 := by
    simp only [Bool.or_eq_true, beq_iff_eq] at hchar
    rcases hchar with (hchar | hchar) | rfl
    · exact toNat_lt_of_isAlphanum (by simp [Char.isAlphanum, Char.isAlpha, hchar])
    · exact toNat_lt_of_isAlphanum (by simp [Char.isAlphanum, hchar])
    · decide
  have hall := forall_ascii
    (p := fun c => !(c.isLower || c.isDigit || c == '-') || (!c.isUpper && isTagChar c))
    (by decide_cbv) hascii
  simpa [hchar] using hall

/-- A text without capitals is in lower case. -/
theorem map_toLower_of_not_isUpper {cs : List Char} (h : ∀ c ∈ cs, c.isUpper = false) :
    cs.map Char.toLower = cs := by
  rw [List.map_congr_left (g := id), List.map_id]
  intro c hc
  exact toLower_of_not_isUpper (h c hc)

/-- A tag is a known one, or no rule of markup is about it. -/
theorem IsElementTag.known_or_not_ruled {tag : List Char} (h : IsElementTag tag) :
    tag ∈ knownTags ∨ String.ofList (tag.map Char.toLower) ∉ ruledNames := by
  have hkind := h.kind
  simp only [Bool.or_eq_true, List.contains_eq_mem, decide_eq_true_eq] at hkind
  rcases hkind with (hdashed | hcomponent) | hknown
  · have hlower := map_toLower_of_not_isUpper fun c hc => (not_isUpper_of_dashed hdashed c hc).1
    simp only [isDashedTag, Bool.and_eq_true, List.contains_eq_mem, decide_eq_true_eq] at hdashed
    refine Or.inr fun hmem => dash_not_mem_ruledNames _ hmem ?_
    rw [hlower, String.toList_ofList]
    exact hdashed.2
  · simp only [isComponentTag, Bool.and_eq_true, Bool.not_eq_true', List.contains_eq_mem,
      decide_eq_false_iff_not] at hcomponent
    exact Or.inr hcomponent.2
  · exact Or.inl hknown

/-- A tag that is not that of a component is written in lower case. -/
theorem IsElementTag.not_isUpper {tag : List Char} (h : IsElementTag tag)
    (hcomponent : isComponentTag tag = false) : ∀ c ∈ tag, c.isUpper = false := by
  have hkind := h.kind
  simp only [hcomponent, Bool.or_false, Bool.or_eq_true, List.contains_eq_mem,
    decide_eq_true_eq] at hkind
  rcases hkind with hdashed | hknown
  · exact fun c hc => (not_isUpper_of_dashed hdashed c hc).1
  · have hall : ∀ tag ∈ knownTags, ∀ c ∈ tag, c.isUpper = false := by decide +kernel
    exact hall tag hknown

/-- A tag is written with the characters of a tag. -/
theorem IsElementTag.isTagText {tag : List Char} (h : IsElementTag tag) : IsTagText tag := by
  have hkind := h.kind
  simp only [Bool.or_eq_true, List.contains_eq_mem, decide_eq_true_eq] at hkind
  rcases hkind with (hdashed | hcomponent) | hknown
  · refine ⟨?_, fun c hc => (not_isUpper_of_dashed hdashed c hc).2⟩
    simp only [isDashedTag, Bool.and_eq_true] at hdashed
    cases tag with
    | nil => simp at hdashed
    | cons c tag => exact ⟨c, rfl, by simpa [Char.isAlpha] using Or.inr hdashed.1.1⟩
  · simp only [isComponentTag, Bool.and_eq_true, List.all_eq_true] at hcomponent
    refine ⟨?_, fun c hc => by simp [isTagChar, hcomponent.1.2 c hc]⟩
    cases tag with
    | nil => simp at hcomponent
    | cons c tag => exact ⟨c, rfl, by simpa [Char.isAlpha] using Or.inl hcomponent.1.1⟩
  · have hall : ∀ tag ∈ knownTags, (∃ c ∈ tag.head?, c.isAlpha = true) ∧
        ∀ c ∈ tag, isTagChar c = true := by decide +kernel
    exact ⟨(hall tag hknown).1, (hall tag hknown).2⟩

/-- A name that starts with a capital, so that the preparation records its spelling. -/
def isCapitalTag (tag : List Char) : Bool :=
  (tag.head?.map Char.isUpper).getD false && tag.all Char.isAlphanum

/-- A name that starts with a capital or holds none. -/
structure IsCasedTag (tag : List Char) : Prop extends IsTagText tag where
  casing : isCapitalTag tag = true ∨ ∀ c ∈ tag, c.isUpper = false

/-- A tag starts with a capital or holds none. -/
theorem IsElementTag.isCasedTag {tag : List Char} (h : IsElementTag tag) : IsCasedTag tag := by
  refine ⟨h.isTagText, ?_⟩
  by_cases hcomponent : isComponentTag tag = true
  · simp only [isComponentTag, Bool.and_eq_true] at hcomponent
    refine Or.inl ?_
    rw [isCapitalTag, hcomponent.1.1, hcomponent.1.2]
    rfl
  · exact Or.inr (h.not_isUpper (by simpa using hcomponent))

/-- No element that a template may use is without content by its name. -/
theorem IsElementTag.isVoidName_eq_false {tag : List Char} (h : IsElementTag tag) :
    isVoidName tag = false := by
  have hruled : ∀ name ∈ voidNames, name ∈ ruledNames := by decide_cbv
  have hknown : ∀ tag ∈ knownTags, isVoidName tag = false := by decide_cbv
  rcases h.known_or_not_ruled with hmem | hnot
  · exact hknown tag hmem
  · rw [isVoidName, List.contains_eq_mem, decide_eq_false_iff_not]
    exact fun hmem => hnot (hruled _ hmem)

end TemplateImports.Template
