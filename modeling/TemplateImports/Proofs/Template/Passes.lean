import TemplateImports.Proofs.Template.TagText

/-!
# What the preparation makes of a written template

Each pass of the preparation changes only the tags of a template, and each tag on its own.  A
spelling says how the tags of elements are written; a pass leads from one spelling to the next one.
In the last spelling no tag is self-closed, selections have their neutral name, and markers record
the spellings of names.

Main results:

- Structure `Spelling.Rewrites` says that a pass leads from one spelling to another.
- Theorem `Spelling.Rewrites.spellAll_append` passes from the tags to whole forests.
- Theorem `prepare_writeAll` is the text that a written template is prepared to.
-/

namespace TemplateImports.Template

open Markup (Attribute)
open Text

/-! ## Stretches -/

/-- Text before the first bracket stands in the first stretch. -/
theorem stretches_append {cs : List Char} (h : '<' ∉ cs) (rest : List Char) :
    stretches (cs ++ rest) = (cs ++ (stretches rest).1, (stretches rest).2) := by
  induction cs with
  | nil => rfl
  | cons c cs ih =>
    simp only [List.mem_cons, not_or] at h
    have hc : (c == '<') = false := beq_eq_false_iff_ne.2 (Ne.symm h.1)
    simp [stretches, ih h.2, hc]

/-- A character outside of tags is kept. -/
theorem mapTags_cons_of_ne (f : List Char → List Char) {c : Char} (h : c ≠ '<')
    (cs : List Char) : mapTags f (c :: cs) = c :: mapTags f cs := by
  have hc : (c == '<') = false := beq_eq_false_iff_ne.2 h
  simp [mapTags, stretches, hc]

/-- A function that changes only the beginning of a stretch changes only one tag. -/
theorem mapTags_tag {f : List Char → List Char} {inside : List Char} (h : '<' ∉ inside)
    (result : List Char) (hf : ∀ tail, f (inside ++ tail) = result ++ tail) (rest : List Char) :
    mapTags f ('<' :: (inside ++ rest)) = '<' :: (result ++ mapTags f rest) := by
  have hstretches : stretches ('<' :: (inside ++ rest)) =
      ([], (inside ++ (stretches rest).1) :: (stretches rest).2) := by
    have happ := stretches_append h rest
    simp [stretches, happ]
  simp [mapTags, hstretches, hf]

/-! ## Spellings -/

/-- How the tags of elements are written: what stands between the brackets. -/
structure Spelling where
  opening : List Char → List WrittenAttribute → List Char
  ending : List Char → List Char

mutual

/-- The text of a node in a spelling.  Every element has both of its tags. -/
def Written.spell (s : Spelling) : Written → List Char
  | .text cs => cs
  | .element tag attributes children =>
    '<' :: (s.opening tag attributes ++ '>' ::
      (Written.spellAll s children ++ '<' :: '/' :: (s.ending tag ++ ['>'])))
  | .closed tag attributes =>
    '<' :: (s.opening tag attributes ++ '>' :: '<' :: '/' :: (s.ending tag ++ ['>']))

/-- The text of a forest in a spelling. -/
def Written.spellAll (s : Spelling) : List Written → List Char
  | [] => []
  | w :: ws => w.spell s ++ Written.spellAll s ws

end

/-- A pass over a text that leads from one spelling to another. -/
structure Spelling.Rewrites (pass : List Char → List Char) (s s' : Spelling) : Prop where
  keeps : ∀ {c : Char}, c ≠ '<' → ∀ cs, pass (c :: cs) = c :: pass cs
  opening : ∀ {tag : List Char} {attributes : List WrittenAttribute}, IsCasedTag tag →
    WellFormedAttributes attributes → ∀ rest,
      pass ('<' :: (s.opening tag attributes ++ '>' :: rest)) =
        '<' :: (s'.opening tag attributes ++ '>' :: pass rest)
  ending : ∀ {tag : List Char}, IsCasedTag tag → ∀ rest,
    pass ('<' :: '/' :: (s.ending tag ++ '>' :: rest)) =
      '<' :: '/' :: (s'.ending tag ++ '>' :: pass rest)

/-- Written text holds no character that is not allowed in text. -/
theorem IsWrittenText.not_mem {cs : List Char} (h : IsWrittenText cs) {c : Char}
    (hc : isTextChar c = false) : c ∉ cs := by
  intro hmem
  rw [h.chars c hmem] at hc
  exact absurd hc (by decide)

/-- A forest that may be written can be prepared: its texts hold no brackets. -/
theorem Written.AllWellFormed.prepared {ws : List Written} (h : AllWellFormed ws) :
    AllMadeOf IsElementTag ('<' ∉ ·) ws :=
  h.madeOf.mono (fun _ htag => htag.isElementTag) fun _ hcs => hcs.not_mem (by decide)

namespace Spelling.Rewrites

variable {pass : List Char → List Char} {s s' : Spelling}

/-- A pass keeps text without brackets. -/
theorem text_append (h : Rewrites pass s s') {cs : List Char} (hcs : '<' ∉ cs)
    (rest : List Char) : pass (cs ++ rest) = cs ++ pass rest := by
  induction cs with
  | nil => rfl
  | cons c cs ih =>
    simp only [List.mem_cons, not_or] at hcs
    rw [List.cons_append, h.keeps (Ne.symm hcs.1), ih hcs.2, List.cons_append]

mutual

/-- A pass goes over one written node and then over the rest. -/
theorem spell_append (h : Rewrites pass s s') {w : Written}
    (hw : w.MadeOf IsElementTag ('<' ∉ ·)) (rest : List Char) :
    pass (w.spell s ++ rest) = w.spell s' ++ pass rest := by
  cases w with
  | text cs =>
    rw [Written.spell, Written.spell]
    exact h.text_append hw rest
  | element tag attributes children =>
    obtain ⟨htag, hattributes, hchildren⟩ := hw
    simp only [Written.spell, List.cons_append, List.append_assoc, List.nil_append]
    rw [h.opening htag.isCasedTag hattributes, spellAll_append h hchildren,
      h.ending htag.isCasedTag]
  | closed tag attributes =>
    obtain ⟨htag, hattributes⟩ := hw
    simp only [Written.spell, List.cons_append, List.append_assoc, List.nil_append]
    rw [h.opening htag.isCasedTag hattributes, h.ending htag.isCasedTag]

/-- A pass leads from the text of a forest to its text in the other spelling. -/
theorem spellAll_append (h : Rewrites pass s s') {ws : List Written}
    (hws : Written.AllMadeOf IsElementTag ('<' ∉ ·) ws) (rest : List Char) :
    pass (Written.spellAll s ws ++ rest) = Written.spellAll s' ws ++ pass rest := by
  cases ws with
  | nil => rfl
  | cons w ws =>
    obtain ⟨hw, hws⟩ := hws
    simp only [Written.spellAll, List.append_assoc]
    rw [spell_append h hw, spellAll_append h hws]

end

/-- A function of stretches is a pass if it does the same to all stretches with equal tags. -/
theorem mapTags {f : List Char → List Char}
    (hopening : ∀ {tag : List Char} {attributes : List WrittenAttribute}, IsCasedTag tag →
      WellFormedAttributes attributes → '<' ∉ s.opening tag attributes ∧
        ∀ tail, f (s.opening tag attributes ++ '>' :: tail) =
          s'.opening tag attributes ++ '>' :: tail)
    (hending : ∀ {tag : List Char}, IsCasedTag tag → '<' ∉ s.ending tag ∧
      ∀ tail, f ('/' :: (s.ending tag ++ '>' :: tail)) = '/' :: (s'.ending tag ++ '>' :: tail)) :
    Rewrites (Template.mapTags f) s s' where
  keeps hc cs := mapTags_cons_of_ne f hc cs
  opening := by
    intro tag attributes htag hattributes rest
    obtain ⟨hbracket, hf⟩ := hopening htag hattributes
    have hinside : '<' ∉ s.opening tag attributes ++ ['>'] := by simp [hbracket]
    have hread := mapTags_tag (f := f) hinside (s'.opening tag attributes ++ ['>'])
      (fun tail => by simpa using hf tail) rest
    simpa using hread
  ending := by
    intro tag htag rest
    obtain ⟨hbracket, hf⟩ := hending htag
    have hinside : '<' ∉ '/' :: (s.ending tag ++ ['>']) := by simp [hbracket]
    have hread := mapTags_tag (f := f) hinside ('/' :: (s'.ending tag ++ ['>']))
      (fun tail => by simpa using hf tail) rest
    simpa using hread

end Spelling.Rewrites

/-! ## Self-closed tags -/

namespace Spelling

/-- Tags as they are meant, none of them self-closed. -/
def plain : Spelling where
  opening tag attributes := tag ++ writeAttributes attributes
  ending tag := tag

end Spelling

/-- Well-formed attributes are spelled without brackets. -/
theorem WellFormedAttributes.isSpelled {attributes : List WrittenAttribute}
    (h : WellFormedAttributes attributes) : ∀ a ∈ attributes, a.IsSpelled :=
  fun a ha => (h.each a ha).isSpelled

/-- The text of attributes ends with a quote or with a character of a name. -/
theorem writeAttributes_eq_nil_or_concat {attributes : List WrittenAttribute}
    (h : ∀ a ∈ attributes, a.IsSpelled) : writeAttributes attributes = [] ∨
      ∃ start last, writeAttributes attributes = start ++ [last] ∧ isBlank last = false ∧
        last ≠ '/' := by
  rcases List.eq_nil_or_concat attributes with rfl | ⟨start, a, rfl⟩
  · exact Or.inl rfl
  · have ha := h a (by simp)
    have happ : writeAttributes (start.concat a) = writeAttributes start ++ a.write := by
      simp [writeAttributes]
    cases a with
    | bare name =>
      rcases List.eq_nil_or_concat name with rfl | ⟨before, last, rfl⟩
      · exact absurd rfl ha.name_ne_nil
      · have hlast : WrittenAttribute.isHarmless last = true :=
          ha.harmless (by simp [WrittenAttribute.name])
        have hslash : last ≠ '/' := by
          rintro rfl
          exact absurd hlast (by decide)
        simp only [WrittenAttribute.isHarmless, isAttributeChar, Bool.and_eq_true,
          Bool.not_eq_true'] at hlast
        refine Or.inr ⟨writeAttributes start ++ ' ' :: before, last, ?_, hlast.1.1.1.1, hslash⟩
        rw [happ]
        simp [WrittenAttribute.write]
    | quoted name value =>
      refine Or.inr ⟨writeAttributes start ++ ' ' :: name ++ '=' :: '"' :: value, '"', ?_,
        by decide, by decide⟩
      rw [happ]
      simp [WrittenAttribute.write]

section SelfClosed

variable {tag : List Char} {attributes : List WrittenAttribute}

/-- Spelled attributes hold no closing bracket. -/
theorem close_not_mem_writeAttributes (h : ∀ a ∈ attributes, a.IsSpelled) :
    '>' ∉ writeAttributes attributes :=
  not_mem_writeAttributes h (by decide) (by decide) (by decide)

/-- Spelled attributes hold no opening bracket. -/
theorem open_not_mem_writeAttributes (h : ∀ a ∈ attributes, a.IsSpelled) :
    '<' ∉ writeAttributes attributes :=
  not_mem_writeAttributes h (by decide) (by decide) (by decide)

/-- The tag of an element without content is left as it is. -/
theorem expandTag_of_isVoidName (htag : IsTagText tag) (hvoid : isVoidName tag = true)
    {tail : List Char} (htail : Stops isNameChar tail) :
    expandTag (tag ++ tail) = tag ++ tail := by
  have hrun : ∀ c ∈ tag, isNameChar c = true :=
    fun c hc => (isNameChar_of_isTagChar (htag.chars c hc)).1
  unfold expandTag
  simp only [takeWhile_append_stop hrun htail, hvoid, Bool.or_true, if_true]

/-- A tag is cut into its name, the text up to its closing bracket, and the rest. -/
theorem expandTag_append (htag : IsTagText tag) (hvoid : isVoidName tag = false)
    {inside : List Char} (hclose : '>' ∉ inside)
    (hstop : Stops isNameChar (inside ++ ['>'])) (tail : List Char) :
    expandTag (tag ++ (inside ++ '>' :: tail)) =
      match selfClosedAttributes? inside with
      | some attributes => tag ++ attributes ++ "></".toList ++ tag ++ '>' :: tail
      | none => tag ++ (inside ++ '>' :: tail) := by
  have hrun : ∀ c ∈ tag, isNameChar c = true :=
    fun c hc => (isNameChar_of_isTagChar (htag.chars c hc)).1
  have hstop' : Stops isNameChar (inside ++ '>' :: tail) := by
    cases inside with
    | nil => exact hstop
    | cons c inside => exact hstop
  have hdrop := dropWhile_append_stop hrun hstop'
  have htake := takeWhile_append_stop hrun hstop'
  have hinside : ∀ c ∈ inside, (c != '>') = true := by
    intro c hc
    simp only [bne_iff_ne, ne_eq]
    rintro rfl
    exact hclose hc
  have hend : Stops (· != '>') ('>' :: tail) := stops_cons (by decide) tail
  have hdrop' := dropWhile_append_stop hinside hend
  have htake' := takeWhile_append_stop hinside hend
  cases hattributes : selfClosedAttributes? inside <;>
    simp only [expandTag, hdrop, htake, hdrop', htake', htag.startsWithLetter_append,
      hvoid, hattributes, Bool.not_true, Bool.or_self, Bool.false_eq_true,
      if_false]

/-- A tag that is not self-closed is left as it is. -/
theorem expandTag_opening (htag : IsTagText tag) (h : ∀ a ∈ attributes, a.IsSpelled)
    (tail : List Char) :
    expandTag (tag ++ (writeAttributes attributes ++ '>' :: tail)) =
      tag ++ (writeAttributes attributes ++ '>' :: tail) := by
  by_cases hvoid : isVoidName tag = true
  · exact expandTag_of_isVoidName htag hvoid
      (stops_writeAttributes (by decide) attributes (stops_cons (by decide) tail))
  have hnone : selfClosedAttributes? (writeAttributes attributes) = none := by
    rcases writeAttributes_eq_nil_or_concat h with hnil | ⟨start, last, hlast, -, hslash⟩
    · rw [hnil]
      rfl
    · simp [selfClosedAttributes?, hlast, hslash]
  rw [expandTag_append htag (by simpa using hvoid) (close_not_mem_writeAttributes h)
    (stops_writeAttributes (by decide) attributes (stops_cons (by decide) [])), hnone]

/-- A self-closed tag gets an end tag. -/
theorem expandTag_closed (htag : IsTagText tag) (hvoid : isVoidName tag = false)
    (h : ∀ a ∈ attributes, a.IsSpelled) (tail : List Char) :
    expandTag (tag ++ (writeAttributes attributes ++ '/' :: '>' :: tail)) =
      tag ++ (writeAttributes attributes ++ '>' :: '<' :: '/' :: (tag ++ '>' :: tail)) := by
  have hsome : selfClosedAttributes? (writeAttributes attributes ++ ['/']) =
      some (writeAttributes attributes) := by
    have htrim : trimEnd (writeAttributes attributes) = writeAttributes attributes := by
      rcases writeAttributes_eq_nil_or_concat h with hnil | ⟨start, last, hlast, hblank, -⟩
      · rw [hnil]
        rfl
      · simp [trimEnd, hlast, hblank]
    rcases writeAttributes_eq_nil_or_cons attributes with hnil | ⟨cs, hcs⟩
    · simp [selfClosedAttributes?, hnil]
    · have hspace : isBlank ' ' = true := by decide
      rw [hcs] at htrim
      unfold selfClosedAttributes?
      rw [hcs, List.getLast?_concat, List.dropLast_concat]
      simp [hspace, htrim]
  have hclose : '>' ∉ writeAttributes attributes ++ ['/'] := by
    simp [close_not_mem_writeAttributes h]
  have hstop : Stops isNameChar ((writeAttributes attributes ++ ['/']) ++ ['>']) := by
    rw [List.append_assoc]
    exact stops_writeAttributes (by decide) attributes (stops_cons (by decide) _)
  have hexpand := expandTag_append htag hvoid hclose hstop tail
  rw [hsome] at hexpand
  simpa using hexpand

end SelfClosed

/-- An end tag closes nothing more. -/
theorem expandTag_ending (cs : List Char) : expandTag ('/' :: cs) = '/' :: cs := by
  have hletter : startsWithLetter ('/' :: cs) = false := by
    have hslash : '/'.isAlpha = false := by decide
    simp [startsWithLetter, hslash]
  simp [expandTag, hletter]

/-- Expanding self-closed tags keeps tags that are spelled in full. -/
theorem rewrites_expandTag : Spelling.Rewrites expandSelfClosed .plain .plain :=
  Spelling.Rewrites.mapTags
    (fun htag hattributes => by
      have hspelled := hattributes.isSpelled
      refine ⟨?_, fun tail => ?_⟩
      · simp [Spelling.plain, htag.not_mem (show isTagChar '<' = false by decide),
          open_not_mem_writeAttributes hspelled]
      · simpa [Spelling.plain] using expandTag_opening htag.toIsTagText hspelled tail)
    (fun htag =>
      ⟨htag.not_mem (by decide), fun tail => expandTag_ending _⟩)

mutual

/-- Expanding self-closed tags spells a written node in full. -/
theorem expandSelfClosed_write_append {w : Written} (hw : w.MadeOf IsElementTag ('<' ∉ ·))
    (rest : List Char) :
    expandSelfClosed (w.write ++ rest) = w.spell .plain ++ expandSelfClosed rest := by
  cases w with
  | text cs =>
    rw [Written.write, Written.spell]
    exact rewrites_expandTag.text_append hw rest
  | element tag attributes children =>
    obtain ⟨htag, hattributes, hchildren⟩ := hw
    have hopening := rewrites_expandTag.opening htag.isCasedTag hattributes
    have hending := rewrites_expandTag.ending htag.isCasedTag
    simp only [Spelling.plain, List.append_assoc] at hopening hending
    simp only [Written.write, Written.spell, Spelling.plain, List.cons_append, List.append_assoc,
      List.nil_append]
    rw [hopening, expandSelfClosed_writeAll_append hchildren, hending]
    rfl
  | closed tag attributes =>
    obtain ⟨htag, hattributes⟩ := hw
    have hspelled := hattributes.isSpelled
    have hinside : '<' ∉ tag ++ (writeAttributes attributes ++ ['/', '>']) := by
      simp [htag.isTagText.not_mem (show isTagChar '<' = false by decide),
        open_not_mem_writeAttributes hspelled]
    have hread := mapTags_tag (f := expandTag) hinside
      (tag ++ (writeAttributes attributes ++ '>' :: '<' :: '/' :: (tag ++ ['>'])))
      (fun tail => by
        simpa using expandTag_closed htag.isTagText htag.isVoidName_eq_false hspelled tail) rest
    simp only [Written.write, Written.spell, Spelling.plain, List.cons_append, List.append_assoc,
      List.nil_append] at hread ⊢
    exact hread

/-- The first pass gives every element both of its tags. -/
theorem expandSelfClosed_writeAll_append {ws : List Written}
    (hws : Written.AllMadeOf IsElementTag ('<' ∉ ·) ws) (rest : List Char) :
    expandSelfClosed (Written.writeAll ws ++ rest) =
      Written.spellAll .plain ws ++ expandSelfClosed rest := by
  cases ws with
  | nil => rfl
  | cons w ws =>
    obtain ⟨hw, hws⟩ := hws
    simp only [Written.writeAll, Written.spellAll, List.append_assoc]
    rw [expandSelfClosed_write_append hw, expandSelfClosed_writeAll_append hws]

end

/-! ## Selections and components -/

/-- The name that an element has in prepared markup. -/
def neutralName (tag : List Char) : List Char :=
  if tag = "select".toList then neutralSelect else tag

/-- The marker that records the spelling of a name. -/
def spellingMark (tag : List Char) : WrittenAttribute :=
  .quoted nameMarker.toList tag

/-- The marker of a selection. -/
def selectMarks (tag : List Char) : List WrittenAttribute :=
  if tag = "select".toList then [spellingMark tag] else []

/-- The marker of a selection or of a name with a capital. -/
def nameMarks (tag : List Char) : List WrittenAttribute :=
  if isCapitalTag tag then [spellingMark tag] else selectMarks tag

/-- A marker is written as an attribute is. -/
theorem writeMarker_eq (marker : String) (value : List Char) :
    writeMarker marker value = writeAttributes [.quoted marker.toList value] := by
  simp [writeMarker, writeAttributes, WrittenAttribute.write]

namespace Spelling

/-- Tags with neutral selections. -/
def neutral : Spelling where
  opening tag attributes := neutralName tag ++ writeAttributes (selectMarks tag ++ attributes)
  ending := neutralName

/-- Tags with recorded names of elements. -/
def named : Spelling where
  opening tag attributes := neutralName tag ++ writeAttributes (nameMarks tag ++ attributes)
  ending := neutralName

end Spelling

/-- Attributes are written one after the other. -/
theorem writeAttributes_append (first second : List WrittenAttribute) :
    writeAttributes (first ++ second) = writeAttributes first ++ writeAttributes second := by
  simp [writeAttributes]

theorem not_isCapitalTag_select : isCapitalTag "select".toList = false := by
  decide

/-- Prepared names are written with the characters of tags. -/
theorem IsTagText.isTagText_neutralName {tag : List Char} (h : IsTagText tag) :
    IsTagText (neutralName tag) := by
  unfold neutralName
  split
  · exact ⟨⟨'u', rfl, by decide⟩, by decide⟩
  · exact h

/-- A marker is spelled as an attribute, since a tag holds only characters of values. -/
theorem IsTagText.isSpelled_spellingMark {tag : List Char} (h : IsTagText tag) :
    (spellingMark tag).IsSpelled where
  starts := ⟨'d', rfl, by decide⟩
  chars := by
    have hall : ∀ c ∈ nameMarker.toList, WrittenAttribute.isNameChar c = true := by
      decide +kernel
    exact hall
  value_chars := fun c hc => (isNameChar_of_isTagChar (h.chars c hc)).2.2

/-- The marks of a selection are spelled without brackets. -/
theorem IsTagText.isSpelled_selectMarks {tag : List Char} (h : IsTagText tag) :
    ∀ a ∈ selectMarks tag, a.IsSpelled := by
  intro a ha
  unfold selectMarks at ha
  split at ha
  · rw [List.mem_singleton.1 ha]
    exact h.isSpelled_spellingMark
  · simp at ha

/-- The marks of a component are spelled without brackets. -/
theorem IsTagText.isSpelled_nameMarks {tag : List Char} (h : IsTagText tag) :
    ∀ a ∈ nameMarks tag, a.IsSpelled := by
  intro a ha
  unfold nameMarks at ha
  split at ha
  · rw [List.mem_singleton.1 ha]
    exact h.isSpelled_spellingMark
  · exact h.isSpelled_selectMarks a ha

theorem isSpelled_append {first second : List WrittenAttribute}
    (h : ∀ a ∈ first, a.IsSpelled) (h' : ∀ a ∈ second, a.IsSpelled) :
    ∀ a ∈ first ++ second, a.IsSpelled := by
  intro a ha
  rcases List.mem_append.1 ha with ha | ha
  · exact h a ha
  · exact h' a ha

/-- A name is read as a given word only if it is this word. -/
theorem isPrefixOf_and_endsName {word tag : List Char} {rest : List Char}
    (hword : ∀ c ∈ word, isTagChar c = true) (htag : ∀ c ∈ tag, isTagChar c = true)
    (hstop : Stops isTagChar rest) (hends : endsName rest = true) :
    (word.isPrefixOf (tag ++ rest) && endsName ((tag ++ rest).drop word.length)) =
      decide (tag = word) := by
  have hnot : ∀ {c : Char} (cs : List Char), isTagChar c = true → endsName (c :: cs) = false := by
    intro c cs hc
    have hall := forall_ascii
      (p := fun c => !isTagChar c || !(isBlank c || c == '/' || c == '>')) (by decide_cbv)
      (toNat_lt_of_isTagChar hc)
    simpa [hc, endsName] using hall
  induction word generalizing tag with
  | nil =>
    cases tag with
    | nil => simp [hends]
    | cons c tag => simp [hnot _ (htag c (by simp))]
  | cons x word ih =>
    have hx := hword x (by simp)
    have hrest : ∀ c ∈ word, isTagChar c = true := fun c hc => hword c (List.mem_cons_of_mem x hc)
    cases tag with
    | nil =>
      cases rest with
      | nil => simp
      | cons c rest =>
        have hc : x ≠ c := by
          rintro rfl
          rw [hstop x rfl] at hx
          exact absurd hx (by decide)
        simp [List.isPrefixOf_cons_cons, hc]
    | cons y tag =>
      have hih := ih hrest fun c hc => htag c (List.mem_cons_of_mem y hc)
      by_cases hxy : x = y
      · subst hxy
        simpa [List.isPrefixOf_cons_cons] using hih
      · simp [List.isPrefixOf_cons_cons, hxy, Ne.symm hxy]

/-- A name ends where the attributes of its tag begin. -/
theorem stops_isTagChar_writeAttributes (attributes : List WrittenAttribute) (tail : List Char) :
    Stops isTagChar (writeAttributes attributes ++ '>' :: tail) :=
  stops_writeAttributes (by decide) attributes (stops_cons (by decide) tail)

/-- The name of a tag ends before its attributes. -/
theorem endsName_writeAttributes (attributes : List WrittenAttribute) (tail : List Char) :
    endsName (writeAttributes attributes ++ '>' :: tail) = true := by
  rcases writeAttributes_eq_nil_or_cons attributes with hnil | ⟨cs, hcs⟩
  · simp [hnil, endsName]
  · have hblank : isBlank ' ' = true := by decide
    simp [hcs, endsName, hblank]

theorem isTagChar_select : ∀ c ∈ "select".toList, isTagChar c = true := by
  decide +kernel

/-- A selection gets its neutral name and a marker. -/
theorem neutralizeTag_opening {tag : List Char} (htag : IsTagText tag)
    (attributes : List WrittenAttribute) (tail : List Char) :
    neutralizeTag (tag ++ (writeAttributes attributes ++ '>' :: tail)) =
      neutralName tag ++ (writeAttributes (selectMarks tag ++ attributes) ++ '>' :: tail) := by
  have hselect := isPrefixOf_and_endsName isTagChar_select htag.chars
    (stops_isTagChar_writeAttributes attributes tail) (endsName_writeAttributes attributes tail)
  have hlength : "select".toList.length = 6 := by decide
  rw [hlength] at hselect
  unfold neutralizeTag
  rw [hselect]
  by_cases heq : tag = "select".toList
  · have hmarks : selectMarks tag = [.quoted nameMarker.toList "select".toList] := by
      simp [selectMarks, heq, spellingMark]
    have hdrop : (tag ++ (writeAttributes attributes ++ '>' :: tail)).drop 6 =
        writeAttributes attributes ++ '>' :: tail := by
      rw [heq]
      rfl
    rw [if_pos (decide_eq_true heq), hdrop, hmarks, writeAttributes_append, ← writeMarker_eq,
      neutralName, if_pos heq]
    simp only [List.append_assoc]
  · have hend : "/select".toList.isPrefixOf
        (tag ++ (writeAttributes attributes ++ '>' :: tail)) = false := by
      obtain ⟨c, cs, rfl, halpha⟩ := htag.exists_cons
      have hslash := Markup.Token.ne_of_isAlpha halpha (show '/'.isAlpha = false by decide)
      have hmark : "/select".toList = '/' :: "select".toList := rfl
      rw [hmark, List.cons_append, List.isPrefixOf_cons_cons]
      simp [Ne.symm hslash]
    have hname : neutralName tag = tag := if_neg heq
    have hmarks : selectMarks tag = [] := if_neg heq
    rw [if_neg (mt of_decide_eq_true heq), hend, hname, hmarks]
    rfl

/-- The end tag of a selection gets its neutral name. -/
theorem neutralizeTag_ending {tag : List Char} (htag : IsTagText tag) (tail : List Char) :
    neutralizeTag ('/' :: (tag ++ '>' :: tail)) = '/' :: (neutralName tag ++ '>' :: tail) := by
  have hselect := isPrefixOf_and_endsName isTagChar_select htag.chars
    (stops_isTagChar_writeAttributes [] tail) (endsName_writeAttributes [] tail)
  have hlength : "select".toList.length = 6 := by decide
  have hopen : "select".toList.isPrefixOf ('/' :: (tag ++ '>' :: tail)) = false := by
    have hmark : "select".toList = 's' :: "elect".toList := rfl
    rw [hmark, List.isPrefixOf_cons_cons]
    simp
  have hclose : "/select".toList.isPrefixOf ('/' :: (tag ++ '>' :: tail)) =
      "select".toList.isPrefixOf (tag ++ '>' :: tail) := by
    have hmark : "/select".toList = '/' :: "select".toList := rfl
    rw [hmark, List.isPrefixOf_cons_cons]
    simp
  rw [hlength] at hselect
  unfold neutralizeTag
  simp only [writeAttributes, List.flatMap_nil, List.nil_append] at hselect
  have hdrop : ∀ cs : List Char, ('/' :: cs).drop 7 = cs.drop 6 := fun cs => rfl
  rw [hopen, hclose, hdrop, hselect]
  by_cases heq : tag = "select".toList
  · have hrest : (tag ++ '>' :: tail).drop 6 = '>' :: tail := by
      rw [heq]
      rfl
    simp only [Bool.false_and, Bool.false_eq_true, if_false]
    rw [if_pos (decide_eq_true heq), hrest, neutralName, if_pos heq]
    rfl
  · have hname : neutralName tag = tag := if_neg heq
    simp only [Bool.false_and, Bool.false_eq_true, if_false]
    rw [if_neg (mt of_decide_eq_true heq), hname]

/-- The second pass renames selections and marks them. -/
theorem rewrites_neutralizeSelect : Spelling.Rewrites neutralizeSelect .plain .neutral :=
  Spelling.Rewrites.mapTags
    (fun htag hattributes => by
      refine ⟨?_, fun tail => ?_⟩
      · simp [Spelling.plain, htag.not_mem (show isTagChar '<' = false by decide),
          open_not_mem_writeAttributes hattributes.isSpelled]
      · simpa [Spelling.plain, Spelling.neutral] using neutralizeTag_opening htag.toIsTagText _ tail)
    (fun htag => ⟨htag.not_mem (by decide), fun tail => neutralizeTag_ending htag.toIsTagText tail⟩)

/-! ## Names of components -/

/-- A name with a capital is that of prepared markup. -/
theorem neutralName_of_isCapitalTag {tag : List Char} (h : isCapitalTag tag = true) :
    neutralName tag = tag ∧ selectMarks tag = [] := by
  have hne : tag ≠ "select".toList := by
    rintro rfl
    rw [not_isCapitalTag_select] at h
    exact absurd h (by decide)
  exact ⟨if_neg hne, if_neg hne⟩

/-- The name of any other element is left as it is. -/
theorem markTag_of_not_isUpper {stretch : List Char}
    (h : ∀ c ∈ stretch.head?, c.isUpper = false) : markTag stretch = stretch := by
  have hhead : (stretch.head?.map Char.isUpper).getD false = false := by
    cases stretch with
    | nil => rfl
    | cons c stretch => exact h c rfl
  unfold markTag
  simp only [hhead, Bool.false_and, Bool.false_eq_true, if_false]

/-- A name with a capital gets a marker. -/
theorem markTag_capital {tag : List Char} (h : isCapitalTag tag = true)
    (attributes : List WrittenAttribute) (tail : List Char) :
    markTag (tag ++ (writeAttributes attributes ++ '>' :: tail)) =
      tag ++ (writeAttributes (spellingMark tag :: attributes) ++ '>' :: tail) := by
  simp only [isCapitalTag, Bool.and_eq_true, List.all_eq_true] at h
  obtain ⟨hupper, halphanum⟩ := h
  have hrun : ∀ c ∈ tag, isComponentChar c = true := fun c hc => by
    simp [isComponentChar, halphanum c hc]
  have hstop : Stops isComponentChar (writeAttributes attributes ++ '>' :: tail) :=
    stops_writeAttributes (by decide) attributes (stops_cons (by decide) tail)
  have hdrop := dropWhile_append_stop hrun hstop
  have htake := takeWhile_append_stop hrun hstop
  have hhead : ((tag ++ (writeAttributes attributes ++ '>' :: tail)).head?.map
      Char.isUpper).getD false = true := by
    cases tag with
    | nil => simp at hupper
    | cons c tag => simpa using hupper
  have hwrite : writeAttributes (spellingMark tag :: attributes) =
      writeMarker nameMarker tag ++ writeAttributes attributes := by
    rw [writeMarker_eq, ← writeAttributes_append]
    rfl
  unfold markTag
  simp only [hdrop, htake, hhead, hwrite, Bool.true_and]
  rcases writeAttributes_eq_nil_or_cons attributes with hnil | ⟨cs, hcs⟩
  · simp [hnil]
  · have hblank : isBlank ' ' = true := by decide
    simp [hcs, hblank]

/-- The third pass marks the tags of components. -/
theorem rewrites_markComponents : Spelling.Rewrites markComponents .neutral .named :=
  Spelling.Rewrites.mapTags
    (fun {tag attributes} htag hattributes => by
      refine ⟨?_, fun tail => ?_⟩
      · have hname := htag.isTagText_neutralName.not_mem (show isTagChar '<' = false by decide)
        have hmarks := open_not_mem_writeAttributes
          (isSpelled_append htag.isSpelled_selectMarks hattributes.isSpelled)
        simp [Spelling.neutral, hname, hmarks]
      · simp only [Spelling.neutral, Spelling.named, List.append_assoc]
        by_cases hcapital : isCapitalTag tag = true
        · obtain ⟨hname, hselect⟩ := neutralName_of_isCapitalTag hcapital
          have hmarks : nameMarks tag = [spellingMark tag] := if_pos hcapital
          rw [hname, hselect, hmarks]
          exact markTag_capital hcapital attributes tail
        · have hlower := htag.casing.resolve_left hcapital
          have hmarks : nameMarks tag = selectMarks tag := if_neg hcapital
          rw [hmarks]
          apply markTag_of_not_isUpper
          intro c hc
          have hname : ∀ d ∈ (neutralName tag).head?, d.isUpper = false := by
            intro d hd
            unfold neutralName at hd
            split at hd
            · have hu : neutralSelect.head? = some 'u' := rfl
              rw [hu, Option.mem_some_iff] at hd
              rw [← hd]
              decide
            · exact hlower d (List.mem_of_mem_head? hd)
          obtain ⟨d, cs, hcons, -⟩ := htag.isTagText_neutralName.exists_cons
          rw [hcons] at hname hc
          simp only [List.cons_append, List.head?_cons] at hc hname
          exact hname c hc)
    (fun htag => by
      refine ⟨htag.isTagText_neutralName.not_mem (by decide), fun tail => markTag_of_not_isUpper ?_⟩
      intro c hc
      rw [List.head?_cons, Option.mem_some_iff] at hc
      rw [← hc]
      decide)

/-! ## Names of attributes -/

/-- The names with capitals among those of some attributes. -/
def capitalNames (attributes : List WrittenAttribute) : List (List Char) :=
  (attributes.map WrittenAttribute.name).filter (·.any Char.isUpper)

/-- The marker that records the names with capitals, if there are any. -/
def caseMarks (attributes : List WrittenAttribute) : List WrittenAttribute :=
  match capitalNames attributes with
  | [] => []
  | names => [.quoted caseMarker.toList (joinWith [' '] names)]

/-- The attributes that an element has in prepared markup. -/
def preparedAttributes (tag : List Char) (attributes : List WrittenAttribute) :
    List WrittenAttribute :=
  caseMarks attributes ++ (nameMarks tag ++ attributes)

/-- Tags with all names recorded. -/
def Spelling.prepared : Spelling where
  opening tag attributes := neutralName tag ++ writeAttributes (preparedAttributes tag attributes)
  ending := neutralName

/-- The names with capitals in a list are those of its parts. -/
theorem capitalNames_append (first second : List WrittenAttribute) :
    capitalNames (first ++ second) = capitalNames first ++ capitalNames second := by
  simp [capitalNames]

/-- The marker of an element name has no capitals. -/
theorem capitalNames_nameMarks (tag : List Char) : capitalNames (nameMarks tag) = [] := by
  have hmark : nameMarker.toList.any Char.isUpper = false := by decide_cbv
  have hnone : capitalNames [spellingMark tag] = [] := by
    simp [capitalNames, spellingMark, WrittenAttribute.name, hmark]
  unfold nameMarks selectMarks
  split
  · exact hnone
  · split
    · exact hnone
    · rfl

/-- The marker for names with capitals is one more attribute. -/
theorem caseMarkerFor_writeAttributes {attributes : List WrittenAttribute}
    (h : ∀ a ∈ attributes, a.IsSpelled) :
    caseMarkerFor (writeAttributes attributes) = writeAttributes (caseMarks attributes) := by
  unfold caseMarkerFor caseMarks capitalNames
  rw [attributeNames_writeAttributes h]
  cases (attributes.map WrittenAttribute.name).filter (·.any Char.isUpper) with
  | nil => rfl
  | cons name names => exact writeMarker_eq _ _

/-- A character outside of tags is kept by the last pass. -/
theorem markAttributes_cons_of_ne {c : Char} (h : c ≠ '<') (cs : List Char) :
    markAttributes (c :: cs) = c :: markAttributes cs := by
  rw [markAttributes]
  simp [h]

/-- The last pass keeps text without brackets. -/
theorem markAttributes_text_append {cs : List Char} (h : '<' ∉ cs) (rest : List Char) :
    markAttributes (cs ++ rest) = cs ++ markAttributes rest := by
  induction cs with
  | nil => rfl
  | cons c cs ih =>
    simp only [List.mem_cons, not_or] at h
    rw [List.cons_append, markAttributes_cons_of_ne (Ne.symm h.1), ih h.2, List.cons_append]

/-- The last pass puts its marker before the attributes of a start tag. -/
theorem markAttributes_of_startTag? {cs : List Char} {tag : StartTag}
    (h : startTag? cs = some tag) :
    markAttributes ('<' :: cs) = '<' :: tag.name ++ caseMarkerFor tag.attributes ++
      tag.attributes ++ '>' :: markAttributes tag.rest := by
  rw [markAttributes, if_pos (by decide)]
  split
  · rename_i found heq
    rw [h] at heq
    simp only [Option.some.injEq] at heq
    rw [heq]
  · rename_i heq
    rw [h] at heq
    simp at heq

/-- A start tag gets the marker that its attributes call for. -/
theorem markAttributes_startTag {tag : List Char} (htag : IsTagText tag)
    {attributes : List WrittenAttribute} (h : ∀ a ∈ attributes, a.IsSpelled)
    (rest : List Char) :
    markAttributes ('<' :: (tag ++ (writeAttributes attributes ++ '>' :: rest))) =
      '<' :: (tag ++ (writeAttributes (caseMarks attributes ++ attributes) ++
        '>' :: markAttributes rest)) := by
  rw [markAttributes_of_startTag? (startTag?_append htag h rest)]
  simp [caseMarkerFor_writeAttributes h, writeAttributes_append]

/-- An end tag is left as it is. -/
theorem markAttributes_endTag {tag : List Char} (htag : IsTagText tag) (rest : List Char) :
    markAttributes ('<' :: '/' :: (tag ++ '>' :: rest)) =
      '<' :: '/' :: (tag ++ '>' :: markAttributes rest) := by
  have hstart : startTag? ('/' :: (tag ++ '>' :: rest)) = none := by
    have hslash : '/'.isAlpha = false := by decide
    simp [startTag?, startsWithLetter, hslash]
  have hinside : '<' ∉ '/' :: (tag ++ ['>']) := by
    simp [htag.not_mem (show isTagChar '<' = false by decide)]
  have happ : '/' :: (tag ++ '>' :: rest) = ('/' :: (tag ++ ['>'])) ++ rest := by simp
  rw [markAttributes, if_pos (by decide)]
  split
  · rename_i heq
    rw [hstart] at heq
    simp at heq
  · rw [happ, markAttributes_text_append hinside]
    simp

/-- The last pass marks the names of attributes. -/
theorem rewrites_markAttributes : Spelling.Rewrites markAttributes .named .prepared where
  keeps hc cs := markAttributes_cons_of_ne hc cs
  opening := by
    intro tag attributes htag hattributes rest
    have hspelled := isSpelled_append htag.isSpelled_nameMarks hattributes.isSpelled
    have hread := markAttributes_startTag htag.isTagText_neutralName hspelled rest
    have hmarks : caseMarks (nameMarks tag ++ attributes) = caseMarks attributes := by
      unfold caseMarks
      rw [capitalNames_append, capitalNames_nameMarks, List.nil_append]
    rw [hmarks] at hread
    simpa [Spelling.named, Spelling.prepared, preparedAttributes] using hread
  ending htag rest := markAttributes_endTag htag.isTagText_neutralName rest

/-! ## All passes -/

/-- A written template is prepared tag by tag. -/
theorem prepare_writeAll {ws : List Written}
    (hws : Written.AllMadeOf IsElementTag ('<' ∉ ·) ws) :
    prepare (Written.writeAll ws) = Written.spellAll .prepared ws := by
  have hexpand := expandSelfClosed_writeAll_append hws []
  have hneutral := rewrites_neutralizeSelect.spellAll_append hws []
  have hnamed := rewrites_markComponents.spellAll_append hws []
  have hprepared := rewrites_markAttributes.spellAll_append hws []
  have hnil : expandSelfClosed [] = [] ∧ neutralizeSelect [] = [] ∧ markComponents [] = [] ∧
      markAttributes [] = [] :=
    ⟨rfl, rfl, rfl, markAttributes_of_no_bracket (by simp)⟩
  simp only [List.append_nil, hnil] at hexpand hneutral hnamed hprepared
  rw [prepare, hexpand, hneutral, hnamed, hprepared]

end TemplateImports.Template
