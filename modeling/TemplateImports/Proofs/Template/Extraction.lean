import TemplateImports.Proofs.Markup.Keeping
import TemplateImports.Proofs.Markup.Tidiness
import TemplateImports.Proofs.Template.Mentions
import TemplateImports.Proofs.Template.RoundTrip

/-!
# Extracting all names of a template

A template is a sequence of texts and tags.  Whatever the order of its tags, whether they match or
not, every opening tag leaves an element behind, with the name and the attributes that are written,
so that its names are extracted.  There are two exceptions.  The content of an element such as a
`textarea` is text, and tags in it are not tags.  And some tags are dropped where they do not
belong: parts of tables outside of tables, tables between parts of a table, and forms in forms.

The reading goes on from piece to piece with the text that has been met but not read yet: texts run
up to the next tag, and the text of an element runs up to its end tag.

Main results:

- Definition `Piece.standing` lists the opening tags that do not stand inside of text.
- Theorem `prepare_writeAll_pieces` says what a sequence of pieces is prepared to.
- Theorem `keeps_pieces` says that reading it keeps an element for each of these tags.
- Theorem `mentions_ofTemplate` says that their names are extracted.
-/

namespace TemplateImports.Template

open Markup (Attribute Builder Token Kind rawContents disruptiveLabels contextualLabels)
open Markup.Builder (Between Reading)
open Markup.Node (kinds)
open Text

/-! ## Pieces -/

/-- A piece of a template: a text or a tag. -/
inductive Piece where
  | text (cs : List Char)
  | opening (tag : List Char) (attributes : List WrittenAttribute)
  /-- A self-closed tag. -/
  | closed (tag : List Char) (attributes : List WrittenAttribute)
  | ending (tag : List Char)
deriving Repr

/-- A tag that does not decide about the tags around it. -/
structure IsMildTag (tag : List Char) : Prop extends IsCasedTag tag where
  mild : preparedLabel tag ∉ disruptiveLabels

instance (tag : List Char) : Decidable (IsMildTag tag) :=
  decidable_of_iff ((∃ c ∈ tag.head?, c.isAlpha = true) ∧ (∀ c ∈ tag, isTagChar c = true) ∧
      (isCapitalTag tag = true ∨ ∀ c ∈ tag, c.isUpper = false) ∧
      preparedLabel tag ∉ disruptiveLabels)
    ⟨fun h => ⟨⟨⟨h.1, h.2.1⟩, h.2.2.1⟩, h.2.2.2⟩, fun h => ⟨h.starts, h.chars, h.casing, h.mild⟩⟩

namespace Piece

/-- Whether a piece is a text. -/
def isText : Piece → Bool
  | text _ => true
  | _ => false

/-- The text of a piece. -/
def write : Piece → List Char
  | text cs => cs
  | opening tag attributes => '<' :: (tag ++ (writeAttributes attributes ++ ['>']))
  | closed tag attributes => '<' :: (tag ++ (writeAttributes attributes ++ ['/', '>']))
  | ending tag => '<' :: '/' :: (tag ++ ['>'])

/-- The text of a sequence of pieces. -/
def writeAll (pieces : List Piece) : List Char :=
  pieces.flatMap write

/-- The text of a piece in a spelling, in which no tag is self-closed. -/
def spell (s : Spelling) : Piece → List Char
  | text cs => cs
  | opening tag attributes => '<' :: (s.opening tag attributes ++ ['>'])
  | closed tag attributes =>
    '<' :: (s.opening tag attributes ++ '>' :: '<' :: '/' :: (s.ending tag ++ ['>']))
  | ending tag => '<' :: '/' :: (s.ending tag ++ ['>'])

/-- The text of a sequence of pieces in a spelling. -/
def spellAll (s : Spelling) (pieces : List Piece) : List Char :=
  pieces.flatMap (spell s)

section Spell

variable (s : Spelling) (tag : List Char) (attributes : List WrittenAttribute)

@[simp] theorem spell_text (cs : List Char) : (text cs).spell s = cs := rfl

@[simp] theorem spell_opening :
    (opening tag attributes).spell s = '<' :: (s.opening tag attributes ++ ['>']) := rfl

@[simp] theorem spell_closed : (closed tag attributes).spell s =
    '<' :: (s.opening tag attributes ++ '>' :: '<' :: '/' :: (s.ending tag ++ ['>'])) := rfl

@[simp] theorem spell_ending :
    (ending tag).spell s = '<' :: '/' :: (s.ending tag ++ ['>']) := rfl

end Spell

/-- A piece that may be written, whose tag has a certain property.  Elements without content are
not self-closed. -/
def MadeOf (isTag : List Char → Prop) : Piece → Prop
  | text cs => ∀ c ∈ cs, isTextChar c = true
  | opening tag attributes => isTag tag ∧ WellFormedAttributes attributes
  | closed tag attributes => isTag tag ∧ isVoidName tag = false ∧ WellFormedAttributes attributes
  | ending tag => isTag tag

instance decidableMadeOf (isTag : List Char → Prop) [DecidablePred isTag] :
    (p : Piece) → Decidable (p.MadeOf isTag)
  | text _ => inferInstanceAs (Decidable (∀ _ ∈ _, _))
  | opening _ _ => inferInstanceAs (Decidable (_ ∧ _))
  | closed _ _ => inferInstanceAs (Decidable (_ ∧ _))
  | ending tag => inferInstanceAs (Decidable (isTag tag))

/-- Pieces of tags of one sort are pieces of tags of a wider one. -/
theorem MadeOf.mono {isTag isTag' : List Char → Prop} (htags : ∀ tag, isTag tag → isTag' tag)
    {p : Piece} (h : p.MadeOf isTag) : p.MadeOf isTag' := by
  cases p with
  | text cs => exact h
  | opening tag attributes => exact ⟨htags tag h.1, h.2⟩
  | closed tag attributes => exact ⟨htags tag h.1, h.2⟩
  | ending tag => exact htags tag h

/-- A piece of a template in which no tag decides about the tags around it. -/
def WellFormed (p : Piece) : Prop :=
  p.MadeOf IsMildTag

instance (p : Piece) : Decidable p.WellFormed :=
  inferInstanceAs (Decidable (p.MadeOf IsMildTag))

/-- All tags start with capitals or hold none. -/
theorem WellFormed.cased {p : Piece} (h : p.WellFormed) : p.MadeOf IsCasedTag :=
  MadeOf.mono (fun _ htag => htag.toIsCasedTag) h

/-! ## Tags inside of text -/

/-- The label of an element whose content is text, if a tag opens one. -/
def textLabel? (tag : List Char) : Option String :=
  if (rawContents.lookup (preparedLabel tag)).isSome then some (preparedLabel tag) else none

/-- The element whose text goes on behind an end tag. -/
def afterEnding (label : String) (tag : List Char) : Option String :=
  if preparedLabel tag = label then none else some label

/-- The opening tags that do not stand inside of text, where the text of an element with the given
label goes on in front of the first piece. -/
def standing : Option String → List Piece → List (List Char × List WrittenAttribute)
  | _, [] => []
  | inText, text _ :: pieces => standing inText pieces
  | none, opening tag attributes :: pieces =>
    (tag, attributes) :: standing (textLabel? tag) pieces
  | none, closed tag attributes :: pieces => (tag, attributes) :: standing none pieces
  | none, ending _ :: pieces => standing none pieces
  | some label, opening _ _ :: pieces => standing (some label) pieces
  | some label, closed tag _ :: pieces => standing (afterEnding label tag) pieces
  | some label, ending tag :: pieces => standing (afterEnding label tag) pieces

section Standing

variable {inText : Option String} {label : String} {cs tag : List Char}
  {attributes : List WrittenAttribute} {pieces : List Piece}

@[simp] theorem standing_nil : standing inText [] = [] := by
  cases inText <;> rfl

@[simp] theorem standing_text : standing inText (text cs :: pieces) = standing inText pieces := by
  cases inText <;> rfl

/-- Outside of text, a start tag stands. -/
@[simp] theorem standing_none_opening : standing none (opening tag attributes :: pieces) =
    (tag, attributes) :: standing (textLabel? tag) pieces := rfl

@[simp] theorem standing_none_ending :
    standing none (ending tag :: pieces) = standing none pieces := rfl

@[simp] theorem standing_some_opening :
    standing (some label) (opening tag attributes :: pieces) = standing (some label) pieces := rfl

/-- Inside of text, only an end tag changes where the pieces stand. -/
@[simp] theorem standing_some_ending : standing (some label) (ending tag :: pieces) =
    standing (afterEnding label tag) pieces := rfl

/-- A self-closed tag stands where an opening tag with its end tag does. -/
theorem standing_closed : standing inText (closed tag attributes :: pieces) =
    standing inText (opening tag attributes :: ending tag :: pieces) := by
  cases inText with
  | some label => rfl
  | none =>
    rw [standing_none_opening, textLabel?]
    split
    · rw [standing_some_ending, afterEnding, if_pos rfl]
      rfl
    · rfl

end Standing

end Piece

/-! ## Preparation -/

section Preparation

variable {pieces : List Piece}

/-- A pass goes over pieces one after the other. -/
theorem Spelling.Rewrites.pieces_append {pass : List Char → List Char} {s s' : Spelling}
    (h : Spelling.Rewrites pass s s') (hpieces : ∀ p ∈ pieces, p.MadeOf IsCasedTag) (rest : List Char) :
    pass (Piece.spellAll s pieces ++ rest) = Piece.spellAll s' pieces ++ pass rest := by
  induction pieces with
  | nil => rfl
  | cons p pieces ih =>
    have hrest := ih fun q hq => hpieces q (List.mem_cons_of_mem p hq)
    have hp := hpieces p List.mem_cons_self
    simp only [Piece.spellAll, List.flatMap_cons, List.append_assoc] at hrest ⊢
    cases p with
    | text cs =>
      have hcs : '<' ∉ cs := fun hmem => absurd (hp _ hmem) (by decide)
      simp only [Piece.spell_text]
      rw [h.text_append hcs, hrest]
    | opening tag attributes =>
      obtain ⟨htag, hattributes⟩ := hp
      simp only [Piece.spell_opening, List.cons_append, List.append_assoc, List.nil_append]
      rw [h.opening htag hattributes, hrest]
    | closed tag attributes =>
      obtain ⟨htag, -, hattributes⟩ := hp
      simp only [Piece.spell_closed, List.cons_append, List.append_assoc, List.nil_append]
      rw [h.opening htag hattributes, h.ending htag, hrest]
    | ending tag =>
      simp only [Piece.spell_ending, List.cons_append, List.append_assoc, List.nil_append]
      rw [h.ending hp, hrest]

/-- The first pass gives self-closed tags their end tags. -/
theorem expandSelfClosed_pieces_append (hpieces : ∀ p ∈ pieces, p.MadeOf IsCasedTag)
    (rest : List Char) :
    expandSelfClosed (Piece.writeAll pieces ++ rest) =
      Piece.spellAll .plain pieces ++ expandSelfClosed rest := by
  induction pieces with
  | nil => rfl
  | cons p pieces ih =>
    have hrest := ih fun q hq => hpieces q (List.mem_cons_of_mem p hq)
    have hp := hpieces p List.mem_cons_self
    have hsame : p.write = p.spell .plain →
        expandSelfClosed (p.write ++ (Piece.writeAll pieces ++ rest)) =
          p.spell .plain ++ (Piece.spellAll .plain pieces ++ expandSelfClosed rest) := by
      intro heq
      have hone := rewrites_expandTag.pieces_append (show ∀ q ∈ [p], q.MadeOf IsCasedTag by simpa using hp)
        (Piece.writeAll pieces ++ rest)
      simp only [Piece.spellAll, List.flatMap_cons, List.flatMap_nil, List.append_nil] at hone
      rw [heq, hone, hrest]
    simp only [Piece.writeAll, Piece.spellAll, List.flatMap_cons, List.append_assoc] at hsame ⊢
    cases p with
    | text cs => exact hsame rfl
    | opening tag attributes => exact hsame (by simp [Piece.write, Spelling.plain])
    | ending tag => exact hsame rfl
    | closed tag attributes =>
      obtain ⟨htag, hvoid, hattributes⟩ := hp
      have hspelled := hattributes.isSpelled
      have hread := mapTags_tag (f := expandTag)
        (by
          simp [htag.not_mem (show isTagChar '<' = false by decide),
            open_not_mem_writeAttributes hspelled] :
          '<' ∉ tag ++ (writeAttributes attributes ++ ['/', '>']))
        (tag ++ (writeAttributes attributes ++ '>' :: '<' :: '/' :: (tag ++ ['>'])))
        (fun tail => by simpa using expandTag_closed htag.toIsTagText hvoid hspelled tail)
        (Piece.writeAll pieces ++ rest)
      simp only [Piece.write, Piece.spell_closed, Spelling.plain, List.cons_append, List.append_assoc,
        List.nil_append] at hread ⊢
      refine hread.trans ?_
      rw [show mapTags expandTag (Piece.writeAll pieces ++ rest) = _ from hrest]
      rfl

/-- A sequence of pieces is prepared piece by piece. -/
theorem prepare_writeAll_pieces (hpieces : ∀ p ∈ pieces, p.MadeOf IsCasedTag) :
    prepare (Piece.writeAll pieces) = Piece.spellAll .prepared pieces := by
  have hexpand := expandSelfClosed_pieces_append hpieces []
  have hneutral := rewrites_neutralizeSelect.pieces_append hpieces []
  have hnamed := rewrites_markComponents.pieces_append hpieces []
  have hprepared := rewrites_markAttributes.pieces_append hpieces []
  have hnil : expandSelfClosed [] = [] ∧ neutralizeSelect [] = [] ∧ markComponents [] = [] ∧
      markAttributes [] = [] :=
    ⟨rfl, rfl, rfl, markAttributes_of_no_bracket (by simp)⟩
  simp only [List.append_nil, hnil] at hexpand hneutral hnamed hprepared
  rw [prepare, hexpand, hneutral, hnamed, hprepared]

end Preparation

/-! ## Tags as text -/

section TagText

variable {tag : List Char} {attributes : List WrittenAttribute} {label : String}

/-- A prepared tag holds no tag and no reference. -/
theorem isPlain_of_mem_opening (htag : IsTagText tag) (h : WellFormedAttributes attributes) :
    ∀ c ∈ Spelling.prepared.opening tag attributes ++ ['>'], Token.isPlain c = true := by
  have hreference := not_mem_opening (show IsForeignChar '&' by decide) htag h
  have hbracket : '<' ∉ Spelling.prepared.opening tag attributes := by
    intro hmem
    rcases List.mem_append.1 hmem with hmem | hmem
    · exact htag.isTagText_neutralName.not_mem (by decide) hmem
    · exact open_not_mem_writeAttributes (isSpelled_preparedAttributes htag h) hmem
  intro c hc
  rcases List.mem_append.1 hc with hc | hc
  · simp only [Token.isPlain, Bool.and_eq_true, bne_iff_ne, ne_eq]
    refine ⟨?_, ?_⟩
    · rintro rfl
      exact hbracket hc
    · rintro rfl
      exact hreference hc
  · rw [List.mem_singleton.1 hc]
    decide

/-- A prepared start tag holds no NUL. -/
theorem nul_not_mem_opening (htag : IsTagText tag) (h : WellFormedAttributes attributes) :
    '\x00' ∉ Spelling.prepared.opening tag attributes ++ ['>'] := by
  simp [not_mem_opening (show IsForeignChar '\x00' by decide) htag h]

/-- An opening tag is text inside of text. -/
theorem isRawText_opening (htag : IsTagText tag) (h : WellFormedAttributes attributes) :
    Token.IsRawText label ('<' :: (Spelling.prepared.opening tag attributes ++ ['>'])) := by
  obtain ⟨c, cs, hname, halpha⟩ := htag.isTagText_neutralName.exists_cons
  have hopening : Spelling.prepared.opening tag attributes ++ ['>'] =
      c :: (cs ++ (writeAttributes (preparedAttributes tag attributes) ++ ['>'])) := by
    simp [Spelling.prepared, hname]
  have hplain := isPlain_of_mem_opening htag h
  have hnul := nul_not_mem_opening htag h
  rw [hopening] at hplain hnul ⊢
  have hslash := Token.ne_of_isAlpha halpha (show '/'.isAlpha = false by decide)
  exact .of_tag (Token.ne_of_isAlpha halpha (by decide))
    (fun rest => Token.startsEndTag_of_ne_slash hslash label _) hplain hnul

/-- The end tag of another element is text inside of text. -/
theorem isRawText_ending (htag : IsTagText tag) (hlabel : '>' ∉ label.toList)
    (hne : preparedLabel tag ≠ label) :
    Token.IsRawText label ('<' :: '/' :: (Spelling.prepared.ending tag ++ ['>'])) := by
  have hname := htag.isTagText_neutralName
  have hchars : ∀ c ∈ neutralName tag, Token.isPlain c = true ∧ c ≠ '\x00' := by
    have hall : ∀ c ∈ ['<', '&', '\x00'], isTagChar c = false := by decide
    intro c hc
    have hne : ∀ d ∈ ['<', '&', '\x00'], c ≠ d := by
      rintro d hd rfl
      exact hname.not_mem (hall _ hd) hc
    simp only [Token.isPlain, Bool.and_eq_true, bne_iff_ne, ne_eq]
    exact ⟨⟨hne '<' (by simp), hne '&' (by simp)⟩, hne '\x00' (by simp)⟩
  refine .of_tag (by decide) (fun rest => ?_) ?_ ?_
  · have hword : (neutralName tag).map Char.toLower ≠ label.toList := by
      intro heq
      refine hne ?_
      rw [preparedLabel, heq, String.ofList_toList]
    have hend := Token.startsEndTag_append_of_ne hname.isTagName hlabel hword rest
    simpa [Spelling.prepared] using hend
  · intro c hc
    simp only [Spelling.prepared, List.mem_cons, List.mem_append, List.not_mem_nil,
      or_false] at hc
    rcases hc with rfl | hc | rfl
    · decide
    · exact (hchars c hc).1
    · decide
  · simp only [Spelling.prepared, List.mem_cons, List.mem_append, List.not_mem_nil,
      or_false]
    rintro (hnul | hnul | hnul)
    · exact absurd hnul (by decide)
    · exact (hchars _ hnul).2 rfl
    · exact absurd hnul (by decide)

end TagText

/-- What is known of the label of an element whose content is text. -/
theorem endLabel?_of_lookup {label : String} {content : Markup.ContentMode}
    (h : rawContents.lookup label = some content) :
    Token.endLabel? content = some label ∧ '>' ∉ label.toList := by
  have htable : ∀ entry ∈ rawContents,
      Token.endLabel? entry.2 = some entry.1 ∧ '>' ∉ entry.1.toList := by
    decide
  obtain ⟨before, after, heq, -⟩ := List.lookup_eq_some_iff.1 h
  exact htable (label, content) (by rw [heq]; simp)

/-! ## Reading -/

/-- Reading a text keeps all elements of a state, and leaves an element behind for each of some
tags, unless the tag may be dropped. -/
structure Keeps (b : Builder) (text : List Char)
    (tags : List (List Char × List WrittenAttribute)) : Prop where
  kept : ∀ k ∈ kinds b.document, k ∈ kinds (b.build text).document
  made : ∀ t ∈ tags, preparedLabel t.1 ∉ contextualLabels →
    (preparedTag t.1 t.2).kind ∈ kinds (b.build text).document

namespace Keeps

variable {b b' : Builder} {text text' : List Char} {tags : List (List Char × List WrittenAttribute)}

/-- What is read first keeps all elements. -/
theorem after (h : Keeps b' text' tags) (hkept : ∀ k ∈ kinds b.document, k ∈ kinds b'.document)
    (hbuild : b.build text = b'.build text') : Keeps b text tags :=
  ⟨fun k hk => hbuild ▸ h.kept k (hkept k hk), fun t ht hlabel => hbuild ▸ h.made t ht hlabel⟩

/-- What is read first is an opening tag. -/
theorem afterOpening {tag : List Char} {attributes : List WrittenAttribute}
    (h : Keeps b' text' tags)
    (hused : Builder.UsedUp b (.startTag (preparedTag tag attributes)) b')
    (hbuild : b.build text = b'.build text') : Keeps b text ((tag, attributes) :: tags) := by
  refine ⟨fun k hk => hbuild ▸ h.kept k (hused.kept k hk), fun t ht hlabel => ?_⟩
  rcases List.mem_cons.1 ht with rfl | ht
  · refine hbuild ▸ h.kept _ (hused.made _ ?_)
    rw [Token.promises_startTag (show (preparedTag tag attributes).name ∉ contextualLabels from
      hlabel)]
    exact List.mem_singleton_self _
  · exact hbuild ▸ h.made t ht hlabel

end Keeps

/-- An opening tag is read. -/
theorem build_mildOpening {b : Builder} (h : b.Between) {tag : List Char}
    {attributes : List WrittenAttribute} (htag : IsMildTag tag)
    (hattributes : WellFormedAttributes attributes) (rest : List Char) :
    ∃ b', Builder.UsedUp b (.startTag (preparedTag tag attributes)) b' ∧
      b.build ('<' :: (Spelling.prepared.opening tag attributes ++ '>' :: rest)) =
        b'.build rest := by
  have hscan := scanAttributes_prepared htag.toIsTagText hattributes rest
  have hstop : Stops Token.isTagNameChar
      (writeAttributes (preparedAttributes tag attributes) ++ '>' :: rest) :=
    stops_writeAttributes (by decide) _ (stops_cons (by decide) rest)
  have hread := h.build_startTag htag.isTagText_neutralName.isTagName hstop hscan htag.mild
  simpa [Spelling.prepared, preparedTag, preparedLabel] using hread

/-- An end tag leads on to what follows it. -/
theorem build_mildEnding {b : Builder} (h : b.Between) {tag : List Char} (htag : IsMildTag tag)
    (rest : List Char) :
    ∃ b', Builder.Leads b b' ∧
      b.build ('<' :: '/' :: (Spelling.prepared.ending tag ++ '>' :: rest)) = b'.build rest :=
  h.build_endTag htag.isTagText_neutralName.isTagName rest htag.mild

/-- Pieces are spelled one after the other. -/
theorem spellAll_cons (s : Spelling) (p : Piece) (pieces : List Piece) :
    Piece.spellAll s (p :: pieces) = p.spell s ++ Piece.spellAll s pieces :=
  List.flatMap_cons

/-- A text may have been met in front of the pieces without having been read. -/
def ReadsPieces (pieces : List Piece) : Prop :=
  ∀ {b : Builder} {cs : List Char}, b.Between → (∀ c ∈ cs, isTextChar c = true) →
    Keeps b (cs ++ Piece.spellAll .prepared pieces) (Piece.standing none pieces)

/-- The text of an element may have been met in front of the pieces without having been read. -/
def ReadsPiecesInText (pieces : List Piece) : Prop :=
  ∀ {b : Builder} {label : String} {content : Markup.ContentMode} {cs : List Char},
    rawContents.lookup label = some content → Reading b content → Token.IsRawText label cs →
      Keeps b (cs ++ Piece.spellAll .prepared pieces) (Piece.standing (some label) pieces)

theorem stops_bracket (cs : List Char) : Stops Token.isPlain ('<' :: cs) :=
  stops_cons (by decide) cs

section Pieces

variable {pieces : List Piece} {tag : List Char} {attributes : List WrittenAttribute}

/-- No text is waiting in front of the pieces. -/
theorem ReadsPieces.keeps (h : ReadsPieces pieces) {b : Builder} (hb : b.Between) :
    Keeps b (Piece.spellAll .prepared pieces) (Piece.standing none pieces) :=
  h hb (List.forall_mem_nil _)

/-- No text of the element is waiting in front of the pieces. -/
theorem ReadsPiecesInText.keeps (h : ReadsPiecesInText pieces) {b : Builder} {label : String}
    {content : Markup.ContentMode} (hlookup : rawContents.lookup label = some content)
    (hb : Reading b content) :
    Keeps b (Piece.spellAll .prepared pieces) (Piece.standing (some label) pieces) :=
  h hlookup hb (show Token.IsRawText label [] from trivial)

/-- A text is read up to the next tag. -/
theorem build_pendingText {b : Builder} (h : b.Between) {cs rest : List Char}
    (hcs : ∀ c ∈ cs, isTextChar c = true) (hrest : Stops Token.isPlain rest) :
    ∃ b', Builder.Leads b b' ∧ b.build (cs ++ rest) = b'.build rest := by
  refine h.build_text ?_ (fun c hc => isPlain_of_isTextChar (hcs c hc)) hrest
  intro hmem
  exact absurd (hcs _ hmem) (by decide)

/-- No pieces keep what the end of the text keeps. -/
theorem readsPieces_nil : ReadsPieces [] := by
  intro b cs h hcs
  obtain ⟨b', hleads, hbuild⟩ := build_pendingText h hcs (stops_nil _)
  refine Keeps.after ⟨hleads.between.build_nil, by simp⟩ hleads.kept hbuild

/-- An element for text may end with the text. -/
theorem readsPiecesInText_nil : ReadsPiecesInText [] := by
  intro b label content cs hlookup h hcs
  obtain ⟨hcontent, -⟩ := endLabel?_of_lookup hlookup
  obtain ⟨b', hreading, hkept, hbuild⟩ := h.build_raw hcontent hcs (Or.inl rfl)
  exact Keeps.after ⟨hreading.build_nil, by simp⟩ hkept hbuild

/-- Text may come before pieces that are read. -/
theorem ReadsPieces.text (hpieces : ReadsPieces pieces) {text : List Char}
    (htext : ∀ c ∈ text, isTextChar c = true) : ReadsPieces (.text text :: pieces) := by
  intro b cs h hcs
  have hall : ∀ c ∈ cs ++ text, isTextChar c = true := fun c hc =>
    (List.mem_append.1 hc).elim (hcs c) (htext c)
  have hread := hpieces h hall
  simpa [spellAll_cons] using hread

/-- What follows an opening tag is read inside of the element that it opens. -/
theorem ReadsPieces.opening (hpieces : ReadsPieces pieces) (htext : ReadsPiecesInText pieces)
    (htag : IsMildTag tag) (hattributes : WellFormedAttributes attributes) :
    ReadsPieces (.opening tag attributes :: pieces) := by
  intro b cs h hcs
  obtain ⟨b₁, hleads, hbuild₁⟩ := build_pendingText h hcs (stops_bracket
    (Spelling.prepared.opening tag attributes ++ '>' :: Piece.spellAll .prepared pieces))
  obtain ⟨b₂, hused, hbuild₂⟩ :=
    build_mildOpening hleads.between htag hattributes (Piece.spellAll .prepared pieces)
  have hinside : Keeps b₂ (Piece.spellAll .prepared pieces)
      (Piece.standing (Piece.textLabel? tag) pieces) := by
    unfold Piece.textLabel?
    cases hlookup : rawContents.lookup (preparedLabel tag) with
    | some content => exact htext.keeps hlookup (hused.reading hlookup)
    | none => exact hpieces.keeps (Or.inr (hused.settled hlookup))
  have hkeeps := (hinside.afterOpening hused hbuild₂).after hleads.kept hbuild₁
  simpa [spellAll_cons] using hkeeps

/-- An end tag may come before pieces that are read. -/
theorem ReadsPieces.ending (hpieces : ReadsPieces pieces) (htag : IsMildTag tag) :
    ReadsPieces (.ending tag :: pieces) := by
  intro b cs h hcs
  obtain ⟨b₁, hleads, hbuild₁⟩ := build_pendingText h hcs (stops_bracket
    ('/' :: (Spelling.prepared.ending tag ++ '>' :: Piece.spellAll .prepared pieces)))
  obtain ⟨b₂, hleads', hbuild₂⟩ :=
    build_mildEnding hleads.between htag (Piece.spellAll .prepared pieces)
  have hkeeps := ((hpieces.keeps hleads'.between).after hleads'.kept
    hbuild₂).after hleads.kept hbuild₁
  simpa [spellAll_cons] using hkeeps

/-- A text inside of text is read with it. -/
theorem ReadsPiecesInText.text (hpieces : ReadsPiecesInText pieces) {text : List Char}
    (htext : ∀ c ∈ text, isTextChar c = true) : ReadsPiecesInText (.text text :: pieces) := by
  intro b label content cs hlookup h hcs
  have hraw : Token.IsRawText label text :=
    .of_plain (fun c hc => isPlain_of_isTextChar (htext c hc)) fun hmem =>
      absurd (htext _ hmem) (by decide)
  have hread := hpieces hlookup h (hcs.append hraw)
  simpa [spellAll_cons] using hread

/-- Inside of text, a start tag is more text. -/
theorem ReadsPiecesInText.opening (hpieces : ReadsPiecesInText pieces) (htag : IsMildTag tag)
    (hattributes : WellFormedAttributes attributes) :
    ReadsPiecesInText (.opening tag attributes :: pieces) := by
  intro b label content cs hlookup h hcs
  have hread := hpieces hlookup h (hcs.append (isRawText_opening htag.toIsTagText hattributes))
  simpa [spellAll_cons] using hread

/-- The end tag of the element leads back to ordinary content, any other one is text. -/
theorem ReadsPiecesInText.ending (hpieces : ReadsPieces pieces) (htext : ReadsPiecesInText pieces)
    (htag : IsMildTag tag) : ReadsPiecesInText (.ending tag :: pieces) := by
  intro b label content cs hlookup h hcs
  obtain ⟨hcontent, hbracket⟩ := endLabel?_of_lookup hlookup
  by_cases hlabel : preparedLabel tag = label
  · have hname : (neutralName tag).map Char.toLower = label.toList := by
      rw [← hlabel, preparedLabel, String.toList_ofList]
    have hends : Token.EndsRawText label
        ('<' :: '/' :: (Spelling.prepared.ending tag ++ '>' :: Piece.spellAll .prepared pieces)) :=
      Or.inr (Token.startsEndTag_append hname _)
    obtain ⟨b₁, hreading, hkept, hbuild₁⟩ := h.build_raw hcontent hcs hends
    obtain ⟨b₂, hleads, hbuild₂⟩ := hreading.build_rawEnd hcontent
      htag.isTagText_neutralName.isTagName hname (Piece.spellAll .prepared pieces)
    have hkeeps := ((hpieces.keeps hleads.between).after hleads.kept
      hbuild₂).after hkept hbuild₁
    simpa [spellAll_cons, Piece.afterEnding, hlabel] using hkeeps
  · have hread := htext hlookup h
      (hcs.append (isRawText_ending htag.toIsTagText hbracket hlabel))
    simpa [spellAll_cons, Piece.afterEnding, hlabel] using hread

/-- A self-closed tag is read like an opening tag and an end tag. -/
theorem spellAll_closed (s : Spelling) :
    Piece.spellAll s (.closed tag attributes :: pieces) =
      Piece.spellAll s (.opening tag attributes :: .ending tag :: pieces) := by
  simp [Piece.spellAll]

/-- An element without content is read as its two tags. -/
theorem ReadsPieces.closed (h : ReadsPieces (.opening tag attributes :: .ending tag :: pieces)) :
    ReadsPieces (.closed tag attributes :: pieces) := by
  intro b cs hb hcs
  rw [spellAll_closed, Piece.standing_closed]
  exact h hb hcs

/-- Inside of text, an element without content is read as its two tags. -/
theorem ReadsPiecesInText.closed
    (h : ReadsPiecesInText (.opening tag attributes :: .ending tag :: pieces)) :
    ReadsPiecesInText (.closed tag attributes :: pieces) := by
  intro b label content cs hlookup hb hcs
  rw [spellAll_closed, Piece.standing_closed]
  exact h hlookup hb hcs

end Pieces

/-- A sequence of pieces is read, inside of text and outside of it. -/
theorem keeps_pieces {pieces : List Piece} (h : ∀ p ∈ pieces, p.WellFormed) :
    ReadsPieces pieces ∧ ReadsPiecesInText pieces := by
  induction pieces with
  | nil => exact ⟨readsPieces_nil, readsPiecesInText_nil⟩
  | cons p pieces ih =>
    obtain ⟨hpieces, htext⟩ := ih fun q hq => h q (List.mem_cons_of_mem p hq)
    have hp := h p List.mem_cons_self
    cases p with
    | text cs => exact ⟨hpieces.text hp, htext.text hp⟩
    | opening tag attributes =>
      exact ⟨hpieces.opening htext hp.1 hp.2, htext.opening hp.1 hp.2⟩
    | closed tag attributes =>
      obtain ⟨htag, -, hattributes⟩ := hp
      have hending : ReadsPieces (.ending tag :: pieces) := hpieces.ending htag
      have hending' : ReadsPiecesInText (.ending tag :: pieces) :=
        ReadsPiecesInText.ending hpieces htext htag
      exact ⟨ReadsPieces.closed (ReadsPieces.opening hending hending' htag hattributes),
        ReadsPiecesInText.closed (ReadsPiecesInText.opening hending' htag hattributes)⟩
    | ending tag => exact ⟨ReadsPieces.ending hpieces hp, ReadsPiecesInText.ending hpieces htext hp⟩

/-! ## Extracted names -/

/-- Prepared text holds no line end to be normalized. -/
theorem return_not_mem_spellAll {pieces : List Piece} (h : ∀ p ∈ pieces, p.MadeOf IsCasedTag) :
    '\r' ∉ Piece.spellAll .prepared pieces := by
  intro hmem
  obtain ⟨p, hp, hmem⟩ := List.mem_flatMap.1 hmem
  have hwell := h p hp
  cases p with
  | text cs => exact absurd (hwell _ hmem) (by decide)
  | opening tag attributes =>
    have hopening := not_mem_opening isForeignChar_return hwell.1.toIsTagText hwell.2
    simp [hopening] at hmem
  | closed tag attributes =>
    have hopening := not_mem_opening isForeignChar_return hwell.1.toIsTagText hwell.2.2
    have hending := not_mem_ending isForeignChar_return hwell.1.toIsTagText
    simp [hopening, hending] at hmem
  | ending tag =>
    have hending := not_mem_ending isForeignChar_return (IsCasedTag.toIsTagText hwell)
    simp [hending] at hmem

/-- Pieces do not start with a byte order mark. -/
theorem dropByteOrderMark_pieces {pieces : List Piece} (h : ∀ p ∈ pieces, p.MadeOf IsCasedTag) :
    Markup.dropByteOrderMark (Piece.spellAll .prepared pieces) =
      Piece.spellAll .prepared pieces := by
  induction pieces with
  | nil => rfl
  | cons p pieces ih =>
    have hp := h p List.mem_cons_self
    cases p with
    | text cs =>
      cases cs with
      | nil => exact ih fun q hq => h q (List.mem_cons_of_mem _ hq)
      | cons c cs =>
        refine dropByteOrderMark_cons ?_ _
        rintro rfl
        exact absurd (hp _ List.mem_cons_self) (by decide)
    | opening tag attributes => exact dropByteOrderMark_cons (by decide) _
    | closed tag attributes => exact dropByteOrderMark_cons (by decide) _
    | ending tag => exact dropByteOrderMark_cons (by decide) _

/-- A mild tag leaves an element of ordinary markup behind, with its own label unless markup has
another name for it. -/
theorem kind_preparedTag {tag : List Char} (htag : IsMildTag tag)
    (attributes : List WrittenAttribute) :
    ∃ label, (preparedTag tag attributes).kind =
        (.html label, preparedTagAttributes tag attributes) ∧
      (label = preparedLabel tag ∨ (label = "img" ∧ preparedLabel tag = "image")) := by
  by_cases himage : Markup.startRule (preparedLabel tag) = .image
  · have hlabels : ∀ p ∈ Markup.startRules, p.2 = .image → p.1 = "image" := by decide
    have hrule : Markup.startRule (preparedTag tag attributes).name = .image := himage
    have hruled : Markup.startRule (preparedLabel tag) ≠ .ordinary := by
      rw [himage]
      decide
    refine ⟨"img", by rw [Markup.Tag.kind, hrule]; rfl, Or.inr ⟨rfl, ?_⟩⟩
    exact hlabels _ (Markup.mem_startRules hruled) himage
  · refine ⟨preparedLabel tag, Markup.kind_eq_of_rule ?_, Or.inl rfl⟩
    have hadmits := Builder.admits_startRule (preparedLabel tag)
    intro hrule
    simp only [preparedTag, List.mem_cons, List.not_mem_nil, or_false] at hrule
    rcases hrule with hrule | hrule | hrule
    · exact himage hrule
    · rw [hrule] at hadmits
      exact htag.mild (of_decide_eq_true hadmits)
    · rw [hrule] at hadmits
      exact htag.mild (of_decide_eq_true hadmits)

/-- An element with the kind that a tag leaves behind is mentioned as it was written. -/
theorem mentions_of_kind {usage : Usage} {e : Markup.OpenElement} {tag : List Char}
    {attributes : List WrittenAttribute} (h : Mentioned usage e) (htag : IsMildTag tag)
    (hattributes : WellFormedAttributes attributes) (himage : tag ≠ "image".toList)
    (hkind : e.kind = (preparedTag tag attributes).kind) :
    usage.Mentions (String.ofList tag) (attributes.map WrittenAttribute.toAttribute) := by
  obtain ⟨label, hlabelled, hlabel⟩ := kind_preparedTag htag attributes
  rw [hlabelled, Markup.OpenElement.kind, Prod.mk.injEq] at hkind
  have hwrapper : Node.isWrapper e.name.label = false := by
    have hmild : ∀ wrapper ∈ ["html", "head", "body"], wrapper ∈ disruptiveLabels := by decide
    have hother : "img" ∉ ["html", "head", "body"] := by decide
    rw [hkind.1, Node.isWrapper, List.contains_eq_mem, decide_eq_false_iff_not]
    rcases hlabel with rfl | ⟨rfl, -⟩
    · exact fun hmem => htag.mild (hmild _ hmem)
    · exact hother
  have hmentions := h hwrapper
  rw [hkind.1, hkind.2, originalAttributes_prepared hattributes,
    originalTag_of_marked hattributes] at hmentions
  · exact hmentions
  · intro hcapital hselect
    have hname : preparedLabel tag = String.ofList tag := by
      have hlower := htag.casing.resolve_left (by simp [hcapital])
      rw [preparedLabel, neutralName, if_neg hselect, map_toLower_of_not_isUpper hlower]
    rcases hlabel with rfl | ⟨-, hsame⟩
    · exact hname
    · exact absurd (String.ofList_injective (hname.symm.trans hsame)) himage

/-- The opening tags that do not stand inside of text are well-formed. -/
theorem wellFormed_of_mem_standing {pieces : List Piece} (h : ∀ p ∈ pieces, p.WellFormed)
    {inText : Option String} {t : List Char × List WrittenAttribute}
    (ht : t ∈ Piece.standing inText pieces) : IsMildTag t.1 ∧ WellFormedAttributes t.2 := by
  induction pieces generalizing inText with
  | nil => simp at ht
  | cons p pieces ih =>
    have hpieces : ∀ q ∈ pieces, q.WellFormed := fun q hq => h q (List.mem_cons_of_mem p hq)
    have hp := h p List.mem_cons_self
    cases inText with
    | some label => cases p <;> exact ih hpieces ht
    | none =>
      cases p with
      | text cs => exact ih hpieces ht
      | ending tag => exact ih hpieces ht
      | opening tag attributes =>
        rcases List.mem_cons.1 ht with rfl | ht
        · exact hp
        · exact ih hpieces ht
      | closed tag attributes =>
        rcases List.mem_cons.1 ht with rfl | ht
        · exact ⟨hp.1, hp.2.2⟩
        · exact ih hpieces ht

/-- Extraction is complete: the name of every opening tag outside of text is collected as it is
spelled, with its directives and its icons, whatever tags stand around it. -/
theorem mentions_ofTemplate (pieces : List Piece) (hpieces : ∀ p ∈ pieces, p.WellFormed)
    (tag : List Char) (attributes : List WrittenAttribute)
    (hstanding : (tag, attributes) ∈ Piece.standing none pieces)
    (hlabel : preparedLabel tag ∉ contextualLabels) (himage : tag ≠ "image".toList) :
    (Usage.ofTemplate (String.ofList (Piece.writeAll pieces))).Mentions (String.ofList tag)
      (attributes.map WrittenAttribute.toAttribute) := by
  have hcased : ∀ p ∈ pieces, p.MadeOf IsCasedTag := fun p hp => (hpieces p hp).cased
  have hdocument : Markup.Document.parse (prepare (Piece.writeAll pieces)) =
      (Builder.build {} (Piece.spellAll .prepared pieces)).document := by
    rw [prepare_writeAll_pieces hcased, Markup.Document.parse, dropByteOrderMark_pieces hcased,
      normalizeNewlines_of_not_mem (return_not_mem_spellAll hcased)]
  have hreads : Keeps {} (Piece.spellAll .prepared pieces) (Piece.standing none pieces) :=
    ReadsPieces.keeps (keeps_pieces hpieces).1 (Or.inl .initial)
  have hmade := hreads.made _ hstanding hlabel
  rw [← hdocument] at hmade
  obtain ⟨e, he, hkind⟩ := List.mem_map.1 hmade
  obtain ⟨htag, hattributes⟩ := wellFormed_of_mem_standing hpieces hstanding
  refine mentions_of_kind ?_ htag hattributes himage hkind
  rw [Usage.ofTemplate, parse, String.toList_ofList]
  exact mentions_collect_ofDocument _ (Markup.tidy_parse _) he {}

/-- A component behind a text that holds a tag, inside a paragraph that no end tag closes. -/
theorem mentions_ofTemplate_unmatched :
    let attributes : List WrittenAttribute :=
      [.quoted "v-Ripple.once".toList "x".toList, .quoted ":icon".toList "$getIcon('home')".toList]
    let pieces : List Piece :=
      [.opening "textarea".toList [], .opening "b".toList [], .ending "Textarea".toList,
        .text "a > b".toList, .opening "p".toList [], .closed "Button".toList attributes,
        .ending "div".toList, .opening "Input".toList [.bare "v-focus".toList]]
    (∀ p ∈ pieces, p.WellFormed) ∧ ("Button".toList, attributes) ∈ Piece.standing none pieces ∧
      preparedLabel "Button".toList ∉ contextualLabels ∧ "Button".toList ≠ "image".toList ∧
      (Usage.ofTemplate (String.ofList (Piece.writeAll pieces))).Mentions
        (String.ofList "Button".toList) (attributes.map WrittenAttribute.toAttribute) := by
  intro attributes pieces
  have hpieces : ∀ p ∈ pieces, p.WellFormed := by decide +kernel
  have hstanding : ("Button".toList, attributes) ∈ Piece.standing none pieces := by decide +kernel
  have hlabel : preparedLabel "Button".toList ∉ contextualLabels := by decide +kernel
  have himage : "Button".toList ≠ "image".toList := by decide
  exact ⟨hpieces, hstanding, hlabel, himage,
    mentions_ofTemplate pieces hpieces _ attributes hstanding hlabel himage⟩

end TemplateImports.Template
