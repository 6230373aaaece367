import TemplateImports.Proofs.Template.Extraction

/-!
# Parts of tables outside of tables

The template of a component may be a row or a cell, or use a component that is named like one.
Markup drops the tags of table parts outside of tables, whatever their letter case, and keeps the
texts between them.  So a template all of whose tags are of this kind uses no names.

Main results:

- Structure `IsPartTag` says that a tag is that of a part of a table, in any letter case.
- Predicate `HoldsTexts` says that nothing but texts stands in the body; theorem `build_pieces` says
  that a sequence of pieces leads to no other body.
- Theorem `ofTemplate_tableParts` says that no names are extracted.
-/

namespace TemplateImports

open Text

/-! ## Dropped tags -/

namespace Markup

open Node

/-- The labels of parts of tables. -/
def partLabels : List String :=
  ["caption", "col", "colgroup", "tbody", "td", "tfoot", "th", "thead", "tr"]

/-- Ordinary content has no place for a part of a table. -/
theorem rules_of_mem_partLabels {label : String} (h : label ∈ partLabels) :
    startRule label = .ignored ∧ endRule label = .ordinary := by
  have hrules : ∀ label ∈ partLabels, startRule label = .ignored ∧ endRule label = .ordinary := by
    decide +kernel
  exact hrules label h

namespace Builder

variable {b : Builder} {tag : Tag} {inside : List Node}

/-- A start tag of a part of a table is dropped in the body. -/
theorem Ready.accept_part (h : Ready b bodyFrame [impliedRoot] inside) (hmode : b.mode = .inBody)
    (htag : tag.name ∈ partLabels) : b.accept (.startTag tag) = b := by
  refine accept_of_consumes h.keepsNewline trivial (by decide) (consumes_of_done ?_)
  rw [h.step_eq, stepOrdinary, hmode]
  simp only [inBody, startBody, (rules_of_mem_partLabels htag).1]

/-- An end tag of a part of a table is dropped in the body: the body is in its way. -/
theorem Ready.accept_partEnd (h : Ready b bodyFrame [impliedRoot] inside)
    (hmode : b.mode = .inBody) (htag : tag.name ∈ partLabels) : b.accept (.endTag tag) = b := by
  have hne : ("body" == tag.name) = false := by
    rw [beq_eq_false_iff_ne]
    intro heq
    rw [← heq] at htag
    exact absurd htag (by decide)
  have hself : bodyFrame.entry.name.isHtml tag.name = false := by
    simpa [bodyFrame, Ready.impliedBody, Frame.entry, ElementName.isHtml] using hne
  have hspecial : isSpecial bodyFrame.entry.name = true := by decide
  have hfind : b.stack.find? (fun e => e.name.isHtml tag.name || isSpecial e.name) =
      some bodyFrame.entry := by
    rw [h.stack, List.map_cons, List.find?_cons_of_pos]
    rw [hspecial, Bool.or_true]
  refine accept_of_consumes h.keepsNewline trivial (by decide) (consumes_of_done ?_)
  rw [h.step_eq, stepOrdinary, hmode]
  simp only [inBody, endBody, (rules_of_mem_partLabels htag).2, endOrdinary, hfind, hself,
    Bool.false_eq_true, if_false]

/-- A token that opens the body does so before the root as well. -/
theorem Early.accept_of_opensBody (h : Early b) {token : Token} (hopens : OpensBody token) :
    b.accept token = bodyState.accept token := by
  cases h with
  | initial => exact Builder.accept_of_opensBody hopens
  | root =>
    have hbegins : BeginsFragment token := Or.inl hopens
    obtain ⟨b', hconsumes⟩ := ready_bodyState.exists_consumes_of_opensBody rfl rfl hopens
    have hhead := ready_headState.consumes_of_enterBody rfl hopens hconsumes
    have hroot : Consumes 5 rootState token b' := fun n =>
      (process_rootState hbegins.opensDocument (n + 3)).trans (hhead n)
    rw [accept_of_consumes ready_bodyState.keepsNewline hbegins.isContentToken (by decide)
      hconsumes]
    exact accept_of_consumes rfl hbegins.isContentToken (by decide) hroot

/-! ## Bodies that hold texts -/

/-- Nodes that are texts. -/
def AreTexts (nodes : List Node) : Prop :=
  ∀ node ∈ nodes, ∃ value, node = .text value

/-- Text behind texts leaves texts. -/
theorem AreTexts.appendText {nodes : List Node} (h : AreTexts nodes) (value : String) :
    AreTexts (appendText value nodes) := by
  induction nodes with
  | nil => simp [AreTexts, Node.appendText]
  | cons node nodes ih =>
    obtain ⟨last, rfl⟩ := h node List.mem_cons_self
    have hrest : AreTexts nodes := fun other hother => h other (List.mem_cons_of_mem _ hother)
    cases nodes with
    | nil => simp [AreTexts, Node.appendText]
    | cons next nodes =>
      intro other hother
      rcases List.mem_cons.1 hother with rfl | hother
      · exact ⟨last, rfl⟩
      · exact ih hrest other hother

/-- A state between two tags.  The body is not open yet or holds texts only. -/
inductive HoldsTexts (b : Builder) : Prop where
  | early (h : Early b)
  | body {inside : List Node} (h : Ready b bodyFrame [impliedRoot] inside) (mode : b.mode = .inBody)
      (modes : b.templateModes.isEmpty = true) (texts : AreTexts inside)

theorem holdsTexts_bodyState : HoldsTexts bodyState :=
  .body ready_bodyState rfl rfl (by simp [AreTexts])

namespace HoldsTexts

/-- A body that holds texts is read as ordinary content. -/
theorem content_eq (h : HoldsTexts b) : b.content = .data := by
  cases h with
  | early h => cases h <;> rfl
  | body h => exact h.content

theorem admitsLiteral_eq_false (h : HoldsTexts b) : b.admitsLiteral = false := by
  cases h with
  | early h => cases h <;> rfl
  | body h => exact h.admitsLiteral_eq_false

/-- The start tag of a table part is dropped in a body that holds texts. -/
theorem accept_part (h : HoldsTexts b) (htag : tag.name ∈ partLabels) :
    HoldsTexts (b.accept (.startTag tag)) := by
  cases h with
  | early h =>
    have hopens : OpensBody (.startTag tag) := by
      have hleading : ∀ label ∈ partLabels, label ∉ leadingLabels := by decide
      exact hleading tag.name htag
    rw [h.accept_of_opensBody hopens, ready_bodyState.accept_part rfl htag]
    exact holdsTexts_bodyState
  | body h mode modes texts =>
    rw [h.accept_part mode htag]
    exact .body h mode modes texts

/-- The end tag of a table part is dropped in a body that holds texts. -/
theorem accept_partEnd (h : HoldsTexts b) (htag : tag.name ∈ partLabels) :
    HoldsTexts (b.accept (.endTag tag)) := by
  cases h with
  | early h =>
    have hearly : isEarlyEnd tag = false := by
      have hlabels : ∀ label ∈ partLabels, ["head", "body", "html", "br"].contains label = false := by
        decide
      exact hlabels tag.name htag
    rw [h.accept_endTag hearly]
    exact .early .root
  | body h mode modes texts =>
    rw [h.accept_partEnd mode htag]
    exact .body h mode modes texts

/-- Text is added to a body that holds texts. -/
theorem accept_text (h : HoldsTexts b) {cs : List Char} (hne : cs ≠ []) :
    HoldsTexts (b.accept (.text cs)) := by
  have hbody : ∀ {b inside}, Ready b bodyFrame [impliedRoot] inside → b.mode = .inBody →
      b.templateModes.isEmpty = true → AreTexts inside → HoldsTexts (b.accept (.text cs)) := by
    intro b inside h hmode hmodes htexts
    obtain ⟨hready, hkept, hsame⟩ := h.accept_text hne (by rw [hmode]; decide)
    exact .body hready (hsame.trans hmode) (hkept.modesEmpty.trans hmodes) (htexts.appendText _)
  cases h with
  | early h =>
    by_cases hblank : cs.all isAsciiBlank = true
    · rw [h.accept_blanks hblank]
      exact .early h
    · rw [h.accept_of_opensBody (show OpensBody (.text cs) by simpa [OpensBody] using hblank)]
      exact hbody ready_bodyState rfl rfl (by simp [AreTexts])
  | body h mode modes texts => exact hbody h mode modes texts

/-- Runs of text are added to a body that holds texts. -/
theorem foldl_accept_texts (h : HoldsTexts b) {runs : List (List Char)}
    (hruns : ∀ run ∈ runs, run ≠ []) :
    HoldsTexts ((runs.map Token.text).foldl Builder.accept b) := by
  induction runs generalizing b with
  | nil => exact h
  | cons run runs ih =>
    exact ih (h.accept_text (hruns run List.mem_cons_self)) fun r hr =>
      hruns r (List.mem_cons_of_mem run hr)

/-- In the end the body holds texts only. -/
theorem build_nil (h : HoldsTexts b) :
    ∃ inside, AreTexts inside ∧ (b.build []).document = plug [bodyFrame, impliedRoot] inside := by
  cases h with
  | early h =>
    refine ⟨[], by simp [AreTexts], ?_⟩
    rw [Builder.build_nil, h.accept_of_opensBody (show OpensBody .eof from trivial),
      ← Builder.build_nil]
    exact ready_bodyState.build_nil_document rfl rfl
  | body h mode modes texts =>
    exact ⟨_, texts, h.build_nil_document mode (List.isEmpty_iff.1 modes)⟩

end HoldsTexts

end Builder

end Markup

/-! ## Templates of table parts -/

namespace Template

open Markup (Builder Token plug partLabels)
open Markup.Builder (HoldsTexts AreTexts bodyFrame impliedRoot)

/-- The name of a part of a table, in any letter case that a component may have. -/
structure IsPartTag (tag : List Char) : Prop extends IsCasedTag tag where
  part : String.ofList (tag.map Char.toLower) ∈ partLabels

/-- The tag of a table part keeps its name. -/
theorem IsPartTag.neutralName_eq {tag : List Char} (h : IsPartTag tag) : neutralName tag = tag := by
  refine if_neg ?_
  rintro rfl
  exact absurd h.part (by decide)

/-- The label of a prepared table part is that of a table part. -/
theorem IsPartTag.preparedLabel_mem {tag : List Char} (h : IsPartTag tag) :
    preparedLabel tag ∈ partLabels := by
  rw [preparedLabel, h.neutralName_eq]
  exact h.part

section Pieces

variable {b : Builder} {tag cs : List Char} {attributes : List WrittenAttribute}

/-- The start tag of a table part leads on to what follows it. -/
theorem build_partOpening (h : HoldsTexts b) (htag : IsPartTag tag)
    (hattributes : WellFormedAttributes attributes) (rest : List Char) :
    ∃ b', HoldsTexts b' ∧
      b.build ('<' :: (Spelling.prepared.opening tag attributes ++ '>' :: rest)) =
        b'.build rest :=
  ⟨_, h.accept_part (show (preparedTag tag attributes).name ∈ partLabels from
      htag.preparedLabel_mem),
    Builder.build_of_next h.content_eq h.admitsLiteral_eq_false (by simp)
      (next_opening htag.toIsTagText hattributes rest)⟩

/-- The end tag of a table part leads on to what follows it. -/
theorem build_partEnding (h : HoldsTexts b) (htag : IsPartTag tag) (rest : List Char) :
    ∃ b', HoldsTexts b' ∧
      b.build ('<' :: '/' :: (Spelling.prepared.ending tag ++ '>' :: rest)) = b'.build rest :=
  ⟨_, h.accept_partEnd (show (preparedEnd tag).name ∈ partLabels from htag.preparedLabel_mem),
    Builder.build_of_next h.content_eq h.admitsLiteral_eq_false (by simp)
      (next_ending htag.toIsTagText rest)⟩

/-- Text leads on to what follows it. -/
theorem build_heldText (h : HoldsTexts b) (hcs : ∀ c ∈ cs, isTextChar c = true) {rest : List Char}
    (hrest : Stops Token.isPlain rest) :
    ∃ b', HoldsTexts b' ∧ b.build (cs ++ rest) = b'.build rest := by
  by_cases hne : cs = []
  · exact ⟨b, h, by rw [hne, List.nil_append]⟩
  · have hnul : '\x00' ∉ cs := fun hmem => absurd (hcs _ hmem) (by decide)
    obtain ⟨runs, htokens, hruns, -⟩ := Token.textTokens_eq_map hnul
    have hnext := Token.next_text hne (fun c hc => isPlain_of_isTextChar (hcs c hc)) hrest
    rw [htokens] at hnext
    exact ⟨_, h.foldl_accept_texts hruns, Builder.build_of_next h.content_eq
      h.admitsLiteral_eq_false (by simp [hne]) hnext⟩

/-- A piece other than a text is read behind a text. -/
theorem build_partPiece (h : HoldsTexts b) (hcs : ∀ c ∈ cs, isTextChar c = true) {p : Piece}
    (hp : p.MadeOf IsPartTag) (htag : p.isText = false) (rest : List Char) :
    ∃ b', HoldsTexts b' ∧ b.build (cs ++ (p.spell .prepared ++ rest)) = b'.build rest := by
  have hstops : Stops Token.isPlain (p.spell .prepared ++ rest) := by
    cases p with
    | text text => simp [Piece.isText] at htag
    | _ => exact stops_bracket _
  obtain ⟨b₁, hb₁, hbuild₁⟩ := build_heldText h hcs hstops
  rw [hbuild₁]
  cases p with
  | text text => simp [Piece.isText] at htag
  | opening tag attributes => simpa using build_partOpening hb₁ hp.1 hp.2 rest
  | ending tag => simpa using build_partEnding hb₁ hp rest
  | closed tag attributes =>
    obtain ⟨b₂, hb₂, hbuild₂⟩ := build_partOpening hb₁ hp.1 hp.2.2
      ('<' :: '/' :: (Spelling.prepared.ending tag ++ '>' :: rest))
    obtain ⟨b₃, hb₃, hbuild₃⟩ := build_partEnding hb₂ hp.1 rest
    refine ⟨b₃, hb₃, ?_⟩
    rw [← hbuild₃, ← hbuild₂]
    simp

end Pieces

/-- Reading pieces with tags of table parts leaves nothing but texts in the body.  A text may have
been met in front of them without having been read. -/
theorem build_pieces {pieces : List Piece} (hpieces : ∀ p ∈ pieces, p.MadeOf IsPartTag)
    {b : Builder} (h : HoldsTexts b) {cs : List Char} (hcs : ∀ c ∈ cs, isTextChar c = true) :
    ∃ inside, AreTexts inside ∧
      (b.build (cs ++ Piece.spellAll .prepared pieces)).document =
        plug [bodyFrame, impliedRoot] inside := by
  induction pieces generalizing b cs with
  | nil =>
    obtain ⟨b', hb', hbuild⟩ := build_heldText h hcs (stops_nil _)
    rw [show Piece.spellAll .prepared [] = [] from rfl, hbuild]
    exact hb'.build_nil
  | cons p pieces ih =>
    have hrest : ∀ q ∈ pieces, q.MadeOf IsPartTag := fun q hq =>
      hpieces q (List.mem_cons_of_mem p hq)
    have hp := hpieces p List.mem_cons_self
    rw [spellAll_cons]
    cases htext : p.isText with
    | true =>
      cases p with
      | text text =>
        have hall : ∀ c ∈ cs ++ text, isTextChar c = true := fun c hc =>
          (List.mem_append.1 hc).elim (hcs c) (hp c)
        rw [Piece.spell_text, ← List.append_assoc]
        exact ih hrest h hall
      | _ => simp [Piece.isText] at htext
    | false =>
      obtain ⟨b', hb', hbuild⟩ :=
        build_partPiece h hcs hp htext (Piece.spellAll .prepared pieces)
      rw [hbuild]
      exact ih hrest hb' (List.forall_mem_nil _)

/-! ## Names -/

/-- Texts have no names. -/
theorem collect_ofDocument_texts {nodes : List Markup.Node} (h : AreTexts nodes)
    (usage : Usage) : usage.collect (Node.ofDocument false nodes) = usage := by
  induction nodes with
  | nil => rfl
  | cons node nodes ih =>
    obtain ⟨value, rfl⟩ := h node List.mem_cons_self
    have hnode : usage.collect (Node.ofNode false (.text value)) = usage := by
      rw [Node.ofNode]
      split <;> rfl
    rw [Node.ofDocument, Usage.collect_append, hnode]
    exact ih fun other hother => h other (List.mem_cons_of_mem _ hother)

/-- No tag starts like a wrapper. -/
theorem hasInfix_writeAll_pieces {word : List Char} (hne : word ≠ [])
    (hword : ∀ c ∈ [' ', '/', '>'], c ∉ word) {isTag : List Char → Prop}
    (hcased : ∀ tag, isTag tag → IsCasedTag tag)
    (hstart : ∀ tag, isTag tag → word.isPrefixOf (tag.map Char.toLower) = false)
    {pieces : List Piece} (hpieces : ∀ p ∈ pieces, p.MadeOf isTag) :
    hasInfix ('<' :: word) ((Piece.writeAll pieces).map Char.toLower) = false := by
  induction pieces with
  | nil => rfl
  | cons p pieces ih =>
    have hrest := ih fun q hq => hpieces q (List.mem_cons_of_mem p hq)
    have hp := hpieces p List.mem_cons_self
    rw [Piece.writeAll, List.flatMap_cons, ← Piece.writeAll]
    cases p with
    | text cs =>
      have hcs : '<' ∉ cs := fun hmem => absurd (hp _ hmem) (by decide)
      rw [Piece.write, hasInfix_text_append word hcs, hrest]
    | opening tag attributes =>
      have hread := hasInfix_opening_append hword (hcased tag hp.1).toIsTagText hp.2
        (show '>' ∈ ['/', '>'] by simp) (Piece.writeAll pieces)
      have hclose : hasInfix ('<' :: word) (('>' :: Piece.writeAll pieces).map Char.toLower) = _ :=
        hasInfix_text_append word (show '<' ∉ ['>'] by simp) (Piece.writeAll pieces)
      rw [hstart tag hp.1, Bool.false_or, hclose, hrest] at hread
      simpa [Piece.write] using hread
    | closed tag attributes =>
      have hread := hasInfix_opening_append hword (hcased tag hp.1).toIsTagText hp.2.2
        (show '/' ∈ ['/', '>'] by simp) ('>' :: Piece.writeAll pieces)
      have hclose : hasInfix ('<' :: word)
          (('/' :: '>' :: Piece.writeAll pieces).map Char.toLower) = _ :=
        hasInfix_text_append word (show '<' ∉ ['/', '>'] by simp) (Piece.writeAll pieces)
      rw [hstart tag hp.1, Bool.false_or, hclose, hrest] at hread
      simpa [Piece.write] using hread
    | ending tag =>
      have hread := hasInfix_ending_append hne (hword '/' (by simp)) (hcased tag hp).toIsTagText
        (Piece.writeAll pieces)
      rw [hrest] at hread
      simpa [Piece.write] using hread

/-- Tags of table parts write no wrappers out. -/
theorem writesWrappers_tableParts {pieces : List Piece}
    (hpieces : ∀ p ∈ pieces, p.MadeOf IsPartTag) :
    writesWrappers (Piece.writeAll pieces) = false := by
  have hlabels : ∀ word ∈ ["html".toList, "body".toList], ∀ label ∈ partLabels,
      word.isPrefixOf label.toList = false := by
    decide
  have hstart : ∀ word ∈ ["html".toList, "body".toList], ∀ tag, IsPartTag tag →
      word.isPrefixOf (tag.map Char.toLower) = false := by
    intro word hword tag htag
    have hpart := hlabels word hword _ htag.part
    rwa [String.toList_ofList] at hpart
  have hhtml := hasInfix_writeAll_pieces (show "html".toList ≠ [] by decide) (by decide)
    (fun _ htag => htag.toIsCasedTag) (hstart _ (by simp)) hpieces
  have hbody := hasInfix_writeAll_pieces (show "body".toList ≠ [] by decide) (by decide)
    (fun _ htag => htag.toIsCasedTag) (hstart _ (by simp)) hpieces
  have hmark : "<html".toList = '<' :: "html".toList ∧ "<body".toList = '<' :: "body".toList :=
    ⟨rfl, rfl⟩
  unfold writesWrappers
  dsimp only
  rw [hmark.1, hmark.2, hhtml, hbody]
  rfl

/-- A template whose tags are all tags of table parts uses no names, whatever their attributes are
and however they are nested. -/
theorem ofTemplate_tableParts (pieces : List Piece) (hpieces : ∀ p ∈ pieces, p.MadeOf IsPartTag) :
    Usage.ofTemplate (String.ofList (Piece.writeAll pieces)) = {} := by
  have hcased : ∀ p ∈ pieces, p.MadeOf IsCasedTag := fun p hp =>
    (hpieces p hp).mono fun _ htag => htag.toIsCasedTag
  obtain ⟨inside, htexts, hdocument⟩ :=
    build_pieces hpieces (.early .initial) (List.forall_mem_nil _)
  have hparse : Markup.Document.parse (prepare (Piece.writeAll pieces)) =
      plug [bodyFrame, impliedRoot] inside := by
    rw [prepare_writeAll_pieces hcased, Markup.Document.parse, dropByteOrderMark_pieces hcased,
      normalizeNewlines_of_not_mem (return_not_mem_spellAll hcased)]
    exact hdocument
  rw [Usage.ofTemplate, parse, String.toList_ofList, writesWrappers_tableParts hpieces, hparse,
    Usage.ofNodes, bodyFrame, ofDocument_wrapped]
  exact collect_ofDocument_texts htexts {}

/-- A component that is named like a column. -/
theorem ofTemplate_column : Usage.ofTemplate "<Col v-ripple></Col>" = {} := by
  decide +kernel

end Template

end TemplateImports
