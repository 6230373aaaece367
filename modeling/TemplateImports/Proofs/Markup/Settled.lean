import TemplateImports.Markup.Construction
import TemplateImports.Proofs.Markup.Situation

/-!
# Settled states

A document without wrappers, columns, selections, frames and other vocabularies is constructed in a
few modes only.  Behind the head every state is settled: it is in one of these modes, nothing
foreign is open, and the head is known.  A token leads from a settled state to a settled one, or
into an element whose content is text; every element stays, and a start tag leaves an element
behind unless its label is one of a few that depend on the place.

Main results:

- Structure `Situation.Settled` and definition `Builder.Settled` say what a settled state is.
- Definition `Token.promises` lists the kinds of elements that a token leaves behind in any place.
- Predicate `Builder.Handled` says what one look at a token does.
- Theorem `Settled.inBody` and theorem `Settled.inBodyFostered` handle ordinary content.
-/

namespace TemplateImports.Markup

open Node Text

/-! ## Tokens -/

/-- A token that does not decide about the content around it. -/
def Token.IsMild : Token → Prop
  | .startTag tag => tag.name ∉ disruptiveLabels
  | .endTag tag => tag.name ∉ disruptiveLabels
  | .text _ => True
  | .eof => True
  | _ => False

/-- Labels of elements that are dropped in some places. -/
def contextualLabels : List String :=
  ["table", "caption", "tbody", "td", "tfoot", "th", "thead", "tr", "form"]

/-- The kinds of the elements that a token leaves behind in any place. -/
def Token.promises : Token → List Kind
  | .startTag tag => if tag.name ∈ contextualLabels then [] else [tag.kind]
  | _ => []

/-- A start tag promises its element, unless the context decides about it. -/
theorem Token.promises_startTag {tag : Tag} (h : tag.name ∉ contextualLabels) :
    Token.promises (.startTag tag) = [tag.kind] :=
  if_neg h

/-- A token that promises nothing and opens no element whose content is text. -/
structure Token.IsQuiet (token : Token) : Prop where
  promises : token.promises = []
  not_raw : ∀ tag, token = .startTag tag → tag.name ∉ rawContents.map (·.1)

theorem Token.isQuiet_endTag (tag : Tag) : Token.IsQuiet (.endTag tag) :=
  ⟨rfl, by simp⟩

theorem Token.isQuiet_text (cs : List Char) : Token.IsQuiet (.text cs) :=
  ⟨rfl, by simp⟩

theorem Token.isQuiet_eof : Token.IsQuiet .eof :=
  ⟨rfl, by simp⟩

/-- A start tag that the context decides about promises nothing. -/
theorem Token.isQuiet_startTag {tag : Tag} (h : tag.name ∈ contextualLabels) :
    Token.IsQuiet (.startTag tag) := by
  have hraw : ∀ label ∈ contextualLabels, label ∉ rawContents.map (·.1) := by decide
  refine ⟨if_pos h, ?_⟩
  rintro tag' heq
  rw [← Token.startTag.inj heq]
  exact hraw tag.name h

/-- A kind of ordinary markup that does not change modes in its own way. -/
def IsPlainKind (k : Kind) : Prop :=
  k.1.space = .html ∧ k.1.label ∉ ["select", "frameset", "colgroup"]

/-- A tag that disrupts nothing makes a plain element. -/
theorem isPlainKind_kind {tag : Tag} (h : tag.name ∉ disruptiveLabels) : IsPlainKind tag.kind := by
  have hadmits : ∀ {r : StartRule}, startRule tag.name = r → Builder.admits r tag.name = true :=
    fun hr => hr ▸ Builder.admits_startRule tag.name
  have hplain : IsPlainKind (.html tag.name, tag.attributes) := by
    refine ⟨rfl, fun hmem => h ?_⟩
    have hsub : ∀ label ∈ ["select", "frameset", "colgroup"], label ∈ disruptiveLabels := by decide
    exact hsub tag.name hmem
  unfold Tag.kind
  split
  · exact ⟨rfl, show "img" ∉ ["select", "frameset", "colgroup"] by decide⟩
  · rename_i hrule
    exact absurd (of_decide_eq_true (hadmits hrule)) h
  · rename_i hrule
    exact absurd (of_decide_eq_true (hadmits hrule)) h
  · exact hplain

/-! ## Settled situations -/

/-- Modes between two tags. -/
def settledModes : List InsertionMode :=
  [.inHead, .afterHead, .inBody, .inTable, .inCaption, .inTableBody, .inRow, .inCell, .inTemplate]

/-- Modes in which a table collects text. -/
def collectingModes : List InsertionMode :=
  [.inTable, .inTableBody, .inRow]

/-- Modes for the content of a template. -/
def contentModes : List InsertionMode :=
  [.inTemplate, .inTable, .inTableBody, .inRow, .inBody]

namespace Situation

/-- A situation between two tags behind the beginning of the head. -/
structure Settled (s : Situation) : Prop where
  content : s.content = .data
  mode : s.mode ∈ settledModes ∨ (s.mode = .inTableText ∧ s.returnMode ∈ collectingModes)
  templates : ∀ mode ∈ s.templateModes, mode ∈ contentModes
  headed : s.head.isSome = true

/-- A situation inside an element whose content is text. -/
structure Reads (s : Situation) (content : ContentMode) : Prop where
  mode : s.mode = .text
  content_eq : s.content = content
  returns : s.returnMode ∈ settledModes
  settled : Settled { s with mode := s.returnMode, content := .data }

/-- A settled situation may go on in any settled mode. -/
theorem Settled.withMode {s : Situation} (h : s.Settled) {mode : InsertionMode}
    (hmode : mode ∈ settledModes) : Settled { s with mode } :=
  ⟨h.content, Or.inl hmode, h.templates, h.headed⟩

/-- The situation inside a template is settled. -/
theorem Settled.inside {s : Situation} (h : s.Settled) : s.inside.Settled := by
  refine ⟨h.content, Or.inl (show .inTemplate ∈ settledModes by decide), fun mode hmode => ?_,
    h.headed⟩
  rcases List.mem_cons.1 hmode with rfl | hmode
  · decide
  · exact h.templates mode hmode

/-- Raw text is read on behalf of a settled situation. -/
theorem Settled.reading {s : Situation} (h : s.Settled) (hmode : s.mode ∈ settledModes)
    (content : ContentMode) : (s.reading content).Reads content :=
  ⟨rfl, rfl, hmode, ⟨rfl, Or.inl hmode, h.templates, h.headed⟩⟩

/-- The situation that a token leads to. -/
def Follows (s : Situation) (token : Token) : Prop :=
  match token with
  | .startTag tag =>
    match rawContents.lookup tag.name with
    | some content => s.Reads content
    | none => s.Settled
  | _ => s.Settled

/-- The situation behind a start tag follows from a settled one. -/
theorem Settled.follows_afterStart {s : Situation} (h : s.Settled) (hmode : s.mode ∈ settledModes)
    (tag : Tag) : (s.afterStart tag.name).Follows (.startTag tag) := by
  unfold Follows afterStart
  dsimp only
  cases rawContents.lookup tag.name with
  | some content => exact h.reading hmode content
  | none =>
    have htable : InsertionMode.inTable ∈ settledModes := by decide
    by_cases hname : tag.name = "table"
    · simpa only [if_pos hname] using h.withMode htable
    · simp only [if_neg hname]
      split
      · exact h.inside
      · exact h

/-- A quiet token leads to a settled situation. -/
theorem follows_iff {s : Situation} {token : Token} (htoken : token.IsQuiet) :
    s.Follows token ↔ s.Settled := by
  unfold Follows
  split
  · rename_i tag
    have hlookup : rawContents.lookup tag.name = none := by
      rw [List.lookup_eq_none_iff]
      intro entry hentry
      rw [bne_iff_ne]
      intro heq
      exact htoken.not_raw tag rfl (heq ▸ List.mem_map_of_mem hentry)
    rw [hlookup]
  · rfl

end Situation

namespace Builder

/-! ## Settled states -/

/-- A sound state whose elements are all of plain kinds. -/
def Steady (b : Builder) : Prop :=
  b.Sound ∧ ∀ k ∈ kinds b.document, IsPlainKind k

/-- A state between two tags behind the beginning of the head. -/
def Settled (b : Builder) : Prop :=
  b.Steady ∧ b.situation.Settled

/-- How many parts of a document a start tag may still go through. -/
def rank : InsertionMode → Nat
  | .inHead => 2
  | .afterHead => 1
  | .inTableText => 1
  | .inTemplate => 1
  | _ => 0

/-- A token has been used up: every element is still there, and so is what the token promises. -/
structure UsedUp (b : Builder) (token : Token) (b' : Builder) : Prop where
  steady : b'.Steady
  kept : ∀ k ∈ kinds b.document, k ∈ kinds b'.document
  follows : b'.situation.Follows token
  made : ∀ k ∈ token.promises, k ∈ kinds b'.document

/-- What one look at a token does in a settled state. -/
inductive Handled (b : Builder) (token : Token) : Step → Prop where
  | done {b' : Builder} (used : UsedUp b token b') : Handled b token (.done b')
  /-- The token is looked at again, by a later part of the document if it promises something. -/
  | again {b' : Builder} (settled : b'.Settled)
      (kept : ∀ k ∈ kinds b.document, k ∈ kinds b'.document)
      (later : token.promises ≠ [] → rank b'.mode < rank b.mode) : Handled b token (.again b')

/-- A steady state stays steady as it grows by plain kinds. -/
theorem Steady.of_grows {b b' : Builder} {made : List Kind} (h : b.Steady)
    (hgrows : Grows b b' made) (hmade : ∀ k ∈ made, IsPlainKind k) : b'.Steady := by
  refine ⟨hgrows.sound, fun k hk => ?_⟩
  rcases hgrows.mem_iff.1 hk with hk | hk
  · exact h.2 k hk
  · exact hmade k hk

/-- In a steady state, all open elements are plain. -/
theorem Steady.plain_of_open {b : Builder} (h : b.Steady) {e : OpenElement} (he : e ∈ b.stack) :
    IsPlainKind e.kind :=
  h.2 _ (mem_kinds_of_mem (h.1.opened e he))

/-- No token belongs to foreign content. -/
theorem Steady.isForeign_eq_false {b : Builder} (h : b.Steady) (token : Token) :
    b.isForeign token = false := by
  unfold Builder.isForeign
  split
  · rfl
  · rename_i e es hstack
    have hspace : e.name.space = .html :=
      (h.plain_of_open (by rw [hstack]; exact List.mem_cons_self)).1
    rw [hspace]
    rfl

/-- A steady state is not in foreign content. -/
theorem Steady.admitsLiteral_eq_false {b : Builder} (h : b.Steady) : b.admitsLiteral = false := by
  unfold Builder.admitsLiteral currentSpace
  cases hstack : b.stack with
  | nil => rfl
  | cons e es =>
    have hspace : e.name.space = .html :=
      (h.plain_of_open (by rw [hstack]; exact List.mem_cons_self)).1
    simp [hspace]

namespace Settled

variable {b b' : Builder} {made : List Kind} {token : Token}

/-- A settled state is sound. -/
theorem sound (h : b.Settled) : b.Sound :=
  h.1.1

/-- A token is handled if it makes plain elements, and those that it promises. -/
theorem handled_done (h : b.Settled) (hgrows : Grows b b' made)
    (hmade : ∀ k ∈ made, IsPlainKind k) (hfollows : b'.situation.Follows token)
    (hpromises : ∀ k ∈ token.promises, k ∈ made) : Handled b token (.done b') :=
  .done ⟨h.1.of_grows hgrows hmade, fun _ hk => hgrows.mem_iff.2 (Or.inl hk), hfollows,
    fun k hk => hgrows.mem_iff.2 (Or.inr (hpromises k hk))⟩

/-- A token may be looked at again, by a later part of the document if it promises something. -/
theorem handled_again (h : b.Settled) (hgrows : Grows b b' made)
    (hmade : ∀ k ∈ made, IsPlainKind k) (hsettled : b'.situation.Settled)
    (hlater : token.promises ≠ [] → rank b'.mode < rank b.mode) : Handled b token (.again b') :=
  .again ⟨h.1.of_grows hgrows hmade, hsettled⟩ (fun _ hk => hgrows.mem_iff.2 (Or.inl hk)) hlater

/-- A quiet token is used up and leads to a settled situation. -/
theorem handled_quiet (h : b.Settled) (hquiet : token.IsQuiet) (hgrows : Grows b b' made)
    (hmade : ∀ k ∈ made, IsPlainKind k) (hsettled : b'.situation.Settled) :
    Handled b token (.done b') :=
  h.handled_done hgrows hmade ((Situation.follows_iff hquiet).2 hsettled)
    (by simp [hquiet.promises])

/-- A quiet token leaves the situation as it is. -/
theorem handled_same (h : b.Settled) (hquiet : token.IsQuiet) (hgrows : Grows b b' made)
    (hmade : ∀ k ∈ made, IsPlainKind k) (hsituation : b'.situation = b.situation) :
    Handled b token (.done b') :=
  h.handled_quiet hquiet hgrows hmade (hsituation ▸ h.2)

/-- A quiet token has no effect. -/
theorem handled_nothing (h : b.Settled) (hquiet : token.IsQuiet) : Handled b token (.done b) :=
  h.handled_same hquiet (.refl h.sound) (by simp) rfl

/-- A state may go on in any settled mode. -/
theorem settled_inMode (h : b.Settled) {mode : InsertionMode}
    (hsituation : b'.situation = b.situation) (hmode : mode ∈ settledModes) :
    (Builder.situation { b' with mode }).Settled := by
  have hset : Builder.situation { b' with mode } = { b.situation with mode } := by
    rw [← hsituation]
    rfl
  rw [hset]
  exact h.2.withMode hmode

/-- A quiet token is used up, and the construction goes on in another mode. -/
theorem handled_entering (h : b.Settled) (hquiet : token.IsQuiet) {mode : InsertionMode}
    (hgrows : Grows b b' made) (hmade : ∀ k ∈ made, IsPlainKind k)
    (hsituation : b'.situation = b.situation) (hmode : mode ∈ settledModes) :
    Handled b token (.done { b' with mode }) := by
  have hgrows' : Grows b { b' with mode } made := hgrows
  exact h.handled_quiet hquiet hgrows' hmade (h.settled_inMode hsituation hmode)

/-- A token is looked at again in another mode. -/
theorem handled_onward (h : b.Settled) {mode : InsertionMode} (hgrows : Grows b b' made)
    (hmade : ∀ k ∈ made, IsPlainKind k) (hsituation : b'.situation = b.situation)
    (hmode : mode ∈ settledModes) (hlater : token.promises ≠ [] → rank mode < rank b.mode) :
    Handled b token (b'.againIn mode) := by
  have hgrows' : Grows b { b' with mode } made := hgrows
  exact h.handled_again hgrows' hmade (h.settled_inMode hsituation hmode) hlater

/-! ## Returning to a mode -/

/-- Plain elements ask for settled modes. -/
theorem modeOf_mem {mode : InsertionMode} (hmode : mode ∈ contentModes) {es : List OpenElement}
    (hes : ∀ e ∈ es, IsPlainKind e.kind) : modeOf mode true es ∈ settledModes := by
  have hsub : ∀ mode ∈ contentModes, mode ∈ settledModes := by decide
  induction es with
  | nil => exact show .inBody ∈ settledModes by decide
  | cons e es ih =>
    obtain ⟨hspace, hlabel⟩ := hes e List.mem_cons_self
    have hih := ih fun f hf => hes f (List.mem_cons_of_mem _ hf)
    unfold modeOf
    split
    · exact hih
    · split
      · rename_i hname
        exact absurd (by rw [show e.kind.1.label = e.name.label from rfl, hname]; decide) hlabel
      · split <;> decide
      · split <;> decide
      · decide
      · decide
      · decide
      · decide
      · decide
      · rename_i hname
        exact absurd (by rw [show e.kind.1.label = e.name.label from rfl, hname]; decide) hlabel
      · decide
      · exact hsub mode hmode
      · split <;> decide
      · decide
      · rename_i hname
        exact absurd (by rw [show e.kind.1.label = e.name.label from rfl, hname]; decide) hlabel
      · decide
      · exact hih

/-- A settled state may return to the mode that some of its open elements ask for. -/
theorem resetMode (h : b.Settled) {stack : List OpenElement} (hsub : stack ⊆ b.stack)
    {modes : List InsertionMode} (hmodes : modes ⊆ b.templateModes) {formatting : List Formatting} :
    (Builder.resetMode { b with stack, formatting, templateModes := modes }).situation.Settled := by
  have hcontent : modes.head?.getD .inBody ∈ contentModes := by
    cases modes with
    | nil => decide
    | cons mode modes => exact h.2.templates mode (hmodes List.mem_cons_self)
  refine ⟨h.2.content, Or.inl ?_, fun mode hmode => h.2.templates mode (hmodes hmode), h.2.headed⟩
  have hmode := modeOf_mem hcontent fun e he => h.1.plain_of_open (hsub he)
  have hhead : b.head.isSome = true := h.2.headed
  rwa [← hhead] at hmode

/-- The situation is settled again behind a template. -/
theorem settled_closeTemplate (h : b.Settled) : b.closeTemplate.situation.Settled := by
  unfold Builder.closeTemplate
  split
  · refine h.resetMode ?_ (List.drop_sublist 1 _).subset
    exact ((List.drop_sublist 1 _).trans
      ((List.dropWhile_sublist _).trans (List.dropWhile_sublist _))).subset
  · exact h.2

/-! ## Ordinary content -/

/-- Elements that an end tag supplies are plain. -/
theorem isPlainKind_of_suppliesAtEnd (tag : Tag) :
    ∀ k ∈ (b.suppliesAtEnd tag).map suppliedKind, IsPlainKind k := by
  have hlabels : ∀ label ∈ b.suppliesAtEnd tag, label ∈ ["p", "br"] := by
    unfold suppliesAtEnd
    split
    · split <;> simp
    · simp
    · simp
  have htable : ∀ label ∈ ["p", "br"], label ∉ ["select", "frameset", "colgroup"] := by decide
  intro k hk
  obtain ⟨label, hlabel, rfl⟩ := List.mem_map.1 hk
  exact ⟨rfl, htable label (hlabels label hlabel)⟩

/-- A tag that disrupts nothing is none of the tags around a document. -/
theorem isDocumentTag_of_not_mem {tag : Tag} (h : tag.name ∉ disruptiveLabels) :
    tag.isDocumentTag = false := by
  have hsub : ∀ label ∈ ["html", "body", "frameset"], label ∈ disruptiveLabels := by decide
  unfold Tag.isDocumentTag
  rw [List.contains_eq_mem, decide_eq_false_iff_not]
  exact fun hmem => h (hsub tag.name hmem)

/-- A start tag of ordinary content leaves an element unless its label depends on the place. -/
theorem keepsInBody_of_not_mem {tag : Tag} (hdisrupts : tag.name ∉ disruptiveLabels)
    (h : tag.name ∉ contextualLabels) : b.keepsInBody tag = true := by
  have htable : ∀ entry ∈ startRules,
      entry.2 ∈ [StartRule.root, .body, .frameset, .ignored, .form] →
        entry.1 ∈ disruptiveLabels ++ contextualLabels := by decide
  have hrule : startRule tag.name ∉ [StartRule.root, .body, .frameset, .ignored, .form] := by
    intro hmem
    have hlabel := htable _ (mem_startRules fun hordinary => by
      rw [hordinary] at hmem
      exact absurd hmem (by decide)) hmem
    exact (List.mem_append.1 hlabel).elim hdisrupts h
  unfold keepsInBody
  split <;> first | rfl | (rename_i hcase; exact absurd (by rw [hcase]; decide) hrule)

/-- Start tags of ordinary content that disrupt nothing are handled. -/
theorem startBody (h : b.Settled) (hmode : b.mode ∈ settledModes) {tag : Tag}
    (htag : tag.name ∉ disruptiveLabels) : Handled b (.startTag tag) (.done (b.startBody tag)) := by
  refine h.handled_done (h.sound.startBody (isDocumentTag_of_not_mem htag)) ?_ ?_ ?_
  · intro k hk
    split at hk
    · rw [List.mem_singleton.1 hk]
      exact isPlainKind_kind htag
    · simp at hk
  · rw [situation_startBody htag]
    exact h.2.follows_afterStart hmode tag
  · intro k hk
    by_cases hcontext : tag.name ∈ contextualLabels
    · simp [Token.promises, hcontext] at hk
    · rw [Token.promises_startTag hcontext] at hk
      rwa [keepsInBody_of_not_mem htag hcontext, if_pos rfl]

/-- The end tag of a template is handled. -/
theorem closeTemplate (h : b.Settled) (tag : Tag) :
    Handled b (.endTag tag) (.done b.closeTemplate) :=
   h.handled_quiet (Token.isQuiet_endTag tag) h.sound.closeTemplate (by simp)
    h.settled_closeTemplate

/-- End tags of ordinary content that disrupt nothing are handled. -/
theorem endBody (h : b.Settled) {tag : Tag} (htag : tag.name ∉ disruptiveLabels) :
    Handled b (.endTag tag) (b.endBody tag) := by
  obtain ⟨b', hstep, hb'⟩ := exists_endBody (b := b) htag
  have hgrows := h.sound.endBody tag
  rw [hstep] at hgrows ⊢
  refine h.handled_quiet (Token.isQuiet_endTag tag) hgrows (isPlainKind_of_suppliesAtEnd tag) ?_
  rcases hb' with rfl | hb'
  · exact h.settled_closeTemplate
  · rw [hb']
    exact h.2

/-- The end of the text is handled inside a template. -/
theorem endTemplateText (h : b.Settled) : Handled b .eof b.endTemplateText := by
  have hgrows := h.sound.endTemplateText
  unfold Builder.endTemplateText at hgrows ⊢
  split
  · rename_i hopen
    rw [if_pos hopen] at hgrows
    refine h.handled_again hgrows (by simp) ?_ (by simp [Token.promises])
    refine h.resetMode ?_ (List.drop_sublist 1 _).subset
    exact ((List.drop_sublist 1 _).trans (List.dropWhile_sublist _)).subset
  · exact h.handled_nothing Token.isQuiet_eof

/-- Text in ordinary content is handled. -/
theorem inBody_text (h : b.Settled) (cs : List Char) :
    Handled b (.text cs) (b.inBody (.text cs)) := by
  obtain ⟨b', hstep, hb'⟩ := exists_inBody_text (b := b) cs
  have hgrows : Grows b (b.inBody (.text cs)).state [] := h.sound.inBody rfl
  rw [hstep] at hgrows ⊢
  exact h.handled_same (Token.isQuiet_text cs) hgrows (by simp) hb'

/-- Ordinary content keeps its elements and stays settled. -/
theorem inBody (h : b.Settled) (hmode : b.mode ∈ settledModes) (htoken : token.IsMild) :
    Handled b token (b.inBody token) := by
  cases token with
  | startTag tag => exact h.startBody hmode htoken
  | endTag tag => exact h.endBody htoken
  | text cs => exact h.inBody_text cs
  | eof =>
    unfold Builder.inBody
    dsimp only
    split
    · exact h.handled_nothing Token.isQuiet_eof
    · exact h.endTemplateText
  | doctype declaration => exact htoken.elim
  | comment value => exact htoken.elim
  | nul => exact htoken.elim

/-- What a table refuses is ordinary content in another place. -/
theorem inBodyFostered (h : b.Settled) (hmode : b.mode ∈ settledModes) (htoken : token.IsMild) :
    Handled b token (b.inBodyFostered token) := by
  have hfostered : Builder.Settled { b with fosters := true } := h
  have hhandled := hfostered.inBody hmode htoken
  unfold Builder.inBodyFostered
  generalize Builder.inBody { b with fosters := true } token = s at hhandled
  cases hhandled with
  | done used => exact .done ⟨used.steady, used.kept, used.follows, used.made⟩
  | again settled kept later => exact .again settled kept later

end Settled

end Builder

end TemplateImports.Markup
