import TemplateImports.Proofs.Markup.Nesting

/-!
# The beginning and the end of a document

The first token of a fragment finds no element open: the root, the head and the body are implied.  A
template at the beginning stands in the implied head; any other content closes that head and opens
the implied body.

Main results:

- Definition `headState` is the state with an open head and nothing in it.
- Theorem `build_headState` says that reading a fragment starts in that state.
- Theorem `Ready.build_enterBody` says that ordinary content opens the body.
- Theorem `Ready.build_nil_document` says that the end of the text changes nothing.
- Theorem `build_of_opensBody` says that a text of ordinary content is read inside the body.
-/

namespace TemplateImports.Markup.Builder

open Node Text

/-! ## First tokens -/

/-- The first token of a text. -/
def StartsWith (cs : List Char) (token : Token) : Prop :=
  (cs = [] ∧ token = .eof) ∨
    (cs ≠ [] ∧ ∃ tokens rest, Token.next .data false cs = (token :: tokens, rest))

/-- States that agree on the first token agree on a text. -/
theorem build_congr {b b' : Builder} {cs : List Char} {token : Token}
    (hstarts : StartsWith cs token) (hcontent : b.content = .data) (hcontent' : b'.content = .data)
    (hliteral : b.admitsLiteral = false) (hliteral' : b'.admitsLiteral = false)
    (haccept : b.accept token = b'.accept token) : b.build cs = b'.build cs := by
  rcases hstarts with ⟨rfl, rfl⟩ | ⟨hne, tokens, rest, hnext⟩
  · rw [build_nil, build_nil, haccept]
  · cases cs with
    | nil => exact absurd rfl hne
    | cons c cs =>
      rw [build_cons, build_cons, hcontent, hcontent', hliteral, hliteral', hnext]
      simp only [List.foldl_cons, haccept]

/-- The labels whose start tags do not open the body. -/
def leadingLabels : List String :=
  ["html", "head", "body", "frameset", "noscript"] ++ headLabels

/-- A token that opens the body. -/
def OpensBody : Token → Prop
  | .startTag tag => tag.name ∉ leadingLabels
  | .text cs => cs.all isAsciiBlank = false
  | .eof => True
  | _ => False

theorem opensBody_of_isPlainLabel {tag : Tag} (h : IsPlainLabel tag.name) :
    OpensBody (.startTag tag) := by
  have htelling : ∀ label ∈ leadingLabels, label ∈ tellingLabels := by decide
  exact fun hmem => h.not_telling (htelling tag.name hmem)

theorem OpensBody.beq_eq_false {tag : Tag} (h : OpensBody (.startTag tag)) {other : String}
    (hother : other ∈ leadingLabels) : (tag.name == other) = false := by
  rw [beq_eq_false_iff_ne]
  rintro rfl
  exact h hother

theorem OpensBody.headLabels_contains_eq_false {tag : Tag} (h : OpensBody (.startTag tag)) :
    headLabels.contains tag.name = false := by
  rw [List.contains_eq_mem, decide_eq_false_iff_not]
  exact fun hmem => h (List.mem_append_right _ hmem)

/-- A token that a fragment may begin with. -/
def BeginsFragment (token : Token) : Prop :=
  OpensBody token ∨ ∃ tag : Tag, token = .startTag tag ∧ tag.name = "template"

theorem BeginsFragment.isContentToken {token : Token} (h : BeginsFragment token) :
    IsContentToken token := by
  rcases h with h | ⟨tag, rfl, -⟩
  · cases token with
    | text cs =>
      rintro rfl
      simp [OpensBody] at h
    | doctype d => exact h
    | _ => trivial
  · trivial

/-- A first tag is none of those that write the wrappers of a document. -/
theorem BeginsFragment.ne {tag : Tag} (h : BeginsFragment (.startTag tag)) {other : String}
    (hother : other ∈ leadingLabels) (hne : other ≠ "template") : tag.name ≠ other := by
  rintro rfl
  rcases h with h | ⟨tag', heq, htag⟩
  · exact h hother
  · simp only [Token.startTag.injEq] at heq
    exact hne (heq ▸ htag)

/-! ## The implied head -/

/-- The root of a document that does not write it. -/
def impliedRoot : Frame :=
  ⟨0, "html", [], []⟩

/-- The head of a document that does not write it. -/
def impliedHead : Frame :=
  ⟨1, "head", [], []⟩

/-- The state with an open head and nothing in it. -/
def headState : Builder :=
  { mode := .inHead
    document := plug [impliedHead, impliedRoot] []
    stack := [impliedHead.entry, impliedRoot.entry]
    head := some impliedHead.entry
    quirky := true
    nextId := 2 }

theorem ready_headState : Ready headState impliedHead [impliedRoot] [] where
  document := rfl
  stack := rfl
  quiet := by decide
  distinct := by decide
  fresh := by decide
  markers := by simp [headState]
  content := rfl
  keepsNewline := rfl
  noFoster := rfl
  mode_eq := by decide
  modeFits := .head rfl

/-- A token that leads to the head without writing a wrapper: a start tag, text that is not blank,
an end tag that the beginning of a document heeds, or the end. -/
def OpensDocument : Token → Prop
  | .startTag tag => (tag.name == "html") = false ∧ (tag.name == "head") = false
  | .endTag tag => isEarlyEnd tag = true
  | .text cs => cs.all isAsciiBlank = false
  | .eof => True
  | _ => False

theorem BeginsFragment.opensDocument {token : Token} (h : BeginsFragment token) :
    OpensDocument token := by
  cases token with
  | startTag tag =>
    exact ⟨beq_eq_false_iff_ne.2 (h.ne (by decide) (by decide)),
      beq_eq_false_iff_ne.2 (h.ne (by decide) (by decide))⟩
  | text cs =>
    rcases h with h | ⟨tag, heq, -⟩
    · exact h
    · exact absurd heq (by simp)
  | eof => trivial
  | _ =>
    rcases h with h | ⟨tag, heq, -⟩
    · exact h.elim
    · exact absurd heq (by simp)

/-- The state before the root of a document that does not write it. -/
def rootState : Builder :=
  { quirky := true, mode := .beforeHtml }

/-- The states behind the root and before the head, each of which leads to the next one. -/
theorem process_rootState {token : Token} (h : OpensDocument token) (n : Nat) :
    process (n + 2) rootState token = process n headState token := by
  let b₁ : Builder := { rootState.insertRoot [] with mode := .beforeHead }
  have h₁ : rootState.step token = .again b₁ := by
    cases token with
    | startTag tag => simp [step, isForeign, stepOrdinary, beforeHtml, h.1, againIn, rootState, b₁]
    | endTag tag =>
      have hearly : isEarlyEnd tag = true := h
      simp [step, isForeign, stepOrdinary, beforeHtml, hearly, againIn, rootState, b₁]
    | text cs =>
      have hcs : cs.all isAsciiBlank = false := h
      simp [step, isForeign, stepOrdinary, beforeHtml, hcs, againIn, rootState, b₁]
    | eof => rfl
    | _ => exact h.elim
  have h₂ : b₁.step token = .again headState := by
    have hstate : (b₁.insertLabel "head").rememberHead.againIn .inHead = .again headState := rfl
    rw [← hstate]
    cases token with
    | startTag tag =>
      simp [step, isForeign, stepOrdinary, beforeHead, h.1, h.2, insertRoot, rootState, b₁]
    | endTag tag =>
      have hearly : isEarlyEnd tag = true := h
      simp [step, isForeign, stepOrdinary, beforeHead, hearly, insertRoot, rootState, b₁]
    | text cs =>
      have hcs : cs.all isAsciiBlank = false := h
      simp [step, isForeign, stepOrdinary, beforeHead, hcs, insertRoot, rootState, b₁]
    | eof => rfl
    | _ => exact h.elim
  simp only [process, h₁, h₂]

/-- At the very beginning a token leads to the head. -/
theorem process_initial {token : Token} (h : OpensDocument token) (n : Nat) :
    process (n + 3) {} token = process n headState token := by
  have hstep : Builder.step {} token = .again rootState := by
    cases token with
    | text cs =>
      have hcs : cs.all isAsciiBlank = false := h
      simp [step, isForeign, stepOrdinary, initial, hcs, againIn, rootState]
    | startTag tag => rfl
    | endTag tag => rfl
    | eof => rfl
    | _ => exact h.elim
  rw [process, hstep]
  exact process_rootState h n

theorem consumes_initial {token : Token} (h : OpensDocument token) {looks : Nat}
    {b' : Builder} (hconsumes : Consumes looks headState token b') :
    Consumes (looks + 3) {} token b' := by
  intro n
  rw [← Nat.add_assoc, process_initial h, hconsumes n]

namespace Ready

variable {b : Builder} {frame root : Frame} {inside : List Node}

/-! ## The implied body -/

/-- The state after the head is closed and the body is opened. -/
def enterBody (b : Builder) : Builder :=
  { ({ b.pop with mode := .afterHead }.insertLabel "body") with mode := .inBody }

/-- The body of a document whose head is just closed. -/
def impliedBody (b : Builder) (head : Frame) (inside : List Node) : Frame :=
  ⟨b.nextId, "body", [], head.before ++ [head.node inside]⟩

/-- The state inside the body is one of well-nested markup. -/
theorem ready_enterBody (h : Ready b frame [root] inside) :
    Ready (enterBody b) (impliedBody b frame inside) [root] [] := by
  have hdistinct : (spineIds [root] ++ ids (frame.before ++ [frame.node inside])).Nodup := by
    rw [spineIds_close]
    exact h.distinct
  have hfresh : ∀ id ∈ spineIds [root] ++ ids (frame.before ++ [frame.node inside]),
      id < b.nextId := by
    rw [spineIds_close]
    exact h.fresh
  have hplace : ({ b.pop with mode := .afterHead } : Builder).place = placeInside root.entry := by
    simp [place, placeFor, pop, h.stack, h.noFoster]
  have hnode : (impliedBody b frame inside).node [] =
      .element b.nextId (.html "body") [] [] [] := rfl
  have hdocument : (enterBody b).document = plug [impliedBody b frame inside, root] [] := by
    rw [plug, hnode, impliedBody]
    have hedit := editAt_plug hdistinct (append (.element b.nextId (.html "body") [] [] []))
    have hpop : b.document = plug [root] (frame.before ++ [frame.node inside]) := h.document
    simp only [enterBody, insertLabel, insertElement, insertClosed, hplace]
    rw [show b.pop.document = b.document from rfl, show b.pop.nextId = b.nextId from rfl, hpop,
      hedit]
    rfl
  refine ⟨hdocument, ?_, ?_, ?_, ?_, h.markers, h.content, h.keepsNewline, h.noFoster, ?_,
    .body _⟩
  · simp [enterBody, insertLabel, insertElement, insertClosed, pop, h.stack, Frame.entry,
      impliedBody]
  · intro f hf
    rcases List.mem_cons.1 hf with rfl | hf
    · simp only [impliedBody]
      decide
    · exact h.quiet f (List.mem_cons_of_mem frame hf)
  · rw [ids, List.append_nil, spineIds, List.nodup_append]
    refine ⟨by simpa [spineIds, impliedBody] using hdistinct, by simp, ?_⟩
    intro id hid other hother heq
    have hlt := hfresh id (by simpa [spineIds, impliedBody] using hid)
    rw [heq, List.mem_singleton.1 hother] at hlt
    exact Nat.lt_irrefl _ hlt
  · rw [ids, List.append_nil, spineIds]
    intro id hid
    rcases List.mem_append.1 hid with hid | hid
    · exact Nat.lt_succ_of_lt (hfresh id hid)
    · rw [List.mem_singleton.1 hid]
      exact Nat.lt_succ_self _
  · simp [enterBody, insertLabel, insertElement, insertClosed, pop, properMode, modeOf]

/-- Ordinary content closes the head and opens the body. -/
theorem consumes_of_enterBody (h : Ready b frame [root] inside) (hmode : b.mode = .inHead)
    {token : Token} (hopens : OpensBody token) {looks : Nat} {b' : Builder}
    (hconsumes : Consumes looks (enterBody b) token b') : Consumes (looks + 2) b token b' := by
  let b₁ : Builder := { b.pop with mode := .afterHead }
  have h₁ : b.step token = .again b₁ := by
    rw [h.step_eq, stepOrdinary, hmode]
    cases token with
    | startTag tag =>
      have hhtml := hopens.beq_eq_false (show "html" ∈ leadingLabels by decide)
      have hhead := hopens.beq_eq_false (show "head" ∈ leadingLabels by decide)
      have hnoscript := hopens.beq_eq_false (show "noscript" ∈ leadingLabels by decide)
      have hlabels := hopens.headLabels_contains_eq_false
      simp only [inHead, hhtml, hhead, hnoscript, hlabels, Bool.or_self, Bool.false_eq_true,
        if_false, againIn, b₁]
    | text cs =>
      have hblank : cs.all isAsciiBlank = false := hopens
      simp only [inHead, hblank, Bool.false_eq_true, if_false, againIn, b₁]
    | eof => rfl
    | _ => exact absurd hopens id
  have hforeign : b₁.isForeign token = false := by
    simp [isForeign, b₁, pop, h.stack, Frame.entry]
  have h₂ : b₁.step token = .again (enterBody b) := by
    rw [step, hforeign, stepOrdinary]
    simp only [Bool.false_eq_true, if_false, b₁]
    cases token with
    | startTag tag =>
      have hhtml := hopens.beq_eq_false (show "html" ∈ leadingLabels by decide)
      have hhead := hopens.beq_eq_false (show "head" ∈ leadingLabels by decide)
      have hbody := hopens.beq_eq_false (show "body" ∈ leadingLabels by decide)
      have hframeset := hopens.beq_eq_false (show "frameset" ∈ leadingLabels by decide)
      have hlabels := hopens.headLabels_contains_eq_false
      simp only [afterHead, hhtml, hhead, hbody, hframeset, hlabels, Bool.false_eq_true, if_false,
        againIn, enterBody]
    | text cs =>
      have hblank : cs.all isAsciiBlank = false := hopens
      simp only [afterHead, hblank, Bool.false_eq_true, if_false, againIn, enterBody]
    | eof => rfl
    | _ => exact absurd hopens id
  exact consumes_of_again h₁ (consumes_of_again h₂ hconsumes)

/-! ## The end -/

/-- A token of ordinary content is used up at once inside the body. -/
theorem exists_consumes_of_opensBody (h : Ready b frame [root] inside) (hmode : b.mode = .inBody)
    (hmodes : b.templateModes = []) {token : Token} (hopens : OpensBody token) :
    ∃ b', Consumes 1 b token b' := by
  have hstep : ∃ b', b.step token = .done b' := by
    rw [h.step_eq, stepOrdinary, hmode]
    cases token with
    | startTag tag => exact ⟨_, rfl⟩
    | text cs => exact ⟨_, rfl⟩
    | eof => exact ⟨b, by simp [inBody, hmodes]⟩
    | _ => exact absurd hopens id
  obtain ⟨b', hstep⟩ := hstep
  exact ⟨b', consumes_of_done hstep⟩

/-- Ordinary content is read inside the body that it opens. -/
theorem build_enterBody (h : Ready b frame [root] inside) (hmode : b.mode = .inHead)
    (hmodes : b.templateModes = []) {cs : List Char} {token : Token}
    (hstarts : StartsWith cs token) (hopens : OpensBody token) :
    b.build cs = (enterBody b).build cs := by
  have hready := h.ready_enterBody
  have htoken : IsContentToken token := BeginsFragment.isContentToken (Or.inl hopens)
  obtain ⟨b', hconsumes⟩ := hready.exists_consumes_of_opensBody rfl hmodes hopens
  have haccept : b.accept token = b' :=
    accept_of_consumes h.keepsNewline htoken (by decide)
      (h.consumes_of_enterBody hmode hopens hconsumes)
  have haccept' : (enterBody b).accept token = b' :=
    accept_of_consumes hready.keepsNewline htoken (by decide) hconsumes
  exact build_congr hstarts h.content hready.content h.admitsLiteral_eq_false
    hready.admitsLiteral_eq_false (haccept.trans haccept'.symm)

/-- The end of the text changes nothing inside the body. -/
theorem build_nil_document (h : Ready b frame [root] inside) (hmode : b.mode = .inBody)
    (hmodes : b.templateModes = []) : (b.build []).document = plug [frame, root] inside := by
  have hstep : b.step .eof = .done b := by
    rw [h.step_eq, stepOrdinary, hmode]
    simp [inBody, hmodes]
  have haccept : b.accept .eof = b :=
    accept_of_consumes h.keepsNewline trivial (by decide) (consumes_of_done hstep)
  rw [build_nil, haccept, h.document]

end Ready

/-- A fragment is read from the state with an open head. -/
theorem build_headState {cs : List Char} {token : Token} (hstarts : StartsWith cs token)
    (hbegins : BeginsFragment token) : Builder.build {} cs = headState.build cs := by
  have htoken := hbegins.isContentToken
  have hhead : ∃ looks b', looks ≤ 3 ∧ Consumes looks headState token b' := by
    rcases hbegins with hopens | ⟨tag, rfl, htag⟩
    · obtain ⟨b', hconsumes⟩ :=
        ready_headState.ready_enterBody.exists_consumes_of_opensBody rfl rfl hopens
      exact ⟨3, b', by decide, ready_headState.consumes_of_enterBody rfl hopens hconsumes⟩
    · exact ⟨1, _, by decide, consumes_of_done (ready_headState.step_template htag)⟩
  obtain ⟨looks, b', hle, hconsumes⟩ := hhead
  have haccept : headState.accept token = b' :=
    accept_of_consumes rfl htoken (by omega) hconsumes
  have haccept' : Builder.accept {} token = b' :=
    accept_of_consumes rfl htoken (by omega) (consumes_initial hbegins.opensDocument hconsumes)
  exact build_congr hstarts rfl rfl rfl ready_headState.admitsLiteral_eq_false
    (haccept'.trans haccept.symm)

/-! ## Texts at the beginning -/

/-- The state inside the body of a document that has written nothing yet. -/
def bodyState : Builder :=
  Ready.enterBody headState

/-- The body of a document that does not write it. -/
def bodyFrame : Frame :=
  Ready.impliedBody headState impliedHead []

theorem ready_bodyState : Ready bodyState bodyFrame [impliedRoot] [] :=
  ready_headState.ready_enterBody

/-- A token of ordinary content is the first one in the body. -/
theorem accept_of_opensBody {token : Token} (hopens : OpensBody token) :
    Builder.accept {} token = bodyState.accept token := by
  have hbegins : BeginsFragment token := Or.inl hopens
  obtain ⟨b', hconsumes⟩ := ready_bodyState.exists_consumes_of_opensBody rfl rfl hopens
  have haccept : bodyState.accept token = b' :=
    accept_of_consumes ready_bodyState.keepsNewline hbegins.isContentToken (by decide) hconsumes
  rw [haccept]
  exact accept_of_consumes rfl hbegins.isContentToken (by decide)
    (consumes_initial hbegins.opensDocument
      (ready_headState.consumes_of_enterBody rfl hopens hconsumes))

theorem build_of_opensBody {cs : List Char} {token : Token} (hstarts : StartsWith cs token)
    (hopens : OpensBody token) : Builder.build {} cs = bodyState.build cs :=
  build_congr hstarts rfl rfl rfl ready_bodyState.admitsLiteral_eq_false
    (accept_of_opensBody hopens)

/-- Blanks at the very beginning do not count. -/
theorem accept_blank {cs : List Char} (hne : cs ≠ []) (hblank : cs.all isAsciiBlank = true) :
    Builder.accept {} (.text cs) = {} := by
  refine accept_of_consumes rfl hne (by decide) (consumes_of_done ?_)
  simp [step, isForeign, stepOrdinary, initial, hblank]

/-- A null character at the very beginning opens the body and does not count there. -/
theorem accept_nul : Builder.accept {} .nul = bodyState :=
  rfl

end TemplateImports.Markup.Builder
