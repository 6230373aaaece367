import TemplateImports.Markup.Construction
import TemplateImports.Proofs.Markup.Spine

/-!
# Well-nested markup

The construction of a document from markup whose elements are plain ones and templates, each closed
by its own end tag.  The state is then determined by the open elements and the nodes inside the
innermost one; each start tag, each end tag and each run of text changes these in the obvious way.

Main results:

- Structure `Builder.Ready` is the invariant between two tokens.
- Theorems `Ready.accept_startTag` and `Ready.accept_endTag` handle the tags of plain elements.
- Theorems `Ready.accept_template` and `Ready.accept_templateEnd` handle the tags of templates.
- Theorem `Ready.foldl_accept_textTokens` handles the tokens of a text.
-/

namespace TemplateImports.Markup

open Node Text

/-! ## Plain labels -/

/-- The label of a plain element: its tags open and close an element and do nothing else. -/
def IsPlainLabel (label : String) : Prop :=
  label = "div" ∨ (startRule label = .ordinary ∧ endRule label = .ordinary)

/-- A label outside the table of end rules is an ordinary element. -/
theorem endRule_of_not_mem {label : String} (h : label ∉ endRules.map (·.1)) :
    endRule label = .ordinary := by
  have hnone : endRules.lookup label = none := by
    rw [List.lookup_eq_none_iff]
    intro entry hentry
    rw [bne_iff_ne]
    rintro rfl
    exact h (List.mem_map_of_mem hentry)
  rw [endRule, hnone]
  rfl

/-- Blocks and templates are the elements of well-nested markup that have rules of their own. -/
theorem rules_div : startRule "div" = .block ∧ endRule "div" = .block := by
  decide +kernel

theorem rules_template : startRule "template" = .headContent ∧ endRule "template" = .template := by
  decide +kernel

/-- A plain label is none of those that have another rule. -/
theorem IsPlainLabel.ne {label other : String} (h : IsPlainLabel label) (hdiv : other ≠ "div")
    (hrule : startRule other ≠ .ordinary) : label ≠ other := by
  rintro rfl
  rcases h with h | h
  · exact hdiv h
  · exact hrule h.1

/-- The labels in a list of labels with other rules do not contain a plain one. -/
theorem IsPlainLabel.not_mem {label : String} {labels : List String} (h : IsPlainLabel label)
    (hlabels : ∀ other ∈ labels, other ≠ "div" ∧ startRule other ≠ .ordinary) :
    label ∉ labels := by
  intro hmem
  obtain ⟨hdiv, hrule⟩ := hlabels label hmem
  exact h.ne hdiv hrule rfl

/-- The labels that have an effect on modes, on implied ends, or in a head. -/
def tellingLabels : List String :=
  ["select", "td", "th", "tr", "tbody", "thead", "tfoot", "caption", "colgroup", "table",
   "template", "head", "body", "frameset", "html", "col", "noscript"] ++ headLabels ++
    thoroughImpliedEnds

theorem IsPlainLabel.not_telling {label : String} (h : IsPlainLabel label) :
    label ∉ tellingLabels :=
  h.not_mem (by decide +kernel)

/-- A plain label is none of the labels that rules ask for. -/
theorem IsPlainLabel.beq_eq_false {label other : String} (h : IsPlainLabel label)
    (hother : other ∈ tellingLabels) : (label == other) = false := by
  rw [beq_eq_false_iff_ne]
  rintro rfl
  exact h.not_telling hother

/-- A plain label is in no list that rules ask for. -/
theorem IsPlainLabel.contains_eq_false {label : String} {labels : List String}
    (h : IsPlainLabel label) (hlabels : ∀ other ∈ labels, other ∈ tellingLabels) :
    labels.contains label = false := by
  rw [List.contains_eq_mem, decide_eq_false_iff_not]
  exact fun hmem => h.not_telling (hlabels label hmem)

/-- A plain element is no boundary of the ordinary scope. -/
theorem IsPlainLabel.defaultScope_eq_false {label : String} (h : IsPlainLabel label) :
    defaultScope (.html label) = false := by
  have hnot : ["applet", "caption", "html", "table", "td", "th", "marquee", "object",
      "template"].contains label = false := by
    rw [List.contains_eq_mem, decide_eq_false_iff_not]
    exact h.not_mem (by decide +kernel)
  simp only [defaultScope, ElementName.isOneOf, hnot, isMathTextPoint, isGraphicsMarkupPoint,
    Bool.and_false, Bool.false_or]
  rfl

namespace Builder

/-! ## Looking at a token -/

/-- A reading step in ordinary content hands the tokens to the state. -/
theorem build_of_next {b : Builder} (hcontent : b.content = .data)
    (hliteral : b.admitsLiteral = false) {cs rest : List Char} {tokens : List Token}
    (hne : cs ≠ []) (hnext : Token.next .data false cs = (tokens, rest)) :
    b.build cs = (tokens.foldl Builder.accept b).build rest := by
  cases cs with
  | nil => exact absurd rfl hne
  | cons c cs => rw [build_cons, hcontent, hliteral, hnext]

/-- A token is used up after a number of looks. -/
def Consumes (looks : Nat) (b : Builder) (token : Token) (b' : Builder) : Prop :=
  ∀ n, process (n + looks) b token = b'

/-- A token that is handled at once takes one look. -/
theorem consumes_of_done {b b' : Builder} {token : Token} (h : b.step token = .done b') :
    Consumes 1 b token b' := by
  intro n
  rw [process, h]

/-- A token that is looked at again takes one look more. -/
theorem consumes_of_again {looks : Nat} {b b₁ b' : Builder} {token : Token}
    (h : b.step token = .again b₁) (h₁ : Consumes looks b₁ token b') :
    Consumes (looks + 1) b token b' := by
  intro n
  rw [← Nat.add_assoc, process, h]
  exact h₁ n

/-- A token other than a declaration and an empty text. -/
def IsContentToken : Token → Prop
  | .doctype _ => False
  | .text cs => cs ≠ []
  | _ => True

/-- A token of content is used up if few looks suffice. -/
theorem accept_of_consumes {looks : Nat} {b b' : Builder} {token : Token}
    (hskip : b.skipsNewline = false) (htoken : IsContentToken token)
    (hlooks : looks ≤ 64) (h : Consumes looks b token b') : b.accept token = b' := by
  have hb : { b with skipsNewline := false } = b := by rw [← hskip]
  have hprocess : process b.looks b token = b' := by
    have hn := h (b.looks - looks)
    have hle : looks ≤ b.looks := by
      unfold Builder.looks
      omega
    rwa [Nat.sub_add_cancel hle] at hn
  unfold accept
  rw [hb, hskip]
  cases token with
  | doctype d => exact htoken.elim
  | text cs =>
    have hne : cs.isEmpty = false := by
      cases cs with
      | nil => exact absurd rfl htoken
      | cons c cs => rfl
    simpa [hne] using hprocess
  | startTag tag => exact hprocess
  | endTag tag => exact hprocess
  | comment value => exact hprocess
  | nul => exact hprocess
  | eof => exact hprocess

/-! ## The invariant -/

/-- The modes that may be current inside an element. -/
inductive ModeFits : InsertionMode → Frame → Prop where
  | body (frame : Frame) : ModeFits .inBody frame
  | template {frame : Frame} (h : frame.isTemplate = true) : ModeFits .inTemplate frame
  | head {frame : Frame} (h : frame.label = "head") : ModeFits .inHead frame

/-- The state between two tokens of well-nested markup: the open elements, innermost first, are
`frame :: frames`, and the nodes inside the innermost one are `inside`. -/
structure Ready (b : Builder) (frame : Frame) (frames : List Frame) (inside : List Node) :
    Prop where
  document : b.document = plug (frame :: frames) inside
  stack : b.stack = (frame :: frames).map Frame.entry
  quiet : ∀ f ∈ frame :: frames, f.label ∉ thoroughImpliedEnds
  distinct : (spineIds (frame :: frames) ++ ids inside).Nodup
  fresh : ∀ id ∈ spineIds (frame :: frames) ++ ids inside, id < b.nextId
  markers : ∀ entry ∈ b.formatting, entry = .marker
  content : b.content = .data
  keepsNewline : b.skipsNewline = false
  noFoster : b.fosters = false
  mode_eq : b.mode = b.properMode
  modeFits : ModeFits b.mode frame

/-- What well-nested markup inside an element leaves as it is. -/
structure Kept (b b' : Builder) : Prop where
  formatting : b'.formatting = b.formatting
  outerModes : b'.templateModes.drop 1 = b.templateModes.drop 1
  modesEmpty : b'.templateModes.isEmpty = b.templateModes.isEmpty
  head : b'.head = b.head

theorem Kept.refl (b : Builder) : Kept b b :=
  ⟨rfl, rfl, rfl, rfl⟩

theorem Kept.trans {b₁ b₂ b₃ : Builder} (h : Kept b₁ b₂) (h' : Kept b₂ b₃) : Kept b₁ b₃ :=
  ⟨h'.formatting.trans h.formatting, h'.outerModes.trans h.outerModes,
    h'.modesEmpty.trans h.modesEmpty, h'.head.trans h.head⟩

namespace Ready

variable {b : Builder} {frame : Frame} {frames : List Frame} {inside : List Node}

/-! ## Consequences of the invariant -/

/-- Inside plain elements, no content is foreign. -/
theorem isForeign_eq_false (h : Ready b frame frames inside) (token : Token) :
    b.isForeign token = false := by
  simp [isForeign, h.stack, Frame.entry]

/-- Inside plain elements, tokens are handled as those of the markup. -/
theorem step_eq (h : Ready b frame frames inside) (token : Token) :
    b.step token = b.stepOrdinary token := by
  rw [step, h.isForeign_eq_false token]
  rfl

/-- Inside plain elements, no literal text is admitted. -/
theorem admitsLiteral_eq_false (h : Ready b frame frames inside) : b.admitsLiteral = false := by
  simp [admitsLiteral, currentSpace, h.stack, Frame.entry]

/-- The next node goes into the innermost frame. -/
theorem place_eq (h : Ready b frame frames inside) : b.place = placeInside frame.entry := by
  simp [place, placeFor, h.stack, h.noFoster]

/-- Nothing is opened again while only markers are remembered. -/
theorem reconstruct_eq (h : Ready b frame frames inside) : b.reconstruct = b := by
  have hstops : b.formatting.takeWhile (!b.needsNoOpening ·) = [] ∧
      b.formatting.dropWhile (!b.needsNoOpening ·) = b.formatting := by
    cases hf : b.formatting with
    | nil => exact ⟨rfl, rfl⟩
    | cons entry entries =>
      have hmarker : entry = .marker := h.markers entry (by simp [hf])
      simp [hmarker, needsNoOpening]
  unfold reconstruct
  rw [hstops.1, hstops.2]
  rfl

/-- No element is in scope that is not open. -/
theorem hasInScope_eq_false (h : Ready b frame frames inside) {label : String}
    (hlabel : label ∈ thoroughImpliedEnds) (boundary : ElementName → Bool) :
    b.hasInScope boundary label = false := by
  have hopen : ∀ fs : List Frame, (∀ f ∈ fs, f.label ∉ thoroughImpliedEnds) →
      inScope boundary (·.name.isHtml label) (fs.map Frame.entry) = false := by
    intro fs hfs
    induction fs with
    | nil => rfl
    | cons f fs ih =>
      have hf : f.label ≠ label := by
        rintro rfl
        exact hfs f (by simp) hlabel
      have hrest := ih fun g hg => hfs g (List.mem_cons_of_mem f hg)
      have htest : f.entry.name.isHtml label = false := by
        simp [Frame.entry, ElementName.isHtml, hf]
      rw [List.map_cons, inScope, htest, hrest]
      simp
  rw [hasInScope, h.stack]
  exact hopen _ h.quiet

/-- No paragraph is open inside plain elements. -/
theorem closeParagraphInScope_eq (h : Ready b frame frames inside) :
    b.closeParagraphInScope = b := by
  rw [closeParagraphInScope, h.hasInScope_eq_false (by decide)]
  rfl

/-- The innermost element is not closed by the end tags that imply others. -/
theorem closeImplied_eq (h : Ready b frame frames inside) {labels : List String}
    (hlabels : ∀ label ∈ labels, label ∈ thoroughImpliedEnds) : b.closeImplied labels = b := by
  have hframe : frame.label ∉ labels := fun hmem => h.quiet frame (by simp) (hlabels _ hmem)
  have hdrop : b.stack.dropWhile (·.name.isOneOf labels) = b.stack := by
    rw [h.stack]
    simp [Frame.entry, ElementName.isOneOf, hframe]
  rw [closeImplied, hdrop]

/-! ## Inserting nodes -/

/-- Insertion into the innermost element edits the end of the path. -/
theorem editAt_place (h : Ready b frame frames inside) (edit : List Node → List Node) :
    editAt b.place edit b.document = plug (frame :: frames) (edit inside) := by
  rw [h.place_eq, h.document, editAt_plug h.distinct]

/-- A new element is the new end of the path. -/
theorem distinct_open (h : Ready b frame frames inside) (label : String)
    (attributes : List Attribute) :
    (spineIds (⟨b.nextId, label, attributes, inside⟩ :: frame :: frames)).Nodup := by
  rw [spineIds, List.nodup_append]
  refine ⟨h.distinct, by simp, ?_⟩
  intro id hid other hother heq
  have hlt := h.fresh id hid
  rw [heq, List.mem_singleton.1 hother] at hlt
  exact Nat.lt_irrefl _ hlt

/-- The numbers of the open elements are below the next free one, behind a start tag as well. -/
theorem fresh_open (h : Ready b frame frames inside) (label : String)
    (attributes : List Attribute) :
    ∀ id ∈ spineIds (⟨b.nextId, label, attributes, inside⟩ :: frame :: frames),
      id < b.nextId + 1 := by
  intro id hid
  rw [spineIds, List.mem_append, List.mem_singleton] at hid
  rcases hid with hid | rfl
  · exact Nat.lt_succ_of_lt (h.fresh id hid)
  · exact Nat.lt_succ_self _

/-- A start tag opens one more frame of the document. -/
theorem insertTag_document (h : Ready b frame frames inside) (tag : Tag) :
    (b.insertTag tag).document =
      plug (⟨b.nextId, tag.name, tag.attributes, inside⟩ :: frame :: frames) [] := by
  have hnode : Frame.node ⟨b.nextId, tag.name, tag.attributes, inside⟩ [] =
      .element b.nextId (.html tag.name) tag.attributes [] [] := by
    simp [Frame.node]
  rw [plug, hnode]
  exact h.editAt_place _

/-- A start tag opens one more element. -/
theorem insertTag_stack (h : Ready b frame frames inside) (tag : Tag) :
    (b.insertTag tag).stack =
      (⟨b.nextId, tag.name, tag.attributes, inside⟩ :: frame :: frames : List Frame).map
        Frame.entry := by
  simp [insertTag, insertElement, insertClosed, h.stack, Frame.entry]

/-! ## Tags of plain elements -/

/-- What a template begins with makes room for any ordinary content. -/
theorem enterContent (h : Ready b frame frames inside) (hmode : b.mode = .inTemplate) :
    let b' := { b with
      templateModes := .inBody :: b.templateModes.drop 1
      mode := .inBody }
    Ready b' frame frames inside ∧ Kept b b' := by
  have htemplate : frame.label = "template" := by
    have hfits := h.modeFits
    rw [hmode] at hfits
    cases hfits with
    | template ht => simpa [Frame.isTemplate] using ht
  have hproper := h.mode_eq
  rw [hmode] at hproper
  simp only [properMode, h.stack, List.map_cons, Frame.entry, htemplate, modeOf] at hproper
  have hnonempty : b.templateModes.isEmpty = false := by
    cases hmodes : b.templateModes with
    | nil => simp [hmodes] at hproper
    | cons mode modes => rfl
  refine ⟨⟨h.document, h.stack, h.quiet, h.distinct, h.fresh, h.markers, h.content,
    h.keepsNewline, h.noFoster, ?_, .body frame⟩, ⟨rfl, by simp, by simp [hnonempty], rfl⟩⟩
  simp [properMode, h.stack, Frame.entry, htemplate, modeOf]

/-- A plain element leaves the choice of a mode to the elements around it. -/
theorem modeOf_plain {label : String} (hplain : IsPlainLabel label) (mode : InsertionMode)
    (hasHead : Bool) (id : Nat) (attributes : List Attribute) (stack : List OpenElement) :
    modeOf mode hasHead (⟨id, .html label, attributes⟩ :: stack) = modeOf mode hasHead stack := by
  have hne : ∀ other ∈ tellingLabels, label ≠ other := by
    rintro other hother rfl
    exact hplain.not_telling hother
  rw [modeOf]
  simp only [bne_self_eq_false, Bool.false_eq_true, if_false]
  split <;> first | rfl | exact (hne _ (by decide) rfl).elim

/-- The start tag of a plain element only inserts it. -/
theorem startBody_eq (h : Ready b frame frames inside) {tag : Tag}
    (hplain : IsPlainLabel tag.name) : b.startBody tag = b.insertTag tag := by
  rcases hplain with hdiv | ⟨hrule, -⟩
  · have hrule : startRule tag.name = .block := hdiv ▸ rules_div.1
    simp only [startBody, hrule, h.closeParagraphInScope_eq]
  · simp only [startBody, hrule, h.reconstruct_eq]

/-- The state inside a new plain element. -/
theorem insertTag_plain (h : Ready b frame frames inside) {tag : Tag}
    (hplain : IsPlainLabel tag.name) (hmode : b.mode = .inBody) :
    Ready (b.insertTag tag) ⟨b.nextId, tag.name, tag.attributes, inside⟩ (frame :: frames) [] := by
  have hquiet : tag.name ∉ thoroughImpliedEnds := fun hmem =>
    hplain.not_telling (List.mem_append_right _ hmem)
  refine ⟨h.insertTag_document tag, h.insertTag_stack tag, ?_, ?_, ?_, h.markers, h.content,
    h.keepsNewline, h.noFoster, ?_, ?_⟩
  · intro f hf
    rcases List.mem_cons.1 hf with rfl | hf
    · exact hquiet
    · exact h.quiet f hf
  · simpa [ids] using h.distinct_open tag.name tag.attributes
  · rw [ids, List.append_nil]
    exact h.fresh_open tag.name tag.attributes
  · have hproper : (b.insertTag tag).properMode = b.properMode := by
      simp only [properMode, h.insertTag_stack, h.stack, List.map_cons]
      exact modeOf_plain hplain _ _ _ _ _
    rw [hproper]
    exact h.mode_eq
  · have hinsert : (b.insertTag tag).mode = .inBody := hmode
    rw [hinsert]
    exact .body _

/-- A token that begins ordinary content of a template is looked at once more. -/
theorem step_inTemplate_startTag (h : Ready b frame frames inside) {tag : Tag}
    (hplain : IsPlainLabel tag.name) (hmode : b.mode = .inTemplate) :
    b.step (.startTag tag) = .again { b with
      templateModes := .inBody :: b.templateModes.drop 1
      mode := .inBody } := by
  have hhead := hplain.contains_eq_false fun other (h : other ∈ headLabels) =>
    (by simp [tellingLabels, h] : other ∈ tellingLabels)
  have hparts : ["caption", "colgroup", "tbody", "tfoot", "thead"].contains tag.name = false :=
    hplain.contains_eq_false (by decide)
  have hcells : ["td", "th"].contains tag.name = false := hplain.contains_eq_false (by decide)
  have hcol := hplain.beq_eq_false (show "col" ∈ tellingLabels by decide)
  have hrow := hplain.beq_eq_false (show "tr" ∈ tellingLabels by decide)
  rw [h.step_eq, stepOrdinary, hmode]
  simp only [inTemplate, hhead, hparts, hcells, hcol, hrow, Bool.false_eq_true, if_false,
    templateIn, againIn]

/-- A start tag opens a plain element. -/
theorem accept_startTag (h : Ready b frame frames inside) {tag : Tag}
    (hplain : IsPlainLabel tag.name) (hmode : b.mode ≠ .inHead) :
    let b' := b.accept (.startTag tag)
    Ready b' ⟨b.nextId, tag.name, tag.attributes, inside⟩ (frame :: frames) [] ∧ Kept b b' := by
  have hbody : ∀ {c : Builder}, Ready c frame frames inside → c.mode = .inBody →
      Consumes 1 c (.startTag tag) (c.insertTag tag) := by
    intro c hc hcmode
    apply consumes_of_done
    rw [hc.step_eq, stepOrdinary, hcmode]
    simp only [inBody, hc.startBody_eq hplain]
  intro b'
  have hkept : ∀ c : Builder, Kept c (c.insertTag tag) := fun c => ⟨rfl, rfl, rfl, rfl⟩
  cases hm : b.mode with
  | inBody =>
    have haccept : b' = b.insertTag tag :=
      accept_of_consumes h.keepsNewline trivial (by decide) (hbody h hm)
    rw [haccept]
    exact ⟨h.insertTag_plain hplain hm, hkept b⟩
  | inTemplate =>
    obtain ⟨hready, hkept'⟩ := h.enterContent hm
    have hconsumes := consumes_of_again (h.step_inTemplate_startTag hplain hm) (hbody hready rfl)
    have haccept : b' = _ := accept_of_consumes h.keepsNewline trivial (by decide) hconsumes
    rw [haccept]
    exact ⟨hready.insertTag_plain hplain rfl, hkept'.trans (hkept _)⟩
  | inHead => exact absurd hm hmode
  | _ =>
    have hfits := h.modeFits
    rw [hm] at hfits
    cases hfits

/-! ### End tags -/

/-- Outside of heads and templates everything is ordinary content. -/
theorem mode_eq_inBody_of_ne (h : Ready b frame frames inside)
    (htemplate : frame.label ≠ "template") (hhead : frame.label ≠ "head") : b.mode = .inBody := by
  have hfits := h.modeFits
  generalize b.mode = mode at hfits
  cases hfits with
  | body => rfl
  | template ht => exact absurd (by simpa [Frame.isTemplate] using ht) htemplate
  | head hh => exact absurd hh hhead

/-- Inside a plain element, the content is ordinary. -/
theorem mode_eq_inBody (h : Ready b frame frames inside) (hplain : IsPlainLabel frame.label) :
    b.mode = .inBody := by
  have hne : ∀ other ∈ tellingLabels, frame.label ≠ other := by
    rintro other hother rfl
    exact hplain.not_telling hother
  exact h.mode_eq_inBody_of_ne (hne "template" (by decide)) (hne "head" (by decide))

/-- An end tag of a plain element pops it off the stack. -/
theorem endBody_eq (h : Ready b frame frames inside) {tag : Tag}
    (hplain : IsPlainLabel tag.name) (hlabel : frame.label = tag.name) :
    b.endBody tag = .done b.pop := by
  have himplied : ∀ label ∈ impliedEnds, label ∈ thoroughImpliedEnds := fun label hmem =>
    List.mem_append_left _ hmem
  rcases hplain with hdiv | ⟨-, hrule⟩
  · have hrule : endRule tag.name = .block := hdiv ▸ rules_div.2
    have hscope : b.hasInScope defaultScope tag.name = true := by
      rw [hasInScope, h.stack, List.map_cons]
      exact inScope_cons_self (by simp [Frame.entry, ElementName.isHtml, hlabel])
    simp only [endBody, hrule, closeBlock, hscope, if_true, h.closeImplied_eq himplied]
    simp [popThroughLabel, popThrough, pop, h.stack, Frame.entry, ElementName.isHtml, hlabel]
  · have hfind : b.stack.find? (fun e => e.name.isHtml tag.name || isSpecial e.name) =
        some frame.entry := by
      rw [h.stack, List.map_cons, List.find?_cons_of_pos]
      simp [Frame.entry, ElementName.isHtml, hlabel]
    have himplied' : ∀ label ∈ impliedEnds.filter (· != tag.name), label ∈ thoroughImpliedEnds :=
      fun label hmem => himplied label (List.mem_of_mem_filter hmem)
    have hself : frame.entry.name.isHtml tag.name = true := by
      simp [Frame.entry, ElementName.isHtml, hlabel]
    simp only [endBody, hrule, endOrdinary, hfind, hself, if_true, closeImpliedExcept,
      h.closeImplied_eq himplied']
    simp [pop, h.stack]

/-- A plain element is popped off the stack. -/
theorem pop_plain {outer : Frame} (h : Ready b frame (outer :: frames) inside)
    (hplain : IsPlainLabel frame.label) :
    Ready b.pop outer frames (frame.before ++ [frame.node inside]) ∧ Kept b b.pop ∧
      b.pop.mode = .inBody := by
  have hmode : b.pop.mode = .inBody := h.mode_eq_inBody hplain
  have hproper : b.pop.properMode = b.properMode := by
    simp only [properMode, pop, h.stack, List.map_cons, List.drop_one, List.tail_cons]
    exact (modeOf_plain hplain _ _ _ _ _).symm
  refine ⟨⟨h.document, by simp [pop, h.stack], ?_, ?_, ?_, h.markers, h.content, h.keepsNewline,
    h.noFoster, ?_, ?_⟩, ⟨rfl, rfl, rfl, rfl⟩, hmode⟩
  · exact fun f hf => h.quiet f (List.mem_cons_of_mem frame hf)
  · rw [spineIds_close]
    exact h.distinct
  · rw [spineIds_close]
    exact h.fresh
  · rw [hproper]
    exact h.mode_eq
  · rw [hmode]
    exact .body outer

/-- An end tag closes the plain element that it belongs to. -/
theorem accept_endTag {outer : Frame} (h : Ready b frame (outer :: frames) inside) {tag : Tag}
    (hplain : IsPlainLabel tag.name) (hlabel : frame.label = tag.name) :
    let b' := b.accept (.endTag tag)
    Ready b' outer frames (frame.before ++ [frame.node inside]) ∧ Kept b b' ∧
      b'.mode = .inBody := by
  have hmode := h.mode_eq_inBody (hlabel ▸ hplain)
  have hconsumes : Consumes 1 b (.endTag tag) b.pop := by
    apply consumes_of_done
    rw [h.step_eq, stepOrdinary, hmode]
    exact h.endBody_eq hplain hlabel
  intro b'
  have haccept : b' = b.pop := accept_of_consumes h.keepsNewline trivial (by decide) hconsumes
  rw [haccept]
  exact h.pop_plain (hlabel ▸ hplain)

/-- The end tag of a block closes a plain element that is still open inside the block. -/
theorem accept_blockEnd {inner outer : Frame}
    (h : Ready b inner (frame :: outer :: frames) inside) (hinner : IsPlainLabel inner.label)
    (hne : inner.label ≠ "div") (hframe : frame.label = "div") {tag : Tag}
    (htag : tag.name = "div") :
    let b' := b.accept (.endTag tag)
    Ready b' outer frames (frame.before ++ [frame.node (inner.before ++ [inner.node inside])]) ∧
      Kept b b' ∧ b'.mode = .inBody := by
  obtain ⟨hready, hkept, -⟩ := h.pop_plain hinner
  obtain ⟨hready', hkept', hmode'⟩ := hready.pop_plain (Or.inl hframe)
  have himplied := h.closeImplied_eq fun label (hmem : label ∈ impliedEnds) =>
    List.mem_append_left _ hmem
  have hscope : b.hasInScope defaultScope "div" = true := by
    have hboundary := hinner.defaultScope_eq_false
    have hself : inner.entry.name.isHtml "div" = false := by
      simp [Frame.entry, ElementName.isHtml, hne]
    rw [hasInScope, h.stack, List.map_cons, inScope, List.map_cons,
      inScope_cons_self (by simp [Frame.entry, ElementName.isHtml, hframe]), hself]
    simpa [Frame.entry] using hboundary
  have hpops : (b.closeImplied impliedEnds).popThroughLabel "div" = b.pop.pop := by
    rw [himplied]
    simp [popThroughLabel, popThrough, pop, h.stack, Frame.entry, ElementName.isHtml, hne, hframe]
  have hconsumes : Consumes 1 b (.endTag tag) b.pop.pop := by
    apply consumes_of_done
    rw [h.step_eq, stepOrdinary, h.mode_eq_inBody hinner]
    simp only [inBody, endBody, htag, rules_div.2, closeBlock, hscope, if_true, hpops]
  intro b'
  have haccept : b' = b.pop.pop :=
    accept_of_consumes h.keepsNewline trivial (by decide) hconsumes
  rw [haccept]
  exact ⟨hready', hkept.trans hkept', hmode'⟩

/-! ## Tags of templates -/

/-- The start tag of a template opens it in every mode. -/
theorem step_template (h : Ready b frame frames inside) {tag : Tag}
    (htag : tag.name = "template") : b.step (.startTag tag) = .done (b.openTemplate tag) := by
  have hhead : b.headElement tag = b.openTemplate tag := by
    simp only [headElement, htag]
  have hfits := h.modeFits
  rw [h.step_eq, stepOrdinary]
  generalize hmode : b.mode = mode at hfits ⊢
  cases hfits with
  | body =>
    have hrule : startRule tag.name = .headContent := htag ▸ rules_template.1
    simp only [inBody, startBody, hrule, hhead]
  | template =>
    have hlabel : headLabels.contains tag.name = true := by
      rw [htag]
      decide
    simp only [inTemplate, hlabel, if_true, hhead]
  | head =>
    have hlabel : headLabels.contains tag.name = true := by
      rw [htag]
      decide
    simp [inHead, htag, hhead, headLabels]

/-- A start tag opens a template. -/
theorem accept_template (h : Ready b frame frames inside) {tag : Tag}
    (htag : tag.name = "template") :
    let b' := b.accept (.startTag tag)
    Ready b' ⟨b.nextId, "template", tag.attributes, inside⟩ (frame :: frames) [] ∧
      b'.formatting = .marker :: b.formatting ∧
      b'.templateModes = .inTemplate :: b.templateModes ∧ b'.head = b.head := by
  intro b'
  have haccept : b' = b.openTemplate tag :=
    accept_of_consumes h.keepsNewline trivial (by decide) (consumes_of_done (h.step_template htag))
  have hdocument := h.insertTag_document tag
  have hstack := h.insertTag_stack tag
  rw [htag] at hdocument hstack
  rw [haccept]
  refine ⟨⟨hdocument, hstack, ?_, ?_, ?_, ?_, h.content, h.keepsNewline, h.noFoster, ?_,
    .template rfl⟩, rfl, rfl, rfl⟩
  · intro f hf
    rcases List.mem_cons.1 hf with rfl | hf
    · simp only
      decide
    · exact h.quiet f hf
  · simpa [ids] using h.distinct_open "template" tag.attributes
  · rw [ids, List.append_nil]
    exact h.fresh_open "template" tag.attributes
  · intro entry hentry
    rcases List.mem_cons.1 hentry with rfl | hentry
    · rfl
    · exact h.markers entry hentry
  · have hstack' : (b.openTemplate tag).stack = _ := hstack
    rw [properMode, hstack']
    rfl

/-- Closing a template pops it off the stack, together with its marker and its mode. -/
theorem closeTemplate_eq (h : Ready b frame frames inside) (hlabel : frame.label = "template")
    {formatting : List Formatting} (hformatting : b.formatting = .marker :: formatting) :
    b.closeTemplate = { b with
      stack := b.stack.drop 1
      formatting := formatting
      templateModes := b.templateModes.drop 1 }.resetMode := by
  have hopen : b.hasOpen "template" = true := by
    simp [hasOpen, h.stack, Frame.entry, ElementName.isHtml, hlabel]
  have himplied := h.closeImplied_eq fun label (hmem : label ∈ thoroughImpliedEnds) => hmem
  have hthrough : b.popThroughLabel "template" = { b with stack := b.stack.drop 1 } := by
    simp [popThroughLabel, popThrough, h.stack, Frame.entry, ElementName.isHtml, hlabel]
  simp only [closeTemplate, hopen, if_true, himplied, hthrough, clearToMarker, hformatting]
  simp

/-- An end tag closes a template and leads back to the state around it. -/
theorem accept_templateEnd {b₀ : Builder} {outer : Frame}
    (h : Ready b frame (outer :: frames) inside)
    (h₀ : Ready b₀ outer frames frame.before) {tag : Tag} (htag : tag.name = "template")
    (hlabel : frame.label = "template")
    (hformatting : b.formatting = .marker :: b₀.formatting)
    (hmodes : b.templateModes.drop 1 = b₀.templateModes) (hhead : b.head = b₀.head) :
    let b' := b.accept (.endTag tag)
    Ready b' outer frames (frame.before ++ [frame.node inside]) ∧ Kept b₀ b' ∧
      b'.mode = b₀.mode := by
  have hstep : b.step (.endTag tag) = .done b.closeTemplate := by
    have hfits := h.modeFits
    rw [h.step_eq, stepOrdinary]
    generalize hmode : b.mode = mode at hfits ⊢
    cases hfits with
    | body =>
      have hrule : endRule tag.name = .template := htag ▸ rules_template.2
      simp only [inBody, endBody, hrule]
    | template => simp [inTemplate, htag]
    | head hh => exact absurd (hlabel.symm.trans hh) (by decide)
  -- The mode is the one from before the template, since it is computed from what is open and from
  -- the modes of the templates around it.
  intro b'
  have haccept : b' = b.closeTemplate :=
    accept_of_consumes h.keepsNewline trivial (by decide) (consumes_of_done hstep)
  rw [h.closeTemplate_eq hlabel hformatting] at haccept
  have hmode : b'.mode = b₀.mode := by
    rw [haccept, h₀.mode_eq]
    simp [resetMode, properMode, h.stack, h₀.stack, hmodes, hhead]
  have hproper : b'.mode = b'.properMode := by
    rw [haccept]
    rfl
  refine ⟨⟨?_, ?_, ?_, ?_, ?_, ?_, ?_, ?_, ?_, hproper, ?_⟩, ⟨?_, ?_, ?_, ?_⟩, hmode⟩
  · rw [haccept]
    exact h.document
  · simp [haccept, resetMode, h.stack]
  · exact h₀.quiet
  · rw [spineIds_close]
    exact h.distinct
  · rw [spineIds_close, haccept]
    exact h.fresh
  · rw [haccept]
    exact h₀.markers
  · rw [haccept]
    exact h.content
  · rw [haccept]
    exact h.keepsNewline
  · rw [haccept]
    exact h.noFoster
  · rw [hmode]
    exact h₀.modeFits
  · rw [haccept]
    rfl
  · simp [haccept, resetMode, hmodes]
  · simp [haccept, resetMode, hmodes]
  · rw [haccept]
    exact hhead

/-! ## Text -/

/-- Text of ordinary content goes to the end of the path. -/
theorem accept_text (h : Ready b frame frames inside) {cs : List Char} (hne : cs ≠ [])
    (hmode : b.mode ≠ .inHead) :
    let b' := b.accept (.text cs)
    Ready b' frame frames (appendText (String.ofList cs) inside) ∧ Kept b b' ∧
      b'.mode = b.mode := by
  have hstep : b.step (.text cs) =
      .done ((if cs.all isAsciiBlank then b else b.forbidFrameset).insertText cs) := by
    have hbody : b.inBody (.text cs) =
        .done ((if cs.all isAsciiBlank then b else b.forbidFrameset).insertText cs) := by
      simp only [inBody, h.reconstruct_eq]
    have hfits := h.modeFits
    rw [h.step_eq, stepOrdinary]
    generalize hm : b.mode = mode at hfits ⊢
    cases hfits with
    | body => exact hbody
    | template => exact hbody
    | head => exact absurd hm hmode
  intro b'
  have haccept : b' = _ :=
    accept_of_consumes h.keepsNewline hne (by decide) (consumes_of_done hstep)
  have hids : ids (appendText (String.ofList cs) inside) = ids inside := ids_appendText _ _
  have hdocument := h.editAt_place (appendText (String.ofList cs))
  rw [haccept]
  split
  · refine ⟨⟨hdocument, h.stack, h.quiet, hids ▸ h.distinct, hids ▸ h.fresh, h.markers, h.content,
      h.keepsNewline, h.noFoster, h.mode_eq, h.modeFits⟩, ⟨rfl, rfl, rfl, rfl⟩, rfl⟩
  · refine ⟨⟨hdocument, h.stack, h.quiet, hids ▸ h.distinct, hids ▸ h.fresh, h.markers, h.content,
      h.keepsNewline, h.noFoster, h.mode_eq, h.modeFits⟩, ⟨rfl, rfl, rfl, rfl⟩, rfl⟩

/-- A null character of ordinary content does not count. -/
theorem accept_nul (h : Ready b frame frames inside) (hmode : b.mode = .inBody) :
    b.accept .nul = b := by
  refine accept_of_consumes h.keepsNewline trivial (by decide) (consumes_of_done ?_)
  rw [h.step_eq, stepOrdinary, hmode]
  rfl

/-- Runs of text go to the end of the path one by one. -/
theorem foldl_accept_runs (h : Ready b frame frames inside) {runs : List (List Char)}
    (hruns : ∀ run ∈ runs, run ≠ []) (hmode : b.mode ≠ .inHead) :
    let b' := (runs.map Token.text).foldl accept b
    Ready b' frame frames
        (runs.foldl (fun nodes run => appendText (String.ofList run) nodes) inside) ∧
      Kept b b' ∧ b'.mode = b.mode := by
  induction runs generalizing b inside with
  | nil => exact ⟨h, Kept.refl b, rfl⟩
  | cons run runs ih =>
    obtain ⟨hready, hkept, hsame⟩ := h.accept_text (hruns run (by simp)) hmode
    have hrest := ih hready (fun r hr => hruns r (List.mem_cons_of_mem run hr)) (hsame ▸ hmode)
    exact ⟨hrest.1, hkept.trans hrest.2.1, hrest.2.2.trans hsame⟩

end Ready

end Builder

/-! ## Runs of text -/

namespace Token

/-- Text is cut into runs that make it up.  The first run starts with the first character. -/
theorem textTokens_eq_map {cs : List Char} (h : '\x00' ∉ cs) :
    ∃ runs : List (List Char), textTokens cs = runs.map Token.text ∧
      (∀ run ∈ runs, run ≠ []) ∧ runs.flatten = cs := by
  induction cs with
  | nil => exact ⟨[], rfl, by simp, rfl⟩
  | cons c cs ih =>
    simp only [List.mem_cons, not_or] at h
    obtain ⟨runs, htokens, hne, hflatten⟩ := ih h.2
    have hnul : (c == '\x00') = false := by simpa using Ne.symm h.1
    simp only [textTokens, hnul, Bool.false_eq_true, if_false, htokens]
    cases runs with
    | nil =>
      refine ⟨[[c]], rfl, by simp, ?_⟩
      simpa using hflatten
    | cons run runs =>
      cases run with
      | nil => exact absurd rfl (hne [] (by simp))
      | cons d ds =>
        simp only [List.map_cons, consText]
        split
        · refine ⟨(c :: d :: ds) :: runs, rfl, ?_, by simpa using hflatten⟩
          intro run hrun
          rcases List.mem_cons.1 hrun with rfl | hrun
          · simp
          · exact hne run (List.mem_cons_of_mem _ hrun)
        · refine ⟨[c] :: (d :: ds) :: runs, rfl, ?_, by simpa using hflatten⟩
          intro run hrun
          rcases List.mem_cons.1 hrun with rfl | hrun
          · simp
          · exact hne run hrun

end Token

/-- Whether the last one of some nodes is a text. -/
def endsInText (nodes : List Node) : Bool :=
  match nodes.getLast? with
  | some (.text _) => true
  | _ => false

theorem appendText_of_not_endsInText {nodes : List Node} (h : endsInText nodes = false)
    (value : String) : appendText value nodes = nodes ++ [.text value] := by
  induction nodes with
  | nil => rfl
  | cons node nodes ih =>
    cases nodes with
    | nil => cases node <;> simp_all [appendText, endsInText]
    | cons next nodes =>
      have hrest : endsInText (next :: nodes) = false := by
        simpa [endsInText, List.getLast?_cons_cons] using h
      have hnext := ih hrest
      cases node <;> simp [appendText, hnext]

/-- Runs that follow no text make up one text. -/
theorem foldl_appendText {nodes : List Node} (h : endsInText nodes = false)
    {runs : List (List Char)} (hne : runs ≠ []) :
    runs.foldl (fun nodes run => appendText (String.ofList run) nodes) nodes =
      nodes ++ [.text (String.ofList runs.flatten)] := by
  have hmore : ∀ (runs : List (List Char)) (cs : List Char),
      runs.foldl (fun nodes run => appendText (String.ofList run) nodes)
          (nodes ++ [.text (String.ofList cs)]) =
        nodes ++ [.text (String.ofList (cs ++ runs.flatten))] := by
    intro runs
    induction runs with
    | nil => simp
    | cons run runs ih =>
      intro cs
      rw [List.foldl_cons, appendText_concat_text, ← String.ofList_append, ih]
      simp
  cases runs with
  | nil => exact absurd rfl hne
  | cons run runs =>
    rw [List.foldl_cons, appendText_of_not_endsInText h, hmore, List.flatten_cons]

namespace Builder.Ready

/-- The tokens of a text add a text node behind nodes that do not end in one. -/
theorem foldl_accept_textTokens {b : Builder} {frame : Frame} {frames : List Frame}
    {inside : List Node} (h : Ready b frame frames inside) {cs : List Char} (hne : cs ≠ [])
    (hnul : '\x00' ∉ cs) (hends : endsInText inside = false) (hmode : b.mode ≠ .inHead) :
    let b' := (Token.textTokens cs).foldl accept b
    Ready b' frame frames (inside ++ [.text (String.ofList cs)]) ∧ Kept b b' ∧
      b'.mode = b.mode := by
  obtain ⟨runs, htokens, hruns, hflatten⟩ := Token.textTokens_eq_map hnul
  have hrunsne : runs ≠ [] := by
    rintro rfl
    exact hne hflatten.symm
  have haccept := h.foldl_accept_runs hruns hmode
  rw [foldl_appendText hends hrunsne, hflatten, ← htokens] at haccept
  exact haccept

end Builder.Ready

end TemplateImports.Markup
