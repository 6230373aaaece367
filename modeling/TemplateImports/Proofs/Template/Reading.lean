import TemplateImports.Proofs.Markup.DocumentStart
import TemplateImports.Proofs.Template.Recovery

/-!
# Reading a prepared template

Reading the prepared text of a node, with any text behind it, leads from a state between two tokens
to another one, in which the open elements are the same and the node stands at the end of the
innermost one.  The induction is on the forest, for all states at once.

Main results:

- Structure `Adds` says that reading a text adds nodes for a forest.
- Theorem `build_element` reads an element, given that its children are read.
- Theorem `build_spellAll` reads the prepared text of a forest.
-/

namespace TemplateImports.Template

open Markup (Attribute Frame Builder Token IsPlainLabel endsInText plug)
open Markup.Builder (Ready Kept)
open Text

/-! ## Prepared tags -/

/-- The label of an element in the document. -/
def preparedLabel (tag : List Char) : String :=
  String.ofList ((neutralName tag).map Char.toLower)

/-- The start tag of an element in prepared markup. -/
def preparedTag (tag : List Char) (attributes : List WrittenAttribute) : Markup.Tag :=
  ⟨preparedLabel tag, preparedTagAttributes tag attributes, false⟩

/-- The end tag of an element in prepared markup. -/
def preparedEnd (tag : List Char) : Markup.Tag :=
  ⟨preparedLabel tag, [], false⟩

/-- A tag is that of a template, or its elements are plain ones. -/
theorem IsElementTag.template_or_plain {tag : List Char} (h : IsElementTag tag) :
    tag = "template".toList ∨ IsPlainLabel (preparedLabel tag) := by
  have hknown : ∀ tag ∈ knownTags, tag = "template".toList ∨ preparedLabel tag = "div" ∨
      (Markup.startRule (preparedLabel tag) = .ordinary ∧
        Markup.endRule (preparedLabel tag) = .ordinary) := by
    decide +kernel
  rcases h.known_or_not_ruled with hmem | hnot
  · exact hknown tag hmem
  · have hname : neutralName tag = tag := by
      refine if_neg ?_
      rintro rfl
      exact hnot (by decide_cbv)
    refine Or.inr (Or.inr ?_)
    rw [preparedLabel, hname]
    rw [ruledNames, List.mem_append, not_or] at hnot
    exact ⟨Markup.startRule_of_not_mem hnot.1, Markup.endRule_of_not_mem hnot.2⟩

theorem preparedLabel_template : preparedLabel "template".toList = "template" := by
  have hname : (neutralName "template".toList).map Char.toLower = "template".toList := by
    decide +kernel
  rw [preparedLabel, hname, String.ofList_toList]

/-- An opening tag of prepared markup is read as one token. -/
theorem next_opening {tag : List Char} {attributes : List WrittenAttribute}
    (htag : IsTagText tag) (h : WellFormedAttributes attributes) (rest : List Char) :
    Token.next .data false
        ('<' :: (Spelling.prepared.opening tag attributes ++ '>' :: rest)) =
      ([.startTag (preparedTag tag attributes)], rest) := by
  have hscan := scanAttributes_prepared htag h rest
  have hstop : Stops Token.isTagNameChar
      (writeAttributes (preparedAttributes tag attributes) ++ '>' :: rest) :=
    stops_writeAttributes (by decide) _ (stops_cons (by decide) rest)
  have hread := Token.next_startTag htag.isTagText_neutralName.isTagName hstop hscan
  simpa [Spelling.prepared, preparedTag, preparedLabel] using hread

theorem next_ending {tag : List Char} (htag : IsTagText tag) (rest : List Char) :
    Token.next .data false ('<' :: '/' :: (Spelling.prepared.ending tag ++ '>' :: rest)) =
      ([.endTag (preparedEnd tag)], rest) :=
  Token.next_endTag htag.isTagText_neutralName.isTagName rest

/-- A character of a text opens neither a tag nor a reference. -/
theorem isPlain_of_isTextChar {c : Char} (h : isTextChar c = true) : Token.isPlain c = true := by
  simp only [isTextChar, Bool.and_eq_true] at h
  simp only [Token.isPlain, Bool.and_eq_true]
  exact ⟨h.1.1.1.1, h.1.1.1.2⟩

/-- A text is read up to the next tag. -/
theorem next_written_text {cs rest : List Char} (h : IsWrittenText cs)
    (hrest : Stops Token.isPlain rest) :
    Token.next .data false (cs ++ rest) = (Token.textTokens cs, rest) := by
  have hne : cs ≠ [] := by
    rintro rfl
    obtain ⟨c, hc, -⟩ := h.starts
    simp at hc
  exact Token.next_text hne (fun c hc => isPlain_of_isTextChar (h.chars c hc)) hrest

/-! ## Reading one token -/

section Reading

variable {b : Builder} {frame : Frame} {frames : List Frame} {inside : List Markup.Node}

theorem build_next (h : Ready b frame frames inside) {cs rest : List Char} {tokens : List Token}
    (hne : cs ≠ []) (hnext : Token.next .data false cs = (tokens, rest)) :
    b.build cs = (tokens.foldl Builder.accept b).build rest :=
  Builder.build_of_next h.content h.admitsLiteral_eq_false hne hnext

/-! ## Reading nodes -/

/-- Reading a text leads to a state with the same open elements, in which nodes for a forest stand
behind the nodes that were there before. -/
structure Adds (b : Builder) (frame : Frame) (frames : List Frame) (inside : List Markup.Node)
    (text rest : List Char) (forest : List Node) (b' : Builder) (nodes : List Markup.Node) :
    Prop where
  build_eq : b.build (text ++ rest) = b'.build rest
  ready : Ready b' frame frames (inside ++ nodes)
  kept : Kept b b'
  mode_iff : b'.mode = .inHead ↔ b.mode = .inHead
  ofDocument_eq : Node.ofDocument false nodes = forest

theorem Adds.refl (h : Ready b frame frames inside) (rest : List Char) :
    Adds b frame frames inside [] rest [] b [] :=
  ⟨rfl, by simpa using h, Kept.refl b, Iff.rfl, rfl⟩

theorem Adds.trans {text text' rest : List Char} {forest forest' : List Node}
    {b₁ b₂ : Builder} {nodes nodes' : List Markup.Node}
    (h : Adds b frame frames inside text (text' ++ rest) forest b₁ nodes)
    (h' : Adds b₁ frame frames (inside ++ nodes) text' rest forest' b₂ nodes') :
    Adds b frame frames inside (text ++ text') rest (forest ++ forest') b₂ (nodes ++ nodes') where
  build_eq := by rw [List.append_assoc, h.build_eq, h'.build_eq]
  ready := by simpa using h'.ready
  kept := h.kept.trans h'.kept
  mode_iff := h'.mode_iff.trans h.mode_iff
  ofDocument_eq := by rw [Node.ofDocument_append, h.ofDocument_eq, h'.ofDocument_eq]

/-- Inside an element that is not the head the mode is not that of the head. -/
theorem mode_ne_inHead (h : Ready b frame frames inside) (hlabel : frame.label ≠ "head") :
    b.mode ≠ .inHead := by
  intro hmode
  have hfits := h.modeFits
  rw [hmode] at hfits
  cases hfits with
  | head hhead => exact hlabel hhead

/-- The node of an element stands for what was meant. -/
theorem ofNode_prepared {tag : List Char} {attributes : List WrittenAttribute}
    (htag : IsElementTag tag) (hattributes : WellFormedAttributes attributes)
    (keepsWrappers : Bool) (id : Nat) (before nodes : List Markup.Node) :
    Node.ofNode keepsWrappers (Frame.node
        ⟨id, preparedLabel tag, preparedTagAttributes tag attributes, before⟩ nodes) =
      [.ofAttributes (String.ofList tag) (attributes.map WrittenAttribute.toAttribute)
        (Node.ofDocument keepsWrappers nodes)] := by
  have hwrapper : Node.isWrapper (preparedLabel tag) = false := by
    rcases htag.template_or_plain with rfl | hplain
    · rw [preparedLabel_template]
      decide
    · exact hplain.contains_eq_false (by decide)
  have hnodes : ∀ isTemplate : Bool,
      Node.ofDocument keepsWrappers (if isTemplate then [] else nodes) ++
          Node.ofDocument keepsWrappers (if isTemplate then nodes else []) =
        Node.ofDocument keepsWrappers nodes := by
    intro isTemplate
    cases isTemplate <;> simp [Node.ofDocument]
  have htagName := originalTag_prepared htag.isCasedTag hattributes
  rw [Frame.node, Node.ofNode, if_neg (by simp [hwrapper]), hnodes,
    originalAttributes_prepared hattributes]
  rw [show Node.originalTag (preparedLabel tag) (preparedTagAttributes tag attributes) =
    String.ofList tag from htagName]

/-- What is read inside an element is its children. -/
def ReadsChildren (children : List Written) : Prop :=
  ∀ {b : Builder} {frame : Frame} {frames : List Frame}, Ready b frame frames [] →
    b.mode ≠ .inHead → ∀ rest, Stops Token.isPlain rest →
      ∃ b' nodes, Adds b frame frames [] (Written.spellAll .prepared children) rest
        (Written.forest children) b' nodes

theorem readsChildren_nil : ReadsChildren [] :=
  fun h _ rest _ => ⟨_, [], Adds.refl h rest⟩

/-- The frame that the start tag of an element opens. -/
def openedFrame (b : Builder) (tag : List Char) (attributes : List WrittenAttribute)
    (inside : List Markup.Node) : Frame :=
  ⟨b.nextId, preparedLabel tag, preparedTagAttributes tag attributes, inside⟩

/-- An element is no text that the next one could join. -/
theorem endsInText_node (inside nodes : List Markup.Node) (inner : Frame) :
    endsInText (inside ++ [inner.node nodes]) = false := by
  simp [endsInText, Frame.node]

/-- The tags of an element are read around its children, and it stands behind what was there. -/
theorem Adds.element {tag : List Char} {attributes : List WrittenAttribute}
    {children : List Written} {rest : List Char} {b₂ : Builder} {nodes : List Markup.Node}
    (h : Ready b frame frames inside) (htag : IsElementTag tag)
    (hattributes : WellFormedAttributes attributes)
    (hadds : Adds (b.accept (.startTag (preparedTag tag attributes)))
      (openedFrame b tag attributes inside) (frame :: frames) []
      (Written.spellAll .prepared children)
      ('<' :: '/' :: (Spelling.prepared.ending tag ++ '>' :: rest)) (Written.forest children) b₂
      nodes)
    (hready : Ready (b₂.accept (.endTag (preparedEnd tag))) frame frames
      (inside ++ [(openedFrame b tag attributes inside).node nodes]))
    (hkept : Kept b (b₂.accept (.endTag (preparedEnd tag))))
    (hmode : (b₂.accept (.endTag (preparedEnd tag))).mode = .inHead ↔ b.mode = .inHead) :
    Adds b frame frames inside
      ('<' :: (Spelling.prepared.opening tag attributes ++ '>' ::
        (Written.spellAll .prepared children ++
          '<' :: '/' :: (Spelling.prepared.ending tag ++ ['>'])))) rest
      [.ofAttributes (String.ofList tag) (attributes.map WrittenAttribute.toAttribute)
        (Written.forest children)]
      (b₂.accept (.endTag (preparedEnd tag)))
      [(openedFrame b tag attributes inside).node nodes] := by
  have happ : '<' :: (Spelling.prepared.opening tag attributes ++ '>' ::
        (Written.spellAll .prepared children ++
          '<' :: '/' :: (Spelling.prepared.ending tag ++ ['>']))) ++ rest =
      '<' :: (Spelling.prepared.opening tag attributes ++ '>' ::
        (Written.spellAll .prepared children ++
          '<' :: '/' :: (Spelling.prepared.ending tag ++ '>' :: rest))) := by
    simp
  refine ⟨?_, hready, hkept, hmode, ?_⟩
  · rw [happ, build_next h (by simp) (next_opening htag.isTagText hattributes _), List.foldl_cons,
      List.foldl_nil, hadds.build_eq,
      build_next hadds.ready (by simp) (next_ending htag.isTagText rest)]
    rfl
  · rw [openedFrame, Node.ofDocument, ofNode_prepared htag hattributes, hadds.ofDocument_eq]
    rfl

section Elements

variable {tag : List Char} {attributes : List WrittenAttribute} {children : List Written}

/-- A template is opened, its contents are read, and it is closed. -/
theorem build_template (h : Ready b frame frames inside) (htag : IsElementTag tag)
    (htemplate : tag = "template".toList) (hattributes : WellFormedAttributes attributes)
    (hchildren : ReadsChildren children) (rest : List Char) :
    ∃ b' nodes, Adds b frame frames inside
      ('<' :: (Spelling.prepared.opening tag attributes ++ '>' ::
        (Written.spellAll .prepared children ++
          '<' :: '/' :: (Spelling.prepared.ending tag ++ ['>'])))) rest
      [.ofAttributes (String.ofList tag) (attributes.map WrittenAttribute.toAttribute)
        (Written.forest children)] b' [(openedFrame b tag attributes inside).node nodes] := by
  have hlabel : preparedLabel tag = "template" := by rw [htemplate, preparedLabel_template]
  obtain ⟨hready, hformatting, hmodes, hsame⟩ :=
    h.accept_template (show (preparedTag tag attributes).name = "template" from hlabel)
  have hmode := mode_ne_inHead hready (show "template" ≠ "head" by decide)
  obtain ⟨b₂, nodes, hadds⟩ := hchildren hready hmode
    ('<' :: '/' :: (Spelling.prepared.ending tag ++ '>' :: rest)) (stops_cons (by decide) _)
  have houter : b₂.templateModes.drop 1 = b.templateModes := by
    rw [hadds.kept.outerModes, hmodes]
    rfl
  obtain ⟨hready', hkept, hmode'⟩ := hadds.ready.accept_templateEnd h
    (show (preparedEnd tag).name = "template" from hlabel) rfl
    (hadds.kept.formatting.trans hformatting) houter (hadds.kept.head.trans hsame)
  have hframe : openedFrame b tag attributes inside =
      ⟨b.nextId, "template", (preparedTag tag attributes).attributes, inside⟩ := by
    rw [openedFrame, hlabel]
    rfl
  rw [← hframe] at hadds hready'
  exact ⟨_, nodes, .element h htag hattributes hadds hready' hkept (by rw [hmode'])⟩

/-- A plain element is opened in a body, its children are read, and it is closed. -/
theorem build_plain (h : Ready b frame frames inside) (htag : IsElementTag tag)
    (hplain : IsPlainLabel (preparedLabel tag)) (hbody : b.mode ≠ .inHead)
    (hattributes : WellFormedAttributes attributes) (hchildren : ReadsChildren children)
    (rest : List Char) :
    ∃ b' nodes, Adds b frame frames inside
      ('<' :: (Spelling.prepared.opening tag attributes ++ '>' ::
        (Written.spellAll .prepared children ++
          '<' :: '/' :: (Spelling.prepared.ending tag ++ ['>'])))) rest
      [.ofAttributes (String.ofList tag) (attributes.map WrittenAttribute.toAttribute)
        (Written.forest children)] b' [(openedFrame b tag attributes inside).node nodes] := by
  obtain ⟨hready, hkept⟩ :=
    h.accept_startTag (show IsPlainLabel (preparedTag tag attributes).name from hplain) hbody
  have hlabel : preparedLabel tag ≠ "head" :=
    beq_eq_false_iff_ne.1 (hplain.beq_eq_false (by decide))
  obtain ⟨b₂, nodes, hadds⟩ := hchildren hready (mode_ne_inHead hready hlabel)
    ('<' :: '/' :: (Spelling.prepared.ending tag ++ '>' :: rest)) (stops_cons (by decide) _)
  obtain ⟨hready', hkept', hmode⟩ :=
    hadds.ready.accept_endTag (show IsPlainLabel (preparedEnd tag).name from hplain) rfl
  refine ⟨_, nodes, .element h htag hattributes hadds hready'
    ((hkept.trans hadds.kept).trans hkept') ?_⟩
  rw [hmode]
  simp [hbody]

/-- An element is opened, its children are read, and it is closed. -/
theorem build_element (h : Ready b frame frames inside) (htag : IsElementTag tag)
    (hattributes : WellFormedAttributes attributes) (hchildren : ReadsChildren children)
    (hhead : b.mode = .inHead → tag = "template".toList) (rest : List Char) :
    ∃ b' node, Adds b frame frames inside
        ('<' :: (Spelling.prepared.opening tag attributes ++ '>' ::
          (Written.spellAll .prepared children ++
            '<' :: '/' :: (Spelling.prepared.ending tag ++ ['>'])))) rest
        [.ofAttributes (String.ofList tag) (attributes.map WrittenAttribute.toAttribute)
          (Written.forest children)] b' [node] ∧ endsInText (inside ++ [node]) = false := by
  rcases htag.template_or_plain with htemplate | hplain
  · obtain ⟨b', nodes, hadds⟩ := build_template h htag htemplate hattributes hchildren rest
    exact ⟨b', _, hadds, endsInText_node inside nodes _⟩
  · have hbody : b.mode ≠ .inHead := by
      intro hmode
      have htemplate := hhead hmode
      rw [htemplate, preparedLabel_template] at hplain
      exact hplain.not_telling (by decide)
    obtain ⟨b', nodes, hadds⟩ := build_plain h htag hplain hbody hattributes hchildren rest
    exact ⟨b', _, hadds, endsInText_node inside nodes _⟩

end Elements

/-! ## Reading forests -/

/-- Prepared markup goes on with a tag, unless it goes on with a text. -/
theorem stops_spellAll {ws : List Written} (hfirst : (ws.head?.map Written.isText).getD false = false)
    {rest : List Char} (hrest : ws = [] → Stops Token.isPlain rest) :
    Stops Token.isPlain (Written.spellAll .prepared ws ++ rest) := by
  cases ws with
  | nil => exact hrest rfl
  | cons w ws =>
    rw [Written.spellAll]
    cases w with
    | text cs => simp [Written.isText] at hfirst
    | element tag attributes children => exact stops_cons (by decide) _
    | closed tag attributes => exact stops_cons (by decide) _

mutual

/-- The prepared text of a node adds this node.  Inside the head only templates are read. -/
theorem build_spell {b : Builder} {frame : Frame} {frames : List Frame}
    {inside : List Markup.Node} {w : Written} (hw : w.WellFormed)
    (h : Ready b frame frames inside) (hhead : b.mode = .inHead → w.isTemplate = true)
    {rest : List Char}
    (htext : w.isText = true → endsInText inside = false ∧ Stops Token.isPlain rest) :
    ∃ b' nodes, Adds b frame frames inside (w.spell .prepared) rest [w.node] b' nodes ∧
      (w.isText = false → endsInText (inside ++ nodes) = false) := by
  cases w with
  | text cs =>
    obtain ⟨hends, hrest⟩ := htext rfl
    have hwritten : IsWrittenText cs := hw
    have hmode : b.mode ≠ .inHead := fun hmode => absurd (hhead hmode) (by simp [Written.isTemplate])
    obtain ⟨c, hc, hblank⟩ := hwritten.starts
    have hne : cs ≠ [] := by
      rintro rfl
      simp at hc
    have hnext := next_written_text hwritten hrest
    obtain ⟨hready, hkept, hsame⟩ :=
      h.foldl_accept_textTokens hne (hwritten.not_mem (by decide)) hends hmode
    refine ⟨_, [.text (String.ofList cs)], ⟨?_, hready, hkept, by rw [hsame], ?_⟩, ?_⟩
    · exact build_next h (by simp [Written.spell, hne]) hnext
    · have hvisible : Node.isBlankText (String.ofList cs) = false := by
        rw [Node.isBlankText, String.toList_ofList, allBlank, List.all_eq_false]
        exact ⟨c, List.mem_of_mem_head? hc, by simp [hblank]⟩
      simp [Node.ofDocument, Node.ofNode, hvisible, Written.node]
    · simp [Written.isText]
  | element tag attributes children =>
    obtain ⟨htag, hattributes, hchildren⟩ := hw
    have hreads : ReadsChildren children := fun hready hmode rest hrest =>
      build_spellAll hchildren hready (fun hhead => absurd hhead hmode) (fun _ => rfl) fun _ => hrest
    obtain ⟨b', node, hadds, hends⟩ := build_element h htag.isElementTag hattributes hreads
      (fun hmode => by simpa [Written.isTemplate] using hhead hmode) rest
    exact ⟨b', [node], by simpa [Written.spell, Written.node] using hadds, fun _ => hends⟩
  | closed tag attributes =>
    obtain ⟨htag, hattributes⟩ := hw
    obtain ⟨b', node, hadds, hends⟩ := build_element h htag.isElementTag hattributes
      readsChildren_nil
      (fun hmode => by simpa [Written.isTemplate] using hhead hmode) rest
    refine ⟨b', [node], ?_, fun _ => hends⟩
    simpa [Written.spell, Written.node, Written.spellAll, Written.forest] using hadds

/-- The prepared text of a forest adds this forest. -/
theorem build_spellAll {b : Builder} {frame : Frame} {frames : List Frame}
    {inside : List Markup.Node} {ws : List Written} (hws : Written.AllWellFormed ws)
    (h : Ready b frame frames inside) (hhead : b.mode = .inHead → ∀ w ∈ ws, w.isTemplate = true)
    {rest : List Char}
    (hfirst : (ws.head?.map Written.isText).getD false = true → endsInText inside = false)
    (hlast : (ws.getLast?.map Written.isText).getD false = true → Stops Token.isPlain rest) :
    ∃ b' nodes, Adds b frame frames inside (Written.spellAll .prepared ws) rest
      (Written.forest ws) b' nodes := by
  cases ws with
  | nil => exact ⟨b, [], Adds.refl h rest⟩
  | cons w ws =>
    obtain ⟨hw, hnext, hws⟩ := hws
    have htext : w.isText = true → endsInText inside = false ∧
        Stops Token.isPlain (Written.spellAll .prepared ws ++ rest) := by
      intro hw'
      refine ⟨hfirst (by simpa using hw'), stops_spellAll (hnext hw') ?_⟩
      rintro rfl
      exact hlast (by simpa using hw')
    obtain ⟨b₁, nodes₁, hadds₁, hends₁⟩ :=
      build_spell hw h (fun hmode => hhead hmode w (by simp)) htext
    have hfirst' : (ws.head?.map Written.isText).getD false = true →
        endsInText (inside ++ nodes₁) = false := by
      intro hstart
      refine hends₁ ?_
      by_contra hw'
      simp only [Bool.not_eq_false] at hw'
      rw [hnext hw'] at hstart
      exact absurd hstart (by decide)
    have hlast' : (ws.getLast?.map Written.isText).getD false = true →
        Stops Token.isPlain rest := by
      intro hend
      cases ws with
      | nil => simp at hend
      | cons w' ws => exact hlast (by simpa [List.getLast?_cons_cons] using hend)
    obtain ⟨b₂, nodes₂, hadds₂⟩ := build_spellAll hws hadds₁.ready
      (fun hmode w' hw' => hhead (hadds₁.mode_iff.1 hmode) w' (List.mem_cons_of_mem w hw'))
      hfirst' hlast'
    have hadds := hadds₁.trans hadds₂
    exact ⟨b₂, nodes₁ ++ nodes₂, by simpa [Written.spellAll, Written.forest] using hadds⟩

end

end Reading

end TemplateImports.Template
