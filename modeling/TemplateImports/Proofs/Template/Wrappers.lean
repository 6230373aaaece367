import TemplateImports.Proofs.Template.RoundTrip

/-!
# Wrappers of a template

Markup wraps every document in a root, a head and a body.  Whether the wrappers stay in the forest
is decided by a search for the beginnings of their tags, and a longer name has the same beginning.
So a template that never writes a wrapper still gets all three, if a component in it is named like
one.  Apart from that, reading brings back the elements of a template, whatever texts stand between
them: blank texts, line ends of any kind, null characters and byte order marks included.

Main results:

- Definition `Node.skeleton` is a forest without its texts.
- Theorem `readsAll` reads the elements of a plain forest inside any element.
- Theorem `build_document` reads them at the beginning of a document.
- Theorem `skeleton_parse_writeAll` is the skeleton that a written template is read as.
- Theorem `exists_isWrapper_parse_iff` says which templates get wrappers.
-/

namespace TemplateImports.Template

open Markup (Attribute Frame Builder Token IsPlainLabel plug normalizeNewlines)
open Markup.Builder (Ready Kept StartsWith OpensBody bodyState bodyFrame impliedRoot impliedHead
  headState)
open Text

/-! ## Skeletons and tags -/

namespace Node

mutual

/-- A tree without its texts.  Nothing is left of a text. -/
def skeletonOf : Node → List Node
  | .element tag attributes directives children =>
    [.element tag attributes directives (skeleton children)]
  | .text _ => []

/-- A forest without its texts. -/
def skeleton : List Node → List Node
  | [] => []
  | node :: nodes => node.skeletonOf ++ skeleton nodes

end

mutual

/-- The tags of a tree in document order. -/
def tagsOf : Node → List String
  | .element tag _ _ children => tag :: tags children
  | .text _ => []

/-- The tags of a forest in document order. -/
def tags : List Node → List String
  | [] => []
  | node :: nodes => node.tagsOf ++ tags nodes

end

theorem skeleton_append (first second : List Node) :
    skeleton (first ++ second) = skeleton first ++ skeleton second := by
  induction first with
  | nil => rfl
  | cons node first ih => simp [skeleton, ih]

theorem tags_append (first second : List Node) :
    tags (first ++ second) = tags first ++ tags second := by
  induction first with
  | nil => rfl
  | cons node first ih => simp [tags, ih]

mutual

/-- The skeleton of a node has the tags of the node. -/
theorem tags_skeletonOf (node : Node) : tags node.skeletonOf = node.tagsOf := by
  cases node with
  | element tag attributes directives children =>
    simp [skeletonOf, tags, tagsOf, tags_skeleton children]
  | text value => rfl

/-- A skeleton has all tags of its forest. -/
theorem tags_skeleton (nodes : List Node) : tags (skeleton nodes) = tags nodes := by
  cases nodes with
  | nil => rfl
  | cons node nodes => rw [skeleton, tags_append, tags_skeletonOf, tags_skeleton nodes, tags]

end

end Node

mutual

/-- The node that is written has the tags that are written. -/
theorem tagsOf_node (w : Written) : w.node.tagsOf = w.tagsIn.map String.ofList := by
  cases w with
  | text cs => rfl
  | element tag attributes children =>
    simp [Written.node, Node.ofAttributes, Node.tagsOf, Written.tagsIn, tags_forest children]
  | closed tag attributes => rfl

/-- The forest that is meant has the tags that are written. -/
theorem tags_forest (ws : List Written) :
    Node.tags (Written.forest ws) = (Written.tags ws).map String.ofList := by
  cases ws with
  | nil => rfl
  | cons w ws =>
    rw [Written.forest, Node.tags, tagsOf_node w, tags_forest ws, Written.tags, List.map_append]

end

/-- Texts leave no trace in a skeleton. -/
theorem skeleton_ofDocument_appendText (keepsWrappers : Bool) (value : String)
    (nodes : List Markup.Node) :
    Node.skeleton (Node.ofDocument keepsWrappers (Markup.Node.appendText value nodes)) =
      Node.skeleton (Node.ofDocument keepsWrappers nodes) := by
  have htext : ∀ value : String,
      Node.skeleton (Node.ofNode keepsWrappers (.text value)) = [] := by
    intro value
    rw [Node.ofNode]
    split <;> rfl
  fun_induction Markup.Node.appendText value nodes with
  | case1 => simp [Node.ofDocument, htext, Node.skeleton]
  | case2 last => simp [Node.ofDocument, htext]
  | case3 node nodes _ ih =>
    rw [Node.ofDocument, Node.ofDocument, Node.skeleton_append, Node.skeleton_append, ih]

/-! ## Plain forests -/

/-- The tag of a plain element.  It may start like a wrapper. -/
structure IsPlainTag (tag : List Char) : Prop extends IsElementTag tag where
  not_template : tag ≠ "template".toList

instance (tag : List Char) : Decidable (IsPlainTag tag) :=
  decidable_of_iff (IsElementTag tag ∧ tag ≠ "template".toList)
    ⟨fun h => ⟨h.1, h.2⟩, fun h => ⟨h.toIsElementTag, h.not_template⟩⟩

/-- The label of a plain tag is plain. -/
theorem IsPlainTag.isPlainLabel {tag : List Char} (h : IsPlainTag tag) :
    IsPlainLabel (preparedLabel tag) :=
  h.template_or_plain.resolve_left h.not_template

/-- A text without tags and references. -/
def IsPlainText (cs : List Char) : Prop :=
  ∀ c ∈ cs, Token.isPlain c = true

instance (cs : List Char) : Decidable (IsPlainText cs) :=
  inferInstanceAs (Decidable (∀ c ∈ cs, Token.isPlain c = true))

theorem isPlainText_nil : IsPlainText [] := by
  simp [IsPlainText]

/-- Plain texts behind each other are plain. -/
theorem IsPlainText.append {cs cs' : List Char} (h : IsPlainText cs) (h' : IsPlainText cs') :
    IsPlainText (cs ++ cs') :=
  List.forall_mem_append.2 ⟨h, h'⟩

/-- Plain text is plain with other line ends, too. -/
theorem IsPlainText.normalizeNewlines {cs : List Char} (h : IsPlainText cs) :
    IsPlainText (normalizeNewlines cs) := by
  fun_induction Markup.normalizeNewlines cs with
  | case1 cs ih =>
    exact List.forall_mem_cons.2 ⟨by decide, ih fun c hc => h c (by simp [hc])⟩
  | case2 cs _ ih =>
    exact List.forall_mem_cons.2 ⟨by decide, ih fun c hc => h c (by simp [hc])⟩
  | case3 c cs _ _ ih =>
    exact List.forall_mem_cons.2 ⟨h c (by simp), ih fun d hd => h d (by simp [hd])⟩
  | case4 => exact isPlainText_nil

/-- A forest of plain elements with texts between them. -/
def Written.AllPlain (ws : List Written) : Prop :=
  AllMadeOf IsPlainTag IsPlainText ws

instance (ws : List Written) : Decidable (Written.AllPlain ws) :=
  inferInstanceAs (Decidable (Written.AllMadeOf IsPlainTag IsPlainText ws))

/-- A plain forest can be prepared. -/
theorem Written.AllPlain.prepared {ws : List Written} (h : AllPlain ws) :
    AllMadeOf IsElementTag ('<' ∉ ·) ws := by
  refine h.mono (fun _ htag => htag.toIsElementTag) fun cs hcs hmem => ?_
  exact absurd (hcs '<' hmem) (by decide)

/-! ## Line ends -/

/-- A text ends where a tag begins, or with everything else. -/
def EndsText (rest : List Char) : Prop :=
  ∀ c ∈ rest.head?, c = '<'

theorem endsText_nil : EndsText [] := by
  simp [EndsText]

/-- Text ends before a tag. -/
theorem endsText_tag (cs : List Char) : EndsText ('<' :: cs) := by
  simp [EndsText]

theorem normalizeNewlines_tag (cs : List Char) :
    normalizeNewlines ('<' :: cs) = '<' :: normalizeNewlines cs :=
  normalizeNewlines_append_of_not_mem (show '\r' ∉ ['<'] by decide) cs

/-- Text ends before the same thing with other line ends. -/
theorem EndsText.normalizeNewlines {rest : List Char} (h : EndsText rest) :
    EndsText (normalizeNewlines rest) := by
  cases rest with
  | nil => exact endsText_nil
  | cons c rest =>
    rw [h c rfl, normalizeNewlines_tag]
    exact endsText_tag _

/-- Where text ends, no plain character follows. -/
theorem EndsText.stops {rest : List Char} (h : EndsText rest) : Stops Token.isPlain rest := by
  intro c hc
  rw [h c hc]
  decide

/-- No line end crosses the end of a text. -/
theorem normalizeNewlines_append {rest : List Char} (h : EndsText rest) (cs : List Char) :
    normalizeNewlines (cs ++ rest) = normalizeNewlines cs ++ normalizeNewlines rest := by
  fun_induction Markup.normalizeNewlines cs with
  | case1 cs ih => rw [List.cons_append, List.cons_append, Markup.normalizeNewlines, ih]; rfl
  | case2 cs hnot ih =>
    rw [List.cons_append, Markup.normalizeNewlines, ih]
    · rfl
    · rintro cs' heq
      cases cs with
      | nil =>
        rw [List.nil_append] at heq
        exact absurd (h '\n' (by simp [heq])) (by decide)
      | cons c cs =>
        exact hnot cs (by rw [(List.cons.inj heq).1])
  | case3 c cs hcrlf hcr ih =>
    rw [List.cons_append, Markup.normalizeNewlines, ih]
    · rfl
    · rintro cs' rfl
      exact fun _ => hcr rfl
    · exact hcr
  | case4 => rfl

/-- A prepared start tag has no line ends to change. -/
theorem normalizeNewlines_opening {tag : List Char} {attributes : List WrittenAttribute}
    (htag : IsPlainTag tag) (h : WellFormedAttributes attributes) (rest : List Char) :
    normalizeNewlines ('<' :: (Spelling.prepared.opening tag attributes ++ '>' :: rest)) =
      '<' :: (Spelling.prepared.opening tag attributes ++ '>' :: normalizeNewlines rest) := by
  have hnone := not_mem_opening isForeignChar_return htag.isTagText h
  have hread := normalizeNewlines_append_of_not_mem
    (show '\r' ∉ '<' :: (Spelling.prepared.opening tag attributes ++ ['>']) by simp [hnone]) rest
  simpa using hread

/-- A prepared end tag has no line ends to change. -/
theorem normalizeNewlines_ending {tag : List Char} (htag : IsPlainTag tag) (rest : List Char) :
    normalizeNewlines ('<' :: '/' :: (Spelling.prepared.ending tag ++ '>' :: rest)) =
      '<' :: '/' :: (Spelling.prepared.ending tag ++ '>' :: normalizeNewlines rest) := by
  have hnone := not_mem_ending isForeignChar_return htag.isTagText
  have hread := normalizeNewlines_append_of_not_mem
    (show '\r' ∉ '<' :: '/' :: (Spelling.prepared.ending tag ++ ['>']) by simp [hnone]) rest
  simpa using hread

/-! ## Tokens of a text -/

/-- A token that plain text is cut into. -/
inductive IsTextToken : Token → Prop where
  | nul : IsTextToken .nul
  | text {cs : List Char} (h : cs ≠ []) : IsTextToken (.text cs)

/-- A character before text tokens makes no other tokens. -/
theorem isTextToken_of_mem_consText {c : Char} {tokens : List Token}
    (h : ∀ token ∈ tokens, IsTextToken token) :
    ∀ token ∈ Token.consText c tokens, IsTextToken token := by
  intro token htoken
  unfold Token.consText at htoken
  split at htoken
  · have hrest := (List.forall_mem_cons.1 h).2
    split at htoken
    · rcases List.mem_cons.1 htoken with rfl | htoken
      · exact .text (by simp)
      · exact hrest token htoken
    · rcases List.mem_cons.1 htoken with rfl | htoken
      · exact .text (by simp)
      · exact h token htoken
  · rcases List.mem_cons.1 htoken with rfl | htoken
    · exact .text (by simp)
    · exact h token htoken

/-- The tokens of a text are texts and NULs. -/
theorem isTextToken_of_mem_textTokens (cs : List Char) :
    ∀ token ∈ Token.textTokens cs, IsTextToken token := by
  induction cs with
  | nil => simp [Token.textTokens]
  | cons c cs ih =>
    rw [Token.textTokens]
    split
    · exact List.forall_mem_cons.2 ⟨.nul, ih⟩
    · exact isTextToken_of_mem_consText ih

/-! ## Reading in the body -/

/-- A state of ordinary content: the nodes inside the innermost element have a given skeleton. -/
structure Stands (keepsWrappers : Bool) (b₀ b : Builder) (frame : Frame) (frames : List Frame)
    (nodes : List Markup.Node) (shown : List Node) : Prop where
  ready : Ready b frame frames nodes
  mode_eq : b.mode = .inBody
  kept : Kept b₀ b
  skeleton_eq : Node.skeleton (Node.ofDocument keepsWrappers nodes) = shown

namespace Stands

variable {keepsWrappers : Bool} {b₀ b : Builder} {frame : Frame} {frames : List Frame}
  {nodes : List Markup.Node} {shown : List Node}

/-- A token of text shows nothing new. -/
theorem accept_textToken (h : Stands keepsWrappers b₀ b frame frames nodes shown) {token : Token}
    (htoken : IsTextToken token) :
    ∃ nodes', Stands keepsWrappers b₀ (b.accept token) frame frames nodes' shown := by
  cases htoken with
  | nul =>
    rw [h.ready.accept_nul h.mode_eq]
    exact ⟨nodes, h⟩
  | @text cs hne =>
    obtain ⟨hready, hkept, hmode⟩ := h.ready.accept_text hne (by rw [h.mode_eq]; decide)
    exact ⟨_, hready, hmode.trans h.mode_eq, h.kept.trans hkept,
      (skeleton_ofDocument_appendText _ _ _).trans h.skeleton_eq⟩

/-- Tokens of text show nothing new, however many. -/
theorem foldl_textTokens (h : Stands keepsWrappers b₀ b frame frames nodes shown)
    {tokens : List Token} (htokens : ∀ token ∈ tokens, IsTextToken token) :
    ∃ nodes', Stands keepsWrappers b₀ (tokens.foldl Builder.accept b) frame frames nodes'
      shown := by
  induction tokens generalizing b nodes with
  | nil => exact ⟨nodes, h⟩
  | cons token tokens ih =>
    obtain ⟨nodes', h'⟩ := h.accept_textToken (htokens token (by simp))
    exact ih h' fun t ht => htokens t (List.mem_cons_of_mem token ht)

/-- A text shows nothing new. -/
theorem build_text (h : Stands keepsWrappers b₀ b frame frames nodes shown) {cs rest : List Char}
    (hcs : IsPlainText cs) (hrest : EndsText rest) :
    ∃ b' nodes', b.build (cs ++ rest) = b'.build rest ∧
      Stands keepsWrappers b₀ b' frame frames nodes' shown := by
  by_cases hne : cs = []
  · exact ⟨b, nodes, by rw [hne, List.nil_append], h⟩
  · obtain ⟨nodes', h'⟩ := h.foldl_textTokens (isTextToken_of_mem_textTokens cs)
    exact ⟨_, nodes', build_next h.ready (by simp [hne]) (Token.next_text hne hcs hrest.stops), h'⟩

/-- An opening tag leads into an element that shows nothing yet. -/
theorem build_opening (h : Stands keepsWrappers b₀ b frame frames nodes shown) {tag : List Char}
    {attributes : List WrittenAttribute} (htag : IsPlainTag tag)
    (hattributes : WellFormedAttributes attributes) (rest : List Char) :
    ∃ b', b.build ('<' :: (Spelling.prepared.opening tag attributes ++ '>' :: rest)) =
        b'.build rest ∧
      Stands keepsWrappers b₀ b'
        ⟨b.nextId, preparedLabel tag, preparedTagAttributes tag attributes, nodes⟩
        (frame :: frames) [] [] := by
  have hread := build_next h.ready (by simp)
    (next_opening htag.isTagText hattributes rest)
  have hplain : IsPlainLabel (preparedTag tag attributes).name := htag.isPlainLabel
  obtain ⟨hready, hkept⟩ := h.ready.accept_startTag hplain (by rw [h.mode_eq]; decide)
  exact ⟨_, hread, hready, hready.mode_eq_inBody hplain, h.kept.trans hkept, rfl⟩

/-- An end tag leads back behind the element, which shows what was inside it. -/
theorem build_ending {b₁ : Builder} {tag : List Char} {attributes : List WrittenAttribute}
    {id : Nat} {nodes' : List Markup.Node} {shown' : List Node}
    (h : Stands keepsWrappers b₀ b frame frames nodes shown)
    (hinner : Stands keepsWrappers b₀ b₁
      ⟨id, preparedLabel tag, preparedTagAttributes tag attributes, nodes⟩ (frame :: frames)
      nodes' shown')
    (htag : IsPlainTag tag) (hattributes : WellFormedAttributes attributes) (rest : List Char) :
    ∃ b' nodes'', b₁.build ('<' :: '/' :: (Spelling.prepared.ending tag ++ '>' :: rest)) =
        b'.build rest ∧
      Stands keepsWrappers b₀ b' frame frames nodes''
        (shown ++ [.ofAttributes (String.ofList tag)
          (attributes.map WrittenAttribute.toAttribute) shown']) := by
  have hread := build_next hinner.ready (by simp) (next_ending htag.isTagText rest)
  obtain ⟨hready, hkept, hmode⟩ := hinner.ready.accept_endTag
    (show IsPlainLabel (preparedEnd tag).name from htag.isPlainLabel) rfl
  refine ⟨_, _, hread, hready, hmode, hinner.kept.trans hkept, ?_⟩
  rw [Node.ofDocument_append, Node.skeleton_append, h.skeleton_eq, Node.ofDocument,
    ofNode_prepared htag.toIsElementTag hattributes, ← hinner.skeleton_eq]
  rfl

end Stands

/-- Reading a forest shows its skeleton.  A text in front of it may still be unread. -/
def ReadsAll (keepsWrappers : Bool) (ws : List Written) : Prop :=
  ∀ {b₀ b : Builder} {frame : Frame} {frames : List Frame} {nodes : List Markup.Node}
    {shown : List Node}, Stands keepsWrappers b₀ b frame frames nodes shown →
    ∀ {before rest : List Char}, IsPlainText before → EndsText rest →
      ∃ b' nodes',
        b.build (normalizeNewlines (before ++ (Written.spellAll .prepared ws ++ rest))) =
          b'.build (normalizeNewlines rest) ∧
        Stands keepsWrappers b₀ b' frame frames nodes'
          (shown ++ Node.skeleton (Written.forest ws))

section ReadsAll

variable {keepsWrappers : Bool} {ws : List Written}

/-- Nothing is read where nothing is written. -/
theorem readsAll_nil : ReadsAll keepsWrappers [] := by
  intro b₀ b frame frames nodes shown h before rest hbefore hrest
  obtain ⟨b', nodes', hbuild, h'⟩ :=
    h.build_text hbefore.normalizeNewlines hrest.normalizeNewlines
  refine ⟨b', nodes', ?_, by simpa [Written.forest, Node.skeleton] using h'⟩
  rw [Written.spellAll, List.nil_append, normalizeNewlines_append hrest, hbuild]

/-- A text is put behind the unread one. -/
theorem ReadsAll.text (hws : ReadsAll keepsWrappers ws) {cs : List Char} (hcs : IsPlainText cs) :
    ReadsAll keepsWrappers (.text cs :: ws) := by
  intro b₀ b frame frames nodes shown h before rest hbefore hrest
  have hread := hws h (hbefore.append hcs) hrest
  simpa [Written.spellAll, Written.spell, Written.forest, Written.node, Node.skeleton,
    Node.skeletonOf] using hread

/-- The unread text ends where an element begins. -/
theorem ReadsAll.element {children : List Written} (hchildren : ReadsAll keepsWrappers children)
    (hws : ReadsAll keepsWrappers ws) {tag : List Char} {attributes : List WrittenAttribute}
    (htag : IsPlainTag tag) (hattributes : WellFormedAttributes attributes) :
    ReadsAll keepsWrappers (.element tag attributes children :: ws) := by
  intro b₀ b frame frames nodes shown h before rest hbefore hrest
  let tail := Written.spellAll .prepared ws ++ rest
  let ending := '<' :: '/' :: (Spelling.prepared.ending tag ++ '>' :: tail)
  let opening := '<' :: (Spelling.prepared.opening tag attributes ++ '>' ::
    (Written.spellAll .prepared children ++ ending))
  obtain ⟨b₁, nodes₁, hbuild₁, h₁⟩ :=
    h.build_text hbefore.normalizeNewlines (endsText_tag _).normalizeNewlines
  obtain ⟨b₂, hbuild₂, h₂⟩ := h₁.build_opening htag hattributes
    (normalizeNewlines (Written.spellAll .prepared children ++ ending))
  obtain ⟨b₃, nodes₃, hbuild₃, h₃⟩ := hchildren h₂ isPlainText_nil (endsText_tag _)
  obtain ⟨b₄, nodes₄, hbuild₄, h₄⟩ :=
    h₁.build_ending h₃ htag hattributes (normalizeNewlines tail)
  obtain ⟨b₅, nodes₅, hbuild₅, h₅⟩ := hws h₄ isPlainText_nil hrest
  have htext : Written.spellAll .prepared (.element tag attributes children :: ws) ++ rest =
      opening := by
    simp [Written.spellAll, Written.spell, opening, ending, tail]
  refine ⟨b₅, nodes₅, ?_, ?_⟩
  · rw [htext, normalizeNewlines_append (endsText_tag _), hbuild₁,
      normalizeNewlines_opening htag hattributes, hbuild₂]
    rw [List.nil_append] at hbuild₃ hbuild₅
    rw [hbuild₃, normalizeNewlines_ending htag, hbuild₄, hbuild₅]
  · simpa [Written.forest, Written.node, Node.skeleton, Node.skeletonOf, Node.ofAttributes]
      using h₅

/-- A self-closed element is read like one without children. -/
theorem ReadsAll.closed (hws : ReadsAll keepsWrappers ws) {tag : List Char}
    {attributes : List WrittenAttribute} (htag : IsPlainTag tag)
    (hattributes : WellFormedAttributes attributes) :
    ReadsAll keepsWrappers (.closed tag attributes :: ws) := by
  intro b₀ b frame frames nodes shown h before rest hbefore hrest
  have hread := (readsAll_nil.element hws htag hattributes) h hbefore hrest
  simpa [Written.spellAll, Written.spell, Written.forest, Written.node] using hread

end ReadsAll

/-- A plain forest is read as its skeleton. -/
theorem readsAll (keepsWrappers : Bool) :
    (ws : List Written) → Written.AllPlain ws → ReadsAll keepsWrappers ws
  | [], _ => readsAll_nil
  | .text _ :: ws, h => ReadsAll.text (readsAll keepsWrappers ws h.2) h.1
  | .element _ _ children :: ws, h =>
    ReadsAll.element (readsAll keepsWrappers children h.1.2.2) (readsAll keepsWrappers ws h.2)
      h.1.1 h.1.2.1
  | .closed _ _ :: ws, h => ReadsAll.closed (readsAll keepsWrappers ws h.2) h.1.1 h.1.2

/-! ## Reading at the beginning -/

section Beginning

variable (keepsWrappers : Bool)

/-- The body of a document shows nothing yet. -/
theorem stands_bodyState :
    Stands keepsWrappers bodyState bodyState bodyFrame [impliedRoot] [] [] :=
  ⟨Markup.Builder.ready_bodyState, rfl, Kept.refl _, rfl⟩

/-- Blanks leave the document as it was before them; any other token of a text opens its body. -/
theorem foldl_leading {tokens : List Token} (h : ∀ token ∈ tokens, IsTextToken token) :
    tokens.foldl Builder.accept {} = {} ∨
      ∃ nodes, Stands keepsWrappers bodyState (tokens.foldl Builder.accept {}) bodyFrame
        [impliedRoot] nodes [] := by
  induction tokens with
  | nil => exact Or.inl rfl
  | cons token tokens ih =>
    have htokens : ∀ t ∈ tokens, IsTextToken t := fun t ht => h t (List.mem_cons_of_mem token ht)
    have htoken := h token (by simp)
    rw [List.foldl_cons]
    cases htoken with
    | nul =>
      rw [Markup.Builder.accept_nul]
      exact Or.inr ((stands_bodyState keepsWrappers).foldl_textTokens htokens)
    | @text cs hne =>
      cases hblank : cs.all isAsciiBlank with
      | true =>
        rw [Markup.Builder.accept_blank hne hblank]
        exact ih htokens
      | false =>
        rw [Markup.Builder.accept_of_opensBody (show OpensBody (.text cs) from hblank)]
        obtain ⟨nodes, hstands⟩ := (stands_bodyState keepsWrappers).accept_textToken (.text hne)
        exact Or.inr (hstands.foldl_textTokens htokens)

/-- A text at the very beginning shows nothing. -/
theorem build_leading {cs rest : List Char} (hcs : IsPlainText cs) (hrest : EndsText rest)
    {token : Token} (hstarts : StartsWith rest token) (hopens : OpensBody token) :
    ∃ b nodes, Builder.build {} (cs ++ rest) = b.build rest ∧
      Stands keepsWrappers bodyState b bodyFrame [impliedRoot] nodes [] := by
  have hbody := Markup.Builder.build_of_opensBody hstarts hopens
  cases cs with
  | nil => exact ⟨bodyState, [], hbody, stands_bodyState keepsWrappers⟩
  | cons c cs =>
    have hread : Builder.build {} (c :: cs ++ rest) =
        ((Token.textTokens (c :: cs)).foldl Builder.accept {}).build rest := by
      have hnext := Token.next_text (by simp) hcs hrest.stops
      rw [List.cons_append] at hnext ⊢
      rw [Markup.Builder.build_cons]
      exact congrArg (fun read => (read.1.foldl Builder.accept {}).build read.2) hnext
    have hleading := foldl_leading keepsWrappers (isTextToken_of_mem_textTokens (c :: cs))
    rcases hleading with hsame | ⟨nodes, hstands⟩
    · exact ⟨bodyState, [], by rw [hread, hsame, hbody],
        stands_bodyState keepsWrappers⟩
    · exact ⟨_, nodes, hread, hstands⟩

/-- A text in front of a first element is left behind, and the element opens the body. -/
theorem build_firstTag {ws : List Written} (hws : Written.AllPlain ws) {tag : List Char}
    {attributes : List WrittenAttribute}
    (hfirst : ∃ text, Written.spellAll .prepared ws =
      '<' :: (Spelling.prepared.opening tag attributes ++ '>' :: text))
    (htag : IsPlainTag tag) (hattributes : WellFormedAttributes attributes) {before : List Char}
    (hbefore : IsPlainText before) :
    ∃ b nodes, Builder.build {} (normalizeNewlines (before ++ Written.spellAll .prepared ws)) =
        b.build [] ∧
      Stands keepsWrappers bodyState b bodyFrame [impliedRoot] nodes
        (Node.skeleton (Written.forest ws)) := by
  obtain ⟨text, hspell⟩ := hfirst
  have hends : EndsText (Written.spellAll .prepared ws) := hspell ▸ endsText_tag _
  have hstarts : StartsWith (normalizeNewlines (Written.spellAll .prepared ws))
      (.startTag (preparedTag tag attributes)) := by
    rw [hspell, normalizeNewlines_opening htag hattributes]
    exact Or.inr ⟨by simp, [], _, next_opening htag.isTagText hattributes _⟩
  obtain ⟨b, nodes, hbuild, h⟩ := build_leading keepsWrappers
    hbefore.normalizeNewlines hends.normalizeNewlines hstarts
    (Markup.Builder.opensBody_of_isPlainLabel htag.isPlainLabel)
  obtain ⟨b', nodes', hbuild', h'⟩ :=
    readsAll keepsWrappers ws hws h isPlainText_nil endsText_nil
  refine ⟨b', nodes', ?_, h'⟩
  rw [List.nil_append, List.append_nil] at hbuild'
  rw [normalizeNewlines_append hends, hbuild, hbuild']
  rfl

/-- A plain forest is read inside the body.  A text in front of it may still be unread. -/
theorem build_document {ws : List Written} (hws : Written.AllPlain ws) {before : List Char}
    (hbefore : IsPlainText before) :
    ∃ b nodes, Builder.build {} (normalizeNewlines (before ++ Written.spellAll .prepared ws)) =
        b.build [] ∧
      Stands keepsWrappers bodyState b bodyFrame [impliedRoot] nodes
        (Node.skeleton (Written.forest ws)) := by
  induction ws generalizing before with
  | nil =>
    obtain ⟨b, nodes, hbuild, h⟩ := build_leading keepsWrappers
      hbefore.normalizeNewlines endsText_nil (Or.inl ⟨rfl, rfl⟩) (show OpensBody .eof from trivial)
    exact ⟨b, nodes, by simpa [Written.spellAll] using hbuild, h⟩
  | cons w ws ih =>
    cases w with
    | text cs =>
      have hread := ih hws.2 (hbefore.append hws.1)
      simpa [Written.spellAll, Written.spell, Written.forest, Written.node, Node.skeleton,
        Node.skeletonOf] using hread
    | element tag attributes children =>
      exact build_firstTag keepsWrappers hws
        ⟨Written.spellAll .prepared children ++
          ('<' :: '/' :: (Spelling.prepared.ending tag ++ ['>']) ++ Written.spellAll .prepared ws),
          by simp [Written.spellAll, Written.spell]⟩ hws.1.1 hws.1.2.1 hbefore
    | closed tag attributes =>
      exact build_firstTag keepsWrappers hws
        ⟨'<' :: '/' :: (Spelling.prepared.ending tag ++ ['>']) ++ Written.spellAll .prepared ws,
          by simp [Written.spellAll, Written.spell]⟩ hws.1.1 hws.1.2 hbefore

end Beginning

/-! ## Whole templates -/

/-- A byte order mark at the beginning stands in a text, and what is left of it is a plain forest
with the same elements. -/
theorem exists_dropByteOrderMark {ws : List Written} (hws : Written.AllPlain ws) :
    ∃ ws', Written.AllPlain ws' ∧
      Markup.dropByteOrderMark (Written.spellAll .prepared ws) = Written.spellAll .prepared ws' ∧
      Node.skeleton (Written.forest ws') = Node.skeleton (Written.forest ws) := by
  induction ws with
  | nil => exact ⟨[], hws, rfl, rfl⟩
  | cons w ws ih =>
    cases w with
    | text cs =>
      cases cs with
      | nil => exact ih hws.2
      | cons c cs =>
        by_cases hc : c = '\uFEFF'
        · subst hc
          exact ⟨.text cs :: ws, ⟨fun d hd => hws.1 d (List.mem_cons_of_mem _ hd), hws.2⟩, rfl, rfl⟩
        · exact ⟨.text (c :: cs) :: ws, hws, dropByteOrderMark_cons hc _, rfl⟩
    | element tag attributes children =>
      exact ⟨_, hws, dropByteOrderMark_cons (by decide) _, rfl⟩
    | closed tag attributes => exact ⟨_, hws, dropByteOrderMark_cons (by decide) _, rfl⟩

/-- A document with the implied wrappers keeps them all, or stands for what is inside them. -/
theorem ofDocument_implied (keepsWrappers : Bool) (nodes : List Markup.Node) :
    Node.ofDocument keepsWrappers (plug [bodyFrame, impliedRoot] nodes) =
      if keepsWrappers then
        [.element "html" [] []
          [.element "head" [] [] [],
            .element "body" [] [] (Node.ofDocument keepsWrappers nodes)]]
      else Node.ofDocument keepsWrappers nodes := by
  cases keepsWrappers with
  | false => exact ofDocument_wrapped headState [] nodes
  | true =>
    have htemplate : ("html" == "template") = false ∧ ("head" == "template") = false ∧
        ("body" == "template") = false := by
      decide
    simp [plug, bodyFrame, Ready.impliedBody, impliedHead, impliedRoot, Frame.node,
      Frame.isTemplate, Node.ofDocument, Node.ofNode, Node.ofAttributes, Node.originalTag,
      Node.originalAttributes, htemplate]

/-- A plain forest is read as its elements, whatever its texts are.  They stand inside wrappers if
some tag starts like one. -/
theorem skeleton_parse_writeAll {ws : List Written} (hws : Written.AllPlain ws) :
    Node.skeleton (parse (String.ofList (Written.writeAll ws))) =
      if Written.startsTag "html".toList ws || Written.startsTag "body".toList ws then
        [.element "html" [] []
          [.element "head" [] [] [],
            .element "body" [] [] (Node.skeleton (Written.forest ws))]]
      else Node.skeleton (Written.forest ws) := by
  obtain ⟨ws', hws', hdrop, hskeleton⟩ := exists_dropByteOrderMark hws
  obtain ⟨b, nodes, hbuild, h⟩ :=
    build_document (writesWrappers (Written.writeAll ws)) hws' isPlainText_nil
  have hmodes : b.templateModes = [] :=
    List.isEmpty_iff.1 (h.kept.modesEmpty.trans rfl)
  have hdocument : Markup.Document.parse (prepare (Written.writeAll ws)) =
      plug [bodyFrame, impliedRoot] nodes := by
    rw [List.nil_append] at hbuild
    rw [Markup.Document.parse, prepare_writeAll hws.prepared, hdrop, hbuild,
      h.ready.build_nil_document h.mode_eq hmodes]
  have hshown := h.skeleton_eq.trans hskeleton
  rw [parse, String.toList_ofList, hdocument, ofDocument_implied, ← writesWrappers_eq hws.prepared]
  split
  · simp [Node.skeleton, Node.skeletonOf, hshown]
  · exact hshown

/-- No plain element is a wrapper. -/
theorem IsPlainTag.isWrapper_eq_false {tag : List Char} (h : IsPlainTag tag) :
    Node.isWrapper (String.ofList tag) = false := by
  have hnone : ∀ label ∈ ["html", "head", "body"], ¬ IsElementTag label.toList := by
    decide +kernel
  rw [Node.isWrapper, List.contains_eq_mem, decide_eq_false_iff_not]
  intro hmem
  refine hnone _ hmem ?_
  rw [String.toList_ofList]
  exact h.toIsElementTag

/-- A template gets wrappers exactly if one of its tags starts like a wrapper, although none of them
is one. -/
theorem exists_isWrapper_parse_iff (ws : List Written) (hws : Written.AllPlain ws) :
    (∃ tag ∈ Node.tags (parse (String.ofList (Written.writeAll ws))), Node.isWrapper tag = true) ↔
      ∃ tag ∈ Written.tags ws,
        "html".toList <+: tag.map Char.toLower ∨ "body".toList <+: tag.map Char.toLower := by
  have hstarts : (∃ tag ∈ Written.tags ws,
      "html".toList <+: tag.map Char.toLower ∨ "body".toList <+: tag.map Char.toLower) ↔
        (Written.startsTag "html".toList ws || Written.startsTag "body".toList ws) = true := by
    simp only [Written.startsTag, Bool.or_eq_true, List.any_eq_true, List.isPrefixOf_iff_prefix,
      ← exists_or, ← and_or_left]
  have hnone : ∀ tag ∈ Node.tags (Written.forest ws), Node.isWrapper tag = false := by
    intro tag htag
    rw [tags_forest] at htag
    obtain ⟨name, hname, rfl⟩ := List.mem_map.1 htag
    have hplain : IsPlainTag name := Written.AllMadeOf.of_mem_tags hws hname
    exact hplain.isWrapper_eq_false
  rw [hstarts, ← Node.tags_skeleton, skeleton_parse_writeAll hws]
  split
  · rename_i hwraps
    exact ⟨fun _ => hwraps, fun _ => ⟨"html", by simp [Node.tags, Node.tagsOf], by decide⟩⟩
  · rename_i hplain
    rw [Node.tags_skeleton]
    refine ⟨?_, fun hwraps => absurd hwraps hplain⟩
    rintro ⟨tag, htag, hwrapper⟩
    rw [hnone tag htag] at hwrapper
    exact absurd hwrapper (by decide)

/-- A component whose name starts like a wrapper, between texts of all kinds. -/
theorem exists_isWrapper_parse_iff_bodyText :
    let ws : List Written :=
      [.text "\uFEFF \r\n".toList, .element "div".toList [.bare "hidden".toList]
        [.text "\x00 > b".toList, .text [], .element "BodyText".toList [] [], .text "\r".toList]]
    Written.AllPlain ws ∧
      ((∃ tag ∈ Node.tags (parse (String.ofList (Written.writeAll ws))),
          Node.isWrapper tag = true) ↔
        ∃ tag ∈ Written.tags ws,
          "html".toList <+: tag.map Char.toLower ∨ "body".toList <+: tag.map Char.toLower) := by
  intro ws
  have hws : Written.AllPlain ws := by decide +kernel
  exact ⟨hws, exists_isWrapper_parse_iff ws hws⟩

/-- A template that writes no wrapper is read with all three of them. -/
theorem tags_parse_html_view :
    let ws : List Written := [.element "html-view".toList [] []]
    Written.AllPlain ws ∧
      Node.tags (parse (String.ofList (Written.writeAll ws))) =
        ["html", "head", "body", "html-view"] := by
  decide +kernel

end TemplateImports.Template
