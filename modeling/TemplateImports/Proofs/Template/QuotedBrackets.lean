import TemplateImports.Proofs.Template.RoundTrip
import TemplateImports.Proofs.Template.Untouched

/-!
# Brackets in quoted values

A value in quotes may hold angle brackets.  The reader of markup and the last pass of the
preparation know quotes; the other three passes cut a text at every opening bracket.  They leave a
value as it is if nothing in it looks like a tag that they rewrite.  Still, the first pass does not
see that a tag around such a value is self-closed: its element stays open and takes in what follows.

Main results:

- Structure `IsInert` says which values the preparation leaves alone.
- Theorem `prepare_quotedTemplate` prepares a template around such a value.
- Theorem `parse_quotedTemplate` reads it, with both tags and with a self-closed one.
-/

namespace TemplateImports.Template

open Markup (Attribute Frame Builder Token IsPlainLabel plug)
open Markup.Builder (Ready Kept StartsWith OpensBody bodyState bodyFrame impliedRoot headState)
open Text

/-! ## Inert values -/

/-- A value in which nothing looks like a tag that the preparation rewrites, and which leaves no tag
open that could be closed behind it. -/
structure IsInert (value : List Char) : Prop where
  no_selfClosed : ¬ ['/', '>'] <:+: value
  closed : ∀ after ∈ behindBrackets value, startsWithLetter after = true → '>' ∈ after
  no_selection : ∀ after ∈ behindBrackets value, writesSelection after = false
  no_component : ∀ after ∈ behindBrackets value, writesComponent after = false
  no_wrapper : writesWrappers value = false

instance (value : List Char) : Decidable (IsInert value) :=
  decidable_of_iff (¬ ['/', '>'] <:+: value ∧
      (∀ after ∈ behindBrackets value, startsWithLetter after = true → '>' ∈ after) ∧
      (∀ after ∈ behindBrackets value, writesSelection after = false) ∧
      (∀ after ∈ behindBrackets value, writesComponent after = false) ∧
      writesWrappers value = false)
    ⟨fun h => ⟨h.1, h.2.1, h.2.2.1, h.2.2.2.1, h.2.2.2.2⟩,
      fun h => ⟨h.no_selfClosed, h.closed, h.no_selection, h.no_component, h.no_wrapper⟩⟩

/-- A template up to the value of an attribute. -/
def beforeValue : List Char :=
  "<div><c-a t=".toList

/-- The rest of the template behind the value, with the element of the attribute self-closed or
not. -/
def behindValue (selfClosed : Bool) : List Char :=
  (if selfClosed then "/>".toList else "></c-a>".toList) ++ "<c-b></c-b></div>".toList

/-- Two elements in a third one.  The first of them has an attribute with a given value. -/
def quotedTemplate (selfClosed : Bool) (value : List Char) : List Char :=
  beforeValue ++ '"' :: (value ++ '"' :: behindValue selfClosed)

section Prepare

variable {selfClosed : Bool} {value : List Char}

/-- The texts behind the brackets of a template around a value. -/
theorem forall_mem_behindBrackets_quotedTemplate {p : List Char → Prop}
    (houter : p ("div><c-a t=".toList ++ '"' :: (value ++ '"' :: behindValue selfClosed)))
    (hself : p ("c-a t=".toList ++ '"' :: (value ++ '"' :: behindValue selfClosed)))
    (hvalue : ∀ after ∈ behindBrackets value, p (after ++ '"' :: behindValue selfClosed))
    (hbehind : ∀ after ∈ behindBrackets (behindValue selfClosed), p after) :
    ∀ after ∈ behindBrackets (quotedTemplate selfClosed value), p after := by
  have hbefore : behindBrackets beforeValue = ["div><c-a t=".toList, "c-a t=".toList] := by
    decide
  have hquote : ∀ cs, behindBrackets ('"' :: cs) = behindBrackets cs := fun cs => rfl
  rw [quotedTemplate, behindBrackets_append, hbefore, hquote, behindBrackets_append, hquote]
  intro after hafter
  rcases List.mem_append.1 hafter with hafter | hafter
  · simp only [List.map_cons, List.map_nil, List.mem_cons, List.not_mem_nil, or_false] at hafter
    rcases hafter with rfl | rfl
    · exact houter
    · exact hself
  · rcases List.mem_append.1 hafter with hafter | hafter
    · obtain ⟨inside, hinside, rfl⟩ := List.mem_map.1 hafter
      exact hvalue inside hinside
    · exact hbehind after hafter

theorem neutralizeSelect_quotedTemplate (h : IsInert value) :
    neutralizeSelect (quotedTemplate selfClosed value) = quotedTemplate selfClosed value := by
  apply mapTags_eq_self
  have hread := fun cs rest => stretchOf_quote writesSelection_append cs rest
  refine forall_mem_behindBrackets_quotedTemplate (by rfl) ?_ ?_ ?_
  · exact neutralizeTag_eq_self ((hread _ _).trans (by decide))
  · intro after hafter
    exact neutralizeTag_eq_self ((hread _ _).trans (h.no_selection after hafter))
  · cases selfClosed <;> decide

theorem markComponents_quotedTemplate (h : IsInert value) :
    markComponents (quotedTemplate selfClosed value) = quotedTemplate selfClosed value := by
  apply mapTags_eq_self
  have hread := fun cs rest => stretchOf_quote writesComponent_append cs rest
  refine forall_mem_behindBrackets_quotedTemplate (by rfl) ?_ ?_ ?_
  · exact markTag_eq_self ((hread _ _).trans (by decide))
  · intro after hafter
    exact markTag_eq_self ((hread _ _).trans (h.no_component after hafter))
  · cases selfClosed <;> decide

/-- A closing bracket in a text without self-closed tags comes before every slash and bracket that
begin behind this bracket. -/
theorem mem_of_prefix_append {cs rest before : List Char} (hslash : ¬ ['/', '>'] <:+: cs)
    (hcs : '>' ∈ cs) (h : before ++ ['/', '>'] <+: cs ++ rest) : '>' ∈ before := by
  by_contra hnot
  obtain ⟨first, others, rfl, hfirst⟩ := List.eq_append_cons_of_mem hcs
  obtain ⟨tail, htail⟩ := h
  have hcut : (before ++ ['/']) ++ '>' :: tail = first ++ '>' :: (others ++ rest) := by
    simpa using htail
  have heq := eq_of_append_cons_eq (by simp [hnot]) hfirst hcut
  exact hslash ⟨before, others, by rw [← heq]; simp⟩

/-- Behind a bracket in an inert value no tag is self-closed. -/
theorem expandTag_inside (h : IsInert value) {after : List Char}
    (hafter : after ∈ behindBrackets value) (rest : List Char) :
    expandTag (stretchOf (after ++ '"' :: rest)) = stretchOf (after ++ '"' :: rest) := by
  apply expandTag_eq_self
  intro hletter before hbefore
  have hstarts : startsWithLetter after = true := by
    cases after with
    | nil =>
      have hquote : '"'.isAlpha = false := by decide
      simp [stretchOf, startsWithLetter, hquote] at hletter
    | cons c after =>
      by_cases hc : c = '<'
      · simp [stretchOf, hc, startsWithLetter] at hletter
      · simpa [stretchOf, hc, startsWithLetter] using hletter
  obtain ⟨start, hstart⟩ := exists_append_of_mem_behindBrackets hafter
  have hslash : ¬ ['/', '>'] <:+: after := by
    intro hinside
    apply h.no_selfClosed
    rw [hstart, List.append_cons]
    exact hinside.trans (List.suffix_append _ _).isInfix
  exact mem_of_prefix_append hslash (h.closed after hafter hstarts)
    (hbefore.trans (List.takeWhile_prefix _))

/-- The tag around an inert value is not seen to be self-closed, if the value holds a bracket. -/
theorem expandTag_around (h : IsInert value)
    (hbracket : selfClosed = true → '<' ∈ value ∨ '>' ∈ value) :
    let stretch := stretchOf ("c-a t=".toList ++ '"' :: (value ++ '"' :: behindValue selfClosed))
    expandTag stretch = stretch := by
  intro stretch
  let cs := "c-a t=".toList ++ '"' :: value
  have happ : stretch = stretchOf (cs ++ '"' :: behindValue selfClosed) := by
    simp [stretch, cs]
  apply expandTag_eq_self
  intro _ before hbefore
  have hprefix : before ++ ['/', '>'] <+: cs ++ '"' :: behindValue selfClosed :=
    hbefore.trans (happ ▸ List.takeWhile_prefix _)
  by_cases hclose : '>' ∈ value
  · refine mem_of_prefix_append ?_ (by simp [cs, hclose]) hprefix
    intro hslash
    rcases infix_of_infix_append_cons (by decide) _ _ hslash with hinside | hinside
    · exact absurd hinside (by decide)
    · exact h.no_selfClosed hinside
  · by_contra hnot
    have hcs : '>' ∉ cs := by simp [cs, hclose]
    cases hself : selfClosed with
    | false =>
      rw [hself] at hprefix
      obtain ⟨tail, htail⟩ := hprefix
      have hcut : (before ++ ['/']) ++ '>' :: tail =
          (cs ++ ['"']) ++ '>' :: "</c-a><c-b></c-b></div>".toList := by
        simpa [behindValue] using htail
      have heq := eq_of_append_cons_eq (by simp [hnot]) (by simp [hcs]) hcut
      have hlast := congrArg List.getLast? heq
      simp at hlast
    | true =>
      have hopen : '<' ∈ cs := by simp [cs, (hbracket hself).resolve_right hclose]
      have hmem : '>' ∈ stretchOf cs := by
        rw [← stretchOf_append_of_mem hopen, ← happ]
        exact hbefore.subset (by simp)
      exact hcs (List.takeWhile_subset _ hmem)

theorem expandSelfClosed_quotedTemplate (h : IsInert value)
    (hbracket : selfClosed = true → '<' ∈ value ∨ '>' ∈ value) :
    expandSelfClosed (quotedTemplate selfClosed value) = quotedTemplate selfClosed value := by
  apply mapTags_eq_self
  refine forall_mem_behindBrackets_quotedTemplate (by rfl) (expandTag_around h hbracket)
    (fun after hafter => expandTag_inside h hafter _) ?_
  cases selfClosed <;> decide

/-! ## The pass that knows quotes -/

/-- What stands between the quoted value and the end of its tag. -/
def slashOf (selfClosed : Bool) : List Char :=
  if selfClosed then ['/'] else []

/-- What stands behind the tag of the quoted value. -/
def behindTag (selfClosed : Bool) : List Char :=
  (if selfClosed then [] else "</c-a>".toList) ++ "<c-b></c-b></div>".toList

theorem behindValue_eq (selfClosed : Bool) :
    behindValue selfClosed = slashOf selfClosed ++ '>' :: behindTag selfClosed := by
  cases selfClosed <;> rfl

theorem startTag?_quoted (hquote : '"' ∉ value) :
    startTag? ("c-a t=".toList ++ '"' :: (value ++ '"' :: behindValue selfClosed)) =
      some ⟨"c-a".toList, " t=".toList ++ '"' :: (value ++ '"' :: slashOf selfClosed),
        behindTag selfClosed⟩ := by
  have hdrop : dropAttributes none
      (" t=".toList ++ '"' :: (value ++ '"' :: behindValue selfClosed)) =
        some ('>' :: behindTag selfClosed) := by
    have hslash : ∀ c ∈ slashOf selfClosed, c ∉ ['<', '>', '"', '\x27'] := by
      cases selfClosed <;> decide
    rw [dropAttributes_none_append (by decide), dropAttributes]
    simp only [beq_self_eq_true, Bool.true_or, if_true]
    rw [behindValue_eq]
    simp only [show ('"' == '<' || '"' == '>') = false by decide, Bool.false_eq_true, if_false]
    rw [dropAttributes_quoted hquote, dropAttributes_none_append hslash, dropAttributes]
    simp
  have hname : ∀ c ∈ "c-a".toList, isNameChar c = true := by decide
  have hstop : ∀ cs, Stops isNameChar (" t=".toList ++ cs) := fun cs => stops_cons (by decide) _
  have htext : "c-a t=".toList = "c-a".toList ++ " t=".toList := rfl
  have hspace : " t=".toList = ' ' :: "t=".toList := rfl
  have hblank : isBlank ' ' = true := by decide
  have hletter : ∀ cs, startsWithLetter ("c-a".toList ++ cs) = true := fun cs => rfl
  let inside := "t=".toList ++ '"' :: (value ++ '"' :: behindValue selfClosed)
  let attributes := " t=".toList ++ '"' :: (value ++ '"' :: slashOf selfClosed)
  have hcut : ' ' :: inside = attributes ++ '>' :: behindTag selfClosed := by
    simp [inside, attributes, behindValue_eq]
  have hlength : inside.length - (behindTag selfClosed).length = attributes.length := by
    have hlengths := congrArg List.length hcut
    simp only [List.length_cons, List.length_append] at hlengths
    omega
  have htake : (' ' :: inside).take (inside.length - (behindTag selfClosed).length) =
      attributes := by
    rw [hlength, hcut, List.take_left]
  unfold startTag?
  rw [htext, List.append_assoc, hletter, takeWhile_append_stop hname (hstop _),
    dropWhile_append_stop hname (hstop _)]
  rw [hspace, List.cons_append] at hdrop ⊢
  simp only [hdrop, hblank, Bool.not_true, Bool.false_eq_true, if_false, if_true,
    show (' ' == '>') = false by decide]
  rw [htake]
  rfl

theorem attributeNames_quoted (hquote : '"' ∉ value) :
    attributeNames (" t=".toList ++ '"' :: (value ++ '"' :: slashOf selfClosed)) = [['t']] := by
  have hrest : attributeNames (slashOf selfClosed) = [] := by
    cases selfClosed <;> decide +kernel
  have hread : dropValue ('=' :: '"' :: value ++ '"' :: slashOf selfClosed) =
      slashOf selfClosed := dropValue_quoted hquote
  have hequals : isAttributeChar '=' = false := by decide
  have hletter : isAttributeChar 't' = true := by decide
  have hblank : isBlank ' ' = true := by decide
  have htext : " t=".toList ++ '"' :: (value ++ '"' :: slashOf selfClosed) =
      ' ' :: 't' :: ('=' :: '"' :: value ++ '"' :: slashOf selfClosed) := rfl
  rw [htext, attributeNames]
  simp only [List.cons_append] at hread
  simp [hblank, hletter, hequals, hread, hrest]

/-- The last pass reads the quotes, and finds no name with capitals. -/
theorem markAttributes_quotedTemplate (hquote : '"' ∉ value) :
    markAttributes (quotedTemplate selfClosed value) = quotedTemplate selfClosed value := by
  have htext : quotedTemplate selfClosed value = '<' :: ("div".toList ++ (writeAttributes [] ++
      '>' :: '<' :: ("c-a t=".toList ++ '"' :: (value ++ '"' :: behindValue selfClosed)))) := rfl
  have hdiv : IsTagText "div".toList := ⟨⟨'d', rfl, by decide⟩, by decide⟩
  have hnone :
      caseMarkerFor (" t=".toList ++ '"' :: (value ++ '"' :: slashOf selfClosed)) = [] := by
    rw [caseMarkerFor, attributeNames_quoted hquote]
    rfl
  have hrest : markAttributes (behindTag selfClosed) = behindTag selfClosed := by
    cases selfClosed <;> decide +kernel
  rw [htext, markAttributes_startTag hdiv (by simp), markAttributes_of_startTag?
    (startTag?_quoted hquote), hnone, hrest]
  simp [caseMarks, capitalNames, behindValue_eq]

/-- A template around an inert value is left as it is. -/
theorem prepare_quotedTemplate (hquote : '"' ∉ value) (h : IsInert value)
    (hbracket : selfClosed = true → '<' ∈ value ∨ '>' ∈ value) :
    prepare (quotedTemplate selfClosed value) = quotedTemplate selfClosed value := by
  rw [prepare, expandSelfClosed_quotedTemplate h hbracket, neutralizeSelect_quotedTemplate h,
    markComponents_quotedTemplate h, markAttributes_quotedTemplate hquote]

/-- A quote belongs to no wrapper. -/
theorem writesWrappers_append_quote (before after : List Char) :
    writesWrappers (before ++ '"' :: after) = (writesWrappers before || writesWrappers after) := by
  have hword : ∀ word : List Char, '"' ∉ word → ∀ before after : List Char,
      hasInfix word (before ++ '"' :: after) = (hasInfix word before || hasInfix word after) := by
    intro word hword before after
    rw [Bool.eq_iff_iff, Bool.or_eq_true, hasInfix_iff_isInfix, hasInfix_iff_isInfix,
      hasInfix_iff_isInfix]
    refine ⟨infix_of_infix_append_cons hword before after, ?_⟩
    rintro (hinside | hinside)
    · exact hinside.trans (List.prefix_append _ _).isInfix
    · exact hinside.trans (List.suffix_append_of_suffix (List.suffix_cons _ _)).isInfix
  have hquote : '"'.toLower = '"' := by decide
  have hhtml := hword "<html".toList (by decide)
  have hbody := hword "<body".toList (by decide)
  simp only [writesWrappers, List.map_append, List.map_cons, hquote, hhtml, hbody]
  ac_rfl

theorem writesWrappers_quotedTemplate (h : IsInert value) :
    writesWrappers (quotedTemplate selfClosed value) = false := by
  have hbefore : writesWrappers beforeValue = false := by decide +kernel
  have hbehind : writesWrappers (behindValue selfClosed) = false := by
    cases selfClosed <;> decide +kernel
  rw [quotedTemplate, writesWrappers_append_quote, writesWrappers_append_quote, hbefore, hbehind,
    h.no_wrapper]
  rfl

end Prepare

/-! ## Reading plain tags -/

section Reading

variable {b : Builder} {frame : Frame} {frames : List Frame} {inside : List Markup.Node}
  {name : List Char} {label : String}

/-- A start tag leads into a plain element, even if it is self-closed. -/
theorem build_startTag (h : Ready b frame frames inside) (hmode : b.mode ≠ .inHead)
    (hname : Token.IsTagName name) (hlabel : String.ofList (name.map Char.toLower) = label)
    (hplain : IsPlainLabel label) {text rest : List Char} {attributes : List Attribute}
    {selfClosing : Bool} (htext : Stops Token.isTagNameChar text)
    (hscan : Token.scanAttributes [] text = some (attributes, selfClosing, rest)) :
    ∃ b', b.build ('<' :: (name ++ text)) = b'.build rest ∧
      Ready b' ⟨b.nextId, label, attributes, inside⟩ (frame :: frames) [] ∧ Kept b b' := by
  subst hlabel
  let tag : Markup.Tag := ⟨String.ofList (name.map Char.toLower), attributes, selfClosing⟩
  obtain ⟨hready, hkept⟩ := h.accept_startTag (show IsPlainLabel tag.name from hplain) hmode
  exact ⟨_, build_next h (by simp) (Token.next_startTag hname htext hscan), hready, hkept⟩

/-- An end tag closes a plain element. -/
theorem build_endTag {outer : Frame} (h : Ready b frame (outer :: frames) inside)
    (hname : Token.IsTagName name) (hlabel : String.ofList (name.map Char.toLower) = label)
    (hplain : IsPlainLabel label) (hframe : frame.label = label) (rest : List Char) :
    ∃ b', b.build ('<' :: '/' :: (name ++ '>' :: rest)) = b'.build rest ∧
      Ready b' outer frames (frame.before ++ [frame.node inside]) ∧ Kept b b' ∧
      b'.mode = .inBody := by
  subst hlabel
  let tag : Markup.Tag := ⟨String.ofList (name.map Char.toLower), [], false⟩
  exact ⟨_, build_next h (by simp) (Token.next_endTag hname rest),
    h.accept_endTag (show IsPlainLabel tag.name from hplain) hframe⟩

/-- An end tag of a block closes an element that was left open inside the block. -/
theorem build_blockEnd {block outer : Frame} (h : Ready b frame (block :: outer :: frames) inside)
    (hplain : IsPlainLabel frame.label) (hne : frame.label ≠ "div") (hblock : block.label = "div")
    (rest : List Char) :
    ∃ b', b.build ("</div>".toList ++ rest) = b'.build rest ∧
      Ready b' outer frames
        (block.before ++ [block.node (frame.before ++ [frame.node inside])]) ∧
      Kept b b' ∧ b'.mode = .inBody := by
  have hname : Token.IsTagName "div".toList := ⟨⟨'d', rfl, by decide⟩, by decide, by decide⟩
  have hlabel : String.ofList ("div".toList.map Char.toLower) = "div" := by decide_cbv
  exact ⟨_, build_next h (by simp) (Token.next_endTag hname rest),
    h.accept_blockEnd hplain hne hblock hlabel⟩

/-- A plain element without markers stands for itself. -/
theorem ofNode_unmarked (hplain : IsPlainLabel label) {attributes : List Attribute}
    (hattributes : ∀ a ∈ attributes, a.name ≠ nameMarker ∧ a.name ≠ caseMarker)
    (keepsWrappers : Bool) (id : Nat) (before nodes : List Markup.Node) :
    Node.ofNode keepsWrappers (Frame.node ⟨id, label, attributes, before⟩ nodes) =
      [.ofAttributes label attributes (Node.ofDocument keepsWrappers nodes)] := by
  have hwrapper : Node.isWrapper label = false := hplain.contains_eq_false (by decide)
  have htemplate : (label == "template") = false := hplain.beq_eq_false (by decide)
  have hname : attributes.filter (·.name == nameMarker) = [] := by
    rw [List.filter_eq_nil_iff]
    intro a ha
    simpa using (hattributes a ha).1
  have hcase : attributes.filter (·.name == caseMarker) = [] := by
    rw [List.filter_eq_nil_iff]
    intro a ha
    simpa using (hattributes a ha).2
  have hplain : attributes.filter (fun a => a.name != nameMarker && a.name != caseMarker) =
      attributes := by
    rw [List.filter_eq_self]
    intro a ha
    simpa using hattributes a ha
  have htag : Node.originalTag label attributes = label := by
    simp [Node.originalTag, hname]
  have hsame : Node.originalAttributes attributes = attributes := by
    simp [Node.originalAttributes, Node.spellings, hplain, hcase]
  rw [Frame.node, Node.ofNode, if_neg (by simp [hwrapper]), htag, hsame]
  simp [Frame.isTemplate, htemplate, Node.ofDocument]

end Reading

/-! ## Reading the template -/

/-- The attribute of the element with the value. -/
def quotedAttribute (value : List Char) : Attribute :=
  ⟨"t", String.ofList value⟩

/-- The forest that a template around a value is read as. -/
def readTemplate (selfClosed : Bool) (value : List Char) : List Node :=
  let first : List Node → Node := .element "c-a" [quotedAttribute value] []
  let second : Node := .element "c-b" [] [] []
  [.element "div" [] [] (if selfClosed then [first [second]] else [first [], second])]

theorem isPlainLabel_quotedTemplate :
    IsPlainLabel "div" ∧ IsPlainLabel "c-a" ∧ IsPlainLabel "c-b" :=
  ⟨Or.inl rfl, Or.inr (by decide_cbv), Or.inr (by decide_cbv)⟩

section QuotedTemplate

variable {b : Builder} {frame : Frame} {frames : List Frame} {inside : List Markup.Node}

/-- What stands between an element and the end of the block around it is read inside the block. -/
theorem build_second (h : Ready b frame frames inside) (hmode : b.mode ≠ .inHead)
    (rest : List Char) :
    ∃ b' id, b.build ("<c-b></c-b>".toList ++ rest) = b'.build rest ∧
      Ready b' frame frames (inside ++ [Frame.node ⟨id, "c-b", [], inside⟩ []]) ∧ Kept b b' ∧
      b'.mode = .inBody := by
  have hname : Token.IsTagName "c-b".toList := ⟨⟨'c', rfl, by decide⟩, by decide, by decide⟩
  have hlabel : String.ofList ("c-b".toList.map Char.toLower) = "c-b" := by decide_cbv
  have hplain := isPlainLabel_quotedTemplate.2.2
  obtain ⟨b₁, hbuild₁, hready₁, hkept₁⟩ := build_startTag h hmode hname hlabel hplain
    (stops_cons (by decide) ("</c-b>".toList ++ rest)) (Token.scanAttributes_close [] _)
  obtain ⟨b₂, hbuild₂, hready₂, hkept₂, hmode₂⟩ :=
    build_endTag hready₁ hname hlabel hplain rfl rest
  exact ⟨b₂, b.nextId, hbuild₁.trans hbuild₂, hready₂, hkept₁.trans hkept₂, hmode₂⟩

/-- The tag of the quoted value is read up to its end, whatever its value holds. -/
theorem scanAttributes_quotedTemplate {value : List Char} (hquote : '"' ∉ value)
    (hreference : '&' ∉ value) (hnul : '\x00' ∉ value) (selfClosed : Bool) :
    Token.scanAttributes [] (" t=".toList ++ '"' :: (value ++ '"' :: behindValue selfClosed)) =
      some ([quotedAttribute value], selfClosed, behindTag selfClosed) := by
  have hname : ∀ c ∈ ['t'], Token.isAttributeNameChar c = true := by decide
  have hlabel : Token.nameOf ['t'] = "t" := by decide_cbv
  have hadd : ∀ a : Attribute, Token.addAttribute [] a = [a] := fun a => rfl
  refine (Token.scanAttributes_quoted (by simp) hname hquote []).trans ?_
  rw [hlabel, Token.valueOf_eq hnul hreference, hadd]
  cases selfClosed with
  | false => exact Token.scanAttributes_close _ _
  | true => exact Token.scanAttributes_selfClose _ _

/-- Behind the tag of the quoted value its element is open. -/
theorem exists_build_behindTag {value : List Char} (hquote : '"' ∉ value)
    (hreference : '&' ∉ value) (hnul : '\x00' ∉ value) (selfClosed : Bool) :
    ∃ b id id', Builder.build {} (quotedTemplate selfClosed value) =
        b.build (behindTag selfClosed) ∧
      Ready b ⟨id', "c-a", [quotedAttribute value], []⟩
        [⟨id, "div", [], []⟩, bodyFrame, impliedRoot] [] ∧ Kept bodyState b := by
  obtain ⟨hdiv, hfirst, -⟩ := isPlainLabel_quotedTemplate
  have hdivName : Token.IsTagName "div".toList := ⟨⟨'d', rfl, by decide⟩, by decide, by decide⟩
  have hfirstName : Token.IsTagName "c-a".toList := ⟨⟨'c', rfl, by decide⟩, by decide, by decide⟩
  have hdivLabel : String.ofList ("div".toList.map Char.toLower) = "div" := by decide_cbv
  have hfirstLabel : String.ofList ("c-a".toList.map Char.toLower) = "c-a" := by decide_cbv
  let quoted := " t=".toList ++ '"' :: (value ++ '"' :: behindValue selfClosed)
  have hend : Stops Token.isTagNameChar ('>' :: '<' :: ("c-a".toList ++ quoted)) :=
    stops_cons (by decide) _
  have hspace : Stops Token.isTagNameChar quoted := stops_cons (by decide) _
  have hscan := Token.scanAttributes_close [] ('<' :: ("c-a".toList ++ quoted))
  have hbody := Markup.Builder.build_of_opensBody
    (Or.inr ⟨by simp, [], _, Token.next_startTag hdivName hend hscan⟩)
    (Markup.Builder.opensBody_of_isPlainLabel
      (show IsPlainLabel (String.ofList _) from hdivLabel ▸ hdiv))
  obtain ⟨b₁, hbuild₁, hready₁, hkept₁⟩ := build_startTag Markup.Builder.ready_bodyState
    (by decide) hdivName hdivLabel hdiv hend hscan
  obtain ⟨b₂, hbuild₂, hready₂, hkept₂⟩ := build_startTag hready₁
    (by rw [hready₁.mode_eq_inBody hdiv]; decide) hfirstName hfirstLabel hfirst hspace
    (scanAttributes_quotedTemplate hquote hreference hnul selfClosed)
  refine ⟨b₂, _, _, ?_, hready₂, hkept₁.trans hkept₂⟩
  rw [← hbuild₂, ← hbuild₁, ← hbody]
  rfl

theorem ofAttributes_nil (tag : String) (children : List Node) :
    Node.ofAttributes tag [] children = .element tag [] [] children :=
  rfl

theorem ofAttributes_quoted (tag : String) (value : List Char) (children : List Node) :
    Node.ofAttributes tag [quotedAttribute value] children =
      .element tag [quotedAttribute value] [] children := by
  have hmark : Directive.isMarked "t".toList = false := by decide
  have hnone : Directive.parse "t" (String.ofList value) = none := by
    simp only [Directive.parse, hmark, Bool.not_false, Bool.true_or, if_true]
  simp [Node.ofAttributes, quotedAttribute, hnone]

/-- The document of a template around a value stands for two elements, one behind the other or one
inside the other. -/
theorem exists_build_quotedTemplate {value : List Char} (hquote : '"' ∉ value)
    (hreference : '&' ∉ value) (hnul : '\x00' ∉ value) (selfClosed : Bool) :
    ∃ b nodes, Builder.build {} (quotedTemplate selfClosed value) = b.build [] ∧
      Ready b bodyFrame [impliedRoot] nodes ∧ Kept bodyState b ∧ b.mode = .inBody ∧
      Node.ofDocument false nodes = readTemplate selfClosed value := by
  obtain ⟨hdiv, hfirst, hsecond⟩ := isPlainLabel_quotedTemplate
  obtain ⟨b, id, id', hbuild, hready, hkept⟩ :=
    exists_build_behindTag hquote hreference hnul selfClosed
  have hmode := hready.mode_eq_inBody hfirst
  have hunmarked : ∀ a ∈ [quotedAttribute value], a.name ≠ nameMarker ∧ a.name ≠ caseMarker := by
    intro a ha
    rw [List.mem_singleton.1 ha]
    exact (by decide : "t" ≠ nameMarker ∧ "t" ≠ caseMarker)
  cases selfClosed with
  | false =>
    have hfirstName : Token.IsTagName "c-a".toList :=
      ⟨⟨'c', rfl, by decide⟩, by decide, by decide⟩
    have hfirstLabel : String.ofList ("c-a".toList.map Char.toLower) = "c-a" := by decide_cbv
    have hdivName : Token.IsTagName "div".toList := ⟨⟨'d', rfl, by decide⟩, by decide, by decide⟩
    have hdivLabel : String.ofList ("div".toList.map Char.toLower) = "div" := by decide_cbv
    obtain ⟨b₁, hbuild₁, hready₁, hkept₁, hmode₁⟩ := build_endTag hready hfirstName hfirstLabel
      hfirst rfl "<c-b></c-b></div>".toList
    obtain ⟨b₂, id₂, hbuild₂, hready₂, hkept₂, -⟩ :=
      build_second hready₁ (by rw [hmode₁]; decide) "</div>".toList
    obtain ⟨b₃, hbuild₃, hready₃, hkept₃, hmode₃⟩ :=
      build_endTag hready₂ hdivName hdivLabel hdiv rfl []
    refine ⟨b₃, _, ?_, hready₃, ?_, hmode₃, ?_⟩
    · exact hbuild.trans (hbuild₁.trans (hbuild₂.trans hbuild₃))
    · exact hkept.trans (hkept₁.trans (hkept₂.trans hkept₃))
    · simp [Node.ofDocument, ofNode_unmarked hdiv, ofNode_unmarked hfirst hunmarked,
        ofNode_unmarked hsecond, ofAttributes_nil, ofAttributes_quoted, readTemplate]
  | true =>
    obtain ⟨b₁, id₁, hbuild₁, hready₁, hkept₁, -⟩ :=
      build_second hready (by rw [hmode]; decide) "</div>".toList
    obtain ⟨b₂, hbuild₂, hready₂, hkept₂, hmode₂⟩ :=
      build_blockEnd hready₁ hfirst (show "c-a" ≠ "div" by decide) rfl []
    refine ⟨b₂, _, ?_, hready₂, ?_, hmode₂, ?_⟩
    · exact hbuild.trans (hbuild₁.trans hbuild₂)
    · exact hkept.trans (hkept₁.trans hkept₂)
    · simp [Node.ofDocument, ofNode_unmarked hdiv, ofNode_unmarked hfirst hunmarked,
        ofNode_unmarked hsecond, ofAttributes_nil, ofAttributes_quoted, readTemplate]

end QuotedTemplate

/-- An element around an inert value with a bracket ends where its end tag stands, and takes in what
follows if it is written as a self-closed tag: the brackets keep that tag from being recognised. -/
theorem parse_quotedTemplate (value : List Char)
    (hchars : ∀ c ∈ value, c ∉ ['"', '&', '\r', '\x00']) (hbracket : '<' ∈ value ∨ '>' ∈ value)
    (h : IsInert value) (selfClosed : Bool) :
    parse (String.ofList (quotedTemplate selfClosed value)) = readTemplate selfClosed value := by
  have hnone : ∀ {c : Char}, c ∈ ['"', '&', '\r', '\x00'] → c ∉ value :=
    fun hc hmem => hchars _ hmem hc
  have hquote : '"' ∉ value := hnone (by simp)
  obtain ⟨b, nodes, hbuild, hready, hkept, hmode, hforest⟩ :=
    exists_build_quotedTemplate hquote (hnone (by simp)) (hnone (by simp)) selfClosed
  have hreturn : '\r' ∉ quotedTemplate selfClosed value := by
    have hbehind : '\r' ∉ behindValue selfClosed := by cases selfClosed <;> decide
    have hbefore : '\r' ∉ beforeValue := by decide
    simp [quotedTemplate, hbefore, hbehind, hnone]
  have hmark : Markup.dropByteOrderMark (quotedTemplate selfClosed value) =
      quotedTemplate selfClosed value := dropByteOrderMark_cons (by decide) _
  have hmodes : b.templateModes = [] := List.isEmpty_iff.1 (hkept.modesEmpty.trans rfl)
  rw [parse, String.toList_ofList, writesWrappers_quotedTemplate h,
    prepare_quotedTemplate hquote h fun _ => hbracket, Markup.Document.parse, hmark,
    normalizeNewlines_of_not_mem hreturn, hbuild, hready.build_nil_document hmode hmodes]
  exact (ofDocument_wrapped headState [] nodes).trans hforest

/-- A comparison next to some markup, in a tag that is self-closed. -/
theorem parse_quotedTemplate_markup :
    let value := "a < b => <i>{{ b }}</i>".toList
    (∀ c ∈ value, c ∉ ['"', '&', '\r', '\x00']) ∧ ('<' ∈ value ∨ '>' ∈ value) ∧ IsInert value ∧
      parse (String.ofList (quotedTemplate true value)) = readTemplate true value := by
  intro value
  have hchars : ∀ c ∈ value, c ∉ ['"', '&', '\r', '\x00'] := by decide +kernel
  have hbracket : '<' ∈ value ∨ '>' ∈ value := by decide +kernel
  have h : IsInert value := by decide +kernel
  exact ⟨hchars, hbracket, h, parse_quotedTemplate value hchars hbracket h true⟩

/-- The second of two elements moves into the first one if a value there holds a bracket. -/
theorem walk_parse_comparison :
    let walk := Node.walk (fun _ => false) 0
    let first := Event.element 1 "c-a"
    walk (parse "<div><c-a t=\"a\"/><c-b></c-b></div>") =
        [.element 0 "div" [], first [⟨"t", "a"⟩], .element 1 "c-b" []] ∧
      walk (parse "<div><c-a t=\"a > b\"/><c-b></c-b></div>") =
        [.element 0 "div" [], first [⟨"t", "a > b"⟩], .element 2 "c-b" []] := by
  decide +kernel

end TemplateImports.Template
