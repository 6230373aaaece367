import TemplateImports.Proofs.Markup.Rebuilding
import TemplateImports.Markup.Construction.Body

/-!
# Ordinary content keeps its elements

Which start tags of ordinary content leave an element behind, and which elements appear that no tag
asked for.  A start tag of a table part is dropped, and so is that of a form inside a form; the end
tags of paragraphs and line breaks may bring an element along.  Three start tags are left out here:
`html` and `body` change elements that are already there, and `frameset` takes the body away.

Main results:

- Definition `Builder.keepsInBody` says which start tags of ordinary content leave an element.
- Theorem `Sound.startBody` and theorem `Sound.inBody` say that these are the elements that appear.
-/

namespace TemplateImports.Markup

/-! ## What is kept and what is supplied -/

/-- Whether a start tag changes elements that are already there. -/
def Tag.isDocumentTag (tag : Tag) : Bool :=
  ["html", "body", "frameset"].contains tag.name

/-- Whether a token is a start tag that changes elements that are already there. -/
def Token.isDocumentTag : Token → Bool
  | .startTag tag => tag.isDocumentTag
  | _ => false

/-- The kind of the element that an ordinary start tag leaves behind. -/
def Tag.kind (tag : Tag) : Kind :=
  match startRule tag.name with
  | .image => (.html "img", tag.attributes)
  | .math => (⟨.mathml, tag.name⟩, Foreign.attributesIn .mathml tag.attributes)
  | .graphics => (⟨.svg, tag.name⟩, Foreign.attributesIn .svg tag.attributes)
  | _ => (.html tag.name, tag.attributes)

/-- The kind of an element that no tag has asked for. -/
def suppliedKind (label : String) : Kind :=
  (.html label, [])

/-- The kinds of the elements that a token leaves behind, given which start tags are kept, of which
kinds their elements are, and which labels are supplied. -/
def Token.leaves (keeps : Tag → Bool) (kind : Tag → Kind) (supplied : List String) (token : Token) :
    List Kind :=
  (match token with
    | .startTag tag => if keeps tag then [kind tag] else []
    | _ => []) ++ supplied.map suppliedKind

namespace Builder

/-- Whether a start tag of ordinary content leaves an element behind. -/
def keepsInBody (b : Builder) (tag : Tag) : Bool :=
  match startRule tag.name with
  | .root => false
  | .body => false
  | .frameset => false
  | .ignored => false
  | .form => b.hasOpen "template" || b.form.isNone
  | _ => true

/-- The labels of the elements that an end tag of ordinary content brings along. -/
def suppliesAtEnd (b : Builder) (tag : Tag) : List String :=
  match endRule tag.name with
  | .paragraph => if b.hasInScope buttonScope "p" then [] else ["p"]
  | .lineBreak => ["br"]
  | _ => []

/-- The labels of the elements that a token of ordinary content brings along. -/
def suppliesInBody (b : Builder) : Token → List String
  | .endTag tag => b.suppliesAtEnd tag
  | _ => []

end Builder

/-- The state after a step. -/
def Step.state : Step → Builder
  | .done b => b
  | .again b => b

/-! ## Rules -/

/-- A label with a rule of its own is in the table. -/
theorem mem_startRules {label : String} (h : startRule label ≠ .ordinary) :
    (label, startRule label) ∈ startRules := by
  unfold startRule at h ⊢
  cases hlookup : startRules.lookup label with
  | none => exact absurd (by rw [hlookup]; rfl) h
  | some r =>
    obtain ⟨before, after, heq, -⟩ := List.lookup_eq_some_iff.1 hlookup
    rw [heq]
    exact List.mem_append_right _ List.mem_cons_self

/-- Only document tags follow the rules that change what is there. -/
theorem isDocumentTag_of_startRule {tag : Tag}
    (h : startRule tag.name ∈ [StartRule.root, .body, .frameset]) : tag.isDocumentTag = true := by
  have htable : ∀ p ∈ startRules, p.2 ∈ [StartRule.root, .body, .frameset] →
      ["html", "body", "frameset"].contains p.1 = true := by decide
  refine htable _ (mem_startRules fun hordinary => ?_) h
  rw [hordinary] at h
  simp at h

namespace Builder

variable {b b' b'' : Builder} {made : List Kind}

/-- A choice makes what each of its ways makes. -/
theorem Grows.ite {c : Prop} [Decidable c] (h : Grows b b' made) (h' : Grows b b'' made) :
    Grows b (if c then b' else b'') made := by
  split
  · exact h
  · exact h'

namespace Sound

/-! ## Content of the head -/

/-- The start tag of a template adds its element. -/
theorem openTemplate (h : b.Sound) (tag : Tag) :
    Grows b (b.openTemplate tag) [(.html tag.name, tag.attributes)] :=
  (h.insertTag tag).andKeeps fun h' => h'.pushMarker

/-- The end tag of a template adds nothing. -/
theorem closeTemplate (h : b.Sound) : Grows b b.closeTemplate [] := by
  unfold Builder.closeTemplate
  refine Grows.ite ?_ (.refl h)
  refine (h.closeImplied thoroughImpliedEnds).andThen fun h' => ?_
  exact (h'.popThroughLabel "template").andThen fun h'' => h''.clearToMarker

/-- Content of the head adds the element of its tag. -/
theorem headElement (h : b.Sound) (tag : Tag) :
    Grows b (b.headElement tag) [(.html tag.name, tag.attributes)] := by
  unfold Builder.headElement
  split
  · exact h.insertTextElement tag _
  · exact h.insertTextElement tag _
  · exact h.insertTextElement tag _
  · exact h.insertTextElement tag _
  · exact h.openTemplate tag
  · exact h.insertVoid tag

/-! ## Start tags -/

/-- Closing the innermost element with a label adds nothing. -/
theorem closeOne (h : b.Sound) (label : String) :
    Grows b ((b.closeImpliedExcept label).popThroughLabel label) [] :=
  (h.closeImpliedExcept label).andThen fun h' => h'.popThroughLabel label

/-- An item of a list adds its element. -/
theorem openItem (h : b.Sound) (tag : Tag) (labels : List String) :
    Grows b (b.openItem tag labels) [(.html tag.name, tag.attributes)] := by
  have h' : b.forbidFrameset.Sound := h
  change Grows b.forbidFrameset _ _
  unfold Builder.openItem
  dsimp only
  cases endedItem? labels b.forbidFrameset.stack with
  | none => exact h'.closeParagraphInScope.andThen fun h => h.insertTag tag
  | some label =>
    have hclose := (h'.closeOne label).andThen fun h => h.closeParagraphInScope
    exact hclose.andThen fun h => h.insertTag tag

/-- A foreign element is added with its adjusted attributes. -/
theorem openForeign (h : b.Sound) (space : Namespace) (label : String) (tag : Tag) :
    Grows b (b.openForeign space label tag)
      [(⟨space, label⟩, Foreign.attributesIn space tag.attributes)] :=
  (h.insertClosed _ _).ite (h.insertElement _ _)

/-- Closing an open anchor adds nothing. -/
theorem closeAnchor (h : b.Sound) : Grows b b.closeAnchor [] := by
  unfold Builder.closeAnchor
  cases b.recentFormatting.find? (·.name.isHtml "a") with
  | none => exact .refl h
  | some e =>
    exact ((h.endFormatting "a").andThen fun h' => h'.forget e.id).andThen fun h' => h'.dropOpen e.id

/-- A start tag of ordinary content leaves an element behind if it is kept, and nothing else. -/
theorem startBody (h : b.Sound) {tag : Tag} (htag : tag.isDocumentTag = false) :
    Grows b (b.startBody tag) (if b.keepsInBody tag then [tag.kind] else []) := by
  have hrule : startRule tag.name ∉ [StartRule.root, .body, .frameset] := by
    intro hmem
    rw [isDocumentTag_of_startRule hmem] at htag
    exact Bool.noConfusion htag
  have hinsert : ∀ {b' : Builder}, Grows b b' [] →
      Grows b (b'.insertTag tag) [(.html tag.name, tag.attributes)] :=
    fun h' => h'.andThen fun h => h.insertTag tag
  have hvoid : ∀ {b' : Builder} {tag : Tag}, Grows b b' [] →
      Grows b (b'.insertVoid tag) [(.html tag.name, tag.attributes)] :=
    fun {_ tag} h' => h'.andThen fun h => h.insertVoid tag
  have hformatting : ∀ {b' : Builder}, Grows b b' [] →
      Grows b (b'.insertFormatting tag) [(.html tag.name, tag.attributes)] :=
    fun h' => h'.andThen fun h => h.insertFormatting tag
  unfold Builder.startBody keepsInBody Tag.kind
  cases hcase : startRule tag.name with
  | root => exact absurd (by simp [hcase]) hrule
  | body => exact absurd (by simp [hcase]) hrule
  | frameset => exact absurd (by simp [hcase]) hrule
  | headContent => exact h.headElement tag
  | block => exact hinsert h.closeParagraphInScope
  | heading =>
    refine hinsert (h.closeParagraphInScope.andThen fun h' => ?_)
    exact h'.pop.ite (.refl h')
  | preformatted => exact hinsert h.closeParagraphInScope
  | form =>
    cases htemplate : b.hasOpen "template" with
    | true => exact hinsert h.closeParagraphInScope
    | false =>
      cases hform : b.form with
      | some id => exact .refl h
      | none => exact hinsert h.closeParagraphInScope
  | listItem => exact h.openItem tag ["li"]
  | definition => exact h.openItem tag ["dd", "dt"]
  | plaintext => exact hinsert h.closeParagraphInScope
  | button =>
    refine hinsert (Grows.andThen ?_ fun h' => h'.reconstruct)
    exact ((h.closeImplied _).andThen fun h' => h'.popThroughLabel "button").ite (.refl h)
  | anchor => exact hformatting (h.closeAnchor.andThen fun h' => h'.reconstruct)
  | formatting => exact hformatting h.reconstruct
  | unbroken =>
    refine hformatting (h.reconstruct.andThen fun h' => ?_)
    exact ((h'.endFormatting "nobr").andThen fun h'' => h''.reconstruct).ite (.refl h')
  | marked => exact (hinsert h.reconstruct).andKeeps fun h' => h'.pushMarker
  | table => exact hinsert ((Grows.refl h).ite h.closeParagraphInScope)
  | void => exact hvoid h.reconstruct
  | input => exact (hvoid h.reconstruct).ite (hvoid h.reconstruct)
  | resource => exact h.insertVoid tag
  | rule => exact hvoid h.closeParagraphInScope
  | image => exact hvoid h.reconstruct
  | textarea => exact h.insertTag tag
  | «example» =>
    refine Grows.andThen (h.closeParagraphInScope.andThen fun h' => h'.reconstruct) fun h' => ?_
    exact h'.insertTag tag
  | frame => exact h.insertTag tag
  | rawtext => exact h.insertTextElement tag _
  | select => exact hinsert h.reconstruct
  | choice => exact hinsert ((h.pop.ite (.refl h)).andThen fun h' => h'.reconstruct)
  | rubyBase => exact hinsert ((h.closeImplied _).ite (.refl h))
  | rubyText => exact hinsert ((h.closeImpliedExcept _).ite (.refl h))
  | math => exact h.openForeign .mathml tag.name tag
  | graphics => exact h.openForeign .svg tag.name tag
  | ignored => exact .refl h
  | ordinary => exact hinsert h.reconstruct

/-! ## End tags -/

/-- Closing a block adds nothing. -/
theorem closeBlock (h : b.Sound) (label : String) : Grows b (b.closeBlock label) [] :=
  ((h.closeImplied _).andThen fun h' => h'.popThroughLabel label).ite (.refl h)

/-- Closing a form adds nothing. -/
theorem closeForm (h : b.Sound) : Grows b b.closeForm [] := by
  unfold Builder.closeForm
  refine (h.closeBlock "form").ite ?_
  cases b.form with
  | none => exact .refl h
  | some id =>
    exact Grows.ite ((h.closeImplied impliedEnds).andThen fun h' => h'.dropOpen id) (.refl h)

/-- An end tag of ordinary content leaves just the elements that it brings along. -/
theorem endBody (h : b.Sound) (tag : Tag) :
    Grows b (b.endBody tag).state ((b.suppliesAtEnd tag).map suppliedKind) := by
  unfold Builder.endBody suppliesAtEnd
  cases hcase : endRule tag.name with
  | template => exact h.closeTemplate
  | body => exact Grows.ite (.refl h) (.refl h)
  | root =>
    dsimp only
    split
    · exact .refl h
    · exact .refl h
  | block => exact h.closeBlock tag.name
  | form => exact h.closeForm
  | paragraph =>
    dsimp only
    split
    · exact h.closeParagraph
    · exact (h.insertLabel "p").andKeeps fun h' => h'.closeParagraph
  | item => exact (h.closeOne tag.name).ite (.refl h)
  | heading => exact ((h.closeImplied _).andThen fun h' => h'.popThrough _).ite (.refl h)
  | formatting => exact h.endFormatting tag.name
  | marked =>
    refine Grows.ite ?_ (.refl h)
    refine (h.closeImplied impliedEnds).andThen fun h' => ?_
    exact (h'.popThroughLabel tag.name).andThen fun h'' => h''.clearToMarker
  | lineBreak => exact h.reconstruct.andThen fun h' => h'.insertVoid { name := "br" }
  | ordinary => exact h.endOrdinary tag.name

/-- The end of the text adds nothing inside a template. -/
theorem endTemplateText (h : b.Sound) : Grows b b.endTemplateText.state [] := by
  unfold Builder.endTemplateText
  split
  · exact (h.popThroughLabel "template").andThen fun h' => h'.clearToMarker
  · exact .refl h

/-! ## Tokens -/

/-- Of a token of ordinary content just the kept and the supplied elements appear. -/
theorem inBody (h : b.Sound) {token : Token} (htoken : token.isDocumentTag = false) :
    Grows b (b.inBody token).state
      (token.leaves b.keepsInBody Tag.kind (b.suppliesInBody token)) := by
  cases token with
  | doctype declaration => exact .refl h
  | nul => exact .refl h
  | comment value => exact h.insertComment value
  | text cs =>
    have hflags : Grows b.reconstruct
        (if cs.all Text.isAsciiBlank then b.reconstruct else b.reconstruct.forbidFrameset) [] :=
      (Grows.refl h.reconstruct.sound).ite (.refl h.reconstruct.sound)
    exact (h.reconstruct.andThen fun _ => hflags).andThen fun h' => h'.insertText cs
  | startTag tag =>
    refine (h.startBody htoken).congr fun k => ?_
    simp [Token.leaves, suppliesInBody]
  | endTag tag => exact h.endBody tag
  | eof =>
    unfold Builder.inBody
    dsimp only
    split
    · exact .refl h
    · exact h.endTemplateText

/-- Content that a table refuses adds what ordinary content adds. -/
theorem inBodyFostered (h : b.Sound) {token : Token} (htoken : token.isDocumentTag = false) :
    Grows b (b.inBodyFostered token).state
      (token.leaves b.keepsInBody Tag.kind (b.suppliesInBody token)) := by
  have hfostered : Builder.Sound { b with fosters := true } := h
  have hgrows := hfostered.inBody htoken
  unfold Builder.inBodyFostered
  cases hstep : Builder.inBody { b with fosters := true } token with
  | done b' =>
    rw [hstep] at hgrows
    exact hgrows
  | again b' =>
    rw [hstep] at hgrows
    exact hgrows

end Sound

end Builder

end TemplateImports.Markup
