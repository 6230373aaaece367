import TemplateImports.Markup.Construction.Formatting
import TemplateImports.Markup.Foreign

/-!
# Content of the head and the body

What each start tag and each end tag does to ordinary content.  The tables `startRules` and
`endRules` name the rule that a label follows; any other label is an ordinary element, which is
opened by its start tag and closed by its end tag.

Main results:

- Definition `Builder.headElement` inserts what belongs into a head.
- Definition `Builder.inBody` handles a token of ordinary content.
- Theorem `startRule_of_not_mem` says that a label outside the table is an ordinary element.
-/

namespace TemplateImports.Markup

open Text

/-! ## Rules -/

/-- What a start tag does in ordinary content. -/
inductive StartRule where
  | root
  | headContent
  | body
  | frameset
  | block
  | heading
  | preformatted
  | form
  | listItem
  | definition
  | plaintext
  | button
  | anchor
  | formatting
  | unbroken
  | marked
  | table
  | void
  | input
  | resource
  | rule
  | image
  | textarea
  | example
  | frame
  | rawtext
  | select
  | choice
  | rubyBase
  | rubyText
  | math
  | graphics
  | ignored
  | ordinary
deriving Repr, DecidableEq

/-- What an end tag does in ordinary content. -/
inductive EndRule where
  | template
  | body
  | root
  | block
  | form
  | paragraph
  | item
  | heading
  | formatting
  | marked
  | lineBreak
  | ordinary
deriving Repr, DecidableEq

/-- Labels of formatting elements without further rules. -/
def formattingLabels : List String :=
  ["b", "big", "code", "em", "font", "i", "s", "small", "strike", "strong", "tt", "u"]

/-- Labels of blocks that end a paragraph and have an end tag of their own. -/
def blockLabels : List String :=
  ["address", "article", "aside", "blockquote", "center", "details", "dialog", "dir", "div", "dl",
   "fieldset", "figcaption", "figure", "footer", "header", "hgroup", "main", "menu", "nav", "ol",
   "section", "summary", "ul"]

/-- Labels of elements that belong into a head. -/
def headLabels : List String :=
  ["base", "basefont", "bgsound", "link", "meta", "noframes", "script", "style", "template",
   "title"]

/-- Labels that all follow the same rule. -/
def following {α : Type} (labels : List String) (rule : α) : List (String × α) :=
  labels.map fun label => (label, rule)

/-- Labels that follow a rule of their own at their start tags. -/
def startRules : List (String × StartRule) :=
  List.flatten
    [following ["html"] .root, following headLabels .headContent, following ["body"] .body,
     following ["frameset"] .frameset, following ("p" :: blockLabels) .block,
     following headings .heading, following ["pre", "listing"] .preformatted,
     following ["form"] .form, following ["li"] .listItem, following ["dd", "dt"] .definition,
     following ["plaintext"] .plaintext, following ["button"] .button, following ["a"] .anchor,
     following formattingLabels .formatting, following ["nobr"] .unbroken,
     following ["applet", "marquee", "object"] .marked, following ["table"] .table,
     following ["area", "br", "embed", "img", "keygen", "wbr"] .void, following ["input"] .input,
     following ["param", "source", "track"] .resource, following ["hr"] .rule,
     following ["image"] .image, following ["textarea"] .textarea, following ["xmp"] .example,
     following ["iframe"] .frame, following ["noembed", "noscript"] .rawtext,
     following ["select"] .select, following ["optgroup", "option"] .choice,
     following ["rb", "rtc"] .rubyBase, following ["rp", "rt"] .rubyText, following ["math"] .math,
     following ["svg"] .graphics,
     following
       ["caption", "col", "colgroup", "frame", "head", "tbody", "td", "tfoot", "th", "thead", "tr"]
       .ignored]

/-- Labels that follow a rule of their own at their end tags. -/
def endRules : List (String × EndRule) :=
  List.flatten
    [following ["template"] .template, following ["body"] .body, following ["html"] .root,
     following ("button" :: "listing" :: "pre" :: blockLabels) .block, following ["form"] .form,
     following ["p"] .paragraph, following ["li", "dd", "dt"] .item, following headings .heading,
     following ("a" :: "nobr" :: formattingLabels) .formatting,
     following ["applet", "marquee", "object"] .marked, following ["br"] .lineBreak]

/-- The rule of a start tag. -/
def startRule (label : String) : StartRule :=
  (startRules.lookup label).getD .ordinary

/-- The rule of an end tag. -/
def endRule (label : String) : EndRule :=
  (endRules.lookup label).getD .ordinary

/-- A label outside the table is an ordinary element. -/
theorem startRule_of_not_mem {label : String} (h : label ∉ startRules.map (·.1)) :
    startRule label = .ordinary := by
  unfold startRule
  suffices startRules.lookup label = none by simp [this]
  rw [List.lookup_eq_none_iff]
  intro p hp
  by_cases he : label = p.1
  · exact absurd (he ▸ List.mem_map_of_mem hp) h
  · simpa using he

namespace Builder

/-! ## Content of the head -/

/-- Opens a template, whose content is constructed on its own. -/
def openTemplate (b : Builder) (tag : Tag) : Builder :=
  let b := (b.insertTag tag).pushMarker.forbidFrameset
  { b with mode := .inTemplate, templateModes := .inTemplate :: b.templateModes }

/-- Closes a template. -/
def closeTemplate (b : Builder) : Builder :=
  if b.hasOpen "template" then
    let b := ((b.closeImplied thoroughImpliedEnds).popThroughLabel "template").clearToMarker
    { b with templateModes := b.templateModes.drop 1 }.resetMode
  else b

/-- Inserts an element that belongs into a head. -/
def headElement (b : Builder) (tag : Tag) : Builder :=
  match tag.name with
  | "title" => b.insertTextElement tag (.rcdata tag.name)
  | "noframes" => b.insertTextElement tag (.rawtext tag.name)
  | "style" => b.insertTextElement tag (.rawtext tag.name)
  | "script" => b.insertTextElement tag .script
  | "template" => b.openTemplate tag
  | _ => b.insertVoid tag

/-! ## Start tags -/

/-- The label of the item that a new list item ends. -/
def endedItem? (labels : List String) : List OpenElement → Option String
  | [] => none
  | e :: es =>
    if e.name.isOneOf labels then some e.name.label
    else if isSpecial e.name && !e.name.isOneOf ["address", "div", "p"] then none
    else endedItem? labels es

/-- Opens a list item, after ending the one before it. -/
def openItem (b : Builder) (tag : Tag) (labels : List String) : Builder :=
  let b := b.forbidFrameset
  let b := match endedItem? labels b.stack with
    | some label => (b.closeImpliedExcept label).popThroughLabel label
    | none => b
  b.closeParagraphInScope.insertTag tag

/-- Opens an element of another vocabulary. -/
def openForeign (b : Builder) (space : Namespace) (label : String) (tag : Tag) : Builder :=
  let attributes := Foreign.attributesIn space tag.attributes
  if tag.selfClosing then b.insertClosed ⟨space, label⟩ attributes
  else b.insertElement ⟨space, label⟩ attributes

/-- Forgets and closes an anchor that is still remembered. -/
def closeAnchor (b : Builder) : Builder :=
  match b.recentFormatting.find? (·.name.isHtml "a") with
  | some e => ((b.endFormatting "a").forget e.id).dropOpen e.id
  | none => b

/-- Whether a tag is an input that is not shown. -/
def isHidden (tag : Tag) : Bool :=
  ((attribute? tag.attributes "type").map (·.toLower == "hidden")).getD false

/-- The mode for the content of a selection. -/
def selectionMode (mode : InsertionMode) : InsertionMode :=
  match mode with
  | .inTable => .inSelectInTable
  | .inCaption => .inSelectInTable
  | .inTableBody => .inSelectInTable
  | .inRow => .inSelectInTable
  | .inCell => .inSelectInTable
  | _ => .inSelect

/-- Handles a start tag of ordinary content. -/
def startBody (b : Builder) (tag : Tag) : Builder :=
  match startRule tag.name with
  | .root => b.mergeRoot tag
  | .headContent => b.headElement tag
  | .body =>
    match b.body? with
    | some body =>
      if b.hasOpen "template" then b else b.forbidFrameset.mergeAttributes body.id tag.attributes
    | none => b
  | .frameset =>
    match b.body? with
    | some body =>
      if b.framesetAllowed then
        let b := { b with
          document := Node.remove body.id b.document
          stack := b.stack.drop (b.stack.length - 1) }
        { b.insertTag tag with mode := .inFrameset }
      else b
    | none => b
  | .block => b.closeParagraphInScope.insertTag tag
  | .heading =>
    let b := b.closeParagraphInScope
    (if b.currentIsOneOf headings then b.pop else b).insertTag tag
  | .preformatted =>
    { (b.closeParagraphInScope.insertTag tag).forbidFrameset with skipsNewline := true }
  | .form =>
    if b.hasOpen "template" then b.closeParagraphInScope.insertTag tag
    else if b.form.isSome then b
    else
      let b := b.closeParagraphInScope
      { b.insertTag tag with form := some b.nextId }
  | .listItem => b.openItem tag ["li"]
  | .definition => b.openItem tag ["dd", "dt"]
  | .plaintext => { b.closeParagraphInScope.insertTag tag with content := .plaintext }
  | .button =>
    let b :=
      if b.hasInScope defaultScope "button" then
        (b.closeImplied impliedEnds).popThroughLabel "button"
      else b
    (b.reconstruct.insertTag tag).forbidFrameset
  | .anchor => b.closeAnchor.reconstruct.insertFormatting tag
  | .formatting => b.reconstruct.insertFormatting tag
  | .unbroken =>
    let b := b.reconstruct
    (if b.hasInScope defaultScope "nobr" then (b.endFormatting "nobr").reconstruct
      else b).insertFormatting tag
  | .marked => (b.reconstruct.insertTag tag).pushMarker.forbidFrameset
  | .table =>
    let b := if b.quirky then b else b.closeParagraphInScope
    { (b.insertTag tag).forbidFrameset with mode := .inTable }
  | .void => (b.reconstruct.insertVoid tag).forbidFrameset
  | .input =>
    let b := b.reconstruct.insertVoid tag
    if isHidden tag then b else b.forbidFrameset
  | .resource => b.insertVoid tag
  | .rule => (b.closeParagraphInScope.insertVoid tag).forbidFrameset
  | .image => (b.reconstruct.insertVoid { tag with name := "img" }).forbidFrameset
  | .textarea =>
    { b.forbidFrameset.insertTextElement tag (.rcdata tag.name) with skipsNewline := true }
  | .example =>
    b.closeParagraphInScope.reconstruct.forbidFrameset.insertTextElement tag (.rawtext tag.name)
  | .frame => b.forbidFrameset.insertTextElement tag (.rawtext tag.name)
  | .rawtext => b.insertTextElement tag (.rawtext tag.name)
  | .select =>
    let b := (b.reconstruct.insertTag tag).forbidFrameset
    { b with mode := selectionMode b.mode }
  | .choice => (if b.currentIs "option" then b.pop else b).reconstruct.insertTag tag
  | .rubyBase =>
    (if b.hasInScope defaultScope "ruby" then b.closeImplied impliedEnds else b).insertTag tag
  | .rubyText =>
    (if b.hasInScope defaultScope "ruby" then b.closeImpliedExcept "rtc" else b).insertTag tag
  | .math => b.openForeign .mathml tag.name tag
  | .graphics => b.openForeign .svg tag.name tag
  | .ignored => b
  | .ordinary => b.reconstruct.insertTag tag

/-! ## End tags -/

/-- Closes an element of a label that is in scope. -/
def closeBlock (b : Builder) (label : String) : Builder :=
  if b.hasInScope defaultScope label then (b.closeImplied impliedEnds).popThroughLabel label else b

/-- Closes the current form. -/
def closeForm (b : Builder) : Builder :=
  if b.hasOpen "template" then b.closeBlock "form"
  else
    match b.form with
    | none => b
    | some id =>
      let b := { b with form := none }
      if inScope defaultScope (·.id == id) b.stack then
        (b.closeImplied impliedEnds).dropOpen id
      else b

/-- Handles an end tag of ordinary content. -/
def endBody (b : Builder) (tag : Tag) : Step :=
  match endRule tag.name with
  | .template => .done b.closeTemplate
  | .body =>
    .done (if b.hasInScope defaultScope "body" then { b with mode := .afterBody } else b)
  | .root => if b.hasInScope defaultScope "body" then b.againIn .afterBody else .done b
  | .block => .done (b.closeBlock tag.name)
  | .form => .done b.closeForm
  | .paragraph =>
    .done (if b.hasInScope buttonScope "p" then b else b.insertLabel "p").closeParagraph
  | .item =>
    let boundary := if tag.name == "li" then listItemScope else defaultScope
    .done (if b.hasInScope boundary tag.name then
      (b.closeImpliedExcept tag.name).popThroughLabel tag.name else b)
  | .heading =>
    .done (if inScope defaultScope (·.name.isOneOf headings) b.stack then
      (b.closeImplied impliedEnds).popThrough (·.isOneOf headings) else b)
  | .formatting => .done (b.endFormatting tag.name)
  | .marked =>
    .done (if b.hasInScope defaultScope tag.name then
      ((b.closeImplied impliedEnds).popThroughLabel tag.name).clearToMarker else b)
  | .lineBreak => .done (b.reconstruct.insertVoid { name := "br" }).forbidFrameset
  | .ordinary => .done (b.endOrdinary tag.name)

/-- Ends a template that the text ends in. -/
def endTemplateText (b : Builder) : Step :=
  if b.hasOpen "template" then
    let b := (b.popThroughLabel "template").clearToMarker
    .again { b with templateModes := b.templateModes.drop 1 }.resetMode
  else .done b

/-- Handles a token of ordinary content. -/
def inBody (b : Builder) (token : Token) : Step :=
  match token with
  | .doctype _ => .done b
  | .nul => .done b
  | .comment value => .done (b.insertComment value)
  | .text cs =>
    let b := b.reconstruct
    .done ((if cs.all isAsciiBlank then b else b.forbidFrameset).insertText cs)
  | .startTag tag => .done (b.startBody tag)
  | .endTag tag => b.endBody tag
  | .eof => if b.templateModes.isEmpty then .done b else b.endTemplateText

/-- Handles a token of ordinary content that a table refuses. -/
def inBodyFostered (b : Builder) (token : Token) : Step :=
  match { b with fosters := true }.inBody token with
  | .done b => .done { b with fosters := false }
  | .again b => .again { b with fosters := false }

end Builder

end TemplateImports.Markup
