import TemplateImports.Markup.Construction.Body

/-!
# Insertion modes

What a token does in each part of a document: before and inside the head, in tables and their
parts, in selections, in templates, in sets of frames, in foreign content, and after the end.

Main results:

- Definition `Builder.step` handles a token in the current mode.
- Definition `Builder.isForeign` says which tokens belong to foreign content.
-/

namespace TemplateImports.Markup.Builder

open Text

/-! ## Before the body -/

/-- Whether an end tag is one that the beginning of a document heeds. -/
def isEarlyEnd (tag : Tag) : Bool :=
  ["head", "body", "html", "br"].contains tag.name

/-- Handles a token at the very beginning. -/
def initial (b : Builder) (token : Token) : Step :=
  match token with
  | .comment value => .done (b.insertCommentAtEnd value)
  | .text cs =>
    if cs.all isAsciiBlank then .done b else { b with quirky := true }.againIn .beforeHtml
  | _ => { b with quirky := true }.againIn .beforeHtml

/-- Handles a token before the root element. -/
def beforeHtml (b : Builder) (token : Token) : Step :=
  let otherwise := (b.insertRoot []).againIn .beforeHead
  match token with
  | .comment value => .done (b.insertCommentAtEnd value)
  | .text cs => if cs.all isAsciiBlank then .done b else otherwise
  | .startTag tag =>
    if tag.name == "html" then .done { b.insertRoot tag.attributes with mode := .beforeHead }
    else otherwise
  | .endTag tag => if isEarlyEnd tag then otherwise else .done b
  | _ => otherwise

/-- Remembers the innermost element as the head. -/
def rememberHead (b : Builder) : Builder :=
  { b with head := b.stack.head? }

/-- Handles a token before the head. -/
def beforeHead (b : Builder) (token : Token) : Step :=
  let otherwise := (b.insertLabel "head").rememberHead.againIn .inHead
  match token with
  | .comment value => .done (b.insertComment value)
  | .text cs => if cs.all isAsciiBlank then .done b else otherwise
  | .startTag tag =>
    if tag.name == "html" then .done (b.mergeRoot tag)
    else if tag.name == "head" then .done { (b.insertTag tag).rememberHead with mode := .inHead }
    else otherwise
  | .endTag tag => if isEarlyEnd tag then otherwise else .done b
  | _ => otherwise

/-- Handles a token inside the head. -/
def inHead (b : Builder) (token : Token) : Step :=
  let otherwise := b.pop.againIn .afterHead
  match token with
  | .comment value => .done (b.insertComment value)
  | .text cs => if cs.all isAsciiBlank then .done (b.insertText cs) else otherwise
  | .startTag tag =>
    if tag.name == "html" then .done (b.mergeRoot tag)
    else if headLabels.contains tag.name || tag.name == "noscript" then
      .done (if tag.name == "noscript" then b.insertTextElement tag (.rawtext tag.name)
        else b.headElement tag)
    else if tag.name == "head" then .done b
    else otherwise
  | .endTag tag =>
    if tag.name == "head" then .done { b.pop with mode := .afterHead }
    else if tag.name == "template" then .done b.closeTemplate
    else if isEarlyEnd tag then otherwise
    else .done b
  | _ => otherwise

/-- Handles a token between the head and the body. -/
def afterHead (b : Builder) (token : Token) : Step :=
  let otherwise := (b.insertLabel "body").againIn .inBody
  match token with
  | .comment value => .done (b.insertComment value)
  | .text cs => if cs.all isAsciiBlank then .done (b.insertText cs) else otherwise
  | .startTag tag =>
    if tag.name == "html" then .done (b.mergeRoot tag)
    else if tag.name == "body" then
      .done { (b.insertTag tag).forbidFrameset with mode := .inBody }
    else if tag.name == "frameset" then .done { b.insertTag tag with mode := .inFrameset }
    else if headLabels.contains tag.name then
      match b.head with
      | some head => .done (({ b with stack := head :: b.stack }.headElement tag).dropOpen head.id)
      | none => .done b
    else if tag.name == "head" then .done b
    else otherwise
  | .endTag tag =>
    if tag.name == "template" then .done b.closeTemplate
    else if ["body", "html", "br"].contains tag.name then otherwise
    else .done b
  | _ => otherwise

/-! ## Text -/

/-- Handles a token of text up to an end tag. -/
def inText (b : Builder) (token : Token) : Step :=
  match token with
  | .text cs => .done (b.insertText cs)
  | .eof => { b.pop with content := .data }.againIn b.returnMode
  | .endTag _ => .done { b.pop with content := .data, mode := b.returnMode }
  | _ => .done b

/-! ## Tables -/

/-- Handles a token inside a table. -/
def inTable (b : Builder) (token : Token) : Step :=
  match token with
  | .doctype _ => .done b
  | .comment value => .done (b.insertComment value)
  | .nul => characters
  | .text _ => characters
  | .startTag tag =>
    match tag.name with
    | "caption" =>
      .done { ((b.popInside tableScope).pushMarker.insertTag tag) with mode := .inCaption }
    | "colgroup" => .done { (b.popInside tableScope).insertTag tag with mode := .inColumnGroup }
    | "col" => ((b.popInside tableScope).insertLabel "colgroup").againIn .inColumnGroup
    | "tbody" => body tag
    | "tfoot" => body tag
    | "thead" => body tag
    | "td" => ((b.popInside tableScope).insertLabel "tbody").againIn .inTableBody
    | "th" => ((b.popInside tableScope).insertLabel "tbody").againIn .inTableBody
    | "tr" => ((b.popInside tableScope).insertLabel "tbody").againIn .inTableBody
    | "table" =>
      if b.hasInScope tableScope "table" then .again (b.popThroughLabel "table").resetMode
      else .done b
    | "style" => .done (b.headElement tag)
    | "script" => .done (b.headElement tag)
    | "template" => .done (b.headElement tag)
    | "input" => if isHidden tag then .done (b.insertVoid tag) else b.inBodyFostered token
    | "form" =>
      if b.hasOpen "template" || b.form.isSome then .done b
      else .done { b.insertVoid tag with form := some b.nextId }
    | _ => b.inBodyFostered token
  | .endTag tag =>
    if tag.name == "table" then
      .done (if b.hasInScope tableScope "table" then (b.popThroughLabel "table").resetMode else b)
    else if tag.name == "template" then .done b.closeTemplate
    else if ["body", "caption", "col", "colgroup", "html", "tbody", "td", "tfoot", "th", "thead",
      "tr"].contains tag.name then .done b
    else b.inBodyFostered token
  | .eof => b.inBody token
where
  /-- Collects text of a table, or refuses it. -/
  characters : Step :=
    if b.currentIsOneOf tableStructure then { b with returnMode := b.mode }.againIn .inTableText
    else b.inBodyFostered token
  /-- Opens a part of the table. -/
  body (tag : Tag) : Step :=
    .done { (b.popInside tableScope).insertTag tag with mode := .inTableBody }

/-- Inserts collected text where the table does not refuse it. -/
def fosterText (b : Builder) : List (List Char) → Builder
  | [] => b
  | cs :: css =>
    match b.inBodyFostered (.text cs) with
    | .done b => fosterText b css
    | .again b => fosterText b css

/-- Inserts the collected text of a table: blanks stay, other text moves out. -/
def flushTableText (b : Builder) : Builder :=
  let texts := b.tableText.reverse
  let b := { b with tableText := [] }
  if texts.all (·.all isAsciiBlank) then texts.foldl insertText b else b.fosterText texts

/-- Handles a token while text of a table is collected. -/
def inTableText (b : Builder) (token : Token) : Step :=
  match token with
  | .nul => .done b
  | .text cs => .done { b with tableText := cs :: b.tableText }
  | _ =>
    let b := b.flushTableText
    b.againIn b.returnMode

/-- Handles a token inside a caption. -/
def inCaption (b : Builder) (token : Token) : Step :=
  let closed :=
    ((b.closeImplied impliedEnds).popThroughLabel "caption").clearToMarker
  match token with
  | .startTag tag =>
    if ["caption", "col", "colgroup", "tbody", "td", "tfoot", "th", "thead", "tr"].contains tag.name
    then if b.hasInScope tableScope "caption" then closed.againIn .inTable else .done b
    else b.inBody token
  | .endTag tag =>
    if tag.name == "caption" then
      .done (if b.hasInScope tableScope "caption" then { closed with mode := .inTable } else b)
    else if tag.name == "table" then
      if b.hasInScope tableScope "caption" then closed.againIn .inTable else .done b
    else if ["body", "col", "colgroup", "html", "tbody", "td", "tfoot", "th", "thead",
      "tr"].contains tag.name then .done b
    else b.inBody token
  | _ => b.inBody token

/-- Handles a token inside a group of columns. -/
def inColumnGroup (b : Builder) (token : Token) : Step :=
  let otherwise := if b.currentIs "colgroup" then b.pop.againIn .inTable else .done b
  match token with
  | .comment value => .done (b.insertComment value)
  | .text cs => if cs.all isAsciiBlank then .done (b.insertText cs) else otherwise
  | .startTag tag =>
    if tag.name == "html" then .done (b.mergeRoot tag)
    else if tag.name == "col" then .done (b.insertVoid tag)
    else if tag.name == "template" then .done (b.headElement tag)
    else otherwise
  | .endTag tag =>
    if tag.name == "colgroup" then
      .done (if b.currentIs "colgroup" then { b.pop with mode := .inTable } else b)
    else if tag.name == "col" then .done b
    else if tag.name == "template" then .done b.closeTemplate
    else otherwise
  | .eof => b.inBody token
  | _ => otherwise

/-- Handles a token inside a part of a table. -/
def inTableBody (b : Builder) (token : Token) : Step :=
  let leave :=
    if inScope tableScope (·.name.isOneOf ["table", "tbody", "tfoot"]) b.stack then
      (b.popInside tableBodyContext).pop.againIn .inTable
    else .done b
  match token with
  | .startTag tag =>
    if tag.name == "tr" then
      .done { (b.popInside tableBodyContext).insertTag tag with mode := .inRow }
    else if ["th", "td"].contains tag.name then
      ((b.popInside tableBodyContext).insertLabel "tr").againIn .inRow
    else if ["caption", "col", "colgroup", "tbody", "tfoot", "thead"].contains tag.name then leave
    else b.inTable token
  | .endTag tag =>
    if ["tbody", "tfoot", "thead"].contains tag.name then
      .done (if b.hasInScope tableScope tag.name then
        { (b.popInside tableBodyContext).pop with mode := .inTable } else b)
    else if tag.name == "table" then leave
    else if ["body", "caption", "col", "colgroup", "html", "td", "th", "tr"].contains tag.name then
      .done b
    else b.inTable token
  | _ => b.inTable token

/-- Handles a token inside a row of a table. -/
def inRow (b : Builder) (token : Token) : Step :=
  let closed := (b.popInside tableRowContext).pop
  let leave := if b.hasInScope tableScope "tr" then closed.againIn .inTableBody else .done b
  match token with
  | .startTag tag =>
    if ["th", "td"].contains tag.name then
      .done { ((b.popInside tableRowContext).insertTag tag).pushMarker with mode := .inCell }
    else if ["caption", "col", "colgroup", "tbody", "tfoot", "thead", "tr"].contains tag.name then
      leave
    else b.inTable token
  | .endTag tag =>
    if tag.name == "tr" then
      .done (if b.hasInScope tableScope "tr" then { closed with mode := .inTableBody } else b)
    else if tag.name == "table" then leave
    else if ["tbody", "tfoot", "thead"].contains tag.name then
      if b.hasInScope tableScope tag.name then leave else .done b
    else if ["body", "caption", "col", "colgroup", "html", "td", "th"].contains tag.name then
      .done b
    else b.inTable token
  | _ => b.inTable token

/-- Handles a token inside a cell of a table. -/
def inCell (b : Builder) (token : Token) : Step :=
  let closed :=
    ((b.closeImplied impliedEnds).popThrough (·.isOneOf ["td", "th"])).clearToMarker
  match token with
  | .startTag tag =>
    if ["caption", "col", "colgroup", "tbody", "td", "tfoot", "th", "thead", "tr"].contains tag.name
    then
      if inScope tableScope (·.name.isOneOf ["td", "th"]) b.stack then closed.againIn .inRow
      else .done b
    else b.inBody token
  | .endTag tag =>
    if ["td", "th"].contains tag.name then
      .done (if b.hasInScope tableScope tag.name then
        { ((b.closeImplied impliedEnds).popThroughLabel tag.name).clearToMarker with
          mode := .inRow } else b)
    else if ["body", "caption", "col", "colgroup", "html"].contains tag.name then .done b
    else if ["table", "tbody", "tfoot", "thead", "tr"].contains tag.name then
      if b.hasInScope tableScope tag.name then closed.againIn .inRow else .done b
    else b.inBody token
  | _ => b.inBody token

/-! ## Selections -/

/-- Handles a token inside a selection. -/
def inSelect (b : Builder) (token : Token) : Step :=
  match token with
  | .doctype _ => .done b
  | .nul => .done b
  | .text cs => .done (b.insertText cs)
  | .comment value => .done (b.insertComment value)
  | .startTag tag =>
    let b' := if b.currentIs "option" then b.pop else b
    let b'' := if b'.currentIs "optgroup" then b'.pop else b'
    match tag.name with
    | "html" => .done (b.mergeRoot tag)
    | "option" => .done (b'.insertTag tag)
    | "optgroup" => .done (b''.insertTag tag)
    | "hr" => .done (b''.insertVoid tag)
    | "select" => .done close
    | "input" => leave
    | "keygen" => leave
    | "textarea" => leave
    | "script" => .done (b.headElement tag)
    | "template" => .done (b.headElement tag)
    | _ => .done b
  | .endTag tag =>
    match tag.name with
    | "optgroup" =>
      let b' :=
        if b.currentIs "option" && b.pop.currentIs "optgroup" then b.pop else b
      .done (if b'.currentIs "optgroup" then b'.pop else b')
    | "option" => .done (if b.currentIs "option" then b.pop else b)
    | "select" => .done close
    | "template" => .done b.closeTemplate
    | _ => .done b
  | .eof => b.inBody token
where
  /-- Closes the selection. -/
  close : Builder :=
    if b.hasInScope selectScope "select" then (b.popThroughLabel "select").resetMode else b
  /-- Closes the selection before a token that cannot stand in it. -/
  leave : Step :=
    if b.hasInScope selectScope "select" then .again (b.popThroughLabel "select").resetMode
    else .done b

/-- Handles a token inside a selection that stands in a table. -/
def inSelectInTable (b : Builder) (token : Token) : Step :=
  let parts := ["caption", "table", "tbody", "tfoot", "thead", "tr", "td", "th"]
  match token with
  | .startTag tag =>
    if parts.contains tag.name then .again (b.popThroughLabel "select").resetMode
    else b.inSelect token
  | .endTag tag =>
    if parts.contains tag.name then
      if b.hasInScope tableScope tag.name then .again (b.popThroughLabel "select").resetMode
      else .done b
    else b.inSelect token
  | _ => b.inSelect token

/-! ## Templates -/

/-- Goes on with the content of a template in another mode. -/
def templateIn (b : Builder) (mode : InsertionMode) : Step :=
  { b with templateModes := mode :: b.templateModes.drop 1 }.againIn mode

/-- Handles a token at the beginning of a template. -/
def inTemplate (b : Builder) (token : Token) : Step :=
  match token with
  | .doctype _ => .done b
  | .nul => .done b
  | .text _ => b.inBody token
  | .comment _ => b.inBody token
  | .startTag tag =>
    if headLabels.contains tag.name then .done (b.headElement tag)
    else if ["caption", "colgroup", "tbody", "tfoot", "thead"].contains tag.name then
      b.templateIn .inTable
    else if tag.name == "col" then b.templateIn .inColumnGroup
    else if tag.name == "tr" then b.templateIn .inTableBody
    else if ["td", "th"].contains tag.name then b.templateIn .inRow
    else b.templateIn .inBody
  | .endTag tag => .done (if tag.name == "template" then b.closeTemplate else b)
  | .eof => b.endTemplateText

/-! ## Frames and the end -/

/-- Handles a token after the body. -/
def afterBody (b : Builder) (token : Token) : Step :=
  match token with
  | .comment value => .done (b.insertCommentInRoot value)
  | .text cs => if cs.all isAsciiBlank then b.inBody token else b.againIn .inBody
  | .startTag tag => if tag.name == "html" then .done (b.mergeRoot tag) else b.againIn .inBody
  | .endTag tag =>
    if tag.name == "html" then .done { b with mode := .afterAfterBody } else b.againIn .inBody
  | .eof => .done b
  | _ => b.againIn .inBody

/-- Handles a token inside a set of frames. -/
def inFrameset (b : Builder) (token : Token) : Step :=
  match token with
  | .comment value => .done (b.insertComment value)
  | .text cs => .done (if cs.all isAsciiBlank then b.insertText cs else b)
  | .startTag tag =>
    match tag.name with
    | "html" => .done (b.mergeRoot tag)
    | "frameset" => .done (b.insertTag tag)
    | "frame" => .done (b.insertVoid tag)
    | "noframes" => .done (b.headElement tag)
    | _ => .done b
  | .endTag tag =>
    if tag.name == "frameset" && b.stack.length != 1 then
      .done (if b.pop.currentIs "frameset" then b.pop else { b.pop with mode := .afterFrameset })
    else .done b
  | _ => .done b

/-- Handles a token after a set of frames. -/
def afterFrameset (b : Builder) (token : Token) : Step :=
  match token with
  | .comment value => .done (b.insertComment value)
  | .text cs => .done (if cs.all isAsciiBlank then b.insertText cs else b)
  | .startTag tag =>
    if tag.name == "html" then .done (b.mergeRoot tag)
    else .done (if tag.name == "noframes" then b.headElement tag else b)
  | .endTag tag => .done (if tag.name == "html" then { b with mode := .afterAfterFrameset } else b)
  | _ => .done b

/-- Handles a token after the end of a document with a body. -/
def afterAfterBody (b : Builder) (token : Token) : Step :=
  match token with
  | .comment value => .done (b.insertCommentAtEnd value)
  | .text cs => if cs.all isAsciiBlank then b.inBody token else b.againIn .inBody
  | .startTag tag => if tag.name == "html" then .done (b.mergeRoot tag) else b.againIn .inBody
  | .eof => .done b
  | _ => b.againIn .inBody

/-- Handles a token after the end of a document with frames. -/
def afterAfterFrameset (b : Builder) (token : Token) : Step :=
  match token with
  | .comment value => .done (b.insertCommentAtEnd value)
  | .text cs => if cs.all isAsciiBlank then b.inBody token else .done b
  | .startTag tag =>
    if tag.name == "html" then .done (b.mergeRoot tag)
    else .done (if tag.name == "noframes" then b.headElement tag else b)
  | _ => .done b

/-! ## Foreign content -/

/-- Whether an element of mathematics holds ordinary markup by its own declaration. -/
def declaresMarkup (e : OpenElement) : Bool :=
  e.name == ⟨.mathml, "annotation-xml"⟩ &&
    match attribute? e.attributes "encoding" with
    | some encoding => ["text/html", "application/xhtml+xml"].contains encoding.toLower
    | none => false

/-- Whether a token belongs to foreign content. -/
def isForeign (b : Builder) (token : Token) : Bool :=
  match b.stack with
  | [] => false
  | e :: _ =>
    e.name.space != .html &&
      match token with
      | .eof => false
      | .startTag tag =>
        !(isMathTextPoint e.name && !(["mglyph", "malignmark"].contains tag.name)) &&
          !isGraphicsMarkupPoint e.name &&
          !(e.name == ⟨.mathml, "annotation-xml"⟩ && (tag.name == "svg" || declaresMarkup e))
      | .text _ => !isMathTextPoint e.name && !isGraphicsMarkupPoint e.name && !declaresMarkup e
      | .nul => !isMathTextPoint e.name && !isGraphicsMarkupPoint e.name && !declaresMarkup e
      | _ => true

/-- Labels of ordinary elements that end foreign content. -/
def breakoutLabels : List String :=
  ["b", "big", "blockquote", "body", "br", "center", "code", "dd", "div", "dl", "dt", "em",
   "embed", "h1", "h2", "h3", "h4", "h5", "h6", "head", "hr", "i", "img", "li", "listing", "menu",
   "meta", "nobr", "ol", "p", "pre", "ruby", "s", "small", "span", "strong", "strike", "sub", "sup",
   "table", "tt", "u", "ul", "var"]

/-- Whether a start tag ends foreign content. -/
def breaksOut (tag : Tag) : Bool :=
  breakoutLabels.contains tag.name ||
    (tag.name == "font" && tag.attributes.any fun a => ["color", "face", "size"].contains a.name)

/-- Closes foreign content up to a point where ordinary markup may stand. -/
def leaveForeign (b : Builder) : Builder :=
  b.pop.popInside fun name =>
    name.space == .html || isMathTextPoint name || isGraphicsMarkupPoint name

/-- What an end tag does inside foreign content. -/
inductive ForeignEnd where
  /-- It closes elements; these stay open. -/
  | closes (stack : List OpenElement)
  /-- It is handled as ordinary markup. -/
  | ordinary
  /-- It does nothing. -/
  | nothing
deriving Repr, DecidableEq

/-- What an end tag does inside foreign content, from the innermost element outwards. -/
def endForeign (label : String) (innermost : Bool) : List OpenElement → ForeignEnd
  | [] => .nothing
  | [_] => .nothing
  | e :: es =>
    if !innermost && e.name.space == .html then .ordinary
    else if e.name.label.toLower == label then .closes es
    else endForeign label false es

end TemplateImports.Markup.Builder
