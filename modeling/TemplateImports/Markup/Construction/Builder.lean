import TemplateImports.Markup.Document
import TemplateImports.Markup.Token

/-!
# The state of a construction

A document is constructed token by token.  Besides the tree built so far the construction remembers
the elements that are still open, innermost first, and the formatting elements that have to be
opened again when a block ends them early.  This module holds that state and the operations that
the insertion modes share: scope checks, closing elements, choosing a place, and inserting nodes.

Main results:

- Structure `Builder` is the state; definition `Builder.insertElement` opens an element.
- Definition `Builder.place` is the insertion place, which moves out of tables when asked to.
- Theorem `inScope_cons_self` says that the innermost element is always in scope.
-/

namespace TemplateImports.Markup

open Text

/-! ## State -/

/-- An element that is still open. -/
structure OpenElement where
  id : Nat
  name : ElementName
  attributes : List Attribute
deriving Repr, DecidableEq

/-- An entry of the list of active formatting elements. -/
inductive Formatting where
  | marker
  | element (e : OpenElement)
deriving Repr, DecidableEq

/-- The part of the document that is being constructed. -/
inductive InsertionMode where
  | initial
  | beforeHtml
  | beforeHead
  | inHead
  | afterHead
  | inBody
  | text
  | inTable
  | inTableText
  | inCaption
  | inColumnGroup
  | inTableBody
  | inRow
  | inCell
  | inSelect
  | inSelectInTable
  | inTemplate
  | afterBody
  | inFrameset
  | afterFrameset
  | afterAfterBody
  | afterAfterFrameset
deriving Repr, DecidableEq

/-- The state of a construction. -/
structure Builder where
  mode : InsertionMode := .initial
  /-- The mode to return to after text. -/
  returnMode : InsertionMode := .inBody
  templateModes : List InsertionMode := []
  content : ContentMode := .data
  document : Document := []
  /-- Open elements, innermost first. -/
  stack : List OpenElement := []
  /-- Active formatting elements, latest first. -/
  formatting : List Formatting := []
  /-- Text met inside a table, latest first. -/
  tableText : List (List Char) := []
  head : Option OpenElement := none
  form : Option Nat := none
  quirky : Bool := false
  framesetAllowed : Bool := true
  skipsNewline : Bool := false
  fosters : Bool := false
  nextId : Nat := 0
deriving Repr

/-- The outcome of one step: the token is used up, or it is to be looked at again. -/
inductive Step where
  | done (b : Builder)
  | again (b : Builder)
deriving Repr

namespace Builder

/-! ## Open elements -/

/-- Whether the innermost element is an ordinary one with the given label. -/
def currentIs (b : Builder) (label : String) : Bool :=
  (b.stack.head?.map (·.name.isHtml label)).getD false

/-- Whether the innermost element is an ordinary one with a label of the list. -/
def currentIsOneOf (b : Builder) (labels : List String) : Bool :=
  (b.stack.head?.map (·.name.isOneOf labels)).getD false

/-- Whether an ordinary element with the given label is open. -/
def hasOpen (b : Builder) (label : String) : Bool :=
  b.stack.any (·.name.isHtml label)

/-- Whether an element that passes a test is open within a boundary. -/
def inScope (boundary : ElementName → Bool) (test : OpenElement → Bool) : List OpenElement → Bool
  | [] => false
  | e :: es => test e || (!boundary e.name && inScope boundary test es)

/-- Whether an ordinary element with the given label is open within a boundary. -/
def hasInScope (b : Builder) (boundary : ElementName → Bool) (label : String) : Bool :=
  inScope boundary (·.name.isHtml label) b.stack

/-- The innermost element is in scope whenever it passes the test. -/
theorem inScope_cons_self {boundary : ElementName → Bool} {test : OpenElement → Bool}
    {e : OpenElement} {es : List OpenElement} (h : test e = true) :
    inScope boundary test (e :: es) = true := by
  simp [inScope, h]

/-- Closes the innermost element. -/
def pop (b : Builder) : Builder :=
  { b with stack := b.stack.drop 1 }

/-- Closes the elements up to and including the first that passes a test. -/
def popThrough (b : Builder) (test : ElementName → Bool) : Builder :=
  { b with stack := (b.stack.dropWhile (!test ·.name)).drop 1 }

/-- Closes the elements inside the first that passes a test. -/
def popInside (b : Builder) (test : ElementName → Bool) : Builder :=
  { b with stack := b.stack.dropWhile (!test ·.name) }

/-- Closes the elements up to and including the first with the given label. -/
def popThroughLabel (b : Builder) (label : String) : Builder :=
  b.popThrough (·.isHtml label)

/-- Closes the innermost elements whose end tags may be left out. -/
def closeImplied (b : Builder) (labels : List String) : Builder :=
  { b with stack := b.stack.dropWhile (·.name.isOneOf labels) }

/-- Closes the innermost elements whose end tags may be left out, other than one label. -/
def closeImpliedExcept (b : Builder) (label : String) : Builder :=
  b.closeImplied (impliedEnds.filter (· != label))

/-- Takes an element off the open ones, wherever it stands. -/
def dropOpen (b : Builder) (id : Nat) : Builder :=
  { b with stack := b.stack.filter (·.id != id) }

/-- Closes a paragraph. -/
def closeParagraph (b : Builder) : Builder :=
  (b.closeImpliedExcept "p").popThroughLabel "p"

/-- Closes a paragraph if one is open within the boundary of buttons. -/
def closeParagraphInScope (b : Builder) : Builder :=
  if b.hasInScope buttonScope "p" then b.closeParagraph else b

/-- The root element. -/
def root? (b : Builder) : Option OpenElement :=
  b.stack.getLast?

/-- The body element, if it is the one inside the root. -/
def body? (b : Builder) : Option OpenElement :=
  b.stack.dropLast.getLast?.filter (·.name.isHtml "body")

/-! ## Places -/

/-- The place for new content of an element. -/
def placeInside (e : OpenElement) : Place :=
  if e.name.isHtml "template" then .lastInContents e.id else .lastIn e.id

/-- The place for content that a table refuses: before the table, inside the template around it, or
else at the end of the root. -/
def fosterPlace : List OpenElement → Place
  | [] => .lastIn 0
  | [root] => .lastIn root.id
  | e :: es =>
    if e.name.isHtml "template" then .lastInContents e.id
    else if e.name.isHtml "table" then .before e.id
    else fosterPlace es

/-- The place for new content when it is meant for an element. -/
def placeFor (b : Builder) (target : OpenElement) : Place :=
  if b.fosters && target.name.isOneOf tableStructure then fosterPlace b.stack
  else placeInside target

/-- The place for new content. -/
def place (b : Builder) : Place :=
  match b.stack with
  | [] => .lastIn 0
  | e :: _ => b.placeFor e

/-! ## Insertions -/

/-- Inserts text. -/
def insertText (b : Builder) (cs : List Char) : Builder :=
  { b with document := Node.editAt b.place (Node.appendText (String.ofList cs)) b.document }

/-- Inserts a comment. -/
def insertComment (b : Builder) (value : String) : Builder :=
  { b with document := Node.editAt b.place (Node.append (.comment value)) b.document }

/-- Inserts a comment after everything else. -/
def insertCommentAtEnd (b : Builder) (value : String) : Builder :=
  { b with document := b.document ++ [.comment value] }

/-- Inserts a comment at the end of the root element. -/
def insertCommentInRoot (b : Builder) (value : String) : Builder :=
  match b.root? with
  | some root =>
    { b with
      document := Node.editAt (.lastIn root.id) (Node.append (.comment value)) b.document }
  | none => b

/-- Inserts an element without opening it. -/
def insertClosed (b : Builder) (name : ElementName) (attributes : List Attribute) : Builder :=
  { b with
    document := Node.editAt b.place (Node.append (.element b.nextId name attributes [] []))
      b.document
    nextId := b.nextId + 1 }

/-- Inserts an element and opens it. -/
def insertElement (b : Builder) (name : ElementName) (attributes : List Attribute) : Builder :=
  { b.insertClosed name attributes with stack := ⟨b.nextId, name, attributes⟩ :: b.stack }

/-- Inserts the ordinary element of a start tag and opens it. -/
def insertTag (b : Builder) (tag : Tag) : Builder :=
  b.insertElement (.html tag.name) tag.attributes

/-- Inserts an ordinary element without attributes and opens it. -/
def insertLabel (b : Builder) (label : String) : Builder :=
  b.insertElement (.html label) []

/-- Inserts the ordinary element of a start tag, which has no content. -/
def insertVoid (b : Builder) (tag : Tag) : Builder :=
  b.insertClosed (.html tag.name) tag.attributes

/-- Starts the document with its root element. -/
def insertRoot (b : Builder) (attributes : List Attribute) : Builder :=
  { b with
    document := b.document ++ [.element b.nextId (.html "html") attributes [] []]
    stack := ⟨b.nextId, .html "html", attributes⟩ :: b.stack
    nextId := b.nextId + 1 }

/-- Adds the attributes of a repeated tag to the element that is already there. -/
def mergeAttributes (b : Builder) (id : Nat) (attributes : List Attribute) : Builder :=
  { b with document := Node.addAttributes id attributes b.document }

/-- Adds the attributes of a repeated root tag, outside templates. -/
def mergeRoot (b : Builder) (tag : Tag) : Builder :=
  match b.root? with
  | some root => if b.hasOpen "template" then b else b.mergeAttributes root.id tag.attributes
  | none => b

/-- Continues with text up to an end tag. -/
def readText (b : Builder) (content : ContentMode) : Builder :=
  { b with content, returnMode := b.mode, mode := .text }

/-- Inserts the element of a start tag whose content is text. -/
def insertTextElement (b : Builder) (tag : Tag) (content : ContentMode) : Builder :=
  (b.insertTag tag).readText content

/-- Forbids the document to become a set of frames. -/
def forbidFrameset (b : Builder) : Builder :=
  { b with framesetAllowed := false }

/-- Looks at the token again in another mode. -/
def againIn (b : Builder) (mode : InsertionMode) : Step :=
  .again { b with mode }

/-! ## Returning to a mode -/

/-- The mode for the content of a selection, from the elements around it. -/
def selectMode : List OpenElement → InsertionMode
  | [] => .inSelect
  | e :: es =>
    if e.name.isHtml "template" then .inSelect
    else if e.name.isHtml "table" then .inSelectInTable
    else selectMode es

/-- The mode that the innermost telling element asks for. -/
def modeOf (templateMode : InsertionMode) (hasHead : Bool) : List OpenElement → InsertionMode
  | [] => .inBody
  | e :: es =>
    if e.name.space != .html then modeOf templateMode hasHead es
    else
      match e.name.label with
      | "select" => selectMode es
      | "td" => if es.isEmpty then .inBody else .inCell
      | "th" => if es.isEmpty then .inBody else .inCell
      | "tr" => .inRow
      | "tbody" => .inTableBody
      | "thead" => .inTableBody
      | "tfoot" => .inTableBody
      | "caption" => .inCaption
      | "colgroup" => .inColumnGroup
      | "table" => .inTable
      | "template" => templateMode
      | "head" => if es.isEmpty then .inBody else .inHead
      | "body" => .inBody
      | "frameset" => .inFrameset
      | "html" => if hasHead then .afterHead else .beforeHead
      | _ => modeOf templateMode hasHead es

/-- The mode that the open elements ask for. -/
def properMode (b : Builder) : InsertionMode :=
  modeOf (b.templateModes.head?.getD .inBody) b.head.isSome b.stack

/-- Returns to the mode that the open elements ask for. -/
def resetMode (b : Builder) : Builder :=
  { b with mode := b.properMode }

end Builder

end TemplateImports.Markup
