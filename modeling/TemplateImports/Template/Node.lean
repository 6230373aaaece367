import TemplateImports.Markup.Construction
import TemplateImports.Template.Directive
import TemplateImports.Template.Preparation

/-!
# Template trees

A template is a forest of elements and texts.  Reading one prepares the text, parses it as markup
and turns the document into a forest: the wrappers that markup adds around a fragment vanish unless
the template wrote them itself, the recorded spellings replace the names, and comments and blank
texts are dropped.

Main results:

- Definition `ofDocument` turns a document into a forest, and `parse` reads a template.
- Theorem `ofDocument_append` says that documents are turned node by node.
-/

namespace TemplateImports.Template

open Markup (Attribute)
open Text

/-- A node of a template. -/
inductive Node where
  | element (tag : String) (attributes : List Attribute) (directives : List Directive)
      (children : List Node)
  | text (value : String)
deriving Repr

namespace Node

/-! ## Recorded spellings -/

/-- The spellings that the marker attributes of an element record, with the lower-case names they
stand for.  The latest record of a name comes first. -/
def spellings (attributes : List Attribute) : List (String × String) :=
  let recorded := attributes.filter (·.name == caseMarker)
  let names := recorded.flatMap fun a => splitBlank a.value.toList
  (names.map fun n => (String.ofList (n.map Char.toLower), String.ofList n)).reverse

/-- The tag of an element, as the template wrote it. -/
def originalTag (label : String) (attributes : List Attribute) : String :=
  ((attributes.filter (·.name == nameMarker)).getLast?.map (·.value)).getD label

/-- The attributes of an element, as the template wrote them. -/
def originalAttributes (attributes : List Attribute) : List Attribute :=
  let plain := attributes.filter fun a => a.name != nameMarker && a.name != caseMarker
  plain.map fun a => { a with name := ((spellings attributes).lookup a.name).getD a.name }

/-- An element with the directives that its attributes stand for. -/
def ofAttributes (tag : String) (attributes : List Attribute) (children : List Node) : Node :=
  .element tag attributes (attributes.filterMap fun a => Directive.parse a.name a.value) children

/-! ## Documents as forests -/

/-- Whether an element only wraps the content of a document. -/
def isWrapper (label : String) : Bool :=
  ["html", "head", "body"].contains label

/-- Whether a text holds blanks only. -/
def isBlankText (value : String) : Bool :=
  allBlank value.toList

mutual

/-- The forest that a node of a document stands for. -/
def ofNode (keepsWrappers : Bool) : Markup.Node → List Node
  | .element _ name attributes children contents =>
    if isWrapper name.label && !keepsWrappers then ofDocument keepsWrappers children
    else
      [ofAttributes (originalTag name.label attributes) (originalAttributes attributes)
        (ofDocument keepsWrappers children ++ ofDocument keepsWrappers contents)]
  | .text value => if isBlankText value then [] else [.text value]
  | .comment _ => []
  | .doctype _ => []

/-- The forest that a document stands for. -/
def ofDocument (keepsWrappers : Bool) : List Markup.Node → List Node
  | [] => []
  | node :: nodes => ofNode keepsWrappers node ++ ofDocument keepsWrappers nodes

end

/-- Documents are turned into forests node by node. -/
theorem ofDocument_append (keepsWrappers : Bool) (first second : List Markup.Node) :
    ofDocument keepsWrappers (first ++ second) =
      ofDocument keepsWrappers first ++ ofDocument keepsWrappers second := by
  induction first with
  | nil => simp [ofDocument]
  | cons node nodes ih => simp [ofDocument, ih]

end Node

/-! ## Reading -/

/-- Whether a template writes its own wrappers. -/
def writesWrappers (template : List Char) : Bool :=
  let lowered := template.map Char.toLower
  hasInfix "<html".toList lowered || hasInfix "<body".toList lowered

/-- The forest that a template stands for. -/
def parse (template : String) : List Node :=
  Node.ofDocument (writesWrappers template.toList)
    (Markup.Document.parse (prepare template.toList))

end TemplateImports.Template
