import TemplateImports.Markup.Doctype
import TemplateImports.Markup.Element

/-!
# Document trees

The tree that markup stands for.  Every element carries an identity, the number under which it was
created, so that the construction can return to an element that is not the last one: text that a
table refuses moves before the table, and misnested formatting is rebuilt inside a block.  A
template element keeps its content apart from its children.

Main results:

- Definition `editAt` edits the list of siblings at an insertion place; appending an element and
  appending text are such edits.
- Definitions `remove` and `find?` take a subtree out of a document.
- Theorem `appendText_concat_text` says that text merges with a text before it.
-/

namespace TemplateImports.Markup

/-- A node of a document. -/
inductive Node where
  | element (id : Nat) (name : ElementName) (attributes : List Attribute)
      (children contents : List Node)
  | text (value : String)
  | comment (value : String)
  | doctype (declaration : Doctype)
deriving Repr

/-- The nodes of a document or of a part of it. -/
abbrev Document := List Node

/-- Where a new node goes. -/
inductive Place where
  /-- After the last child of an element. -/
  | lastIn (id : Nat)
  /-- After the last node of a template's content. -/
  | lastInContents (id : Nat)
  /-- Before an element, among its siblings. -/
  | before (id : Nat)
deriving Repr, DecidableEq

namespace Node

/-! ## Identity -/

/-- Whether a node is the element with the given identity. -/
def isElement (id : Nat) : Node → Bool
  | .element i .. => i == id
  | _ => false

/-! ## Edits of sibling lists -/

/-- Adds a node at the end. -/
def append (node : Node) (siblings : List Node) : List Node :=
  siblings ++ [node]

/-- Adds text at the end, joining it to a text that stands there. -/
def appendText (value : String) : List Node → List Node
  | [] => [.text value]
  | [.text last] => [.text (last ++ value)]
  | node :: siblings => node :: appendText value siblings

/-- Text merges with a text before it. -/
theorem appendText_concat_text (value last : String) (siblings : List Node) :
    appendText value (siblings ++ [.text last]) = siblings ++ [.text (last ++ value)] := by
  induction siblings with
  | nil => rfl
  | cons node siblings ih =>
    cases siblings with
    | nil => cases node <;> simp [appendText]
    | cons next siblings =>
      simp only [List.cons_append] at ih ⊢
      cases node <;> simp [appendText, ih]

/-! ## Edits of documents -/

/-- Adds the attributes whose names are missing. -/
def addMissing (attributes extra : List Attribute) : List Attribute :=
  attributes ++ extra.filter fun a => !attributes.any (·.name == a.name)

mutual

/-- Edits the siblings at a place below a node. -/
def editNode (place : Place) (edit : List Node → List Node) : Node → Node
  | .element id name attributes children contents =>
    let children := editAt place edit children
    let contents := editAt place edit contents
    .element id name attributes
      (if place == .lastIn id then edit children else children)
      (if place == .lastInContents id then edit contents else contents)
  | node => node

/-- Edits the siblings at a place in a document. -/
def editAt (place : Place) (edit : List Node → List Node) : List Node → List Node
  | [] => []
  | node :: siblings =>
    match place with
    | .before id =>
      if node.isElement id then edit [] ++ node :: siblings
      else if siblings.any (·.isElement id) then
        edit (node :: siblings.takeWhile (!·.isElement id)) ++
          siblings.dropWhile (!·.isElement id)
      else editNode place edit node :: editAt place edit siblings
    | _ => editNode place edit node :: editAt place edit siblings

end

mutual

/-- The first element with an identity at or below a node. -/
def findIn? (target : Nat) : Node → Option Node
  | .element id name attributes children contents =>
    if id == target then some (.element id name attributes children contents)
    else (find? target children).or (find? target contents)
  | _ => none

/-- The first element with an identity in a document. -/
def find? (target : Nat) : List Node → Option Node
  | [] => none
  | node :: siblings => (findIn? target node).or (find? target siblings)

end

mutual

/-- Removes an element from below a node. -/
def removeIn (target : Nat) : Node → Node
  | .element id name attributes children contents =>
    .element id name attributes (remove target children) (remove target contents)
  | node => node

/-- Removes an element from a document. -/
def remove (target : Nat) : List Node → List Node
  | [] => []
  | node :: siblings =>
    if node.isElement target then remove target siblings
    else removeIn target node :: remove target siblings

end

mutual

/-- Adds missing attributes to an element at or below a node. -/
def addAttributesIn (target : Nat) (extra : List Attribute) : Node → Node
  | .element id name attributes children contents =>
    .element id name (if id == target then addMissing attributes extra else attributes)
      (addAttributes target extra children) (addAttributes target extra contents)
  | node => node

/-- Adds missing attributes to an element of a document. -/
def addAttributes (target : Nat) (extra : List Attribute) : List Node → List Node
  | [] => []
  | node :: siblings => addAttributesIn target extra node :: addAttributes target extra siblings

end

/-- Puts a new element between an element and its children. -/
def wrapChildren (id : Nat) (name : ElementName) (attributes : List Attribute) : Node → Node
  | .element i n as children contents =>
    .element i n as [.element id name attributes children []] contents
  | node => node

end Node

end TemplateImports.Markup
