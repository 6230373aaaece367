import TemplateImports.Template.Node

/-!
# Walking through templates

A walk meets the nodes of a template depth first, in document order, and knows how deep it is.  It
may pass over the children of some elements.

Main results:

- Definition `walk` lists what a walk meets, and `count` counts the nodes of a forest.
- Theorem `length_walk` says that a walk without pruning meets every node once.
-/

namespace TemplateImports.Template

open Markup (Attribute)

/-- What a walk meets. -/
inductive Event where
  | element (depth : Nat) (tag : String) (attributes : List Attribute)
  | text (depth : Nat) (value : String)
deriving Repr, DecidableEq

namespace Node

mutual

/-- What a walk meets at a node; it does not enter the elements whose tags are to be pruned. -/
def visit (pruned : String → Bool) (depth : Nat) : Node → List Event
  | .element tag attributes _ children =>
    .element depth tag attributes ::
      (if pruned tag then [] else walk pruned (depth + 1) children)
  | .text value => [.text depth value]

/-- What a walk meets in a forest. -/
def walk (pruned : String → Bool) (depth : Nat) : List Node → List Event
  | [] => []
  | node :: nodes => node.visit pruned depth ++ walk pruned depth nodes

end

mutual

/-- The number of nodes of a tree. -/
def size : Node → Nat
  | .element _ _ _ children => count children + 1
  | .text _ => 1

/-- The number of nodes of a forest. -/
def count : List Node → Nat
  | [] => 0
  | node :: nodes => node.size + count nodes

end

mutual

/-- A walk without pruning meets every node of a tree once. -/
theorem length_visit (depth : Nat) (node : Node) :
    (node.visit (fun _ => false) depth).length = node.size := by
  cases node with
  | element tag attributes directives children =>
    simp [visit, size, length_walk (depth + 1) children]
  | text value => rfl

/-- A walk without pruning meets every node of a forest once. -/
theorem length_walk (depth : Nat) (nodes : List Node) :
    (walk (fun _ => false) depth nodes).length = count nodes := by
  cases nodes with
  | nil => rfl
  | cons node nodes => simp [walk, count, length_visit depth node, length_walk depth nodes]

end

end Node

end TemplateImports.Template
