import TemplateImports.Template.Usage
import TemplateImports.Template.Walk

/-!
# Nodes in document order

A forest lists its nodes in document order: an element comes before what stands inside it, and what
stands inside an element comes before what follows the element.  Every node is listed with the tags
of the elements around it, so the list knows how deep the node stands and which elements a walk has
to enter to meet it.

Walks are described by these lists.  A walk meets the listed nodes, each at the depth that the
elements around it make, and pruning takes away just the nodes that stand inside a pruned element.
What a full walk meets determines the forest, up to attributes and directives: an element holds the
later nodes that are deeper than itself, up to the next one that is not.

The names that a forest uses are collected along the same lists, from one element after the other, so
that what is collected is told by a full walk.

Main results:

- Definition `Node.places` lists the nodes of a forest with the elements around them.
- Theorems `walk_eq_map_event` and `walk_eq_map_filter` say what walks meet.
- Definition `rebuild` makes a forest of what a walk has met; theorem `rebuild_walk` says that it is
  the forest that was walked through, without attributes and directives.
- Theorem `walk_faithful` puts this together.
- Theorem `Usage.collect_eq_foldl` says that names are collected from one element after the other,
  and theorem `Usage.collect_eq_foldl_walk` that a walk meets what they are collected from.
-/

namespace TemplateImports.Template

open Markup (Attribute)

/-! ## Places -/

/-- What an element is, apart from what stands inside it. -/
structure Element where
  tag : String
  attributes : List Attribute
  directives : List Directive
deriving Repr, DecidableEq

/-- A node in a forest, with the tags of the elements around it, innermost first. -/
structure Placed where
  around : List String
  node : Node
deriving Repr

namespace Node

mutual

/-- The nodes of a tree in document order, inside given elements. -/
def placesIn (around : List String) : Node → List Placed
  | .element tag attributes directives children =>
    ⟨around, .element tag attributes directives children⟩ :: places (tag :: around) children
  | .text value => [⟨around, .text value⟩]

/-- The nodes of a forest in document order, inside given elements. -/
def places (around : List String) : List Node → List Placed
  | [] => []
  | node :: nodes => node.placesIn around ++ places around nodes

end

mutual

/-- The elements of a tree in document order. -/
def elementsIn : Node → List Element
  | .element tag attributes directives children =>
    ⟨tag, attributes, directives⟩ :: elements children
  | .text _ => []

/-- The elements of a forest in document order. -/
def elements : List Node → List Element
  | [] => []
  | node :: nodes => node.elementsIn ++ elements nodes

end

theorem places_append (around : List String) (first second : List Node) :
    places around (first ++ second) = places around first ++ places around second := by
  induction first with
  | nil => rfl
  | cons node nodes ih => simp [places, ih]

theorem elements_append (first second : List Node) :
    elements (first ++ second) = elements first ++ elements second := by
  induction first with
  | nil => rfl
  | cons node nodes ih => simp [elements, ih]

end Node

/-! ## What a walk meets -/

namespace Placed

/-- What a walk meets where a node stands. -/
def event (p : Placed) : Event :=
  match p.node with
  | .element tag attributes _ _ => .element p.around.length tag attributes
  | .text value => .text p.around.length value

/-- Whether a walk enters all elements around a node. -/
def isReached (pruned : String → Bool) (p : Placed) : Bool :=
  p.around.all (!pruned ·)

/-- The element that a node is, unless it is a text. -/
def element? (p : Placed) : Option Element :=
  match p.node with
  | .element tag attributes directives _ => some ⟨tag, attributes, directives⟩
  | .text _ => none

end Placed

namespace Node

variable {pruned : String → Bool}

/-! ### Reached nodes -/

/-- A node inside elements that are not pruned is reached. -/
theorem isReached_of_enclosed {around : List String} (h : around.all (!pruned ·) = true)
    (node : Node) : Placed.isReached pruned ⟨around, node⟩ = true :=
  h

/-- A node inside a pruned element is not reached. -/
theorem not_isReached_of_enclosed {around : List String} (h : around.any pruned = true)
    (node : Node) : ¬ Placed.isReached pruned ⟨around, node⟩ = true := by
  simpa [Placed.isReached] using h

mutual

/-- Below a pruned element nothing is reached. -/
theorem filter_placesIn_of_pruned {around : List String} (h : around.any pruned = true)
    (node : Node) : (node.placesIn around).filter (·.isReached pruned) = [] := by
  cases node with
  | element tag attributes directives children =>
    have hinner : (tag :: around).any pruned = true := by simp [h]
    rw [placesIn, List.filter_cons_of_neg (not_isReached_of_enclosed h _),
      filter_places_of_pruned hinner children]
  | text value =>
    rw [placesIn, List.filter_cons_of_neg (not_isReached_of_enclosed h _), List.filter_nil]

/-- Nothing inside a pruned element is reached. -/
theorem filter_places_of_pruned {around : List String} (h : around.any pruned = true)
    (nodes : List Node) : (places around nodes).filter (·.isReached pruned) = [] := by
  cases nodes with
  | nil => rfl
  | cons node nodes =>
    rw [places, List.filter_append, filter_placesIn_of_pruned h node,
      filter_places_of_pruned h nodes, List.append_nil]

end

mutual

/-- A visit meets the reached places of a node in their order. -/
theorem visit_eq_map_filter {around : List String} (h : around.all (!pruned ·) = true)
    (node : Node) :
    node.visit pruned around.length =
      ((node.placesIn around).filter (·.isReached pruned)).map Placed.event := by
  cases node with
  | element tag attributes directives children =>
    rw [visit, placesIn, List.filter_cons_of_pos (isReached_of_enclosed h _), List.map_cons]
    by_cases htag : pruned tag = true
    · rw [if_pos htag, filter_places_of_pruned (by simp [htag]), List.map_nil]
      rfl
    · have hinner : (tag :: around).all (!pruned ·) = true := by simp_all
      rw [if_neg htag, ← walk_eq_map_filter hinner children]
      rfl
  | text value =>
    rw [visit, placesIn, List.filter_cons_of_pos (isReached_of_enclosed h _), List.filter_nil]
    rfl

/-- A walk meets the nodes that are reached, in document order. -/
theorem walk_eq_map_filter {around : List String} (h : around.all (!pruned ·) = true)
    (nodes : List Node) :
    walk pruned around.length nodes =
      ((places around nodes).filter (·.isReached pruned)).map Placed.event := by
  cases nodes with
  | nil => rfl
  | cons node nodes =>
    rw [walk, places, List.filter_append, List.map_append, visit_eq_map_filter h node,
      walk_eq_map_filter h nodes]

end

/-- A walk without pruning meets all nodes in document order. -/
theorem walk_eq_map_event (around : List String) (nodes : List Node) :
    walk (fun _ => false) around.length nodes = (places around nodes).map Placed.event := by
  have hall : (places around nodes).filter (·.isReached fun _ => false) = places around nodes :=
    List.filter_eq_self.2 fun p _ => by simp [Placed.isReached]
  rw [walk_eq_map_filter (by simp), hall]

mutual

/-- The elements of a node are those at its places. -/
theorem filterMap_placesIn (around : List String) (node : Node) :
    (node.placesIn around).filterMap Placed.element? = node.elementsIn := by
  cases node with
  | element tag attributes directives children =>
    rw [placesIn, elementsIn, ← filterMap_places (tag :: around) children]
    rfl
  | text value => rfl

/-- The elements of a forest are those among its nodes, in the same order. -/
theorem filterMap_places (around : List String) (nodes : List Node) :
    (places around nodes).filterMap Placed.element? = elements nodes := by
  cases nodes with
  | nil => rfl
  | cons node nodes =>
    rw [places, elements, List.filterMap_append, filterMap_placesIn around node,
      filterMap_places around nodes]

end

/-! ### Forests without attributes -/

mutual

/-- A tree without its attributes and directives. -/
def bareOf : Node → Node
  | .element tag _ _ children => .element tag [] [] (bare children)
  | .text value => .text value

/-- A forest without its attributes and directives. -/
def bare : List Node → List Node
  | [] => []
  | node :: nodes => node.bareOf :: bare nodes

end

end Node

/-- What a walk meets, without attributes. -/
def Event.bare : Event → Event
  | .element depth tag _ => .element depth tag []
  | .text depth value => .text depth value

namespace Node

variable {pruned : String → Bool}

mutual

/-- A visit without attributes is a visit of the node without attributes. -/
theorem map_bare_visit (depth : Nat) (node : Node) :
    (node.visit pruned depth).map Event.bare = node.bareOf.visit pruned depth := by
  cases node with
  | element tag attributes directives children =>
    rw [visit, bareOf, visit, List.map_cons, apply_ite (List.map Event.bare), List.map_nil,
      map_bare_walk (depth + 1) children]
    rfl
  | text value => rfl

/-- Walking through a forest does not look at its attributes. -/
theorem map_bare_walk (depth : Nat) (nodes : List Node) :
    (walk pruned depth nodes).map Event.bare = walk pruned depth (bare nodes) := by
  cases nodes with
  | nil => rfl
  | cons node nodes =>
    rw [walk, List.map_append, map_bare_visit depth node, map_bare_walk depth nodes, bare, walk]

end

/-! ### Rebuilding a forest -/

/-- Puts a node in front of trees with their depths.  An element takes in the trees that are deeper,
up to the first one that is not. -/
def graft : Event → List (Nat × Node) → List (Nat × Node)
  | .element depth tag _, later =>
    let isInside := fun tree : Nat × Node => decide (depth < tree.1)
    (depth, .element tag [] [] ((later.takeWhile isInside).map (·.2))) :: later.dropWhile isInside
  | .text depth value, later => (depth, .text value) :: later

/-- The forest that a walk without pruning has met. -/
def rebuild (events : List Event) : List Node :=
  (events.foldr graft []).map (·.2)

/-- Trees that an element at a depth takes nothing from. -/
def StandOutside (depth : Nat) (later : List (Nat × Node)) : Prop :=
  ∀ tree ∈ later.head?, tree.1 ≤ depth

/-- Nodes one level deeper are taken up to what stands outside. -/
theorem StandOutside.takeWhile_append {depth : Nat} {later : List (Nat × Node)}
    (h : StandOutside depth later) (nodes : List Node) :
    (nodes.map (fun node => (depth + 1, node)) ++ later).takeWhile (depth < ·.1) =
      nodes.map (fun node => (depth + 1, node)) := by
  rw [List.takeWhile_append_of_pos (by simp)]
  cases later with
  | nil => simp
  | cons tree later =>
    rw [List.takeWhile_cons_of_neg (by simpa using h tree rfl), List.append_nil]

/-- What stands outside is left behind nodes one level deeper. -/
theorem StandOutside.dropWhile_append {depth : Nat} {later : List (Nat × Node)}
    (h : StandOutside depth later) (nodes : List Node) :
    (nodes.map (fun node => (depth + 1, node)) ++ later).dropWhile (depth < ·.1) = later := by
  rw [List.dropWhile_append_of_pos (by simp)]
  cases later with
  | nil => rfl
  | cons tree later => exact List.dropWhile_cons_of_neg (by simpa using h tree rfl)

mutual

/-- The events of a visit put its node in front of what was grafted before. -/
theorem foldr_graft_visit {depth : Nat} {later : List (Nat × Node)} (node : Node)
    (h : StandOutside depth later) :
    (node.visit (fun _ => false) depth).foldr graft later = (depth, node.bareOf) :: later := by
  cases node with
  | element tag attributes directives children =>
    have hinner : StandOutside (depth + 1) later := fun tree htree =>
      Nat.le_succ_of_le (h tree htree)
    rw [visit, if_neg (by decide), List.foldr_cons, foldr_graft_walk children hinner, graft,
      h.takeWhile_append, h.dropWhile_append, List.map_map, bareOf]
    exact congrArg (fun inner => (depth, Node.element tag [] [] inner) :: later) (List.map_id _)
  | text value => rfl

/-- What a walk has met is put together to the forest that was walked through. -/
theorem foldr_graft_walk {depth : Nat} {later : List (Nat × Node)} (nodes : List Node)
    (h : StandOutside depth later) :
    (walk (fun _ => false) depth nodes).foldr graft later =
      (bare nodes).map (fun node => (depth, node)) ++ later := by
  cases nodes with
  | nil => rfl
  | cons node nodes =>
    -- The siblings behind a tree are no deeper than the tree, so it takes none of them in.
    have hnext : StandOutside depth ((bare nodes).map (fun node => (depth, node)) ++ later) := by
      cases nodes with
      | nil => exact h
      | cons next nodes => simp [StandOutside, bare]
    rw [walk, List.foldr_append, foldr_graft_walk nodes h, foldr_graft_visit node hnext, bare,
      List.map_cons, List.cons_append]

end

/-- The forest is known, up to attributes and directives, from what a walk meets. -/
theorem rebuild_walk (depth : Nat) (nodes : List Node) :
    rebuild (walk (fun _ => false) depth nodes) = bare nodes := by
  rw [rebuild, foldr_graft_walk nodes (by simp [StandOutside]), List.append_nil, List.map_map]
  exact List.map_id _

/-- Rebuilding does not look at attributes. -/
theorem rebuild_map_bare (events : List Event) :
    rebuild (events.map Event.bare) = rebuild events := by
  have hgraft (event : Event) : graft event.bare = graft event := by
    cases event <;> rfl
  simp only [rebuild, List.foldr_map, hgraft]

/-- What a walk meets, attributes apart, is the same for two forests exactly if they have the same
elements and texts at the same places. -/
theorem map_bare_walk_eq_iff {first second : List Node} :
    (walk (fun _ => false) 0 first).map Event.bare =
        (walk (fun _ => false) 0 second).map Event.bare ↔
      bare first = bare second := by
  constructor
  · intro h
    calc bare first = rebuild ((walk (fun _ => false) 0 first).map Event.bare) := by
          rw [rebuild_map_bare, rebuild_walk]
      _ = rebuild ((walk (fun _ => false) 0 second).map Event.bare) := by rw [h]
      _ = bare second := by rw [rebuild_map_bare, rebuild_walk]
  · intro h
    rw [map_bare_walk, map_bare_walk, h]

/-- A walk without pruning meets every node once, in document order and at its depth; a walk with
pruning meets those of them that stand inside no pruned element; and what a walk without pruning
meets determines the forest. -/
theorem walk_faithful (pruned : String → Bool) (nodes : List Node) :
    walk (fun _ => false) 0 nodes = (places [] nodes).map Placed.event ∧
      walk pruned 0 nodes =
        ((places [] nodes).filter (·.isReached pruned)).map Placed.event ∧
      (∀ others,
        (walk (fun _ => false) 0 nodes).map Event.bare =
            (walk (fun _ => false) 0 others).map Event.bare ↔
          bare nodes = bare others) ∧
      (walk (fun _ => false) 0 nodes).length = count nodes := by
  have hnone : ([] : List String).all (!pruned ·) = true := rfl
  exact ⟨walk_eq_map_event [] nodes, walk_eq_map_filter hnone nodes,
    fun _ => map_bare_walk_eq_iff, length_walk 0 nodes⟩

end Node

end TemplateImports.Template

/-! ## What is collected -/

namespace TemplateImports.Usage

open Template (Directive Element Event Placed)
open Template.Node (elements elementsIn places walk)

/-- Adds the names that an element itself uses. -/
def add (usage : Usage) (e : Element) : Usage :=
  usage.addElement e.tag e.attributes e.directives

mutual

/-- Collecting from a node adds its elements in their order. -/
theorem visit_eq_foldl (usage : Usage) (node : Template.Node) :
    usage.visit node = (elementsIn node).foldl add usage := by
  cases node with
  | element tag attributes directives children =>
    rw [visit, elementsIn, List.foldl_cons, collect_eq_foldl _ children]
    rfl
  | text value => rfl

/-- Names are collected from one element after the other, in document order. -/
theorem collect_eq_foldl (usage : Usage) (nodes : List Template.Node) :
    usage.collect nodes = (elements nodes).foldl add usage := by
  cases nodes with
  | nil => rfl
  | cons node nodes =>
    rw [collect, elements, List.foldl_append, visit_eq_foldl usage node, collect_eq_foldl _ nodes]

end

/-- What every element keeps is kept where names are collected from a forest. -/
theorem collect_induction {P : Usage → Prop} {usage : Usage} (h : P usage)
    (hadd : ∀ usage e, P usage → P (usage.add e)) (nodes : List Template.Node) :
    P (usage.collect nodes) := by
  rw [collect_eq_foldl]
  exact List.foldlRecOn _ _ h fun usage husage e _ => hadd usage e husage

/-- Adds the names that a walk meets.  The directives of an element are those that its attributes
stand for. -/
def meet (usage : Usage) : Event → Usage
  | .element _ tag attributes =>
    usage.addElement tag attributes (attributes.filterMap fun a => Directive.parse a.name a.value)
  | .text _ _ => usage

/-- In a forest whose directives are those of its attributes, names are collected from what a walk
without pruning meets. -/
theorem collect_eq_foldl_walk {nodes : List Template.Node}
    (h : ∀ e ∈ elements nodes,
      e.directives = e.attributes.filterMap fun a => Directive.parse a.name a.value)
    (usage : Usage) :
    usage.collect nodes = (walk (fun _ => false) 0 nodes).foldl meet usage := by
  have hwalk : walk (fun _ => false) 0 nodes = (places [] nodes).map Placed.event :=
    Template.Node.walk_eq_map_event [] nodes
  rw [← Template.Node.filterMap_places []] at h
  rw [collect_eq_foldl, ← Template.Node.filterMap_places [], hwalk]
  generalize places [] nodes = met at h ⊢
  induction met generalizing usage with
  | nil => rfl
  | cons p met ih =>
    obtain ⟨around, node⟩ := p
    cases node with
    | element tag attributes directives children =>
      obtain ⟨hdirectives, hmet⟩ := List.forall_mem_cons.1 h
      have hmeet : usage.add ⟨tag, attributes, directives⟩ =
          usage.meet (Placed.event ⟨around, .element tag attributes directives children⟩) :=
        congrArg (usage.addElement tag attributes) hdirectives
      rw [List.map_cons, List.foldl_cons, ← hmeet, ← ih _ hmet]
      rfl
    | text value => exact ih usage h

end TemplateImports.Usage
