import TemplateImports.Proofs.Template.DocumentOrder
import TemplateImports.Proofs.Template.Wrappers
import TemplateImports.Proofs.Text.ByteOrder
import TemplateImports.Template.Usage

/-!
# The order of used names

The names that a forest uses are collected from one element after the other, in document order, and
a name that is met again is not added.  So the names of a category are the names that the elements
mention, one element behind the other, without later repeats.

Main results:

- Definition `Element.names` lists the names that an element itself mentions.
- Theorem `Usage.names_collect` says what collecting adds to the names collected so far.
- Structure `Usage.InDocumentOrder` lists which names a forest uses, and in which order; theorem
  `Usage.ofNodes_in_document_order` says that it holds of every forest.
- Theorem `Usage.ofTemplate_eq_foldl_walk` says that a walk through a template meets all that its
  names are collected from.
-/

namespace TemplateImports

open Template (Directive Element Placed icon?)
open Template.Node (elements elementsIn places skeleton skeletonOf walk)
open Text

/-! ## Names without repeats -/

/-- Names that are added stand behind the others, and only if they are new. -/
theorem insertNames_eq_append (names added : List String) :
    insertNames names added = names ++ added.eraseDups.filter (!names.contains ·) := by
  induction added using List.reverseRecOn with
  | nil => simp [insertNames]
  | append_singleton added name ih =>
    rw [insertNames_append, ih, ← insertName_eraseDups]
    by_cases hadded : name ∈ added
    · simp [insertNames, insertName, hadded, List.mem_eraseDups]
    · by_cases hname : name ∈ names
      · simp [insertNames, insertName, hadded, hname, List.mem_eraseDups]
      · simp [insertNames, insertName, hadded, hname, List.mem_eraseDups]

/-! ## Names that elements mention -/

/-- The names of a category that an element itself mentions. -/
def Template.Element.names (e : Element) : Category → List String
  | .tag => [e.tag]
  | .directive => e.directives.map (·.name)
  | .icon => e.attributes.filterMap fun a => icon? a.value

namespace Usage

/-- Adding an element adds the names that it mentions. -/
theorem names_addElement (usage : Usage) (e : Element) (c : Category) :
    (usage.addElement e.tag e.attributes e.directives).names c =
      insertNames (usage.names c) (e.names c) := by
  cases c <;> rfl

/-- Collecting adds the names that the elements mention, in document order. -/
theorem names_collect (usage : Usage) (nodes : List Template.Node) (c : Category) :
    (usage.collect nodes).names c =
      insertNames (usage.names c) ((elements nodes).flatMap (·.names c)) := by
  rw [collect_eq_foldl]
  induction elements nodes generalizing usage with
  | nil => rfl
  | cons e es ih =>
    rw [List.foldl_cons, ih, List.flatMap_cons, insertNames_append, add, names_addElement]

/-- A forest uses the names that its elements mention, without later repeats. -/
theorem names_ofNodes (nodes : List Template.Node) (c : Category) :
    (ofNodes nodes).names c = ((elements nodes).flatMap (·.names c)).eraseDups := by
  have hnone : ({} : Usage).names c = [] := by
    cases c <;> rfl
  rw [ofNodes, names_collect, hnone, insertNames_nil]

/-- Two forests side by side use the names of the first one, and then the new ones of the second. -/
theorem names_ofNodes_append (first second : List Template.Node) (c : Category) :
    (ofNodes (first ++ second)).names c =
      (ofNodes first).names c ++
        ((ofNodes second).names c).filter (!((ofNodes first).names c).contains ·) := by
  rw [names_ofNodes, names_ofNodes second, Template.Node.elements_append, List.flatMap_append,
    ← insertNames_eraseDups, insertNames_eq_append, ← names_ofNodes]

/-- A usage is known from its names. -/
theorem eq_of_names_eq {usage usage' : Usage} (h : ∀ c, usage.names c = usage'.names c) :
    usage = usage' := by
  have htags := h .tag
  have hdirectives := h .directive
  have hicons := h .icon
  cases usage
  cases usage'
  simp_all [names]

end Usage

/-! ## Texts -/

mutual

theorem Template.Node.elements_skeletonOf (node : Template.Node) :
    elements (skeletonOf node) = elementsIn node := by
  cases node with
  | element tag attributes directives children =>
    rw [skeletonOf, elements, elementsIn, elements_skeleton children, elements, List.append_nil,
      elementsIn]
  | text value => rfl

/-- A forest without its texts has the same elements. -/
theorem Template.Node.elements_skeleton (nodes : List Template.Node) :
    elements (skeleton nodes) = elements nodes := by
  cases nodes with
  | nil => rfl
  | cons node nodes =>
    rw [skeleton, elements_append, elements_skeletonOf node, elements_skeleton nodes, elements]

end

/-! ## All names -/

namespace Usage

theorem names_sorted (usage : Usage) (c : Category) :
    usage.sorted.names c = sortDistinct (usage.names c) := by
  cases c <;> rfl

/-- What is collected from a forest, and in which order. -/
structure InDocumentOrder (nodes : List Template.Node) : Prop where
  /-- The tags are those of the elements in document order, without later repeats. -/
  tags_eq : (ofNodes nodes).tags = ((elements nodes).map (·.tag)).eraseDups
  directives_eq : (ofNodes nodes).directives =
    ((elements nodes).flatMap fun e => e.directives.map (·.name)).eraseDups
  icons_eq : (ofNodes nodes).icons =
    ((elements nodes).flatMap fun e => e.attributes.filterMap fun a => icon? a.value).eraseDups
  /-- The elements are those that a walk without pruning meets, in the same order. -/
  walk_eq : walk (fun _ => false) 0 nodes = (places [] nodes).map Placed.event
  elements_eq : elements nodes = (places [] nodes).filterMap Placed.element?
  /-- Texts mention nothing. -/
  ofNodes_skeleton : ofNodes (skeleton nodes) = ofNodes nodes
  /-- The names of a forest come before the new ones of another forest behind it. -/
  names_append : ∀ others c, (ofNodes (nodes ++ others)).names c =
    (ofNodes nodes).names c ++
      ((ofNodes others).names c).filter (!((ofNodes nodes).names c).contains ·)
  /-- Sorting orders the names by their bytes. -/
  sorted_ascending : ∀ c,
    ((ofNodes nodes).sorted.names c).Pairwise fun a b => utf8 a < utf8 b
  mem_sorted : ∀ c name,
    name ∈ (ofNodes nodes).sorted.names c ↔ name ∈ (ofNodes nodes).names c

/-- Every forest is collected in document order. -/
theorem ofNodes_in_document_order (nodes : List Template.Node) : InDocumentOrder nodes := by
  constructor
  case tags_eq =>
    have htags : (elements nodes).map (·.tag) = (elements nodes).flatMap (·.names .tag) :=
      List.map_eq_flatMap
    rw [htags]
    exact names_ofNodes nodes .tag
  case directives_eq => exact names_ofNodes nodes .directive
  case icons_eq => exact names_ofNodes nodes .icon
  case walk_eq => exact Template.Node.walk_eq_map_event [] nodes
  case elements_eq => exact (Template.Node.filterMap_places [] nodes).symm
  case ofNodes_skeleton =>
    refine eq_of_names_eq fun c => ?_
    rw [names_ofNodes, names_ofNodes, Template.Node.elements_skeleton]
  case names_append => exact fun others c => names_ofNodes_append nodes others c
  case sorted_ascending =>
    intro c
    rw [names_sorted]
    exact (pairwise_lt_sortDistinct _).imp lt_iff_utf8_lt.1
  case mem_sorted =>
    intro c name
    rw [names_sorted, mem_sortDistinct]

end Usage

/-! ## Templates -/

namespace Template

open Node (isWrapper ofNode ofDocument)

mutual

theorem directives_of_mem_ofNode (keepsWrappers : Bool) (node : Markup.Node) :
    ∀ e ∈ elements (ofNode keepsWrappers node),
      e.directives = e.attributes.filterMap fun a => Directive.parse a.name a.value := by
  cases node with
  | element id name attributes children contents =>
    rw [ofNode]
    split
    · exact directives_of_mem_ofDocument keepsWrappers children
    · intro e he
      rw [Node.ofAttributes, elements, elementsIn, elements, List.append_nil, List.mem_cons,
        Node.elements_append, List.mem_append] at he
      rcases he with rfl | he | he
      · rfl
      · exact directives_of_mem_ofDocument keepsWrappers children e he
      · exact directives_of_mem_ofDocument keepsWrappers contents e he
  | text value =>
    rw [ofNode]
    split <;> simp [elements, elementsIn]
  | comment value => simp [ofNode, elements]
  | doctype declaration => simp [ofNode, elements]

/-- The directives of a converted document are those that its attributes stand for. -/
theorem directives_of_mem_ofDocument (keepsWrappers : Bool) (nodes : List Markup.Node) :
    ∀ e ∈ elements (ofDocument keepsWrappers nodes),
      e.directives = e.attributes.filterMap fun a => Directive.parse a.name a.value := by
  cases nodes with
  | nil => simp [ofDocument, elements]
  | cons node nodes =>
    intro e he
    rw [ofDocument, Node.elements_append, List.mem_append] at he
    rcases he with he | he
    · exact directives_of_mem_ofNode keepsWrappers node e he
    · exact directives_of_mem_ofDocument keepsWrappers nodes e he

end

end Template

/-- The names that a template uses are collected from what a walk without pruning meets. -/
theorem Usage.ofTemplate_eq_foldl_walk (template : String) :
    ofTemplate template = (walk (fun _ => false) 0 (Template.parse template)).foldl meet {} :=
  collect_eq_foldl_walk (Template.directives_of_mem_ofDocument _ _) {}

end TemplateImports
