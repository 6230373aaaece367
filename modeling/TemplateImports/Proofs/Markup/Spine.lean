import TemplateImports.Markup.Construction.Builder
import Mathlib

/-!
# The rightmost path of a document

While markup without misnesting is read, the open elements are the rightmost path of the document.
A spine is such a path: for each open element, innermost first, its siblings before it.  Editing the
document at the innermost element changes only the nodes at the end of the path.

Main results:

- Definition `plug` puts nodes at the end of a path.
- Theorem `editAt_of_not_mem` says that an edit at an absent element changes nothing.
- Theorem `editAt_plug` says that an edit at the innermost element edits the end of the path.
-/

namespace TemplateImports.Markup

/-- A place after everything else in an element. -/
inductive Place.IsInside (id : Nat) : Place → Prop where
  | children : IsInside id (.lastIn id)
  | contents : IsInside id (.lastInContents id)

namespace Node

/-! ## Identities -/

mutual

/-- The identities of the elements at or below a node. -/
def idsIn : Node → List Nat
  | .element id _ _ children contents => id :: (ids children ++ ids contents)
  | .text _ => []
  | .comment _ => []
  | .doctype _ => []

/-- The identities of the elements of a document. -/
def ids : List Node → List Nat
  | [] => []
  | node :: nodes => idsIn node ++ ids nodes

end

theorem ids_append (first second : List Node) : ids (first ++ second) = ids first ++ ids second := by
  induction first with
  | nil => rfl
  | cons node first ih => simp [ids, ih]

theorem ids_appendText (value : String) (nodes : List Node) :
    ids (appendText value nodes) = ids nodes := by
  fun_induction appendText value nodes with
  | case1 => rfl
  | case2 last => rfl
  | case3 node nodes _ ih => simp [ids, ih]

mutual

theorem editNode_of_not_mem {id : Nat} {place : Place} (hplace : Place.IsInside id place)
    (edit : List Node → List Node) {node : Node} (h : id ∉ idsIn node) :
    editNode place edit node = node := by
  cases node with
  | element i name attributes children contents =>
    simp only [idsIn, List.mem_cons, List.mem_append, not_or] at h
    obtain ⟨hid, hchildren, hcontents⟩ := h
    have hedit := editAt_of_not_mem hplace edit hchildren
    have hedit' := editAt_of_not_mem hplace edit hcontents
    rw [editNode, hedit, hedit']
    cases hplace <;> simp [hid]
  | text value => rfl
  | comment value => rfl
  | doctype declaration => rfl

/-- An edit inside an absent element changes nothing. -/
theorem editAt_of_not_mem {id : Nat} {place : Place} (hplace : Place.IsInside id place)
    (edit : List Node → List Node) {nodes : List Node} (h : id ∉ ids nodes) :
    editAt place edit nodes = nodes := by
  cases nodes with
  | nil => rfl
  | cons node nodes =>
    simp only [ids, List.mem_append, not_or] at h
    have hnode := editNode_of_not_mem hplace edit h.1
    have hnodes := editAt_of_not_mem hplace edit h.2
    cases hplace <;> simp only [editAt, hnode, hnodes]

end

/-- An edit inside an element goes through its siblings one by one. -/
theorem editAt_append {id : Nat} {place : Place} (hplace : Place.IsInside id place)
    (edit : List Node → List Node) (first second : List Node) :
    editAt place edit (first ++ second) = editAt place edit first ++ editAt place edit second := by
  induction first with
  | nil => rfl
  | cons node first ih => cases hplace <;> simp [editAt, ih]

end Node

open Node

/-! ## Frames -/

/-- An open element of ordinary markup with the siblings before it. -/
structure Frame where
  id : Nat
  label : String
  attributes : List Attribute
  before : List Node

namespace Frame

/-- The entry of the stack for an element. -/
def entry (frame : Frame) : OpenElement :=
  ⟨frame.id, .html frame.label, frame.attributes⟩

/-- Whether an element is a template. -/
def isTemplate (frame : Frame) : Bool :=
  frame.label == "template"

/-- An element with the nodes inside it.  A template keeps them as its content. -/
def node (frame : Frame) (inside : List Node) : Node :=
  .element frame.id (.html frame.label) frame.attributes
    (if frame.isTemplate then [] else inside) (if frame.isTemplate then inside else [])

theorem ids_node (frame : Frame) (inside : List Node) :
    idsIn (frame.node inside) = frame.id :: ids inside := by
  cases h : frame.isTemplate <;> simp [node, idsIn, ids, h]

/-- The place for new nodes inside an element. -/
theorem placeInside_entry (frame : Frame) :
    Builder.placeInside frame.entry =
      if frame.isTemplate then .lastInContents frame.id else .lastIn frame.id := by
  simp [Builder.placeInside, entry, isTemplate, ElementName.isHtml]

theorem isInside_placeInside (frame : Frame) :
    Place.IsInside frame.id (Builder.placeInside frame.entry) := by
  rw [placeInside_entry]
  split
  · exact .contents
  · exact .children

/-- An edit inside an element that does not hold itself edits the nodes inside it. -/
theorem editNode_node {frame : Frame} {inside : List Node} (h : frame.id ∉ ids inside)
    (edit : List Node → List Node) :
    editNode (Builder.placeInside frame.entry) edit (frame.node inside) =
      frame.node (edit inside) := by
  have hinside := editAt_of_not_mem (isInside_placeInside frame) edit h
  rw [placeInside_entry] at hinside ⊢
  by_cases ht : frame.isTemplate = true
  · simp only [ht, if_true] at hinside ⊢
    simp [node, ht, editNode, editAt, hinside]
  · simp only [ht] at hinside ⊢
    simp only [Bool.false_eq_true, if_false] at hinside ⊢
    simp [node, ht, editNode, editAt, hinside]

end Frame

/-! ## Paths -/

/-- The document with a path of open elements, innermost first, and nodes at its end. -/
def plug : List Frame → List Node → Document
  | [], inside => inside
  | frame :: frames, inside => plug frames (frame.before ++ [frame.node inside])

/-- The identities on and before a path, outermost first. -/
def spineIds : List Frame → List Nat
  | [] => []
  | frame :: frames => spineIds frames ++ ids frame.before ++ [frame.id]

/-- Closing the innermost element changes no identity. -/
theorem spineIds_close (frame outer : Frame) (frames : List Frame) (inside : List Node) :
    spineIds (outer :: frames) ++ ids (frame.before ++ [frame.node inside]) =
      spineIds (frame :: outer :: frames) ++ ids inside := by
  simp [spineIds, ids_append, ids, Frame.ids_node]

/-- An edit inside an element that stands neither on nor before a path goes to the end of it. -/
theorem editAt_plug_of_not_mem {id : Nat} {place : Place} (hplace : Place.IsInside id place)
    (edit : List Node → List Node) {frames : List Frame} (h : id ∉ spineIds frames)
    (inside : List Node) :
    editAt place edit (plug frames inside) = plug frames (editAt place edit inside) := by
  induction frames generalizing inside with
  | nil => rfl
  | cons frame frames ih =>
    simp only [spineIds, List.mem_append, List.mem_singleton, not_or] at h
    obtain ⟨⟨hframes, hbefore⟩, hid⟩ := h
    rw [plug, ih hframes, editAt_append hplace, editAt_of_not_mem hplace edit hbefore, plug]
    have hnode : editAt place edit [frame.node inside] =
        [frame.node (editAt place edit inside)] := by
      cases hplace <;> cases ht : frame.isTemplate <;>
        simp [editAt, editNode, Frame.node, ht, hid]
    rw [hnode]

/-- An edit at the innermost element edits the end of the path. -/
theorem editAt_plug {frame : Frame} {frames : List Frame} {inside : List Node}
    (h : (spineIds (frame :: frames) ++ ids inside).Nodup) (edit : List Node → List Node) :
    editAt (Builder.placeInside frame.entry) edit (plug (frame :: frames) inside) =
      plug (frame :: frames) (edit inside) := by
  have hplace := Frame.isInside_placeInside frame
  simp only [spineIds, List.append_assoc, List.singleton_append] at h
  rw [List.nodup_append] at h
  obtain ⟨-, hrest, hdisjoint⟩ := h
  rw [List.nodup_append] at hrest
  obtain ⟨-, hinner, hbefore⟩ := hrest
  have hframes : frame.id ∉ spineIds frames := fun hmem =>
    hdisjoint _ hmem _ (List.mem_append_right _ List.mem_cons_self) rfl
  have hbefore' : frame.id ∉ ids frame.before := fun hmem =>
    hbefore _ hmem _ List.mem_cons_self rfl
  have hinside : frame.id ∉ ids inside := (List.nodup_cons.1 hinner).1
  rw [plug, editAt_plug_of_not_mem hplace edit hframes, editAt_append hplace,
    editAt_of_not_mem hplace edit hbefore']
  have hnode := Frame.editNode_node hinside edit
  have hlast : editAt (Builder.placeInside frame.entry) edit [frame.node inside] =
      [frame.node (edit inside)] := by
    rw [← hnode]
    generalize Builder.placeInside frame.entry = place at hplace ⊢
    cases hplace <;> rfl
  rw [hlast, plug]

end TemplateImports.Markup
