import Mathlib.Data.List.Nodup
import TemplateImports.Proofs.Markup.Elements

/-!
# Contents of templates

Only a template keeps content apart from its children.  This is so in every document under
construction, because new nodes go into the contents of templates only, and because moving a part of
a document takes its contents along.

Main results:

- Predicate `Node.Tidy` says that only templates have contents.
- Structure `Place.IsIn` says that a place refers to an element of a document, and to its contents
  only if it is a template.
- Theorem `tidy_editAt`, theorem `tidy_remove` and theorem `tidyIn_of_find?` go through the edits of
  documents.
-/

namespace TemplateImports.Markup

namespace Node

/-! ## Tidy documents -/

mutual

/-- Only templates have contents at or below a node. -/
def TidyIn : Node → Prop
  | .element _ name _ children contents =>
    (contents = [] ∨ name.isHtml "template" = true) ∧ Tidy children ∧ Tidy contents
  | .text _ => True
  | .comment _ => True
  | .doctype _ => True

/-- Only templates have contents in a document. -/
def Tidy : List Node → Prop
  | [] => True
  | node :: nodes => TidyIn node ∧ Tidy nodes

end

/-- A document is tidy if each of its nodes is. -/
theorem tidy_iff {nodes : List Node} : Tidy nodes ↔ ∀ node ∈ nodes, TidyIn node := by
  induction nodes with
  | nil => simp [Tidy]
  | cons node nodes ih => simp [Tidy, ih]

theorem tidy_append {first second : List Node} :
    Tidy (first ++ second) ↔ Tidy first ∧ Tidy second := by
  simp only [tidy_iff, List.forall_mem_append]

/-- Some nodes of a tidy document are tidy. -/
theorem Tidy.subset {nodes nodes' : List Node} (h : Tidy nodes) (hsub : nodes' ⊆ nodes) :
    Tidy nodes' :=
  tidy_iff.2 fun node hnode => tidy_iff.1 h node (hsub hnode)

/-! ## Edits -/

/-- An edit of siblings that keeps them tidy. -/
def KeepsTidy (edit : List Node → List Node) : Prop :=
  ∀ siblings, Tidy siblings → Tidy (edit siblings)

/-- Appending a tidy node keeps a document tidy. -/
theorem keepsTidy_append {node : Node} (h : TidyIn node) : KeepsTidy (append node) :=
  fun _ hsiblings => tidy_append.2 ⟨hsiblings, h, trivial⟩

/-- Appending text keeps a document tidy. -/
theorem keepsTidy_appendText (value : String) : KeepsTidy (appendText value) := by
  intro siblings h
  fun_induction appendText value siblings with
  | case1 => exact ⟨trivial, trivial⟩
  | case2 last => exact ⟨trivial, trivial⟩
  | case3 node siblings _ ih => exact ⟨h.1, ih h.2⟩

/-- An edit before an element. -/
theorem KeepsTidy.before {edit : List Node → List Node} (h : KeepsTidy edit) (p : Node → Bool)
    {node : Node} {siblings : List Node} (htidy : Tidy (node :: siblings)) :
    Tidy (edit (node :: siblings.takeWhile p) ++ siblings.dropWhile p) := by
  have hdrop : siblings.dropWhile p ⊆ siblings := (List.dropWhile_sublist p).subset
  have htake : siblings.takeWhile p ⊆ siblings := (List.takeWhile_sublist p).subset
  exact tidy_append.2
    ⟨h _ (htidy.subset (List.cons_subset_cons node htake)), Tidy.subset htidy.2 hdrop⟩

mutual

/-- An edit keeps a node tidy, unless it puts contents into what is no template. -/
theorem tidyIn_editNode {place : Place} {edit : List Node → List Node} (hedit : KeepsTidy edit)
    {node : Node} (h : TidyIn node)
    (hplace : ∀ e ∈ elementsIn node,
      place = .lastInContents e.id → e.name.isHtml "template" = true) :
    TidyIn (editNode place edit node) := by
  cases node with
  | element id name attributes children contents =>
    obtain ⟨hname, hchildren, hcontents⟩ := h
    simp only [elementsIn, List.mem_cons, List.mem_append] at hplace
    have hchildren := tidy_editAt hedit hchildren fun e he => hplace e (Or.inr (Or.inl he))
    have hcontents := tidy_editAt hedit hcontents fun e he => hplace e (Or.inr (Or.inr he))
    rw [editNode]
    refine ⟨?_, ?_, ?_⟩
    · by_cases hself : place = .lastInContents id
      · exact Or.inr (hplace ⟨id, name, attributes⟩ (Or.inl rfl) hself)
      · rw [if_neg (by simpa using hself)]
        refine hname.imp_left fun hnil => ?_
        rw [hnil, editAt]
    · split
      · exact hedit _ hchildren
      · exact hchildren
    · split
      · exact hedit _ hcontents
      · exact hcontents
  | text value => trivial
  | comment value => trivial
  | doctype declaration => trivial

/-- A tidy document stays tidy when a place in it is edited. -/
theorem tidy_editAt {place : Place} {edit : List Node → List Node} (hedit : KeepsTidy edit)
    {nodes : List Node} (h : Tidy nodes)
    (hplace : ∀ e ∈ elements nodes,
      place = .lastInContents e.id → e.name.isHtml "template" = true) :
    Tidy (editAt place edit nodes) := by
  cases nodes with
  | nil => exact trivial
  | cons node nodes =>
    simp only [elements, List.mem_append] at hplace
    have hnode := tidyIn_editNode hedit h.1 fun e he => hplace e (Or.inl he)
    have hnodes := tidy_editAt hedit h.2 fun e he => hplace e (Or.inr he)
    cases place with
    | lastIn id => exact ⟨hnode, hnodes⟩
    | lastInContents id => exact ⟨hnode, hnodes⟩
    | before id =>
      simp only [editAt]
      split
      · exact tidy_append.2 ⟨hedit _ trivial, h⟩
      · split
        · exact hedit.before _ h
        · exact ⟨hnode, hnodes⟩

end

/-! ## Parts -/

mutual

/-- What is left of a tidy node is tidy. -/
theorem tidyIn_removeIn (target : Nat) {node : Node} (h : TidyIn node) :
    TidyIn (removeIn target node) := by
  cases node with
  | element id name attributes children contents =>
    obtain ⟨hname, hchildren, hcontents⟩ := h
    refine ⟨hname.imp_left fun hnil => ?_, tidy_remove target hchildren, tidy_remove target hcontents⟩
    rw [hnil, remove]
  | text value => trivial
  | comment value => trivial
  | doctype declaration => trivial

/-- Without one of its elements a document is still tidy. -/
theorem tidy_remove (target : Nat) {nodes : List Node} (h : Tidy nodes) :
    Tidy (remove target nodes) := by
  cases nodes with
  | nil => exact trivial
  | cons node nodes =>
    rw [remove]
    split
    · exact tidy_remove target h.2
    · exact ⟨tidyIn_removeIn target h.1, tidy_remove target h.2⟩

end

mutual

/-- A part of a tidy node is tidy. -/
theorem tidyIn_of_findIn? {target : Nat} {node part : Node} (h : TidyIn node)
    (hfind : findIn? target node = some part) : TidyIn part := by
  cases node with
  | element id name attributes children contents =>
    rw [findIn?] at hfind
    split at hfind
    · rw [← Option.some.inj hfind]
      exact h
    · rcases Option.or_eq_some_iff.1 hfind with hfind | ⟨-, hfind⟩
      · exact tidyIn_of_find? h.2.1 hfind
      · exact tidyIn_of_find? h.2.2 hfind
  | text value => exact absurd hfind (by simp [findIn?])
  | comment value => exact absurd hfind (by simp [findIn?])
  | doctype declaration => exact absurd hfind (by simp [findIn?])

/-- An element that is found in a tidy document is tidy. -/
theorem tidyIn_of_find? {target : Nat} {nodes : List Node} {part : Node} (h : Tidy nodes)
    (hfind : find? target nodes = some part) : TidyIn part := by
  cases nodes with
  | nil => exact absurd hfind (by simp [find?])
  | cons node nodes =>
    rw [find?] at hfind
    rcases Option.or_eq_some_iff.1 hfind with hfind | ⟨-, hfind⟩
    · exact tidyIn_of_findIn? h.1 hfind
    · exact tidyIn_of_find? h.2 hfind

end

/-- A new element around the children of another one has no contents. -/
theorem tidyIn_wrapChildren (id : Nat) (name : ElementName) (attributes : List Attribute)
    {part : Node} (h : TidyIn part) : TidyIn (part.wrapChildren id name attributes) := by
  cases part with
  | element i n as children contents =>
    exact ⟨h.1, ⟨⟨Or.inl rfl, h.2.1, trivial⟩, trivial⟩, h.2.2⟩
  | text value => exact trivial
  | comment value => exact trivial
  | doctype declaration => exact trivial

end Node

/-! ## Places -/

/-- A place that refers to an element of a document.  It is in the contents of a template or among
children. -/
structure Place.IsIn (place : Place) (document : Document) : Prop where
  anchor_mem : place.anchor ∈ Node.ids document
  contents : ∀ e ∈ Node.elements document,
    place = .lastInContents e.id → e.name.isHtml "template" = true

theorem Place.isIn_lastIn {id : Nat} {document : Document} (h : id ∈ Node.ids document) :
    (Place.lastIn id).IsIn document :=
  ⟨h, fun _ _ heq => Place.noConfusion heq⟩

theorem Place.isIn_before {id : Nat} {document : Document} (h : id ∈ Node.ids document) :
    (Place.before id).IsIn document :=
  ⟨h, fun _ _ heq => Place.noConfusion heq⟩

/-- Identities tell the elements of a document apart. -/
theorem Node.eq_of_id_eq {document : Document} (hdistinct : (Node.ids document).Nodup)
    {e f : OpenElement} (he : e ∈ Node.elements document) (hf : f ∈ Node.elements document)
    (hid : e.id = f.id) : e = f := by
  rw [← Node.map_id_elements] at hdistinct
  exact List.inj_on_of_nodup_map hdistinct he hf hid

/-- The contents of a template are a place of its document. -/
theorem Place.isIn_lastInContents {document : Document} (hdistinct : (Node.ids document).Nodup)
    {e : OpenElement} (he : e ∈ Node.elements document)
    (htemplate : e.name.isHtml "template" = true) :
    (Place.lastInContents e.id).IsIn document := by
  refine ⟨?_, fun f hf heq => ?_⟩
  · rw [← Node.map_id_elements]
    exact List.mem_map_of_mem he
  · rw [← Node.eq_of_id_eq hdistinct he hf (Place.lastInContents.inj heq)]
    exact htemplate

end TemplateImports.Markup
