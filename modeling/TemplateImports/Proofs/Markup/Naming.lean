import Mathlib.Logic.Function.Basic
import TemplateImports.Proofs.Markup.Contents

/-!
# Names of identities

An element goes by its identity: it is opened under it, found under it, and content is put inside it
by it.  All elements with an identity have the same name, wherever in the document they stand and
whether or not they are still open, because an identity is given out once, together with a name.  So
content that is meant for a template never gets into the contents of any other element.

Main results:

- Structure `Names` says that a naming of identities fits a document, its open elements and its
  head; definition `Builder.Coherent` says that there is one for a state.
- Theorem `Names.grow` names a new identity, theorem `Names.edit` follows an edit of the document,
  and theorem `Names.part` follows a part that is taken out of it.
-/

namespace TemplateImports.Markup

open Node

/-! ## Properties of all elements -/

namespace Node

variable {P : OpenElement → Prop}

/-- A property of all elements of two lists is one of both. -/
theorem forall_elements_append {first second : List Node} :
    (∀ e ∈ elements (first ++ second), P e) ↔
      (∀ e ∈ elements first, P e) ∧ ∀ e ∈ elements second, P e := by
  rw [elements_append, List.forall_mem_append]

/-- A property of all elements in an element is one of it and of all below it. -/
theorem forall_elementsIn_element {id : Nat} {name : ElementName} {attributes : List Attribute}
    {children contents : List Node} :
    (∀ e ∈ elementsIn (.element id name attributes children contents), P e) ↔
      P ⟨id, name, attributes⟩ ∧ (∀ e ∈ elements children, P e) ∧ ∀ e ∈ elements contents, P e := by
  rw [elementsIn, List.forall_mem_cons, List.forall_mem_append]

/-- A property of all elements of a list is one of its first node and of the others. -/
theorem forall_elements_cons {node : Node} {nodes : List Node} :
    (∀ e ∈ elements (node :: nodes), P e) ↔
      (∀ e ∈ elementsIn node, P e) ∧ ∀ e ∈ elements nodes, P e := by
  rw [elements, List.forall_mem_append]

/-- Siblings taken from a list have the properties of the list. -/
theorem forall_elements_of_subset {nodes nodes' : List Node} (hsub : nodes' ⊆ nodes)
    (h : ∀ e ∈ elements nodes, P e) : ∀ e ∈ elements nodes', P e := by
  have hmem : ∀ nodes : List Node,
      (∀ e ∈ elements nodes, P e) ↔ ∀ node ∈ nodes, ∀ e ∈ elementsIn node, P e := by
    intro nodes
    induction nodes with
    | nil => simp [elements]
    | cons node nodes ih => rw [forall_elements_cons, ih, List.forall_mem_cons]
  exact (hmem nodes').2 fun node hnode => (hmem nodes).1 h node (hsub hnode)

mutual

/-- An edit keeps a property of all elements if it does so among siblings. -/
theorem forall_elementsIn_editNode {place : Place} {edit : List Node → List Node}
    (hedit : ∀ siblings, (∀ e ∈ elements siblings, P e) → ∀ e ∈ elements (edit siblings), P e)
    {node : Node} (h : ∀ e ∈ elementsIn node, P e) :
    ∀ e ∈ elementsIn (editNode place edit node), P e := by
  cases node with
  | element id name attributes children contents =>
    obtain ⟨hself, hchildren, hcontents⟩ := forall_elementsIn_element.1 h
    have hchildren : ∀ e ∈ elements (editAt place edit children), P e :=
      forall_elements_editAt hedit hchildren
    have hcontents : ∀ e ∈ elements (editAt place edit contents), P e :=
      forall_elements_editAt hedit hcontents
    rw [editNode]
    refine forall_elementsIn_element.2 ⟨hself, ?_, ?_⟩
    · split
      · exact hedit _ hchildren
      · exact hchildren
    · split
      · exact hedit _ hcontents
      · exact hcontents
  | text value => exact h
  | comment value => exact h
  | doctype declaration => exact h

/-- What holds of all elements holds of them after an edit that keeps it among siblings. -/
theorem forall_elements_editAt {place : Place} {edit : List Node → List Node}
    (hedit : ∀ siblings, (∀ e ∈ elements siblings, P e) → ∀ e ∈ elements (edit siblings), P e)
    {nodes : List Node} (h : ∀ e ∈ elements nodes, P e) :
    ∀ e ∈ elements (editAt place edit nodes), P e := by
  cases nodes with
  | nil => exact h
  | cons node nodes =>
    obtain ⟨hnode, hnodes⟩ := forall_elements_cons.1 h
    have heach : ∀ e ∈ elements (editNode place edit node :: editAt place edit nodes), P e :=
      forall_elements_cons.2
        ⟨forall_elementsIn_editNode hedit hnode, forall_elements_editAt hedit hnodes⟩
    cases place with
    | lastIn id => exact heach
    | lastInContents id => exact heach
    | before id =>
      simp only [editAt]
      split
      · exact forall_elements_append.2 ⟨hedit [] (by simp [elements]), h⟩
      · split
        · refine forall_elements_append.2 ⟨hedit _ (forall_elements_of_subset ?_ h), ?_⟩
          · exact List.cons_subset_cons node (List.takeWhile_sublist _).subset
          · exact forall_elements_of_subset (List.dropWhile_sublist _).subset hnodes
        · exact heach

end

mutual

/-- What is left of a node has the elements that it had. -/
theorem forall_elementsIn_removeIn (target : Nat) {node : Node} (h : ∀ e ∈ elementsIn node, P e) :
    ∀ e ∈ elementsIn (removeIn target node), P e := by
  cases node with
  | element id name attributes children contents =>
    obtain ⟨hself, hchildren, hcontents⟩ := forall_elementsIn_element.1 h
    rw [removeIn]
    exact forall_elementsIn_element.2
      ⟨hself, forall_elements_remove target hchildren, forall_elements_remove target hcontents⟩
  | text value => exact h
  | comment value => exact h
  | doctype declaration => exact h

/-- What holds of all elements holds of those that are left. -/
theorem forall_elements_remove (target : Nat) {nodes : List Node}
    (h : ∀ e ∈ elements nodes, P e) : ∀ e ∈ elements (remove target nodes), P e := by
  cases nodes with
  | nil => exact h
  | cons node nodes =>
    obtain ⟨hnode, hnodes⟩ := forall_elements_cons.1 h
    rw [remove]
    split
    · exact forall_elements_remove target hnodes
    · exact forall_elements_cons.2
        ⟨forall_elementsIn_removeIn target hnode, forall_elements_remove target hnodes⟩

end

mutual

/-- A part of a node has no elements but those of the node. -/
theorem forall_elementsIn_findIn? {target : Nat} {node part : Node}
    (h : ∀ e ∈ elementsIn node, P e) (hfind : findIn? target node = some part) :
    ∀ e ∈ elementsIn part, P e := by
  cases node with
  | element id name attributes children contents =>
    obtain ⟨-, hchildren, hcontents⟩ := forall_elementsIn_element.1 h
    rw [findIn?] at hfind
    split at hfind
    · rw [← Option.some.inj hfind]
      exact h
    · rcases Option.or_eq_some_iff.1 hfind with hfind | ⟨-, hfind⟩
      · exact forall_elementsIn_find? hchildren hfind
      · exact forall_elementsIn_find? hcontents hfind
  | text value => exact absurd hfind (by simp [findIn?])
  | comment value => exact absurd hfind (by simp [findIn?])
  | doctype declaration => exact absurd hfind (by simp [findIn?])

/-- What holds of all elements holds of those in a part. -/
theorem forall_elementsIn_find? {target : Nat} {nodes : List Node} {part : Node}
    (h : ∀ e ∈ elements nodes, P e) (hfind : find? target nodes = some part) :
    ∀ e ∈ elementsIn part, P e := by
  cases nodes with
  | nil => exact absurd hfind (by simp [find?])
  | cons node nodes =>
    obtain ⟨hnode, hnodes⟩ := forall_elements_cons.1 h
    rw [find?] at hfind
    rcases Option.or_eq_some_iff.1 hfind with hfind | ⟨-, hfind⟩
    · exact forall_elementsIn_findIn? hnode hfind
    · exact forall_elementsIn_find? hnodes hfind

end

/-- An element around the content of a part is the only new one. -/
theorem forall_elementsIn_wrapChildren {id : Nat} {name : ElementName}
    {attributes : List Attribute} {part : Node} (h : ∀ e ∈ elementsIn part, P e)
    (hself : P ⟨id, name, attributes⟩) :
    ∀ e ∈ elementsIn (part.wrapChildren id name attributes), P e := by
  cases part with
  | element i n as children contents =>
    obtain ⟨houter, hchildren, hcontents⟩ := forall_elementsIn_element.1 h
    refine forall_elementsIn_element.2 ⟨houter, forall_elements_cons.2 ⟨?_, ?_⟩, hcontents⟩
    · exact forall_elementsIn_element.2 ⟨hself, hchildren, by simp [elements]⟩
    · simp [elements]
  | text value => exact h
  | comment value => exact h
  | doctype declaration => exact h

mutual

/-- More attributes keep a property that does not depend on them. -/
theorem forall_elementsIn_addAttributesIn (target : Nat) (extra : List Attribute) {node : Node}
    (hP : ∀ e attributes, P e → P { e with attributes }) (h : ∀ e ∈ elementsIn node, P e) :
    ∀ e ∈ elementsIn (addAttributesIn target extra node), P e := by
  cases node with
  | element id name attributes children contents =>
    obtain ⟨hself, hchildren, hcontents⟩ := forall_elementsIn_element.1 h
    rw [addAttributesIn]
    exact forall_elementsIn_element.2
      ⟨hP _ _ hself, forall_elements_addAttributes target extra hP hchildren,
        forall_elements_addAttributes target extra hP hcontents⟩
  | text value => exact h
  | comment value => exact h
  | doctype declaration => exact h

/-- What holds of all elements and does not depend on attributes holds of them with more
attributes. -/
theorem forall_elements_addAttributes (target : Nat) (extra : List Attribute) {nodes : List Node}
    (hP : ∀ e attributes, P e → P { e with attributes }) (h : ∀ e ∈ elements nodes, P e) :
    ∀ e ∈ elements (addAttributes target extra nodes), P e := by
  cases nodes with
  | nil => exact h
  | cons node nodes =>
    obtain ⟨hnode, hnodes⟩ := forall_elements_cons.1 h
    rw [addAttributes]
    exact forall_elements_cons.2
      ⟨forall_elementsIn_addAttributesIn target extra hP hnode,
        forall_elements_addAttributes target extra hP hnodes⟩

end

mutual

/-- More attributes keep a node tidy. -/
theorem tidyIn_addAttributesIn (target : Nat) (extra : List Attribute) {node : Node}
    (h : TidyIn node) : TidyIn (addAttributesIn target extra node) := by
  cases node with
  | element id name attributes children contents =>
    obtain ⟨hname, hchildren, hcontents⟩ := h
    refine ⟨hname.imp_left fun hnil => ?_, tidy_addAttributes target extra hchildren,
      tidy_addAttributes target extra hcontents⟩
    rw [hnil, addAttributes]
  | text value => trivial
  | comment value => trivial
  | doctype declaration => trivial

/-- With more attributes a document is still tidy. -/
theorem tidy_addAttributes (target : Nat) (extra : List Attribute) {nodes : List Node}
    (h : Tidy nodes) : Tidy (addAttributes target extra nodes) := by
  cases nodes with
  | nil => exact trivial
  | cons node nodes =>
    exact ⟨tidyIn_addAttributesIn target extra h.1, tidy_addAttributes target extra h.2⟩

end

end Node

/-! ## Namings -/

/-- An element bears the name of its identity, which has been given out. -/
structure Bears (nameOf : Nat → ElementName) (bound : Nat) (e : OpenElement) : Prop where
  lt : e.id < bound
  name_eq : e.name = nameOf e.id

/-- All elements of a tidy document, all open elements and the head bear the names of their
identities.  The identities below a bound have been given out. -/
structure Names (nameOf : Nat → ElementName) (document : Document) (stack : List OpenElement)
    (head : Option OpenElement) (bound : Nat) : Prop where
  inDocument : ∀ e ∈ elements document, Bears nameOf bound e
  opened : ∀ e ∈ stack, Bears nameOf bound e
  headKept : ∀ e ∈ head, Bears nameOf bound e
  tidy : Tidy document

/-- Content may be put in a place: into the contents of a template, or among children. -/
def Place.Suits (place : Place) (nameOf : Nat → ElementName) : Prop :=
  ∀ id, place = .lastInContents id → (nameOf id).isHtml "template" = true

namespace Names

variable {nameOf : Nat → ElementName} {document : Document} {stack : List OpenElement}
  {head : Option OpenElement} {bound : Nat}

/-- A new identity may be given any name. -/
theorem grow (h : Names nameOf document stack head bound) (name : ElementName) :
    Names (Function.update nameOf bound name) document stack head (bound + 1) := by
  have hold : ∀ e, Bears nameOf bound e →
      Bears (Function.update nameOf bound name) (bound + 1) e := by
    intro e he
    refine ⟨Nat.lt_succ_of_lt he.lt, ?_⟩
    rw [Function.update_of_ne (Nat.ne_of_lt he.lt)]
    exact he.name_eq
  exact ⟨fun e he => hold e (h.inDocument e he), fun e he => hold e (h.opened e he),
    fun e he => hold e (h.headKept e he), h.tidy⟩

/-- A new element bears the name that its identity gets. -/
theorem bears_new (nameOf : Nat → ElementName) (bound : Nat) (name : ElementName)
    (attributes : List Attribute) :
    Bears (Function.update nameOf bound name) (bound + 1) ⟨bound, name, attributes⟩ :=
  ⟨Nat.lt_succ_self bound, by simp⟩

/-- The elements that are open may be others that bear their names. -/
theorem withStack (h : Names nameOf document stack head bound) {stack' : List OpenElement}
    (hstack : ∀ e ∈ stack', Bears nameOf bound e) : Names nameOf document stack' head bound :=
  ⟨h.inDocument, hstack, h.headKept, h.tidy⟩

/-- An edit at a suitable place inserts elements that bear their names. -/
theorem edit (h : Names nameOf document stack head bound) {place : Place}
    (hplace : place.Suits nameOf) {edit : List Node → List Node} {inserted : List Node}
    (hedit : Inserts edit inserted) (htidy : KeepsTidy edit)
    (hinserted : ∀ e ∈ elements inserted, Bears nameOf bound e) :
    Names nameOf (editAt place edit document) stack head bound where
  inDocument := by
    refine forall_elements_editAt (fun siblings hsiblings => ?_) h.inDocument
    rw [hedit.elements_eq]
    exact List.forall_mem_append.2 ⟨hsiblings, hinserted⟩
  opened := h.opened
  headKept := h.headKept
  tidy := by
    refine tidy_editAt htidy h.tidy fun e he heq => ?_
    rw [(h.inDocument e he).name_eq]
    exact hplace e.id heq

/-- An element that is looked up in a document is found with its names, and an empty one takes its
place if it is not there. -/
theorem part (h : Names nameOf document stack head bound) {e : OpenElement}
    (he : Bears nameOf bound e) :
    (∀ f ∈ elementsIn ((find? e.id document).getD (.element e.id e.name [] [] [])),
      Bears nameOf bound f) ∧
    TidyIn ((find? e.id document).getD (.element e.id e.name [] [] [])) := by
  cases hfind : find? e.id document with
  | none =>
    refine ⟨forall_elementsIn_element.2 ⟨⟨he.lt, he.name_eq⟩, ?_⟩, Or.inl rfl, trivial, trivial⟩
    simp [elements]
  | some part => exact ⟨forall_elementsIn_find? h.inDocument hfind, tidyIn_of_find? h.tidy hfind⟩

end Names

theorem suits_lastIn (nameOf : Nat → ElementName) (id : Nat) : (Place.lastIn id).Suits nameOf :=
  fun _ heq => Place.noConfusion heq

theorem suits_before (nameOf : Nat → ElementName) (id : Nat) : (Place.before id).Suits nameOf :=
  fun _ heq => Place.noConfusion heq

/-- The contents of a template are a fitting place if it bears that name. -/
theorem Bears.suits_lastInContents {nameOf : Nat → ElementName} {bound : Nat} {e : OpenElement}
    (h : Bears nameOf bound e) (htemplate : e.name.isHtml "template" = true) :
    (Place.lastInContents e.id).Suits nameOf := by
  intro id heq
  rw [← Place.lastInContents.inj heq, ← h.name_eq]
  exact htemplate

namespace Builder

/-- The place in an element suits a naming that the element bears. -/
theorem suits_placeInside {nameOf : Nat → ElementName} {bound : Nat} {e : OpenElement}
    (h : Bears nameOf bound e) : (placeInside e).Suits nameOf := by
  unfold placeInside
  split
  · rename_i htemplate
    exact h.suits_lastInContents htemplate
  · exact suits_lastIn nameOf e.id

/-- The place before the innermost table suits a naming that the open elements bear. -/
theorem suits_fosterPlace {nameOf : Nat → ElementName} {bound : Nat} {stack : List OpenElement}
    (h : ∀ e ∈ stack, Bears nameOf bound e) : (fosterPlace stack).Suits nameOf := by
  induction stack with
  | nil => exact suits_lastIn nameOf 0
  | cons e es ih =>
    cases es with
    | nil => exact suits_lastIn nameOf e.id
    | cons next es =>
      rw [fosterPlace]
      · split
        · rename_i htemplate
          exact (h e List.mem_cons_self).suits_lastInContents htemplate
        · split
          · exact suits_before nameOf e.id
          · exact ih fun f hf => h f (List.mem_cons_of_mem e hf)
      · exact fun heq => List.cons_ne_nil next es heq

/-! ## Coherent states -/

/-- There is a naming for a document, its open elements and its head. -/
def HasNames (document : Document) (stack : List OpenElement) (head : Option OpenElement)
    (bound : Nat) : Prop :=
  ∃ nameOf, Names nameOf document stack head bound

/-- A state whose elements go by the names of their identities. -/
def Coherent (b : Builder) : Prop :=
  HasNames b.document b.stack b.head b.nextId

variable {b : Builder}

/-- Coherence is about the document, the open elements, the head and the next number. -/
@[simp] theorem coherent_mk {mode returnMode : InsertionMode} {templateModes : List InsertionMode}
    {content : ContentMode} {document : Document} {stack : List OpenElement}
    {formatting : List Formatting} {tableText : List (List Char)} {head : Option OpenElement}
    {form : Option Nat} {quirky framesetAllowed skipsNewline fosters : Bool} {nextId : Nat} :
    Coherent ⟨mode, returnMode, templateModes, content, document, stack, formatting, tableText,
      head, form, quirky, framesetAllowed, skipsNewline, fosters, nextId⟩ ↔
      HasNames document stack head nextId :=
  Iff.rfl

@[simp] theorem hasNames_iff_coherent :
    HasNames b.document b.stack b.head b.nextId ↔ b.Coherent :=
  Iff.rfl

end Builder

end TemplateImports.Markup
