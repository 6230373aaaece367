import Mathlib.Data.List.Forall2
import TemplateImports.Proofs.Markup.Tidiness
import TemplateImports.Proofs.Template.DocumentOrder
import TemplateImports.Proofs.Template.Mentions

/-!
# What a document is turned into

A forest is made of a document node by node, and nothing gets lost on the way, nothing is repeated
and nothing changes its place: the nodes of the forest in document order are those of the document
that stay, each at the depth that the staying elements around it make.  Comments, declarations and
blank texts go, and so do the wrappers of a document, unless the template wrote them itself; what
stands inside a wrapper then takes its place.

An element gets back the name and the attributes that its markers record.  What the record holds
differs from the name in the document in letter case only, so no marker can come back from it.

Main results:

- Definition `Markup.Node.places` lists the nodes of a document with the depths that they will have.
- Structure `Element.Restores` says what an element of a document is turned into.
- Theorem `ofDocument_faithful` compares the nodes of a document with those of its forest, for every
  document in which only templates have contents, as every document that a text is parsed to.
-/

namespace TemplateImports

/-! ## Documents in document order -/

namespace Markup.Node

mutual

/-- The nodes of a tree in document order, each with the number of elements around it that stay.
The children of an element come before its contents. -/
def placesIn (stays : Node → Bool) (depth : Nat) : Node → List (Nat × Node)
  | .element id name attributes children contents =>
    let node := Node.element id name attributes children contents
    let inner := if stays node then depth + 1 else depth
    (depth, node) :: (places stays inner children ++ places stays inner contents)
  | node => [(depth, node)]

/-- The nodes of a document in document order, each with the number of elements around it that
stay. -/
def places (stays : Node → Bool) (depth : Nat) : List Node → List (Nat × Node)
  | [] => []
  | node :: nodes => node.placesIn stays depth ++ places stays depth nodes

end

end Markup.Node

namespace Template

open Markup (Attribute)
open Markup.Node (Tidy TidyIn)
open Node (isWrapper isBlankText originalTag originalAttributes spellings ofNode ofDocument)

/-- Whether a node of a document stays in the forest. -/
def stays (keepsWrappers : Bool) : Markup.Node → Bool
  | .element _ name _ _ _ => keepsWrappers || !isWrapper name.label
  | .text value => !isBlankText value
  | .comment _ => false
  | .doctype _ => false

/-! ## Elements -/

/-- An attribute has the value of another one, and the same name but for the case of its letters. -/
structure SameButCase (a b : Attribute) : Prop where
  name : b.name.toList.map Char.toLower = a.name.toList.map Char.toLower
  value : b.value = a.value

/-- An attribute of a document that does not record a spelling. -/
def isPlain (a : Attribute) : Bool :=
  a.name != nameMarker && a.name != caseMarker

/-- An element of a template is what an element of a document with the given label and attributes
is turned into. -/
structure Element.Restores (label : String) (attributes : List Attribute) (e : Element) : Prop where
  tag_of_unmarked : (∀ a ∈ attributes, a.name ≠ nameMarker) → e.tag = label
  tag_of_marked : ∀ before a after, attributes = before ++ a :: after → a.name = nameMarker →
    (∀ b ∈ after, b.name ≠ nameMarker) → e.tag = a.value
  attributes : List.Forall₂ SameButCase (attributes.filter isPlain) e.attributes
  plain : ∀ a ∈ e.attributes, isPlain a = true
  directives : e.directives = e.attributes.filterMap fun a => Directive.parse a.name a.value

theorem originalTag_of_unmarked {label : String} {attributes : List Attribute}
    (h : ∀ a ∈ attributes, a.name ≠ nameMarker) : originalTag label attributes = label := by
  have hnone : attributes.filter (·.name == nameMarker) = [] :=
    List.filter_eq_nil_iff.2 fun a ha => by simpa using h a ha
  rw [originalTag, hnone]
  rfl

theorem originalTag_of_last_marker {label : String} {before after : List Attribute} {a : Attribute}
    (ha : a.name = nameMarker) (hafter : ∀ b ∈ after, b.name ≠ nameMarker) :
    originalTag label (before ++ a :: after) = a.value := by
  have hnone : after.filter (·.name == nameMarker) = [] :=
    List.filter_eq_nil_iff.2 fun b hb => by simpa using hafter b hb
  rw [originalTag, List.filter_append, List.filter_cons_of_pos (by simpa using ha), hnone]
  simp

/-- A recorded spelling is the name that it stands for, in other letter case. -/
theorem map_toLower_of_lookup_spellings {attributes : List Attribute} {name spelling : String}
    (h : (spellings attributes).lookup name = some spelling) :
    spelling.toList.map Char.toLower = name.toList := by
  obtain ⟨before, after, hrecord, -⟩ := List.lookup_eq_some_iff.1 h
  have hmem : (name, spelling) ∈ spellings attributes := by simp [hrecord]
  obtain ⟨n, -, hn⟩ := List.mem_map.1 (List.mem_reverse.1 hmem)
  obtain ⟨rfl, rfl⟩ := Prod.mk.inj hn
  simp

/-- A restored name differs from the name in the document in letter case only. -/
theorem map_toLower_restored (attributes : List Attribute) (name : String) :
    (((spellings attributes).lookup name).getD name).toList.map Char.toLower =
      name.toList.map Char.toLower := by
  cases h : (spellings attributes).lookup name with
  | none => rfl
  | some spelling =>
    rw [Option.getD_some, map_toLower_of_lookup_spellings h, ← map_toLower_of_lookup_spellings h,
      List.map_map]
    simp

/-- Only a marker is restored to a marker. -/
theorem restored_ne {attributes : List Attribute} {name marker : String}
    (hmarker : marker.toList.map Char.toLower = marker.toList) (h : name ≠ marker) :
    ((spellings attributes).lookup name).getD name ≠ marker := by
  cases hlookup : (spellings attributes).lookup name with
  | none => exact h
  | some spelling =>
    rw [Option.getD_some]
    rintro rfl
    have hname := map_toLower_of_lookup_spellings hlookup
    rw [hmarker] at hname
    exact h (String.toList_inj.1 hname).symm

theorem restores_original (label : String) (attributes : List Attribute) :
    Element.Restores label attributes
      ⟨originalTag label attributes, originalAttributes attributes,
        (originalAttributes attributes).filterMap fun a => Directive.parse a.name a.value⟩ where
  tag_of_unmarked := originalTag_of_unmarked
  tag_of_marked before a after hcut ha hafter := by
    rw [hcut]
    exact originalTag_of_last_marker ha hafter
  attributes := by
    refine List.forall₂_map_right_iff.2 (List.forall₂_same.2 fun a _ => ?_)
    exact ⟨map_toLower_restored attributes a.name, rfl⟩
  plain a ha := by
    obtain ⟨b, hb, rfl⟩ := List.mem_map.1 ha
    obtain ⟨hname, hcase⟩ := Bool.and_eq_true_iff.1 (List.mem_filter.1 hb).2
    refine Bool.and_eq_true_iff.2 ⟨?_, ?_⟩
    · exact bne_iff_ne.2 (restored_ne (by decide) (bne_iff_ne.1 hname))
    · exact bne_iff_ne.2 (restored_ne (by decide) (bne_iff_ne.1 hcase))
  directives := rfl

/-! ## Documents -/

/-- A node of a forest is what a node of a document is turned into, at the depth that it has to
have. -/
inductive StandsFor : Nat × Markup.Node → Placed → Prop where
  | element {around : List String} {id : Nat} {name : Markup.ElementName}
      {attributes : List Attribute} {children contents : List Markup.Node} {e : Element}
      {inner : List Node} (h : e.Restores name.label attributes) :
      StandsFor (around.length, .element id name attributes children contents)
        ⟨around, .element e.tag e.attributes e.directives inner⟩
  | text {around : List String} {value : String} :
      StandsFor (around.length, .text value) ⟨around, .text value⟩

mutual

theorem standsFor_ofNode (keepsWrappers : Bool) (around : List String) {node : Markup.Node}
    (h : TidyIn node) :
    List.Forall₂ StandsFor
      ((node.placesIn (stays keepsWrappers) around.length).filter (stays keepsWrappers ·.2))
      (Node.places around (ofNode keepsWrappers node)) := by
  cases node with
  | element id name attributes children contents =>
    obtain ⟨hcontents, hchildren, hinner⟩ := h
    rw [Markup.Node.placesIn, ofNode]
    by_cases hvanishes : (isWrapper name.label && !keepsWrappers) = true
    · have hgone : stays keepsWrappers (.element id name attributes children contents) = false := by
        simp_all [stays]
      have hnone : contents = [] :=
        hcontents.resolve_right
          (by simp [isHtml_template_of_isWrapper (Bool.and_eq_true_iff.1 hvanishes).1])
      rw [if_pos hvanishes, List.filter_cons_of_neg (by simp [hgone]), hgone, hnone,
        Markup.Node.places, List.append_nil]
      exact standsFor_ofDocument keepsWrappers around hchildren
    · have hstays : stays keepsWrappers (.element id name attributes children contents) = true := by
        by_cases hwrapper : isWrapper name.label = true <;> simp_all [stays]
      rw [if_neg hvanishes, List.filter_cons_of_pos (by exact hstays), hstays, if_pos rfl,
        List.filter_append, Node.places, Node.places, List.append_nil, Node.ofAttributes,
        Node.placesIn, Node.places_append]
      have hinside := List.rel_append
        (standsFor_ofDocument keepsWrappers (originalTag name.label attributes :: around) hchildren)
        (standsFor_ofDocument keepsWrappers (originalTag name.label attributes :: around) hinner)
      exact .cons (.element (restores_original name.label attributes)) hinside
  | text value =>
    rw [show (Markup.Node.text value).placesIn (stays keepsWrappers) around.length =
      [(around.length, .text value)] from rfl, ofNode]
    by_cases hblank : isBlankText value = true
    · rw [List.filter_cons_of_neg (by simp [stays, hblank]), if_pos hblank]
      exact .nil
    · rw [List.filter_cons_of_pos (by simp [stays, hblank]), if_neg hblank]
      exact .cons .text .nil
  | comment value => exact .nil
  | doctype declaration => exact .nil

/-- The nodes of a forest are the nodes of the document that stay, in the same order. -/
theorem standsFor_ofDocument (keepsWrappers : Bool) (around : List String)
    {nodes : List Markup.Node} (h : Tidy nodes) :
    List.Forall₂ StandsFor
      ((Markup.Node.places (stays keepsWrappers) around.length nodes).filter
        (stays keepsWrappers ·.2))
      (Node.places around (ofDocument keepsWrappers nodes)) := by
  cases nodes with
  | nil => exact .nil
  | cons node nodes =>
    rw [Markup.Node.places, List.filter_append, ofDocument, Node.places_append]
    exact List.rel_append (standsFor_ofNode keepsWrappers around h.1)
      (standsFor_ofDocument keepsWrappers around h.2)

end

/-- A document is turned into a forest faithfully: what stays is found in the forest in the same
order and at the depth that it has without the wrappers that vanish. -/
theorem ofDocument_faithful :
    (∀ (keepsWrappers : Bool) (document : List Markup.Node), Tidy document →
      List.Forall₂ StandsFor
        ((Markup.Node.places (stays keepsWrappers) 0 document).filter (stays keepsWrappers ·.2))
        (Node.places [] (ofDocument keepsWrappers document))) ∧
    ∀ text, Tidy (Markup.Document.parse text) :=
  ⟨fun keepsWrappers _ h => standsFor_ofDocument keepsWrappers [] h, Markup.tidy_parse⟩

/-- A document with wrappers, a comment, a blank text, and a template with contents of its own. -/
def wrappedTemplate : List Markup.Node :=
  [.comment "made by hand",
    .element 0 (.html "html") []
      [.element 1 (.html "body") []
        [.text "  ",
          .element 2 (.html "template")
            [⟨nameMarker, "Template"⟩, ⟨caseMarker, "dataId"⟩, ⟨"dataid", "1"⟩, ⟨"v-if", "ok"⟩]
            [] [.text "inside"]] []] []]

theorem ofDocument_faithful_wrappedTemplate :
    Tidy wrappedTemplate ∧
      List.Forall₂ StandsFor
        ((Markup.Node.places (stays false) 0 wrappedTemplate).filter (stays false ·.2))
        (Node.places [] (ofDocument false wrappedTemplate)) := by
  have htidy : Tidy wrappedTemplate := by
    simp [wrappedTemplate, Tidy, TidyIn, Markup.ElementName.isHtml, Markup.ElementName.html]
  exact ⟨htidy, ofDocument_faithful.1 false wrappedTemplate htidy⟩

end Template

end TemplateImports
