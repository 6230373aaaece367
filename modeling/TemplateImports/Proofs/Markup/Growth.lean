import TemplateImports.Proofs.Markup.Contents
import TemplateImports.Markup.Construction.Formatting

/-!
# The construction keeps what it has inserted

Between two tokens a document only grows: every element that has been inserted is still there, with
its name and its attributes, wherever it has moved since.  The invariant behind this is that each
open element stands in the document, and that no open element stands below one that was opened
inside it.

Main results:

- Structure `Fits` is the invariant of a construction.
- Definition `Builder.Grows` says that the document has got elements of the given kinds and no
  others.
- Theorem `Sound.isIn_place` says that every insertion place is in the document.
- Theorem `Sound.extend` inserts nodes; theorem `Sound.extendOpen` inserts an element and opens it.
-/

namespace TemplateImports.Markup

open Node

/-! ## Kinds of elements -/

/-- The kind of an element: its name and its attributes. -/
abbrev Kind := ElementName × List Attribute

/-- The kind of an open element. -/
def OpenElement.kind (e : OpenElement) : Kind :=
  (e.name, e.attributes)

/-- The kinds of the elements of a document. -/
def Node.kinds (nodes : List Node) : List Kind :=
  (elements nodes).map OpenElement.kind

/-- The kind of an element is one of the kinds of its document. -/
theorem Node.mem_kinds_of_mem {e : OpenElement} {nodes : List Node} (h : e ∈ elements nodes) :
    e.kind ∈ kinds nodes :=
  List.mem_map_of_mem h

/-- The identity of an element is one of the identities of its document. -/
theorem Node.mem_ids_of_mem {e : OpenElement} {nodes : List Node} (h : e ∈ elements nodes) :
    e.id ∈ ids nodes := by
  rw [← map_id_elements]
  exact List.mem_map_of_mem h

/-! ## The invariant -/

/-- What holds of a document under construction, its open and its remembered elements, and its
head. -/
structure Fits (document : Document) (stack : List OpenElement) (formatting : List Formatting)
    (head : Option OpenElement) (nextId : Nat) : Prop where
  distinct : (ids document).Nodup
  fresh : ∀ id ∈ ids document, id < nextId
  rooted : 0 ∈ ids document
  /-- The root stands below no element. -/
  rootOnTop : ∀ top, 0 ∉ under top document
  opened : ∀ e ∈ stack, e ∈ elements document
  stackDistinct : (stack.map (·.id)).Nodup
  /-- No open element stands below one that was opened inside it, and the root is opened first. -/
  ordered : stack.Pairwise fun inner outer => outer.id ∉ under inner.id document ∧ inner.id ≠ 0
  remembered : ∀ e, .element e ∈ formatting → e.kind ∈ kinds document
  headKept : ∀ e ∈ head, e ∈ elements document
  tidy : Tidy document

namespace Builder

/-- A state whose parts fit together. -/
def Sound (b : Builder) : Prop :=
  Fits b.document b.stack b.formatting b.head b.nextId

/-- A state is sound, and its document holds just the elements of an earlier one and elements of
the given kinds. -/
def Grows (b b' : Builder) (made : List Kind) : Prop :=
  b'.Sound ∧ ∀ k, k ∈ kinds b'.document ↔ k ∈ kinds b.document ∨ k ∈ made

namespace Grows

variable {b b' b'' : Builder} {made made' : List Kind}

/-- A state that has grown is sound. -/
theorem sound (h : Grows b b' made) : b'.Sound :=
  h.1

/-- A state grows by exactly the kinds that are made. -/
theorem mem_iff (h : Grows b b' made) {k : Kind} :
    k ∈ kinds b'.document ↔ k ∈ kinds b.document ∨ k ∈ made :=
  h.2 k

/-- A sound state grows by nothing into itself. -/
theorem refl (h : b.Sound) : Grows b b [] :=
  ⟨h, fun k => by simp⟩

/-- What two steps make is made by both together. -/
theorem trans (h : Grows b b' made) (h' : b'.Sound → Grows b' b'' made') :
    Grows b b'' (made ++ made') := by
  refine ⟨(h' h.sound).sound, fun k => ?_⟩
  rw [(h' h.sound).mem_iff, h.mem_iff, List.mem_append, or_assoc]

/-- First nothing is made, then something. -/
theorem andThen (h : Grows b b' []) (h' : b'.Sound → Grows b' b'' made) : Grows b b'' made :=
  h.trans h'

/-- First something is made, then nothing. -/
theorem andKeeps (h : Grows b b' made) (h' : b'.Sound → Grows b' b'' []) : Grows b b'' made := by
  have htrans := h.trans h'
  rwa [List.append_nil] at htrans

/-- What is made counts only as a set. -/
theorem congr (h : Grows b b' made) (hmade : ∀ k, k ∈ made ↔ k ∈ made') : Grows b b' made' :=
  ⟨h.1, fun k => by rw [h.mem_iff, hmade]⟩

end Grows

namespace Sound

variable {b : Builder}

/-! ## Closing elements -/

/-- Closing elements loses none. -/
theorem close (h : b.Sound) {stack : List OpenElement} (hsub : stack.Sublist b.stack) :
    Grows b { b with stack } [] := by
  refine ⟨⟨h.distinct, h.fresh, h.rooted, h.rootOnTop, ?_, ?_, ?_, h.remembered, h.headKept,
    h.tidy⟩, fun k => by simp⟩
  · exact fun e he => h.opened e (hsub.subset he)
  · exact h.stackDistinct.sublist (hsub.map _)
  · exact h.ordered.sublist hsub

theorem pop (h : b.Sound) : Grows b b.pop [] :=
  h.close (List.drop_sublist 1 _)

/-- Closing elements up to the first that passes a test adds no kind. -/
theorem popThrough (h : b.Sound) (test : ElementName → Bool) : Grows b (b.popThrough test) [] :=
  h.close ((List.drop_sublist 1 _).trans (List.dropWhile_sublist _))

theorem popInside (h : b.Sound) (test : ElementName → Bool) : Grows b (b.popInside test) [] :=
  h.close (List.dropWhile_sublist _)

theorem popThroughLabel (h : b.Sound) (label : String) : Grows b (b.popThroughLabel label) [] :=
  h.popThrough _

theorem closeImplied (h : b.Sound) (labels : List String) : Grows b (b.closeImplied labels) [] :=
  h.close (List.dropWhile_sublist _)

theorem closeImpliedExcept (h : b.Sound) (label : String) :
    Grows b (b.closeImpliedExcept label) [] :=
  h.closeImplied _

/-- Taking an element off the open ones adds no kind. -/
theorem dropOpen (h : b.Sound) (id : Nat) : Grows b (b.dropOpen id) [] :=
  h.close List.filter_sublist

/-- Closing a paragraph adds no kind. -/
theorem closeParagraph (h : b.Sound) : Grows b b.closeParagraph [] :=
  (h.closeImpliedExcept "p").andThen fun h => h.popThroughLabel "p"

theorem closeParagraphInScope (h : b.Sound) : Grows b b.closeParagraphInScope [] := by
  unfold Builder.closeParagraphInScope
  split
  · exact h.closeParagraph
  · exact .refl h

/-! ## Remembered elements -/

/-- Remembered elements need not be open, but elements of their kinds stand in the document. -/
theorem remember (h : b.Sound) {formatting : List Formatting}
    (hkinds : ∀ e, .element e ∈ formatting → e.kind ∈ kinds b.document) :
    Grows b { b with formatting } [] :=
  ⟨⟨h.distinct, h.fresh, h.rooted, h.rootOnTop, h.opened, h.stackDistinct, h.ordered, hkinds,
    h.headKept, h.tidy⟩, fun k => by simp⟩

/-- Forgetting elements changes nothing. -/
theorem forgetSome (h : b.Sound) {formatting : List Formatting}
    (hsub : formatting.Sublist b.formatting) : Grows b { b with formatting } [] :=
  h.remember fun e he => h.remembered e (hsub.subset he)

/-- A formatting element that is forgotten stays in the document. -/
theorem forget (h : b.Sound) (id : Nat) : Grows b (b.forget id) [] :=
  h.forgetSome List.filter_sublist

/-- Forgetting formatting elements up to the last marker adds no kind. -/
theorem clearToMarker (h : b.Sound) : Grows b b.clearToMarker [] :=
  h.forgetSome ((List.drop_sublist 1 _).trans (List.dropWhile_sublist _))

/-- A marker among the remembered elements adds no kind. -/
theorem pushMarker (h : b.Sound) : Grows b b.pushMarker [] := by
  refine h.remember fun e he => h.remembered e ?_
  rcases List.mem_cons.1 he with he | he
  · simp at he
  · exact he

/-! ## Places -/

/-- Every open element is in the document. -/
theorem id_mem_of_open (h : b.Sound) {e : OpenElement} (he : e ∈ b.stack) :
    e.id ∈ ids b.document :=
  mem_ids_of_mem (h.opened e he)

theorem anchor_placeInside (e : OpenElement) : (placeInside e).anchor = e.id := by
  unfold placeInside
  split <;> rfl

/-- The place in an element of the document is in the document. -/
theorem isIn_placeInside (h : b.Sound) {e : OpenElement} (he : e ∈ elements b.document) :
    (placeInside e).IsIn b.document := by
  unfold placeInside
  split
  · rename_i htemplate
    exact Place.isIn_lastInContents h.distinct he htemplate
  · exact Place.isIn_lastIn (mem_ids_of_mem he)

/-- Content that a table refuses goes to an element that is open, or to the root. -/
theorem anchor_fosterPlace_mem (stack : List OpenElement) :
    (fosterPlace stack).anchor = 0 ∨ ∃ e ∈ stack, (fosterPlace stack).anchor = e.id := by
  fun_induction fosterPlace stack with
  | case1 => exact Or.inl rfl
  | case2 root => exact Or.inr ⟨root, List.mem_cons_self, rfl⟩
  | case3 e es _ htemplate => exact Or.inr ⟨e, List.mem_cons_self, rfl⟩
  | case4 e es _ htemplate htable => exact Or.inr ⟨e, List.mem_cons_self, rfl⟩
  | case5 e es _ htemplate htable ih =>
    rcases ih with ih | ⟨e', he', ih⟩
    · exact Or.inl ih
    · exact Or.inr ⟨e', List.mem_cons_of_mem e he', ih⟩

/-- The place before the innermost table is in the document. -/
theorem isIn_fosterPlace (h : b.Sound) {stack : List OpenElement}
    (hstack : ∀ e ∈ stack, e ∈ elements b.document) : (fosterPlace stack).IsIn b.document := by
  fun_induction fosterPlace stack with
  | case1 => exact Place.isIn_lastIn h.rooted
  | case2 root => exact Place.isIn_lastIn (mem_ids_of_mem (hstack root List.mem_cons_self))
  | case3 e es _ htemplate =>
    exact Place.isIn_lastInContents h.distinct (hstack e List.mem_cons_self) htemplate
  | case4 e es _ htemplate htable =>
    exact Place.isIn_before (mem_ids_of_mem (hstack e List.mem_cons_self))
  | case5 e es _ htemplate htable ih =>
    exact ih fun f hf => hstack f (List.mem_cons_of_mem e hf)

/-- The place for a node in an open element is in the document. -/
theorem isIn_placeFor (h : b.Sound) {target : OpenElement} (htarget : target ∈ b.stack) :
    (b.placeFor target).IsIn b.document := by
  unfold placeFor
  split
  · exact h.isIn_fosterPlace h.opened
  · exact h.isIn_placeInside (h.opened target htarget)

/-- Every insertion place is in the document. -/
theorem isIn_place (h : b.Sound) : b.place.IsIn b.document := by
  unfold place
  split
  · exact Place.isIn_lastIn h.rooted
  · rename_i e es hstack
    exact h.isIn_placeFor (by rw [hstack]; exact List.mem_cons_self)

/-! ## Insertions -/

/-- A document that holds more nodes than another one, all of whose elements stay where they are. -/
structure Extends (document document' : Document) (inserted : List Node) : Prop where
  elements_perm : (elements document').Perm (elements document ++ elements inserted)
  under_or : ∀ {top id : Nat}, id ∈ under top document' →
    id ∈ under top document ∨ id ∈ ids inserted
  tidy : Tidy document → Tidy document'

/-- An edit at a place of the document adds just what it inserts. -/
theorem extends_editAt (h : b.Sound) {place : Place} (hplace : place.IsIn b.document)
    {edit : List Node → List Node} {inserted : List Node} (hedit : Inserts edit inserted)
    (htidy : KeepsTidy edit) : Extends b.document (editAt place edit b.document) inserted where
  elements_perm := elements_editAt_perm hedit h.distinct hplace.anchor_mem
  under_or := by
    intro top id hid
    rcases mem_under_editAt hedit h.distinct hid with hid | hid | ⟨hid, -⟩
    · exact Or.inl hid
    · exact Or.inr (mem_ids_of_mem_under hid)
    · exact Or.inr hid
  tidy h := tidy_editAt htidy h hplace.contents

namespace Extends

variable {document document' inserted : List Node}

theorem ids_perm (h : Extends document document' inserted) :
    (ids document').Perm (ids document ++ ids inserted) := by
  have hperm := h.elements_perm.map (·.id)
  rwa [List.map_append, map_id_elements, map_id_elements, map_id_elements] at hperm

/-- An element is an old one, or inserted. -/
theorem mem_elements (h : Extends document document' inserted) {e : OpenElement} :
    e ∈ elements document' ↔ e ∈ elements document ∨ e ∈ elements inserted := by
  rw [h.elements_perm.mem_iff, List.mem_append]

/-- A kind is an old one, or inserted. -/
theorem mem_kinds (h : Extends document document' inserted) {k : Kind} :
    k ∈ kinds document' ↔ k ∈ kinds document ∨ k ∈ kinds inserted := by
  rw [kinds, (h.elements_perm.map OpenElement.kind).mem_iff, List.map_append, List.mem_append]
  rfl

end Extends

/-- Nodes with new identities may be inserted, and one of their elements may be opened. -/
theorem extend (h : b.Sound) {document : Document} {inserted : List Node}
    (hextends : Extends b.document document inserted) {nextId : Nat} (hnext : b.nextId ≤ nextId)
    (hnodup : (ids inserted).Nodup) (hnew : ∀ id ∈ ids inserted, b.nextId ≤ id ∧ id < nextId) :
    Grows b { b with document, nextId } (kinds inserted) := by
  have hids := hextends.ids_perm
  have hold : ∀ id ∈ ids b.document, id ∉ ids inserted := by
    intro id hid hid'
    have hlt := h.fresh id hid
    have hle := (hnew id hid').1
    omega
  refine ⟨⟨?_, ?_, ?_, ?_, ?_, h.stackDistinct, ?_, ?_, ?_, hextends.tidy h.tidy⟩,
    fun k => hextends.mem_kinds⟩
  · rw [hids.nodup_iff, List.nodup_append]
    refine ⟨h.distinct, hnodup, ?_⟩
    rintro id hid _ hid' rfl
    exact hold id hid hid'
  · intro id hid
    rcases List.mem_append.1 (hids.mem_iff.1 hid) with hid | hid
    · exact Nat.lt_of_lt_of_le (h.fresh id hid) hnext
    · exact (hnew id hid).2
  · exact hids.mem_iff.2 (List.mem_append_left _ h.rooted)
  · intro top hmem
    rcases hextends.under_or hmem with hmem | hmem
    · exact h.rootOnTop top hmem
    · exact hold _ h.rooted hmem
  · exact fun e he => hextends.mem_elements.2 (Or.inl (h.opened e he))
  · refine h.ordered.imp_of_mem fun {inner outer} _ houter hnot => ⟨fun hmem => ?_, hnot.2⟩
    rcases hextends.under_or hmem with hmem | hmem
    · exact hnot.1 hmem
    · exact hold _ (h.id_mem_of_open houter) hmem
  · exact fun e he => hextends.mem_kinds.2 (Or.inl (h.remembered e he))
  · exact fun e he => hextends.mem_elements.2 (Or.inl (h.headKept e he))

/-- Nodes without elements may be inserted. -/
theorem extendQuietly (h : b.Sound) {document : Document} {inserted : List Node}
    (hextends : Extends b.document document inserted) (hnone : elements inserted = []) :
    Grows b { b with document } [] := by
  have hids : ids inserted = [] := by rw [← map_id_elements, hnone, List.map_nil]
  have hkinds : kinds inserted = [] := by rw [kinds, hnone, List.map_nil]
  have hgrows := h.extend hextends (Nat.le_refl b.nextId) (by simp [hids]) (by simp [hids])
  rwa [hkinds] at hgrows

/-- Text adds no kind. -/
theorem insertText (h : b.Sound) (cs : List Char) : Grows b (b.insertText cs) [] :=
  h.extendQuietly (h.extends_editAt h.isIn_place (inserts_appendText _) (keepsTidy_appendText _))
    rfl

/-- A comment may be inserted at any place. -/
theorem insertCommentAt (h : b.Sound) {place : Place} (hplace : place.IsIn b.document)
    (value : String) :
    Grows b { b with document := editAt place (append (.comment value)) b.document } [] :=
  h.extendQuietly (h.extends_editAt hplace (inserts_append _) (keepsTidy_append trivial)) rfl

/-- A comment adds no kind. -/
theorem insertComment (h : b.Sound) (value : String) : Grows b (b.insertComment value) [] :=
  h.insertCommentAt h.isIn_place value

/-- The node of an element without content. -/
def leaf (id : Nat) (name : ElementName) (attributes : List Attribute) : Node :=
  .element id name attributes [] []

/-- An element without content is tidy. -/
theorem tidyIn_leaf (id : Nat) (name : ElementName) (attributes : List Attribute) :
    TidyIn (leaf id name attributes) :=
  ⟨Or.inl rfl, trivial, trivial⟩

/-- An element without content may be inserted at any place. -/
theorem extends_leaf (h : b.Sound) {place : Place} (hplace : place.IsIn b.document)
    (name : ElementName) (attributes : List Attribute) :
    Extends b.document (editAt place (append (leaf b.nextId name attributes)) b.document)
      [leaf b.nextId name attributes] :=
  h.extends_editAt hplace (inserts_append _) (keepsTidy_append (tidyIn_leaf _ _ _))

/-- An element without content is inserted. -/
theorem extendLeaf (h : b.Sound) {document : Document} {name : ElementName}
    {attributes : List Attribute}
    (hextends : Extends b.document document [leaf b.nextId name attributes]) :
    Grows b { b with document, nextId := b.nextId + 1 } [(name, attributes)] := by
  refine h.extend hextends (Nat.le_succ _) (by simp [leaf, ids, idsIn]) fun id hid => ?_
  simp only [leaf, ids, idsIn, List.append_nil, List.mem_singleton] at hid
  omega

/-- An element without content is inserted and opened, while others may be closed. -/
theorem extendOpen (h : b.Sound) {document : Document} {name : ElementName}
    {attributes : List Attribute}
    (hextends : Extends b.document document [leaf b.nextId name attributes])
    {stack : List OpenElement} (hsub : stack.Sublist b.stack) :
    Grows b
      { b with document, nextId := b.nextId + 1, stack := ⟨b.nextId, name, attributes⟩ :: stack }
      [(name, attributes)] := by
  have hgrows : Grows b { b with document, nextId := b.nextId + 1, stack } [(name, attributes)] :=
    (h.extendLeaf hextends).andKeeps fun h' => h'.close hsub
  have hopen : ∀ e ∈ stack, e.id < b.nextId := fun e he =>
    h.fresh _ (h.id_mem_of_open (hsub.subset he))
  have hself := hgrows.sound
  have hroot := h.fresh 0 h.rooted
  refine ⟨⟨hself.distinct, hself.fresh, hself.rooted, hself.rootOnTop, ?_, ?_, ?_,
    hself.remembered, hself.headKept, hself.tidy⟩, hgrows.2⟩
  · intro e he
    rcases List.mem_cons.1 he with rfl | he
    · exact hextends.mem_elements.2 (Or.inr List.mem_cons_self)
    · exact hself.opened e he
  · rw [List.map_cons, List.nodup_cons]
    refine ⟨fun hmem => ?_, hself.stackDistinct⟩
    obtain ⟨e, he, heq⟩ := List.mem_map.1 hmem
    have hlt := hopen e he
    rw [heq] at hlt
    exact Nat.lt_irrefl _ hlt
  · refine List.Pairwise.cons (fun e he => ⟨fun hmem => ?_, Nat.ne_of_gt hroot⟩) hself.ordered
    have hlt := hopen e he
    rcases hextends.under_or hmem with hmem | hmem
    · rw [under_of_not_mem fun hid => Nat.lt_irrefl _ (h.fresh _ hid)] at hmem
      simp at hmem
    · simp only [leaf, ids, idsIn, List.append_nil, List.mem_singleton] at hmem
      omega

/-- An element that is inserted adds its kind. -/
theorem insertClosed (h : b.Sound) (name : ElementName) (attributes : List Attribute) :
    Grows b (b.insertClosed name attributes) [(name, attributes)] :=
  h.extendLeaf (h.extends_leaf h.isIn_place name attributes)

/-- An element that is inserted and opened adds its kind. -/
theorem insertElement (h : b.Sound) (name : ElementName) (attributes : List Attribute) :
    Grows b (b.insertElement name attributes) [(name, attributes)] :=
  h.extendOpen (h.extends_leaf h.isIn_place name attributes) (List.Sublist.refl _)

/-- The element of a start tag adds its kind. -/
theorem insertTag (h : b.Sound) (tag : Tag) :
    Grows b (b.insertTag tag) [(.html tag.name, tag.attributes)] :=
  h.insertElement _ _

theorem insertLabel (h : b.Sound) (label : String) :
    Grows b (b.insertLabel label) [(.html label, [])] :=
  h.insertElement _ _

theorem insertVoid (h : b.Sound) (tag : Tag) :
    Grows b (b.insertVoid tag) [(.html tag.name, tag.attributes)] :=
  h.insertClosed _ _

/-- An element whose content is text adds its kind. -/
theorem insertTextElement (h : b.Sound) (tag : Tag) (content : ContentMode) :
    Grows b (b.insertTextElement tag content) [(.html tag.name, tag.attributes)] :=
  h.insertTag tag

end Sound

end Builder

end TemplateImports.Markup
