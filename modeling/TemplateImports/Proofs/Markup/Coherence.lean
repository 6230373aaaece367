import Mathlib.Data.List.Basic
import TemplateImports.Markup.Construction
import TemplateImports.Proofs.Markup.Naming

/-!
# Coherent states

The operations of a construction keep the names of identities: elements are closed or opened again
under the names that they have, a new element gets a new identity, and parts of the document that
move elsewhere take their elements along.

Main results:

- Theorem `Coherent.withStack` closes elements; theorem `Coherent.insertLeaf` inserts a new one.
- Theorem `Coherent.rebuild` follows a formatting element that is rebuilt around a block.
- Theorem `Coherent.endFormatting` says that the end tag of a formatting element keeps a state
  coherent.
-/

namespace TemplateImports.Markup

open Node

namespace Builder

namespace Coherent

variable {b : Builder}

/-! ## Closing elements -/

/-- Open elements may be closed. -/
theorem withStack (h : b.Coherent) {stack : List OpenElement} (hsub : stack ⊆ b.stack) :
    HasNames b.document stack b.head b.nextId := by
  obtain ⟨nameOf, h⟩ := h
  exact ⟨nameOf, h.withStack fun e he => h.opened e (hsub he)⟩

/-- The innermost element is closed. -/
@[simp] theorem pop (h : b.Coherent) : b.pop.Coherent :=
  h.withStack (List.drop_subset _ _)

/-- Elements are closed up to and including the first that passes a test. -/
@[simp] theorem popThrough (h : b.Coherent) (test : ElementName → Bool) :
    (b.popThrough test).Coherent :=
  h.withStack (List.Subset.trans (List.drop_subset _ _) (List.dropWhile_sublist _).subset)

/-- The elements inside the first that passes a test are closed. -/
@[simp] theorem popInside (h : b.Coherent) (test : ElementName → Bool) :
    (b.popInside test).Coherent :=
  h.withStack (List.dropWhile_sublist _).subset

@[simp] theorem popThroughLabel (h : b.Coherent) (label : String) :
    (b.popThroughLabel label).Coherent :=
  h.popThrough _

/-- Elements whose end is implied are closed. -/
@[simp] theorem closeImplied (h : b.Coherent) (labels : List String) :
    (b.closeImplied labels).Coherent :=
  h.withStack (List.dropWhile_sublist _).subset

@[simp] theorem closeImpliedExcept (h : b.Coherent) (label : String) :
    (b.closeImpliedExcept label).Coherent :=
  h.closeImplied _

/-- An open element is taken out of the stack. -/
@[simp] theorem dropOpen (h : b.Coherent) (id : Nat) : (b.dropOpen id).Coherent :=
  h.withStack List.filter_sublist.subset

/-- A paragraph is closed with all that is open inside it. -/
@[simp] theorem closeParagraph (h : b.Coherent) : b.closeParagraph.Coherent :=
  (h.closeImpliedExcept "p").popThroughLabel "p"

/-- A paragraph is closed where one is in scope. -/
@[simp] theorem closeParagraphInScope (h : b.Coherent) : b.closeParagraphInScope.Coherent := by
  unfold Builder.closeParagraphInScope
  split
  · exact h.closeParagraph
  · exact h

/-! ## Other parts of a state -/

/-- What is remembered about formatting has no part in coherence. -/
@[simp] theorem forget_iff {id : Nat} : (b.forget id).Coherent ↔ b.Coherent :=
  Iff.rfl

@[simp] theorem pushMarker_iff : b.pushMarker.Coherent ↔ b.Coherent :=
  Iff.rfl

@[simp] theorem clearToMarker_iff : b.clearToMarker.Coherent ↔ b.Coherent :=
  Iff.rfl

@[simp] theorem forbidFrameset_iff : b.forbidFrameset.Coherent ↔ b.Coherent :=
  Iff.rfl

/-- Reading raw text has no part in coherence. -/
@[simp] theorem readText_iff {content : ContentMode} :
    (b.readText content).Coherent ↔ b.Coherent :=
  Iff.rfl

/-- The mode has no part in coherence. -/
@[simp] theorem resetMode_iff : b.resetMode.Coherent ↔ b.Coherent :=
  Iff.rfl

/-- The innermost element is remembered as the head. -/
@[simp] theorem rememberHead (h : b.Coherent) : b.rememberHead.Coherent := by
  obtain ⟨nameOf, h⟩ := h
  exact ⟨nameOf, h.inDocument, h.opened, fun e he => h.opened e (List.mem_of_mem_head? he), h.tidy⟩

/-! ## Inserting nodes -/

end Coherent

variable {b : Builder}

/-- The place for a node in an open element suits the names of the document. -/
theorem suits_placeFor {nameOf : Nat → ElementName} {bound : Nat}
    (hstack : ∀ e ∈ b.stack, Bears nameOf bound e) {target : OpenElement}
    (htarget : Bears nameOf bound target) : (b.placeFor target).Suits nameOf := by
  unfold placeFor
  split
  · exact suits_fosterPlace hstack
  · exact suits_placeInside htarget

/-- The place for the next node suits the names of the document. -/
theorem suits_place {nameOf : Nat → ElementName} {bound : Nat}
    (hstack : ∀ e ∈ b.stack, Bears nameOf bound e) : b.place.Suits nameOf := by
  unfold place
  split
  · exact suits_lastIn nameOf 0
  · rename_i e es heq
    exact suits_placeFor hstack (hstack e (by rw [heq]; exact List.mem_cons_self))

namespace Coherent

/-- Text is inserted into a coherent state. -/
@[simp] theorem insertText (h : b.Coherent) (cs : List Char) : (b.insertText cs).Coherent := by
  obtain ⟨nameOf, h⟩ := h
  exact ⟨nameOf, h.edit (suits_place h.opened) (inserts_appendText _) (keepsTidy_appendText _)
    (by simp [elements])⟩

/-- A comment is inserted into a coherent state. -/
@[simp] theorem insertComment (h : b.Coherent) (value : String) :
    (b.insertComment value).Coherent := by
  obtain ⟨nameOf, h⟩ := h
  exact ⟨nameOf, h.edit (suits_place h.opened) (inserts_append _) (keepsTidy_append trivial)
    (by simp [elements, elementsIn])⟩

/-- A comment is inserted at the end of the root element. -/
@[simp] theorem insertCommentInRoot (h : b.Coherent) (value : String) :
    (b.insertCommentInRoot value).Coherent := by
  unfold Builder.insertCommentInRoot
  split
  · obtain ⟨nameOf, h⟩ := h
    exact ⟨nameOf, h.edit (suits_lastIn nameOf _) (inserts_append _) (keepsTidy_append trivial)
      (by simp [elements, elementsIn])⟩
  · exact h

/-- Nodes without elements may be put behind everything else. -/
theorem append (h : b.Coherent) {node : Node} (hnode : elementsIn node = []) (htidy : TidyIn node) :
    HasNames (b.document ++ [node]) b.stack b.head b.nextId := by
  obtain ⟨nameOf, h⟩ := h
  refine ⟨nameOf, ?_, h.opened, h.headKept, tidy_append.2 ⟨h.tidy, htidy, trivial⟩⟩
  exact forall_elements_append.2 ⟨h.inDocument, by simp [elements, hnode]⟩

/-- A comment is inserted after everything else. -/
@[simp] theorem insertCommentAtEnd (h : b.Coherent) (value : String) :
    (b.insertCommentAtEnd value).Coherent :=
  h.append rfl trivial

/-- A new element gets a new identity, and may be opened. -/
theorem insertLeaf (h : b.Coherent) (name : ElementName) (attributes : List Attribute) :
    HasNames
      (editAt b.place (Node.append (.element b.nextId name attributes [] [])) b.document)
      (⟨b.nextId, name, attributes⟩ :: b.stack) b.head (b.nextId + 1) := by
  obtain ⟨nameOf, h⟩ := h
  have hgrown := h.grow name
  have hnew := Names.bears_new nameOf b.nextId name attributes
  have htidy : TidyIn (.element b.nextId name attributes [] []) := ⟨Or.inl rfl, trivial, trivial⟩
  refine ⟨_, (hgrown.edit (suits_place hgrown.opened) (inserts_append _)
    (keepsTidy_append htidy) ?_).withStack ?_⟩
  · simpa [elements, elementsIn] using hnew
  · exact List.forall_mem_cons.2 ⟨hnew, hgrown.opened⟩

/-- An element is inserted and opened in a coherent state. -/
@[simp] theorem insertElement (h : b.Coherent) (name : ElementName) (attributes : List Attribute) :
    (b.insertElement name attributes).Coherent :=
  h.insertLeaf name attributes

/-- An element is inserted in a coherent state, and not opened. -/
@[simp] theorem insertClosed (h : b.Coherent) (name : ElementName) (attributes : List Attribute) :
    (b.insertClosed name attributes).Coherent :=
  Coherent.withStack (b := b.insertElement name attributes) (h.insertElement name attributes)
    (List.subset_cons_self _ _)

@[simp] theorem insertTag (h : b.Coherent) (tag : Tag) : (b.insertTag tag).Coherent :=
  h.insertElement _ _

@[simp] theorem insertLabel (h : b.Coherent) (label : String) : (b.insertLabel label).Coherent :=
  h.insertElement _ _

@[simp] theorem insertVoid (h : b.Coherent) (tag : Tag) : (b.insertVoid tag).Coherent :=
  h.insertClosed _ _

@[simp] theorem insertTextElement (h : b.Coherent) (tag : Tag) (content : ContentMode) :
    (b.insertTextElement tag content).Coherent :=
  h.insertTag tag

/-- A foreign element is opened, or inserted if it closes itself. -/
@[simp] theorem openForeign (h : b.Coherent) (space : Namespace) (label : String) (tag : Tag) :
    (b.openForeign space label tag).Coherent := by
  unfold Builder.openForeign
  dsimp only
  split
  · exact h.insertClosed _ _
  · exact h.insertElement _ _

/-- The root element starts the document of a coherent state. -/
@[simp] theorem insertRoot (h : b.Coherent) (attributes : List Attribute) :
    (b.insertRoot attributes).Coherent := by
  obtain ⟨nameOf, h⟩ := h
  have hgrown := h.grow (.html "html")
  have hnew := Names.bears_new nameOf b.nextId (.html "html") attributes
  refine ⟨_, ?_, List.forall_mem_cons.2 ⟨hnew, hgrown.opened⟩, hgrown.headKept, ?_⟩
  · refine forall_elements_append.2 ⟨hgrown.inDocument, fun e he => ?_⟩
    rw [List.mem_singleton.1 he]
    exact hnew
  · exact tidy_append.2 ⟨hgrown.tidy, ⟨Or.inl rfl, trivial, trivial⟩, trivial⟩

/-- More attributes of an element change no name. -/
@[simp] theorem mergeAttributes (h : b.Coherent) (id : Nat) (attributes : List Attribute) :
    (b.mergeAttributes id attributes).Coherent := by
  obtain ⟨nameOf, h⟩ := h
  refine ⟨nameOf, ?_, h.opened, h.headKept, tidy_addAttributes _ _ h.tidy⟩
  exact forall_elements_addAttributes _ _ (fun _ _ he => ⟨he.lt, he.name_eq⟩) h.inDocument

/-- A second root tag adds attributes to the root element. -/
@[simp] theorem mergeRoot (h : b.Coherent) (tag : Tag) : (b.mergeRoot tag).Coherent := by
  unfold Builder.mergeRoot
  split
  · split
    · exact h
    · exact h.mergeAttributes _ _
  · exact h

/-- An element may be taken out of the document. -/
theorem removed (h : b.Coherent) (id : Nat) {stack : List OpenElement} (hsub : stack ⊆ b.stack) :
    HasNames (Node.remove id b.document) stack b.head b.nextId := by
  obtain ⟨nameOf, h⟩ := h
  exact ⟨nameOf, forall_elements_remove _ h.inDocument, fun e he => h.opened e (hsub he),
    h.headKept, tidy_remove _ h.tidy⟩

/-! ## Formatting elements -/

/-- Remembered elements are opened again in a coherent state. -/
theorem reopen (h : b.Coherent) (entries : List Formatting) : (b.reopen entries).Coherent := by
  induction entries generalizing b with
  | nil => exact h
  | cons entry entries ih =>
    cases entry with
    | marker => exact ih h
    | element e =>
      exact ih (b := { b.insertElement e.name e.attributes with
        formatting := .element { e with id := b.nextId } ::
          (b.insertElement e.name e.attributes).formatting }) (h.insertElement _ _)

/-- Formatting elements are opened again behind a block. -/
@[simp] theorem reconstruct (h : b.Coherent) : b.reconstruct.Coherent :=
  reopen (b := { b with formatting := b.formatting.dropWhile (!b.needsNoOpening ·) }) h _

/-- A formatting element is opened and remembered. -/
@[simp] theorem insertFormatting (h : b.Coherent) (tag : Tag) :
    (b.insertFormatting tag).Coherent := by
  unfold Builder.insertFormatting
  dsimp only
  split
  · cases (b.recentFormatting.filter
      (sameFormatting ⟨b.nextId, .html tag.name, tag.attributes⟩)).getLast? with
    | none => exact h.insertTag tag
    | some f => exact insertTag (b := b.forget f.id) h tag
  · exact h.insertTag tag

/-- An end tag without rules of its own keeps the state coherent. -/
@[simp] theorem endOrdinary (h : b.Coherent) (label : String) : (b.endOrdinary label).Coherent := by
  unfold Builder.endOrdinary
  split
  · split
    · exact (h.closeImpliedExcept label).withStack
        (List.Subset.trans (List.drop_subset _ _) (List.dropWhile_sublist _).subset)
    · exact h
  · exact h

end Coherent

/-! ## Rebuilding formatting elements -/

/-- Rebuilding what stands between a formatting element and a block closes nothing yet. -/
theorem stack_rebuildBetween (r : Rebuilding) (count : Nat) (es : List OpenElement) :
    (rebuildBetween r count es).builder.stack = r.builder.stack := by
  induction es generalizing r count with
  | nil => rfl
  | cons e es ih =>
    unfold rebuildBetween
    split
    · exact ih _ _
    · split
      · exact ih _ _
      · exact ih _ _

/-- The rebuilt elements bear new names, around the part that moves. -/
theorem hasNames_rebuildBetween {r : Rebuilding} {others : List OpenElement}
    (h : HasNames (r.moving :: r.builder.document) (r.rebuilt ++ others) r.builder.head
      r.builder.nextId) (count : Nat) (es : List OpenElement) :
    HasNames ((rebuildBetween r count es).moving :: (rebuildBetween r count es).builder.document)
      ((rebuildBetween r count es).rebuilt ++ others) (rebuildBetween r count es).builder.head
      (rebuildBetween r count es).builder.nextId := by
  induction es generalizing r count with
  | nil => exact h
  | cons e es ih =>
    unfold rebuildBetween
    split
    · exact ih (r := { r with builder := r.builder.forget e.id }) h _
    · split
      · refine ih ?_ _
        obtain ⟨nameOf, h⟩ := h
        have hgrown := h.grow e.name
        have hnew := Names.bears_new nameOf r.builder.nextId e.name e.attributes
        obtain ⟨hmoving, hdocument⟩ := forall_elements_cons.1 hgrown.inDocument
        refine ⟨_, ?_, ?_, hgrown.headKept, ?_⟩
        · refine forall_elements_cons.2 ⟨forall_elementsIn_element.2 ⟨hnew, ?_, ?_⟩, hdocument⟩
          · exact forall_elements_cons.2 ⟨hmoving, by simp [elements]⟩
          · simp [elements]
        · intro f hf
          rw [List.append_assoc, List.mem_append, List.singleton_append, List.mem_cons] at hf
          rcases hf with hf | rfl | hf
          · exact hgrown.opened f (List.mem_append_left _ hf)
          · exact hnew
          · exact hgrown.opened f (List.mem_append_right _ hf)
        · exact ⟨⟨Or.inl rfl, ⟨hgrown.tidy.1, trivial⟩, trivial⟩, hgrown.tidy.2⟩
      · exact ih h _

/-- What was rebuilt may be put in a place that suits the open elements. -/
theorem hasNames_editAt_moving {r : Rebuilding} {others stack : List OpenElement} {place : Place}
    (h : HasNames (r.moving :: r.builder.document) (r.rebuilt ++ others) r.builder.head
      r.builder.nextId)
    (hplace : ∀ nameOf, (∀ e ∈ others, Bears nameOf r.builder.nextId e) → place.Suits nameOf)
    (hstack : stack ⊆ r.rebuilt ++ others) :
    HasNames (editAt place (Node.append r.moving) r.builder.document) stack r.builder.head
      r.builder.nextId := by
  obtain ⟨nameOf, h⟩ := h
  obtain ⟨hmoving, hdocument⟩ := forall_elements_cons.1 h.inDocument
  have hnodes : Names nameOf r.builder.document [] r.builder.head r.builder.nextId :=
    ⟨hdocument, by simp, h.headKept, h.tidy.2⟩
  have hsuits := hplace nameOf fun e he => h.opened e (List.mem_append_right _ he)
  refine ⟨nameOf, (hnodes.edit hsuits (inserts_append _) (keepsTidy_append h.tidy.1) ?_).withStack
    fun e he => h.opened e (hstack he)⟩
  exact forall_elements_cons.2 ⟨hmoving, by simp [elements]⟩

namespace Coherent

/-- A block may be taken out of the document, with a copy of a formatting element around its
content. -/
theorem takeOut (h : b.Coherent) (formatting : OpenElement) {block : OpenElement}
    (hblock : block ∈ b.stack) :
    HasNames
      (((Node.find? block.id b.document).getD
        (.element block.id block.name [] [] [])).wrapChildren b.nextId formatting.name
          formatting.attributes :: Node.remove block.id b.document)
      ({ formatting with id := b.nextId } :: b.stack) b.head (b.nextId + 1) := by
  obtain ⟨nameOf, h⟩ := h
  have hgrown := h.grow formatting.name
  have hnew := Names.bears_new nameOf b.nextId formatting.name formatting.attributes
  obtain ⟨hpart, htidy⟩ := hgrown.part (hgrown.opened block hblock)
  refine ⟨_, forall_elements_cons.2 ⟨forall_elementsIn_wrapChildren hpart hnew, ?_⟩,
    List.forall_mem_cons.2 ⟨hnew, hgrown.opened⟩, hgrown.headKept, ?_⟩
  · exact forall_elements_remove _ hgrown.inDocument
  · exact ⟨tidyIn_wrapChildren _ _ _ htidy, tidy_remove _ hgrown.tidy⟩

/-- Rebuilding a formatting element moves a block with everything in it, and all elements keep their
names. -/
theorem rebuild (h : b.Coherent) {formatting block : OpenElement}
    {inner between outer : List OpenElement} (hblock : block ∈ b.stack) (hinner : inner ⊆ b.stack)
    (houter : outer ⊆ b.stack) : (b.rebuild formatting block inner between outer).Coherent := by
  unfold Builder.rebuild
  dsimp only
  generalize hr : ({
    builder := { b with document := Node.remove block.id b.document, nextId := b.nextId + 1 }
    moving := ((Node.find? block.id b.document).getD
      (.element block.id block.name [] [] [])).wrapChildren b.nextId formatting.name
        formatting.attributes } : Rebuilding) = r
  have hnames := @hasNames_rebuildBetween r ({ formatting with id := b.nextId } :: b.stack)
    (by rw [← hr]; exact h.takeOut formatting hblock) 0 between
  have hopen : (rebuildBetween r 0 between).builder.stack = b.stack := by
    rw [stack_rebuildBetween r 0 between, ← hr]
  have hkept : inner ++ { formatting with id := b.nextId } :: block ::
      (rebuildBetween r 0 between).rebuilt ++ outer ⊆
      (rebuildBetween r 0 between).rebuilt ++ { formatting with id := b.nextId } :: b.stack := by
    intro e he
    simp only [List.mem_append, List.mem_cons] at he ⊢
    rcases he with (he | rfl | rfl | he) | he
    · exact Or.inr (Or.inr (hinner he))
    · exact Or.inr (Or.inl rfl)
    · exact Or.inr (Or.inr hblock)
    · exact Or.inl he
    · exact Or.inr (Or.inr (houter he))
  -- Where the copy is remembered matters neither to the document nor to the open elements.
  split
  all_goals
    refine hasNames_editAt_moving hnames (fun nameOf hbears => ?_) hkept
    have hstack := (List.forall_mem_cons.1 hbears).2
    cases outer with
    | nil => exact suits_lastIn nameOf 0
    | cons target outer =>
      exact suits_placeFor (by rw [hopen]; exact hstack)
        (hstack target (houter List.mem_cons_self))

/-- A formatting element is closed, however often it is rebuilt. -/
theorem endFormattingLoop (h : b.Coherent) (label : String) (n : Nat) :
    (endFormattingLoop label n b).Coherent := by
  induction n generalizing b with
  | zero => exact h
  | succ n ih =>
    unfold Builder.endFormattingLoop
    split
    · exact h.endOrdinary label
    · rename_i e _
      dsimp only
      split
      · exact h
      · rename_i top outer hstack
        have houter : outer ⊆ b.stack := fun f hf =>
          (List.dropWhile_sublist _).subset (by rw [hstack]; exact List.mem_cons_of_mem _ hf)
        split
        · exact h
        · split
          · exact Coherent.withStack h houter
          · rename_i block inner hinside
            have hsub : ∀ f ∈ block :: inner, f ∈ b.stack := by
              intro f hf
              rw [← hinside] at hf
              exact (List.takeWhile_sublist _).subset
                (List.mem_reverse.1 ((List.dropWhile_sublist _).subset hf))
            refine ih (h.rebuild (hsub block List.mem_cons_self) (fun f hf => ?_) houter)
            exact hsub f (List.mem_cons_of_mem _ (List.mem_reverse.1 hf))

/-- The end tag of a formatting element keeps the state coherent. -/
@[simp] theorem endFormatting (h : b.Coherent) (label : String) :
    (b.endFormatting label).Coherent := by
  unfold Builder.endFormatting
  split
  · rename_i e outer hstack
    split
    · exact h.withStack (by rw [hstack]; exact List.subset_cons_self _ _)
    · exact h.endFormattingLoop label 8
  · exact h

end Coherent

end Builder

end TemplateImports.Markup
