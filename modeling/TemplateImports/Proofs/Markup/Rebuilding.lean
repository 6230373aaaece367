import TemplateImports.Proofs.Markup.Growth

/-!
# Formatting elements are rebuilt without loss

Formatting elements are opened again behind a block, and rebuilt inside a block when their end tag
comes too early.  The rebuilding takes the block out of the document and puts it in again at another
place, inside new elements.  Nothing is lost, since the new place is never below the block, and the
new elements are of kinds that the document holds already.

Main results:

- Theorem `Sound.reconstruct` opens remembered elements again.
- Theorem `Sound.BlockInside.rebuild` rebuilds a formatting element inside a block.
- Theorem `Sound.endFormatting` handles the end tag of a formatting element.
-/

namespace TemplateImports.Markup.Builder

open Node

/-! ## Wrapping -/

/-- Puts a node inside an element. -/
def wrap (e : OpenElement) (node : Node) : Node :=
  .element e.id e.name e.attributes [node] []

/-- Puts a node inside elements, innermost first. -/
def wrapAll (es : List OpenElement) (node : Node) : Node :=
  es.foldl (fun node e => wrap e node) node

theorem elementsIn_wrap (e : OpenElement) (node : Node) :
    elementsIn (wrap e node) = e :: elementsIn node := by
  simp [wrap, elementsIn, elements]

/-- The element around a node comes before the elements in it. -/
theorem idsIn_wrap (e : OpenElement) (node : Node) : idsIn (wrap e node) = e.id :: idsIn node := by
  rw [← map_id_elementsIn, elementsIn_wrap, List.map_cons, map_id_elementsIn]

/-- Below the element around a node stands all of the node. -/
theorem underIn_wrap_self (e : OpenElement) (node : Node) :
    underIn e.id (wrap e node) = idsIn node := by
  simp [wrap, underIn, ids]

/-- Below any other element stands what stood there in the node. -/
theorem underIn_wrap_of_ne {e : OpenElement} {top : Nat} (htop : e.id ≠ top) (node : Node) :
    underIn top (wrap e node) = underIn top node := by
  simp [wrap, underIn, htop, under]

/-- Wrapping a node adds the elements around it and loses none. -/
theorem elementsIn_wrapAll_perm (es : List OpenElement) (node : Node) :
    (elementsIn (wrapAll es node)).Perm (es ++ elementsIn node) := by
  induction es generalizing node with
  | nil => exact List.Perm.refl _
  | cons e es ih =>
    have hperm := ih (wrap e node)
    rw [elementsIn_wrap] at hperm
    exact hperm.trans List.perm_middle

/-- What is in a wrapped node is one of the elements around it, or was in it. -/
theorem mem_idsIn_wrapAll {es : List OpenElement} {node : Node} {id : Nat} :
    id ∈ idsIn (wrapAll es node) ↔ id ∈ es.map (·.id) ∨ id ∈ idsIn node := by
  have hperm := (elementsIn_wrapAll_perm es node).map (·.id)
  rw [List.map_append, map_id_elementsIn, map_id_elementsIn] at hperm
  rw [hperm.mem_iff, List.mem_append]

/-- A tidy node stays tidy in elements around it. -/
theorem tidyIn_wrapAll (es : List OpenElement) {node : Node} (h : TidyIn node) :
    TidyIn (wrapAll es node) := by
  induction es generalizing node with
  | nil => exact h
  | cons e es ih => exact ih ⟨Or.inl rfl, ⟨h, trivial⟩, trivial⟩

/-- Below an element that is not around a node stands what stood there in it. -/
theorem underIn_wrapAll_of_not_mem {es : List OpenElement} {top : Nat} (node : Node)
    (htop : top ∉ es.map (·.id)) : underIn top (wrapAll es node) = underIn top node := by
  induction es generalizing node with
  | nil => rfl
  | cons e es ih =>
    rw [List.map_cons, List.mem_cons, not_or] at htop
    exact (ih (wrap e node) htop.2).trans (underIn_wrap_of_ne (Ne.symm htop.1) node)

/-- Of the elements around a node, none stands below an inner one. -/
theorem pairwise_wrapAll {es : List OpenElement} {node : Node} (hnodup : (es.map (·.id)).Nodup)
    (hnode : ∀ e ∈ es, e.id ∉ idsIn node) :
    es.Pairwise fun inner outer => outer.id ∉ underIn inner.id (wrapAll es node) := by
  induction es generalizing node with
  | nil => exact List.Pairwise.nil
  | cons e es ih =>
    rw [List.map_cons, List.nodup_cons] at hnodup
    refine List.Pairwise.cons (fun outer houter => ?_) (ih hnodup.2 fun outer houter => ?_)
    · have hunder : underIn e.id (wrapAll (e :: es) node) = idsIn node :=
        (underIn_wrapAll_of_not_mem (wrap e node) hnodup.1).trans (underIn_wrap_self e node)
      rw [hunder]
      exact hnode outer (List.mem_cons_of_mem _ houter)
    · rw [idsIn_wrap, List.mem_cons, not_or]
      refine ⟨fun heq => hnodup.1 ?_, hnode outer (List.mem_cons_of_mem _ houter)⟩
      rw [← heq]
      exact List.mem_map_of_mem houter

/-- Wrapping the children of an element adds the element around them. -/
theorem elementsIn_wrapChildren_perm {target : Nat} {part : Node}
    (hpart : part.isElement target = true) (e : OpenElement) :
    (elementsIn (part.wrapChildren e.id e.name e.attributes)).Perm (e :: elementsIn part) := by
  cases part with
  | element id name attributes children contents =>
    simp only [wrapChildren, elementsIn, elements, List.append_nil]
    exact List.Perm.swap _ _ _
  | text value => exact absurd hpart (by simp [isElement])
  | comment value => exact absurd hpart (by simp [isElement])
  | doctype declaration => exact absurd hpart (by simp [isElement])

/-- What is in an element whose children have been wrapped. -/
theorem mem_idsIn_wrapChildren {target : Nat} {part : Node}
    (hpart : part.isElement target = true) (e : OpenElement) {id : Nat} :
    id ∈ idsIn (part.wrapChildren e.id e.name e.attributes) ↔ id = e.id ∨ id ∈ idsIn part := by
  have hperm := (elementsIn_wrapChildren_perm hpart e).map (·.id)
  rw [List.map_cons, map_id_elementsIn, map_id_elementsIn] at hperm
  rw [hperm.mem_iff, List.mem_cons]

/-- Wrapping the children of an element puts just the new element below others. -/
theorem mem_underIn_wrapChildren {target : Nat} {part : Node}
    (hpart : part.isElement target = true) {e : OpenElement} {top id : Nat} (htop : e.id ≠ top)
    (hid : id ∈ underIn top (part.wrapChildren e.id e.name e.attributes)) :
    id ∈ underIn top part ∨ (id = e.id ∧ top = target) := by
  cases part with
  | element i name attributes children contents =>
    have hi : i = target := beq_iff_eq.1 hpart
    subst hi
    simp only [wrapChildren, underIn] at hid ⊢
    split at hid
    · rename_i heq
      rw [if_pos heq]
      simp only [ids, idsIn, List.append_nil, List.cons_append, List.mem_cons] at hid
      exact hid.elim (fun hid => Or.inr ⟨hid, heq.symm⟩) Or.inl
    · rename_i hne
      rw [if_neg hne]
      simp only [under, underIn, htop, if_false, List.append_nil] at hid
      exact Or.inl hid
  | text value => exact absurd hpart (by simp [isElement])
  | comment value => exact absurd hpart (by simp [isElement])
  | doctype declaration => exact absurd hpart (by simp [isElement])

/-- Below the new element stands what stood below the element around it. -/
theorem mem_underIn_wrapChildren_self {target : Nat} {part : Node}
    (hpart : part.isElement target = true) {e : OpenElement} (he : e.id ∉ idsIn part) {id : Nat}
    (hid : id ∈ underIn e.id (part.wrapChildren e.id e.name e.attributes)) :
    id ∈ underIn target part := by
  cases part with
  | element i name attributes children contents =>
    have hi : i = target := beq_iff_eq.1 hpart
    subst hi
    simp only [idsIn, List.mem_cons, List.mem_append, not_or] at he
    simp only [wrapChildren, underIn, under, ids, Ne.symm he.1, if_true, if_false,
      List.append_nil, under_of_not_mem he.2.2] at hid ⊢
    exact List.mem_append_left _ hid
  | text value => exact absurd hpart (by simp [isElement])
  | comment value => exact absurd hpart (by simp [isElement])
  | doctype declaration => exact absurd hpart (by simp [isElement])

/-- An element does not stand below itself. -/
theorem not_mem_underIn_self {target : Nat} {part : Node} (hpart : part.isElement target = true)
    (hnodup : (idsIn part).Nodup) : target ∉ underIn target part := by
  cases part with
  | element i name attributes children contents =>
    have hi : i = target := beq_iff_eq.1 hpart
    subst hi
    rw [idsIn, List.nodup_cons] at hnodup
    rw [underIn, if_pos rfl]
    exact hnodup.1
  | text value => exact absurd hpart (by simp [isElement])
  | comment value => exact absurd hpart (by simp [isElement])
  | doctype declaration => exact absurd hpart (by simp [isElement])

/-! ## Rebuilding -/

/-- What rebuilding the elements between a formatting element and a block comes to: new elements
around the moving part, of the kinds of the old ones. -/
structure Rebuilds (r r' : Rebuilding) (between made : List OpenElement) : Prop where
  builder : r'.builder =
    { r.builder with
      formatting := r'.builder.formatting, nextId := r.builder.nextId + made.length }
  moving : r'.moving = wrapAll made r.moving
  rebuilt : r'.rebuilt = r.rebuilt ++ made
  numbered : made.map (·.id) = List.range' r.builder.nextId made.length
  known : ∀ e ∈ made, ∃ e' ∈ between, e.kind = e'.kind
  remembered : ∀ e, .element e ∈ r'.builder.formatting →
    .element e ∈ r.builder.formatting ∨ e ∈ made

/-- A remembered element that replaces another one is the only new one. -/
theorem mem_replaceEntry {b : Builder} {id : Nat} {e f : OpenElement}
    (hf : .element f ∈ (b.replaceEntry id e).formatting) : .element f ∈ b.formatting ∨ f = e := by
  obtain ⟨entry, hentry, heq⟩ := List.mem_map.1 hf
  split at heq
  · rw [Formatting.element.injEq] at heq
    exact Or.inr heq.symm
  · rw [← heq]
    exact Or.inl hentry

/-- An element that is remembered behind another one is the only new one. -/
theorem mem_rememberAfter {b : Builder} {anchor old : Nat} {e f : OpenElement}
    (hf : .element f ∈ (b.rememberAfter anchor e old).formatting) :
    .element f ∈ b.formatting ∨ f = e := by
  have hmem := (List.mem_filter.1 hf).1
  rcases List.mem_append.1 hmem with hmem | hmem
  · exact Or.inl ((List.takeWhile_sublist _).subset hmem)
  · rcases List.mem_cons.1 hmem with hmem | hmem
    · rw [Formatting.element.injEq] at hmem
      exact Or.inr hmem
    · exact Or.inl ((List.dropWhile_sublist _).subset hmem)

/-- The loop over the elements in between makes new ones for some of them, around what it moves. -/
theorem rebuilds_rebuildBetween (r : Rebuilding) (count : Nat) (between : List OpenElement) :
    ∃ made, Rebuilds r (rebuildBetween r count between) between made := by
  induction between generalizing r count with
  | nil => exact ⟨[], rfl, rfl, (List.append_nil _).symm, rfl, by simp, fun e he => Or.inl he⟩
  | cons e es ih =>
    -- From the fourth element on they are only forgotten.  Before that, one that is remembered is
    -- made anew around what is moved, and any other one is passed over.
    unfold rebuildBetween
    split
    · obtain ⟨made, hmade⟩ := ih { r with builder := r.builder.forget e.id } (count + 1)
      refine ⟨made, hmade.builder, hmade.moving, hmade.rebuilt, hmade.numbered, ?_, ?_⟩
      · intro f hf
        obtain ⟨f', hf', hkind⟩ := hmade.known f hf
        exact ⟨f', List.mem_cons_of_mem _ hf', hkind⟩
      · intro f hf
        rcases hmade.remembered f hf with hf | hf
        · exact Or.inl (List.mem_filter.1 hf).1
        · exact Or.inr hf
    · split
      · obtain ⟨made, hmade⟩ := ih
          { builder :=
              { r.builder.replaceEntry e.id { e with id := r.builder.nextId } with
                nextId := r.builder.nextId + 1 }
            moving := wrap { e with id := r.builder.nextId } r.moving
            rebuilt := r.rebuilt ++ [{ e with id := r.builder.nextId }]
            anchor := r.anchor.or (some r.builder.nextId) } (count + 1)
        refine ⟨{ e with id := r.builder.nextId } :: made, ?_, hmade.moving, ?_, ?_, ?_, ?_⟩
        · refine hmade.builder.trans ?_
          simp only [replaceEntry, List.length_cons, Nat.add_assoc, Nat.add_comm 1]
          rfl
        · rw [List.append_cons]
          exact hmade.rebuilt
        · rw [List.map_cons, hmade.numbered, List.length_cons, List.range'_succ]
        · intro f hf
          rcases List.mem_cons.1 hf with rfl | hf
          · exact ⟨e, List.mem_cons_self, rfl⟩
          · obtain ⟨f', hf', hkind⟩ := hmade.known f hf
            exact ⟨f', List.mem_cons_of_mem _ hf', hkind⟩
        · intro f hf
          rcases hmade.remembered f hf with hf | hf
          · rcases mem_replaceEntry hf with hf | rfl
            · exact Or.inl hf
            · exact Or.inr List.mem_cons_self
          · exact Or.inr (List.mem_cons_of_mem _ hf)
      · obtain ⟨made, hmade⟩ := ih r (count + 1)
        refine ⟨made, hmade.builder, hmade.moving, hmade.rebuilt, hmade.numbered, ?_,
          hmade.remembered⟩
        intro f hf
        obtain ⟨f', hf', hkind⟩ := hmade.known f hf
        exact ⟨f', List.mem_cons_of_mem _ hf', hkind⟩

/-! ## Moving a block -/

/-- A block has been moved to another place, with new elements around it and one inside it. -/
structure Relocates (document document' : Document) (anchor : Nat) (block copy : OpenElement)
    (made : List OpenElement) : Prop where
  elements_perm : (elements document').Perm (elements document ++ copy :: made)
  /-- Only the new elements and the block can have got below another element. -/
  under_or : ∀ {top id : Nat}, id ∈ under top document' → id ∈ under top document ∨
    id ∈ (copy :: made).map (·.id) ∨ id = block.id ∨ id ∈ under block.id document
  /-- Below an element that is not around the new place there is nothing new. -/
  under_inside : ∀ {top id : Nat}, top ∉ (copy :: made).map (·.id) → anchor ≠ top →
    anchor ∉ under top document → id ∈ under top document' →
    id ∈ under top document ∨ (id = copy.id ∧ top = block.id)
  under_copy : ∀ {id : Nat}, id ∈ under copy.id document' →
    id ∈ under block.id document ∧ id ≠ block.id
  made_ordered : made.Pairwise fun inner outer => outer.id ∉ under inner.id document'
  tidy : Tidy document → Tidy document'

/-- A block that is taken out of a document, the element that is put around its content, the elements
that are put around the block, and the place that all of it goes to. -/
structure Moves (document : Document) (place : Place) (block copy : OpenElement)
    (made : List OpenElement) (part : Node) : Prop where
  distinct : (ids document).Nodup
  found : find? block.id document = some part
  extracts : Extracts block.id document part (remove block.id document)
  inDocument : place.IsIn document
  /-- The place is neither in the block nor below it. -/
  beyond : place.anchor ≠ block.id
  outside : place.anchor ∉ under block.id document
  nodup : ((copy :: made).map (·.id)).Nodup
  new : ∀ id ∈ (copy :: made).map (·.id), id ∉ ids document

/-- What is put at the new place. -/
def moving (copy : OpenElement) (made : List OpenElement) (part : Node) : Node :=
  wrapAll made (part.wrapChildren copy.id copy.name copy.attributes)

namespace Moves

variable {document : Document} {place : Place} {block copy : OpenElement}
  {made : List OpenElement} {part : Node} {top id : Nat}

/-- The part that is taken out holds each element once. -/
theorem nodup_part (h : Moves document place block copy made part) : (idsIn part).Nodup := by
  have hparts := h.extracts.ids_perm.nodup_iff.1 h.distinct
  exact (List.nodup_append.1 hparts).1

/-- What is left of the document holds each element once. -/
theorem nodup_rest (h : Moves document place block copy made part) :
    (ids (remove block.id document)).Nodup := by
  have hparts := h.extracts.ids_perm.nodup_iff.1 h.distinct
  exact (List.nodup_append.1 hparts).2.1

/-- The place is left where the block has been taken out. -/
theorem anchor_mem (h : Moves document place block copy made part) :
    place.anchor ∈ ids (remove block.id document) := by
  rcases h.extracts.mem_ids.1 h.inDocument.anchor_mem with hmem | hmem
  · exact absurd (h.extracts.under_target hmem) (not_or.2 ⟨h.beyond, h.outside⟩)
  · exact hmem

/-- The block does not go into a new element. -/
theorem anchor_not_new (h : Moves document place block copy made part) :
    place.anchor ∉ (copy :: made).map (·.id) :=
  fun hmem => h.new _ hmem h.inDocument.anchor_mem

/-- A new element is not in the block. -/
theorem not_mem_part (h : Moves document place block copy made part)
    (hid : id ∈ (copy :: made).map (·.id)) : id ∉ idsIn part :=
  fun hmem => h.new id hid (h.extracts.mem_ids.2 (Or.inl hmem))

/-- Nothing stands below a new element before it is put in. -/
theorem under_of_new (h : Moves document place block copy made part)
    (htop : top ∈ (copy :: made).map (·.id)) : under top (remove block.id document) = [] :=
  under_of_not_mem fun hmem => h.new top htop (h.extracts.mem_ids.2 (Or.inr hmem))

/-- The element around the content is none of those around the block. -/
theorem copy_not_mem_made (h : Moves document place block copy made part) :
    copy.id ∉ made.map (·.id) := by
  have hnodup := h.nodup
  rw [List.map_cons, List.nodup_cons] at hnodup
  exact hnodup.1

/-- The elements around the block are not in it. -/
theorem made_not_mem_wrapped (h : Moves document place block copy made part) :
    ∀ e ∈ made, e.id ∉ idsIn (part.wrapChildren copy.id copy.name copy.attributes) := by
  intro e he hmem
  have hmade : e.id ∈ made.map (·.id) := List.mem_map_of_mem he
  rcases (mem_idsIn_wrapChildren h.extracts.isElement copy).1 hmem with heq | hmem
  · exact h.copy_not_mem_made (heq ▸ hmade)
  · exact h.not_mem_part (List.mem_cons_of_mem _ hmade) hmem

/-- What is put in is new, or has been taken out. -/
theorem mem_idsIn_moving (h : Moves document place block copy made part)
    (hid : id ∈ idsIn (moving copy made part)) :
    id ∈ (copy :: made).map (·.id) ∨ id = block.id ∨ id ∈ under block.id document := by
  rw [moving, mem_idsIn_wrapAll, mem_idsIn_wrapChildren h.extracts.isElement] at hid
  rw [List.map_cons, List.mem_cons]
  rcases hid with hid | hid | hid
  · exact Or.inl (Or.inr hid)
  · exact Or.inl (Or.inl hid)
  · exact Or.inr (h.extracts.under_target hid)

/-- Below an element stands what was left there, what stands there in the moved part, and the whole
of that part if its place is there. -/
theorem mem_under (h : Moves document place block copy made part)
    (hid : id ∈ under top
      (editAt place (append (moving copy made part)) (remove block.id document))) :
    id ∈ under top (remove block.id document) ∨ id ∈ underIn top (moving copy made part) ∨
      (id ∈ idsIn (moving copy made part) ∧
        (place.anchor = top ∨ place.anchor ∈ under top (remove block.id document))) := by
  have hmem := mem_under_editAt (inserts_append (moving copy made part)) h.nodup_rest hid
  rwa [under, under, List.append_nil, ids, ids, List.append_nil] at hmem

/-- Below a new element stands only what stands there in the moved part. -/
theorem mem_underIn_of_new (h : Moves document place block copy made part)
    (htop : top ∈ (copy :: made).map (·.id))
    (hid : id ∈ under top
      (editAt place (append (moving copy made part)) (remove block.id document))) :
    id ∈ underIn top (moving copy made part) := by
  rcases h.mem_under hid with hid | hid | ⟨-, heq | hmem⟩
  · rw [h.under_of_new htop] at hid
    cases hid
  · exact hid
  · exact absurd (heq ▸ htop) h.anchor_not_new
  · rw [h.under_of_new htop] at hmem
    cases hmem

/-- The document keeps its elements and gets the new ones. -/
theorem elements_perm (h : Moves document place block copy made part) :
    (elements (editAt place (append (moving copy made part)) (remove block.id document))).Perm
      (elements document ++ copy :: made) := by
  refine (elements_editAt_perm (inserts_append _) h.nodup_rest h.anchor_mem).trans ?_
  rw [List.perm_iff_count]
  intro e
  have hall := h.extracts.elements_perm.count_eq e
  have hmoving := (elementsIn_wrapAll_perm made
    (part.wrapChildren copy.id copy.name copy.attributes)).count_eq e
  have hwrap := (elementsIn_wrapChildren_perm h.extracts.isElement copy).count_eq e
  simp only [moving, elements, List.append_nil, List.count_append, List.count_cons]
    at hall hmoving hwrap ⊢
  omega

/-- What stands below an element stood there before, is new, or comes from the block. -/
theorem under_or (h : Moves document place block copy made part)
    (hid : id ∈ under top
      (editAt place (append (moving copy made part)) (remove block.id document))) :
    id ∈ under top document ∨ id ∈ (copy :: made).map (·.id) ∨ id = block.id ∨
      id ∈ under block.id document := by
  rcases h.mem_under hid with hid | hid | ⟨hid, -⟩
  · exact Or.inl (h.extracts.under_rest hid)
  · exact Or.inr (h.mem_idsIn_moving (mem_idsIn_of_mem_underIn hid))
  · exact Or.inr (h.mem_idsIn_moving hid)

/-- Where the place is not below an element, nothing gets below it but the element around the
content of the block. -/
theorem under_inside (h : Moves document place block copy made part)
    (htop : top ∉ (copy :: made).map (·.id)) (hne : place.anchor ≠ top)
    (hnot : place.anchor ∉ under top document)
    (hid : id ∈ under top
      (editAt place (append (moving copy made part)) (remove block.id document))) :
    id ∈ under top document ∨ (id = copy.id ∧ top = block.id) := by
  rw [List.map_cons, List.mem_cons, not_or] at htop
  rcases h.mem_under hid with hid | hid | ⟨-, heq | hmem⟩
  · exact Or.inl (h.extracts.under_rest hid)
  · rw [moving, underIn_wrapAll_of_not_mem _ htop.2] at hid
    have hpart := mem_underIn_wrapChildren h.extracts.isElement (Ne.symm htop.1) hid
    exact hpart.imp_left h.extracts.under_part
  · exact absurd heq hne
  · exact absurd (h.extracts.under_rest hmem) hnot

/-- Below the element around the content of the block stands what stood below the block. -/
theorem under_copy (h : Moves document place block copy made part)
    (hid : id ∈ under copy.id
      (editAt place (append (moving copy made part)) (remove block.id document))) :
    id ∈ under block.id document ∧ id ≠ block.id := by
  have hmoving := h.mem_underIn_of_new List.mem_cons_self hid
  rw [moving, underIn_wrapAll_of_not_mem _ h.copy_not_mem_made] at hmoving
  have hpart := mem_underIn_wrapChildren_self h.extracts.isElement
    (h.not_mem_part List.mem_cons_self) hmoving
  refine ⟨h.extracts.under_part hpart, ?_⟩
  rintro rfl
  exact not_mem_underIn_self h.extracts.isElement h.nodup_part hpart

/-- No new element stands below one that was made before it. -/
theorem made_ordered (h : Moves document place block copy made part) :
    made.Pairwise fun inner outer => outer.id ∉ under inner.id
      (editAt place (append (moving copy made part)) (remove block.id document)) := by
  have hnodup := h.nodup
  rw [List.map_cons, List.nodup_cons] at hnodup
  refine (pairwise_wrapAll hnodup.2 h.made_not_mem_wrapped).imp_of_mem ?_
  intro inner outer hinner _ hordered hid
  exact hordered (h.mem_underIn_of_new
    (List.mem_cons_of_mem _ (List.mem_map_of_mem hinner)) hid)

/-- Moving a block keeps a document tidy. -/
theorem tidy (h : Moves document place block copy made part) (htidy : Tidy document) :
    Tidy (editAt place (append (moving copy made part)) (remove block.id document)) := by
  have hpart := tidyIn_wrapChildren copy.id copy.name copy.attributes
    (tidyIn_of_find? htidy h.found)
  refine tidy_editAt (keepsTidy_append (tidyIn_wrapAll made hpart)) (tidy_remove _ htidy) ?_
  intro e he
  exact h.inDocument.contents e
    (h.extracts.elements_perm.mem_iff.2 (List.mem_append_right _ he))

/-- The block is moved, with the new elements around it and in it. -/
theorem relocates (h : Moves document place block copy made part) :
    Relocates document
      (editAt place (append (moving copy made part)) (remove block.id document))
      place.anchor block copy made :=
  ⟨h.elements_perm, h.under_or, h.under_inside, h.under_copy, h.made_ordered, h.tidy⟩

end Moves

/-! ## Moving an open block -/

/-- An open block has been moved beyond itself and beyond what is open inside it.  The new elements
are numbered on, and they are of kinds that the document holds already. -/
structure Relocation (b : Builder) (document : Document) (anchor : Nat)
    (block copy : OpenElement) (made inner outer : List OpenElement) : Prop where
  sound : b.Sound
  relocates : Relocates b.document document anchor block copy made
  numbered : (copy :: made).map (·.id) = List.range' b.nextId (made.length + 1)
  opened : (inner ++ block :: outer).Sublist b.stack
  beyond : ∀ e ∈ inner ++ [block],
    e.id ≠ 0 ∧ anchor ≠ e.id ∧ anchor ∉ under e.id b.document
  known : ∀ e ∈ copy :: made, e.kind ∈ kinds b.document

namespace Relocation

variable {b : Builder} {document : Document} {anchor : Nat} {block copy e : OpenElement}
  {made inner outer : List OpenElement} {top id : Nat}

/-! ### New elements -/

/-- The new elements have the next free numbers. -/
theorem bounds_of_new (h : Relocation b document anchor block copy made inner outer)
    (hid : id ∈ (copy :: made).map (·.id)) :
    b.nextId ≤ id ∧ id < b.nextId + 1 + made.length := by
  rw [h.numbered, List.mem_range'_1] at hid
  omega

/-- An element of the old document is not new. -/
theorem not_new_of_mem (h : Relocation b document anchor block copy made inner outer)
    (hid : id ∈ ids b.document) : id ∉ (copy :: made).map (·.id) := by
  intro hmem
  have hlt := h.sound.fresh id hid
  have hle := (h.bounds_of_new hmem).1
  omega

/-- A new element is not the root. -/
theorem ne_zero_of_new (h : Relocation b document anchor block copy made inner outer)
    (hid : id ∈ (copy :: made).map (·.id)) : id ≠ 0 := by
  have hle := (h.bounds_of_new hid).1
  have hlt := h.sound.fresh 0 h.sound.rooted
  omega

theorem nodup_new (h : Relocation b document anchor block copy made inner outer) :
    ((copy :: made).map (·.id)).Nodup := by
  rw [h.numbered]
  exact List.nodup_range'

/-- A new element stood below no element. -/
theorem not_new_of_under (h : Relocation b document anchor block copy made inner outer)
    (hid : id ∈ under top b.document) : id ∉ (copy :: made).map (·.id) :=
  h.not_new_of_mem (mem_ids_of_mem_under hid)

/-! ### The document -/

/-- The new document holds the old elements and the new ones. -/
theorem ids_perm (h : Relocation b document anchor block copy made inner outer) :
    (ids document).Perm (ids b.document ++ (copy :: made).map (·.id)) := by
  have hperm := h.relocates.elements_perm.map (·.id)
  rwa [List.map_append, map_id_elements, map_id_elements] at hperm

/-- The new document holds each element once. -/
theorem nodup_ids (h : Relocation b document anchor block copy made inner outer) :
    (ids document).Nodup := by
  rw [h.ids_perm.nodup_iff, List.nodup_append]
  refine ⟨h.sound.distinct, h.nodup_new, ?_⟩
  rintro id hid _ hid' rfl
  exact h.not_new_of_mem hid hid'

/-- All numbers of the new document have been given out. -/
theorem fresh (h : Relocation b document anchor block copy made inner outer) :
    ∀ id ∈ ids document, id < b.nextId + 1 + made.length := by
  intro id hid
  rcases List.mem_append.1 (h.ids_perm.mem_iff.1 hid) with hid | hid
  · have hlt := h.sound.fresh id hid
    omega
  · exact (h.bounds_of_new hid).2

theorem mem_elements (h : Relocation b document anchor block copy made inner outer) :
    e ∈ elements document ↔ e ∈ elements b.document ∨ e ∈ copy :: made := by
  rw [h.relocates.elements_perm.mem_iff, List.mem_append]

/-- The new document has the kinds of the old one. -/
theorem mem_kinds (h : Relocation b document anchor block copy made inner outer) {k : Kind} :
    k ∈ kinds document ↔ k ∈ kinds b.document := by
  rw [kinds, (h.relocates.elements_perm.map OpenElement.kind).mem_iff, List.map_append,
    List.mem_append]
  refine ⟨?_, Or.inl⟩
  rintro (hk | hk)
  · exact hk
  · obtain ⟨e, he, rfl⟩ := List.mem_map.1 hk
    exact h.known e he

/-- The root still stands below nothing. -/
theorem rootOnTop (h : Relocation b document anchor block copy made inner outer) (top : Nat) :
    0 ∉ under top document := by
  intro hid
  rcases h.relocates.under_or hid with hid | hid | hid | hid
  · exact h.sound.rootOnTop top hid
  · exact h.not_new_of_mem h.sound.rooted hid
  · exact (h.beyond block (by simp)).1 hid.symm
  · exact h.sound.rootOnTop _ hid

/-! ### Open elements -/

theorem id_mem_of_open (h : Relocation b document anchor block copy made inner outer)
    (he : e ∈ inner ++ block :: outer) : e.id ∈ ids b.document :=
  h.sound.id_mem_of_open (h.opened.subset he)

/-- The open elements around and inside the block are different ones. -/
theorem nodup_open (h : Relocation b document anchor block copy made inner outer) :
    ((inner ++ block :: outer).map (·.id)).Nodup :=
  h.sound.stackDistinct.sublist (h.opened.map (·.id))

/-- Before the block moves, no open element stands below one further in. -/
theorem open_ordered (h : Relocation b document anchor block copy made inner outer) :
    (inner ++ block :: outer).Pairwise fun e f =>
      f.id ∉ under e.id b.document ∧ e.id ≠ 0 :=
  h.sound.ordered.sublist h.opened

/-- An element around the block was not below it. -/
theorem outer_not_under_block (h : Relocation b document anchor block copy made inner outer)
    (he : e ∈ outer) : e.id ∉ under block.id b.document := by
  have hordered := h.open_ordered
  rw [List.pairwise_append, List.pairwise_cons] at hordered
  exact (hordered.2.1.1 e he).1

/-- What stands below an element inside the block stood there before. -/
theorem under_inner (h : Relocation b document anchor block copy made inner outer)
    (he : e ∈ inner) (hid : id ∈ under e.id document) : id ∈ under e.id b.document := by
  obtain ⟨-, hne, hnot⟩ := h.beyond e (List.mem_append_left _ he)
  have hopen := h.id_mem_of_open (List.mem_append_left (block :: outer) he)
  rcases h.relocates.under_inside (h.not_new_of_mem hopen) hne hnot hid with hid | ⟨-, heq⟩
  · exact hid
  · have hnodup := h.nodup_open
    rw [List.map_append, List.map_cons, List.nodup_append] at hnodup
    exact absurd heq (hnodup.2.2 _ (List.mem_map_of_mem he) _ List.mem_cons_self)

/-- What stands below the block stood there before, or is the element around its content. -/
theorem under_block (h : Relocation b document anchor block copy made inner outer)
    (hid : id ∈ under block.id document) : id ∈ under block.id b.document ∨ id = copy.id := by
  obtain ⟨-, hne, hnot⟩ := h.beyond block (by simp)
  have hopen := h.not_new_of_mem (h.id_mem_of_open (e := block) (by simp))
  exact (h.relocates.under_inside hopen hne hnot hid).imp_right And.left

/-- An element around the block has not got below anything. -/
theorem outer_not_under (h : Relocation b document anchor block copy made inner outer)
    (he : e ∈ outer) (hnot : e.id ∉ under top b.document) : e.id ∉ under top document := by
  intro hid
  rcases h.relocates.under_or hid with hid | hid | hid | hid
  · exact hnot hid
  · exact h.not_new_of_mem (h.id_mem_of_open (by simp [he])) hid
  · have hnodup := h.nodup_open
    rw [List.map_append, List.map_cons, List.nodup_append, List.nodup_cons] at hnodup
    exact hnodup.2.1.1 (hid ▸ List.mem_map_of_mem he)
  · exact h.outer_not_under_block he hid

/-! ### The new stack -/

/-- The new stack holds each element once. -/
theorem nodup_stack (h : Relocation b document anchor block copy made inner outer) :
    ((inner ++ copy :: block :: (made ++ outer)).map (·.id)).Nodup := by
  have hperm : (inner ++ copy :: block :: (made ++ outer)).Perm
      (inner ++ block :: outer ++ copy :: made) := by
    rw [List.perm_iff_count]
    intro e
    simp only [List.count_append, List.count_cons]
    omega
  rw [(hperm.map (·.id)).nodup_iff, List.map_append, List.nodup_append]
  refine ⟨h.nodup_open, h.nodup_new, ?_⟩
  rintro id hid _ hid' rfl
  obtain ⟨e, he, rfl⟩ := List.mem_map.1 hid
  exact h.not_new_of_mem (h.id_mem_of_open he) hid'

/-- No element of the new stack stands below one inside the block. -/
theorem inner_ordered (h : Relocation b document anchor block copy made inner outer) :
    ∀ e ∈ inner, ∀ f ∈ copy :: block :: (made ++ outer),
      f.id ∉ under e.id document ∧ e.id ≠ 0 := by
  intro e he f hf
  have hordered := h.open_ordered
  rw [List.pairwise_append] at hordered
  have houter := hordered.2.2 e he
  refine ⟨fun hid => ?_, (houter block (by simp)).2⟩
  have hbefore := h.under_inner he hid
  simp only [List.mem_cons, List.mem_append] at hf
  rcases hf with rfl | rfl | hf | hf
  · exact h.not_new_of_under hbefore List.mem_cons_self
  · exact (houter f (by simp)).1 hbefore
  · exact h.not_new_of_under hbefore (List.mem_cons_of_mem _ (List.mem_map_of_mem hf))
  · exact (houter f (by simp [hf])).1 hbefore

/-- None stands below the element around the content of the block. -/
theorem copy_ordered (h : Relocation b document anchor block copy made inner outer) :
    ∀ f ∈ block :: (made ++ outer), f.id ∉ under copy.id document ∧ copy.id ≠ 0 := by
  intro f hf
  refine ⟨fun hid => ?_, h.ne_zero_of_new List.mem_cons_self⟩
  obtain ⟨hid, hne⟩ := h.relocates.under_copy hid
  simp only [List.mem_cons, List.mem_append] at hf
  rcases hf with rfl | hf | hf
  · exact hne rfl
  · exact h.not_new_of_under hid (List.mem_cons_of_mem _ (List.mem_map_of_mem hf))
  · exact h.outer_not_under_block hf hid

/-- None of those around the block stands below it. -/
theorem block_ordered (h : Relocation b document anchor block copy made inner outer) :
    ∀ f ∈ made ++ outer, f.id ∉ under block.id document ∧ block.id ≠ 0 := by
  intro f hf
  refine ⟨fun hid => ?_, (h.beyond block (by simp)).1⟩
  rcases h.under_block hid, List.mem_append.1 hf with ⟨hid | heq, hf | hf⟩
  · exact h.not_new_of_under hid (List.mem_cons_of_mem _ (List.mem_map_of_mem hf))
  · exact h.outer_not_under_block hf hid
  · have hnodup := h.nodup_new
    rw [List.map_cons, List.nodup_cons] at hnodup
    exact hnodup.1 (heq ▸ List.mem_map_of_mem hf)
  · have hopen : f.id ∈ ids b.document := h.id_mem_of_open (by simp [hf])
    rw [heq] at hopen
    exact h.not_new_of_mem hopen List.mem_cons_self

/-- No element further out stands below a new one. -/
theorem made_outer_ordered (h : Relocation b document anchor block copy made inner outer) :
    ∀ e ∈ made, ∀ f ∈ outer, f.id ∉ under e.id document ∧ e.id ≠ 0 := by
  intro e he f hf
  have hnew : e.id ∈ (copy :: made).map (·.id) :=
    List.mem_cons_of_mem _ (List.mem_map_of_mem he)
  refine ⟨h.outer_not_under hf ?_, h.ne_zero_of_new hnew⟩
  rw [under_of_not_mem fun hmem => h.not_new_of_mem hmem hnew]
  exact List.not_mem_nil

/-- The stack is in order again. -/
theorem ordered (h : Relocation b document anchor block copy made inner outer) :
    (inner ++ copy :: block :: (made ++ outer)).Pairwise fun e f =>
      f.id ∉ under e.id document ∧ e.id ≠ 0 := by
  have hordered := h.open_ordered
  rw [List.pairwise_append, List.pairwise_cons] at hordered
  obtain ⟨hinner, ⟨-, houter⟩, -⟩ := hordered
  rw [List.pairwise_append, List.pairwise_cons, List.pairwise_cons, List.pairwise_append]
  refine ⟨?_, ⟨h.copy_ordered, h.block_ordered, ?_, ?_, h.made_outer_ordered⟩, h.inner_ordered⟩
  · exact hinner.imp_of_mem fun he _ hnot => ⟨fun hid => hnot.1 (h.under_inner he hid), hnot.2⟩
  · exact h.relocates.made_ordered.imp_of_mem fun he _ hnot =>
      ⟨hnot, h.ne_zero_of_new (List.mem_cons_of_mem _ (List.mem_map_of_mem he))⟩
  · exact houter.imp_of_mem fun _ hf hnot => ⟨h.outer_not_under hf hnot.1, hnot.2⟩

/-- Moving an open block loses nothing and adds no kind. -/
theorem grows (h : Relocation b document anchor block copy made inner outer)
    {formatting : List Formatting}
    (hformatting : ∀ e, .element e ∈ formatting →
      .element e ∈ b.formatting ∨ e ∈ copy :: made) :
    Grows b
      { b with
        document, formatting
        stack := inner ++ copy :: block :: made ++ outer
        nextId := b.nextId + 1 + made.length } [] := by
  rw [List.append_assoc, List.cons_append, List.cons_append]
  refine ⟨⟨h.nodup_ids, h.fresh, h.ids_perm.mem_iff.2 (List.mem_append_left _ h.sound.rooted),
    h.rootOnTop, ?_, h.nodup_stack, h.ordered, ?_, ?_, h.relocates.tidy h.sound.tidy⟩,
    fun k => by simp [h.mem_kinds]⟩
  · intro e he
    have hcases : e ∈ inner ++ block :: outer ∨ e ∈ copy :: made := by
      simp only [List.mem_append, List.mem_cons] at he ⊢
      tauto
    exact h.mem_elements.2 (hcases.imp_left fun he => h.sound.opened e (h.opened.subset he))
  · intro e he
    rcases hformatting e he with he | he
    · exact h.mem_kinds.2 (h.sound.remembered e he)
    · exact h.mem_kinds.2 (h.known e he)
  · exact fun e he => h.mem_elements.2 (Or.inl (h.sound.headKept e he))

end Relocation

namespace Sound

variable {b : Builder}

/-! ## Opening elements again -/

/-- An element of a kind that is there already adds no kind. -/
theorem insertKnown (h : b.Sound) {e : OpenElement} (he : e.kind ∈ kinds b.document) :
    Grows b (b.insertElement e.name e.attributes) [] := by
  refine ⟨(h.insertElement e.name e.attributes).sound, fun k => ?_⟩
  rw [(h.insertElement e.name e.attributes).mem_iff, List.mem_singleton]
  constructor
  · rintro (hk | rfl)
    · exact Or.inl hk
    · exact Or.inl he
  · rintro (hk | hk)
    · exact Or.inl hk
    · simp at hk

/-- A remembered element of a known kind. -/
theorem rememberOne (h : b.Sound) {e : OpenElement} (he : e.kind ∈ kinds b.document) :
    Grows b { b with formatting := .element e :: b.formatting } [] := by
  refine h.remember fun f hf => ?_
  rcases List.mem_cons.1 hf with hf | hf
  · rw [Formatting.element.injEq] at hf
    rw [hf]
    exact he
  · exact h.remembered f hf

/-- Remembered elements of known kinds are opened again, and no kind is added. -/
theorem reopen (h : b.Sound) {entries : List Formatting}
    (hentries : ∀ e, .element e ∈ entries → e.kind ∈ kinds b.document) :
    Grows b (b.reopen entries) [] := by
  induction entries generalizing b with
  | nil => exact .refl h
  | cons entry entries ih =>
    have hrest : ∀ e, .element e ∈ entries → e.kind ∈ kinds b.document :=
      fun e he => hentries e (List.mem_cons_of_mem _ he)
    cases entry with
    | marker => exact ih h hrest
    | element e =>
      have he := hentries e List.mem_cons_self
      have hinsert := h.insertKnown he
      have hmem : ∀ f : OpenElement, f.kind ∈ kinds b.document →
          f.kind ∈ kinds (b.insertElement e.name e.attributes).document :=
        fun f hf => hinsert.mem_iff.2 (Or.inl hf)
      refine hinsert.andThen fun h' => ?_
      refine (h'.rememberOne (e := { e with id := b.nextId }) (hmem e he)).andThen fun h'' => ?_
      exact ih h'' fun f hf => hmem f (hrest f hf)

/-- Opening remembered elements again adds no kind. -/
theorem reconstruct (h : b.Sound) : Grows b b.reconstruct [] := by
  unfold Builder.reconstruct
  have hforget := h.forgetSome (List.dropWhile_sublist (!b.needsNoOpening ·))
  refine hforget.andThen fun h' => h'.reopen fun e he => ?_
  rw [List.mem_reverse] at he
  exact h.remembered e ((List.takeWhile_sublist _).subset he)

/-- Of equal elements the oldest may be forgotten. -/
theorem forgetOldest (h : b.Sound) (equal : List OpenElement) :
    Grows b
      (if 3 ≤ equal.length then (equal.getLast?.map fun f => b.forget f.id).getD b else b) [] := by
  split
  · cases equal.getLast? with
    | none => exact .refl h
    | some f => exact h.forget f.id
  · exact .refl h

/-- A formatting element is inserted, and perhaps another one is forgotten. -/
theorem insertFormatting (h : b.Sound) (tag : Tag) :
    Grows b (b.insertFormatting tag) [(.html tag.name, tag.attributes)] := by
  have hforget := h.forgetOldest
    (b.recentFormatting.filter (sameFormatting ⟨b.nextId, .html tag.name, tag.attributes⟩))
  refine hforget.andThen fun h' => ?_
  refine (h'.insertTag tag).andKeeps fun h'' => h''.rememberOne ?_
  exact (h'.insertTag tag).mem_iff.2 (Or.inr List.mem_cons_self)

/-! ## End tags -/

/-- Where no boundary stands, content that a table refuses goes further out. -/
theorem fosterPlace_append {before after : List OpenElement}
    (hbefore : ∀ e ∈ before, defaultScope e.name = false) (hafter : after ≠ []) :
    fosterPlace (before ++ after) = fosterPlace after := by
  induction before with
  | nil => rfl
  | cons e before ih =>
    have he := hbefore e List.mem_cons_self
    have htemplate : e.name.isHtml "template" = false := by
      rw [Bool.eq_false_iff]
      intro htrue
      simp_all [defaultScope, ElementName.isHtml, ElementName.isOneOf]
    have htable : e.name.isHtml "table" = false := by
      rw [Bool.eq_false_iff]
      intro htrue
      simp_all [defaultScope, ElementName.isHtml, ElementName.isOneOf]
    have hih := ih fun f hf => hbefore f (List.mem_cons_of_mem _ hf)
    cases hrest : before ++ after with
    | nil => exact absurd (List.append_eq_nil_iff.1 hrest).2 hafter
    | cons f rest =>
      rw [List.cons_append, hrest, fosterPlace, htemplate, htable, ← hrest, hih]
      · rfl
      · simp

/-- The place for a block that moves out of a formatting element. -/
def placeAround (b : Builder) : List OpenElement → Place
  | [] => .lastIn 0
  | target :: _ => b.placeFor target

/-- A block that moves out of a formatting element goes to the root or to an element around it. -/
theorem anchor_placeAround {inner outer : List OpenElement} {e : OpenElement}
    (hstack : b.stack = inner ++ e :: outer)
    (hclear : ∀ f ∈ inner, defaultScope f.name = false) :
    (placeAround b outer).anchor = 0 ∨
      ∃ f ∈ e :: outer, (placeAround b outer).anchor = f.id := by
  cases outer with
  | nil => exact Or.inl rfl
  | cons target outer =>
    rw [placeAround, placeFor]
    split
    · rw [hstack, fosterPlace_append hclear (by simp)]
      exact anchor_fosterPlace_mem _
    · exact Or.inr ⟨target, by simp, anchor_placeInside target⟩

/-- The place for a block that moves out is in the document. -/
theorem isIn_placeAround (h : b.Sound) {outer : List OpenElement} (hsub : outer ⊆ b.stack) :
    (placeAround b outer).IsIn b.document := by
  cases outer with
  | nil => exact Place.isIn_lastIn h.rooted
  | cons target outer => exact h.isIn_placeFor (hsub List.mem_cons_self)

/-- The root and the elements around others are not below them. -/
theorem beyond (h : b.Sound) {inner outer : List OpenElement} (hstack : b.stack = inner ++ outer)
    {place : Place} (hplace : place.anchor = 0 ∨ ∃ f ∈ outer, place.anchor = f.id)
    (houter : outer ≠ []) : ∀ e ∈ inner,
      e.id ≠ 0 ∧ place.anchor ≠ e.id ∧ place.anchor ∉ under e.id b.document := by
  have hordered := h.ordered
  have hdistinct := h.stackDistinct
  rw [hstack, List.pairwise_append] at hordered
  rw [hstack, List.map_append, List.nodup_append] at hdistinct
  intro e he
  obtain ⟨f, hf⟩ := List.exists_mem_of_ne_nil outer houter
  have hnonzero := (hordered.2.2 e he f hf).2
  rcases hplace with hzero | ⟨f, hf, heq⟩
  · rw [hzero]
    exact ⟨hnonzero, hnonzero.symm, h.rootOnTop _⟩
  · rw [heq]
    refine ⟨hnonzero, fun hid => ?_, (hordered.2.2 e he f hf).1⟩
    exact hdistinct.2.2 _ (List.mem_map_of_mem he) _ (List.mem_map_of_mem hf) hid.symm

/-- A formatting element is rebuilt around the content of a block inside it, and so are the elements
between the two. -/
structure BlockInside (b : Builder) (e opened block : OpenElement)
    (inner between outer : List OpenElement) : Prop where
  sound : b.Sound
  stack : b.stack = inner ++ block :: (between ++ opened :: outer)
  clear : ∀ f ∈ inner ++ block :: between, defaultScope f.name = false
  known : e.kind ∈ kinds b.document

namespace BlockInside

variable {e opened block : OpenElement} {inner between outer rebuilt : List OpenElement}

/-- The block is open between what is inside it and what is around the formatting element. -/
theorem opened_sublist (h : BlockInside b e opened block inner between outer) :
    (inner ++ block :: outer).Sublist b.stack := by
  rw [h.stack]
  refine (List.Sublist.refl inner).append (List.Sublist.cons_cons _ ?_)
  exact (List.sublist_cons_self opened outer).trans (List.sublist_append_right between _)

theorem block_mem (h : BlockInside b e opened block inner between outer) : block ∈ b.stack := by
  simp [h.stack]

/-- The place for the block is in the document. -/
theorem isIn_place (h : BlockInside b e opened block inner between outer) :
    (placeAround b outer).IsIn b.document := by
  refine h.sound.isIn_placeAround fun f hf => ?_
  rw [h.stack]
  simp [hf]

/-- The place for the block is neither in it nor in what is open inside it. -/
theorem place_beyond (h : BlockInside b e opened block inner between outer) :
    ∀ f ∈ inner ++ [block], f.id ≠ 0 ∧ (placeAround b outer).anchor ≠ f.id ∧
      (placeAround b outer).anchor ∉ under f.id b.document := by
  have hsplit : b.stack = (inner ++ block :: between) ++ opened :: outer := by simp [h.stack]
  have hsplit' : b.stack = (inner ++ [block]) ++ (between ++ opened :: outer) := by
    simp [h.stack]
  refine h.sound.beyond hsplit' ?_ (by simp)
  refine (anchor_placeAround hsplit h.clear).imp_right ?_
  rintro ⟨f, hf, heq⟩
  exact ⟨f, List.mem_append_right between hf, heq⟩

/-- The new elements are of kinds that the document holds. -/
theorem kinds_known (h : BlockInside b e opened block inner between outer)
    (hknown : ∀ f ∈ rebuilt, ∃ f' ∈ between, f.kind = f'.kind) :
    ∀ f ∈ ⟨b.nextId, e.name, e.attributes⟩ :: rebuilt, f.kind ∈ kinds b.document := by
  intro f hf
  rcases List.mem_cons.1 hf with rfl | hf
  · exact h.known
  · obtain ⟨f', hf', hkind⟩ := hknown f hf
    rw [hkind]
    exact mem_kinds_of_mem (h.sound.opened f' (by simp [h.stack, hf']))

/-- The block is moved to its new place. -/
theorem relocation (h : BlockInside b e opened block inner between outer) {part : Node}
    (hfound : find? block.id b.document = some part)
    (hextracts : Extracts block.id b.document part (remove block.id b.document))
    (hnumbered : rebuilt.map (·.id) = List.range' (b.nextId + 1) rebuilt.length)
    (hknown : ∀ f ∈ rebuilt, ∃ f' ∈ between, f.kind = f'.kind) :
    Relocation b
      (editAt (placeAround b outer)
        (append (moving ⟨b.nextId, e.name, e.attributes⟩ rebuilt part))
        (remove block.id b.document))
      (placeAround b outer).anchor block ⟨b.nextId, e.name, e.attributes⟩ rebuilt inner outer := by
  have hnew : ((⟨b.nextId, e.name, e.attributes⟩ :: rebuilt).map (·.id)) =
      List.range' b.nextId (rebuilt.length + 1) := by
    rw [List.map_cons, List.range'_succ, hnumbered]
  have hfresh : ∀ id ∈ (⟨b.nextId, e.name, e.attributes⟩ :: rebuilt).map (·.id),
      id ∉ ids b.document := by
    intro id hid hmem
    rw [hnew, List.mem_range'_1] at hid
    have hlt := h.sound.fresh id hmem
    omega
  have hbeyond := h.place_beyond
  have hblock := hbeyond block (by simp)
  have hmoves : Moves b.document (placeAround b outer) block ⟨b.nextId, e.name, e.attributes⟩
      rebuilt part :=
    ⟨h.sound.distinct, hfound, hextracts, h.isIn_place, hblock.2.1, hblock.2.2,
      hnew ▸ List.nodup_range', hfresh⟩
  exact ⟨h.sound, hmoves.relocates, hnew, h.opened_sublist, hbeyond, h.kinds_known hknown⟩

/-- Rebuilding a formatting element inside a block loses nothing and adds no kind. -/
theorem rebuild (h : BlockInside b e opened block inner between outer) :
    Grows b (b.rebuild e block inner between outer) [] := by
  obtain ⟨part, hfind, hpart⟩ :=
    extracts_remove h.sound.distinct (h.sound.id_mem_of_open h.block_mem)
  obtain ⟨made, hmade⟩ := rebuilds_rebuildBetween
    { builder := { b with document := remove block.id b.document, nextId := b.nextId + 1 }
      moving := part.wrapChildren b.nextId e.name e.attributes } 0 between
  unfold Builder.rebuild
  simp only [hfind, Option.getD_some]
  generalize rebuildBetween _ 0 between = r at hmade ⊢
  obtain ⟨builder, moving, rebuilt, anchor⟩ := r
  obtain ⟨hbuilder, hmoving, hrebuilt, hnumbered, hknown, hremembered⟩ := hmade
  simp only at hbuilder hmoving hrebuilt hnumbered hremembered ⊢
  generalize builder.formatting = formatting at hbuilder hremembered
  subst hbuilder hmoving hrebuilt
  have hrelocation := h.relocation hfind hpart hnumbered hknown
  -- The copy is remembered in the place of the element, or behind the innermost new one.
  cases anchor with
  | none =>
    refine hrelocation.grows fun f hf => ?_
    rcases mem_replaceEntry hf with hf | rfl
    · exact (hremembered f hf).imp_right (List.mem_cons_of_mem _)
    · exact Or.inr List.mem_cons_self
  | some anchor =>
    refine hrelocation.grows fun f hf => ?_
    rcases mem_rememberAfter hf with hf | rfl
    · exact (hremembered f hf).imp_right (List.mem_cons_of_mem _)
    · exact Or.inr List.mem_cons_self

end BlockInside

/-- An end tag without rules of its own adds no kind. -/
theorem endOrdinary (h : b.Sound) (label : String) : Grows b (b.endOrdinary label) [] := by
  unfold Builder.endOrdinary
  split
  · split
    · refine (h.closeImpliedExcept label).andThen fun h' => ?_
      exact h'.close ((List.drop_sublist 1 _).trans (List.dropWhile_sublist _))
    · exact .refl h
  · exact .refl h

/-- What stands inside an element in scope is no boundary of the scope. -/
theorem boundary_of_inScope {boundary : ElementName → Bool} {test : OpenElement → Bool}
    {inside rest : List OpenElement} (hinside : ∀ e ∈ inside, test e = false)
    (hscope : inScope boundary test (inside ++ rest) = true) :
    ∀ e ∈ inside, boundary e.name = false := by
  induction inside with
  | nil => simp
  | cons e inside ih =>
    rw [List.cons_append, inScope, hinside e List.mem_cons_self, Bool.false_or,
      Bool.and_eq_true, Bool.not_eq_true'] at hscope
    intro f hf
    rcases List.mem_cons.1 hf with rfl | hf
    · exact hscope.1
    · exact ih (fun g hg => hinside g (List.mem_cons_of_mem _ hg)) hscope.2 f hf

/-- The outermost block of a list of elements, innermost first, cuts it in two. -/
theorem cut_at_block {inside inner : List OpenElement} {block : OpenElement}
    {p : OpenElement → Bool} (h : inside.reverse.dropWhile p = block :: inner) :
    inside = inner.reverse ++ block :: (inside.reverse.takeWhile p).reverse := by
  have hreverse := List.takeWhile_append_dropWhile (p := p) (l := inside.reverse)
  rw [h] at hreverse
  have heq := congrArg List.reverse hreverse
  rw [List.reverse_reverse, List.reverse_append, List.reverse_cons, List.append_assoc] at heq
  exact heq.symm

/-- A formatting element that is found among the remembered ones is of a known kind. -/
theorem known_of_find (h : b.Sound) {test : OpenElement → Bool} {e : OpenElement}
    (hfind : b.recentFormatting.find? test = some e) : e.kind ∈ kinds b.document := by
  obtain ⟨entry, hentry, heq⟩ := List.mem_filterMap.1 (List.mem_of_find?_eq_some hfind)
  cases entry with
  | marker => simp at heq
  | element f =>
    rw [← Option.some.inj heq]
    exact h.remembered f ((List.takeWhile_sublist _).subset hentry)

/-- A formatting element in scope is rebuilt inside the outermost block that is open inside it. -/
theorem blockInside (h : b.Sound) {e opened block : OpenElement}
    {inside inner outer : List OpenElement}
    (hstack : inside ++ opened :: outer = b.stack)
    (hclear : ∀ f ∈ inside, defaultScope f.name = false)
    (he : e.kind ∈ kinds b.document)
    (hblock : inside.reverse.dropWhile (!isSpecial ·.name) = block :: inner) :
    BlockInside b e opened block inner.reverse
      (inside.reverse.takeWhile (!isSpecial ·.name)).reverse outer := by
  have hcut := cut_at_block hblock
  refine ⟨h, ?_, ?_, he⟩
  · rw [← hstack]
    nth_rewrite 1 [hcut]
    simp
  · rw [← hcut]
    exact hclear

/-- Handling an end tag of a formatting element, however often, adds no kind. -/
theorem endFormattingLoop (h : b.Sound) (label : String) (n : Nat) :
    Grows b (Builder.endFormattingLoop label n b) [] := by
  induction n generalizing b with
  | zero => exact .refl h
  | succ n ih =>
    unfold Builder.endFormattingLoop
    split
    · exact h.endOrdinary label
    · rename_i e hfind
      have he := h.known_of_find hfind
      have hstack := List.takeWhile_append_dropWhile (p := (·.id != e.id)) (l := b.stack)
      have hinside : ∀ f ∈ b.stack.takeWhile (·.id != e.id), (f.id == e.id) = false := by
        intro f hf
        have hne := List.mem_takeWhile_imp hf
        simpa using hne
      dsimp only
      split
      · exact h.forget e.id
      · rename_i opened outer houter
        rw [houter] at hstack
        split
        · exact .refl h
        · rename_i hscope
          rw [Bool.not_eq_true', Bool.not_eq_false, ← hstack] at hscope
          have hclear := boundary_of_inScope hinside hscope
          split
          · have hsub : outer.Sublist b.stack := by
              rw [← hstack]
              exact (List.sublist_cons_self _ _).trans (List.sublist_append_right _ _)
            exact (h.close hsub).andThen fun h' => h'.forget e.id
          · rename_i block inner hblock
            exact (h.blockInside hstack hclear he hblock).rebuild.andThen fun h' => ih h'

/-- The end tag of a formatting element adds no kind. -/
theorem endFormatting (h : b.Sound) (label : String) : Grows b (b.endFormatting label) [] := by
  unfold Builder.endFormatting
  split
  · rename_i e outer hstack
    split
    · exact h.close (by rw [hstack]; exact List.sublist_cons_self _ _)
    · exact h.endFormattingLoop label 8
  · exact .refl h

end Sound

end TemplateImports.Markup.Builder
