import TemplateImports.Proofs.Markup.Spine

/-!
# The elements of a document

The construction of a document inserts nodes, takes parts out and puts them in elsewhere.  The
lemmas here say what such an edit does to the elements of a document, as a list without regard to
order, and to the descent of one element from another.

Main results:

- Definition `elements` lists the elements of a document; definition `under` lists what stands
  below one of them.
- Theorem `elements_editAt_perm` says that an edit adds just the elements that it inserts.
- Theorem `mem_under_editAt` says that an edit puts nothing else below an element.
- Theorem `extracts_remove` takes an element out of a document.
-/

namespace TemplateImports.Markup

/-- The element that a place refers to. -/
def Place.anchor : Place → Nat
  | .lastIn id => id
  | .lastInContents id => id
  | .before id => id

namespace Node

/-! ## Elements -/

mutual

/-- The elements at or below a node. -/
def elementsIn : Node → List OpenElement
  | .element id name attributes children contents =>
    ⟨id, name, attributes⟩ :: (elements children ++ elements contents)
  | .text _ => []
  | .comment _ => []
  | .doctype _ => []

/-- The elements of a document. -/
def elements : List Node → List OpenElement
  | [] => []
  | node :: nodes => elementsIn node ++ elements nodes

end

mutual

/-- The identities of everything below an element, at or below a node. -/
def underIn (top : Nat) : Node → List Nat
  | .element id _ _ children contents =>
    if id = top then ids children ++ ids contents else under top children ++ under top contents
  | .text _ => []
  | .comment _ => []
  | .doctype _ => []

/-- The identities of everything below an element of a document. -/
def under (top : Nat) : List Node → List Nat
  | [] => []
  | node :: nodes => underIn top node ++ under top nodes

end

theorem elements_append (first second : List Node) :
    elements (first ++ second) = elements first ++ elements second := by
  induction first with
  | nil => rfl
  | cons node first ih => simp [elements, ih]

theorem under_append (top : Nat) (first second : List Node) :
    under top (first ++ second) = under top first ++ under top second := by
  induction first with
  | nil => rfl
  | cons node first ih => simp [under, ih]

mutual

/-- The identities in a node are those of its elements. -/
theorem map_id_elementsIn (node : Node) : (elementsIn node).map (·.id) = idsIn node := by
  cases node with
  | element id name attributes children contents =>
    simp [elementsIn, idsIn, map_id_elements children, map_id_elements contents]
  | text value => rfl
  | comment value => rfl
  | doctype declaration => rfl

/-- The identities of a document are those of its elements. -/
theorem map_id_elements (nodes : List Node) : (elements nodes).map (·.id) = ids nodes := by
  cases nodes with
  | nil => rfl
  | cons node nodes => simp [elements, ids, map_id_elementsIn node, map_id_elements nodes]

end

mutual

/-- What stands below an element of a node is in the node. -/
theorem mem_idsIn_of_mem_underIn {top id : Nat} {node : Node} (h : id ∈ underIn top node) :
    id ∈ idsIn node := by
  cases node with
  | element i name attributes children contents =>
    rw [underIn] at h
    rw [idsIn]
    apply List.mem_cons_of_mem
    split at h
    · exact h
    · rcases List.mem_append.1 h with h | h
      · exact List.mem_append_left _ (mem_ids_of_mem_under h)
      · exact List.mem_append_right _ (mem_ids_of_mem_under h)
  | text value => exact h
  | comment value => exact h
  | doctype declaration => exact h

/-- What stands below an element stands in the document. -/
theorem mem_ids_of_mem_under {top id : Nat} {nodes : List Node} (h : id ∈ under top nodes) :
    id ∈ ids nodes := by
  cases nodes with
  | nil => exact h
  | cons node nodes =>
    rw [under] at h
    rw [ids]
    rcases List.mem_append.1 h with h | h
    · exact List.mem_append_left _ (mem_idsIn_of_mem_underIn h)
    · exact List.mem_append_right _ (mem_ids_of_mem_under h)

end

mutual

/-- Below an element that is not in a node stands nothing of the node. -/
theorem underIn_of_not_mem {top : Nat} {node : Node} (h : top ∉ idsIn node) :
    underIn top node = [] := by
  cases node with
  | element id name attributes children contents =>
    simp only [idsIn, List.mem_cons, List.mem_append, not_or] at h
    rw [underIn, if_neg (Ne.symm h.1), under_of_not_mem h.2.1, under_of_not_mem h.2.2]
    rfl
  | text value => rfl
  | comment value => rfl
  | doctype declaration => rfl

/-- Nothing stands below an element that is not there. -/
theorem under_of_not_mem {top : Nat} {nodes : List Node} (h : top ∉ ids nodes) :
    under top nodes = [] := by
  cases nodes with
  | nil => rfl
  | cons node nodes =>
    simp only [ids, List.mem_append, not_or] at h
    rw [under, underIn_of_not_mem h.1, under_of_not_mem h.2]
    rfl

end

/-! ## Edits -/

/-- An edit of siblings that puts nodes behind them, as far as elements are concerned. -/
structure Inserts (edit : List Node → List Node) (inserted : List Node) : Prop where
  elements_eq : ∀ siblings, elements (edit siblings) = elements siblings ++ elements inserted
  under_eq : ∀ top siblings,
    under top (edit siblings) = under top siblings ++ under top inserted

/-- An edit that inserts nodes inserts their identities. -/
theorem Inserts.ids_eq {edit : List Node → List Node} {inserted : List Node}
    (h : Inserts edit inserted) (siblings : List Node) :
    ids (edit siblings) = ids siblings ++ ids inserted := by
  rw [← map_id_elements, h.elements_eq, List.map_append, map_id_elements, map_id_elements]

/-- Appending a node inserts it. -/
theorem inserts_append (node : Node) : Inserts (append node) [node] :=
  ⟨fun siblings => elements_append siblings [node], fun top siblings => under_append top siblings [node]⟩

/-- Text is no element. -/
theorem inserts_appendText (value : String) : Inserts (appendText value) [] := by
  constructor
  · intro siblings
    fun_induction appendText value siblings with
    | case1 => rfl
    | case2 last => rfl
    | case3 node siblings _ ih => simp [elements, ih]
  · intro top siblings
    fun_induction appendText value siblings with
    | case1 => rfl
    | case2 last => rfl
    | case3 node siblings _ ih => simp [under, ih]

/-- An element is in its own node. -/
theorem mem_idsIn_of_isElement {id : Nat} {node : Node} (h : node.isElement id = true) :
    id ∈ idsIn node := by
  cases node with
  | element i name attributes children contents =>
    rw [isElement, beq_iff_eq] at h
    rw [idsIn, h]
    exact List.mem_cons_self
  | text value => exact absurd h (by simp [isElement])
  | comment value => exact absurd h (by simp [isElement])
  | doctype declaration => exact absurd h (by simp [isElement])

theorem mem_ids_of_any_isElement {id : Nat} {nodes : List Node}
    (h : nodes.any (·.isElement id) = true) : id ∈ ids nodes := by
  induction nodes with
  | nil => simp at h
  | cons node nodes ih =>
    rw [List.any_cons, Bool.or_eq_true] at h
    rw [ids, List.mem_append]
    rcases h with h | h
    · exact Or.inl (mem_idsIn_of_isElement h)
    · exact Or.inr (ih h)

mutual

/-- An edit leaves a node without its place as it is. -/
theorem editNode_of_anchor_not_mem {place : Place} (edit : List Node → List Node) {node : Node}
    (h : place.anchor ∉ idsIn node) : editNode place edit node = node := by
  cases node with
  | element id name attributes children contents =>
    simp only [idsIn, List.mem_cons, List.mem_append, not_or] at h
    have hchildren := editAt_of_anchor_not_mem edit h.2.1
    have hcontents := editAt_of_anchor_not_mem edit h.2.2
    have hid : ∀ i, place = .lastIn i ∨ place = .lastInContents i → i ≠ id := by
      rintro i (rfl | rfl) <;> exact h.1
    have hlast : (place == .lastIn id) = false :=
      beq_eq_false_iff_ne.2 fun heq => hid id (Or.inl heq) rfl
    have hlastContents : (place == .lastInContents id) = false :=
      beq_eq_false_iff_ne.2 fun heq => hid id (Or.inr heq) rfl
    simp [editNode, hchildren, hcontents, hlast, hlastContents]
  | text value => rfl
  | comment value => rfl
  | doctype declaration => rfl

/-- An edit at an absent element changes nothing. -/
theorem editAt_of_anchor_not_mem {place : Place} (edit : List Node → List Node) {nodes : List Node}
    (h : place.anchor ∉ ids nodes) : editAt place edit nodes = nodes := by
  cases nodes with
  | nil => rfl
  | cons node nodes =>
    simp only [ids, List.mem_append, not_or] at h
    have hnode := editNode_of_anchor_not_mem edit h.1
    have hnodes := editAt_of_anchor_not_mem edit h.2
    cases place with
    | lastIn id => simp only [editAt, hnode, hnodes]
    | lastInContents id => simp only [editAt, hnode, hnodes]
    | before id =>
      have hself : node.isElement id = false :=
        Bool.eq_false_iff.2 fun hself => h.1 (mem_idsIn_of_isElement hself)
      have hothers : nodes.any (·.isElement id) = false :=
        Bool.eq_false_iff.2 fun hothers => h.2 (mem_ids_of_any_isElement hothers)
      simp only [editAt, hself, hothers, hnode, hnodes]
      rfl

end

/-- The siblings at an element, edited before it. -/
theorem elements_editBefore {edit : List Node → List Node} {inserted : List Node}
    (h : Inserts edit inserted) (p : Node → Bool) (node : Node) (siblings : List Node) :
    (elements (edit (node :: siblings.takeWhile p) ++ siblings.dropWhile p)).Perm
      (elements (node :: siblings) ++ elements inserted) := by
  have hsiblings : elements siblings =
      elements (siblings.takeWhile p) ++ elements (siblings.dropWhile p) := by
    rw [← elements_append, List.takeWhile_append_dropWhile]
  rw [elements_append, h.elements_eq, elements, elements, hsiblings, List.perm_iff_count]
  intro e
  simp only [List.count_append]
  omega

mutual

/-- An edit in a node keeps its elements and adds those that are inserted. -/
theorem elementsIn_editNode_perm {place : Place} {edit : List Node → List Node}
    {inserted : List Node} (h : Inserts edit inserted) {node : Node} (hnodup : (idsIn node).Nodup)
    (hmem : place.anchor ∈ idsIn node) (hself : ∀ id, place = .before id → node.isElement id = false) :
    (elementsIn (editNode place edit node)).Perm (elementsIn node ++ elements inserted) := by
  cases node with
  | element id name attributes children contents =>
    rw [idsIn, List.nodup_cons, List.nodup_append, List.mem_append, not_or] at hnodup
    obtain ⟨⟨hchildren, hcontents⟩, hnodupChildren, hnodupContents, hdisjoint⟩ := hnodup
    have hedited : ∀ first second : List Node,
        (elements first ++ elements second).Perm
          (elements children ++ elements contents ++ elements inserted) →
        (elementsIn (.element id name attributes first second)).Perm
          (elementsIn (.element id name attributes children contents) ++ elements inserted) :=
      fun first second hperm => List.Perm.cons _ hperm
    -- The place is at this element, or in one of its two lists of nodes, and not in the other.
    by_cases hid : place.anchor = id
    · rw [← hid] at hchildren hcontents
      rw [editNode, editAt_of_anchor_not_mem edit hchildren, editAt_of_anchor_not_mem edit hcontents]
      apply hedited
      cases place with
      | lastIn i =>
        have hi : i = id := hid
        simp only [hi, beq_self_eq_true, if_true, h.elements_eq, List.perm_iff_count,
          List.count_append, reduceCtorEq, beq_iff_eq, if_false]
        intro e
        omega
      | lastInContents i =>
        have hi : i = id := hid
        simp only [hi, beq_self_eq_true, if_true, h.elements_eq, List.perm_iff_count,
          List.count_append, reduceCtorEq, beq_iff_eq, if_false]
        intro e
        omega
      | before i =>
        have hself := hself i rfl
        rw [isElement, beq_eq_false_iff_ne] at hself
        exact absurd hid.symm hself
    · have hlast : place ≠ .lastIn id := by
        rintro rfl
        exact hid rfl
      have hlastContents : place ≠ .lastInContents id := by
        rintro rfl
        exact hid rfl
      rw [editNode]
      simp only [beq_iff_eq, hlast, hlastContents, if_false]
      apply hedited
      rw [idsIn, List.mem_cons, List.mem_append] at hmem
      rcases hmem with hmem | hmem | hmem
      · exact absurd hmem hid
      · have hother : place.anchor ∉ ids contents := fun hmem' => hdisjoint _ hmem _ hmem' rfl
        have ih := elements_editAt_perm h hnodupChildren hmem
        rw [List.perm_iff_count] at ih ⊢
        intro e
        have he := ih e
        rw [editAt_of_anchor_not_mem edit hother]
        simp only [List.count_append] at he ⊢
        omega
      · have hother : place.anchor ∉ ids children := fun hmem' => hdisjoint _ hmem' _ hmem rfl
        have ih := elements_editAt_perm h hnodupContents hmem
        rw [List.perm_iff_count] at ih ⊢
        intro e
        have he := ih e
        rw [editAt_of_anchor_not_mem edit hother]
        simp only [List.count_append] at he ⊢
        omega
  | text value => simp [idsIn] at hmem
  | comment value => simp [idsIn] at hmem
  | doctype declaration => simp [idsIn] at hmem

/-- An edit adds just the elements that it inserts. -/
theorem elements_editAt_perm {place : Place} {edit : List Node → List Node}
    {inserted : List Node} (h : Inserts edit inserted) {nodes : List Node}
    (hnodup : (ids nodes).Nodup) (hmem : place.anchor ∈ ids nodes) :
    (elements (editAt place edit nodes)).Perm (elements nodes ++ elements inserted) := by
  cases nodes with
  | nil => simp [ids] at hmem
  | cons node nodes =>
    rw [ids, List.nodup_append] at hnodup
    obtain ⟨hnode, hnodes, hdisjoint⟩ := hnodup
    have heach : (∀ id, place = .before id → node.isElement id = false) →
        (elements (editNode place edit node :: editAt place edit nodes)).Perm
          (elements (node :: nodes) ++ elements inserted) := by
      intro hself
      rw [List.perm_iff_count]
      intro e
      rw [ids, List.mem_append] at hmem
      rcases hmem with hmem | hmem
      · have hother : place.anchor ∉ ids nodes := fun hmem' => hdisjoint _ hmem _ hmem' rfl
        have he := (elementsIn_editNode_perm h hnode hmem hself).count_eq e
        rw [editAt_of_anchor_not_mem edit hother]
        simp only [elements, List.count_append] at he ⊢
        omega
      · have hother : place.anchor ∉ idsIn node := fun hmem' => hdisjoint _ hmem' _ hmem rfl
        have he := (elements_editAt_perm h hnodes hmem).count_eq e
        rw [editNode_of_anchor_not_mem edit hother]
        simp only [elements, List.count_append] at he ⊢
        omega
    cases place with
    | lastIn id => exact heach fun i hi => by simp at hi
    | lastInContents id => exact heach fun i hi => by simp at hi
    | before id =>
      simp only [editAt]
      split
      · rw [elements_append, h.elements_eq, elements, List.nil_append]
        exact List.perm_append_comm
      · rename_i hself
        split
        · exact elements_editBefore h _ node nodes
        · refine heach fun i hi => ?_
          rw [Place.before.injEq] at hi
          rw [← hi]
          exact Bool.eq_false_iff.2 hself

end

/-- An edit adds just the identities that it inserts. -/
theorem ids_editAt_perm {place : Place} {edit : List Node → List Node} {inserted : List Node}
    (h : Inserts edit inserted) {nodes : List Node} (hnodup : (ids nodes).Nodup)
    (hmem : place.anchor ∈ ids nodes) :
    (ids (editAt place edit nodes)).Perm (ids nodes ++ ids inserted) := by
  have hperm := (elements_editAt_perm h hnodup hmem).map (·.id)
  rwa [List.map_append, map_id_elements, map_id_elements, map_id_elements] at hperm

/-- What is in an edited document was there before, or is inserted. -/
theorem mem_ids_editAt {place : Place} {edit : List Node → List Node} {inserted : List Node}
    (h : Inserts edit inserted) {nodes : List Node} (hnodup : (ids nodes).Nodup) {id : Nat}
    (hid : id ∈ ids (editAt place edit nodes)) :
    id ∈ ids nodes ∨ (id ∈ ids inserted ∧ place.anchor ∈ ids nodes) := by
  by_cases hmem : place.anchor ∈ ids nodes
  · have hperm := ids_editAt_perm h hnodup hmem
    rcases List.mem_append.1 (hperm.mem_iff.1 hid) with hid | hid
    · exact Or.inl hid
    · exact Or.inr ⟨hid, hmem⟩
  · rw [editAt_of_anchor_not_mem edit hmem] at hid
    exact Or.inl hid

/-! ## Descent -/

mutual

/-- Below an element stands what stood there before, what stands there in what is inserted, and all
that is inserted if its place is there. -/
theorem mem_underIn_editNode {place : Place} {edit : List Node → List Node}
    {inserted : List Node} (h : Inserts edit inserted) {node : Node} (hnodup : (idsIn node).Nodup)
    {top id : Nat} (hid : id ∈ underIn top (editNode place edit node)) :
    id ∈ underIn top node ∨ id ∈ under top inserted ∨
      (id ∈ ids inserted ∧ (place.anchor = top ∨ place.anchor ∈ underIn top node)) := by
  cases node with
  | element i name attributes children contents =>
    rw [idsIn, List.nodup_cons, List.nodup_append] at hnodup
    obtain ⟨-, hnodupChildren, hnodupContents, -⟩ := hnodup
    have hlast : (place == .lastIn i) = true → place.anchor = i := by
      intro heq
      rw [beq_iff_eq.1 heq]
      rfl
    have hlastContents : (place == .lastInContents i) = true → place.anchor = i := by
      intro heq
      rw [beq_iff_eq.1 heq]
      rfl
    rw [editNode, underIn] at hid
    rw [underIn]
    -- Below the element itself stands all that is in its two lists, and otherwise what stands
    -- below there.
    by_cases htop : i = top
    · subst htop
      have hpart : ∀ {siblings : List Node} {last : Bool}, (ids siblings).Nodup →
          (last = true → place.anchor = i) →
          id ∈ ids (if last then edit (editAt place edit siblings) else editAt place edit siblings) →
          id ∈ ids siblings ∨
            (id ∈ ids inserted ∧ (place.anchor = i ∨ place.anchor ∈ ids siblings)) := by
        intro siblings last hsiblings hlast hid
        split at hid
        · rename_i htrue
          rw [h.ids_eq, List.mem_append] at hid
          rcases hid with hid | hid
          · rcases mem_ids_editAt h hsiblings hid with hid | ⟨hid, hplace⟩ <;> tauto
          · exact Or.inr ⟨hid, Or.inl (hlast htrue)⟩
        · rcases mem_ids_editAt h hsiblings hid with hid | ⟨hid, hplace⟩ <;> tauto
      rw [if_pos rfl] at hid ⊢
      simp only [List.mem_append] at hid ⊢
      rcases hid with hid | hid
      · rcases hpart hnodupChildren hlast hid with hid | ⟨hid, hplace | hplace⟩ <;> tauto
      · rcases hpart hnodupContents hlastContents hid with hid | ⟨hid, hplace | hplace⟩ <;> tauto
    · have hpart : ∀ {siblings : List Node} {last : Bool},
          (id ∈ under top (editAt place edit siblings) →
            id ∈ under top siblings ∨ id ∈ under top inserted ∨
              (id ∈ ids inserted ∧ (place.anchor = top ∨ place.anchor ∈ under top siblings))) →
          id ∈ under top
            (if last then edit (editAt place edit siblings) else editAt place edit siblings) →
          id ∈ under top siblings ∨ id ∈ under top inserted ∨
            (id ∈ ids inserted ∧ (place.anchor = top ∨ place.anchor ∈ under top siblings)) := by
        intro siblings last hsiblings hid
        split at hid
        · rw [h.under_eq, List.mem_append] at hid
          rcases hid with hid | hid
          · exact hsiblings hid
          · exact Or.inr (Or.inl hid)
        · exact hsiblings hid
      rw [if_neg htop] at hid ⊢
      simp only [List.mem_append] at hid ⊢
      rcases hid with hid | hid
      · rcases hpart (mem_under_editAt h hnodupChildren) hid with
          hid | hid | ⟨hid, hplace | hplace⟩ <;> tauto
      · rcases hpart (mem_under_editAt h hnodupContents) hid with
          hid | hid | ⟨hid, hplace | hplace⟩ <;> tauto
  | text value => exact Or.inl hid
  | comment value => exact Or.inl hid
  | doctype declaration => exact Or.inl hid

/-- An edit puts below an element only what it inserts, and only at a place in or below it. -/
theorem mem_under_editAt {place : Place} {edit : List Node → List Node}
    {inserted : List Node} (h : Inserts edit inserted) {nodes : List Node}
    (hnodup : (ids nodes).Nodup) {top id : Nat} (hid : id ∈ under top (editAt place edit nodes)) :
    id ∈ under top nodes ∨ id ∈ under top inserted ∨
      (id ∈ ids inserted ∧ (place.anchor = top ∨ place.anchor ∈ under top nodes)) := by
  cases nodes with
  | nil => exact Or.inl hid
  | cons node nodes =>
    rw [ids, List.nodup_append] at hnodup
    obtain ⟨hnode, hnodes, -⟩ := hnodup
    have heach : id ∈ under top (editNode place edit node :: editAt place edit nodes) →
        id ∈ under top (node :: nodes) ∨ id ∈ under top inserted ∨
          (id ∈ ids inserted ∧
            (place.anchor = top ∨ place.anchor ∈ under top (node :: nodes))) := by
      intro hid
      rw [under, List.mem_append] at hid
      simp only [under, List.mem_append]
      rcases hid with hid | hid
      · rcases mem_underIn_editNode h hnode hid with hid | hid | ⟨hid, hplace | hplace⟩ <;> tauto
      · rcases mem_under_editAt h hnodes hid with hid | hid | ⟨hid, hplace | hplace⟩ <;> tauto
    cases place with
    | lastIn i => exact heach hid
    | lastInContents i => exact heach hid
    | before i =>
      simp only [editAt] at hid
      split at hid
      · rw [under_append, h.under_eq, under, List.nil_append, List.mem_append] at hid
        tauto
      · split at hid
        · have hcut : under top nodes = under top (nodes.takeWhile (!·.isElement i)) ++
              under top (nodes.dropWhile (!·.isElement i)) := by
            rw [← under_append, List.takeWhile_append_dropWhile]
          rw [under_append, h.under_eq, under] at hid
          rw [under, hcut]
          simp only [List.mem_append] at hid ⊢
          tauto
        · exact heach hid

end

/-! ## Removal -/

mutual

/-- Nothing is removed from a node without the target. -/
theorem removeIn_of_not_mem {target : Nat} {node : Node} (h : target ∉ idsIn node) :
    removeIn target node = node ∧ findIn? target node = none := by
  cases node with
  | element id name attributes children contents =>
    simp only [idsIn, List.mem_cons, List.mem_append, not_or] at h
    obtain ⟨hchildren, hfindChildren⟩ := remove_of_not_mem h.2.1
    obtain ⟨hcontents, hfindContents⟩ := remove_of_not_mem h.2.2
    have hid : (id == target) = false := beq_eq_false_iff_ne.2 (Ne.symm h.1)
    exact ⟨by rw [removeIn, hchildren, hcontents],
      by simp [findIn?, hid, hfindChildren, hfindContents]⟩
  | text value => exact ⟨rfl, rfl⟩
  | comment value => exact ⟨rfl, rfl⟩
  | doctype declaration => exact ⟨rfl, rfl⟩

/-- An element that is not there is neither found nor removed. -/
theorem remove_of_not_mem {target : Nat} {nodes : List Node} (h : target ∉ ids nodes) :
    remove target nodes = nodes ∧ find? target nodes = none := by
  cases nodes with
  | nil => exact ⟨rfl, rfl⟩
  | cons node nodes =>
    simp only [ids, List.mem_append, not_or] at h
    obtain ⟨hnode, hfindNode⟩ := removeIn_of_not_mem h.1
    obtain ⟨hnodes, hfindNodes⟩ := remove_of_not_mem h.2
    have hself : node.isElement target = false :=
      Bool.eq_false_iff.2 fun hself => h.1 (mem_idsIn_of_isElement hself)
    exact ⟨by simp [remove, hself, hnode, hnodes], by simp [find?, hfindNode, hfindNodes]⟩

end

/-- A document is taken apart into an element, with everything below it, and the rest. -/
structure Extracts (target : Nat) (nodes : List Node) (part : Node) (rest : List Node) : Prop where
  isElement : part.isElement target = true
  elements_perm : (elements nodes).Perm (elementsIn part ++ elements rest)
  under_part : ∀ {top id : Nat}, id ∈ underIn top part → id ∈ under top nodes
  under_rest : ∀ {top id : Nat}, id ∈ under top rest → id ∈ under top nodes
  under_target : ∀ {id : Nat}, id ∈ idsIn part → id = target ∨ id ∈ under target nodes

namespace Extracts

variable {target : Nat} {nodes : List Node} {part : Node} {rest : List Node}

/-- The identities of a document are those of the part taken out and of the rest. -/
theorem ids_perm (h : Extracts target nodes part rest) :
    (ids nodes).Perm (idsIn part ++ ids rest) := by
  have hperm := h.elements_perm.map (·.id)
  rwa [List.map_append, map_id_elements, map_id_elements, map_id_elementsIn] at hperm

/-- An identity is in the part that is taken out, or in the rest. -/
theorem mem_ids (h : Extracts target nodes part rest) {id : Nat} :
    id ∈ ids nodes ↔ id ∈ idsIn part ∨ id ∈ ids rest := by
  rw [h.ids_perm.mem_iff, List.mem_append]

/-- Taking an element out of a part of a document takes it out of the document. -/
theorem inside (h : Extracts target nodes part rest) {id : Nat} (hid : id ≠ target)
    (name : ElementName) (attributes : List Attribute) (before after : List Node)
    (f : List Node → Node)
    (helements : ∀ siblings, (elementsIn (f siblings)).Perm
      (⟨id, name, attributes⟩ :: (elements siblings ++ (elements before ++ elements after))))
    (hunder : ∀ top siblings, underIn top (f siblings) =
      if id = top then ids before ++ ids siblings ++ ids after
      else under top before ++ under top siblings ++ under top after) :
    Extracts target [f nodes] part [f rest] where
  isElement := h.isElement
  elements_perm := by
    rw [List.perm_iff_count]
    intro e
    have he := h.elements_perm.count_eq e
    have hnodes := (helements nodes).count_eq e
    have hrest := (helements rest).count_eq e
    simp only [elements, List.append_nil, List.count_append, List.count_cons] at he hnodes hrest ⊢
    omega
  under_part := by
    intro top y hy
    have hmem := h.under_part hy
    simp only [under, List.append_nil, hunder]
    split
    · simp [mem_ids_of_mem_under hmem]
    · simp [hmem]
  under_rest := by
    intro top y hy
    simp only [under, List.append_nil, hunder] at hy ⊢
    split
    · rename_i htop
      rw [if_pos htop] at hy
      simp only [List.mem_append] at hy ⊢
      have hrest : y ∈ ids rest → y ∈ ids nodes := fun hmem => h.mem_ids.2 (Or.inr hmem)
      tauto
    · rename_i htop
      rw [if_neg htop] at hy
      simp only [List.mem_append] at hy ⊢
      have hrest : y ∈ under top rest → y ∈ under top nodes := h.under_rest
      tauto
  under_target := by
    intro y hy
    simp only [under, List.append_nil, hunder, if_neg hid, List.mem_append]
    rcases h.under_target hy with hy | hy
    · exact Or.inl hy
    · exact Or.inr (Or.inl (Or.inr hy))

/-- Nodes before and after stay in the rest. -/
theorem around (h : Extracts target nodes part rest) (before after : List Node) :
    Extracts target (before ++ nodes ++ after) part (before ++ rest ++ after) where
  isElement := h.isElement
  elements_perm := by
    rw [List.perm_iff_count]
    intro e
    have he := h.elements_perm.count_eq e
    simp only [elements_append, List.count_append] at he ⊢
    omega
  under_part := by
    intro top y hy
    simp [under_append, h.under_part hy]
  under_rest := by
    intro top y hy
    have hrest : y ∈ under top rest → y ∈ under top nodes := h.under_rest
    simp only [under_append, List.mem_append] at hy ⊢
    tauto
  under_target := by
    intro y hy
    rcases h.under_target hy with hy | hy
    · exact Or.inl hy
    · exact Or.inr (by simp [under_append, hy])

end Extracts

mutual

/-- An element in a node is found, and it is taken out of the node whole. -/
theorem extracts_removeIn {target : Nat} {node : Node} (hnodup : (idsIn node).Nodup)
    (hmem : target ∈ idsIn node) (hself : node.isElement target = false) :
    ∃ part, findIn? target node = some part ∧
      Extracts target [node] part [removeIn target node] := by
  cases node with
  | element i name attributes children contents =>
    rw [idsIn, List.nodup_cons, List.nodup_append] at hnodup
    obtain ⟨-, hnodupChildren, hnodupContents, hdisjoint⟩ := hnodup
    have hi : i ≠ target := by
      rintro rfl
      simp [isElement] at hself
    have hbeq : (i == target) = false := beq_eq_false_iff_ne.2 hi
    rw [idsIn, List.mem_cons, List.mem_append] at hmem
    rcases hmem with hmem | hmem | hmem
    · exact absurd hmem.symm hi
    · obtain ⟨part, hfind, hpart⟩ := extracts_remove hnodupChildren hmem
      have hother := (remove_of_not_mem fun hmem' => hdisjoint _ hmem _ hmem' rfl).1
      refine ⟨part, by simp [findIn?, hbeq, hfind], ?_⟩
      rw [removeIn, hother]
      exact hpart.inside hi name attributes [] contents
        (fun siblings => .element i name attributes siblings contents)
        (fun siblings => List.Perm.refl _) (fun top siblings => rfl)
    · obtain ⟨part, hfind, hpart⟩ := extracts_remove hnodupContents hmem
      have hother := remove_of_not_mem fun hmem' => hdisjoint _ hmem' _ hmem rfl
      refine ⟨part, by simp [findIn?, hbeq, hfind, hother.2], ?_⟩
      rw [removeIn, hother.1]
      exact hpart.inside hi name attributes children []
        (fun siblings => .element i name attributes children siblings)
        (fun siblings => by
          rw [elementsIn, elements, List.append_nil]
          exact List.Perm.cons _ List.perm_append_comm)
        (fun top siblings => by simp [underIn, ids, under])
  | text value => simp [idsIn] at hmem
  | comment value => simp [idsIn] at hmem
  | doctype declaration => simp [idsIn] at hmem

/-- An element that is there is found, and removing it leaves the rest. -/
theorem extracts_remove {target : Nat} {nodes : List Node} (hnodup : (ids nodes).Nodup)
    (hmem : target ∈ ids nodes) :
    ∃ part, find? target nodes = some part ∧ Extracts target nodes part (remove target nodes) := by
  cases nodes with
  | nil => simp [ids] at hmem
  | cons node nodes =>
    rw [ids, List.nodup_append] at hnodup
    obtain ⟨hnode, hnodes, hdisjoint⟩ := hnodup
    -- The first node is taken out whole, or the target is in it, or it is further back.
    by_cases hself : node.isElement target = true
    · have hother : target ∉ ids nodes := fun hmem' =>
        hdisjoint _ (mem_idsIn_of_isElement hself) _ hmem' rfl
      cases node with
      | element i name attributes children contents =>
        have hi : i = target := beq_iff_eq.1 hself
        subst hi
        rw [remove, if_pos hself, (remove_of_not_mem hother).1]
        refine ⟨_, by simp [find?, findIn?], hself, List.Perm.refl _, ?_, ?_, ?_⟩
        · intro top y hy
          rw [under]
          exact List.mem_append_left _ hy
        · intro top y hy
          rw [under]
          exact List.mem_append_right _ hy
        · intro y hy
          rw [idsIn, List.mem_cons] at hy
          rw [under, underIn, if_pos rfl, List.mem_append]
          tauto
      | text value => exact absurd hself (by simp [isElement])
      | comment value => exact absurd hself (by simp [isElement])
      | doctype declaration => exact absurd hself (by simp [isElement])
    · simp only [Bool.not_eq_true] at hself
      rw [ids, List.mem_append] at hmem
      rcases hmem with hmem | hmem
      · have hother : target ∉ ids nodes := fun hmem' => hdisjoint _ hmem _ hmem' rfl
        obtain ⟨part, hfind, hpart⟩ := extracts_removeIn hnode hmem hself
        refine ⟨part, by rw [find?, hfind]; rfl, ?_⟩
        rw [remove, if_neg (by simp [hself]), (remove_of_not_mem hother).1]
        exact hpart.around [] nodes
      · have hother : target ∉ idsIn node := fun hmem' => hdisjoint _ hmem' _ hmem rfl
        obtain ⟨part, hfind, hpart⟩ := extracts_remove hnodes hmem
        refine ⟨part, by rw [find?, (removeIn_of_not_mem hother).2, hfind]; rfl, ?_⟩
        rw [remove, if_neg (by simp [hself]), (removeIn_of_not_mem hother).1]
        simpa using hpart.around [node] []

end

end Node

end TemplateImports.Markup
