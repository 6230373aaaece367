import TemplateImports.Matching.Resolution
import TemplateImports.Proofs.Text.ByteOrder

/-!
# Resolution and the order of names

A template mentions its names in some order, and the imports of the names are sorted by their keys.
What is sorted by a key alone still shows the old order among equal keys, and nowhere else.

A stable sort is known from three facts: its result is in order, has the same members, and keeps the
members of each key as they were.  The laws of resolution follow from these facts.

Main results:

- Structure `Resolves` says which imports the names need, and in which order.
- Theorem `resolves_resolve` says that resolution lists just these imports.
- Theorem `resolve_of_same_names` compares the imports of two sets with the same names.
-/

namespace TemplateImports

open Text

/-! ## Stable sorting -/

/-- Sorting keeps the values with the same text as they were. -/
theorem Text.filter_sortOn {α : Type} (key : α → String) (values : List α) (text : String) :
    (sortOn key values).filter (fun v => key v == text) =
      values.filter fun v => key v == text := by
  have hequal : (values.filter fun v => key v == text).Pairwise
      fun a b => decide (key a ≤ key b) = true := by
    refine List.pairwise_of_forall_mem_list ?_
    intro a ha b hb
    simp only [List.mem_filter, beq_iff_eq] at ha hb
    simp [ha.2, hb.2]
  have hsub : (values.filter fun v => key v == text).Sublist (sortOn key values) := by
    refine List.sublist_mergeSort ?_ ?_ hequal List.filter_sublist
    · intro a b c hab hbc
      simp only [decide_eq_true_eq] at *
      exact String.le_trans hab hbc
    · intro a b
      rcases String.le_total (key a) (key b) with h | h <;> simp [h]
  have hkept := hsub.filter fun v => key v == text
  rw [List.filter_filter] at hkept
  simp only [Bool.and_self] at hkept
  exact (hkept.eq_of_length (((sortOn_perm key values).filter _).length_eq).symm).symm

/-! ## What resolution lists -/

/-- The imports are the answers of a chain to names, in the order of the bytes of their keys; imports
with the same key stand in the order of their names. -/
structure Resolves (chain : Chain) (site : Site) (names : List String)
    (imports : List Import) : Prop where
  sorted : imports.Pairwise fun i j => utf8 i.key ≤ utf8 j.key
  perm : imports.Perm (chain.answers site names)
  stable : ∀ key, imports.filter (·.key == key) = (chain.answers site names).filter (·.key == key)

/-- Resolution lists the answers of the chain, sorted by their keys without disturbing equal ones. -/
theorem resolves_resolve (chain : Chain) (site : Site) (names : List String) :
    Resolves chain site names (resolve chain site names) where
  sorted := (resolve_pairwise chain site names).imp fun h => le_iff_utf8_le.1 h
  perm := resolve_perm chain site names
  stable := filter_sortOn Import.key (chain.answers site names)

/-! ## Two orders of the same names -/

/-- The answers to the same names in another order are the same, in another order. -/
theorem Chain.answers_perm (chain : Chain) (site : Site) {names names' : List String}
    (h : names.Perm names') : (chain.answers site names).Perm (chain.answers site names') :=
  h.filterMap _

theorem resolve_perm_of_perm (chain : Chain) (site : Site) {names names' : List String}
    (h : names.Perm names') : (resolve chain site names).Perm (resolve chain site names') :=
  (resolve_perm chain site names).trans
    ((chain.answers_perm site h).trans (resolve_perm chain site names').symm)

/-- The sequence of keys does not depend on the order of the names. -/
theorem map_key_resolve_of_perm (chain : Chain) (site : Site) {names names' : List String}
    (h : names.Perm names') :
    (resolve chain site names).map Import.key = (resolve chain site names').map Import.key := by
  have hsorted (names : List String) :
      ((resolve chain site names).map Import.key).Pairwise (· ≤ ·) :=
    List.pairwise_map.2 (resolve_pairwise chain site names)
  exact List.Perm.eq_of_pairwise (fun _ _ _ _ => String.le_antisymm) (hsorted names)
    (hsorted names') ((resolve_perm_of_perm chain site h).map Import.key)

/-- The imports do not depend on the order of the names if no two of them share a key. -/
theorem resolve_eq_of_perm (chain : Chain) (site : Site) {names names' : List String}
    (h : names.Perm names')
    (hkeys : ∀ i ∈ chain.answers site names, ∀ j ∈ chain.answers site names,
      i.key = j.key → i = j) :
    resolve chain site names = resolve chain site names' := by
  refine List.Perm.eq_of_pairwise ?_ (resolve_pairwise chain site names)
    (resolve_pairwise chain site names') (resolve_perm_of_perm chain site h)
  intro i j hi hj hij hji
  have hi' : i ∈ chain.answers site names := (resolve_perm chain site names).mem_iff.1 hi
  have hj' : j ∈ chain.answers site names :=
    (chain.answers_perm site h).mem_iff.2 ((resolve_perm chain site names').mem_iff.1 hj)
  exact hkeys i hi' j hj' (String.le_antisymm hij hji)

/-- Two sets with the same names are resolved to imports that differ at most in the order of those
with the same key, where each follows its own names. -/
theorem resolve_of_same_names (chain : Chain) (site : Site) {names names' : List String}
    (hnames : names.Nodup) (hnames' : names'.Nodup)
    (hsame : ∀ name, name ∈ names ↔ name ∈ names') :
    Resolves chain site names (resolve chain site names) ∧
      Resolves chain site names' (resolve chain site names') ∧
      (resolve chain site names).map Import.key = (resolve chain site names').map Import.key ∧
      (resolve chain site names).Perm (resolve chain site names') ∧
      ((∀ i ∈ chain.answers site names, ∀ j ∈ chain.answers site names,
          i.key = j.key → i = j) →
        resolve chain site names = resolve chain site names') := by
  have hperm : names.Perm names' := (List.perm_ext_iff_of_nodup hnames hnames').2 hsame
  exact ⟨resolves_resolve chain site names, resolves_resolve chain site names',
    map_key_resolve_of_perm chain site hperm, resolve_perm_of_perm chain site hperm,
    resolve_eq_of_perm chain site hperm⟩

/-- Two names share a key, and a third one is declined: the keys agree, and each of the shared ones
follows its own names. -/
theorem resolve_of_same_names_colliding :
    (resolve [fun u => if u.name == "div" then none else some ⟨"Icon", u.name⟩]
        ⟨.tag, "App.vue", {}⟩ ["my-icon", "div", "app-icon"]).map Import.key =
      (resolve [fun u => if u.name == "div" then none else some ⟨"Icon", u.name⟩]
        ⟨.tag, "App.vue", {}⟩ ["app-icon", "my-icon", "div"]).map Import.key ∧
    (resolve [fun u => if u.name == "div" then none else some ⟨"Icon", u.name⟩]
        ⟨.tag, "App.vue", {}⟩ ["my-icon", "div", "app-icon"]).filter (·.key == "Icon") =
      [⟨"Icon", "my-icon"⟩, ⟨"Icon", "app-icon"⟩] ∧
    (resolve [fun u => if u.name == "div" then none else some ⟨"Icon", u.name⟩]
        ⟨.tag, "App.vue", {}⟩ ["app-icon", "my-icon", "div"]).filter (·.key == "Icon") =
      [⟨"Icon", "app-icon"⟩, ⟨"Icon", "my-icon"⟩] := by
  obtain ⟨h, h', hkeys, -⟩ := resolve_of_same_names
    [fun u => if u.name == "div" then none else some ⟨"Icon", u.name⟩] ⟨.tag, "App.vue", {}⟩
    (show ["my-icon", "div", "app-icon"].Nodup by decide)
    (show ["app-icon", "my-icon", "div"].Nodup by decide) (by grind)
  exact ⟨hkeys, (h.stable "Icon").trans (by decide), (h'.stable "Icon").trans (by decide)⟩

end TemplateImports
