/-!
# Order of texts

Texts are ordered by their code points, which is the order of their bytes in UTF-8 as well.

Main results:

- Definition `sortOn` sorts values by a text; it is stable.
- Definition `sortDistinct` lists the members of a list once each, in order.
- Theorems `sortOn_perm` and `sortOn_pairwise` say that sorting reorders and that its result is in
  order; theorem `pairwise_lt_sortOn` says that distinct texts ascend strictly.
- Theorems `mem_sortDistinct` and `pairwise_lt_sortDistinct` say the same of listing once each.
-/

namespace TemplateImports.Text

/-- Sorts values by a text.  Values with the same text keep their order. -/
def sortOn {α : Type} (key : α → String) (values : List α) : List α :=
  values.mergeSort fun a b => decide (key a ≤ key b)

/-- Sorting loses, repeats and adds nothing. -/
theorem sortOn_perm {α : Type} (key : α → String) (values : List α) :
    (sortOn key values).Perm values :=
  List.mergeSort_perm _ _

/-- A sorted list is in order. -/
theorem sortOn_pairwise {α : Type} (key : α → String) (values : List α) :
    (sortOn key values).Pairwise fun a b => key a ≤ key b := by
  have h := @List.pairwise_mergeSort α (fun a b => decide (key a ≤ key b))
    (fun a b c hab hbc => by
      simp only [decide_eq_true_eq] at *
      exact String.le_trans hab hbc)
    (fun a b => by
      rcases String.le_total (key a) (key b) with h | h <;> simp [h])
    values
  simpa [sortOn] using h

/-- Values with distinct keys ascend strictly when they are sorted. -/
theorem pairwise_lt_sortOn {α : Type} {key : α → String} {values : List α}
    (hdistinct : (values.map key).Nodup) :
    (sortOn key values).Pairwise fun a b => key a < key b := by
  have hne : (sortOn key values).Pairwise fun a b => key a ≠ key b :=
    List.pairwise_map.1 (((sortOn_perm key values).map key).nodup_iff.2 hdistinct)
  refine ((sortOn_pairwise key values).and hne).imp ?_
  rintro a b ⟨hle, hne⟩
  exact String.not_le.1 fun hge => hne (String.le_antisymm hle hge)

/-- The members of a list, once each and in order. -/
def sortDistinct (texts : List String) : List String :=
  sortOn id texts.eraseDups

/-- Without its repeats, a list holds every member once. -/
theorem nodup_eraseDups (texts : List String) : texts.eraseDups.Nodup := by
  match texts with
  | [] => exact List.nodup_nil
  | text :: texts =>
    have hshorter : (texts.filter fun other => !other == text).length < texts.length + 1 :=
      Nat.lt_succ_of_le (List.length_filter_le _ _)
    rw [List.eraseDups_cons]
    exact List.nodup_cons.2
      ⟨by simp [List.mem_eraseDups], nodup_eraseDups (texts.filter fun other => !other == text)⟩
termination_by texts.length

/-- A list without repeats stays as it is. -/
theorem eraseDups_eq_self {texts : List String} (h : texts.Nodup) : texts.eraseDups = texts := by
  induction texts with
  | nil => rfl
  | cons text texts ih =>
    obtain ⟨hnew, htexts⟩ := List.nodup_cons.1 h
    have hfilter : texts.filter (fun other => !other == text) = texts := by
      rw [List.filter_eq_self]
      intro other hother
      have hne : other ≠ text := fun heq => hnew (heq ▸ hother)
      simpa using hne
    rw [List.eraseDups_cons, hfilter, ih htexts]

/-- Listing once each in order keeps the members. -/
theorem mem_sortDistinct {texts : List String} {text : String} :
    text ∈ sortDistinct texts ↔ text ∈ texts := by
  rw [sortDistinct, (sortOn_perm id _).mem_iff, List.mem_eraseDups]

/-- What is listed once each in order ascends strictly. -/
theorem pairwise_lt_sortDistinct (texts : List String) :
    (sortDistinct texts).Pairwise (· < ·) := by
  have hdistinct : (texts.eraseDups.map id).Nodup := by
    rw [List.map_id]
    exact nodup_eraseDups texts
  exact pairwise_lt_sortOn hdistinct

end TemplateImports.Text
