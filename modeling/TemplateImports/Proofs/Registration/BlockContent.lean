import TemplateImports.Proofs.Matching.Traversal
import TemplateImports.Registration.Block

/-!
# What a block registers

A block names each key of its imports once and each of their statements once.  A repeated key counts
where it stands last, and a repeated statement where it stands first.

Both orders are kept by an invariant of the loop over the imports: behind the imports that were
looked at, the list is the right one for these imports.  With sorted imports nothing is left of the
difference, and the keys ascend strictly.

Main results:

- Structures `KeepsLast` and `KeepsFirst` say what a list without repeats is.
- Theorems `keepsLast_registeredKeys` and `keepsFirst_statements` say that a block lists just this.
- Theorem `pairwise_registeredKeys` says that the keys of sorted imports ascend strictly.
- Theorem `block?_registers` says what stands in a block, and which names it comes from.
-/

namespace TemplateImports

open Text

/-! ## Lists without repeats -/

/-- The last place of one text in a list is in front of the last place of another one. -/
def LastBefore (texts : List String) (s t : String) : Prop :=
  ∃ front back, texts = front ++ s :: back ∧ s ∉ back ∧ t ∈ back

/-- The first place of one text in a list is in front of the first place of another one. -/
def FirstBefore (texts : List String) (s t : String) : Prop :=
  ∃ front back, texts = front ++ t :: back ∧ t ∉ front ∧ s ∈ front

/-- The texts of a list once each, in the order of their last places. -/
structure KeepsLast (texts kept : List String) : Prop where
  mem_iff : ∀ t, t ∈ kept ↔ t ∈ texts
  nodup : kept.Nodup
  ordered : kept.Pairwise (LastBefore texts)

/-- The texts of a list once each, in the order of their first places. -/
structure KeepsFirst (texts kept : List String) : Prop where
  mem_iff : ∀ t, t ∈ kept ↔ t ∈ texts
  nodup : kept.Nodup
  ordered : kept.Pairwise (FirstBefore texts)

/-- A text stands somewhere last. -/
theorem exists_last_of_mem {texts : List String} {t : String} (h : t ∈ texts) :
    ∃ front back, texts = front ++ t :: back ∧ t ∉ back := by
  obtain ⟨back, front, hcut, hnot⟩ := List.eq_append_cons_of_mem (List.mem_reverse.2 h)
  refine ⟨front.reverse, back.reverse, ?_, by simpa using hnot⟩
  rw [← List.reverse_reverse texts, hcut]
  simp

/-- One more text at the end stands last there. -/
theorem KeepsLast.moveToEnd {texts kept : List String} (h : KeepsLast texts kept) (t : String) :
    KeepsLast (texts ++ [t]) (moveToEnd kept t) where
  mem_iff s := by
    by_cases hs : s = t <;> simp [TemplateImports.moveToEnd, h.mem_iff, hs]
  nodup := by
    have hmoved : ([t].foldl TemplateImports.moveToEnd kept).Nodup := nodup_foldl_moveToEnd h.nodup
    exact hmoved
  ordered := by
    unfold TemplateImports.moveToEnd
    rw [List.pairwise_append]
    refine ⟨?_, List.pairwise_singleton _ _, ?_⟩
    · refine (h.ordered.filter _).imp_of_mem ?_
      intro s u hs _ hbefore
      obtain ⟨front, back, rfl, hnot, hmem⟩ := hbefore
      have hne : s ≠ t := by simpa using (List.mem_filter.1 hs).2
      exact ⟨front, back ++ [t], by simp, by simp [hnot, hne], by simp [hmem]⟩
    · intro s hs u hu
      obtain ⟨hkept, hne⟩ := List.mem_filter.1 hs
      have hut : u = t := by simpa using hu
      subst hut
      obtain ⟨front, back, rfl, hnot⟩ := exists_last_of_mem ((h.mem_iff s).1 hkept)
      exact ⟨front, back ++ [u], by simp, by simpa [hnot] using hne, by simp⟩

/-- One more text at the end is added if it is new. -/
theorem KeepsFirst.insertName {texts kept : List String} (h : KeepsFirst texts kept)
    (t : String) : KeepsFirst (texts ++ [t]) (insertName kept t) where
  mem_iff s := by
    simp [mem_insertName, h.mem_iff]
  nodup := nodup_insertName h.nodup t
  ordered := by
    have hold : kept.Pairwise (FirstBefore (texts ++ [t])) := by
      refine h.ordered.imp ?_
      rintro s u ⟨front, back, rfl, hnot, hmem⟩
      exact ⟨front, back ++ [t], by simp, hnot, hmem⟩
    unfold TemplateImports.insertName
    split
    · exact hold
    · rename_i hnew
      have hnot : t ∉ texts := by simpa [h.mem_iff] using hnew
      rw [List.pairwise_append]
      refine ⟨hold, List.pairwise_singleton _ _, ?_⟩
      intro s hs u hu
      have hut : u = t := by simpa using hu
      subst hut
      exact ⟨texts, [], rfl, hnot, (h.mem_iff s).1 hs⟩

/-- The loop over keys keeps each key at its last place. -/
theorem keepsLast_foldl_moveToEnd (keys : List String) :
    KeepsLast keys (keys.foldl moveToEnd []) := by
  induction keys using List.reverseRecOn with
  | nil => exact ⟨by simp, List.nodup_nil, List.Pairwise.nil⟩
  | append_singleton keys key ih =>
    rw [List.foldl_append]
    exact ih.moveToEnd key

/-- The loop over names keeps each name at its first place. -/
theorem keepsFirst_insertNames (names : List String) :
    KeepsFirst names (insertNames [] names) := by
  induction names using List.reverseRecOn with
  | nil => exact ⟨by simp [insertNames], List.nodup_nil, List.Pairwise.nil⟩
  | append_singleton names name ih =>
    rw [insertNames, List.foldl_append]
    exact ih.insertName name

/-- A block registers the keys of its imports, each at the place of its last import. -/
theorem keepsLast_registeredKeys (imports : List Import) :
    KeepsLast (imports.map Import.key) (registeredKeys imports) :=
  keepsLast_foldl_moveToEnd _

/-- A block holds the statements of its imports, each at the place of its first import. -/
theorem keepsFirst_statements (imports : List Import) :
    KeepsFirst (imports.map Import.statement) (statements imports) :=
  keepsFirst_insertNames _

/-! ## Sorted imports -/

/-- Of two keys in a sorted list, the one whose last place is in front is the smaller one. -/
theorem lt_of_lastBefore {keys : List String} (h : keys.Pairwise (· ≤ ·)) {s t : String}
    (hbefore : LastBefore keys s t) : s < t := by
  obtain ⟨front, back, rfl, hnot, hmem⟩ := hbefore
  have hle : s ≤ t := (List.pairwise_cons.1 (List.pairwise_append.1 h).2.1).1 t hmem
  have hne : s ≠ t := by
    rintro rfl
    exact hnot hmem
  exact String.not_le.1 fun hge => hne (String.le_antisymm hle hge)

/-- The registered keys of sorted imports ascend strictly. -/
theorem pairwise_registeredKeys {imports : List Import}
    (h : imports.Pairwise fun i j => i.key ≤ j.key) :
    (registeredKeys imports).Pairwise (· < ·) :=
  (keepsLast_registeredKeys imports).ordered.imp fun hbefore =>
    lt_of_lastBefore (List.pairwise_map.2 h) hbefore

theorem mem_answers_iff {chain : Chain} {site : Site} {names : List String} {i : Import} :
    i ∈ chain.answers site names ↔ ∃ name ∈ names, chain.answer? (site.use name) = some i := by
  simp [Chain.answers]

theorem mem_resolve_iff {chain : Chain} {site : Site} {names : List String} {i : Import} :
    i ∈ resolve chain site names ↔ ∃ name ∈ names, chain.answer? (site.use name) = some i :=
  (resolve_perm chain site names).mem_iff.trans mem_answers_iff

/-- What is registered for names are the keys of the answers to them. -/
theorem mem_registeredKeys_resolve {chain : Chain} {site : Site} {names : List String}
    {key : String} :
    key ∈ registeredKeys (resolve chain site names) ↔
      ∃ name ∈ names, ∃ i, chain.answer? (site.use name) = some i ∧ i.key = key := by
  simp only [mem_registeredKeys, mem_resolve_iff]
  constructor
  · rintro ⟨i, ⟨name, hname, hanswer⟩, hkey⟩
    exact ⟨name, hname, i, hanswer, hkey⟩
  · rintro ⟨name, hname, i, hanswer, hkey⟩
    exact ⟨i, ⟨name, hname, hanswer⟩, hkey⟩

theorem resolve_eq_nil_iff {chain : Chain} {site : Site} {names : List String} :
    resolve chain site names = [] ↔ ∀ name ∈ names, chain.answer? (site.use name) = none := by
  rw [List.eq_nil_iff_forall_not_mem]
  simp only [mem_resolve_iff, not_exists, not_and]
  constructor
  · intro h name hname
    by_contra hsome
    obtain ⟨i, hi⟩ := Option.ne_none_iff_exists'.1 hsome
    exact h i name hname hi
  · intro h i name hname hi
    simp [h name hname] at hi

/-! ## The text of a block -/

namespace Generator

/-- Lines with a line feed behind each one. -/
def joinLines (lines : List String) : String :=
  String.join (lines.map (· ++ "\n"))

/-- The text of a block: the marker, the import of the helper, the given statements, and the call
that registers the given keys. -/
def blockText (g : Generator) (c : Category) (statements keys : List String) : String :=
  joinLines ([g.marker, g.helperImport c] ++ statements ++ [registrationCall c keys])

theorem joinLines_eq {lines : List String} (h : lines ≠ []) :
    "\n".intercalate lines ++ "\n" = joinLines lines := by
  induction lines with
  | nil => exact absurd rfl h
  | cons line lines ih =>
    cases lines with
    | nil => simp [joinLines]
    | cons other lines =>
      rw [String.intercalate_cons_cons, String.append_assoc, ih (by simp)]
      simp [joinLines, String.join_cons]

/-- A block is written from its statements and its keys. -/
theorem block?_of_ne_nil (g : Generator) (c : Category) {imports : List Import}
    (h : imports ≠ []) :
    g.block? c imports = some (g.blockText c (statements imports) (registeredKeys imports)) := by
  rw [block?, if_neg (by simpa using h), joinLines_eq (by simp [blockLines])]
  rfl

/-- A block stands for its imports: there is none exactly for no imports, and else it registers each
key at its last place and holds each statement at its first one.  The block for the names of a
template registers exactly the keys that the chain answers them with, in strictly ascending order,
and is missing exactly if the chain declines them all. -/
theorem block?_registers (g : Generator) (c : Category) :
    (∀ imports : List Import,
      (g.block? c imports = none ↔ imports = []) ∧
      (imports ≠ [] →
        g.block? c imports =
          some (g.blockText c (statements imports) (registeredKeys imports))) ∧
      KeepsLast (imports.map Import.key) (registeredKeys imports) ∧
      KeepsFirst (imports.map Import.statement) (statements imports)) ∧
    ∀ (chain : Chain) (site : Site) (names : List String),
      (g.block? c (resolve chain site names) = none ↔
        ∀ name ∈ names, chain.answer? (site.use name) = none) ∧
      (registeredKeys (resolve chain site names)).Pairwise (fun s t => utf8 s < utf8 t) ∧
      (∀ key, key ∈ registeredKeys (resolve chain site names) ↔
        ∃ name ∈ names, ∃ i, chain.answer? (site.use name) = some i ∧ i.key = key) ∧
      (∀ statement, statement ∈ statements (resolve chain site names) ↔
        ∃ name ∈ names, ∃ i, chain.answer? (site.use name) = some i ∧
          i.statement = statement) := by
  constructor
  · intro imports
    exact ⟨block?_eq_none_iff, block?_of_ne_nil g c, keepsLast_registeredKeys imports,
      keepsFirst_statements imports⟩
  · intro chain site names
    refine ⟨block?_eq_none_iff.trans resolve_eq_nil_iff, ?_, fun key => mem_registeredKeys_resolve,
      ?_⟩
    · exact (pairwise_registeredKeys (resolve_pairwise chain site names)).imp lt_iff_utf8_lt.1
    · intro statement
      rw [(keepsFirst_statements _).mem_iff, List.mem_map]
      constructor
      · rintro ⟨i, hi, rfl⟩
        obtain ⟨name, hname, hanswer⟩ := mem_resolve_iff.1 hi
        exact ⟨name, hname, i, hanswer, rfl⟩
      · rintro ⟨name, hname, i, hanswer, rfl⟩
        exact ⟨i, mem_resolve_iff.2 ⟨name, hname, hanswer⟩, rfl⟩

end Generator

end TemplateImports
