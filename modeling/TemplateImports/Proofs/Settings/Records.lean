import Mathlib.Data.List.Nodup
import Mathlib.Data.List.Perm.Subperm
import TemplateImports.KeyedList
import TemplateImports.Settings.Text
import TemplateImports.Text.Order

/-!
# Layouts of records

A record is written as an object, whose members may stand in any order among others that are not
known, or as the list of its fields.  What is read from it depends only on what it holds for each of
its fields, and a field that is missing counts as one at its default.

Main results:

- Definition `held` says what a value holds for a field; theorem `fields?_eq_some_iff` says that
  these are the fields of a record.
- Inductive `RecordRelaid` says which changes of the layout keep a record; inductive `AtField` makes
  a change inside one field.
- Theorems `RecordReader.read_of_relaid` and `RecordReader.read_of_atField` say that such changes
  are not noticed by the reader.
-/

namespace TemplateImports

/-! ## What a record holds -/

/-- What a value holds for a field: the member of an object, or the item at the place of the field
in a list. -/
def held (names : List String) (name : String) : Json → Option Json
  | .object members => members.lookup name
  | .array items => items[names.idxOf name]?
  | _ => none

/-- A value has the form of a record: it is an object without repeated fields, or a list that is not
longer than the record. -/
def IsRecord (names : List String) : Json → Prop
  | .object members => ((members.map (·.1)).filter names.contains).Nodup
  | .array items => items.length ≤ names.length
  | _ => False

theorem length_eraseDups_eq_iff {texts : List String} :
    texts.eraseDups.length = texts.length ↔ texts.Nodup := by
  constructor
  · intro h
    have hsub : texts.eraseDups.Subperm texts :=
      List.subperm_of_subset (Text.nodup_eraseDups texts) fun _ => List.mem_eraseDups.1
    exact (hsub.perm_of_length_le (Nat.le_of_eq h.symm)).nodup_iff.1 (Text.nodup_eraseDups texts)
  · intro h
    rw [Text.eraseDups_eq_self h]

/-- The fields of a record are what it holds for each of them. -/
theorem fields?_eq_some_iff {names : List String} (hnames : names.Nodup) {v : Json}
    {fields : List (Option Json)} :
    fields? names v = some fields ↔ IsRecord names v ∧ names.map (held names · v) = fields := by
  cases v with
  | object members => simp [fields?, IsRecord, held, length_eraseDups_eq_iff]
  | array items =>
    have hitems (h : items.length ≤ names.length) : names.map (items[names.idxOf ·]?) =
        items.map some ++ List.replicate (names.length - items.length) none := by
      refine List.ext_getElem (by simp; omega) fun i hi _ => ?_
      rw [List.getElem_map, hnames.idxOf_getElem, List.getElem_append]
      split
      · rename_i hlt
        simp [List.getElem?_eq_getElem (by simpa using hlt)]
      · rename_i hge
        simp [List.getElem?_eq_none (by simpa using hge)]
    simp only [fields?, IsRecord, held, Option.ite_none_right_eq_some, Option.some.injEq]
    exact and_congr_right fun h => by rw [hitems h]
  | null => simp [fields?, IsRecord]
  | bool value => simp [fields?, IsRecord]
  | number text => simp [fields?, IsRecord]
  | string text => simp [fields?, IsRecord]
  | broken => simp [fields?, IsRecord]

section Objects

variable {names : List String} {members : List (String × Json)} {name : String}

theorem lookup_filter_known (hname : name ∈ names) :
    (members.filter fun p => names.contains p.1).lookup name = members.lookup name := by
  induction members with
  | nil => rfl
  | cons p members ih =>
    by_cases hp : name = p.1
    · rw [List.filter_cons_of_pos (by simpa [← hp] using hname), List.lookup_cons, List.lookup_cons,
        beq_iff_eq.2 hp]
    · rw [List.lookup_cons, beq_eq_false_iff_ne.2 hp, ← ih, List.filter_cons]
      split
      · rw [List.lookup_cons, beq_eq_false_iff_ne.2 hp]
      · rfl

/-- In an object that is a record, a field is what one member says. -/
theorem lookup_eq_some_iff_mem (h : IsRecord names (.object members)) (hname : name ∈ names)
    {value : Json} : members.lookup name = some value ↔ (name, value) ∈ members := by
  constructor
  · intro hlookup
    obtain ⟨before, after, heq, -⟩ := List.lookup_eq_some_iff.1 hlookup
    simp [heq]
  · intro hmem
    have hdistinct : ((members.filter fun p => names.contains p.1).map (·.1)).Nodup := by
      have heq := List.filter_map (p := names.contains) (f := Prod.fst) (l := members)
      exact heq ▸ h
    rw [← lookup_filter_known hname]
    exact KeyedList.lookup_of_mem hdistinct (List.mem_filter.2 ⟨hmem, by simpa using hname⟩)

end Objects

/-! ## Changes of the layout -/

/-- A field counts as the same in two layouts: both hold the same for it, or in both it is at its
default. -/
def SameField (isDefault : String → Option Json → Prop) (name : String) (x y : Option Json) :
    Prop :=
  x = y ∨ isDefault name x ∧ isDefault name y

/-- One change of the layout of a record: its members are put in another order, a member is added
that is not known, or the record is written as the list of its fields instead of an object, or the
other way round.  In a list the last fields may be left out if they are at their defaults. -/
inductive RecordRelaid (names : List String) (admits : Json → Prop)
    (isDefault : String → Option Json → Prop) : Json → Json → Prop
  | reorder {members members' : List (String × Json)} (h : members.Perm members') :
      RecordRelaid names admits isDefault (.object members) (.object members')
  | extend {members : List (String × Json)} {name : String} {value : Json} (hname : name ∉ names)
      (h : admits value) :
      RecordRelaid names admits isDefault (.object members) (.object ((name, value) :: members))
  | toList {members : List (String × Json)} {items : List Json}
      (hlength : items.length ≤ names.length)
      (h : ∀ (i : Nat) (name : String), names[i]? = some name →
        SameField isDefault name (members.lookup name) items[i]?) :
      RecordRelaid names admits isDefault (.object members) (.array items)
  | toObject {members : List (String × Json)} {items : List Json}
      (hknown : ∀ p ∈ members, p.1 ∈ names) (hdistinct : (members.map (·.1)).Nodup)
      (h : ∀ (i : Nat) (name : String), names[i]? = some name →
        SameField isDefault name items[i]? (members.lookup name)) :
      RecordRelaid names admits isDefault (.array items) (.object members)

/-- A change inside one field of a record, whichever way the record is written. -/
inductive AtField (names : List String) (name : String) (change : Json → Json → Prop) :
    Json → Json → Prop
  | member {before after : List (String × Json)} {value value' : Json} (h : change value value') :
      AtField names name change (.object (before ++ (name, value) :: after))
        (.object (before ++ (name, value') :: after))
  | item {before after : List Json} {value value' : Json}
      (hname : names[before.length]? = some name) (h : change value value') :
      AtField names name change (.array (before ++ value :: after))
        (.array (before ++ value' :: after))

section Changes

variable {names : List String} {admits : Json → Prop} {isDefault : String → Option Json → Prop}
  {v v' : Json}

/-- After a change of the layout a record is still a record. -/
theorem RecordRelaid.isRecord (h : RecordRelaid names admits isDefault v v')
    (hv : IsRecord names v) : IsRecord names v' := by
  cases h with
  | reorder h => exact ((h.map Prod.fst).filter names.contains).nodup_iff.1 hv
  | extend hname h =>
    show (List.filter _ (_ :: _)).Nodup
    rw [List.filter_cons_of_neg (by simpa using hname)]
    exact hv
  | toList hlength h => exact hlength
  | toObject hknown hdistinct h => exact hdistinct.filter _

/-- A change of the layout keeps every field. -/
theorem RecordRelaid.sameField (h : RecordRelaid names admits isDefault v v')
    (hv : IsRecord names v) {name : String} (hname : name ∈ names) :
    SameField isDefault name (held names name v) (held names name v') := by
  have hplace : names[names.idxOf name]? = some name := List.getElem?_idxOf hname
  have hv' := h.isRecord hv
  cases h with
  | reorder h =>
    refine Or.inl (Option.ext fun value => ?_)
    exact (lookup_eq_some_iff_mem hv hname).trans
      (h.mem_iff.trans (lookup_eq_some_iff_mem hv' hname).symm)
  | @extend members other value hother h =>
    refine Or.inl ?_
    have hne : (name == other) = false := beq_eq_false_iff_ne.2 fun heq => hother (heq ▸ hname)
    simp [held, List.lookup_cons, hne]
  | toList hlength h => exact h _ _ hplace
  | toObject hknown hdistinct h => exact h _ _ hplace

/-- A change inside a field changes what is held for this field only. -/
theorem AtField.held_eq {name : String} {change : Json → Json → Prop}
    (h : AtField names name change v v') (hnames : names.Nodup) (hname : name ∈ names)
    (hv : IsRecord names v) :
    IsRecord names v' ∧
      (∃ value value', change value value' ∧ held names name v = some value ∧
        held names name v' = some value') ∧
      ∀ other ∈ names, other ≠ name → held names other v' = held names other v := by
  cases h with
  | @member before after value value' h =>
    have hv' : IsRecord names (.object (before ++ (name, value') :: after)) := by
      simpa [IsRecord] using hv
    refine ⟨hv', ⟨value, value', h, ?_, ?_⟩, fun other _ hne => ?_⟩
    · exact (lookup_eq_some_iff_mem hv hname).2 (by simp)
    · exact (lookup_eq_some_iff_mem hv' hname).2 (by simp)
    · simp [held, List.lookup_append, List.lookup_cons, beq_eq_false_iff_ne.2 hne]
  | @item before after value value' hplace h =>
    obtain ⟨hlt, hget⟩ := List.getElem?_eq_some_iff.1 hplace
    have hidx : names.idxOf name = before.length := by
      rw [← hget]
      exact hnames.idxOf_getElem before.length hlt
    refine ⟨by simpa [IsRecord] using hv, ⟨value, value', h, ?_, ?_⟩, fun other hother hne => ?_⟩
    · simp [held, hidx]
    · simp [held, hidx]
    · have hplaces : names.idxOf other ≠ before.length := by
        rw [← hidx]
        exact fun heq => hne ((List.idxOf_inj hother).1 heq)
      simp only [held]
      rw [List.getElem?_append, List.getElem?_append, List.getElem?_cons, List.getElem?_cons]
      split
      · rfl
      · split
        · omega
        · rfl

end Changes

/-! ## Readers of records -/

/-- A field of a record with what is read for it from what a value holds. -/
structure RecordField (α : Type) where
  name : String
  {β : Type}
  read? : Option Json → Option β
  get : α → β

/-- A record is read field by field. -/
structure RecordReader {α : Type} (read? : Json → Option α) (names : List String)
    (fields : List (RecordField α)) : Prop where
  names_eq : fields.map (·.name) = names
  nodup : names.Nodup
  read_iff : ∀ {v : Json} {a : α}, read? v = some a ↔
    IsRecord names v ∧ ∀ f ∈ fields, f.read? (held names f.name v) = some (f.get a)

/-- A record that holds nothing else than this for one field is the default record. -/
def IsDefault {α : Type} (read? : Json → Option α) (default : α) (name : String)
    (value : Option Json) : Prop :=
  read? (.object (value.toList.map fun value => (name, value))) = some default

namespace RecordReader

variable {α : Type} {read? : Json → Option α} {names : List String} {fields : List (RecordField α)}
  {v v' : Json} {a : α}

/-- It is enough to look at the values that have the form of the record. -/
theorem of_isRecord (hnames : fields.map (·.name) = names) (hnodup : names.Nodup)
    (hnone : ∀ {v : Json}, fields? names v = none → read? v = none)
    (hread : ∀ {v : Json} {a : α}, IsRecord names v →
      (read? v = some a ↔ ∀ f ∈ fields, f.read? (held names f.name v) = some (f.get a))) :
    RecordReader read? names fields where
  names_eq := hnames
  nodup := hnodup
  read_iff {v a} := by
    by_cases h : IsRecord names v
    · rw [hread h]
      exact ⟨fun hfields => ⟨h, hfields⟩, fun hfields => hfields.2⟩
    · have hfields : fields? names v = none := Option.eq_none_iff_forall_ne_some.2
        fun _ hfields => h ((fields?_eq_some_iff hnodup).1 hfields).1
      rw [hnone hfields]
      exact ⟨fun hread => absurd hread (by simp), fun hfields => absurd hfields.1 h⟩

theorem name_mem (h : RecordReader read? names fields) {f : RecordField α} (hf : f ∈ fields) :
    f.name ∈ names := by
  rw [← h.names_eq]
  exact List.mem_map_of_mem hf

/-- Where a field is at its default, its default is read. -/
theorem read_of_isDefault (h : RecordReader read? names fields) {f : RecordField α}
    (hf : f ∈ fields) {default : α} {value : Option Json} (hvalue : IsDefault read? default f.name value) :
    f.read? value = some (f.get default) := by
  have hread := (h.read_iff.1 hvalue).2 f hf
  cases value with
  | none => simpa [held] using hread
  | some value => simpa [held] using hread

/-- A change of the layout is not noticed, if the reader takes defaults for what they are. -/
theorem read_of_relaid (h : RecordReader read? names fields) {admits : Json → Prop}
    {isDefault : String → Option Json → Prop}
    (hdefault : ∀ f ∈ fields, ∀ x y, isDefault f.name x → isDefault f.name y →
      f.read? x = f.read? y)
    (hrelaid : RecordRelaid names admits isDefault v v') (hv : read? v = some a) :
    read? v' = some a := by
  obtain ⟨hrecord, hfields⟩ := h.read_iff.1 hv
  refine h.read_iff.2 ⟨hrelaid.isRecord hrecord, fun f hf => ?_⟩
  rw [← hfields f hf]
  rcases hrelaid.sameField hrecord (h.name_mem hf) with heq | ⟨hx, hy⟩
  · rw [heq]
  · exact hdefault f hf _ _ hy hx

/-- A change of the layout is not noticed in a record with a default for every field. -/
theorem read_of_relaid_default (h : RecordReader read? names fields) {admits : Json → Prop}
    {default : α} (hrelaid : RecordRelaid names admits (IsDefault read? default) v v')
    (hv : read? v = some a) : read? v' = some a := by
  refine h.read_of_relaid (fun f hf x y hx hy => ?_) hrelaid hv
  rw [h.read_of_isDefault hf hx, h.read_of_isDefault hf hy]

/-- A change inside a field is not noticed, if what is read for the field stays the same. -/
theorem read_of_atField (h : RecordReader read? names fields) {f : RecordField α} (hf : f ∈ fields)
    {change : Json → Json → Prop}
    (hchange : ∀ {value value' : Json} {b : f.β}, change value value' →
      f.read? (some value) = some b → f.read? (some value') = some b)
    (hat : AtField names f.name change v v') (hv : read? v = some a) : read? v' = some a := by
  obtain ⟨hrecord, hfields⟩ := h.read_iff.1 hv
  obtain ⟨hrecord', ⟨value, value', hstep, hheld, hheld'⟩, hothers⟩ :=
    hat.held_eq h.nodup (h.name_mem hf) hrecord
  refine h.read_iff.2 ⟨hrecord', fun g hg => ?_⟩
  by_cases hname : g.name = f.name
  · have heq : g = f :=
      List.inj_on_of_nodup_map (by rw [h.names_eq]; exact h.nodup) hg hf hname
    subst heq
    have hread := hfields g hg
    rw [hheld] at hread
    rw [hheld']
    exact hchange hstep hread
  · rw [hothers g.name (h.name_mem hg) hname]
    exact hfields g hg

end RecordReader

end TemplateImports
