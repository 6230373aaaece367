import Mathlib.Data.List.Pairwise
import TemplateImports.Proofs.Registration.MergeLaws
import TemplateImports.Proofs.Registration.ObjectPlaces

/-!
# The container of a run

A helper links a container to options and then goes through the registrations.  Each step of the
loop changes the members of the container only, so that the loop as a whole is one change of one
object, which is seen at all places of the container and nowhere else.

Main results:

- Theorem `Heap.foldlM_installOne?` describes the loop as a change of the container.
- Theorem `Heap.Represents.foldl_installHeld` says which members the container then has.
- Theorem `Heap.Prepared.shows_replace` says what a component holds after the loop, and
  `Heap.Prepared.stands_replace` where the container stands.
- Theorem `Heap.Linkable.prepared` says the same for linking a container.
-/

namespace TemplateImports

open Json

/-! ## Registering on data -/

/-- Adds a registration to a container in the way of a helper. -/
def registerInstalled (container : List (String × Json)) (entry : String × Json) :
    List (String × Json) :=
  if entry.1 ∈ inheritedNames ∧ (container.lookup entry.1).isNone then container
  else register container entry

/-! ## Places that part -/

section Places

variable {places : List (List String)} {place other : List String} {v value : Json}

/-- None of several parting places leads through another one. -/
theorem eq_of_prefix_of_apart (hplaces : places.Pairwise Apart) (hplace : place ∈ places)
    (hother : other ∈ places) (h : place <+: other) : place = other := by
  have : Std.Symm Apart := ⟨fun _ _ => Apart.symm⟩
  by_contra hne
  exact (hplaces.forall hplace hother hne).1 h

theorem held?_setAll_append (hplaces : places.Pairwise Apart) (hplace : place ∈ places)
    (rest : List String) : (v.setAll value places).held? (place ++ rest) = value.held? rest := by
  rw [Json.held?, Json.at?_append, at?_setAll_of_mem hplaces hplace]
  rfl

/-- A place outside of written places sees no write if there were objects on the way to them. -/
theorem held?_setAll_of_not_prefix (hplace : ∀ p ∈ places, ¬ p <+: place)
    (hobjects : ∀ p ∈ places, place <+: p → v.held? place = some (.object [])) :
    (v.setAll value places).held? place = v.held? place := by
  induction places generalizing v with
  | nil => rfl
  | cons p places ih =>
    have hwrite : (v.setAt value p).held? place = v.held? place := by
      rw [held?_setAt, if_neg (hplace p List.mem_cons_self)]
      split
      · rename_i h
        exact (hobjects p List.mem_cons_self h).symm
      · rfl
    calc ((v.setAt value p).setAll value places).held? place
        = (v.setAt value p).held? place :=
          ih (fun q hq => hplace q (List.mem_cons_of_mem _ hq))
            fun q hq hprefix => hwrite.trans (hobjects q (List.mem_cons_of_mem _ hq) hprefix)
      _ = v.held? place := hwrite

end Places

/-! ## Containers on the heap -/

namespace Heap

variable {heap : Heap} {root options : Held} {id oid : Nat} {field : String}
  {held entries : List (String × Held)} {members registrations : List (String × Json)}

/-- Members that stand for members in data, without leading back to the object `id` that they are
to be members of. -/
structure Represents (heap : Heap) (id : Nat) (held : List (String × Held))
    (members : List (String × Json)) : Prop where
  shown : ∀ place, (heap.memberAt? held place).bind Held.outline? = memberHeld? members place
  apart : ∀ place, heap.memberAt? held place ≠ some (.object id)
  foreign : ∀ name value, held.lookup name = some value → value.outline? = none →
    value = .inherited name ∧ name ∈ inheritedNames

/-- A registered value that shows data and is apart from an object. -/
structure Stands (heap : Heap) (id : Nat) (entry : String × Held)
    (registration : String × Json) : Prop where
  key : entry.1 = registration.1
  shows : heap.Shows entry.2 registration.2
  apart : ¬ heap.Reaches entry.2 id

/-- The entry of a helper's loop, in the members of the container. -/
def installHeld (held : List (String × Held)) (entry : String × Held) : List (String × Held) :=
  let present := (held.lookup entry.1).getD (absent entry.1)
  KeyedList.put entry.1 (if present.isTruthy then present else entry.2) held

theorem memberAt?_put (heap : Heap) (name : String) (value : Held) (held : List (String × Held))
    (other : String) (names : List String) :
    heap.memberAt? (KeyedList.put name value held) (other :: names) =
      if other = name then heap.at? value names else heap.memberAt? held (other :: names) := by
  by_cases h : other = name
  · simp [memberAt?, KeyedList.lookup_put, h]
  · simp [memberAt?, KeyedList.lookup_put, h]

theorem Represents.put_of_not_reaches {name : String} {value : Held} {v : Json}
    (h : heap.Represents id held members) (hshows : heap.Shows value v)
    (hreach : ¬ heap.Reaches value id) :
    heap.Represents id (KeyedList.put name value held) (KeyedList.put name v members) where
  shown := by
    intro place
    cases place with
    | nil => rfl
    | cons other names =>
      rw [memberAt?_put]
      by_cases hname : other = name
      · simpa [hname, memberHeld?, KeyedList.lookup_put, Heap.held?] using hshows names
      · simpa [hname, memberHeld?, KeyedList.lookup_put] using h.shown (other :: names)
  apart := by
    intro place hplace
    cases place with
    | nil => simp [memberAt?] at hplace
    | cons other names =>
      rw [memberAt?_put] at hplace
      split at hplace
      · exact hreach ⟨names, hplace⟩
      · exact h.apart _ hplace
  foreign := by
    intro other value' hlookup houtline
    rw [KeyedList.lookup_put] at hlookup
    split at hlookup
    · cases hlookup
      exact absurd ((hshows []).symm.trans houtline) (by simp [Json.held?, Json.at?])
    · exact h.foreign other value' hlookup houtline

/-- A name that every object has is left alone in data. -/
theorem Represents.put_inherited {name : String} (h : heap.Represents id held members)
    (hname : name ∈ inheritedNames) (hmissing : members.lookup name = none) :
    heap.Represents id (KeyedList.put name (.inherited name) held) members where
  shown := by
    intro place
    cases place with
    | nil => rfl
    | cons other names =>
      rw [memberAt?_put]
      split
      · rename_i hother
        subst hother
        cases names <;> simp [at?, own?, Held.outline?, memberHeld?, hmissing]
      · exact h.shown (other :: names)
  apart := by
    intro place hplace
    cases place with
    | nil => simp [memberAt?] at hplace
    | cons other names =>
      rw [memberAt?_put] at hplace
      split at hplace
      · cases names <;> simp [at?, own?] at hplace
      · exact h.apart _ hplace
  foreign := by
    intro other value hlookup houtline
    rw [KeyedList.lookup_put] at hlookup
    split at hlookup
    · rename_i hother
      rw [beq_iff_eq] at hother
      cases hlookup
      exact ⟨by rw [hother], by rwa [hother]⟩
    · exact h.foreign other value hlookup houtline

theorem Represents.outline?_lookup (h : heap.Represents id held members) (name : String) :
    (held.lookup name).bind Held.outline? = (members.lookup name).map Json.outline := by
  have hname := h.shown [name]
  rw [memberAt?, memberHeld?] at hname
  calc (held.lookup name).bind Held.outline?
      = ((held.lookup name).bind (heap.at? · [])).bind Held.outline? := by
        cases held.lookup name <;> rfl
    _ = (members.lookup name).bind (·.held? []) := hname
    _ = (members.lookup name).map Json.outline := by cases members.lookup name <;> rfl

theorem isTruthy_outline (v : Json) : v.outline.isTruthy = v.isTruthy := by
  cases v <;> rfl

/-- One entry of the loop is one registration. -/
theorem Represents.installHeld {entry : String × Held} {registration : String × Json}
    (h : heap.Represents id held members) (hentry : heap.Stands id entry registration) :
    heap.Represents id (installHeld held entry) (registerInstalled members registration) := by
  obtain ⟨name, value⟩ := entry
  obtain ⟨key, v⟩ := registration
  obtain ⟨hkey, hshows, hapart⟩ := hentry
  obtain rfl : name = key := hkey
  have houtline := h.outline?_lookup name
  unfold Heap.installHeld registerInstalled
  cases hmember : members.lookup name with
  | some old =>
    -- The container holds the name itself, and so do the members that stand for it.
    rw [hmember] at houtline
    obtain ⟨present, hpresent, hold⟩ := Option.bind_eq_some_iff.1 houtline
    have htruthy : present.isTruthy = old.isTruthy :=
      (Held.isTruthy_of_outline? hold).trans (isTruthy_outline old)
    simp only [hpresent, Option.getD_some, htruthy, register, hmember, Option.map_some,
      Option.isNone_some, Bool.false_eq_true, and_false, if_false]
    split
    · rw [KeyedList.put_of_lookup hpresent]
      exact h
    · exact h.put_of_not_reaches hshows hapart
  | none =>
    rw [hmember] at houtline
    have hpresent : (held.lookup name).getD (absent name) = absent name ∨
        (held.lookup name).getD (absent name) = .inherited name ∧ name ∈ inheritedNames := by
      cases hheld : held.lookup name with
      | none => exact .inl rfl
      | some present => exact .inr (h.foreign name present hheld (by simpa [hheld] using houtline))
    by_cases hname : name ∈ inheritedNames
    · have habsent : (held.lookup name).getD (absent name) = .inherited name := by
        rcases hpresent with hpresent | ⟨hpresent, -⟩
        · rw [hpresent, absent, if_pos hname]
        · exact hpresent
      simp only [habsent, Held.isTruthy, if_true, hname, Option.isNone_none, and_self]
      exact h.put_inherited hname hmember
    · have habsent : (held.lookup name).getD (absent name) = .undefined := by
        rcases hpresent with hpresent | ⟨-, hin⟩
        · rw [hpresent, absent, if_neg hname]
        · exact absurd hin hname
      simp only [habsent, Held.isTruthy, hname, false_and, if_false, register, hmember,
        Option.map_none, Option.getD_none, Bool.false_eq_true]
      exact h.put_of_not_reaches hshows hapart

/-- The loop adds all registrations. -/
theorem Represents.foldl_installHeld (h : heap.Represents id held members)
    (hentries : List.Forall₂ (heap.Stands id) entries registrations) :
    heap.Represents id (entries.foldl Heap.installHeld held)
      (registrations.foldl registerInstalled members) := by
  induction hentries generalizing held members with
  | nil => exact h
  | cons hentry _ ih => exact ih (h.installHeld hentry)

/-! ## The loop -/

/-- The state of a run before its loop: the object `id` is the container of the options `oid`, and
the places where it stands are known. -/
structure Prepared (heap : Heap) (field : String) (root : Held) (oid id : Nat) (v : Json)
    (places : List (List String)) (members : List (String × Json)) : Prop where
  link : heap.own? (.object oid) field = some (.object id)
  distinct : oid ≠ id
  bound : id < heap.size
  shows : heap.Shows root v
  stands : ∀ place, heap.at? root place = some (.object id) ↔ place ∈ places
  represents : heap.Represents id (heap.membersOf id) members

theorem installOne?_replace (hlink : heap.own? (.object oid) field = some (.object id))
    (hne : oid ≠ id) (hid : id < heap.size) (held : List (String × Held)) (entry : String × Held) :
    installOne? field (.object oid) (heap.replace id held) entry =
      some (heap.replace id (installHeld held entry)) := by
  have hoptions : (heap.replace id held).own? (.object oid) field = some (.object id) := by
    simpa [own?, membersOf_replace hid, hne] using hlink
  have hcontainer : (heap.replace id held).membersOf id = held := by
    simp [membersOf_replace hid]
  simp [installOne?, read?_object, write?_object, hoptions, own?_replace_self hid, hcontainer,
    replace_replace, installHeld]

/-- The loop changes the container only. -/
theorem foldlM_installOne? (hlink : heap.own? (.object oid) field = some (.object id))
    (hne : oid ≠ id) (hid : id < heap.size) (entries held : List (String × Held)) :
    entries.foldlM (installOne? field (.object oid)) (heap.replace id held) =
      some (heap.replace id (entries.foldl installHeld held)) := by
  induction entries generalizing held with
  | nil => rfl
  | cons entry entries ih =>
    rw [List.foldlM_cons, installOne?_replace hlink hne hid, Option.bind_eq_bind,
      Option.bind_some, ih, List.foldl_cons]

section Loop

variable {v : Json} {places : List (List String)} {place : List String}

/-- A place that leads through none of the containers does not see the loop. -/
theorem Prepared.at?_replace (h : heap.Prepared field root oid id v places members)
    (hplace : ∀ p ∈ places, ∀ name rest, place ≠ p ++ name :: rest)
    (held : List (String × Held)) : (heap.replace id held).at? root place = heap.at? root place :=
  Heap.at?_replace h.bound fun front name rest heq hfront =>
    absurd heq (hplace front ((h.stands front).1 hfront) name rest)

theorem Prepared.at?_replace_of_mem (h : heap.Prepared field root oid id v places members)
    (hplaces : places.Pairwise Apart) (hplace : place ∈ places) (held : List (String × Held)) :
    (heap.replace id held).at? root place = some (.object id) := by
  rw [h.at?_replace, h.stands]
  · exact hplace
  · rintro p hp name rest rfl
    have heq : p = p ++ name :: rest :=
      eq_of_prefix_of_apart hplaces hp hplace (List.prefix_append ..)
    simp at heq

/-- Below the container stand its members. -/
theorem Prepared.at?_replace_below (h : heap.Prepared field root oid id v places members)
    (hplaces : places.Pairwise Apart) (hplace : place ∈ places)
    (hheld : ∀ place, heap.memberAt? held place ≠ some (.object id)) (name : String)
    (names : List String) :
    (heap.replace id held).at? root (place ++ name :: names) =
      heap.memberAt? held (name :: names) := by
  rw [Heap.at?_replace_below h.bound (h.at?_replace_of_mem hplaces hplace held), memberAt?]
  cases hvalue : held.lookup name with
  | none => rfl
  | some value =>
    refine at?_replace_of_not_reaches h.bound ?_ held names
    rintro ⟨front, hfront⟩
    exact hheld (name :: front) (by simpa [memberAt?, hvalue] using hfront)

/-- After the loop the container stands where it stood. -/
theorem Prepared.stands_replace (h : heap.Prepared field root oid id v places members)
    (hplaces : places.Pairwise Apart)
    (hheld : ∀ place, heap.memberAt? held place ≠ some (.object id)) (place : List String) :
    (heap.replace id held).at? root place = some (.object id) ↔ place ∈ places := by
  constructor
  · intro hplace
    by_cases hbelow : ∃ p ∈ places, ∃ name rest, place = p ++ name :: rest
    · obtain ⟨p, hp, name, rest, rfl⟩ := hbelow
      rw [h.at?_replace_below hplaces hp hheld] at hplace
      exact absurd hplace (hheld _)
    · rw [h.at?_replace (fun p hp name rest heq => hbelow ⟨p, hp, name, rest, heq⟩)] at hplace
      exact (h.stands place).1 hplace
  · exact fun hplace => h.at?_replace_of_mem hplaces hplace held

/-- After the loop the value shows the new members at all places of the container. -/
theorem Prepared.shows_replace (h : heap.Prepared field root oid id v places members)
    (hplaces : places.Pairwise Apart) {added : List (String × Json)}
    (hheld : heap.Represents id held added) :
    (heap.replace id held).Shows root (v.setAll (.object added) places) := by
  intro place
  by_cases hbelow : ∃ p ∈ places, p <+: place
  · obtain ⟨p, hp, rest, rfl⟩ := hbelow
    rw [held?_setAll_append hplaces hp]
    cases rest with
    | nil => simp [Heap.held?, h.at?_replace_of_mem hplaces hp, Held.outline?, Json.held?, Json.at?,
        outline]
    | cons name names =>
      rw [Heap.held?, h.at?_replace_below hplaces hp hheld.apart, held?_object_cons]
      exact hheld.shown (name :: names)
  · have hnot : ∀ p ∈ places, ¬ p <+: place := fun p hp hprefix => hbelow ⟨p, hp, hprefix⟩
    have hsame : (heap.replace id held).held? root place = v.held? place := by
      rw [← h.shows place]
      refine held?_eq_of_at? (h.at?_replace (fun p hp name rest heq => hnot p hp ?_) held)
      exact heq ▸ List.prefix_append ..
    rw [hsame, held?_setAll_of_not_prefix hnot]
    rintro p hp ⟨rest, hrest⟩
    have hat := (h.stands p).2 hp
    rw [← hrest] at hat
    rw [← h.shows place]
    cases rest with
    | nil => exact absurd ⟨[], by simpa using hrest.symm⟩ (hnot p hp)
    | cons name names => exact held?_of_at?_append hat

end Loop

/-! ## Linking the container -/

section Link

variable {base : Heap} {v : Json} {options place : List String} {places : List (List String)}

/-- The state after options `oid` are given a container `id`, which may stand elsewhere already. -/
def linked (base : Heap) (field : String) (oid id : Nat) : Heap :=
  base.replace oid (KeyedList.put field (.object id) (base.membersOf oid))

/-- What is needed to give options a container: they stand at one place, the container does not lead
to them, and stands nowhere below the place where it is to stand. -/
structure Linkable (base : Heap) (field : String) (root : Held) (options : List String)
    (oid id : Nat) : Prop where
  stands : base.at? root options = some (.object oid)
  single : ∀ place, base.at? root place = some (.object oid) → place = options
  optionsBound : oid < base.size
  bound : id < base.size
  distinct : oid ≠ id
  apart : ¬ base.Reaches (.object id) oid
  outside : ∀ place, base.at? root place = some (.object id) → options ++ [field] <+: place →
    place = options ++ [field]

/-- Places apart from the container do not see that it is linked. -/
theorem Linkable.at?_linked (h : base.Linkable field root options oid id)
    (hplace : ¬ options ++ [field] <+: place) :
    (base.linked field oid id).at? root place = base.at? root place := by
  refine Heap.at?_replace h.optionsBound fun front name rest heq hfront => ?_
  rw [h.single front hfront] at heq
  have hname : name ≠ field := by
    rintro rfl
    exact hplace (heq ▸ ⟨rest, by simp⟩)
  simp [KeyedList.lookup_put, hname]

/-- Below the place of the container stands what the container has. -/
theorem Linkable.at?_linked_append (h : base.Linkable field root options oid id)
    (rest : List String) :
    (base.linked field oid id).at? root (options ++ [field] ++ rest) =
      base.at? (.object id) rest := by
  have hoptions : (base.linked field oid id).at? root options = some (.object oid) := by
    rw [h.at?_linked, h.stands]
    exact fun hprefix => absurd hprefix.length_le (by simp)
  have hcontainer : (base.linked field oid id).at? root (options ++ [field]) =
      some (.object id) := by
    rw [at?_append_singleton hoptions, linked, own?_replace_self h.optionsBound]
    simp [KeyedList.lookup_put]
  rw [at?_append, hcontainer]
  exact at?_replace_of_not_reaches h.optionsBound h.apart _ rest

theorem Represents.linked (hrep : base.Represents id (base.membersOf id) members)
    (h : base.Linkable field root options oid id) :
    (base.linked field oid id).Represents id ((base.linked field oid id).membersOf id) members := by
  have hmembers : (base.linked field oid id).membersOf id = base.membersOf id := by
    rw [Heap.linked, membersOf_replace h.optionsBound, if_neg (Ne.symm h.distinct)]
  have hread (place : List String) :
      (base.linked field oid id).memberAt? (base.membersOf id) place =
        base.memberAt? (base.membersOf id) place := by
    cases place with
    | nil => rfl
    | cons name names =>
      rw [memberAt?, memberAt?]
      cases hvalue : (base.membersOf id).lookup name with
      | none => rfl
      | some value =>
        have hat : base.at? (.object id) [name] = some value := by simp [at?, own?, hvalue]
        exact at?_replace_of_not_reaches h.optionsBound
          (fun hreach => h.apart (hreach.through hat)) _ names
  rw [hmembers]
  exact ⟨fun place => by rw [hread, hrep.shown], fun place => by rw [hread]; exact hrep.apart place,
    hrep.foreign⟩

/-- Above the place of the container stand objects. -/
theorem Linkable.held?_of_above (h : base.Linkable field root options oid id)
    (habove : place <+: options ++ [field]) (hne : place ≠ options ++ [field]) :
    base.held? root place = some (.object []) := by
  obtain ⟨rest, hrest⟩ := habove
  rcases List.eq_nil_or_concat rest with rfl | ⟨rest, last, rfl⟩
  · exact absurd (by simpa using hrest) hne
  · rw [List.concat_eq_append, ← List.append_assoc] at hrest
    have hoptions : place ++ rest = options := (List.append_inj' hrest rfl).1
    have hat := h.stands
    rw [← hoptions] at hat
    cases rest with
    | nil =>
      rw [List.append_nil] at hat
      rw [Heap.held?, hat]
      rfl
    | cons name names => exact held?_of_at?_append hat

/-- A component with a linked container shows its members at the place of the container. -/
theorem Linkable.shows_linked (h : base.Linkable field root options oid id)
    (hshows : base.Shows root v) (hrep : base.Represents id (base.membersOf id) members) :
    (base.linked field oid id).Shows root (v.setAt (.object members) (options ++ [field])) := by
  intro place
  rw [held?_setAt]
  split
  · rename_i hprefix
    obtain ⟨rest, rfl⟩ := hprefix
    rw [List.drop_left, Heap.held?, h.at?_linked_append]
    cases rest with
    | nil => rfl
    | cons name names =>
      rw [held?_object_cons]
      exact hrep.shown (name :: names)
  · rename_i hprefix
    rw [Heap.held?, h.at?_linked hprefix]
    split
    · rename_i habove
      exact h.held?_of_above habove fun heq => hprefix (heq ▸ List.prefix_rfl)
    · exact hshows place

/-- A linked container is ready for the loop. -/
theorem Linkable.prepared (h : base.Linkable field root options oid id) (hshows : base.Shows root v)
    (hrep : base.Represents id (base.membersOf id) members)
    (hplaces : ∀ place, place ∈ places ↔
      place = options ++ [field] ∨ base.at? root place = some (.object id)) :
    (base.linked field oid id).Prepared field root oid id
      (v.setAt (.object members) (options ++ [field])) places members where
  link := by simp [linked, own?_replace_self h.optionsBound, KeyedList.lookup_put]
  distinct := h.distinct
  bound := by simpa [linked] using h.bound
  shows := h.shows_linked hshows hrep
  stands := by
    intro place
    rw [hplaces]
    by_cases hprefix : options ++ [field] <+: place
    · obtain ⟨rest, rfl⟩ := hprefix
      rw [h.at?_linked_append]
      constructor
      · intro hrest
        cases rest with
        | nil => exact .inl (List.append_nil _)
        | cons name names => exact absurd hrest (hrep.apart (name :: names))
      · intro hor
        have hself : options ++ [field] ++ rest = options ++ [field] :=
          hor.elim (·) fun hold => h.outside _ hold (List.prefix_append ..)
        rw [List.append_right_eq_self.1 hself]
        rfl
    · rw [h.at?_linked hprefix]
      constructor
      · exact .inr
      · rintro (rfl | hold)
        · exact absurd List.prefix_rfl hprefix
        · exact hold
  represents := hrep.linked h

end Link

/-! ## The steps before the loop -/

/-- The state before the loop, by what the category's name holds in the options that are read. -/
def ensured (heap : Heap) (field : String) (oid : Nat) (found : Held) : Heap :=
  if found.isTruthy then heap.replace oid (KeyedList.put field found (heap.membersOf oid))
  else (heap.add []).linked field oid heap.size

theorem ensureContainer?_eq (heap : Heap) (oid : Nat) (field : String) :
    heap.ensureContainer? field (.object oid) =
      some (heap.ensured field oid ((heap.own? (.object oid) field).getD (absent field))) := by
  simp only [ensureContainer?, read?_object, write?_object, Option.bind_eq_bind, Option.bind_some,
    ensured, linked]
  split <;> rfl

/-- A container that is shared first need not be there before. -/
theorem shareContainer?_bind_ensureContainer? {eid fid : Nat} (hoid : oid < heap.size)
    (hfull : heap.own? (.object eid) "options" = some (.object fid)) (field : String) :
    ((heap.shareContainer? field (.object eid) (.object oid)).bind fun shared =>
        shared.ensureContainer? field (.object oid)) =
      some (heap.ensured field oid ((heap.own? (.object fid) field).getD (absent field))) := by
  generalize hfound : (heap.own? (.object fid) field).getD (absent field) = found
  have hshare : heap.shareContainer? field (.object eid) (.object oid) =
      some (heap.replace oid (KeyedList.put field found (heap.membersOf oid))) := by
    simp [shareContainer?, read?_object, write?_object, hfull, hfound]
  have hown : (heap.replace oid (KeyedList.put field found (heap.membersOf oid))).own?
      (.object oid) field = some found := by
    simp [own?_replace_self hoid, KeyedList.lookup_put]
  have hadd : (heap.add []).membersOf oid = heap.membersOf oid := by
    simp [membersOf_add, Nat.ne_of_lt hoid]
  have hbound : oid < (heap.add []).size := by simp; omega
  rw [hshare, Option.bind_some, ensureContainer?_eq, hown, Option.getD_some]
  unfold ensured linked
  split
  · simp [membersOf_replace hoid, replace_replace, KeyedList.put_put]
  · simp [add_replace hoid, membersOf_replace hbound, hadd, replace_replace, KeyedList.put_put]

end Heap

end TemplateImports
