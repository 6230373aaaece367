import TemplateImports.Registration.Merging

/-!
# Writing at places

What a data value holds at each of its places after another value was written at one of them.  A
write is seen at its place and below, turns everything on the way into objects, and is not seen at
any place that parts from it.

Objects are maps from names to values, whose order has no meaning.  Two values are alike if they
hold the same at every place; this looks through objects but not into lists, which are compared as
they are.

Main results:

- Definition `Apart` says that two places part.
- Theorem `held?_setAt` says what every place holds after a write.
- Definition `Alike` compares values up to the order of members; theorem `alike_object_iff` says
  that it compares objects as maps.
- Theorem `alike_setAt_comm` says that writes at parting places commute, and `alike_setAll_setAll`
  that of two writes at the same places the last one counts.
-/

namespace TemplateImports.Json

variable {v w a b : Json} {place other : List String}

/-! ## Parting places -/

/-- Two places part if neither of them leads through the other. -/
def Apart (place other : List String) : Prop :=
  ¬ place <+: other ∧ ¬ other <+: place

instance (place other : List String) : Decidable (Apart place other) :=
  inferInstanceAs (Decidable (_ ∧ _))

/-- Two places part in either order. -/
theorem Apart.symm (h : Apart place other) : Apart other place :=
  ⟨h.2, h.1⟩

theorem not_apart_nil : ¬ Apart [] other :=
  fun h => h.1 List.nil_prefix

/-- A place that parts from another one is not the whole value. -/
theorem Apart.ne_nil (h : Apart place other) : other ≠ [] := by
  rintro rfl
  exact not_apart_nil h.symm

/-- Places part behind a name that they share. -/
theorem apart_cons_iff {name : String} :
    Apart (name :: place) (name :: other) ↔ Apart place other := by
  simp [Apart, List.cons_prefix_cons]

/-! ## Reading behind a write -/

/-- A write inside a member changes that member only. -/
theorem member?_setAt (v value : Json) (name : String) (names : List String) (other : String) :
    (v.setAt value (name :: names)).member? other =
      if other == name then some (((v.member? name).getD (.object [])).setAt value names)
      else v.member? other := by
  simp [setAt, member?, members, KeyedList.lookup_put]

/-- A place is walked along in two parts. -/
theorem at?_append (v : Json) (place other : List String) :
    v.at? (place ++ other) = (v.at? place).bind (·.at? other) := by
  induction place generalizing v with
  | nil => rfl
  | cons name names ih => simp [at?, ih, Option.bind_assoc]

/-- Below a written place stands what the written value holds there. -/
theorem at?_setAt_append (v value : Json) (place other : List String) :
    (v.setAt value place).at? (place ++ other) = value.at? other := by
  rw [at?_append, at?_setAt_self]
  rfl

/-- A write is not seen at a place that parts from its own. -/
theorem at?_setAt_of_apart (h : Apart place other) (v value : Json) :
    (v.setAt value place).at? other = v.at? other := by
  induction place generalizing v other with
  | nil => exact absurd h not_apart_nil
  | cons name names ih =>
    cases other with
    | nil => exact absurd h.symm not_apart_nil
    | cons name' names' =>
      simp only [at?, member?_setAt]
      by_cases hname : name' = name
      · subst hname
        have hrest : Apart names names' := apart_cons_iff.1 h
        simp only [beq_self_eq_true, if_true, Option.bind_some, ih hrest]
        cases v.member? name' with
        | some inner => rfl
        | none =>
          obtain ⟨first, rest, rfl⟩ := List.exists_cons_of_ne_nil hrest.ne_nil
          rfl
      · simp [hname]

/-- On the way to a written place stand objects. -/
theorem at?_setAt_of_prefix (v value : Json) (place : List String) (name : String)
    (names : List String) :
    ∃ members, (v.setAt value (place ++ name :: names)).at? place = some (.object members) := by
  induction place generalizing v with
  | nil => exact ⟨_, rfl⟩
  | cons first place ih =>
    simp only [List.cons_append, at?, member?_setAt, beq_self_eq_true, if_true, Option.bind_some]
    exact ih _

/-- Of two writes at a place, the last one counts. -/
theorem setAt_setAt (v a b : Json) (place : List String) :
    (v.setAt a place).setAt b place = v.setAt b place := by
  induction place generalizing v with
  | nil => rfl
  | cons name names ih =>
    have hinner : (v.setAt a (name :: names)).member? name =
        some (((v.member? name).getD (.object [])).setAt a names) := by
      simp [member?_setAt]
    calc (v.setAt a (name :: names)).setAt b (name :: names)
        = .object (KeyedList.put name
            ((((v.setAt a (name :: names)).member? name).getD (.object [])).setAt b names)
            (v.setAt a (name :: names)).members) := rfl
      _ = v.setAt b (name :: names) := by
        rw [hinner]
        simp [setAt, members, KeyedList.put_put, ih]

/-- Writing what a place holds changes nothing. -/
theorem setAt_of_at? (h : v.at? place = some a) : v.setAt a place = v := by
  induction place generalizing v with
  | nil => exact (Option.some.inj h).symm
  | cons name names ih =>
    obtain ⟨inner, hinner, hrest⟩ := Option.bind_eq_some_iff.1 h
    cases v with
    | object members =>
      have hput : KeyedList.put name inner members = members := KeyedList.put_of_lookup hinner
      simp [setAt, hinner, ih hrest, Json.members, hput]
    | _ => simp [member?, members] at hinner

/-! ## What places hold -/

/-- A value without its members. -/
def outline : Json → Json
  | .object _ => .object []
  | v => v

/-- What a value holds at a place: of an object only that it is one, and any other value as a
whole. -/
def held? (v : Json) (place : List String) : Option Json :=
  (v.at? place).map outline

/-- What every place holds after a write. -/
theorem held?_setAt (v value : Json) (place other : List String) :
    (v.setAt value place).held? other =
      if place <+: other then value.held? (other.drop place.length)
      else if other <+: place then some (.object [])
      else v.held? other := by
  unfold held?
  split
  · rename_i h
    obtain ⟨below, rfl⟩ := h
    rw [at?_setAt_append, List.drop_left]
  · rename_i hbelow
    split
    · rename_i h
      obtain ⟨rest, rfl⟩ := h
      cases rest with
      | nil => exact absurd (by simp) hbelow
      | cons name names =>
        obtain ⟨members, hmembers⟩ := at?_setAt_of_prefix v value other name names
        rw [hmembers]
        rfl
    · rename_i habove
      rw [at?_setAt_of_apart ⟨hbelow, habove⟩]

/-! ## Values with the same content -/

/-- Two values are alike if they hold the same at every place. -/
def Alike (v w : Json) : Prop :=
  ∀ place, v.held? place = w.held? place

/-- A value is like itself. -/
theorem Alike.refl (v : Json) : Alike v v :=
  fun _ => rfl

theorem Alike.symm (h : Alike v w) : Alike w v :=
  fun place => (h place).symm

/-- Values like the same one are alike. -/
theorem Alike.trans {u : Json} (h : Alike v w) (hw : Alike w u) : Alike v u :=
  fun place => (h place).trans (hw place)

/-- What an object holds below a name is what its member holds. -/
theorem held?_object_cons (members : List (String × Json)) (name : String) (names : List String) :
    (Json.object members).held? (name :: names) =
      (members.lookup name).bind (·.held? names) := by
  cases h : members.lookup name <;> simp [held?, at?, member?, Json.members, h]

/-- Objects are alike exactly if they have the same names with values that are alike. -/
theorem alike_object_iff {members members' : List (String × Json)} :
    Alike (.object members) (.object members') ↔
      ∀ name, Option.Rel Alike (members.lookup name) (members'.lookup name) := by
  constructor
  · intro h name
    have hplace (names : List String) : (members.lookup name).bind (·.held? names) =
        (members'.lookup name).bind (·.held? names) := by
      simpa only [held?_object_cons] using h (name :: names)
    cases hv : members.lookup name with
    | none =>
      cases hw : members'.lookup name with
      | none => exact .none
      | some w => simpa [hv, hw, held?, at?] using hplace []
    | some v =>
      cases hw : members'.lookup name with
      | none => simpa [hv, hw, held?, at?] using hplace []
      | some w => exact .some fun names => by simpa [hv, hw] using hplace names
  · intro h place
    cases place with
    | nil => rfl
    | cons name names =>
      rw [held?_object_cons, held?_object_cons]
      have hname := h name
      generalize members.lookup name = value, members'.lookup name = value' at hname
      cases hname with
      | none => rfl
      | some halike => exact halike names

/-- Objects whose names have the same values are alike. -/
theorem alike_object_of_lookup {members members' : List (String × Json)}
    (h : ∀ name, members.lookup name = members'.lookup name) :
    Alike (.object members) (.object members') := by
  refine alike_object_iff.2 fun name => ?_
  rw [h name]
  cases members'.lookup name with
  | none => exact .none
  | some v => exact .some (.refl v)

/-- Writing respects what is alike. -/
theorem Alike.setAt (h : Alike v w) (hvalue : Alike a b) (place : List String) :
    Alike (v.setAt a place) (w.setAt b place) := by
  intro other
  rw [held?_setAt, held?_setAt, h other, hvalue]

/-- Writes at parting places may be done in any order. -/
theorem alike_setAt_comm (h : Apart place other) (v a b : Json) :
    Alike ((v.setAt a place).setAt b other) ((v.setAt b other).setAt a place) := by
  intro target
  simp only [held?_setAt]
  by_cases hplace : place <+: target
  · -- The target lies below the first place, and so not below the second one.
    have hother : ¬ other <+: target := fun hother =>
      (List.prefix_or_prefix_of_prefix hplace hother).elim h.1 h.2
    have hnot : ¬ target <+: other := fun htarget => h.1 (hplace.trans htarget)
    simp [hplace, hother, hnot]
  · by_cases hother : other <+: target
    · have hnot : ¬ target <+: place := fun htarget => h.2 (hother.trans htarget)
      simp [hplace, hother, hnot]
    · simp only [hplace, hother, if_false]
      split <;> simp

/-! ## Writing at several places -/

/-- Writes a value at several places, one after the other. -/
def setAll (v value : Json) (places : List (List String)) : Json :=
  places.foldl (fun v place => v.setAt value place) v

variable {places others : List (List String)}

/-- Writes are not seen at a place that parts from all of theirs. -/
theorem at?_setAll_of_apart (h : ∀ place ∈ places, Apart place other) (v value : Json) :
    (v.setAll value places).at? other = v.at? other := by
  induction places generalizing v with
  | nil => rfl
  | cons place places ih =>
    calc ((v.setAt value place).setAll value places).at? other
        = (v.setAt value place).at? other :=
          ih (fun place hmem => h place (List.mem_cons_of_mem _ hmem)) _
      _ = v.at? other := at?_setAt_of_apart (h place List.mem_cons_self) v value

/-- Each of several parting places holds what was written. -/
theorem at?_setAll_of_mem (hplaces : places.Pairwise Apart) (h : place ∈ places)
    (v value : Json) : (v.setAll value places).at? place = some value := by
  induction places generalizing v with
  | nil => simp at h
  | cons first places ih =>
    obtain ⟨hfirst, hplaces⟩ := List.pairwise_cons.1 hplaces
    rcases List.mem_cons.1 h with rfl | h
    · calc ((v.setAt value place).setAll value places).at? place
          = (v.setAt value place).at? place :=
            at?_setAll_of_apart (fun other hmem => (hfirst other hmem).symm) _ _
        _ = some value := at?_setAt_self v value place
    · exact ih hplaces h _

/-- Writing what places hold changes nothing. -/
theorem setAll_of_at? (h : ∀ place ∈ places, v.at? place = some a) : v.setAll a places = v := by
  induction places with
  | nil => rfl
  | cons place places ih =>
    have hplace : v.setAt a place = v := setAt_of_at? (h place List.mem_cons_self)
    calc (v.setAt a place).setAll a places = v.setAll a places := by rw [hplace]
      _ = v := ih fun place hmem => h place (List.mem_cons_of_mem _ hmem)

/-- Alike writes keep values alike. -/
theorem Alike.setAll (h : Alike v w) (hvalue : Alike a b) (places : List (List String)) :
    Alike (v.setAll a places) (w.setAll b places) := by
  induction places generalizing v w with
  | nil => exact h
  | cons place places ih => exact ih (h.setAt hvalue place)

/-- A write apart from others may come before or after them. -/
theorem alike_setAll_setAt_comm (h : ∀ place ∈ places, Apart place other) (v a b : Json) :
    Alike ((v.setAll a places).setAt b other) ((v.setAt b other).setAll a places) := by
  induction places generalizing v with
  | nil => exact .refl _
  | cons place places ih =>
    have hplace : Apart place other := h place List.mem_cons_self
    have hrest := ih (fun place hmem => h place (List.mem_cons_of_mem _ hmem)) (v.setAt a place)
    exact hrest.trans ((alike_setAt_comm hplace v a b).setAll (.refl a) places)

/-- Writes at several places may be exchanged with writes at others that part from them. -/
theorem alike_setAll_comm (h : ∀ place ∈ places, ∀ other ∈ others, Apart place other)
    (v a b : Json) :
    Alike ((v.setAll a places).setAll b others) ((v.setAll b others).setAll a places) := by
  induction others generalizing v with
  | nil => exact .refl _
  | cons other others ih =>
    have hother : ∀ place ∈ places, Apart place other :=
      fun place hmem => h place hmem other List.mem_cons_self
    have hrest := ih (fun place hmem other hother =>
      h place hmem other (List.mem_cons_of_mem _ hother)) (v.setAt b other)
    exact ((alike_setAll_setAt_comm hother v a b).setAll (.refl b) others).trans hrest

/-- Of two writes at the same parting places, the last one counts. -/
theorem alike_setAll_setAll (h : places.Pairwise Apart) (v a b : Json) :
    Alike ((v.setAll a places).setAll b places) (v.setAll b places) := by
  induction places generalizing v with
  | nil => exact .refl _
  | cons place places ih =>
    obtain ⟨hplace, hplaces⟩ := List.pairwise_cons.1 h
    -- The second write at the first place moves to the front, where it undoes the first write.
    have hfront : Alike (((v.setAt a place).setAll a places).setAt b place)
        ((v.setAt b place).setAll a places) := by
      have hcomm := alike_setAll_setAt_comm (fun other hmem => (hplace other hmem).symm)
        (v.setAt a place) a b
      rwa [setAt_setAt] at hcomm
    exact (hfront.setAll (.refl b) places).trans (ih hplaces _)

end TemplateImports.Json
