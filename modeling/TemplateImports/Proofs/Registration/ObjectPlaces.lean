import Mathlib.Data.List.Forall2
import TemplateImports.Proofs.Json.Places
import TemplateImports.Registration.Installation

/-!
# Objects and their places

An object can stand at several places of a component, and a change of it is seen at all of them.
This module follows places through objects: what is read there, which objects are met, and what a
change of one object does to the reading.  A data value that is laid out has each of its objects at
one place only.

Main results:

- Definitions `Heap.at?` and `Heap.Reaches` follow places through objects.
- Definition `Heap.Shows` compares what an object holds with a data value.
- Theorem `Heap.at?_replace` says which places do not see a change of an object.
- Theorem `Heap.laidOut_load` says what a laid out data value looks like.
-/

namespace TemplateImports

/-- What is left of a value in data: of an object only that it is one.  What is not data is left
out. -/
def Held.outline? : Held → Option Json
  | .undefined => none
  | .inherited _ => none
  | .plain (.object _) => none
  | .plain value => some value
  | .object _ => some (.object [])

/-- What shows as anything but an object is plain data. -/
theorem Held.eq_plain_of_outline? {held : Held} {value : Json}
    (h : held.outline? = some value) (hvalue : value ≠ .object []) : held = .plain value := by
  cases held with
  | plain v =>
    cases v <;> first | (exact congrArg Held.plain (Option.some.inj h)) | (cases h)
  | object id => exact absurd (Option.some.inj h).symm hvalue
  | _ => cases h

/-- What shows as an object is one. -/
theorem Held.exists_of_outline?_object {held : Held} {members : List (String × Json)}
    (h : held.outline? = some (.object members)) : ∃ id, held = .object id := by
  cases held with
  | plain v => cases v <;> cases h
  | object id => exact ⟨id, rfl⟩
  | _ => cases h

/-- What is left of a value counts as set exactly if the value does. -/
theorem Held.isTruthy_of_outline? {held : Held} {value : Json} (h : held.outline? = some value) :
    held.isTruthy = value.isTruthy := by
  cases held with
  | plain v => cases v <;> cases h <;> rfl
  | object id => cases h; rfl
  | _ => cases h

namespace Heap

variable {heap later : Heap} {held inner root : Held} {id : Nat} {place : List String}
  {members : List (String × Held)}

/-! ## Changes of objects -/

/-- A member that an object does not have itself reads as what all objects have. -/
theorem read?_object (heap : Heap) (id : Nat) (name : String) :
    heap.read? (.object id) name = some ((heap.own? (.object id) name).getD (absent name)) := rfl

theorem write?_object (heap : Heap) (id : Nat) (name : String) (value : Held) :
    heap.write? (.object id) name value =
      some (heap.replace id (KeyedList.put name value (heap.membersOf id))) := rfl

@[simp] theorem size_add : (heap.add members).size = heap.size + 1 := by
  simp [add, size]

@[simp] theorem size_replace : (heap.replace id members).size = heap.size := by
  simp [replace, size]

/-- A new object has its members, and the others keep theirs. -/
theorem membersOf_add (heap : Heap) (members : List (String × Held)) (id : Nat) :
    (heap.add members).membersOf id = if id = heap.size then members else heap.membersOf id := by
  unfold membersOf add size
  split
  · rename_i h
    simp [h]
  · rename_i h
    rcases Nat.lt_or_gt_of_ne h with h | h
    · rw [List.getElem?_append_left h]
    · have hnew : (heap.objects ++ [members])[id]? = none :=
        List.getElem?_eq_none (by simp; omega)
      rw [hnew, List.getElem?_eq_none (Nat.le_of_lt h)]

/-- One object gets other members, and the others keep theirs. -/
theorem membersOf_replace (h : id < heap.size) (members : List (String × Held)) (other : Nat) :
    (heap.replace id members).membersOf other =
      if other = id then members else heap.membersOf other := by
  unfold membersOf replace
  split
  · rename_i hother
    subst hother
    simp [List.getElem?_set_self h]
  · rename_i hother
    rw [List.getElem?_set_ne (Ne.symm hother)]

/-- A changed object has the members that it was given. -/
theorem own?_replace_self (h : id < heap.size) (members : List (String × Held)) (name : String) :
    (heap.replace id members).own? (.object id) name = members.lookup name := by
  simp [own?, membersOf_replace h]

/-- Adding an object and changing an older one may be exchanged. -/
theorem add_replace (h : id < heap.size) (members others : List (String × Held)) :
    (heap.replace id members).add others = (heap.add others).replace id members := by
  simp [add, replace, List.set_append_left _ _ h]

/-- The last change of an object counts. -/
theorem replace_replace (heap : Heap) (id : Nat) (members others : List (String × Held)) :
    (heap.replace id members).replace id others = heap.replace id others := by
  simp [replace, List.set_set]

/-- Giving an object the members that it has changes nothing. -/
theorem replace_membersOf (heap : Heap) (id : Nat) :
    heap.replace id (heap.membersOf id) = heap := by
  unfold replace membersOf
  rcases Nat.lt_or_ge id heap.objects.length with h | h
  · simp [List.getElem?_eq_getElem h]
  · simp [List.set_eq_of_length_le h]

/-! ## Places -/

/-- What stands at a place. -/
def at? (heap : Heap) : Held → List String → Option Held
  | held, [] => some held
  | held, name :: names => (heap.own? held name).bind fun inner => heap.at? inner names

@[simp] theorem at?_nil : heap.at? held [] = some held := rfl

/-- A place is walked along in two parts. -/
theorem at?_append (heap : Heap) (held : Held) (place other : List String) :
    heap.at? held (place ++ other) = (heap.at? held place).bind (heap.at? · other) := by
  induction place generalizing held with
  | nil => rfl
  | cons name names ih => simp [at?, ih, Option.bind_assoc]

/-- The member of what stands at a place stands at a place, too. -/
theorem at?_append_singleton (h : heap.at? held place = some inner) (name : String) :
    heap.at? held (place ++ [name]) = heap.own? inner name := by
  cases hname : heap.own? inner name <;> simp [at?_append, h, at?, hname]

/-- A place with one name is a member. -/
theorem at?_singleton (heap : Heap) (held : Held) (name : String) :
    heap.at? held [name] = heap.own? held name := by
  have hself : heap.at? held [] = some held := rfl
  exact at?_append_singleton hself name

/-- Only objects have members. -/
theorem exists_object_of_own? {name : String} (h : heap.own? held name = some inner) :
    ∃ id, held = .object id := by
  cases held with
  | object id => exact ⟨id, rfl⟩
  | _ => simp [own?] at h

/-- Whether an object stands at a place of a value. -/
def Reaches (heap : Heap) (held : Held) (id : Nat) : Prop :=
  ∃ place, heap.at? held place = some (.object id)

/-- What is reached from a place inside is reached from outside. -/
theorem Reaches.through (h : heap.Reaches inner id) (hplace : heap.at? held place = some inner) :
    heap.Reaches held id := by
  obtain ⟨rest, hrest⟩ := h
  exact ⟨place ++ rest, by rw [at?_append, hplace]; exact hrest⟩

/-- A value is read in the same way in two heaps in which all its objects have the same members. -/
theorem at?_congr (h : ∀ id, heap.Reaches held id → later.membersOf id = heap.membersOf id)
    (place : List String) : later.at? held place = heap.at? held place := by
  induction place generalizing held with
  | nil => rfl
  | cons name names ih =>
    have hown : later.own? held name = heap.own? held name := by
      cases held with
      | object id => exact congrArg (List.lookup name) (h id ⟨[], rfl⟩)
      | _ => rfl
    rw [at?, at?, hown]
    cases hinner : heap.own? held name with
    | none => rfl
    | some inner =>
      have hat : heap.at? held [name] = some inner := by simp [at?, hinner]
      exact ih fun id hid => h id (hid.through hat)

/-- A place does not see a change of an object if the way to it never leads through a changed member
of the object. -/
theorem at?_replace (hid : id < heap.size)
    (h : ∀ front name rest, place = front ++ name :: rest →
      heap.at? held front = some (.object id) →
      members.lookup name = (heap.membersOf id).lookup name) :
    (heap.replace id members).at? held place = heap.at? held place := by
  induction place generalizing held with
  | nil => rfl
  | cons name names ih =>
    have hown : (heap.replace id members).own? held name = heap.own? held name := by
      cases held with
      | object other =>
        simp only [own?, membersOf_replace hid]
        split
        · rename_i hother
          subst hother
          exact h [] name names rfl rfl
        · rfl
      | _ => rfl
    rw [at?, at?, hown]
    cases hinner : heap.own? held name with
    | none => rfl
    | some inner =>
      refine ih fun front other rest hnames hfront =>
        h (name :: front) other rest (by simp [hnames]) ?_
      simpa [at?, hinner] using hfront

/-- A value does not see a change of an object that it does not reach. -/
theorem at?_replace_of_not_reaches (hid : id < heap.size) (h : ¬ heap.Reaches held id)
    (members : List (String × Held)) (place : List String) :
    (heap.replace id members).at? held place = heap.at? held place :=
  at?_replace hid fun front _ _ _ hfront => absurd ⟨front, hfront⟩ h

/-- Below a changed object stand its new members. -/
theorem at?_replace_below (hid : id < heap.size)
    (h : (heap.replace id members).at? held place = some (.object id)) (name : String)
    (names : List String) :
    (heap.replace id members).at? held (place ++ name :: names) =
      (members.lookup name).bind ((heap.replace id members).at? · names) := by
  rw [at?_append, h]
  simp [at?, own?, membersOf_replace hid]

/-! ## Data at places -/

/-- What is left in data of what stands at a place. -/
def held? (heap : Heap) (held : Held) (place : List String) : Option Json :=
  (heap.at? held place).bind Held.outline?

/-- Whether a value holds at each of its places what a data value holds there. -/
def Shows (heap : Heap) (held : Held) (v : Json) : Prop :=
  ∀ place, heap.held? held place = v.held? place

/-- The same thing at two places shows the same data. -/
theorem held?_eq_of_at? {other : List String} (h : heap.at? held place = later.at? inner other) :
    heap.held? held place = later.held? inner other :=
  congrArg (·.bind Held.outline?) h

/-- What is at a place of a shown value shows what the data value has there. -/
theorem Shows.below {v w : Json} (h : heap.Shows held v) (hplace : heap.at? held place = some inner)
    (hw : v.at? place = some w) : heap.Shows inner w := by
  intro rest
  have hrest := h (place ++ rest)
  simp only [held?, Json.held?, at?_append, Json.at?_append, hplace, hw, Option.bind_some] at hrest
  exact hrest

/-- Where data has an object, a value that shows it has an object. -/
theorem Shows.exists_object {v : Json} (h : heap.Shows held v)
    (hplace : v.held? place = some (.object [])) :
    ∃ id, heap.at? held place = some (.object id) := by
  have hheld := (h place).trans hplace
  obtain ⟨inner, hinner, houtline⟩ := Option.bind_eq_some_iff.1 hheld
  obtain ⟨id, rfl⟩ := Held.exists_of_outline?_object houtline
  exact ⟨id, hinner⟩

/-- What has something below it is an object. -/
theorem held?_of_at?_append {name : String} {names : List String}
    (h : heap.at? held (place ++ name :: names) = some inner) :
    heap.held? held place = some (.object []) := by
  rw [at?_append] at h
  obtain ⟨outer, houter, hbelow⟩ := Option.bind_eq_some_iff.1 h
  rw [Heap.held?, houter]
  cases outer with
  | object id => rfl
  | _ => simp [at?, own?] at hbelow

/-! ## Laying out data -/

/-- What stands at a place below members. -/
def memberAt? (heap : Heap) (members : List (String × Held)) : List String → Option Held
  | [] => none
  | name :: names => (members.lookup name).bind (heap.at? · names)

/-- What data holds at a place below members. -/
def memberHeld? (members : List (String × Json)) : List String → Option Json
  | [] => none
  | name :: names => (members.lookup name).bind (·.held? names)

/-- A reading of objects that were added to a heap: none of them stands at two places, and the
reading has and shows data only. -/
structure LaidOut (before after : Heap) (reading : List String → Option Held)
    (data : List String → Option Json) : Prop where
  grown : before.size ≤ after.size
  kept : ∀ id < before.size, after.membersOf id = before.membersOf id
  added : ∀ place id, reading place = some (.object id) → before.size ≤ id ∧ id < after.size
  single : ∀ place other id, reading place = some (.object id) → reading other = some (.object id) →
    place = other
  isData : ∀ place held, reading place = some held → held.outline?.isSome = true
  shown : ∀ place, (reading place).bind Held.outline? = data place

/-- A value whose objects are all in a heap does not see what is added. -/
theorem at?_of_kept (hkept : ∀ id < heap.size, later.membersOf id = heap.membersOf id)
    (h : ∀ place id, heap.at? held place = some (.object id) → id < heap.size)
    (place : List String) : later.at? held place = heap.at? held place :=
  at?_congr (fun id ⟨front, hfront⟩ => hkept id (h front id hfront)) place

/-- A value whose objects are all in a heap does not see a new object. -/
theorem at?_add (h : ∀ place id, heap.at? held place = some (.object id) → id < heap.size)
    (members : List (String × Held)) (place : List String) :
    (heap.add members).at? held place = heap.at? held place :=
  at?_of_kept (fun id hid => by simp [membersOf_add, Nat.ne_of_lt hid]) h place

/-- Plain data is laid out as it is. -/
theorem laidOut_plain {v : Json} (hv : ∀ place, (heap.at? (.plain v) place).bind Held.outline? =
    v.held? place) : LaidOut heap heap (heap.at? (.plain v)) v.held? where
  grown := Nat.le_refl _
  kept := fun _ _ => rfl
  added := by
    intro place id h
    cases place <;> simp [at?, own?] at h
  single := by
    intro place other id h
    cases place <;> simp [at?, own?] at h
  isData := by
    intro place held h
    cases place with
    | nil =>
      cases h
      exact Option.isSome_of_eq_some (hv [])
    | cons name names => simp [at?, own?] at h
  shown := hv

/-- Below a new object stand its members, if all of their objects were there before. -/
theorem at?_add_below {members : List (String × Held)}
    (h : ∀ place id, heap.memberAt? members place = some (.object id) → id < heap.size)
    (name : String) (names : List String) :
    (heap.add members).at? (.object heap.size) (name :: names) =
      heap.memberAt? members (name :: names) := by
  have hroot : (heap.add members).own? (.object heap.size) name = members.lookup name := by
    simp [own?, membersOf_add]
  rw [at?, hroot, memberAt?]
  cases hname : members.lookup name with
  | none => rfl
  | some held =>
    refine at?_add (fun place id hplace => ?_) members names
    exact h (name :: place) id (by simpa [memberAt?, hname] using hplace)

/-- An object is laid out when its members are. -/
theorem laidOut_object {members : List (String × Json)} {loaded : List (String × Held)}
    (h : LaidOut heap later (later.memberAt? loaded) (memberHeld? members)) :
    LaidOut heap (later.add loaded) ((later.add loaded).at? (.object later.size))
      (Json.object members).held? := by
  have hbelow (name : String) (names : List String) :
      (later.add loaded).at? (.object later.size) (name :: names) =
        later.memberAt? loaded (name :: names) :=
    at?_add_below (fun place id hplace => (h.added place id hplace).2) name names
  constructor
  · exact Nat.le_trans h.grown (by simp)
  · intro id hid
    rw [membersOf_add, if_neg (Nat.ne_of_lt (Nat.lt_of_lt_of_le hid h.grown)), h.kept id hid]
  · intro place id hplace
    cases place with
    | nil =>
      cases hplace
      exact ⟨h.grown, by simp⟩
    | cons name names =>
      rw [hbelow] at hplace
      obtain ⟨hlow, hhigh⟩ := h.added _ id hplace
      exact ⟨hlow, by simp; omega⟩
  · -- The new object has the greatest identity of all, so it is not one of those below.
    have hnew (name : String) (names : List String) (id : Nat) (hid : later.size = id) :
        (later.add loaded).at? (.object later.size) (name :: names) ≠ some (.object id) := by
      intro hplace
      rw [hbelow] at hplace
      exact absurd (h.added _ id hplace).2 (by omega)
    intro place other id hplace hother
    cases place with
    | nil =>
      cases other with
      | nil => rfl
      | cons name names => exact absurd hother (hnew name names id (by cases hplace; rfl))
    | cons name names =>
      cases other with
      | nil => exact absurd hplace (hnew name names id (by cases hother; rfl))
      | cons name' names' =>
        rw [hbelow] at hplace hother
        exact h.single _ _ id hplace hother
  · intro place held hplace
    cases place with
    | nil =>
      cases hplace
      rfl
    | cons name names =>
      rw [hbelow] at hplace
      exact h.isData _ held hplace
  · intro place
    cases place with
    | nil => rfl
    | cons name names =>
      rw [hbelow, Json.held?_object_cons]
      exact h.shown (name :: names)

/-- The first member is found under its name. -/
theorem memberAt?_cons_self (heap : Heap) (name : String) (held : Held)
    (loaded : List (String × Held)) (names : List String) :
    heap.memberAt? ((name, held) :: loaded) (name :: names) = heap.at? held names := by
  simp [memberAt?]

/-- Another name is looked for behind the first member. -/
theorem memberAt?_cons_of_ne {name other : String} (h : other ≠ name) (heap : Heap) (held : Held)
    (loaded : List (String × Held)) (names : List String) :
    heap.memberAt? ((name, held) :: loaded) (other :: names) =
      heap.memberAt? loaded (other :: names) := by
  have hne : (other == name) = false := beq_eq_false_iff_ne.2 h
  simp [memberAt?, List.lookup_cons, hne]

/-- What is read through members is read below the first one or through the others. -/
theorem memberAt?_cons_cases {name : String} {loaded : List (String × Held)} {place : List String}
    {inner : Held} (h : heap.memberAt? ((name, held) :: loaded) place = some inner) :
    (∃ names, place = name :: names ∧ heap.at? held names = some inner) ∨
      heap.memberAt? loaded place = some inner := by
  cases place with
  | nil => simp [memberAt?] at h
  | cons other names =>
    by_cases hname : other = name
    · subst hname
      rw [memberAt?_cons_self] at h
      exact .inl ⟨names, rfl, h⟩
    · rw [memberAt?_cons_of_ne hname] at h
      exact .inr h

/-- The members behind the first one are laid out after it. -/
theorem laidOut_cons {middle : Heap} {name : String} {v : Json} {members : List (String × Json)}
    {loaded : List (String × Held)} (hfirst : LaidOut heap middle (middle.at? held) v.held?)
    (hrest : LaidOut middle later (later.memberAt? loaded) (memberHeld? members)) :
    LaidOut heap later (later.memberAt? ((name, held) :: loaded))
      (memberHeld? ((name, v) :: members)) := by
  -- What is read below the first member was added before everything else.
  have hheld (names : List String) : later.at? held names = middle.at? held names :=
    at?_of_kept hrest.kept (fun place id hplace => (hfirst.added place id hplace).2) names
  constructor
  · exact Nat.le_trans hfirst.grown hrest.grown
  · intro id hid
    rw [hrest.kept id (Nat.lt_of_lt_of_le hid hfirst.grown), hfirst.kept id hid]
  · intro place id h
    rcases memberAt?_cons_cases h with ⟨names, -, hplace⟩ | hplace
    · obtain ⟨hlow, hhigh⟩ := hfirst.added names id ((hheld names).symm.trans hplace)
      exact ⟨hlow, Nat.lt_of_lt_of_le hhigh hrest.grown⟩
    · obtain ⟨hlow, hhigh⟩ := hrest.added place id hplace
      exact ⟨Nat.le_trans hfirst.grown hlow, hhigh⟩
  · intro place other id h h'
    rcases memberAt?_cons_cases h with ⟨names, rfl, hplace⟩ | hplace <;>
      rcases memberAt?_cons_cases h' with ⟨names', rfl, hplace'⟩ | hplace'
    · rw [hheld] at hplace hplace'
      rw [hfirst.single _ _ id hplace hplace']
    · rw [hheld] at hplace
      exact absurd (hfirst.added _ id hplace).2 (Nat.not_lt.2 (hrest.added _ id hplace').1)
    · rw [hheld] at hplace'
      exact absurd (hfirst.added _ id hplace').2 (Nat.not_lt.2 (hrest.added _ id hplace).1)
    · exact hrest.single _ _ id hplace hplace'
  · intro place inner h
    rcases memberAt?_cons_cases h with ⟨names, -, hplace⟩ | hplace
    · exact hfirst.isData names inner ((hheld names).symm.trans hplace)
    · exact hrest.isData place inner hplace
  · intro place
    cases place with
    | nil => rfl
    | cons other names =>
      by_cases hname : other = name
      · subst hname
        rw [memberAt?_cons_self, hheld, hfirst.shown]
        simp [memberHeld?]
      · have hne : (other == name) = false := beq_eq_false_iff_ne.2 hname
        rw [memberAt?_cons_of_ne hname, hrest.shown]
        simp [memberHeld?, List.lookup_cons, hne]

/-- No members are laid out as none. -/
theorem laidOut_nil : LaidOut heap heap (heap.memberAt? []) (memberHeld? []) where
  grown := Nat.le_refl _
  kept := fun _ _ => rfl
  added := fun place id h => by cases place <;> simp [memberAt?] at h
  single := fun place other id h => by cases place <;> simp [memberAt?] at h
  isData := fun place held h => by cases place <;> simp [memberAt?] at h
  shown := fun place => by cases place <;> rfl

mutual

/-- A data value that is laid out shows itself, and has each of its objects at one place. -/
theorem laidOut_load : (v : Json) → (heap : Heap) →
    LaidOut heap (load v heap).2 ((load v heap).2.at? (load v heap).1) v.held?
  | .object members, heap => laidOut_object (laidOut_loadMembers members heap)
  | .null, _ => laidOut_plain fun place => by cases place <;> rfl
  | .bool _, _ => laidOut_plain fun place => by cases place <;> rfl
  | .number _, _ => laidOut_plain fun place => by cases place <;> rfl
  | .string _, _ => laidOut_plain fun place => by cases place <;> rfl
  | .array _, _ => laidOut_plain fun place => by cases place <;> rfl
  | .broken, _ => laidOut_plain fun place => by cases place <;> rfl

/-- Members are laid out one after the other. -/
theorem laidOut_loadMembers : (members : List (String × Json)) → (heap : Heap) →
    LaidOut heap (loadMembers members heap).2
      ((loadMembers members heap).2.memberAt? (loadMembers members heap).1) (memberHeld? members)
  | [], _ => laidOut_nil
  | (_, v) :: members, heap =>
    laidOut_cons (laidOut_load v heap) (laidOut_loadMembers members (load v heap).2)

end

/-- The values of members are laid out apart from everything that was there before. -/
theorem forall₂_loadMembers (members : List (String × Json)) (heap : Heap) :
    List.Forall₂
      (fun entry member => entry.1 = member.1 ∧
        (loadMembers members heap).2.Shows entry.2 member.2 ∧
        ∀ id, (loadMembers members heap).2.Reaches entry.2 id →
          heap.size ≤ id ∧ id < (loadMembers members heap).2.size)
      (loadMembers members heap).1 members := by
  induction members generalizing heap with
  | nil => exact .nil
  | cons member members ih =>
    obtain ⟨name, v⟩ := member
    have hfirst := laidOut_load v heap
    have hrest := laidOut_loadMembers members (load v heap).2
    have hheld (place : List String) :
        (loadMembers members (load v heap).2).2.at? (load v heap).1 place =
          (load v heap).2.at? (load v heap).1 place :=
      at?_of_kept hrest.kept (fun place id hplace => (hfirst.added place id hplace).2) place
    refine .cons ⟨rfl, fun place => ?_, fun id ⟨place, hplace⟩ => ?_⟩
      ((ih _).imp fun entry member h => ?_)
    · exact (congrArg (·.bind Held.outline?) (hheld place)).trans (hfirst.shown place)
    · obtain ⟨hlow, hhigh⟩ := hfirst.added place id ((hheld place).symm.trans hplace)
      exact ⟨hlow, Nat.lt_of_lt_of_le hhigh hrest.grown⟩
    · refine ⟨h.1, h.2.1, fun id hid => ?_⟩
      obtain ⟨hlow, hhigh⟩ := h.2.2 id hid
      exact ⟨Nat.le_trans hfirst.grown hlow, hhigh⟩

end Heap

end TemplateImports
