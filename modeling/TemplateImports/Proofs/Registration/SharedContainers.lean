import TemplateImports.Proofs.Registration.ContainerRun

/-!
# Merging and the helpers

A merge on data stands for the run of a helper on objects.  For a constructor the helper first
stores the container of the options in the extended options, so that one object stands at both
places.  If the options have no container, though, it stores a new one in the extended options only,
while a merge writes one to both places.

A helper also leaves alone the names that every object has, unless the container holds them itself.

Main results:

- Definition `installedPlaces` lists the places that hold the container after a run.
- Theorem `Call.Describes.exists_run?` says that a run ends, and what a component holds then.
- Theorem `run?_agrees_iff` says when this is what a merge writes.
-/

namespace TemplateImports

open Json

/-! ## What a run does, on data -/

/-- The place of the options that a helper adds a container to. -/
def optionsPlace (constructor : Bool) : List String :=
  if constructor then ["exports", "extendOptions"] else ["options"]

/-- The place of the container after a run. -/
def writtenPlace (constructor : Bool) (c : Category) : List String :=
  optionsPlace constructor ++ [c.field]

/-- The members of the container that a helper and a merge start from. -/
def oldMembers (definition : Json) (c : Category) : List (String × Json) :=
  ((definition.at? (registrationPlace (isConstructor definition) c)).map Json.members).getD []

/-- Whether there is a container. -/
def hasContainer (definition : Json) (c : Category) : Bool :=
  match definition.at? (registrationPlace (isConstructor definition) c) with
  | some (.object _) => true
  | _ => false

/-- The container after a run. -/
def installedValues (definition : Json) (c : Category) (registrations : List (String × Json)) :
    Json :=
  .object (registrations.foldl registerInstalled (oldMembers definition c))

/-- The places that hold the container after a run. -/
def installedPlaces (definition : Json) (c : Category) : List (List String) :=
  if isConstructor definition && !hasContainer definition c then
    [writtenPlace (isConstructor definition) c]
  else registrationPlaces (isConstructor definition) c

/-- A definition whose options are objects, with an object, nothing or null for a container. -/
structure IsInstallable (definition : Json) (c : Category) : Prop where
  parents : ∀ place ∈ registrationPlaces (isConstructor definition) c,
    definition.held? place.dropLast = some (.object [])
  container : definition.held? (registrationPlace (isConstructor definition) c) = none ∨
    definition.held? (registrationPlace (isConstructor definition) c) = some .null ∨
    definition.held? (registrationPlace (isConstructor definition) c) = some (.object [])

/-! ## Calls -/

/-- What is known of the objects of a call: they show what the call was made from, each object of
the component stands at one place, and the registered values are apart from the component. -/
structure Call.Describes (call : Call) (definition : Json) (registrations : List (String × Json)) :
    Prop where
  shows : call.heap.Shows call.component definition
  bound : ∀ place id, call.heap.at? call.component place = some (.object id) → id < call.heap.size
  single : ∀ place other id, call.heap.at? call.component place = some (.object id) →
    call.heap.at? call.component other = some (.object id) → place = other
  isData : ∀ place held, call.heap.at? call.component place = some held →
    held.outline?.isSome = true
  entries : List.Forall₂
    (fun entry registration => entry.1 = registration.1 ∧
      call.heap.Shows entry.2 registration.2 ∧
      ∀ id, call.heap.Reaches entry.2 id →
        id < call.heap.size ∧ ¬ call.heap.Reaches call.component id)
    call.entries registrations

/-- The call of a definition describes it. -/
theorem Call.describes_of (definition : Json) (registrations : List (String × Json)) :
    (Call.of definition registrations).Describes definition registrations := by
  have hdefinition := Heap.laidOut_load definition {}
  have hregistrations := Heap.laidOut_loadMembers registrations (Heap.load definition {}).2
  have hread (place : List String) :
      (Call.of definition registrations).heap.at? (Call.of definition registrations).component
        place = (Heap.load definition {}).2.at? (Heap.load definition {}).1 place :=
    Heap.at?_of_kept hregistrations.kept
      (fun place id hplace => (hdefinition.added place id hplace).2) place
  constructor
  · exact fun place =>
      (congrArg (·.bind Held.outline?) (hread place)).trans (hdefinition.shown place)
  · intro place id hplace
    have hbefore := (hdefinition.added place id ((hread place).symm.trans hplace)).2
    exact Nat.lt_of_lt_of_le hbefore hregistrations.grown
  · intro place other id hplace hother
    exact hdefinition.single place other id ((hread place).symm.trans hplace)
      ((hread other).symm.trans hother)
  · exact fun place held hplace => hdefinition.isData place held ((hread place).symm.trans hplace)
  · refine (Heap.forall₂_loadMembers registrations _).imp fun entry registration h => ?_
    refine ⟨h.1, h.2.1, fun id hid => ⟨(h.2.2 id hid).2, fun ⟨place, hplace⟩ => ?_⟩⟩
    have hbefore := (hdefinition.added place id ((hread place).symm.trans hplace)).2
    exact absurd (h.2.2 id hid).1 (Nat.not_le.2 hbefore)

/-! ## Places of a definition -/

section Definition

variable {definition : Json} {c : Category}

theorem absent_field (c : Category) : Heap.absent c.field = .undefined := by
  cases c <;> rfl

/-- There is a container where the registrations are an object. -/
theorem hasContainer_iff :
    hasContainer definition c = true ↔
      definition.held? (registrationPlace (isConstructor definition) c) = some (.object []) := by
  unfold hasContainer held?
  cases definition.at? (registrationPlace (isConstructor definition) c) with
  | none => simp
  | some v => cases v <;> simp [outline]

/-- A container holds the members that were there before. -/
theorem at?_registrationPlace_of_hasContainer (h : hasContainer definition c = true) :
    definition.at? (registrationPlace (isConstructor definition) c) =
      some (.object (oldMembers definition c)) := by
  unfold hasContainer at h
  unfold oldMembers
  cases hvalue : definition.at? (registrationPlace (isConstructor definition) c) with
  | none => simp [hvalue] at h
  | some v => cases v <;> simp_all [Json.members]

/-- Without a container nothing was there before. -/
theorem oldMembers_of_not_hasContainer (h : hasContainer definition c = false) :
    oldMembers definition c = [] := by
  unfold hasContainer at h
  unfold oldMembers
  cases hvalue : definition.at? (registrationPlace (isConstructor definition) c) with
  | none => rfl
  | some v => cases v <;> simp_all [Json.members]

/-- The place that is always written is one of the places of registrations. -/
theorem writtenPlace_mem (constructor : Bool) (c : Category) :
    writtenPlace constructor c ∈ registrationPlaces constructor c := by
  cases constructor <;> simp [writtenPlace, optionsPlace, registrationPlaces]

/-- Only places of registrations are written. -/
theorem installedPlaces_sublist (definition : Json) (c : Category) :
    (installedPlaces definition c).Sublist (registrationPlaces (isConstructor definition) c) := by
  unfold installedPlaces
  split
  · exact List.singleton_sublist.2 (writtenPlace_mem _ c)
  · exact List.Sublist.refl _

/-- The places that are written are apart. -/
theorem pairwise_installedPlaces (definition : Json) (c : Category) :
    (installedPlaces definition c).Pairwise Apart :=
  (pairwise_registrationPlaces _ c).sublist (installedPlaces_sublist definition c)

/-- A run writes the place that is always written, and the place of an old container. -/
theorem mem_installedPlaces_iff {place : List String} :
    place ∈ installedPlaces definition c ↔
      place = writtenPlace (isConstructor definition) c ∨
        hasContainer definition c = true ∧
          place = registrationPlace (isConstructor definition) c := by
  unfold installedPlaces
  cases hconstructor : isConstructor definition <;> cases hcontainer : hasContainer definition c <;>
    simp [registrationPlaces, writtenPlace, optionsPlace, registrationPlace]

/-- The first place of the container is the one that a helper writes. -/
theorem installedPlaces_eq_cons (definition : Json) (c : Category) :
    ∃ rest, installedPlaces definition c = writtenPlace (isConstructor definition) c :: rest := by
  unfold installedPlaces registrationPlaces writtenPlace optionsPlace
  cases isConstructor definition <;> cases hasContainer definition c <;> exact ⟨_, rfl⟩

end Definition

/-! ## Runs -/

namespace Call.Describes

open Heap

variable {call : Call} {definition : Json} {registrations : List (String × Json)} {c : Category}

/-- A helper takes the same definitions for constructors as a merge. -/
theorem isFunction_exports (h : call.Describes definition registrations) :
    call.heap.isFunction ((call.heap.own? call.component "exports").getD (absent "exports")) =
      isConstructor definition := by
  have hmark : (call.heap.at? call.component ["exports", "$function"]).bind Held.outline? =
      (definition.at? ["exports", "$function"]).map outline := h.shows _
  have hown : call.heap.own? ((call.heap.own? call.component "exports").getD (absent "exports"))
      "$function" = call.heap.at? call.component ["exports", "$function"] := by
    simp only [Heap.at?]
    cases call.heap.own? call.component "exports" with
    | none => rfl
    | some exports => cases hname : call.heap.own? exports "$function" <;> simp [hname]
  unfold isFunction isConstructor
  rw [hown]
  generalize call.heap.at? call.component ["exports", "$function"] = mark,
    definition.at? ["exports", "$function"] = v at hmark
  cases v with
  | none =>
    cases mark with
    | none => rfl
    | some held => cases held <;> first | rfl | (rename_i value; cases value <;> cases hmark; rfl)
  | some v =>
    obtain ⟨held, rfl, houtline⟩ := Option.bind_eq_some_iff.1 hmark
    cases v with
    | object members =>
      obtain ⟨id, rfl⟩ := Held.exists_of_outline?_object houtline
      rfl
    | _ => rw [Held.eq_plain_of_outline? houtline (by simp [outline])]; rfl

/-- The options that a helper writes to are an object. -/
theorem exists_options (h : call.Describes definition registrations)
    (hdefinition : IsInstallable definition c) :
    ∃ oid, call.heap.at? call.component (optionsPlace (isConstructor definition)) =
      some (.object oid) := by
  refine h.shows.exists_object ?_
  simpa [writtenPlace] using hdefinition.parents _ (writtenPlace_mem (isConstructor definition) c)

/-- What a run does before its loop. -/
theorem run?_eq (h : call.Describes definition registrations)
    (hdefinition : IsInstallable definition c) {oid : Nat}
    (hoid : call.heap.at? call.component (optionsPlace (isConstructor definition)) =
      some (.object oid)) :
    call.run? c =
      call.entries.foldlM (installOne? c.field (.object oid))
        (call.heap.ensured c.field oid
          ((call.heap.at? call.component
            (registrationPlace (isConstructor definition) c)).getD .undefined)) := by
  have hfunction := h.isFunction_exports
  cases hconstructor : isConstructor definition with
  | false =>
    rw [hconstructor] at hoid hfunction
    have hoptions : call.heap.own? call.component "options" = some (.object oid) := by
      rwa [← at?_singleton]
    have hfield : call.heap.at? call.component (registrationPlace false c) =
        call.heap.own? (.object oid) c.field := at?_append_singleton hoid c.field
    obtain ⟨root, hroot⟩ := exists_object_of_own? hoptions
    rw [hroot] at hfunction hoptions hfield
    simp [Call.run?, install?, hroot, read?_object, hfunction, hoptions, ensureContainer?_eq,
      absent_field, hfield]
  | true =>
    rw [hconstructor] at hoid hfunction
    obtain ⟨fid, hfid⟩ := h.shows.exists_object
      (hdefinition.parents _ (registrationPlace_mem (isConstructor definition) c))
    rw [hconstructor] at hfid
    have hfield : call.heap.at? call.component (registrationPlace true c) =
        call.heap.own? (.object fid) c.field := at?_append_singleton hfid c.field
    obtain ⟨exports, hexports, hextended⟩ := Option.bind_eq_some_iff.1 hoid
    have hextended : call.heap.own? exports "extendOptions" = some (.object oid) := by
      rwa [← at?_singleton]
    have hfull : call.heap.own? exports "options" = some (.object fid) := by
      rw [← at?_singleton]
      simpa [registrationPlace, Heap.at?, hexports] using hfid
    obtain ⟨root, hroot⟩ := exists_object_of_own? hexports
    obtain ⟨eid, rfl⟩ := exists_object_of_own? hextended
    -- The options of a constructor share the container of the component before they get their own.
    have hsteps := shareContainer?_bind_ensureContainer? (h.bound _ oid hoid) hfull c.field
    rw [hfield, ← absent_field c]
    rw [hroot] at hfunction hexports
    rw [hexports, Option.getD_some] at hfunction
    calc call.run? c
        = ((call.heap.shareContainer? c.field (.object eid) (.object oid)).bind fun shared =>
            shared.ensureContainer? c.field (.object oid)).bind fun heap =>
              call.entries.foldlM (installOne? c.field (.object oid)) heap := by
          simp [Call.run?, install?, hroot, read?_object, hfunction, hexports, hextended,
            Option.bind_assoc]
      _ = _ := by rw [hsteps, Option.bind_some]

/-- A container of the component can be linked to the options. -/
theorem linkable_container (h : call.Describes definition registrations) {oid id : Nat}
    (hoid : call.heap.at? call.component (optionsPlace (isConstructor definition)) =
      some (.object oid))
    (hid : call.heap.at? call.component (registrationPlace (isConstructor definition) c) =
      some (.object id)) :
    call.heap.Linkable c.field call.component (optionsPlace (isConstructor definition)) oid id where
  stands := hoid
  single := fun place hplace => h.single place _ oid hplace hoid
  optionsBound := h.bound _ oid hoid
  bound := h.bound _ id hid
  distinct := by
    rintro rfl
    have heq := h.single _ _ oid hoid hid
    cases hconstructor : isConstructor definition <;>
      simp [hconstructor, optionsPlace, registrationPlace] at heq
  apart := by
    rintro ⟨rest, hrest⟩
    have hbelow : call.heap.at? call.component
        (registrationPlace (isConstructor definition) c ++ rest) = some (.object oid) := by
      rw [Heap.at?_append, hid]
      exact hrest
    have hlength := congrArg List.length (h.single _ _ oid hbelow hoid)
    cases hconstructor : isConstructor definition <;>
      simp [hconstructor, optionsPlace, registrationPlace] at hlength
  outside := by
    intro place hplace hprefix
    rw [h.single place _ id hplace hid] at hprefix ⊢
    exact (eq_of_prefix_of_apart (pairwise_registrationPlaces _ c) (writtenPlace_mem _ c)
      (registrationPlace_mem _ c) hprefix).symm

/-- The members of a container of the component stand for its members in data. -/
theorem represents_container (h : call.Describes definition registrations)
    (hcontainer : hasContainer definition c = true) {id : Nat}
    (hid : call.heap.at? call.component (registrationPlace (isConstructor definition) c) =
      some (.object id)) :
    call.heap.Represents id (call.heap.membersOf id) (oldMembers definition c) where
  shown := by
    intro place
    cases place with
    | nil => rfl
    | cons name names =>
      have hshows := h.shows.below hid (at?_registrationPlace_of_hasContainer hcontainer)
      exact (hshows (name :: names)).trans (held?_object_cons ..)
  apart := by
    intro place hplace
    cases place with
    | nil => simp [memberAt?] at hplace
    | cons name names =>
      have hbelow : call.heap.at? call.component
          (registrationPlace (isConstructor definition) c ++ name :: names) =
            some (.object id) := by
        rw [Heap.at?_append, hid]
        exact hplace
      simpa using h.single _ _ id hbelow hid
  foreign := by
    intro name value hvalue houtline
    have hdata := h.isData _ value ((at?_append_singleton hid name).trans hvalue)
    simp [houtline] at hdata

/-- A new container can be linked to the options. -/
theorem linkable_new (h : call.Describes definition registrations) {oid : Nat}
    (hoid : call.heap.at? call.component (optionsPlace (isConstructor definition)) =
      some (.object oid)) :
    (call.heap.add []).Linkable c.field call.component (optionsPlace (isConstructor definition)) oid
      call.heap.size := by
  have hread := at?_add h.bound []
  have hbound : oid < call.heap.size := h.bound _ oid hoid
  have hnew (place : List String) :
      (call.heap.add []).at? call.component place ≠ some (.object call.heap.size) := fun hplace =>
    absurd (h.bound place _ ((hread place).symm.trans hplace)) (Nat.lt_irrefl _)
  refine ⟨(hread _).trans hoid, fun place hplace => ?_, by simp; omega, by simp,
    Nat.ne_of_lt hbound, ?_, fun place hplace => absurd hplace (hnew place)⟩
  · exact h.single place _ oid ((hread place).symm.trans hplace) hoid
  · rintro ⟨rest, hrest⟩
    cases rest with
    | nil =>
      have heq : call.heap.size = oid := by simpa using hrest
      omega
    | cons name names => simp [Heap.at?, own?, membersOf_add] at hrest

/-- Without a container, what is found in its place does not count as set. -/
theorem isTruthy_found (h : call.Describes definition registrations)
    (hdefinition : IsInstallable definition c) (hcontainer : hasContainer definition c = false) :
    ((call.heap.at? call.component
      (registrationPlace (isConstructor definition) c)).getD .undefined).isTruthy = false := by
  have hheld := h.shows (registrationPlace (isConstructor definition) c)
  cases hat : call.heap.at? call.component (registrationPlace (isConstructor definition) c) with
  | none => rfl
  | some held =>
    have hdata := h.isData _ held hat
    rw [Heap.held?, hat, Option.bind_some] at hheld
    rw [Option.getD_some]
    rcases hdefinition.container with hnone | hnull | hobject
    · simp [hheld.trans hnone] at hdata
    · rw [Held.eq_plain_of_outline? (hheld.trans hnull) (by simp)]
      rfl
    · simp [hasContainer_iff.2 hobject] at hcontainer

/-- A registration stands in a later heap that reads the same at all its places. -/
theorem stands_of_read {later : Heap} {id : Nat} {entry : String × Held}
    {registration : String × Json} (hkey : entry.1 = registration.1)
    (hshows : call.heap.Shows entry.2 registration.2)
    (hread : ∀ place, later.at? entry.2 place = call.heap.at? entry.2 place)
    (hapart : ¬ call.heap.Reaches entry.2 id) : later.Stands id entry registration where
  key := hkey
  shows := fun place => (held?_eq_of_at? (hread place)).trans (hshows place)
  apart := fun ⟨place, hplace⟩ => hapart ⟨place, (hread place).symm.trans hplace⟩

/-- What is ready for the loop: the container is linked to the options, the registered values are
apart from it, and before the run it stood where a container is looked for, if there was one. -/
def IsReady (call : Call) (definition : Json) (registrations : List (String × Json)) (c : Category)
    (heap : Heap) (oid id : Nat) : Prop :=
  heap.Prepared c.field call.component oid id
      (definition.setAt (.object (oldMembers definition c))
        (writtenPlace (isConstructor definition) c))
      (installedPlaces definition c) (oldMembers definition c) ∧
    List.Forall₂ (heap.Stands id) call.entries registrations ∧
    ∀ place, call.heap.at? call.component place = some (.object id) ↔
      hasContainer definition c = true ∧ place = registrationPlace (isConstructor definition) c

theorem isReady_container (h : call.Describes definition registrations)
    (hcontainer : hasContainer definition c = true) {oid id : Nat}
    (hoid : call.heap.at? call.component (optionsPlace (isConstructor definition)) =
      some (.object oid))
    (hid : call.heap.at? call.component (registrationPlace (isConstructor definition) c) =
      some (.object id)) :
    IsReady call definition registrations c (call.heap.linked c.field oid id) oid id := by
  have hlinkable := h.linkable_container hoid hid
  have hstands (place : List String) :
      call.heap.at? call.component place = some (.object id) ↔
        place = registrationPlace (isConstructor definition) c :=
    ⟨fun hplace => h.single place _ id hplace hid, fun hplace => hplace ▸ hid⟩
  refine ⟨hlinkable.prepared h.shows (h.represents_container hcontainer hid) fun place => ?_,
    h.entries.imp fun entry registration hentry => ?_, by simpa [hcontainer] using hstands⟩
  · rw [mem_installedPlaces_iff, hstands]
    simp [hcontainer, writtenPlace]
  · obtain ⟨hkey, hshows, hapart⟩ := hentry
    refine stands_of_read hkey hshows ?_ fun hreach => (hapart id hreach).2 ⟨_, hid⟩
    exact at?_replace_of_not_reaches hlinkable.optionsBound
      (fun hreach => (hapart oid hreach).2 ⟨_, hoid⟩) _

theorem isReady_new (h : call.Describes definition registrations)
    (hcontainer : hasContainer definition c = false) {oid : Nat}
    (hoid : call.heap.at? call.component (optionsPlace (isConstructor definition)) =
      some (.object oid)) :
    IsReady call definition registrations c
      ((call.heap.add []).linked c.field oid call.heap.size) oid call.heap.size := by
  have hlinkable := h.linkable_new (c := c) hoid
  have hread := at?_add h.bound []
  have hnew (place : List String) :
      call.heap.at? call.component place ≠ some (.object call.heap.size) := fun hplace =>
    absurd (h.bound place _ hplace) (Nat.lt_irrefl _)
  refine ⟨hlinkable.prepared (fun place => (held?_eq_of_at? (hread place)).trans (h.shows place)) ?_
    fun place => ?_, h.entries.imp fun entry registration hentry => ?_,
    by simpa [hcontainer] using hnew⟩
  · rw [membersOf_add, if_pos rfl, oldMembers_of_not_hasContainer hcontainer]
    exact ⟨fun place => by cases place <;> rfl, fun place => by cases place <;> simp [memberAt?],
      by simp⟩
  · rw [mem_installedPlaces_iff, hread]
    simp [hcontainer, hnew, writtenPlace]
  · obtain ⟨hkey, hshows, hapart⟩ := hentry
    have hadd := at?_add (fun place id hplace => (hapart id ⟨place, hplace⟩).1) []
    have hoptions : ¬ (call.heap.add []).Reaches entry.2 oid := by
      rintro ⟨place, hplace⟩
      exact (hapart oid ⟨place, (hadd place).symm.trans hplace⟩).2 ⟨_, hoid⟩
    refine stands_of_read hkey hshows (fun place => ?_)
      fun hreach => absurd (hapart _ hreach).1 (Nat.lt_irrefl _)
    exact (at?_replace_of_not_reaches hlinkable.optionsBound hoptions _ place).trans (hadd place)

/-- A run gets to its loop. -/
theorem exists_isReady (h : call.Describes definition registrations)
    (hdefinition : IsInstallable definition c) :
    ∃ heap oid id, IsReady call definition registrations c heap oid id ∧
      call.run? c = call.entries.foldlM (installOne? c.field (.object oid)) heap := by
  obtain ⟨oid, hoid⟩ := h.exists_options hdefinition
  have hrun := h.run?_eq hdefinition hoid
  cases hcontainer : hasContainer definition c with
  | true =>
    obtain ⟨id, hid⟩ := h.shows.exists_object (hasContainer_iff.1 hcontainer)
    refine ⟨_, oid, id, h.isReady_container hcontainer hoid hid, ?_⟩
    rw [hrun, hid]
    rfl
  | false =>
    refine ⟨_, oid, _, h.isReady_new hcontainer hoid, ?_⟩
    rw [hrun, ensured, h.isTruthy_found hdefinition hcontainer]
    rfl

/-- A run ends, and the component then holds the installed values at the places of the container,
which all have one object. -/
theorem exists_run? (h : call.Describes definition registrations)
    (hdefinition : IsInstallable definition c) :
    ∃ heap id, call.run? c = some heap ∧
      heap.Shows call.component
        (definition.setAll (installedValues definition c registrations)
          (installedPlaces definition c)) ∧
      (∀ place, heap.at? call.component place = some (.object id) ↔
        place ∈ installedPlaces definition c) ∧
      ∀ place, call.heap.at? call.component place = some (.object id) ↔
        hasContainer definition c = true ∧
          place = registrationPlace (isConstructor definition) c := by
  obtain ⟨heap, oid, id, ⟨hready, hentries, hbefore⟩, hrun⟩ := h.exists_isReady hdefinition
  have hplaces := pairwise_installedPlaces definition c
  have hloop := foldlM_installOne? hready.link hready.distinct hready.bound call.entries
    (heap.membersOf id)
  rw [replace_membersOf] at hloop
  have hadded := hready.represents.foldl_installHeld hentries
  refine ⟨_, id, hrun.trans hloop, ?_, hready.stands_replace hplaces hadded.apart, hbefore⟩
  have hshows := hready.shows_replace hplaces hadded
  obtain ⟨rest, hrest⟩ := installedPlaces_eq_cons definition c
  rw [hrest] at hshows ⊢
  simpa only [setAll, List.foldl_cons, setAt_setAt, installedValues] using hshows

end Call.Describes

/-! ## When a merge agrees -/

section Agreement

variable {definition : Json} {c : Category} {registrations : List (String × Json)}
  {container : List (String × Json)} {key : String}

/-- Registering more keeps what a container has. -/
theorem isSome_lookup_register (h : (container.lookup key).isSome = true)
    (entry : String × Json) : ((register container entry).lookup key).isSome = true := by
  rw [lookup_register]
  split
  · cases hold : container.lookup key with
    | none => simp [hold] at h
    | some value => simp only [firstSet?]; split <;> simp
  · exact h

/-- A registered key is there afterwards. -/
theorem isSome_lookup_foldl_register {entry : String × Json} (h : entry ∈ registrations) :
    ((registrations.foldl register container).lookup entry.1).isSome = true := by
  have hkept (entries container : List (String × Json))
      (hsome : (container.lookup entry.1).isSome = true) :
      ((entries.foldl register container).lookup entry.1).isSome = true := by
    induction entries generalizing container with
    | nil => exact hsome
    | cons first entries ih => exact ih _ (isSome_lookup_register hsome first)
  obtain ⟨before, after, rfl⟩ := List.append_of_mem h
  rw [List.foldl_append, List.foldl_cons]
  refine hkept _ _ ?_
  rw [lookup_register, if_pos rfl]
  cases (before.foldl register container).lookup entry.1 with
  | none => rfl
  | some value => simp only [firstSet?]; split <;> simp

/-- A name that every object has is not added. -/
theorem lookup_foldl_registerInstalled (hkey : key ∈ inheritedNames)
    (hmissing : container.lookup key = none) :
    (registrations.foldl registerInstalled container).lookup key = none := by
  induction registrations generalizing container with
  | nil => exact hmissing
  | cons entry registrations ih =>
    refine ih ?_
    unfold registerInstalled
    split
    · exact hmissing
    · rename_i hentry
      rw [lookup_register]
      split
      · rename_i heq
        exact absurd ⟨heq ▸ hkey, by simp [← heq, hmissing]⟩ hentry
      · exact hmissing

/-- Inherited names make no difference where the container has them itself. -/
theorem foldl_registerInstalled
    (h : ∀ entry ∈ registrations, entry.1 ∈ inheritedNames →
      (container.lookup entry.1).isSome = true) :
    registrations.foldl registerInstalled container = registrations.foldl register container := by
  induction registrations generalizing container with
  | nil => rfl
  | cons entry registrations ih =>
    have hstep : registerInstalled container entry = register container entry := by
      unfold registerInstalled
      split
      · rename_i hentry
        have hsome := h entry List.mem_cons_self hentry.1
        simp [Option.isNone_iff_eq_none.1 hentry.2] at hsome
      · rfl
    rw [List.foldl_cons, List.foldl_cons, hstep]
    exact ih fun other hmem hname =>
      isSome_lookup_register (h other (List.mem_cons_of_mem _ hmem) hname) entry

/-- A merge writes the container to the options of a constructor, and a helper leaves them as they
are. -/
theorem hasContainer_of_alike
    (halike : Alike (definition.setAll (installedValues definition c registrations)
        (installedPlaces definition c)) (mergeRegistrations definition c registrations))
    (hconstructor : isConstructor definition = true) : hasContainer definition c = true := by
  by_contra hcontainer
  have hread := halike (registrationPlace (isConstructor definition) c)
  rw [mergeRegistrations_eq] at hread
  have hmerged : (definition.setAll (mergedValues definition c registrations)
      (registrationPlaces (isConstructor definition) c)).held?
        (registrationPlace (isConstructor definition) c ++ []) =
      (mergedValues definition c registrations).held? [] :=
    held?_setAll_append (pairwise_registrationPlaces _ c) (registrationPlace_mem _ c) []
  rw [List.append_nil] at hmerged
  have hnone : ∀ place ∈ installedPlaces definition c,
      Apart place (registrationPlace (isConstructor definition) c) := by
    intro place hplace
    rw [mem_installedPlaces_iff] at hplace
    rcases hplace with rfl | ⟨hplace, -⟩
    · rw [hconstructor]
      cases c <;> decide
    · exact absurd hplace hcontainer
  rw [hmerged, Json.held?, at?_setAll_of_apart hnone] at hread
  exact hcontainer (hasContainer_iff.2 hread)

/-- A merge writes every registered name, and a helper leaves alone those that every object has. -/
theorem isSome_lookup_of_alike
    (halike : Alike (definition.setAll (installedValues definition c registrations)
        (installedPlaces definition c)) (mergeRegistrations definition c registrations))
    {entry : String × Json} (hentry : entry ∈ registrations) (hname : entry.1 ∈ inheritedNames) :
    ((oldMembers definition c).lookup entry.1).isSome = true := by
  by_contra hmissing
  have hlookup : (oldMembers definition c).lookup entry.1 = none :=
    Option.not_isSome_iff_eq_none.1 hmissing
  have hwritten : writtenPlace (isConstructor definition) c ∈ installedPlaces definition c :=
    mem_installedPlaces_iff.2 (.inl rfl)
  have hread := halike (writtenPlace (isConstructor definition) c ++ [entry.1])
  rw [mergeRegistrations_eq, held?_setAll_append (pairwise_installedPlaces definition c) hwritten,
    held?_setAll_append (pairwise_registrationPlaces _ c) (writtenPlace_mem _ c),
    installedValues, mergedValues, merged, held?_object_cons, held?_object_cons,
    lookup_foldl_registerInstalled hname hlookup] at hread
  have hsome : ((registrations.foldl register (oldMembers definition c)).lookup
      entry.1).isSome = true := isSome_lookup_foldl_register hentry
  rw [oldMembers] at hsome
  obtain ⟨value, hvalue⟩ := Option.isSome_iff_exists.1 hsome
  rw [hvalue] at hread
  simp [Json.held?, Json.at?] at hread

/-- When a merge writes what a component holds after a run. -/
theorem alike_mergeRegistrations_iff :
    Alike (definition.setAll (installedValues definition c registrations)
        (installedPlaces definition c)) (mergeRegistrations definition c registrations) ↔
      (isConstructor definition = true → hasContainer definition c = true) ∧
        ∀ entry ∈ registrations, entry.1 ∈ inheritedNames →
          ((oldMembers definition c).lookup entry.1).isSome = true := by
  constructor
  · exact fun halike => ⟨hasContainer_of_alike halike, fun _ => isSome_lookup_of_alike halike⟩
  · rintro ⟨hcontainer, hnames⟩
    have hvalues : installedValues definition c registrations =
        mergedValues definition c registrations :=
      congrArg Json.object (foldl_registerInstalled hnames)
    have hsame : installedPlaces definition c =
        registrationPlaces (isConstructor definition) c := by
      unfold installedPlaces
      cases hconstructor : isConstructor definition with
      | false => rfl
      | true => simp [hcontainer hconstructor]
    rw [mergeRegistrations_eq, hvalues, hsame]
    exact .refl _

end Agreement

/-- A helper that is called for a definition whose options are objects comes to an end.  The
component then holds the old container with the registrations, or a new one if there was none, at
all places of the container, which have one and the same object; every other place of it holds what
it held before.  A merge writes what the component holds exactly if a constructor had a container
and no registered name is one that every object has, unless the container held it. -/
theorem run?_agrees_iff (definition : Json) (c : Category) (registrations : List (String × Json))
    (hdefinition : IsInstallable definition c) :
    let call := Call.of definition registrations
    ∃ heap id, call.run? c = some heap ∧
      heap.Shows call.component
        (definition.setAll (installedValues definition c registrations)
          (installedPlaces definition c)) ∧
      (∀ place, heap.at? call.component place = some (.object id) ↔
        place ∈ installedPlaces definition c) ∧
      (∀ place, call.heap.at? call.component place = some (.object id) ↔
        hasContainer definition c = true ∧
          place = registrationPlace (isConstructor definition) c) ∧
      (heap.Shows call.component (mergeRegistrations definition c registrations) ↔
        (isConstructor definition = true → hasContainer definition c = true) ∧
          ∀ entry ∈ registrations, entry.1 ∈ inheritedNames →
            ((oldMembers definition c).lookup entry.1).isSome = true) := by
  obtain ⟨heap, id, hrun, hshows, hafter, hbefore⟩ :=
    (Call.describes_of definition registrations).exists_run? hdefinition
  refine ⟨heap, id, hrun, hshows, hafter, hbefore, ?_⟩
  rw [← alike_mergeRegistrations_iff]
  exact ⟨fun hmerge place => (hshows place).symm.trans (hmerge place),
    fun halike place => (hshows place).trans (halike place)⟩

/-- A constructor with a container: both places have it, as a merge writes it. -/
theorem run?_agrees_iff_container :
    let definition : Json := .object [("exports", .object [("$function", .bool true),
      ("extendOptions", .object []),
      ("options", .object [("components", .object [("VBtn", .string "global")])])])]
    let registrations := [("VBtn", Json.string "library"), ("VCard", .string "library")]
    let call := Call.of definition registrations
    ∃ heap id, call.run? .tag = some heap ∧
      heap.at? call.component ["exports", "extendOptions", "components"] = some (.object id) ∧
      heap.at? call.component ["exports", "options", "components"] = some (.object id) ∧
      heap.Shows call.component (mergeRegistrations definition .tag registrations) := by
  intro definition registrations call
  have hdefinition : IsInstallable definition .tag := by
    refine ⟨fun place hplace => ?_, .inr (.inr rfl)⟩
    rcases List.mem_pair.1 hplace with rfl | rfl <;> rfl
  obtain ⟨heap, id, hrun, -, hafter, -, hmerge⟩ :=
    run?_agrees_iff definition .tag registrations hdefinition
  exact ⟨heap, id, hrun, (hafter _).2 (by decide), (hafter _).2 (by decide),
    hmerge.2 ⟨fun _ => rfl, by decide⟩⟩

/-- A constructor without a container: the helper leaves the options without one, and a merge writes
one there. -/
theorem not_shows_new_container :
    let definition : Json := .object [("exports", .object [("$function", .bool true),
      ("extendOptions", .object []), ("options", .object [])])]
    let registrations := [("VBtn", Json.string "library")]
    let call := Call.of definition registrations
    IsInstallable definition .tag ∧ ∃ heap, call.run? .tag = some heap ∧
      heap.held? call.component ["exports", "options", "components"] = none ∧
      (mergeRegistrations definition .tag registrations).held?
        ["exports", "options", "components"] = some (.object []) := by
  intro definition registrations call
  refine ⟨⟨fun place hplace => ?_, .inl rfl⟩, _, rfl, rfl, rfl⟩
  rcases List.mem_pair.1 hplace with rfl | rfl <;> rfl

end TemplateImports
