import TemplateImports.Proofs.Json.Places

/-!
# Laws of merging

A merge reads the values registered so far at one place of a definition and writes them back with
new ones, there and, for a constructor, at a second place.  What a key holds afterwards is decided
by the first writer that sets it, and so merges of one category amount to a merge of joint values.
Merges of different categories write at places that part.

A definition may be any value: whatever stands in the way of a write is replaced, before and after
another merge alike.

Main results:

- Theorem `lookup_foldl_register` says what a container holds after registrations.
- Theorem `mergeRegistrations_eq` describes a merge as a write at the places of its category.
- Theorem `mergeRegistrations_laws` says that merges are idempotent, that two merges of a category
  amount to one, and that merges of different categories commute.
-/

namespace TemplateImports

open Json

/-! ## Registering in a container -/

/-- What a key holds that two writers give values: the value of the first one if it counts as set or
is the only one, and otherwise the value of the second one. -/
def firstSet? (first second : Option Json) : Option Json :=
  match first with
  | some value => if value.isTruthy || second.isNone then some value else second
  | none => second

/-- An object in which the values of two others are joined: every name holds its value in the first
one if that counts as set or is the only one, and otherwise its value in the second one. -/
structure Joins (first second joint : List (String × Json)) : Prop where
  distinct : (joint.map (·.1)).Nodup
  lookup : ∀ key, joint.lookup key = firstSet? (first.lookup key) (second.lookup key)

@[simp] theorem firstSet?_none_left (value : Option Json) : firstSet? none value = value := rfl

@[simp] theorem firstSet?_none_right (value : Option Json) : firstSet? value none = value := by
  cases value <;> simp [firstSet?]

/-- A third writer may join the second one first. -/
theorem firstSet?_assoc (first second third : Option Json) :
    firstSet? (firstSet? first second) third = firstSet? first (firstSet? second third) := by
  cases first with
  | none => rfl
  | some a =>
    cases second with
    | none => simp
    | some b =>
      cases third with
      | none => simp
      | some c =>
        by_cases ha : a.isTruthy = true <;> by_cases hb : b.isTruthy = true <;>
          simp [firstSet?, ha, hb]

theorem lookup_register (container : List (String × Json)) (entry : String × Json)
    (key : String) :
    (register container entry).lookup key =
      if key = entry.1 then firstSet? (container.lookup key) (some entry.2)
      else container.lookup key := by
  unfold register
  by_cases hkey : key = entry.1
  · subst hkey
    cases hold : container.lookup entry.1 with
    | none => simp [KeyedList.lookup_put]
    | some value =>
      by_cases hset : value.isTruthy = true <;>
        simp [firstSet?, hset, hold, KeyedList.lookup_put]
  · split <;> simp [hkey, KeyedList.lookup_put]

theorem nodup_register {container : List (String × Json)} (h : (container.map (·.1)).Nodup)
    (entry : String × Json) : ((register container entry).map (·.1)).Nodup := by
  unfold register
  split
  · exact h
  · exact KeyedList.nodup_keys_put h _ _

variable {registrations first second joint : List (String × Json)}

/-- After registrations every key holds its old value if that counts as set, and the registered one
otherwise. -/
theorem lookup_foldl_register (h : (registrations.map (·.1)).Nodup)
    (container : List (String × Json)) (key : String) :
    (registrations.foldl register container).lookup key =
      firstSet? (container.lookup key) (registrations.lookup key) := by
  induction registrations generalizing container with
  | nil => simp
  | cons entry registrations ih =>
    obtain ⟨name, value⟩ := entry
    obtain ⟨hnew, hrest⟩ := List.nodup_cons.1 h
    rw [List.foldl_cons, ih hrest, lookup_register, List.lookup_cons]
    by_cases hkey : key = name
    · subst hkey
      have habsent : registrations.lookup key = none := by
        refine List.lookup_eq_none_iff.2 fun entry hmem => ?_
        rw [bne_iff_ne]
        rintro rfl
        exact hnew (List.mem_map.2 ⟨entry, hmem, rfl⟩)
      simp [habsent]
    · have hname : (key == name) = false := beq_eq_false_iff_ne.2 hkey
      simp [hkey, hname]

theorem nodup_foldl_register {container : List (String × Json)}
    (h : (container.map (·.1)).Nodup) (registrations : List (String × Json)) :
    ((registrations.foldl register container).map (·.1)).Nodup := by
  induction registrations generalizing container with
  | nil => exact h
  | cons entry registrations ih => exact ih (nodup_register h entry)

/-- Registering one object in another one joins them. -/
theorem joins_foldl_register (hfirst : (first.map (·.1)).Nodup)
    (hsecond : (second.map (·.1)).Nodup) : Joins first second (second.foldl register first) where
  distinct := nodup_foldl_register hfirst second
  lookup := lookup_foldl_register hsecond first

/-- Two rounds of registrations amount to one round with the joint values. -/
theorem alike_merged_merged (hfirst : (first.map (·.1)).Nodup)
    (hsecond : (second.map (·.1)).Nodup) (hjoint : Joins first second joint)
    (existing : Option Json) :
    Alike (merged (some (merged existing first)) second) (merged existing joint) := by
  refine alike_object_of_lookup fun key => ?_
  simp only [Option.map_some, Option.getD_some, merged, members]
  rw [lookup_foldl_register hsecond, lookup_foldl_register hfirst,
    lookup_foldl_register hjoint.distinct, hjoint.lookup, firstSet?_assoc]

/-- A registration whose key is set, or has its value already, changes nothing. -/
theorem register_of_lookup {container : List (String × Json)} {entry : String × Json}
    {old : Option Json} (h : container.lookup entry.1 = firstSet? old (some entry.2)) :
    register container entry = container := by
  unfold register
  split
  · rfl
  · rename_i hset
    apply KeyedList.put_of_lookup
    cases old with
    | none => exact h
    | some value =>
      by_cases hvalue : value.isTruthy = true
      · simp [h, firstSet?, hvalue] at hset
      · simpa [firstSet?, hvalue] using h

/-- A second round of the same registrations changes nothing. -/
theorem merged_merged_self (h : (registrations.map (·.1)).Nodup) (existing : Option Json) :
    merged (some (merged existing registrations)) registrations =
      merged existing registrations := by
  have hdone (entries container : List (String × Json))
      (hentries : ∀ entry ∈ entries, ∃ old,
        container.lookup entry.1 = firstSet? old (some entry.2)) :
      entries.foldl register container = container := by
    induction entries with
    | nil => rfl
    | cons entry entries ih =>
      obtain ⟨old, hold⟩ := hentries entry List.mem_cons_self
      rw [List.foldl_cons, register_of_lookup hold]
      exact ih fun entry hmem => hentries entry (List.mem_cons_of_mem _ hmem)
  refine congrArg Json.object (hdone _ _ fun entry hmem => ?_)
  have hvalue : registrations.lookup entry.1 = some entry.2 := KeyedList.lookup_of_mem h hmem
  exact ⟨_, (lookup_foldl_register h _ entry.1).trans (by rw [hvalue])⟩

/-! ## Places of a category -/

/-- The place that the values registered so far are read from. -/
def registrationPlace (constructor : Bool) (c : Category) : List String :=
  if constructor then ["exports", "options", c.field] else ["options", c.field]

/-- The places that receive the merged values. -/
def registrationPlaces (constructor : Bool) (c : Category) : List (List String) :=
  if constructor then
    [["exports", "extendOptions", c.field], ["exports", "options", c.field]]
  else [["options", c.field]]

theorem registrationPlace_mem (constructor : Bool) (c : Category) :
    registrationPlace constructor c ∈ registrationPlaces constructor c := by
  cases constructor <;> simp [registrationPlace, registrationPlaces]

theorem pairwise_registrationPlaces (constructor : Bool) (c : Category) :
    (registrationPlaces constructor c).Pairwise Apart := by
  cases constructor <;> cases c <;> decide

/-- The places of different categories part. -/
theorem apart_registrationPlaces {c d : Category} (h : c ≠ d) (constructor : Bool) :
    ∀ place ∈ registrationPlaces constructor c, ∀ other ∈ registrationPlaces constructor d,
      Apart place other := by
  cases constructor <;> cases c <;> cases d <;> first | exact absurd rfl h | decide

/-- No merge writes where a definition is marked as a constructor. -/
theorem apart_constructorMark (constructor : Bool) (c : Category) :
    ∀ place ∈ registrationPlaces constructor c, Apart place ["exports", "$function"] := by
  cases constructor <;> cases c <;> decide

/-! ## Merging -/

/-- The values that a merge writes. -/
def mergedValues (definition : Json) (c : Category) (registrations : List (String × Json)) : Json :=
  merged (definition.at? (registrationPlace (isConstructor definition) c)) registrations

/-- A merge writes the merged values at all places of its category. -/
theorem mergeRegistrations_eq (definition : Json) (c : Category)
    (registrations : List (String × Json)) :
    mergeRegistrations definition c registrations =
      definition.setAll (mergedValues definition c registrations)
        (registrationPlaces (isConstructor definition) c) := by
  unfold mergeRegistrations mergedValues
  split <;> rename_i h <;> simp [h, registrationPlace, registrationPlaces, setAll]

/-- A merge does not turn a definition into a constructor, or a constructor into something else. -/
theorem isConstructor_mergeRegistrations (definition : Json) (c : Category)
    (registrations : List (String × Json)) :
    isConstructor (mergeRegistrations definition c registrations) = isConstructor definition := by
  rw [mergeRegistrations_eq]
  unfold isConstructor
  rw [at?_setAll_of_apart (apart_constructorMark _ c)]

/-- Every place of a category holds the merged values after a merge. -/
theorem at?_mergeRegistrations {definition : Json} {c : Category} {place : List String}
    (h : place ∈ registrationPlaces (isConstructor definition) c)
    (registrations : List (String × Json)) :
    (mergeRegistrations definition c registrations).at? place =
      some (mergedValues definition c registrations) := by
  rw [mergeRegistrations_eq]
  exact at?_setAll_of_mem (pairwise_registrationPlaces _ c) h _ _

/-- A second merge of a category goes on with the values of the first one. -/
theorem mergedValues_mergeRegistrations (definition : Json) (c : Category)
    (first second : List (String × Json)) :
    mergedValues (mergeRegistrations definition c first) c second =
      merged (some (mergedValues definition c first)) second := by
  rw [mergedValues, isConstructor_mergeRegistrations,
    at?_mergeRegistrations (registrationPlace_mem _ c)]

/-- A merge of another category does not change what a merge goes on with. -/
theorem mergedValues_of_ne {c d : Category} (h : c ≠ d) (definition : Json)
    (first second : List (String × Json)) :
    mergedValues (mergeRegistrations definition c first) d second =
      mergedValues definition d second := by
  have hplace : ∀ place ∈ registrationPlaces (isConstructor definition) c,
      Apart place (registrationPlace (isConstructor definition) d) := fun place hmem =>
    apart_registrationPlaces h _ place hmem _ (registrationPlace_mem _ d)
  rw [mergedValues, isConstructor_mergeRegistrations, mergeRegistrations_eq,
    at?_setAll_of_apart hplace, mergedValues]

/-- Merging twice is merging once. -/
theorem mergeRegistrations_self (h : (registrations.map (·.1)).Nodup) (definition : Json)
    (c : Category) :
    mergeRegistrations (mergeRegistrations definition c registrations) c registrations =
      mergeRegistrations definition c registrations := by
  have hvalues : mergedValues (mergeRegistrations definition c registrations) c registrations =
      mergedValues definition c registrations := by
    rw [mergedValues_mergeRegistrations]
    exact merged_merged_self h _
  rw [mergeRegistrations_eq (mergeRegistrations _ _ _), hvalues, isConstructor_mergeRegistrations]
  exact setAll_of_at? fun place hmem => at?_mergeRegistrations hmem registrations

/-- Two merges of a category amount to one merge of the joint values. -/
theorem alike_mergeRegistrations_joint (hfirst : (first.map (·.1)).Nodup)
    (hsecond : (second.map (·.1)).Nodup) (hjoint : Joins first second joint) (definition : Json)
    (c : Category) :
    Alike (mergeRegistrations (mergeRegistrations definition c first) c second)
      (mergeRegistrations definition c joint) := by
  have hvalues : Alike (mergedValues (mergeRegistrations definition c first) c second)
      (mergedValues definition c joint) := by
    rw [mergedValues_mergeRegistrations]
    exact alike_merged_merged hfirst hsecond hjoint _
  rw [mergeRegistrations_eq (mergeRegistrations _ _ _), isConstructor_mergeRegistrations,
    mergeRegistrations_eq definition, mergeRegistrations_eq definition]
  rw [mergeRegistrations_eq definition c first] at hvalues
  exact (alike_setAll_setAll (pairwise_registrationPlaces _ c) _ _ _).trans
    ((Alike.refl definition).setAll hvalues _)

/-- Merges of different categories commute. -/
theorem alike_mergeRegistrations_comm {c d : Category} (h : c ≠ d) (definition : Json)
    (first second : List (String × Json)) :
    Alike (mergeRegistrations (mergeRegistrations definition c first) d second)
      (mergeRegistrations (mergeRegistrations definition d second) c first) := by
  rw [mergeRegistrations_eq (mergeRegistrations definition c first),
    mergeRegistrations_eq (mergeRegistrations definition d second),
    mergedValues_of_ne h, mergedValues_of_ne (Ne.symm h), isConstructor_mergeRegistrations,
    isConstructor_mergeRegistrations, mergeRegistrations_eq, mergeRegistrations_eq]
  exact alike_setAll_comm (apart_registrationPlaces h _) _ _ _

/-- On any definition, merging registrations twice is merging them once, merging the registrations
of a category one after the other is, up to the order of members, merging their joint values, and
merges of different categories commute up to the order of members. -/
theorem mergeRegistrations_laws (definition : Json) (c : Category)
    (first second : List (String × Json)) (hfirst : (first.map (·.1)).Nodup)
    (hsecond : (second.map (·.1)).Nodup) :
    mergeRegistrations (mergeRegistrations definition c first) c first =
        mergeRegistrations definition c first ∧
      (∃ joint, Joins first second joint) ∧
      (∀ joint, Joins first second joint →
        Alike (mergeRegistrations (mergeRegistrations definition c first) c second)
          (mergeRegistrations definition c joint)) ∧
      ∀ d, c ≠ d →
        Alike (mergeRegistrations (mergeRegistrations definition c first) d second)
          (mergeRegistrations (mergeRegistrations definition d second) c first) :=
  ⟨mergeRegistrations_self hfirst definition c, ⟨_, joins_foldl_register hfirst hsecond⟩,
    fun _ hjoint => alike_mergeRegistrations_joint hfirst hsecond hjoint definition c,
    fun _ h => alike_mergeRegistrations_comm h definition first second⟩

/-- A constructor whose options are a number: a registered value that does not count as set gives
way to the next one. -/
theorem mergeRegistrations_laws_malformed :
    Alike
        (mergeRegistrations
          (mergeRegistrations
            (.object [("exports", .object [("$function", .bool true), ("options", .number "1")])])
            .tag [("VBtn", .null), ("VCard", .string "card")])
          .tag [("VBtn", .string "button"), ("VCard", .string "other")])
        (mergeRegistrations
          (.object [("exports", .object [("$function", .bool true), ("options", .number "1")])])
          .tag [("VBtn", .string "button"), ("VCard", .string "card")]) ∧
      Alike
        (mergeRegistrations
          (mergeRegistrations
            (.object [("exports", .object [("$function", .bool true), ("options", .number "1")])])
            .tag [("VBtn", .null), ("VCard", .string "card")])
          .icon [("VBtn", .string "button"), ("VCard", .string "other")])
        (mergeRegistrations
          (mergeRegistrations
            (.object [("exports", .object [("$function", .bool true), ("options", .number "1")])])
            .icon [("VBtn", .string "button"), ("VCard", .string "other")])
          .tag [("VBtn", .null), ("VCard", .string "card")]) := by
  obtain ⟨-, -, hjoint, hcomm⟩ := mergeRegistrations_laws
    (.object [("exports", .object [("$function", .bool true), ("options", .number "1")])]) .tag
    [("VBtn", .null), ("VCard", .string "card")]
    [("VBtn", .string "button"), ("VCard", .string "other")] (by decide) (by decide)
  exact ⟨hjoint _ (joins_foldl_register (by decide) (by decide)), hcomm .icon (by decide)⟩

end TemplateImports
