import TemplateImports.Proofs.Json.Paths
import TemplateImports.Proofs.Registration.MergeLaws

/-!
# What a merge changes

A merge adds what is registered to the values that a definition holds already, and touches nothing
else: a value that counts as set stays, and no path is affected that keeps clear of the written
places and of what had to give way to them.

Main results:

- Definition `entriesAt` is the object that a place holds.
- Structure `Registers` says what an object holds after registrations.
- Theorem `mergeRegistrations_only_registers` says what a merge changes and what it leaves as it
  was.
-/

namespace TemplateImports

open Json

/-! ## Entries after registrations -/

theorem isSome_firstSet? (first second : Option Json) :
    (firstSet? first second).isSome = (first.isSome || second.isSome) := by
  cases first with
  | none => simp
  | some value =>
    cases second with
    | none => simp
    | some other => by_cases h : value.isTruthy = true <;> simp [firstSet?, h]

theorem firstSet?_of_isTruthy {value : Json} (h : value.isTruthy = true) (second : Option Json) :
    firstSet? (some value) second = some value := by
  simp [firstSet?, h]

theorem firstSet?_of_not_isTruthy {first : Option Json}
    (h : ∀ value ∈ first, value.isTruthy = false) (value : Json) :
    firstSet? first (some value) = some value := by
  cases first with
  | none => rfl
  | some old => simp [firstSet?, h old rfl]

/-- Entries hold what is registered beside old entries: the keys are those of both, an old value
that counts as set is kept, every other registered key holds the registered value, and every other
old key its old value. -/
structure Registers (old registrations entries : List (String × Json)) : Prop where
  keys : ∀ key, key ∈ entries.map (·.1) ↔ key ∈ old.map (·.1) ∨ key ∈ registrations.map (·.1)
  keeps_set : ∀ key value, old.lookup key = some value → value.isTruthy = true →
    entries.lookup key = some value
  registers : ∀ key value, registrations.lookup key = some value →
    (∀ before ∈ old.lookup key, before.isTruthy = false) → entries.lookup key = some value
  keeps_other : ∀ key, key ∉ registrations.map (·.1) → entries.lookup key = old.lookup key

variable {old registrations : List (String × Json)}

theorem mem_keys_iff {entries : List (String × Json)} {key : String} :
    key ∈ entries.map (·.1) ↔ (entries.lookup key).isSome = true := by
  rw [List.mem_map, List.lookup_isSome_iff]
  exact exists_congr fun entry => and_congr_right fun _ => by rw [beq_iff_eq, eq_comm]

theorem registers_foldl_register (h : (registrations.map (·.1)).Nodup)
    (old : List (String × Json)) :
    Registers old registrations (registrations.foldl register old) where
  keys key := by
    simp only [mem_keys_iff, lookup_foldl_register h, isSome_firstSet?, Bool.or_eq_true]
  keeps_set key value hold hset := by
    rw [lookup_foldl_register h, hold, firstSet?_of_isTruthy hset]
  registers key value hnew hold := by
    rw [lookup_foldl_register h, hnew, firstSet?_of_not_isTruthy hold]
  keeps_other key hkey := by
    have habsent : registrations.lookup key = none := by
      rwa [mem_keys_iff, Option.not_isSome_iff_eq_none] at hkey
    rw [lookup_foldl_register h, habsent, firstSet?_none_right]

/-! ## Changes of a definition -/

/-- The object that a place holds; any other value, or none at all, counts as an empty one. -/
def entriesAt (definition : Json) (place : List String) : List (String × Json) :=
  ((definition.at? place).map Json.members).getD []

/-- After a merge the place of the category holds the old entries with the registered ones, a
constructor holds the same entries among the options that it extends, and nothing is changed along
any path that the writes to these places spare, the mark of a constructor included. -/
theorem mergeRegistrations_only_registers (definition : Json) (c : Category)
    (registrations : List (String × Json)) (h : (registrations.map (·.1)).Nodup) :
    ∃ entries,
      (mergeRegistrations definition c registrations).at?
          (registrationPlace (isConstructor definition) c) = some (.object entries) ∧
      Registers (entriesAt definition (registrationPlace (isConstructor definition) c))
        registrations entries ∧
      (isConstructor definition = true →
        (mergeRegistrations definition c registrations).at? ["exports", "extendOptions", c.field] =
          some (.object entries)) ∧
      (∀ path,
        (∀ place ∈ registrationPlaces (isConstructor definition) c,
          Spares definition place path) →
        (mergeRegistrations definition c registrations).valueAt? path = definition.valueAt? path) ∧
      (mergeRegistrations definition c registrations).at? ["exports", "$function"] =
        definition.at? ["exports", "$function"] := by
  refine ⟨_, at?_mergeRegistrations (registrationPlace_mem _ c) registrations,
    registers_foldl_register h _, ?_, ?_, ?_⟩
  · intro hconstructor
    exact at?_mergeRegistrations (by simp [hconstructor, registrationPlaces]) registrations
  · intro path hspared
    rw [mergeRegistrations_eq]
    exact valueAt?_setAll (pairwise_registrationPlaces _ c) hspared _
  · rw [mergeRegistrations_eq]
    exact at?_setAll_of_apart (apart_constructorMark _ c) _ _

/-- A constructor that extends a text, with registered components and a list beside them. -/
def textConstructor : Json :=
  .object [("exports", .object [("$function", .bool true), ("extendOptions", .string "x"),
    ("options", .object [("components", .object [("VBtn", .string "own"), ("VApp", .null)]),
      ("mixins", .array [.string "a"])])])]

/-- A merge into a constructor that extends a text: the component that counts as set is kept, the
other one is replaced, and the list is as it was. -/
theorem mergeRegistrations_only_registers_beside_list :
    ∃ entries,
      (mergeRegistrations textConstructor .tag
          [("VBtn", .string "button"), ("VApp", .string "app")]).at?
        ["exports", "extendOptions", "components"] = some (.object entries) ∧
      entries.lookup "VBtn" = some (.string "own") ∧
      entries.lookup "VApp" = some (.string "app") ∧
      (mergeRegistrations textConstructor .tag
          [("VBtn", .string "button"), ("VApp", .string "app")]).valueAt?
        [.member "exports", .member "options", .member "mixins", .item 0] = some (.string "a") := by
  obtain ⟨entries, -, hregisters, hextended, hspared, -⟩ := mergeRegistrations_only_registers
    textConstructor .tag [("VBtn", .string "button"), ("VApp", .string "app")] (by decide)
  refine ⟨entries, hextended rfl, hregisters.keeps_set "VBtn" _ rfl rfl,
    hregisters.registers "VApp" _ rfl ?_, ?_⟩
  · rintro before hbefore
    cases hbefore
    rfl
  · rw [hspared _ (by decide)]
    rfl

end TemplateImports
