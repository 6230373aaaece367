import Mathlib.Data.List.Infix
import TemplateImports.Proofs.Json.Places

/-!
# Paths through objects and lists

A path leads into a data value through members of objects and items of lists.  The places that are
written at are the paths through members only, and a write is not seen along any other path unless
that path leads over the written place or through a value that had to give way to an object.

Main results:

- Definition `Json.valueAt?` is the value at the end of a path.
- Definition `Spares` says which paths a write at a place spares.
- Theorem `valueAt?_setAll` says that writes are not seen along the paths that they all spare.
-/

namespace TemplateImports.Json

/-! ## Paths -/

/-- A step into a value. -/
inductive Step where
  | member (name : String)
  | item (index : Nat)
deriving Repr, DecidableEq

/-- The items of a list; any other value has none. -/
def items : Json → List Json
  | .array items => items
  | _ => []

/-- The value behind a step. -/
def step? (v : Json) : Step → Option Json
  | .member name => v.member? name
  | .item index => v.items[index]?

/-- The value at the end of a path. -/
def valueAt? (v : Json) : List Step → Option Json
  | [] => some v
  | step :: path => (v.step? step).bind (·.valueAt? path)

/-- The path to a place. -/
def memberPath (place : List String) : List Step :=
  place.map .member

/-- Whether a value is an object. -/
def isObject : Json → Bool
  | .object _ => true
  | _ => false

variable {v : Json} {place other : List String} {path : List Step}

theorem exists_members_of_isObject (h : v.isObject = true) : ∃ members, v = .object members := by
  cases v with
  | object members => exact ⟨members, rfl⟩
  | _ => cases h

/-- Only the empty path leads to something in an empty object. -/
theorem valueAt?_empty (step : Step) (path : List Step) :
    (object []).valueAt? (step :: path) = none := by
  cases step <;> rfl

/-! ## Paths that a write spares -/

/-- A write at a place spares a path: the path does not end on the way to the place or at it, and it
leads neither over the place nor over a value on the way to it that is no object. -/
structure Spares (v : Json) (place : List String) (path : List Step) : Prop where
  not_above : ¬ path <+: memberPath place
  not_below : ¬ memberPath place <+: path
  not_through : ∀ above value, above <+: place → above ≠ place → v.at? above = some value →
    value.isObject = false → ¬ memberPath above <+: path

/-- Whether a path is spared can be checked on the beginnings of the place. -/
theorem spares_iff :
    Spares v place path ↔
      ¬ path <+: memberPath place ∧ ¬ memberPath place <+: path ∧
        ∀ above ∈ place.inits, above ≠ place → memberPath above <+: path →
          (v.at? above).all isObject = true := by
  constructor
  · intro h
    refine ⟨h.not_above, h.not_below, fun above habove hne hthrough => ?_⟩
    rw [Option.all_eq_true]
    intro value hvalue
    by_contra hobject
    exact h.not_through above value ((List.mem_inits _ _).1 habove) hne hvalue
      (Bool.eq_false_iff.2 hobject) hthrough
  · rintro ⟨habove, hbelow, hobjects⟩
    refine ⟨habove, hbelow, fun above value hway hne hvalue hobject hthrough => ?_⟩
    have hall := hobjects above ((List.mem_inits _ _).2 hway) hne hthrough
    rw [hvalue] at hall
    exact absurd hall (Bool.eq_false_iff.1 hobject)

instance (v : Json) (place : List String) (path : List Step) : Decidable (Spares v place path) :=
  decidable_of_iff _ spares_iff.symm

/-- What a path is spared behind a member is spared behind the member's value. -/
theorem Spares.member {members : List (String × Json)} {name : String} {names : List String}
    (h : Spares (.object members) (name :: names) (.member name :: path)) :
    Spares ((members.lookup name).getD (.object [])) names path where
  not_above habove := h.not_above (List.cons_prefix_cons.2 ⟨rfl, habove⟩)
  not_below hbelow := h.not_below (List.cons_prefix_cons.2 ⟨rfl, hbelow⟩)
  not_through above value habove hne hvalue hobject hthrough := by
    cases hinner : members.lookup name with
    | none =>
      -- A missing member is taken for an empty object, and nothing stands below that.
      rw [hinner, Option.getD_none] at hvalue
      cases above with
      | nil =>
        cases hvalue
        cases hobject
      | cons first rest => simp [at?, member?, Json.members] at hvalue
    | some inner =>
      rw [hinner, Option.getD_some] at hvalue
      refine h.not_through (name :: above) value (List.cons_prefix_cons.2 ⟨rfl, habove⟩)
        (fun heq => hne (List.cons.inj heq).2) ?_ hobject (List.cons_prefix_cons.2 ⟨rfl, hthrough⟩)
      rw [at?, member?, Json.members, hinner]
      exact hvalue

/-- A write is not seen along a path that it spares. -/
theorem valueAt?_setAt (h : Spares v place path) (value : Json) :
    (v.setAt value place).valueAt? path = v.valueAt? path := by
  induction place generalizing v path with
  | nil => exact absurd List.nil_prefix h.not_below
  | cons name names ih =>
    -- The value itself is an object, as every path leads over it.
    have hobject : v.isObject = true := by
      cases hv : v.isObject with
      | true => rfl
      | false =>
        exact absurd List.nil_prefix (h.not_through [] v List.nil_prefix (by simp) rfl hv)
    obtain ⟨members, rfl⟩ := exists_members_of_isObject hobject
    cases path with
    | nil => exact absurd List.nil_prefix h.not_above
    | cons step path =>
      cases step with
      | item index => rfl
      | member other =>
        simp only [valueAt?, step?, member?_setAt]
        by_cases hname : other = name
        · subst hname
          have hinner := ih h.member
          simp only [beq_self_eq_true, if_true, Option.bind_some]
          change (((members.lookup other).getD (.object [])).setAt value names).valueAt? path =
            (members.lookup other).bind (·.valueAt? path)
          rw [hinner]
          cases members.lookup other with
          | some inner => rfl
          | none =>
            cases path with
            | nil => exact absurd (List.cons_prefix_cons.2 ⟨rfl, List.nil_prefix⟩) h.not_above
            | cons step path => exact valueAt?_empty step path
        · simp [hname]

/-- What a write spares, a second write still spares after the first one at a place that parts from
its own. -/
theorem Spares.setAt (h : Spares v other path) (hapart : Apart place other) (value : Json) :
    Spares (v.setAt value place) other path where
  not_above := h.not_above
  not_below := h.not_below
  not_through above found habove hne hfound hobject := by
    have hnot : ¬ place <+: above := fun hplace => hapart.1 (hplace.trans habove)
    by_cases hway : above <+: place
    · -- On the way to the first place stand objects now.
      obtain ⟨rest, rfl⟩ := hway
      cases rest with
      | nil => exact absurd (by simp) hnot
      | cons name names =>
        obtain ⟨members, hmembers⟩ := at?_setAt_of_prefix v value above name names
        rw [hmembers] at hfound
        cases hfound
        cases hobject
    · rw [at?_setAt_of_apart ⟨hnot, hway⟩] at hfound
      exact h.not_through above found habove hne hfound hobject

/-- Writes at parting places are not seen along a path that all of them spare. -/
theorem valueAt?_setAll {places : List (List String)} (hplaces : places.Pairwise Apart)
    (h : ∀ place ∈ places, Spares v place path) (value : Json) :
    (v.setAll value places).valueAt? path = v.valueAt? path := by
  induction places generalizing v with
  | nil => rfl
  | cons place places ih =>
    obtain ⟨hplace, hplaces⟩ := List.pairwise_cons.1 hplaces
    have hrest : ∀ other ∈ places, Spares (v.setAt value place) other path := fun other hmem =>
      (h other (List.mem_cons_of_mem _ hmem)).setAt (hplace other hmem) value
    calc ((v.setAt value place).setAll value places).valueAt? path
        = (v.setAt value place).valueAt? path := ih hplaces hrest
      _ = v.valueAt? path := valueAt?_setAt (h place List.mem_cons_self) value

end TemplateImports.Json
