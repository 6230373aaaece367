import TemplateImports.Json.Value
import TemplateImports.KeyedList
import TemplateImports.Matching.Category

/-!
# Merging registrations

What a helper does to the definition of a component, on a data value that stands for it.  A plain
definition has its options at the top; a constructor has two places for them, and both receive the
merged values.  What is registered already is kept, unless it does not count as set.

Main results:

- Definition `mergeRegistrations` adds registrations to a definition.
- Theorem `at?_setAt_self` says that a written place holds what was written.
-/

namespace TemplateImports

/-! ## Places in values -/

namespace Json

/-- The value at a place inside objects. -/
def at? (v : Json) : List String → Option Json
  | [] => some v
  | name :: names => (v.member? name).bind fun inner => inner.at? names

/-- Writes a value at a place.  Anything else than an object on the way is replaced by an object. -/
def setAt (v : Json) (value : Json) : List String → Json
  | [] => value
  | name :: names =>
    let inner := (v.member? name).getD (.object [])
    .object (KeyedList.put name (inner.setAt value names) v.members)

/-- A written place holds what was written. -/
theorem at?_setAt_self (v value : Json) (place : List String) :
    (v.setAt value place).at? place = some value := by
  induction place generalizing v with
  | nil => rfl
  | cons name names ih => simp [setAt, at?, member?, members, KeyedList.lookup_put, ih]

end Json

/-! ## Merging -/

/-- Adds a registration to a container, unless its key is set. -/
def register (container : List (String × Json)) (entry : String × Json) : List (String × Json) :=
  if ((container.lookup entry.1).map Json.isTruthy).getD false then container
  else KeyedList.put entry.1 entry.2 container

/-- The object of a container with registrations; any other value counts as an empty container. -/
def merged (existing : Option Json) (registrations : List (String × Json)) : Json :=
  .object (registrations.foldl register ((existing.map Json.members).getD []))

/-- Whether a definition is a constructor. -/
def isConstructor (definition : Json) : Bool :=
  match definition.at? ["exports", "$function"] with
  | some (.bool value) => value
  | _ => false

/-- Adds the registrations of a category to a definition. -/
def mergeRegistrations (definition : Json) (c : Category) (registrations : List (String × Json)) :
    Json :=
  if isConstructor definition then
    let container := merged (definition.at? ["exports", "options", c.field]) registrations
    (definition.setAt container ["exports", "extendOptions", c.field]).setAt container
      ["exports", "options", c.field]
  else
    definition.setAt (merged (definition.at? ["options", c.field]) registrations)
      ["options", c.field]

end TemplateImports
