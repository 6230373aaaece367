import TemplateImports.Loading.Failure

/-!
# Tracked results

A result together with the files that it depends on.  A failure keeps the dependencies that were met
before it.

Main results:

- Structure `Tracked` is a result with its dependencies.
- Definition `Tracked.bind` runs one step after another one.
- Theorems `dependencies_bind_ok` and `dependencies_bind_error` say what a sequence depends on.
-/

namespace TemplateImports

/-- A result, with the files that it depends on in the order in which they were met. -/
structure Tracked (α : Type) where
  dependencies : List Path
  outcome : Except Failure α

namespace Tracked

/-- A result that depends on nothing. -/
def pure {α : Type} (value : α) : Tracked α :=
  ⟨[], .ok value⟩

/-- A result or a failure that depends on nothing. -/
def ofExcept {α : Type} (outcome : Except Failure α) : Tracked α :=
  ⟨[], outcome⟩

/-- Records a dependency. -/
def depend (p : Path) : Tracked Unit :=
  ⟨[p], .ok ()⟩

/-- Runs a step on the result of another one. -/
def bind {α β : Type} (first : Tracked α) (next : α → Tracked β) : Tracked β :=
  match first.outcome with
  | .ok value =>
    let second := next value
    ⟨first.dependencies ++ second.dependencies, second.outcome⟩
  | .error failure => ⟨first.dependencies, .error failure⟩

instance : Monad Tracked where
  pure := pure
  bind := bind

/-- The dependencies of a step come behind those of the steps before it. -/
theorem dependencies_bind_ok {α β : Type} {first : Tracked α} {value : α}
    (h : first.outcome = .ok value) (next : α → Tracked β) :
    (first.bind next).dependencies = first.dependencies ++ (next value).dependencies := by
  simp [bind, h]

/-- A step behind a failure adds no dependencies. -/
theorem dependencies_bind_error {α β : Type} {first : Tracked α} {failure : Failure}
    (h : first.outcome = .error failure) (next : α → Tracked β) :
    (first.bind next).dependencies = first.dependencies := by
  simp [bind, h]

/-- What follows a success decides the outcome. -/
theorem outcome_bind_ok {α β : Type} {first : Tracked α} {value : α}
    (h : first.outcome = .ok value) (next : α → Tracked β) :
    (first.bind next).outcome = (next value).outcome := by
  simp [bind, h]

end Tracked

end TemplateImports
