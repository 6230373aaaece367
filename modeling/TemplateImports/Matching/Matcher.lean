import TemplateImports.Component.Descriptor
import TemplateImports.Matching.Category

/-!
# Matchers

A matcher answers a used name with the import that provides it, or declines.  Matchers stand in a
chain, and the first one that answers wins.

Main results:

- Definition `Chain.answer?` is the first answer of a chain.
- Definition `Chain.insertAt` puts a matcher into a chain.
-/

namespace TemplateImports

/-- An import: the key that is registered, and the statement that provides it. -/
structure Import where
  key : String
  statement : String
deriving Repr, DecidableEq

/-- A name as a template uses it, with the component that the template belongs to. -/
structure NameUse where
  category : Category
  name : String
  /-- The path of the component. -/
  path : String
  component : Component

namespace NameUse

/-- The kebab-case spelling of a used name. -/
def kebab (u : NameUse) : String :=
  Casing.hyphenate u.name

/-- The spelling under which a used name is registered. -/
def camel (u : NameUse) : String :=
  u.category.camelName u.name

end NameUse

/-- A matcher answers a used name with an import, or declines. -/
abbrev Matcher := NameUse → Option Import

/-- Matchers in the order in which they are tried. -/
abbrev Chain := List Matcher

namespace Chain

/-- The answer of the first matcher that has one. -/
def answer? (chain : Chain) (u : NameUse) : Option Import :=
  chain.findSome? fun m => m u

/-- Puts a matcher at a place of a chain, or at its end if the chain is shorter. -/
def insertAt (chain : Chain) (place : Nat) (m : Matcher) : Chain :=
  chain.take place ++ m :: chain.drop place

@[simp] theorem answer?_nil (u : NameUse) : answer? [] u = none := rfl

@[simp] theorem answer?_cons (m : Matcher) (chain : Chain) (u : NameUse) :
    answer? (m :: chain) u = (m u).or (answer? chain u) := by
  cases h : m u <;> simp [answer?, List.findSome?, h]

end Chain

end TemplateImports
