import TemplateImports.Casing

/-!
# Categories of names

A template uses names of three categories: the tags of its elements, the directives on them, and
the icons that its attribute values ask for.  Each category has its own matchers and its own
registration.

Main results:

- Definition `Category.all` lists the categories in the order in which they are registered.
- Theorem `mem_all` says that no category is missing.
-/

namespace TemplateImports

/-- A category of names. -/
inductive Category where
  | tag
  | directive
  | icon
deriving Repr, DecidableEq

namespace Category

/-- The categories in the order of their registration. -/
def all : List Category :=
  [.tag, .directive, .icon]

/-- Every category is in the list. -/
theorem mem_all (c : Category) : c ∈ all := by
  cases c <;> decide

/-- The function that registers the names of a category. -/
def helper : Category → String
  | .tag => "installComponents"
  | .directive => "installDirectives"
  | .icon => "installIcons"

/-- The field of a component that the names of a category are registered in. -/
def field : Category → String
  | .tag => "components"
  | .directive => "directives"
  | .icon => "icons"

/-- The spelling under which a name is registered: icons start in lower case, and all other names in
upper case. -/
def camelName : Category → String → String
  | .tag, name => Casing.pascalize name
  | .directive, name => Casing.pascalize name
  | .icon, name => Casing.camelize name

end Category

end TemplateImports
