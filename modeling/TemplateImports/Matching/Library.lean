import TemplateImports.Matching.Catalog
import TemplateImports.Matching.Matcher

/-!
# The component library

The built-in matchers, which stand last in every chain.  Tags are recognized by a leading text and
by a catalog, directives by a catalog, and icons by a leading text.

Main results:

- Structure `Library` holds what the built-in matchers know.
- Definition `Library.matcher` is the built-in matcher of a category.
- Theorem `matcher_key` says that a built-in matcher registers a name in its registered spelling.
-/

namespace TemplateImports

/-- What is known about the component library. -/
structure Library where
  tagPrefix : String := "v-"
  componentsModule : String := "vuetify/lib"
  directivesModule : String := "vuetify/lib/directives"
  iconPrefix : String := "mdi-"
  iconsModule : String := "@mdi/js"
  /-- Whether a tag must be in the catalog. -/
  checkComponents : Bool := true
  /-- The catalog of components; the usual one if there is none. -/
  components : Option (List String) := none
  /-- The catalog of directives; the usual one if there is none. -/
  directives : Option (List String) := none
deriving Repr, DecidableEq

namespace Library

/-- The components that a tag must be one of, if that is checked. -/
def knownComponents (library : Library) : Option (List String) :=
  if library.checkComponents then some (library.components.getD Catalog.components) else none

/-- The directives that are known. -/
def knownDirectives (library : Library) : List String :=
  library.directives.getD Catalog.directives

/-- The named import of a registered spelling from a module. -/
def namedImport (name moduleName : String) : Import :=
  ⟨name, "import \x7b " ++ name ++ " \x7d from '" ++ moduleName ++ "'"⟩

/-- Whether a tag is one of the library. -/
def ownsTag (library : Library) (u : NameUse) : Bool :=
  library.tagPrefix.toList.isPrefixOf u.kebab.toList &&
    (library.knownComponents.map (·.contains u.camel)).getD true

/-- Whether a directive is one of the library. -/
def ownsDirective (library : Library) (u : NameUse) : Bool :=
  library.knownDirectives.contains u.camel

/-- Whether an icon is one of the library: something must follow the leading text. -/
def ownsIcon (library : Library) (u : NameUse) : Bool :=
  library.iconPrefix.toList.isPrefixOf u.kebab.toList && u.kebab != library.iconPrefix

/-- The built-in matcher of a category. -/
def matcher (library : Library) : Category → Matcher
  | .tag, u =>
    if library.ownsTag u then some (namedImport u.camel library.componentsModule) else none
  | .directive, u =>
    if library.ownsDirective u then some (namedImport u.camel library.directivesModule) else none
  | .icon, u =>
    if library.ownsIcon u then some (namedImport u.camel library.iconsModule) else none

/-- A built-in matcher registers a name in its registered spelling. -/
theorem matcher_key {library : Library} {c : Category} {u : NameUse} {answer : Import}
    (h : library.matcher c u = some answer) : answer.key = u.camel := by
  cases c <;> simp only [matcher, Option.ite_none_right_eq_some, Option.some.injEq] at h <;>
    simp [← h.2, namedImport]

end Library

end TemplateImports
