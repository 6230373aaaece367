import TemplateImports.Matching.Library
import TemplateImports.Matching.Rule

/-!
# Settings

Everything that a project can choose: rules for each category, what is known about the component
library, where the helpers are imported from, and the texts that frame the generated code.

Main results:

- Structure `Settings` holds the choices, with their defaults.
- Definition `Settings.rules` lists the rules of a category.
-/

namespace TemplateImports

/-- The rules of a category, given as a single rule or as a list. -/
inductive Rules where
  | one (rule : Rule)
  | many (rules : List Rule)
deriving Repr, DecidableEq

/-- The rules in order. -/
def Rules.toList : Rules → List Rule
  | .one rule => [rule]
  | .many rules => rules

/-- The paths that the helpers are imported from. -/
structure HelperPaths where
  components : String := "vuetify-loader/lib/runtime/installComponents"
  directives : String := "vuetify-loader/lib/runtime/installDirectives"
  icons : String := "vuetify-loader/lib/runtime/installIcons"
deriving Repr, DecidableEq

/-- The path of the helper of a category. -/
def HelperPaths.path (paths : HelperPaths) : Category → String
  | .tag => paths.components
  | .directive => paths.directives
  | .icon => paths.icons

/-- The choices of a project. -/
structure Settings where
  tagRules : Rules := .many []
  directiveRules : Rules := .many []
  iconRules : Rules := .many []
  library : Library := {}
  helperPaths : HelperPaths := {}
  /-- The text that generated code is put in front of. -/
  sentinel : String := "/* hot reload */"
  /-- The line that opens generated code. -/
  marker : String := "/* vuetify-loader */"
deriving Repr, DecidableEq

/-- The rules of a category in order. -/
def Settings.rules (settings : Settings) : Category → List Rule
  | .tag => settings.tagRules.toList
  | .directive => settings.directiveRules.toList
  | .icon => settings.iconRules.toList

end TemplateImports
