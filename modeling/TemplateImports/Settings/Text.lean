import TemplateImports.Json.Text
import TemplateImports.Settings

/-!
# The text of settings

Reading settings from a data text, and writing them.  A record is written as an object, whose
members may stand in any order, or as the list of its fields; members that are not known have no
meaning, and fields that are missing have their defaults.

Main results:

- Definition `fields?` finds the fields of a record in a value.
- Definitions `Settings.parse` and `Settings.print` read and write settings.
-/

namespace TemplateImports

/-! ## Records -/

/-- The fields of a record in a value, in the order of their names.  An object may not hold a field
twice, and a list may not be longer than the record. -/
def fields? (names : List String) : Json → Option (List (Option Json))
  | .object members =>
    let known := (members.map (·.1)).filter names.contains
    if known.eraseDups.length == known.length then
      some (names.map fun name => members.lookup name)
    else none
  | .array items =>
    if items.length ≤ names.length then
      some (items.map some ++ List.replicate (names.length - items.length) none)
    else none
  | _ => none

/-- Reads a field, or takes its default if it is missing. -/
def fieldOr {α : Type} (read? : Json → Option α) (default : α) : Option Json → Option α
  | some v => read? v
  | none => some default

/-- A text. -/
def text? : Json → Option String
  | .string text => some text
  | _ => none

/-- A truth value. -/
def bool? : Json → Option Bool
  | .bool value => some value
  | _ => none

/-- A list of texts, or none. -/
def texts? : Json → Option (Option (List String))
  | .null => some none
  | .array items => (items.mapM text?).map some
  | _ => none

/-! ## Reading -/

namespace Rule

/-- The fields of a rule. -/
def fieldNames : List String :=
  ["pattern", "key", "import"]

/-- The rule that a value stands for. -/
def ofJson? (v : Json) : Option Rule :=
  match fields? fieldNames v with
  | some [some pattern, key, some statement] => do
    let pattern ← text? pattern
    let key ← fieldOr text? "\x7bcamel\x7d" key
    let statement ← text? statement
    return ⟨pattern, key, statement⟩
  | _ => none

end Rule

namespace Rules

/-- The number of lists and objects that may be nested in the value of rules. -/
def maxDepth : Nat :=
  126

/-- The rules that a value stands for: one rule if it can be read as one, or else a list. -/
def ofJson? (v : Json) : Option Rules :=
  if v.isSound maxDepth then
    match Rule.ofJson? v with
    | some rule => some (.one rule)
    | none =>
      match v with
      | .array items => (items.mapM Rule.ofJson?).map .many
      | _ => none
  else none

end Rules

namespace Library

/-- The fields of what is known about the library. -/
def fieldNames : List String :=
  ["tagPrefix", "componentsModule", "directivesModule", "iconPrefix", "iconsModule",
   "checkComponents", "components", "directives"]

/-- What a value says about the library. -/
def ofJson? (v : Json) : Option Library :=
  match fields? fieldNames v with
  | some [tagPrefix, componentsModule, directivesModule, iconPrefix, iconsModule, checkComponents,
      components, directives] => do
    let default : Library := {}
    return {
      tagPrefix := ← fieldOr text? default.tagPrefix tagPrefix
      componentsModule := ← fieldOr text? default.componentsModule componentsModule
      directivesModule := ← fieldOr text? default.directivesModule directivesModule
      iconPrefix := ← fieldOr text? default.iconPrefix iconPrefix
      iconsModule := ← fieldOr text? default.iconsModule iconsModule
      checkComponents := ← fieldOr bool? default.checkComponents checkComponents
      components := ← fieldOr texts? default.components components
      directives := ← fieldOr texts? default.directives directives }
  | _ => none

end Library

namespace HelperPaths

/-- The fields of the paths of helpers. -/
def fieldNames : List String :=
  ["installComponents", "installDirectives", "installIcons"]

/-- The paths that a value stands for. -/
def ofJson? (v : Json) : Option HelperPaths :=
  match fields? fieldNames v with
  | some [components, directives, icons] => do
    let default : HelperPaths := {}
    return {
      components := ← fieldOr text? default.components components
      directives := ← fieldOr text? default.directives directives
      icons := ← fieldOr text? default.icons icons }
  | _ => none

end HelperPaths

namespace Settings

/-- The fields of settings. -/
def fieldNames : List String :=
  ["match", "attrsMatch", "iconsMatch", "library", "runtime", "sentinel", "marker"]

/-- The settings that a value stands for. -/
def ofJson? (v : Json) : Option Settings :=
  match fields? fieldNames v with
  | some [tagRules, directiveRules, iconRules, library, helperPaths, sentinel, marker] => do
    let default : Settings := {}
    return {
      tagRules := ← fieldOr Rules.ofJson? default.tagRules tagRules
      directiveRules := ← fieldOr Rules.ofJson? default.directiveRules directiveRules
      iconRules := ← fieldOr Rules.ofJson? default.iconRules iconRules
      library := ← fieldOr Library.ofJson? default.library library
      helperPaths := ← fieldOr HelperPaths.ofJson? default.helperPaths helperPaths
      sentinel := ← fieldOr text? default.sentinel sentinel
      marker := ← fieldOr text? default.marker marker }
  | _ => none

/-- The settings that a text stands for. -/
def parse (text : String) : Option Settings :=
  (Json.parse text).bind ofJson?

end Settings

/-! ## Writing -/

/-- The value of a rule. -/
def Rule.toJson (rule : Rule) : Json :=
  .object
    [("pattern", .string rule.pattern), ("key", .string rule.key),
     ("import", .string rule.statement)]

/-- The value of rules: a single rule stays an object. -/
def Rules.toJson : Rules → Json
  | .one rule => rule.toJson
  | .many rules => .array (rules.map Rule.toJson)

/-- The value of a catalog. -/
def catalogToJson : Option (List String) → Json
  | some names => .array (names.map .string)
  | none => .null

/-- The value of what is known about the library. -/
def Library.toJson (library : Library) : Json :=
  .object
    [("tagPrefix", .string library.tagPrefix),
     ("componentsModule", .string library.componentsModule),
     ("directivesModule", .string library.directivesModule),
     ("iconPrefix", .string library.iconPrefix), ("iconsModule", .string library.iconsModule),
     ("checkComponents", .bool library.checkComponents),
     ("components", catalogToJson library.components),
     ("directives", catalogToJson library.directives)]

/-- The value of the paths of helpers. -/
def HelperPaths.toJson (paths : HelperPaths) : Json :=
  .object
    [("installComponents", .string paths.components),
     ("installDirectives", .string paths.directives), ("installIcons", .string paths.icons)]

namespace Settings

/-- The value of settings. -/
def toJson (settings : Settings) : Json :=
  .object
    [("match", settings.tagRules.toJson), ("attrsMatch", settings.directiveRules.toJson),
     ("iconsMatch", settings.iconRules.toJson), ("library", settings.library.toJson),
     ("runtime", settings.helperPaths.toJson), ("sentinel", .string settings.sentinel),
     ("marker", .string settings.marker)]

/-- The text of settings. -/
def print (settings : Settings) : String :=
  settings.toJson.print

end Settings

end TemplateImports
