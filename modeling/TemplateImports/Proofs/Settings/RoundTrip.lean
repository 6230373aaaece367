import TemplateImports.Proofs.Json.RoundTrip
import TemplateImports.Settings.Text

/-!
# Reading written settings

Settings are written as nested objects and read back field by field.  The rules of a category need
care: a value is tried as a single rule first, and a single rule may also be written as a list of
its fields.  A written list of rules is never taken for one, because the first of its items is an
object where a rule has a text.

Main results:

- Theorem `Rule.ofJson?_array_toJson` says that no list of rules is read as a rule.
- Theorem `Settings.ofJson?_toJson` says that the value of settings stands for the settings.
- Theorem `Settings.parse_print` says that the text of settings stands for the settings.
-/

namespace TemplateImports

open Json

/-! ## Parts of settings -/

/-- A list is read back if each of its items is. -/
theorem mapM_map_of_read {α : Type} {read? : Json → Option α} (write : α → Json)
    (h : ∀ value, read? (write value) = some value) (values : List α) :
    (values.map write).mapM read? = some values := by
  induction values with
  | nil => rfl
  | cons value values ih => simp [h, ih]

/-- A catalog is read back. -/
theorem texts?_catalogToJson (catalog : Option (List String)) :
    texts? (catalogToJson catalog) = some catalog := by
  cases catalog with
  | none => rfl
  | some names =>
    have hread : (names.map Json.string).mapM text? = some names :=
      mapM_map_of_read Json.string (fun _ => rfl) names
    simp only [texts?, catalogToJson, hread, Option.map_some]

/-- A library is read back. -/
theorem Library.ofJson?_toJson (library : Library) :
    Library.ofJson? library.toJson = some library := by
  have hfields : fields? fieldNames library.toJson =
      some [some (.string library.tagPrefix), some (.string library.componentsModule),
        some (.string library.directivesModule), some (.string library.iconPrefix),
        some (.string library.iconsModule), some (.bool library.checkComponents),
        some (catalogToJson library.components), some (catalogToJson library.directives)] := rfl
  unfold ofJson?
  rw [hfields]
  simp [fieldOr, text?, bool?, texts?_catalogToJson]

/-- The paths of the helpers are read back. -/
theorem HelperPaths.ofJson?_toJson (paths : HelperPaths) :
    HelperPaths.ofJson? paths.toJson = some paths := rfl

namespace Rule

theorem ofJson?_toJson (rule : Rule) : ofJson? rule.toJson = some rule := rfl

/-- No list of rules is read as a rule: its items are objects where a rule has texts. -/
theorem ofJson?_array_toJson (rules : List Rule) :
    ofJson? (.array (rules.map toJson)) = none := by
  match rules with
  | [] => rfl
  | [_] => rfl
  | [_, _] => rfl
  | [_, _, _] => rfl
  | _ :: _ :: _ :: _ :: rules => simp [ofJson?, fields?, fieldNames]

end Rule

namespace Rules

/-- Rules are nested less deeply than is allowed. -/
theorem isSound_toJson (rules : Rules) : rules.toJson.isSound maxDepth = true := by
  cases rules with
  | one rule => rfl
  | many rules =>
    have hall (rules : List Rule) : allSound 125 (rules.map Rule.toJson) = true := by
      induction rules with
      | nil => rfl
      | cons rule rules ih =>
        have hrule : rule.toJson.isSound 125 = true := rfl
        simp [allSound, hrule, ih]
    exact hall rules

/-- Rules are read back, a single rule as such and a list as a list. -/
theorem ofJson?_toJson (rules : Rules) : ofJson? rules.toJson = some rules := by
  unfold ofJson?
  rw [if_pos rules.isSound_toJson]
  cases rules with
  | one rule => simp [toJson, Rule.ofJson?_toJson]
  | many rules =>
    simp [toJson, Rule.ofJson?_array_toJson, mapM_map_of_read _ Rule.ofJson?_toJson]

end Rules

namespace Settings

/-- The value of settings stands for the settings. -/
theorem ofJson?_toJson (settings : Settings) : ofJson? settings.toJson = some settings := by
  have hfields : fields? fieldNames settings.toJson =
      some [some settings.tagRules.toJson, some settings.directiveRules.toJson,
        some settings.iconRules.toJson, some settings.library.toJson,
        some settings.helperPaths.toJson, some (.string settings.sentinel),
        some (.string settings.marker)] := rfl
  unfold ofJson?
  rw [hfields]
  simp [fieldOr, text?, Rules.ofJson?_toJson, Library.ofJson?_toJson, HelperPaths.ofJson?_toJson]

end Settings

/-! ## The text of settings -/

/-- A list of values has a text if each of them has one. -/
theorem allSpelled_map {α : Type} (write : α → Json) (h : ∀ value, (write value).Spelled)
    (values : List α) : AllSpelled (values.map write) := by
  induction values with
  | nil => trivial
  | cons value values ih => exact ⟨h value, ih⟩

/-- Rules have a text. -/
theorem Rules.spelled_toJson (rules : Rules) : rules.toJson.Spelled := by
  have hrule (rule : Rule) : rule.toJson.Spelled := by
    simp [Rule.toJson, Spelled, AllMembersSpelled]
  cases rules with
  | one rule => exact hrule rule
  | many rules => exact allSpelled_map Rule.toJson hrule rules

/-- A catalog has a text. -/
theorem spelled_catalogToJson (catalog : Option (List String)) :
    (catalogToJson catalog).Spelled := by
  cases catalog with
  | none => trivial
  | some names => exact allSpelled_map Json.string (fun _ => trivial) names

/-- The value of settings has a text: it holds no numbers, and nothing in it is broken. -/
theorem Settings.spelled_toJson (settings : Settings) : settings.toJson.Spelled := by
  simp [toJson, Library.toJson, HelperPaths.toJson, Spelled, AllMembersSpelled,
    Rules.spelled_toJson, spelled_catalogToJson]

/-- Settings are read back from their text, and writing and reading again what was read from any
text changes nothing. -/
theorem Settings.parse_print :
    (∀ settings : Settings, parse settings.print = some settings) ∧
      ∀ text, (parse text).bind (fun settings => parse settings.print) = parse text := by
  have hread (settings : Settings) : parse settings.print = some settings := by
    rw [parse, print, parse_print_of_spelled settings.spelled_toJson]
    exact settings.ofJson?_toJson
  refine ⟨hread, fun text => ?_⟩
  cases parse text with
  | none => rfl
  | some settings => exact hread settings

end TemplateImports
