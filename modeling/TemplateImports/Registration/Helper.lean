import TemplateImports.Settings

/-!
# Helpers

Each category has a small function that adds the imported values to a component when the program
runs.  The functions are kept as texts, which can be served under the paths that the generated code
imports them from.

Main results:

- Definition `Category.helperText` is the text of the function of a category.
- Definition `helperModules` lists the texts with their paths.
-/

namespace TemplateImports

/-- The lines of the function that registers the values of a category. -/
def Category.helperLines (c : Category) : List String :=
  let f := c.field
  ["// IMPORTANT: Do NOT use ES2015 features in this file (except for modules).",
   "// Included in the final user bundle; merges generated registrations into the",
   "// component options without overriding anything already registered.",
   "",
   "module.exports = function " ++ c.helper ++ " (component, " ++ f ++ ") \x7b",
   "  var options = typeof component.exports === 'function'",
   "    ? component.exports.extendOptions",
   "    : component.options",
   "",
   "  if (typeof component.exports === 'function') \x7b",
   "    options." ++ f ++ " = component.exports.options." ++ f,
   "  \x7d",
   "",
   "  options." ++ f ++ " = options." ++ f ++ " || \x7b\x7d",
   "",
   "  for (var i in " ++ f ++ ") \x7b",
   "    options." ++ f ++ "[i] = options." ++ f ++ "[i] || " ++ f ++ "[i]",
   "  \x7d",
   "\x7d"]

/-- The text of the function that registers the values of a category. -/
def Category.helperText (c : Category) : String :=
  c.helperLines.foldl (fun text line => text ++ line ++ "\n") ""

/-- The name without the ending of a file name. -/
def dropScriptEnding (name : String) : String :=
  let cs := name.toList
  if ".js".toList.isSuffixOf cs then String.ofList (cs.take (cs.length - 3)) else name

/-- The text of a helper by its name, which may have the ending of a file name. -/
def helperText? (name : String) : Option String :=
  (Category.all.find? fun c => c.helper == dropScriptEnding name).map Category.helperText

/-- The helpers under the paths that they are imported from. -/
def helperModules (paths : HelperPaths) : List (String × String) :=
  Category.all.map fun c => (paths.path c, c.helperText)

/-- Every helper is found by its name. -/
theorem helperText?_helper (c : Category) : helperText? c.helper = some c.helperText := by
  cases c <;> rfl

end TemplateImports
