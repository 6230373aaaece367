import TemplateImports.Matching.Category
import TemplateImports.NameList
import TemplateImports.Template.Icon
import TemplateImports.Template.Node
import TemplateImports.Text.Order

/-!
# Names that a template uses

Collects the tags, directives and icons that a template uses.  Each name is kept once, in the order
in which the template mentions the names first.

Main results:

- Structure `Usage` holds the names, and `Usage.ofNodes` collects them from a forest.
- Theorem `collect_append` says that forests are collected one after the other.
-/

namespace TemplateImports

/-! ## Usage -/

/-- The names that a template uses. -/
structure Usage where
  tags : List String := []
  directives : List String := []
  icons : List String := []
deriving Repr, DecidableEq

namespace Usage

/-- The names of a category. -/
def names (usage : Usage) : Category → List String
  | .tag => usage.tags
  | .directive => usage.directives
  | .icon => usage.icons

/-- Whether a template uses no names. -/
def isEmpty (usage : Usage) : Bool :=
  usage.tags.isEmpty && usage.directives.isEmpty && usage.icons.isEmpty

/-- The same names in the order of texts. -/
def sorted (usage : Usage) : Usage :=
  ⟨Text.sortDistinct usage.tags, Text.sortDistinct usage.directives,
    Text.sortDistinct usage.icons⟩

/-- Adds the names that an element itself uses. -/
def addElement (usage : Usage) (tag : String) (attributes : List Markup.Attribute)
    (directives : List Template.Directive) : Usage :=
  { tags := insertName usage.tags tag
    directives := insertNames usage.directives (directives.map (·.name))
    icons := insertNames usage.icons (attributes.filterMap fun a => Template.icon? a.value) }

mutual

/-- Adds the names that a tree uses. -/
def visit (usage : Usage) : Template.Node → Usage
  | .element tag attributes directives children =>
    (usage.addElement tag attributes directives).collect children
  | .text _ => usage

/-- Adds the names that a forest uses. -/
def collect (usage : Usage) : List Template.Node → Usage
  | [] => usage
  | node :: nodes => (usage.visit node).collect nodes

end

/-- The names that a forest uses. -/
def ofNodes (nodes : List Template.Node) : Usage :=
  collect {} nodes

/-- The names that a template uses. -/
def ofTemplate (template : String) : Usage :=
  ofNodes (Template.parse template)

/-- Forests side by side are collected one after the other. -/
theorem collect_append (usage : Usage) (first second : List Template.Node) :
    usage.collect (first ++ second) = (usage.collect first).collect second := by
  induction first generalizing usage with
  | nil => rfl
  | cons node nodes ih => exact ih (usage.visit node)

end Usage

end TemplateImports
