import TemplateImports.Matching.Matcher
import TemplateImports.Text.Order

/-!
# Resolving names

Runs the names of a category through its chain.  Names that the chain declines are dropped, and the
imports are sorted by their keys; imports with the same key keep the order of their names.

Main results:

- Definition `resolve` lists the imports of the names.
- Theorem `resolve_perm` says that they are the answers of the chain.
-/

namespace TemplateImports

/-- Where names are used: the category, the path of the component, and the component. -/
structure Site where
  category : Category
  path : String
  component : Component

/-- A name that is used at a place. -/
def Site.use (site : Site) (name : String) : NameUse :=
  ⟨site.category, name, site.path, site.component⟩

/-- The answers of a chain to names, in the order of the names. -/
def Chain.answers (chain : Chain) (site : Site) (names : List String) : List Import :=
  names.filterMap fun name => chain.answer? (site.use name)

/-- The imports that names need, sorted by their keys. -/
def resolve (chain : Chain) (site : Site) (names : List String) : List Import :=
  Text.sortOn Import.key (chain.answers site names)

/-- The imports are the answers of the chain in another order. -/
theorem resolve_perm (chain : Chain) (site : Site) (names : List String) :
    (resolve chain site names).Perm (chain.answers site names) :=
  Text.sortOn_perm _ _

/-- The imports are sorted by their keys. -/
theorem resolve_pairwise (chain : Chain) (site : Site) (names : List String) :
    (resolve chain site names).Pairwise fun a b => a.key ≤ b.key :=
  Text.sortOn_pairwise _ _

end TemplateImports
