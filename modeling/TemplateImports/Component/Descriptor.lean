import TemplateImports.Component.Block

/-!
# Single-file components

The blocks of a component by what they are for.  There is one template, the first; of several
scripts of a kind the last counts; styles and custom blocks are kept in order.

Main results:

- Definition `Component.parse` reads a component.
- Theorem `template_addBlock` says that a later template does not replace an earlier one.
-/

namespace TemplateImports

/-- A single-file component. -/
structure Component where
  template : Option Component.Block := none
  script : Option Component.Block := none
  scriptSetup : Option Component.Block := none
  styles : List Component.Block := []
  customBlocks : List Component.Block := []
deriving Repr, DecidableEq

namespace Component

/-- Adds a block to a component. -/
def addBlock (component : Component) (block : Block) : Component :=
  match block.tag with
  | "template" => { component with template := component.template.or (some block) }
  | "script" =>
    if (block.attributes.lookup "setup").isSome then { component with scriptSetup := some block }
    else { component with script := some block }
  | "style" => { component with styles := component.styles ++ [block] }
  | _ => { component with customBlocks := component.customBlocks ++ [block] }

/-- The component with the given blocks. -/
def ofBlocks (blocks : List Block) : Component :=
  blocks.foldl addBlock {}

/-- The component that a text stands for. -/
def parse (source : String) : Component :=
  ofBlocks (blocks source.toList)

/-- A later template does not replace an earlier one. -/
theorem template_addBlock {component : Component} {block template : Block}
    (h : component.template = some template) :
    (component.addBlock block).template = some template := by
  unfold addBlock
  split
  · simp [h]
  · split <;> simpa using h
  · simpa using h
  · simpa using h

end Component

end TemplateImports
