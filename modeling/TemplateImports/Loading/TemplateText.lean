import TemplateImports.Component.Descriptor
import TemplateImports.Loading.Request

/-!
# Template texts

The template of a component stands in the component itself or in a file of its own, and it may be
written in another language, for which there may be a renderer.

Main results:

- Definition `render` is the markup that a renderer makes of a text.
- Definition `loadTemplate` is the markup of the template of a component.
-/

namespace TemplateImports

/-- Turns a template of another language into markup, or fails.  It is given the text and the path of
the component. -/
abbrev Renderer := String → Path → Option String

/-- Renderers by language. -/
abbrev Renderers := List (String × Renderer)

/-- The markup of a template.  Without a renderer for its language, or where that fails, the text
stays as it is. -/
def render (renderers : Renderers) (lang : Option String) (p : Path) (text : String) : String :=
  match lang with
  | some lang =>
    match renderers.lookup lang with
    | some renderer => (renderer text p).getD text
    | none => text
  | none => text

/-- The text of a block, read from its own file if it names one. -/
def Host.content (host : Host) (r : Request) (block : Component.Block) : Tracked String :=
  match block.src with
  | none => .pure block.content
  | some src =>
    (Tracked.ofExcept (host.resolve r.directory src)).bind fun p =>
      (Tracked.depend p).bind fun _ => .ofExcept (host.read p)

/-- The markup of the template of a component, if it has one. -/
def loadTemplate (host : Host) (renderers : Renderers) (r : Request) (component : Component) :
    Tracked (Option String) :=
  match component.template with
  | none => .pure none
  | some block =>
    (host.content r block).bind fun text => .pure (some (render renderers block.lang r.path text))

end TemplateImports
