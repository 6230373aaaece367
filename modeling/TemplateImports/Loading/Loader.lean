import TemplateImports.Loading.TemplateText
import TemplateImports.Matching.Resolution
import TemplateImports.Settings
import TemplateImports.Template.Usage

/-!
# Loaders

A loader is built once from settings and then analyses any number of components.  For each category
it has a chain: matchers that were added, in the order of their addition, then the rules of the
settings, and the built-in matcher last.

Main results:

- Definition `Loader.ofSettings` builds a loader, and `Loader.addMatcher` adds a matcher.
- Definition `Loader.analyze` finds the imports that a component needs.
- Theorem `chains_addMatcher_of_ne` says that a matcher joins the chain of its category only.
-/

namespace TemplateImports

/-! ## Building -/

/-- A loader. -/
structure Loader where
  settings : Settings
  chains : Category → Chain
  /-- The number of matchers added to each chain. -/
  added : Category → Nat := fun _ => 0
  renderers : Renderers := []

namespace Loader

/-- The matcher of a rule; a malformed pattern is a failure. -/
def ruleMatcher (rule : Rule) : Except Failure Matcher :=
  match rule.matcher? with
  | some m => .ok m
  | none => .error (.malformedPattern rule.pattern)

/-- The matchers of rules, or the first failure among them. -/
def ruleMatchers : List Rule → Except Failure Chain
  | [] => .ok []
  | rule :: rules =>
    match ruleMatcher rule with
    | .error failure => .error failure
    | .ok m =>
      match ruleMatchers rules with
      | .error failure => .error failure
      | .ok chain => .ok (m :: chain)

/-- The chain of a category: its rules and the built-in matcher. -/
def chainOf (settings : Settings) (c : Category) : Except Failure Chain :=
  (ruleMatchers (settings.rules c)).map (· ++ [settings.library.matcher c])

/-- The loader for settings.  The categories are built in order. -/
def ofSettings (settings : Settings) : Except Failure Loader :=
  match chainOf settings .tag with
  | .error failure => .error failure
  | .ok tags =>
    match chainOf settings .directive with
    | .error failure => .error failure
    | .ok directives =>
      match chainOf settings .icon with
      | .error failure => .error failure
      | .ok icons =>
        .ok {
          settings
          chains := fun
            | .tag => tags
            | .directive => directives
            | .icon => icons }

/-- Adds a matcher to the chain of a category, behind those added before and in front of all
others. -/
def addMatcher (loader : Loader) (c : Category) (m : Matcher) : Loader :=
  { loader with
    chains := fun d =>
      if d = c then (loader.chains c).insertAt (loader.added c) m else loader.chains d
    added := fun d => if d = c then loader.added c + 1 else loader.added d }

/-- A matcher joins the chain of its category only. -/
theorem chains_addMatcher_of_ne {loader : Loader} {c d : Category} (h : d ≠ c) (m : Matcher) :
    (loader.addMatcher c m).chains d = loader.chains d := by
  simp [addMatcher, h]

/-- Adds a renderer for a language. -/
def addRenderer (loader : Loader) (lang : String) (renderer : Renderer) : Loader :=
  { loader with renderers := KeyedList.put lang renderer loader.renderers }

end Loader

/-! ## Analyses -/

/-- The names that a component uses, in the order of texts, and the imports that they need. -/
structure Analysis where
  usage : Usage := {}
  components : List Import := []
  directives : List Import := []
  icons : List Import := []
deriving Repr, DecidableEq

namespace Analysis

/-- The imports of a category. -/
def imports (a : Analysis) : Category → List Import
  | .tag => a.components
  | .directive => a.directives
  | .icon => a.icons

/-- Whether a component needs no imports. -/
def isEmpty (a : Analysis) : Bool :=
  Category.all.all fun c => (a.imports c).isEmpty

end Analysis

namespace Loader

/-- The imports that the names of a category need. -/
def resolveNames (loader : Loader) (c : Category) (path : String) (component : Component)
    (names : List String) : List Import :=
  resolve (loader.chains c) ⟨c, path, component⟩ names

/-- The analysis of a component whose template is known. -/
def analysisOf (loader : Loader) (path : String) (component : Component)
    (template : Option String) : Analysis :=
  let usage := (template.map Usage.ofTemplate).getD {}
  { usage := usage.sorted
    components := loader.resolveNames .tag path component usage.tags
    directives := loader.resolveNames .directive path component usage.directives
    icons := loader.resolveNames .icon path component usage.icons }

/-- Reads the component that a request asks for and finds the imports that it needs. -/
def analyze (loader : Loader) (host : Host) (r : Request) : Tracked Analysis :=
  (Tracked.depend r.path).bind fun _ =>
    (Tracked.ofExcept (host.read r.path)).bind fun source =>
      let component := Component.parse source
      (loadTemplate host loader.renderers r component).bind fun template =>
        .pure (loader.analysisOf r.relativePath component template)

end Loader

end TemplateImports
