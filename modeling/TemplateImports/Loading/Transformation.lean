import TemplateImports.Loading.Loader
import TemplateImports.Registration.Injection

/-!
# Transforming scripts

Puts the registrations that a component needs into the script that was generated for it.  A request
for a part of a component changes nothing.

Main results:

- Definition `Loader.transform` answers a request with a script and an analysis.
- Theorem `transform_of_isPartial` says that requests for parts are passed over.
-/

namespace TemplateImports

/-- The answer to a request: a script, and an analysis unless the request was passed over. -/
structure Transformed where
  code : String
  analysis : Option Analysis
deriving Repr, DecidableEq

namespace Loader

/-- Puts the blocks of all categories into a script. -/
def injectAll (g : Generator) (a : Analysis) (content : String) : String :=
  Category.all.foldl (fun code c => g.inject code c (a.imports c)) content

/-- Transforms the script that was generated for a request. -/
def transform (loader : Loader) (host : Host) (r : Request) (content : String) :
    Tracked Transformed :=
  if r.isPartial then .pure ⟨content, none⟩
  else
    (loader.analyze host r).bind fun a =>
      .pure ⟨injectAll (.ofSettings loader.settings) a content, some a⟩

/-- The script that a request leads to. -/
def process (loader : Loader) (host : Host) (r : Request) (content : String) : Tracked String :=
  (loader.transform host r content).bind fun t => .pure t.code

/-- A request for a part of a component changes nothing and depends on nothing. -/
theorem transform_of_isPartial {loader : Loader} {host : Host} {r : Request} {content : String}
    (h : r.isPartial = true) : loader.transform host r content = .pure ⟨content, none⟩ := by
  simp [transform, h]

end Loader

end TemplateImports
