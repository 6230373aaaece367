import TemplateImports.Proofs.Loading.SharedHost
import TemplateImports.Proofs.Registration.Splicing

/-!
# Sources are kept

A script only ever grows by blocks and blank lines that can be taken out again, and a loader returns
a script as it stands exactly if there is nothing to register.

Main results:

- Theorem `transform_unchanged_iff` says when a transformation returns its script unchanged.
- Theorem `splicing_keeps_source` says what any run leaves of its source.
-/

namespace TemplateImports

open Text

namespace Loader

variable {loader : Loader} {host : Host} {r : Request} {content : String}

/-- The blocks of all categories are put in front of the sentinel. -/
theorem injectAll_eq_placeAll (g : Generator) (a : Analysis) (content : String) :
    injectAll g a content =
      g.placeAll content (Category.all.map fun c => ⟨c, a.imports c, .sentinel⟩) := by
  simp only [injectAll, Generator.placeAll, List.foldl_map]
  rfl

/-- The blocks of an analysis change a script exactly if there are any. -/
theorem injectAll_eq_self_iff {g : Generator} {a : Analysis} :
    injectAll g a content = content ↔ a.isEmpty = true := by
  rw [injectAll_eq_placeAll, Generator.placeAll_eq_self_iff]
  simp [Analysis.isEmpty]

/-- A transformation returns its script unchanged exactly if the request was passed over, or the
component was analysed and needs no imports. -/
theorem transform_unchanged_iff :
    (∃ analysis, (loader.transform host r content).outcome = .ok ⟨content, analysis⟩) ↔
      r.isPartial = true ∨
        ∃ a, (loader.analyze host r).outcome = .ok a ∧ a.isEmpty = true := by
  by_cases hpartial : r.isPartial = true
  · simp only [hpartial, true_or, iff_true]
    exact ⟨none, (outcome_of_isPartial hpartial content).1⟩
  · rw [transform_of_not_isPartial (by simpa using hpartial), Tracked.outcome_bind_pure]
    simp only [hpartial]
    cases houtcome : (loader.analyze host r).outcome with
    | error failure => simp [Except.map]
    | ok a =>
      have hsame : (∃ analysis, (injectAll (.ofSettings loader.settings) a content = content ∧
          some a = analysis)) ↔ a.isEmpty = true := by
        simp [injectAll_eq_self_iff]
      simpa [Except.map] using hsame

end Loader

/-- A run of steps makes one insertion for each step with imports and leaves the text as it is in
any other: a block with a blank line behind it in front of the sentinel or at an offset between two
characters, and with a blank line in front of it at the end.  Taking out what was put in, in reverse
order, gives back the source.  So a transformation returns its script unchanged exactly if the
request was passed over, or the component was analysed and needs no imports. -/
theorem splicing_keeps_source (g : Generator) (source : String)
    (steps : List Generator.PlacedStep) (loader : Loader) (host : Host) (r : Request)
    (content : String) :
    (∃ insertions, g.Makes source steps insertions ∧
      insertions.foldrM Insertion.remove? (g.placeAll source steps).toList =
        some source.toList) ∧
      ((∃ analysis, (loader.transform host r content).outcome = .ok ⟨content, analysis⟩) ↔
        r.isPartial = true ∨
          ∃ a, (loader.analyze host r).outcome = .ok a ∧ a.isEmpty = true) := by
  obtain ⟨insertions, hmakes⟩ := g.exists_makes source steps
  exact ⟨⟨insertions, hmakes, hmakes.removed⟩, Loader.transform_unchanged_iff⟩

end TemplateImports
