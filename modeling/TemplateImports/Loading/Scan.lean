import TemplateImports.Loading.Loader

/-!
# Scanning directories

Analyses all components below a directory.  Directories of installed packages and of build results,
and those whose name starts with a dot, are passed over.

Main results:

- Definition `scan` reports on every component, sorted by path.
- Definition `keyCounts` counts how often the reports import each key.
- Theorem `isComponentName_iff` says which files are components.
-/

namespace TemplateImports

/-! ## Finding components -/

/-- The ending of the name of a component's file. -/
def componentEnding : List Char :=
  ".vue".toList

/-- Whether a file is a component by its name. -/
def isComponentName (name : String) : Bool :=
  componentEnding.isSuffixOf name.toList && name.toList != componentEnding

/-- The names of components end in a certain way, with something before that. -/
theorem isComponentName_iff {name : String} :
    isComponentName name = true ↔ ∃ c cs, name.toList = c :: cs ++ componentEnding := by
  simp only [isComponentName, Bool.and_eq_true, List.isSuffixOf_iff_suffix, bne_iff_ne, ne_eq]
  constructor
  · rintro ⟨⟨before, h⟩, hne⟩
    cases before with
    | nil => exact absurd h.symm hne
    | cons c cs => exact ⟨c, cs, h.symm⟩
  · rintro ⟨c, cs, h⟩
    refine ⟨⟨c :: cs, h.symm⟩, fun he => ?_⟩
    have := congrArg List.length (h.symm.trans he)
    simp only [List.cons_append, List.length_cons, List.length_append] at this
    omega

/-- Whether a directory is passed over. -/
def isPassedOver (name : String) : Bool :=
  name.toList.head? == some '.' || ["node_modules", "dist"].contains name

mutual

/-- The components in an entry at a path. -/
def componentsIn (p : Path) (name : String) : Entry → List Path
  | .file _ => if isComponentName name then [p] else []
  | .directory entries => if isPassedOver name then [] else componentsBelow p entries

/-- The components in the entries of a directory at a path. -/
def componentsBelow (p : Path) : List (String × Entry) → List Path
  | [] => []
  | (name, entry) :: entries =>
    componentsIn (p.join ⟨name⟩) name entry ++ componentsBelow p entries

end

/-! ## Reports -/

/-- What a scan says about a component: its analysis, or why it failed. -/
structure Report where
  path : String
  outcome : Except Failure Analysis

namespace Report

/-- The analysis of a component that did not fail. -/
def analysis? (report : Report) : Option Analysis :=
  report.outcome.toOption

/-- The code and the wording of the failure of a component. -/
def error? (report : Report) : Option (String × String) :=
  match report.outcome with
  | .ok _ => none
  | .error failure => some (failure.code, failure.message)

end Report

/-- The report on a component. -/
def Loader.report (loader : Loader) (host : Host) (root p : Path) : Report :=
  let r : Request := { path := p, root := root }
  ⟨r.relativePath, (loader.analyze host r).outcome⟩

/-- The reports on all components below a directory, sorted by path.  There are none if it is no
directory. -/
def scan (loader : Loader) (files : FileTree) (root : Path) : List Report :=
  match files.entries? root with
  | some entries =>
    Text.sortOn Report.path
      ((componentsBelow root entries).map (loader.report ⟨files, some root⟩ root))
  | none => []

/-- The paths of the components that failed. -/
def failedPaths (reports : List Report) : List String :=
  (reports.filter fun r => match r.outcome with | .error _ => true | .ok _ => false).map (·.path)

/-- Counts one more occurrence of a key. -/
def countKey (counts : List (String × Nat)) (key : String) : List (String × Nat) :=
  KeyedList.put key ((counts.lookup key).getD 0 + 1) counts

/-- How often each key of a category is imported in the reports. -/
def keyCounts (reports : List Report) (c : Category) : List (String × Nat) :=
  let keys := reports.flatMap fun r =>
    match r.outcome with
    | .ok a => (a.imports c).map Import.key
    | .error _ => []
  keys.foldl countKey []

end TemplateImports
