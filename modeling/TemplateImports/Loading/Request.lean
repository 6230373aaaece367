import TemplateImports.Loading.Tracked

/-!
# Requests

A request asks for a component by its path.  From a component, a template kept in another file is
looked up: a request that starts with a dot leads from the directory of the component, and any other
one from the root of the project.

Main results:

- Definition `Host.candidate` is the path that a request leads to.
- Definitions `Host.resolve` and `Host.read` are the steps that can fail.
- Theorems `resolveBy_eq_ok_iff` and `resolveBy_eq_error_iff` say when a request is resolved.
-/

namespace TemplateImports

/-- A request for a component. -/
structure Request where
  path : Path
  /-- Asks for a part of a component, unless it is empty. -/
  query : String := ""
  /-- The directory that paths are reported from. -/
  root : Path := ⟨""⟩
deriving Repr, DecidableEq

namespace Request

/-- Whether a request asks for a part of a component. -/
def isPartial (r : Request) : Bool :=
  !r.query.isEmpty

/-- The path of the component as it is reported. -/
def relativePath (r : Request) : String :=
  r.path.relativeTo r.root

/-- The directory of the component. -/
def directory (r : Request) : Path :=
  r.path.parent

end Request

/-- The files of a project, and its root if it has one. -/
structure Host where
  files : FileTree
  root : Option Path := none

namespace Host

/-- Whether a request leads from the directory of its component. -/
def isLocal (request : String) : Bool :=
  "./".toList.isPrefixOf request.toList || "../".toList.isPrefixOf request.toList

/-- The path that a request leads to from a directory. -/
def candidate (host : Host) (context : Path) (request : String) : Path :=
  let base := if isLocal request then context else host.root.getD context
  (base.join ⟨request⟩).normalize

/-- The answer to a request, where `isFile` tells which paths lead to files. -/
def resolveBy (host : Host) (isFile : Path → Bool) (context : Path) (request : String) :
    Except Failure Path :=
  let candidate := host.candidate context request
  if isFile candidate then .ok candidate
  else .error (.unresolved request context candidate)

/-- The path of the file that a request leads to. -/
def resolve (host : Host) (context : Path) (request : String) : Except Failure Path :=
  host.resolveBy host.files.isFile context request

/-- The text of a file. -/
def read (host : Host) (p : Path) : Except Failure String :=
  match host.files.read p with
  | .ok text => .ok text
  | .error fault => .error (.unreadable p fault)

/-- A request is resolved exactly when there is a file at its candidate. -/
theorem resolveBy_eq_ok_iff {host : Host} {isFile : Path → Bool} {context p : Path}
    {request : String} :
    host.resolveBy isFile context request = .ok p ↔
      host.candidate context request = p ∧ isFile p = true := by
  unfold resolveBy
  by_cases h : isFile (host.candidate context request) = true
  · simp only [h, if_true, Except.ok.injEq]
    constructor
    · rintro rfl
      exact ⟨rfl, h⟩
    · exact And.left
  · simp only [h, Bool.false_eq_true, if_false, reduceCtorEq, false_iff, not_and]
    rintro rfl
    exact h

theorem resolve_eq_ok_iff {host : Host} {context p : Path} {request : String} :
    host.resolve context request = .ok p ↔
      host.candidate context request = p ∧ host.files.isFile p = true :=
  resolveBy_eq_ok_iff

/-- A request that is not resolved fails with its candidate. -/
theorem resolveBy_eq_error_iff {host : Host} {isFile : Path → Bool} {context : Path}
    {request : String} {failure : Failure} :
    host.resolveBy isFile context request = .error failure ↔
      isFile (host.candidate context request) = false ∧
        failure = .unresolved request context (host.candidate context request) := by
  unfold resolveBy
  by_cases h : isFile (host.candidate context request) = true
  · simp [h]
  · simp [h, eq_comm]

end Host

end TemplateImports
