import TemplateImports.Workspace.Tree

/-!
# Failures

The reasons why a component cannot be loaded, with their codes and their wording.

Main results:

- Definition `Failure.code` is the code of a failure, and `Failure.message` its wording.
-/

namespace TemplateImports

/-- A reason why something cannot be loaded. -/
inductive Failure where
  /-- A request from a directory leads to a path where there is no file. -/
  | unresolved (request : String) (context candidate : Path)
  | unreadable (path : Path) (fault : ReadFault)
  | malformedSettings
  | malformedPattern (pattern : String)
deriving Repr, DecidableEq

namespace Failure

/-- The code of a failure. -/
def code : Failure → String
  | .unresolved _ _ _ => "USAGE-ERR-RESOLVE"
  | .unreadable _ _ => "USAGE-ERR-READ"
  | .malformedSettings => "USAGE-ERR-OPTIONS"
  | .malformedPattern _ => "USAGE-ERR-PATTERN"

/-- The wording of a failure. -/
def message : Failure → String
  | .unresolved request context candidate =>
    "Cannot resolve '" ++ request ++ "' from " ++ context.text ++ ": " ++ candidate.text ++
      " does not exist"
  | .unreadable path fault => "Failed to read " ++ path.text ++ ": " ++ fault.message
  | .malformedSettings => "Invalid loader options"
  | .malformedPattern pattern => "Invalid matcher pattern '" ++ pattern ++ "'"

end Failure

end TemplateImports
