import Reconcile.Diff.Error

/-!
# Failures around conflicts
-/

namespace Reconcile

/-- Why a conflict could not be decided, or nothing could be copied. -/
inductive ConflictError where
  /-- This many conflicts are not decided yet. -/
  | unresolved (remaining : Nat)
  /-- A decision cannot be taken back. -/
  | invalidDisposition (path : Path)
  /-- A file could not be copied. -/
  | diff (cause : DiffError)
deriving DecidableEq, Repr

namespace ConflictError

/-- The text of a failure. -/
def message : ConflictError → String
  | unresolved remaining => toString remaining ++ " conflict(s) are still unresolved"
  | invalidDisposition path =>
    "the conflict at " ++ path.quoted ++ " can't be marked unresolved again"
  | diff cause => cause.message

/-- The texts of what lies behind a failure. -/
def sources : ConflictError → List String
  | diff cause => cause.message :: cause.sources
  | _ => []

end ConflictError
end Reconcile
