import Reconcile.FileSystem.Fault
import Reconcile.Path.Basic

/-!
# Faults of a walk

A walk names the entry at which something failed by its path from the root as it was given.
-/

namespace Reconcile

/-- What can go wrong at an entry of a walk. -/
inductive WalkFault where
  /-- The entry could not be looked at or listed. -/
  | io (path : Path) (fault : Fault)
  /-- The entry is a link to a directory in which the walk already is. -/
  | loop (child ancestor : Path)
deriving DecidableEq, Repr

namespace WalkFault

/-- The text of a fault. -/
def message : WalkFault → String
  | io path fault => "IO error for operation on " ++ path.text ++ ": " ++ fault.message
  | loop child ancestor =>
    "File system loop found: " ++ child.text ++ " points to an ancestor " ++ ancestor.text

/-- The texts of what lies behind a fault. -/
def sources : WalkFault → List String
  | io _ fault => [fault.message]
  | loop _ _ => []

end WalkFault
end Reconcile
