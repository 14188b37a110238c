import Reconcile.Text.Quoted
import Reconcile.Walk.Fault

/-!
# Failures of walking, comparing and writing
-/

namespace Reconcile

/-- Why a tree could not be walked, compared or changed. -/
inductive DiffError where
  /-- The root of a tree does not exist or is not a directory. -/
  | rootNotFound (root : Path)
  /-- A file could not be read. -/
  | read (path : Path) (fault : Fault)
  /-- A file or directory could not be made or written. -/
  | write (path : Path) (fault : Fault)
  /-- A walk met a fault. -/
  | walk (fault : WalkFault)
deriving DecidableEq, Repr

/-- A path in quotes, as messages show it. -/
def Path.quoted (p : Path) : String := Quoted.ofBytes p.bytes

namespace DiffError

/-- The text of a failure. -/
def message : DiffError → String
  | rootNotFound root => "root does not exist or is not a directory: " ++ root.quoted
  | read path fault => "couldn't read " ++ path.quoted ++ ": " ++ fault.message
  | write path fault => "couldn't write " ++ path.quoted ++ ": " ++ fault.message
  | walk fault => "walk dir error: " ++ fault.message

/-- The texts of what lies behind a failure, from the outermost inwards. -/
def sources : DiffError → List String
  | rootNotFound _ => []
  | read _ fault | write _ fault => [fault.message]
  | walk fault => fault.message :: fault.sources

end DiffError
end Reconcile
