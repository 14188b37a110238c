import Reconcile.Json.Problem
import Reconcile.Json.Text
import Reconcile.Path.Basic

/-!
# Paths in JSON

A path is written as a text, so it can only be written if it is one.
-/

namespace Reconcile
namespace Json

/-- The problem with a path that is no text. -/
def Problem.pathNotText : Problem := .mismatch "path contains invalid UTF-8 characters"

/-- A path. -/
def path (p : Path) : Except Problem (List Char) :=
  match Utf8.decode? p.bytes with
  | some s => .ok (quote s)
  | none => .error .pathNotText

/-- A set of paths, in order. -/
def paths (s : PathSet) : Except Problem (List Char) := do
  pure (array (← s.toList.mapM path))

end Json
end Reconcile
