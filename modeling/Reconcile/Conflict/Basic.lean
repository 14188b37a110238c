import Reconcile.Conflict.Error
import Reconcile.Diff.Basic

/-!
# Conflicts

A conflict is a file that differs between the two trees, together with the decision which side is to
be kept.  A decision may be changed, but an entry never goes back to being undecided, and nothing
may be copied before every entry is decided.
-/

namespace Reconcile

/-- What was decided about a conflict. -/
inductive Disposition where
  | unresolved
  /-- Keep the local file. -/
  | acceptLocal
  /-- Take the remote file. -/
  | acceptRemote
deriving DecidableEq, Repr

/-- A file that differs, and the decision about it. -/
structure ConflictEntry where
  /-- The path below both roots. -/
  relativePath : Path
  /-- The name of the file as text. -/
  fileName : String
  localRoot : Path
  remoteRoot : Path
  /-- The name of the metadata type, where it is known. -/
  typeName : Option String
  disposition : Disposition
deriving DecidableEq

namespace ConflictEntry

/-- A conflict about which nothing is decided. -/
def new (relativePath localRoot remoteRoot : Path) : ConflictEntry where
  relativePath := relativePath
  fileName := (relativePath.fileName?.map fun n => Utf8.lossy n.bytes).getD ""
  localRoot := localRoot
  remoteRoot := remoteRoot
  typeName := none
  disposition := .unresolved

/-- Is the conflict decided? -/
def isResolved (e : ConflictEntry) : Bool := e.disposition ≠ .unresolved

/-- Records a decision. -/
def resolve (e : ConflictEntry) (d : Disposition) : Except ConflictError ConflictEntry :=
  if d = .unresolved then .error (.invalidDisposition e.relativePath)
  else .ok { e with disposition := d }

/-- The local file. -/
def localPath (e : ConflictEntry) : Path := e.localRoot.join e.relativePath

/-- The remote file. -/
def remotePath (e : ConflictEntry) : Path := e.remoteRoot.join e.relativePath

end ConflictEntry

namespace Conflict

/-- One undecided entry for each file that differs, in the order of the paths. -/
def build (results : DiffResults) : List ConflictEntry :=
  results.different.toList.map fun p => .new p results.localRoot results.remoteRoot

/-- Like `build`, with the type of each file that `typeOf` knows one for. -/
def buildWith (results : DiffResults) (typeOf : Path → Option String) : List ConflictEntry :=
  (build results).map fun e => { e with typeName := typeOf e.localPath }

/-- Records a decision about the entry with the given number; `none` if there is no such entry. -/
def resolveAt (entries : List ConflictEntry) (i : Nat) (d : Disposition) :
    Option (Except ConflictError (List ConflictEntry)) :=
  entries[i]?.map fun e => (e.resolve d).map (entries.set i)

/-- Is every entry decided? -/
def allResolved (entries : List ConflictEntry) : Bool := entries.all ConflictEntry.isResolved

/-- Fails with the number of entries that are not decided. -/
def checkAllResolved (entries : List ConflictEntry) : Except ConflictError Unit :=
  let remaining := entries.countP fun e => !e.isResolved
  if 0 < remaining then .error (.unresolved remaining) else .ok ()

end Conflict
end Reconcile
