import Reconcile.Diff.Compare
import Reconcile.Walk.Basic

/-!
# Comparing two trees

The files of the local tree are listed first.  Then the remote tree is walked: a file that is also
local is compared with its counterpart, one that is not is missing locally.  Any failure ends the
comparison without a result, but the progress up to there has been reported.
-/

namespace Reconcile

/-- What a comparison of a local with a remote tree found. -/
structure DiffResults where
  /-- Files of both trees with different contents. -/
  different : PathSet
  /-- Files of the remote tree that are not in the local one. -/
  missingLocal : PathSet
  localRoot : Path
  remoteRoot : Path
  /-- The number of local files that no remote file matched. -/
  scannedLocal : Nat
  /-- The number of remote files. -/
  scannedRemote : Nat
deriving DecidableEq

namespace DiffResults

/-- Does nothing need a decision? -/
def isEmpty (r : DiffResults) : Bool := r.different.isEmpty && r.missingLocal.isEmpty

end DiffResults

/-- A report on the way of a comparison. -/
inductive Progress where
  /-- The local tree has been listed and has this many files. -/
  | localListed (files : Nat)
  /-- The remote file of this number is about to be compared. -/
  | checkingRemote (path : Path) (number : Nat)
deriving DecidableEq, Repr

namespace Diff

/-- What is known in the middle of the remote walk. -/
structure Tally where
  /-- Local files that no remote file has matched so far. -/
  unmatched : PathSet
  different : PathSet
  missingLocal : PathSet
  /-- The number of remote files so far. -/
  scanned : Nat

namespace Tally

/-- Enters a remote file; `differs` compares it with its local counterpart. -/
def enter (t : Tally) (differs : Path → Except DiffError Bool) (p : Path) :
    Except DiffError Tally :=
  if t.unmatched.contains p.key then
    match differs p with
    | .error e => .error e
    | .ok different =>
      .ok { t with
        unmatched := t.unmatched.erase p.key
        different := if different then t.different.insert p else t.different
        scanned := t.scanned + 1 }
  else .ok { t with missingLocal := t.missingLocal.insert p, scanned := t.scanned + 1 }

end Tally

/-- Goes through the items of the remote walk and reports on each file before it is compared. -/
def scanRemote (differs : Path → Except DiffError Bool) :
    Tally → List Walk.Item → List Progress × Except DiffError Tally
  | t, [] => ([], .ok t)
  | _, .fault fault :: _ => ([], .error (.walk fault))
  | t, .file p :: rest =>
    match t.enter differs p with
    | .error e => ([.checkingRemote p (t.scanned + 1)], .error e)
    | .ok t' =>
      let (reports, outcome) := scanRemote differs t' rest
      (.checkingRemote p (t.scanned + 1) :: reports, outcome)

end Diff

/-- Compares the files below two roots.  Both roots are checked before anything else is done. -/
def diffDirectories (fs : FileSystem) (config : Config) (localRoot remoteRoot : Path) :
    List Progress × Except DiffError DiffResults :=
  match checkRoot fs localRoot, checkRoot fs remoteRoot, listFiles fs config localRoot,
      walk fs config remoteRoot with
  | .error e, _, _, _ => ([], .error e)
  | .ok _, .error e, _, _ => ([], .error e)
  | .ok _, .ok _, .error e, _ => ([], .error e)
  | .ok _, .ok _, .ok files, .error e => ([.localListed files.size], .error e)
  | .ok _, .ok _, .ok files, .ok items =>
    let differs p := contentsDiffer fs (localRoot.join p) (remoteRoot.join p)
    let (reports, outcome) := Diff.scanRemote differs ⟨files, ∅, ∅, 0⟩ items
    (.localListed files.size :: reports, outcome.map fun t =>
      { different := t.different
        missingLocal := t.missingLocal
        localRoot := localRoot
        remoteRoot := remoteRoot
        scannedLocal := t.unmatched.size
        scannedRemote := t.scanned })

namespace Diff

/-- The local files whose counterpart is no regular file, added to `found`. -/
def collectMissing (isPresent : Path → Bool) (found : PathSet) :
    List Walk.Item → Except DiffError PathSet
  | [] => .ok found
  | .fault fault :: _ => .error (.walk fault)
  | .file p :: rest =>
    collectMissing isPresent (if isPresent p then found else found.insert p) rest

end Diff

/-- The local files that have no counterpart in the remote tree. -/
def findMissingRemote (fs : FileSystem) (config : Config) (results : DiffResults) :
    Except DiffError PathSet :=
  match walk fs config results.localRoot with
  | .error e => .error e
  | .ok items =>
    Diff.collectMissing (fun p => fs.isFileAt (results.remoteRoot.join p)) ∅ items

end Reconcile
