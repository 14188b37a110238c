import Reconcile.Diff.Basic
import Reconcile.Json.Path
import Reconcile.Json.Typed

/-!
# The JSON form of the results of a comparison
-/

namespace Reconcile

namespace Json.Reader

/-- Takes a set of paths. -/
def paths : Reader PathSet := listInto path SortedList.insert ∅

end Json.Reader

namespace DiffResults

/-- The fields of results that have been read. -/
structure Draft where
  different : Option PathSet
  missingLocal : Option PathSet
  localRoot : Option Path
  remoteRoot : Option Path
  scannedLocal : Option Nat
  scannedRemote : Option Nat

/-- The written form of results. -/
def form : Json.Form Draft DiffResults where
  title := "DirectoryDiffResults"
  fields := [
    { label := "different"
      isSet := fun d => d.different.isSome
      read := fun d => do pure { d with different := some (← Json.Reader.paths) }
      optional := false
      optionalAtEnd := false },
    { label := "missing_local"
      isSet := fun d => d.missingLocal.isSome
      read := fun d => do pure { d with missingLocal := some (← Json.Reader.paths) }
      optional := false
      optionalAtEnd := false },
    { label := "local_root"
      isSet := fun d => d.localRoot.isSome
      read := fun d => do pure { d with localRoot := some (← Json.Reader.path) }
      optional := false
      optionalAtEnd := false },
    { label := "remote_root"
      isSet := fun d => d.remoteRoot.isSome
      read := fun d => do pure { d with remoteRoot := some (← Json.Reader.path) }
      optional := false
      optionalAtEnd := false },
    { label := "scanned_local"
      isSet := fun d => d.scannedLocal.isSome
      read := fun d => do pure { d with scannedLocal := some (← Json.Reader.count) }
      optional := false
      optionalAtEnd := false },
    { label := "scanned_remote"
      isSet := fun d => d.scannedRemote.isSome
      read := fun d => do pure { d with scannedRemote := some (← Json.Reader.count) }
      optional := false
      optionalAtEnd := false }]
  start := ⟨none, none, none, none, none, none⟩
  build := fun d => do
    pure ⟨← d.different, ← d.missingLocal, ← d.localRoot, ← d.remoteRoot, ← d.scannedLocal,
      ← d.scannedRemote⟩

/-- The results in a text. -/
def ofJson (input : Json.Input) : Except Json.Problem DiffResults := form.reader.run input

/-- The text of results, unless a path in it is no text. -/
def toJson (r : DiffResults) : Except Json.Problem (List Char) := do
  pure (Json.object [
    ("different", ← Json.paths r.different), ("missing_local", ← Json.paths r.missingLocal),
    ("local_root", ← Json.path r.localRoot), ("remote_root", ← Json.path r.remoteRoot),
    ("scanned_local", Json.natural r.scannedLocal),
    ("scanned_remote", Json.natural r.scannedRemote)])

end DiffResults
end Reconcile
