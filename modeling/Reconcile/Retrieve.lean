import Reconcile.Conflict.Basic
import Reconcile.FileSystem.Effect

/-!
# Copying accepted files

What a retrieve copies is a plan, a list of copies: first the files that are missing locally, then
the remote files that were accepted.  The plan is carried out one copy after the other and stops
at the first that fails.  Nothing is done while a conflict is undecided.
-/

namespace Reconcile

/-- One file to be copied over another. -/
structure Copy where
  source : Path
  dest : Path
deriving DecidableEq, Repr

namespace Copy

/-- Makes the directory in which the copy is to stand, unless it is there. -/
def makeParent (c : Copy) : Effect DiffError Unit := fun fs =>
  match c.dest.parent? with
  | none => (.ok (), fs)
  | some parent =>
    if fs.existsAt parent then (.ok (), fs)
    else Effect.on (Effect.blame (.write parent) (FileSystem.makeDirectories parent)) fs

/-- Carries out a copy.  The source is opened before the destination is emptied, and read after
it. -/
def run (c : Copy) : Effect DiffError Unit := do
  c.makeParent
  let source ← Effect.ask fun fs => (fs.locate c.source).mapError (DiffError.read c.source)
  let target ← Effect.blame (DiffError.write c.dest) (Effect.attempt (FileSystem.create c.dest))
  let content ← Effect.ask fun fs =>
    ((fs.streamAt source).drain).mapError (DiffError.write c.dest)
  modify fun fs => fs.storeAt target content

end Copy

/-- Carries out copies in order, and names the files that were written. -/
def runCopies : List Copy → Effect DiffError (List Path)
  | [] => pure []
  | c :: rest => do
    c.run
    let written ← runCopies rest
    pure (c.dest :: written)

/-- The copies that bring in the accepted remote files. -/
def acceptedCopies (entries : List ConflictEntry) : List Copy :=
  (entries.filter fun e => e.disposition = .acceptRemote).map fun e => ⟨e.remotePath, e.localPath⟩

/-- The copies that bring in the files that are missing locally. -/
def missingCopies (results : DiffResults) : List Copy :=
  results.missingLocal.toList.map fun p => ⟨results.remoteRoot.join p, results.localRoot.join p⟩

/-- Carries out copies, unless a conflict is undecided. -/
def runIfResolved (entries : List ConflictEntry) (plan : List Copy) :
    Effect ConflictError (List Path) :=
  match Conflict.checkAllResolved entries with
  | .error e => throw e
  | .ok () => Effect.blame ConflictError.diff (runCopies plan)

/-- Brings the local tree up to date: copies what is missing, then what was accepted. -/
def retrieve (results : DiffResults) (entries : List ConflictEntry) :
    Effect ConflictError (List Path) :=
  runIfResolved entries (missingCopies results ++ acceptedCopies entries)

/-- Copies what was accepted, so that a deployment does not undo it. -/
def prepareDeploy (entries : List ConflictEntry) : Effect ConflictError (List Path) :=
  runIfResolved entries (acceptedCopies entries)

end Reconcile
