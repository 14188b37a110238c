import Reconcile.FileSystem.Basic

/-!
# Changing a file system

An `Effect` changes a file system and may fail; what it did before it failed stays done.  The
operations here are those of an operating system, one entry at a time, and the few that repeat
them: making a directory with all those above it, and removing one with all that is in it.
-/

namespace Reconcile

/-- A change of a file system that may fail with an `ε`. -/
abbrev Effect (ε : Type) := ExceptT ε (StateM FileSystem)

namespace Effect

/-- The outcome of an effect and the file system it leaves. -/
def on {ε α : Type} (e : Effect ε α) (fs : FileSystem) : Except ε α × FileSystem :=
  StateT.run (ExceptT.run e) fs

/-- Asks about the file system, which stays as it is. -/
def ask {ε α : Type} (question : FileSystem → Except ε α) : Effect ε α := fun fs =>
  (question fs, fs)

/-- Makes a change that is either done in full or not at all. -/
def attempt {ε α : Type} (change : FileSystem → Except ε (α × FileSystem)) : Effect ε α := fun fs =>
  match change fs with
  | .ok (a, fs') => (.ok a, fs')
  | .error e => (.error e, fs)

/-- Says in other words what failed. -/
def blame {ε ε' α : Type} (describe : ε → ε') (e : Effect ε α) : Effect ε' α :=
  ExceptT.adapt describe e

end Effect

namespace FileSystem

/-- Lets the name `n` in the directory at `parent` stand for a file. -/
def withFile (fs : FileSystem) (parent : Location) (n : Name) (fits : n.Fits) (content : Bytes) :
    FileSystem :=
  { fs with
    top := fs.top.insertAt parent n (.file content)
    distinct := Listing.distinct_insertAt fs.distinct parent n trivial
    named := Listing.named_insertAt fs.named parent fits trivial }

/-- Lets the name `n` in the directory at `parent` stand for a link. -/
def withLink (fs : FileSystem) (parent : Location) (n : Name) (fits : n.Fits) (target : Path) :
    FileSystem :=
  { fs with
    top := fs.top.insertAt parent n (.link target)
    distinct := Listing.distinct_insertAt fs.distinct parent n trivial
    named := Listing.named_insertAt fs.named parent fits trivial }

/-- Lets the name `n` in the directory at `parent` stand for an empty directory. -/
def withDirectory (fs : FileSystem) (parent : Location) (n : Name) (fits : n.Fits) :
    FileSystem :=
  { fs with
    top := fs.top.insertAt parent n (.directory .nil)
    distinct := Listing.distinct_insertAt fs.distinct parent n
      (show Node.Distinct (.directory .nil) from trivial)
    named := Listing.named_insertAt fs.named parent fits
      (show Node.Named (.directory .nil) from trivial) }

/-- Drops the entry at a location, with all that is in it. -/
def without (fs : FileSystem) (loc : Location) : FileSystem :=
  match loc.getLast? with
  | none => fs
  | some n =>
    { fs with
      top := fs.top.removeAt loc.dropLast n
      distinct := Listing.distinct_removeAt fs.distinct loc.dropLast n
      named := Listing.named_removeAt fs.named loc.dropLast n }

/-- Stores `content` in the file at a location.  No file has a name that does not fit. -/
def storeAt (fs : FileSystem) (loc : Location) (content : Bytes) : FileSystem :=
  match loc.getLast? with
  | none => fs
  | some n => if fits : n.Fits then fs.withFile loc.dropLast n fits content else fs

/-! ## One entry -/

/-- Opens a file for writing and empties it; it is made if it is not there. -/
def create (p : Path) (fs : FileSystem) : Except Fault (Location × FileSystem) :=
  match fs.place .create p with
  | .error fault => .error fault
  | .ok (.free parent n fits) => .ok (parent ++ [n], fs.withFile parent n fits [])
  | .ok (.taken loc) =>
    match fs.node? loc with
    | some (.file _) => .ok (loc, fs.storeAt loc [])
    | _ => .error .isDirectory

/-- Makes an empty directory. -/
def makeDirectory (p : Path) (fs : FileSystem) : Except Fault (Unit × FileSystem) :=
  match fs.place .make p with
  | .error fault => .error fault
  | .ok (.free parent n fits) => .ok ((), fs.withDirectory parent n fits)
  | .ok (.taken _) => .error .alreadyExists

/-- Makes a link. -/
def makeLink (p target : Path) (fs : FileSystem) : Except Fault (Unit × FileSystem) :=
  match fs.place .make p with
  | .error fault => .error fault
  | .ok (.free parent n fits) => .ok ((), fs.withLink parent n fits target)
  | .ok (.taken _) => .error .alreadyExists

/-- Removes what the path itself names, with all that is in it; links are not followed. -/
def remove (p : Path) (fs : FileSystem) : Except Fault (Unit × FileSystem) :=
  match fs.place .inspect p with
  | .error fault => .error fault
  | .ok (.free ..) => .error .notFound
  | .ok (.taken loc) => .ok ((), fs.without loc)

/-- Removes a directory with all that is in it, or a link without looking behind it. -/
def removeDirectory (p : Path) (fs : FileSystem) : Except Fault (Unit × FileSystem) :=
  match fs.place .inspect p with
  | .error fault => .error fault
  | .ok (.free ..) => .error .notFound
  | .ok (.taken loc) =>
    match fs.node? loc with
    | some (.file _) => .error .notDirectory
    | _ => .ok ((), fs.without loc)

/-! ## Several entries -/

/-- Makes a directory that need not be new. -/
def ensureDirectory (p : Path) : Effect Fault Unit := fun fs =>
  match makeDirectory p fs with
  | .ok ((), fs') => (.ok (), fs')
  | .error fault => if fs.isDirectoryAt p then (.ok (), fs) else (.error fault, fs)

/-- Makes the directories of a list, in which each path is followed by those above it, as far as
they are missing. -/
def ensureDirectories : List Path → Effect Fault Unit
  | [] => pure ()
  | p :: above => fun fs =>
    if p.components = [] || p.parent?.isNone then (.ok (), fs)
    else
      match makeDirectory p fs with
      | .ok ((), fs') => (.ok (), fs')
      | .error .notFound => Effect.on (do ensureDirectories above; ensureDirectory p) fs
      | .error fault => if fs.isDirectoryAt p then (.ok (), fs) else (.error fault, fs)

/-- Makes a directory and all those above it that are missing. -/
def makeDirectories (p : Path) : Effect Fault Unit := ensureDirectories p.ancestors

/-- Stores `content` in the file that the path reaches, which is made if it is not there. -/
def write (p : Path) (content : Bytes) : Effect Fault Unit := do
  let loc ← Effect.attempt (create p)
  modify fun fs => fs.storeAt loc content

end FileSystem
end Reconcile
