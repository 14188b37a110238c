import Reconcile.FileSystem.Listing
import Reconcile.FileSystem.Stream

/-!
# File systems and the way a path leads

A file system is a tree of directories together with the place where relative paths start.  A path
is followed step by step (`FileSystem.follow`); each link on the way is replaced by the steps of
its target, at most `linkLimit` times.  What a path leads to is a `Place`: a node that exists, or a
free name in a directory that exists.  What is done with the last name depends on the `Purpose`.
-/

namespace Reconcile

/-- A tree of directories and the directory where relative paths start. -/
structure FileSystem where
  top : Listing
  distinct : top.Distinct
  named : top.Named := by decide
  current : Location

/-- One step on the way of a path. -/
inductive Step where
  /-- The piece `.`. -/
  | here
  /-- The piece `..`. -/
  | up
  /-- A proper name. -/
  | enter (n : Name)
  /-- The slash at the end of a path: what is in front of it must be a directory. -/
  | close
deriving DecidableEq, Repr

namespace Step

/-- The step of a piece between slashes; an empty piece makes none. -/
def ofPiece? (piece : Bytes) : Option Step :=
  if piece = [dot] then some .here
  else if piece = [dot, dot] then some .up
  else if h : Name.Proper piece then some (.enter ⟨piece, h⟩)
  else none

end Step

namespace Path

/-- The steps of a path behind its start, without the slash at the end. -/
def openSteps (p : Path) : List Step := (p.bytes.splitOn slash).filterMap Step.ofPiece?

/-- The steps of a path behind its start. -/
def steps (p : Path) : List Step :=
  if p.endsInSlash then p.openSteps ++ [.close] else p.openSteps

/-- A path of this length or more leads nowhere. -/
def lengthLimit : Nat := 4096

/-- Is the text of the path too long to be followed? -/
def tooLong (p : Path) : Bool := lengthLimit ≤ p.bytes.length

end Path

/-- The number of links that one path may lead through. -/
def linkLimit : Nat := 40

/-- What a path leads to. -/
inductive Place where
  /-- A node that exists. -/
  | taken (loc : Location)
  /-- A free name, one that an entry can have, in the directory at `parent`. -/
  | free (parent : Location) (n : Name) (fits : n.Fits)
deriving DecidableEq, Repr

/-- What the last name of a path is for. -/
inductive Purpose where
  /-- Find the node that the path itself names, even if it is a link. -/
  | inspect
  /-- Find the node that is reached in the end. -/
  | reach
  /-- Open a file for writing, which may be made on the spot. -/
  | create
  /-- Make a new entry. -/
  | make
deriving DecidableEq, Repr

/-- Is a link in the last position replaced by its target? -/
def Purpose.followsLast : Purpose → Bool
  | .inspect | .make => false
  | .reach | .create => true

namespace FileSystem

/-- What stands at a location. -/
def node? (fs : FileSystem) (loc : Location) : Option Node := fs.top.lookup loc

/-- Where the steps of a path begin. -/
def startOf (p : Path) (current : Location) : Location :=
  if p.isAbsolute then [] else current

/-- Takes steps from a location, where `jump` says how it goes on behind a link. -/
def followSteps (top : Listing) (purpose : Purpose)
    (jump : Location → List Step → Except Fault Place) :
    Location → List Step → Except Fault Place
  | loc, [] => .ok (.taken loc)
  | loc, step :: rest =>
    match top.lookup loc with
    | none => .error .notFound
    | some (.file _) | some (.link _) => .error .notDirectory
    | some (.directory inner) =>
      match step with
      | .here | .close => followSteps top purpose jump loc rest
      | .up => followSteps top purpose jump loc.dropLast rest
      | .enter n =>
        if purpose = .create ∧ rest = [.close] then .error .isDirectory
        else if long : nameLimit < n.bytes.length then .error .nameTooLong
        else if nul : 0 ∈ n.bytes then .error .nulByte
        else
          match inner.find? n with
          | none =>
            if rest = [] then .ok (.free loc n ⟨Nat.not_lt.1 long, nul⟩) else .error .notFound
          | some (.link target) =>
            if rest = [] ∧ ¬ purpose.followsLast then .ok (.taken (loc ++ [n]))
            else jump (startOf target loc) (target.steps ++ rest)
          | some _ => followSteps top purpose jump (loc ++ [n]) rest

/-- Takes steps from a location, through at most `links` links. -/
def follow (top : Listing) (purpose : Purpose) :
    (links : Nat) → Location → List Step → Except Fault Place
  | 0 => followSteps top purpose fun _ _ => .error .tooManyLinks
  | links + 1 => followSteps top purpose (follow top purpose links)

/-- What a path leads to. -/
def place (fs : FileSystem) (purpose : Purpose) (p : Path) : Except Fault Place :=
  if 0 ∈ p.bytes then .error .nulByte
  else if p.bytes = [] then .error .notFound
  else if p.tooLong then .error .nameTooLong
  else
    follow fs.top purpose linkLimit (startOf p fs.current)
      (if purpose = .make then p.openSteps else p.steps)

/-- Where the node stands that a path reaches. -/
def locate (fs : FileSystem) (p : Path) : Except Fault Location :=
  match fs.place .reach p with
  | .ok (.taken loc) => .ok loc
  | .ok (.free ..) => .error .notFound
  | .error fault => .error fault

/-- The node that a path reaches. -/
def stat (fs : FileSystem) (p : Path) : Except Fault Node :=
  match fs.locate p with
  | .ok loc => (fs.node? loc).elim (.error .notFound) .ok
  | .error fault => .error fault

/-- Does the path reach a node? -/
def existsAt (fs : FileSystem) (p : Path) : Bool := (fs.stat p).toOption.isSome

/-- Does the path reach a directory? -/
def isDirectoryAt (fs : FileSystem) (p : Path) : Bool :=
  (fs.stat p).toOption.any Node.isDirectory

/-- Does the path reach a regular file? -/
def isFileAt (fs : FileSystem) (p : Path) : Bool :=
  (fs.stat p).toOption.any Node.isFile

/-- The size that is reported for a directory. -/
def directorySize : Nat := 4096

/-- The size that is reported for the node at a location. -/
def sizeAt (fs : FileSystem) (loc : Location) : Nat :=
  match fs.node? loc with
  | some (.file content) => content.length
  | _ => directorySize

/-- The stream of the node at a location.  A directory can be opened, but not read. -/
def streamAt (fs : FileSystem) (loc : Location) : Stream :=
  match fs.node? loc with
  | some (.file content) => .ofBytes content
  | _ => ⟨[], [.failed .isDirectory]⟩

/-- The bytes of the file that a path reaches. -/
def read (fs : FileSystem) (p : Path) : Except Fault Bytes :=
  match fs.locate p with
  | .ok loc => (fs.streamAt loc).drain
  | .error fault => .error fault

end FileSystem
end Reconcile
