import Reconcile.Diff.Error
import Reconcile.FileSystem.Inventory
import Reconcile.Ignore

/-!
# Walking a tree

A walk lists the files below a root by their paths relative to it.  Directories are entered but not
listed.  Without `Config.followLinks` a link to a directory is passed over and any other link counts
as a file; with it a link counts as what it leads to, and one that leads nowhere, or back to a
directory in which the walk already is, is a fault.  An ignored entry is left out, a directory
with all that is in it; a link that is a fault is reported even if it is ignored.

* `Walk.branches` goes through the entries of one directory, by recursion on the tree.  Behind a
  followed link it goes on in another part of the tree, which `beyond` does for it.
* `Walk.run` ties the knot.  Each followed link enters a directory in which the walk is not yet, so
  no more of them are nested than there are directories.
-/

namespace Reconcile

/-- A walk below a root. -/
structure Walk where
  fs : FileSystem
  config : Config
  root : Path

namespace Walk

/-- What a walk yields. -/
inductive Item where
  /-- A file, by its path relative to the root. -/
  | file (path : Path)
  | fault (fault : WalkFault)
deriving DecidableEq, Repr

/-- A directory in which the walk is, and the path on which it came. -/
structure Level where
  loc : Location
  path : Path
deriving DecidableEq, Repr

/-- The items of an entry that is not left out: `found` is given its path relative to the root. -/
def unlessIgnored (w : Walk) (p : Path) (found : Path → List Item) : List Item :=
  match p.relativeTo? w.root with
  | none => []
  | some relative => if w.config.ignore.covers relative then [] else found relative

/-- Puts together what was found under each name of a directory. -/
def arrange (w : Walk) (branches : List (Name × List Item)) : List Item :=
  (if w.config.sortEntries then inNameOrder branches else branches).flatMap Prod.snd

/-- The items of the link at the path `p`; `levels` are the directories in which the walk is, from
the innermost outwards. -/
def linkItems (w : Walk) (beyond : List Level → Listing → List Item) (levels : List Level)
    (p : Path) : List Item :=
  if w.config.followLinks then
    match w.fs.locate p with
    | .error fault => [.fault (.io p fault)]
    | .ok loc =>
      match w.fs.node? loc with
      | some (.directory inner) =>
        match levels.find? fun level => level.loc = loc with
        | some level => [.fault (.loop p level.path)]
        | none => w.unlessIgnored p fun _ => beyond (⟨loc, p⟩ :: levels) inner
      | _ => w.unlessIgnored p fun relative => [.file relative]
  else
    w.unlessIgnored p fun relative => if w.fs.isDirectoryAt p then [] else [.file relative]

/-- The items under each name of the directory `here`, which is inside of `above`. -/
def branches (w : Walk) (beyond : List Level → Listing → List Item) (here : Level)
    (above : List Level) : Listing → List (Name × List Item)
  | .nil => []
  | .file n _ rest =>
    (n, w.unlessIgnored (here.path.child n) fun relative => [.file relative]) ::
      w.branches beyond here above rest
  | .link n _ rest =>
    (n, w.linkItems beyond (here :: above) (here.path.child n)) ::
      w.branches beyond here above rest
  | .directory n inner rest =>
    let p := here.path.child n
    (n, w.unlessIgnored p fun _ =>
      if p.tooLong then [.fault (.io p .nameTooLong)]
      else w.arrange (w.branches beyond ⟨here.loc ++ [n], p⟩ (here :: above) inner)) ::
      w.branches beyond here above rest

/-- The items of the directory at the head of `levels`, through at most `links` nested links. -/
def run (w : Walk) : (links : Nat) → List Level → Listing → List Item
  | _, [], _ => []
  | 0, here :: above, inner => w.arrange (w.branches (fun _ _ => []) here above inner)
  | links + 1, here :: above, inner => w.arrange (w.branches (w.run links) here above inner)

end Walk

/-- Fails unless the root is a directory. -/
def checkRoot (fs : FileSystem) (root : Path) : Except DiffError Unit :=
  if fs.isDirectoryAt root then .ok () else .error (.rootNotFound root)

/-- The items below a root, in the order in which they are met. -/
def walk (fs : FileSystem) (config : Config) (root : Path) : Except DiffError (List Walk.Item) :=
  match fs.locate root with
  | .error _ => .error (.rootNotFound root)
  | .ok loc =>
    match fs.node? loc with
    | some (.directory inner) =>
      .ok (Walk.run ⟨fs, config, root⟩ (fs.top.directoryCount + 1) [⟨loc, root⟩] inner)
    | _ => .error (.rootNotFound root)

namespace Walk.Item

/-- The files in front of the first fault, added to `paths`; or that fault. -/
def collect (paths : PathSet) : List Walk.Item → Except WalkFault PathSet
  | [] => .ok paths
  | .file p :: rest => collect (paths.insert p) rest
  | .fault f :: _ => .error f

end Walk.Item

/-- The files below a root, unless the walk meets a fault. -/
def listFiles (fs : FileSystem) (config : Config) (root : Path) : Except DiffError PathSet :=
  match walk fs config root with
  | .error e => .error e
  | .ok items => (Walk.Item.collect ∅ items).mapError .walk

end Reconcile
