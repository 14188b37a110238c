import Reconcile.FileSystem.Basic

/-!
# What is below a path

The inventory of a path lists the node that it names and everything below, parents before
children and the children of a directory in the order of their names.  Links are listed, not
followed.
-/

namespace Reconcile

/-- What is found under each name of a directory, put in the order of the names. -/
def inNameOrder {α : Type} (branches : List (Name × α)) : List (Name × α) :=
  branches.mergeSort fun a b => a.1.le b.1

namespace Listing

/-- For each entry, the nodes from there on down.  `path` is the path of the directory. -/
def branches (path : Path) : Listing → List (Name × List (Path × Node))
  | nil => []
  | file n content rest => (n, [(path.child n, .file content)]) :: rest.branches path
  | link n target rest => (n, [(path.child n, .link target)]) :: rest.branches path
  | directory n inner rest =>
    (n, (path.child n, .directory inner) ::
      (inNameOrder (inner.branches (path.child n))).flatMap Prod.snd) :: rest.branches path

/-- The nodes below a directory whose path is `path`. -/
def nodesBelow (path : Path) (l : Listing) : List (Path × Node) :=
  (inNameOrder (l.branches path)).flatMap Prod.snd

end Listing

namespace FileSystem

/-- The node that a path itself names, and the nodes below it. -/
def inventory (fs : FileSystem) (p : Path) : Except Fault (List (Path × Node)) := do
  match ← fs.place .inspect p with
  | .free .. => .error .notFound
  | .taken loc =>
    match fs.node? loc with
    | none => .error .notFound
    | some (.directory inner) => .ok ((p, .directory inner) :: inner.nodesBelow p)
    | some node => .ok [(p, node)]

end FileSystem
end Reconcile
