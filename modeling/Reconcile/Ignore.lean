import Reconcile.Path.Basic

/-!
# Ignore rules

An ignored path is one at or below a listed path, or one whose text passes a test.
-/

namespace Reconcile

/-- What a walk leaves out. -/
structure Ignore where
  /-- These paths, relative to the root of the walk, and all that is inside them. -/
  paths : List Path
  /-- Paths whose text passes one of these tests. -/
  tests : List (String → Bool)

namespace Ignore

/-- Leaves out nothing. -/
def nothing : Ignore := ⟨[], []⟩

/-- Is the path, relative to the root of the walk, left out? -/
def covers (ignore : Ignore) (p : Path) : Bool :=
  ignore.paths.any p.startsWith || ignore.tests.any fun test => test p.text

@[simp] theorem nothing_covers (p : Path) : nothing.covers p = false := rfl

end Ignore

/-- How trees are walked and compared. -/
structure Config where
  ignore : Ignore
  /-- Take the entries of each directory in the order of their names. -/
  sortEntries : Bool
  /-- Let a link count as what it leads to. -/
  followLinks : Bool

namespace Config

/-- Leave out nothing, in order, without following links. -/
def standard : Config := ⟨.nothing, true, false⟩

end Config
end Reconcile
