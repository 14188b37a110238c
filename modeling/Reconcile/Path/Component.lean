import Reconcile.Text.Utf8

/-!
# Names and components

A path is read as a list of components: perhaps the root or a leading `.`, then parent steps and
proper names.  Components are ordered root, `.`, `..`, names, and names by their bytes;
`Component.key` turns that order into the order of byte strings.
-/

namespace Reconcile

/-- The byte that separates the pieces of a path. -/
abbrev slash : UInt8 := 47

/-- The byte `.`. -/
abbrev dot : UInt8 := 46

/-- A byte string that may name a directory entry: not empty, without a slash, and neither of the
two pieces with a meaning of their own, `.` and `..`. -/
def Name.Proper (bytes : Bytes) : Prop :=
  bytes ≠ [] ∧ slash ∉ bytes ∧ bytes ≠ [dot] ∧ bytes ≠ [dot, dot]

instance (bytes : Bytes) : Decidable (Name.Proper bytes) := by
  unfold Name.Proper; infer_instance

/-- The name of a directory entry. -/
structure Name where
  bytes : Bytes
  proper : Name.Proper bytes
deriving DecidableEq, Repr

namespace Name

@[ext] theorem ext {m n : Name} (h : m.bytes = n.bytes) : m = n := by
  cases m; cases n; simp_all

/-- Names are compared as byte strings. -/
def le (m n : Name) : Bool := !decide (n.bytes < m.bytes)

end Name

/-- A component of a path. -/
inductive Component where
  /-- The slash in front of an absolute path. -/
  | root
  /-- A `.` in front of a relative path. -/
  | here
  /-- The piece `..`. -/
  | up
  /-- A proper name. -/
  | name (n : Name)
deriving DecidableEq, Repr

namespace Component

/-- What a piece between slashes stands for: nothing if it is empty or `.`. -/
def ofPiece? (piece : Bytes) : Option Component :=
  if piece = [dot, dot] then some .up
  else if h : Name.Proper piece then some (.name ⟨piece, h⟩)
  else none

/-- The text of a component. -/
def bytes : Component → Bytes
  | .root => [slash]
  | .here => [dot]
  | .up => [dot, dot]
  | .name n => n.bytes

/-- Components are ordered as these byte strings are. -/
def key : Component → Bytes
  | .root => [0]
  | .here => [1]
  | .up => [2]
  | .name n => 3 :: n.bytes

theorem key_injective {c d : Component} (h : c.key = d.key) : c = d := by
  cases c <;> cases d <;> simp_all [key, Name.ext_iff]

theorem ofPiece?_nil : ofPiece? [] = none := by
  simp [ofPiece?, Name.Proper]

theorem ofPiece?_dot : ofPiece? [dot] = none := by
  simp [ofPiece?, Name.Proper]

theorem ofPiece?_name (n : Name) : ofPiece? n.bytes = some (.name n) := by
  have h := n.proper
  have : n.bytes ≠ [dot, dot] := h.2.2.2
  simp [ofPiece?, this, h]

end Component
end Reconcile
