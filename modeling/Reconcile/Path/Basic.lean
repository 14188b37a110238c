import Reconcile.Path.Component
import Reconcile.Sorted

/-!
# Paths

A path is a byte string.  Its text is kept as it was given and shown in messages; what it means is
its list of components.  Text and meaning meet in four operations that cut or extend the text
without normalising it: `Path.join`, `Path.parent?`, `Path.relativeTo?` and `Path.fileName?`.
Equality of sets of paths and their order go by components (`Path.key`), so `a/z` comes before
`a-b`.
-/

namespace Reconcile

/-- A path, as the text it was given in. -/
structure Path where
  bytes : Bytes
deriving DecidableEq, Repr, Inhabited

namespace Path

/-- The path with the text `s`. -/
def ofString (s : String) : Path := ⟨Utf8.encode s⟩

/-- The text of a path, with U+FFFD for what is not UTF-8. -/
def text (p : Path) : String := Utf8.lossy p.bytes

/-! ## Pieces -/

/-- Does the text start with a `.` that is a piece of its own? -/
def startsHere : Bytes → Bool
  | [b] => b = dot
  | b :: c :: _ => b = dot && c = slash
  | [] => false

/-- The start of a text that counts as a component although later pieces like it do not, and the
text behind it. -/
def lead (bytes : Bytes) : Option Component × Bytes :=
  match bytes with
  | [] => (none, [])
  | b :: rest =>
    if b = slash then (some .root, rest)
    else if startsHere (b :: rest) then (some .here, rest)
    else (none, b :: rest)

/-- The pieces behind the lead. -/
def bodyPieces (p : Path) : List Bytes := (lead p.bytes).2.splitOn slash

/-- The components of a path. -/
def components (p : Path) : List Component :=
  (lead p.bytes).1.toList ++ p.bodyPieces.filterMap Component.ofPiece?

/-- Does a piece stand for no component? -/
def isBlank (piece : Bytes) : Bool := Component.ofPiece? piece = none

/-- Drops the pieces at the end that stand for nothing. -/
def trimEnd (pieces : List Bytes) : List Bytes := (pieces.reverse.dropWhile isBlank).reverse

/-- Drops pieces from the front until `n` components are gone, then the pieces that stand for
nothing. -/
def dropComponents : (n : Nat) → List Bytes → List Bytes
  | _, [] => []
  | n, piece :: pieces =>
    if isBlank piece then dropComponents n pieces
    else
      match n with
      | 0 => piece :: pieces
      | n + 1 => dropComponents n pieces

/-! ## Operations -/

/-- Does the path start at the root? -/
def isAbsolute (p : Path) : Bool := p.bytes.head? = some slash

/-- Does the text end in a slash? -/
def endsInSlash (p : Path) : Bool := p.bytes.getLast? = some slash

/-- The path `q`, seen from `p`: an absolute `q` stands for itself, else it is put behind `p` with
one slash between them, unless `p` is empty or brings the slash. -/
def join (p q : Path) : Path :=
  if q.isAbsolute then q
  else if p.bytes = [] || p.endsInSlash then ⟨p.bytes ++ q.bytes⟩
  else ⟨p.bytes ++ slash :: q.bytes⟩

/-- The path of the entry `n` in the directory `p`. -/
def child (p : Path) (n : Name) : Path := p.join ⟨n.bytes⟩

/-- The last component, if it is a proper name. -/
def fileName? (p : Path) : Option Name :=
  match p.components.getLast? with
  | some (.name n) => some n
  | _ => none

/-- The text in front of the last component.  The root and the empty path have none. -/
def parent? (p : Path) : Option Path :=
  match trimEnd p.bodyPieces with
  | [] =>
    match (lead p.bytes).1 with
    | some .here => some ⟨[]⟩
    | _ => none
  | piece :: pieces =>
    let front := [slash].intercalate (trimEnd (piece :: pieces).dropLast)
    match (lead p.bytes).1 with
    | some c => some ⟨c.bytes ++ front⟩
    | none => some ⟨front⟩

/-- Do the components of `q` start with those of `p`? -/
def startsWith (q p : Path) : Bool := p.components.isPrefixOf q.components

/-- What is left of `q` behind the components of `p`, if `q` starts with them. -/
def relativeTo? (q p : Path) : Option Path :=
  if q.startsWith p then
    if p.components = [] then
      some ⟨(match (lead q.bytes).1 with
        | some c => c.bytes
        | none => []) ++ [slash].intercalate (trimEnd q.bodyPieces)⟩
    else
      let skipped := p.components.length - (lead q.bytes).1.toList.length
      some ⟨[slash].intercalate (trimEnd (dropComponents skipped q.bodyPieces))⟩
  else none

/-- A path, the path in front of its last component, and so on to the shortest one. -/
def ancestors (p : Path) : List Path :=
  go p.components.length p
where
  go : Nat → Path → List Path
    | 0, p => [p]
    | n + 1, p =>
      match p.parent? with
      | some q => p :: go n q
      | none => [p]

/-! ## Order -/

/-- Paths are the same, and are ordered, as these lists are. -/
def key (p : Path) : List Bytes := p.components.map Component.key

/-- Two paths have the same key when they have the same components. -/
theorem key_eq_key_iff {p q : Path} : p.key = q.key ↔ p.components = q.components :=
  List.map_inj_right fun _ _ => Component.key_injective

/-- Keys are compared piece by piece, and pieces byte by byte. -/
instance : TotalOrder (List Bytes) := inferInstance

end Path

/-- A set of paths.  Of two spellings of one path it keeps the one that came first. -/
abbrev PathSet := SortedList Path.key

end Reconcile
