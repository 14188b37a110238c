import Reconcile.Pattern.Basic
import Reconcile.Text.ByteRange
import Std.Data.HashMap

/-!
# The room that a pattern needs

A pattern can be searched for with a machine that goes through the bytes of a text, forward to find
where a match ends or backward to find where it starts.  Both machines are laid out here, not to run
but to count: a pattern is refused if either needs more than a fixed number of bytes.

A machine is a numbered list of states.  A state that takes one range of bytes, or none, has a fixed
size; a state with several ranges or several ways on needs more for each of them.  A set of
characters shares states between characters that end, or start, with the same bytes.
-/

namespace Reconcile
namespace Pattern

/-- The states of a machine so far, and the bytes that they need. -/
structure Footprint where
  states : Nat
  bytes : Nat
deriving DecidableEq, Repr

/-- Lays out states, as long as there is room. -/
abbrev Layouter := StateT Footprint Option

namespace Footprint

/-- The bytes that a machine may need. -/
def limit : Nat := 10 * 1024 * 1024

/-- The bytes of a state without what it has several of. -/
def stateSize : Nat := 32

/-- The bytes of each range, in a state with any number of them. -/
def rangeSize : Nat := 8

/-- The bytes of each way on, in a state with any number of them. -/
def waySize : Nat := 4

/-- Adds a state with so many further bytes, and gives its number. -/
def addState (further : Nat) : Layouter Nat := fun f =>
  let bytes := f.bytes + stateSize + further
  if limit < bytes then none else some (f.states, ⟨f.states + 1, bytes⟩)

/-- Adds a state that takes one range of bytes, or none. -/
def addPlain : Layouter Nat := addState 0

/-- Adds a state with a choice of ranges. -/
def addRanges (count : Nat) : Layouter Nat := addState (rangeSize * count)

/-- Adds a state with a choice of ways on. -/
def addWays (count : Nat) : Layouter Nat := addState (waySize * count)

/-- Does something `n` times. -/
def times : (n : Nat) → Layouter Unit → Layouter Unit
  | 0, _ => pure ()
  | n + 1, act => do
    act
    times n act

/-! ## Sets of characters -/

/-- A way on from a state: some bytes, and the number of the state behind them. -/
structure Arc where
  bytes : ByteRange
  next : Nat
deriving DecidableEq, Repr

/-- States that were laid out for a set, by what they do.  There is a fixed number of places, and a
state that comes to the place of another one displaces it. -/
abbrev Shelf := Std.HashMap Nat (List Arc × Nat)

/-- The place of a state on a shelf: a hash over the numbers that describe it. -/
def place (places : Nat) (numbers : List Nat) : Nat :=
  let hash := numbers.foldl (fun h n => (h ^^^ UInt64.ofNat n) * 1099511628211)
    (14695981039346656037 : UInt64)
  hash.toNat % places

/-- Takes a state from the shelf, or adds it with `add` and puts it there. -/
def share (place : Nat) (arcs : List Arc) (add : Layouter Nat) :
    StateT Shelf Layouter Nat := do
  match (← get)[place]? with
  | some (held, number) =>
    if held = arcs then pure number
    else
      let number ← add
      modify fun shelf => shelf.insert place (arcs, number)
      pure number
  | none =>
    let number ← add
    modify fun shelf => shelf.insert place (arcs, number)
    pure number

/-- The sequences that start with the same range, grouped by it; each without that range. -/
def groupByFirst : List (List ByteRange) → List (ByteRange × List (List ByteRange))
  | [] => []
  | [] :: rest => groupByFirst rest
  | (b :: bs) :: rest =>
    match groupByFirst rest with
    | (c, tails) :: groups =>
      if b = c then (c, bs :: tails) :: groups else (b, [bs]) :: (c, tails) :: groups
    | [] => [(b, [bs])]

/-- Lays out, from the last bytes to the first, states that lead along sequences to `target`, and
gives the first of them.  Equal states are shared. -/
def addForward (target : Nat) : (depth : Nat) → List (List ByteRange) →
    StateT Shelf Layouter Nat
  | 0, _ => pure target
  | depth + 1, sequences => do
    if sequences.all List.isEmpty then pure target
    else
      let arcs ← (groupByFirst sequences).mapM fun g => do
        pure (Arc.mk g.1 (← addForward target depth g.2))
      let numbers := arcs.flatMap fun a => [a.bytes.first, a.bytes.last, a.next]
      share (place 10000 numbers) arcs (addRanges arcs.length)

/-- Lays out states that take a sequence from its last byte to its first, and then lead to `target`.
What starts the same is shared. -/
def addBackward (target : Nat) : List ByteRange → StateT Shelf Layouter Nat
  | [] => pure target
  | b :: rest => do
    let numbers := [target, b.first, b.last]
    let number ← share (place 1000 numbers) [⟨b, target⟩] addPlain
    addBackward number rest

/-- Lays out a set of characters. -/
def addSet (way : Direction) (s : CharSet) : Layouter Unit := do
  if s.isAscii then
    let _ ← addPlain
    let _ ← addRanges s.ranges.length
  else
    let sequences := s.byteRanges
    match way with
    | .forward =>
      let target ← addPlain
      let _ ← (addForward target 4 sequences).run ∅
    | .backward =>
      let _ ← addWays sequences.length
      let target ← addPlain
      let _ ← (sequences.forM fun bytes => do
        let _ ← addBackward target bytes).run ∅

/-! ## Choices of runs of characters -/

/-- Puts a word before words that are grouped by the byte they start with, each without it. -/
def addWord : List Nat → List (Nat × List (List Nat)) → List (Nat × List (List Nat))
  | [], groups => groups
  | b :: rest, groups =>
    if groups.any fun g => g.1 = b then
      groups.map fun g => if g.1 = b then (g.1, rest :: g.2) else g
    else (b, [rest]) :: groups

/-- Lays out the states of a tree of words, but for the one at the ends of words.  Where a word
ends, what was added before it comes before its end, and what was added later behind it. -/
def addWords : (depth : Nat) → List (List Nat) → Layouter Unit
  | 0, _ => pure ()
  | depth + 1, words => do
    if words.all List.isEmpty then pure ()
    else
      let later := words.dropWhile List.isEmpty
      let parts := (if later.length < words.length then [] :: later else later).splitOn []
      let filled := parts.filter (· ≠ [])
      filled.forM fun part => do
        let groups := part.foldr addWord []
        groups.forM fun g => addWords depth g.2
        let _ ← if groups.length = 1 then addPlain else addRanges groups.length
      let _ ← addWays (filled.length + parts.length - 1)

/-- The bytes of a run of characters, in the order in which a way through a text meets them. -/
def wordOf (way : Direction) (chars : List Char) : List Nat :=
  let bytes := chars.flatMap fun c => CharRange.bytesOf c.toNat
  match way with
  | .forward => bytes
  | .backward => bytes.reverse

/-- The characters of a run. -/
def run? : Pattern → Option (List Char)
  | text chars => some chars
  | _ => none

/-! ## Patterns -/

mutual

/-- Lays out a pattern. -/
def add (way : Direction) : Pattern → Layouter Unit
  | empty => do let _ ← addPlain
  | text chars => times (wordOf way chars).length do let _ ← addPlain
  | char set => addSet way set
  | look _ => do let _ ← addPlain
  | group _ p =>
    match way with
    | .forward => do
      let _ ← addPlain
      add way p
      let _ ← addPlain
    | .backward => add way p
  | cat parts => addAll way parts
  | alt branches =>
    match branches.mapM run? with
    | some runs => do
      let _ ← addPlain
      let words := runs.map (wordOf way)
      addWords ((words.map List.length).foldl max 0 + 1) words
    | none => do
      addBranches way 2 branches
      let _ ← addWays branches.length
      let _ ← addPlain
      addBranchesFrom way 2 branches
  | rep p 0 (some 1) => do
    let _ ← addWays 2
    add way p
    let _ ← addPlain
  | rep p 0 none =>
    if p.isNeverEmpty then do
      let _ ← addWays 2
      add way p
    else do
      add way p
      let _ ← addWays 2
      let _ ← addWays 2
      let _ ← addPlain
  | rep p least none => do
    times least (add way p)
    let _ ← addWays 2
  | rep p least (some most) => do
    if least = 0 then
      let _ ← addPlain
    times least (add way p)
    if least < most then
      let _ ← addPlain
      times (most - least) do
        let _ ← addWays 2
        add way p

/-- Lays out patterns one after the other, in the order in which the way meets them. -/
def addAll (way : Direction) : List Pattern → Layouter Unit
  | [] => pure ()
  | p :: rest =>
    match way with
    | .forward => do
      add way p
      addAll way rest
    | .backward => do
      addAll way rest
      add way p

/-- Lays out the first branches of a choice. -/
def addBranches (way : Direction) : (count : Nat) → List Pattern → Layouter Unit
  | count + 1, p :: rest => do
    add way p
    addBranches way count rest
  | _, _ => pure ()

/-- Lays out the branches of a choice behind the first ones. -/
def addBranchesFrom (way : Direction) : (count : Nat) → List Pattern → Layouter Unit
  | _, [] => pure ()
  | 0, p :: rest => do
    add way p
    addBranchesFrom way 0 rest
  | count + 1, _ :: rest => addBranchesFrom way count rest

end

/-- Lays out the machine of a pattern: the way to where a match starts, the pattern, with the bounds
of the match on the way forward, and the end. -/
def addMachine (way : Direction) (p : Pattern) : Layouter Unit := do
  if p.isAnchored way then
    let _ ← addPlain
  else
    let _ ← addWays 2
    let _ ← addPlain
    let _ ← addRanges 1
  add way (.group 0 p)
  let _ ← addPlain

end Footprint

/-- Do both machines of a pattern fit into the room? -/
def fits (p : Pattern) : Bool :=
  [Direction.forward, .backward].all fun way => ((Footprint.addMachine way p).run ⟨0, 0⟩).isSome

end Pattern
end Reconcile
