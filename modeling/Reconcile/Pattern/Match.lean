import Reconcile.Pattern.Basic

/-!
# Matching

On a given text a pattern says how to move from position to position: a character leads from the
place before it to the place behind it, a place leads nowhere else.  These moves are made from a
whole set of positions at once, and a pattern occurs in a text if they lead anywhere from the set of
all of them.  A set of positions is a number whose binary digits say which ones are in it.
-/

namespace Reconcile
namespace Pattern

/-- A set of positions of a text.  The position behind `i` characters is in it if the digit of
weight `2 ^ i` is one. -/
abbrev Positions := Nat

/-- The set of the marked positions, of which the first one comes first. -/
def Positions.ofMarks (marks : List Bool) : Positions :=
  marks.foldr (fun marked behind => 2 * behind + marked.toNat) 0

/-- How a pattern leads from position to position, in a given text. -/
inductive Moves where
  /-- From a marked position to the one `width` characters further on. -/
  | step (width : Nat) (marked : Positions)
  /-- One after the other. -/
  | seq (parts : List Moves)
  /-- As one of them does. -/
  | oneOf (branches : List Moves)
  /-- `least` times, and then up to `further` times more. -/
  | rep (m : Moves) (least further : Nat)
deriving Repr, Inhabited

namespace Moves

/-- Where `n` moves lead.  A set that leads to itself stays the same from there on. -/
def times (move : Positions → Positions) : (n : Nat) → (starts : Positions) → Positions
  | 0, starts => starts
  | n + 1, starts =>
    let ends := move starts
    if ends = starts then starts else times move n ends

/-- Adds to `found` where up to `n` moves lead from its part `latest`, whose other part has been
followed already. -/
def upTo (move : Positions → Positions) : (n : Nat) → (latest found : Positions) → Positions
  | 0, _, found => found
  | n + 1, latest, found =>
    let ends := move latest
    let new := ends ^^^ (ends &&& found)
    if new = 0 then found else upTo move n new (found ||| new)

mutual

/-- Where moves lead from a set of positions. -/
def ends : Moves → (starts : Positions) → Positions
  | step width marked, starts => (starts &&& marked) <<< width
  | seq parts, starts => endsOfSeq parts starts
  | oneOf branches, starts => endsOfAny branches starts
  | rep m least further, starts =>
    let first := times (ends m) least starts
    upTo (ends m) further first first

/-- Where moves lead that are made one after the other. -/
def endsOfSeq : List Moves → (starts : Positions) → Positions
  | [], starts => starts
  | m :: rest, starts => endsOfSeq rest (ends m starts)

/-- Where any of several moves leads. -/
def endsOfAny : List Moves → (starts : Positions) → Positions
  | [], _ => 0
  | m :: rest, starts => ends m starts ||| endsOfAny rest starts

end

end Moves

/-- Is the character there, and in the set? -/
def isIn (set : CharSet) (c : Option Char) : Bool := c.any set.contains

/-- Is the place between two characters as required?  `none` stands for an end of the text. -/
def holdsBetween (place : Look) (before after : Option Char) : Bool :=
  match place with
  | .textStart => before.isNone
  | .textEnd => after.isNone
  | .lineStart false => before.isNone || before = some '\n'
  | .lineStart true =>
    before.isNone || before = some '\n' || (before = some '\r' && after ≠ some '\n')
  | .lineEnd false => after.isNone || after = some '\n'
  | .lineEnd true =>
    after.isNone || after = some '\r' || (after = some '\n' && before ≠ some '\r')
  | .wordBoundary word => isIn word before != isIn word after
  | .notWordBoundary word => isIn word before == isIn word after
  | .wordStart word => !isIn word before && isIn word after
  | .wordEnd word => isIn word before && !isIn word after
  | .wordStartHalf word => !isIn word before
  | .wordEndHalf word => !isIn word after

/-- For each position of a text, from the first on, whether a place is as required. -/
def placesFrom (place : Look) (before : Option Char) : List Char → List Bool
  | [] => [holdsBetween place before none]
  | c :: rest => holdsBetween place before (some c) :: placesFrom place (some c) rest

/-- For each position of a text, from the first on, whether the rest of the text passes a test. -/
def restsFrom (test : List Char → Bool) : List Char → List Bool
  | [] => [test []]
  | c :: rest => test (c :: rest) :: restsFrom test rest

mutual

/-- The moves of a pattern in a text.  As often as one likes need not be more often than there are
positions. -/
def moves (chars : List Char) : Pattern → Moves
  | empty => .seq []
  | text run => .step run.length (.ofMarks (restsFrom (fun rest => run.isPrefixOf rest) chars))
  | char set => .step 1 (.ofMarks (restsFrom (fun rest => isIn set rest.head?) chars))
  | look place => .step 0 (.ofMarks (placesFrom place none chars))
  | group _ p => moves chars p
  | cat parts => .seq (movesOfAll chars parts)
  | alt branches => .oneOf (movesOfAll chars branches)
  | rep p least none => .rep (moves chars p) least (chars.length + 1)
  | rep p least (some most) => .rep (moves chars p) least (most - least)

/-- The moves of several patterns in a text. -/
def movesOfAll (chars : List Char) : List Pattern → List Moves
  | [] => []
  | p :: rest => moves chars p :: movesOfAll chars rest

end

/-- Does the pattern match somewhere in the text? -/
def occursIn (p : Pattern) (text : String) : Bool :=
  let chars := text.toList
  (moves chars p).ends (1 <<< (chars.length + 1) - 1) ≠ 0

end Pattern
end Reconcile
