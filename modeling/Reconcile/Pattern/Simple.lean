import Reconcile.Pattern.Basic

/-!
# The simple form of patterns

Patterns are put together in a simple form: no part of a sequence is empty, a sequence, or a run of
characters next to another one; no branch of a choice is a choice; a choice of characters or of
sets is a set; a set of one character is that character; what all branches of a choice start with
stands before it.
-/

namespace Reconcile
namespace Pattern

/-- One character of a set. -/
def ofSet (s : CharSet) : Pattern :=
  match s.ranges with
  | [r] => if r.first = r.last then text [Char.ofNat r.first] else char s
  | _ => char s

/-! ## Sequence -/

/-- The parts of a pattern that is a sequence. -/
def factors : Pattern → List Pattern
  | cat parts => parts
  | p => [p]

/-- Puts a part in front of others. -/
def push : Pattern → List Pattern → List Pattern
  | empty, rest => rest
  | text a, text b :: rest => text (a ++ b) :: rest
  | p, rest => p :: rest

/-- Patterns one after the other. -/
def sequence (parts : List Pattern) : Pattern :=
  match (parts.flatMap factors).foldr push [] with
  | [] => empty
  | [p] => p
  | parts => cat parts

/-! ## Choice -/

/-- The branches of a pattern that is a choice. -/
def branches : Pattern → List Pattern
  | alt branches => branches
  | p => [p]

/-- The character that the pattern stands for, if it stands for one. -/
def singleChar? : Pattern → Option Char
  | text [c] => some c
  | _ => none

/-- The set that the pattern stands for, if it stands for one. -/
def singleSet? : Pattern → Option CharSet
  | char set => some set
  | _ => none

/-- The parts of the pattern, if it is a sequence. -/
def parts? : Pattern → Option (List Pattern)
  | cat parts => some parts
  | _ => none

/-- A choice of branches that are no choices, as a set if it is one. -/
def gather (branches : List Pattern) : Option Pattern :=
  match branches with
  | [] => some (char .empty)
  | [p] => some p
  | _ =>
    match branches.mapM singleChar? with
    | some cs => some (ofSet (.of (cs.map fun c => ⟨c.toNat, c.toNat⟩)))
    | none => (branches.mapM singleSet?).map fun sets => ofSet (.of (sets.flatMap (·.ranges)))

/-- What two sequences start with. -/
def commonFront : List Pattern → List Pattern → List Pattern
  | p :: ps, q :: qs => if p == q then p :: commonFront ps qs else []
  | _, _ => []

/-- What all branches start with, if they are sequences that start with the same. -/
def sharedFront (branches : List Pattern) : List Pattern :=
  match branches.mapM parts? with
  | some (first :: rest) => rest.foldl commonFront first
  | _ => []

/-- A choice of patterns. -/
def choice (alternatives : List Pattern) : Pattern :=
  let all := alternatives.flatMap branches
  match gather all with
  | some p => p
  | none =>
    match sharedFront all with
    | [] => alt all
    | front =>
      let rests := (all.map fun p => sequence ((factors p).drop front.length)).flatMap branches
      sequence (front ++ [(gather rests).getD (alt rests)])

/-! ## Repetition -/

/-- At least `least` and at most `most` times.  Where nothing is taken, once is as good as often. -/
def repeated (p : Pattern) (least : Nat) (most : Option Nat) : Pattern :=
  let (least, most) :=
    if p.isZeroWidth then (min least 1, some ((most.map (min · 1)).getD 1)) else (least, most)
  if most = some 0 then empty
  else if least = 1 && most = some 1 then p
  else rep p least most

end Pattern
end Reconcile
