import Reconcile.Pattern.Escape

/-!
# Sets in brackets

A set in brackets is written as parts that operators join from the left.  A part is a run of items:
characters, ranges, named sets and further sets in brackets.  Along with a set goes its nesting:
how many brackets, operators and runs of several items lie around its innermost item.
-/

namespace Reconcile
namespace Pattern

/-- How the parts of a set in brackets are joined. -/
inductive SetOperator where
  | both
  | without
  | oneOf
deriving DecidableEq, Repr

/-- A set with its nesting. -/
structure NestedSet where
  chars : CharSet
  nesting : Nat
deriving DecidableEq, Repr

/-- A run of items. -/
structure ItemRun where
  /-- The ranges of the items, as they come. -/
  ranges : List CharRange
  /-- The number of items. -/
  count : Nat
  /-- The greatest nesting of an item. -/
  nesting : Nat
deriving DecidableEq, Repr

namespace ItemRun

/-- No items. -/
def empty : ItemRun := ⟨[], 0, 0⟩

/-- Adds an item. -/
def add (r : ItemRun) (s : NestedSet) : ItemRun :=
  ⟨s.chars.ranges ++ r.ranges, r.count + 1, max r.nesting s.nesting⟩

/-- Adds an item without items of its own. -/
def addPlain (r : ItemRun) (s : CharSet) : ItemRun := r.add ⟨s, 0⟩

/-- The set of the items. -/
def toSet (r : ItemRun) : NestedSet :=
  ⟨.of r.ranges, if r.count ≤ 1 then r.nesting else r.nesting + 1⟩

end ItemRun

namespace Parser

/-- Applies an operator to sets that are closed under case if case does not count. -/
def applyOperator (o : Options) (op : SetOperator) (s t : CharSet) : CharSet :=
  let close (s : CharSet) : CharSet :=
    if o.ignoreCase then
      if o.unicode then Unicode.foldClosure s else Unicode.foldClosureAscii s
    else s
  match op with
  | .both => (close s).inter (close t)
  | .without => (close s).diff (close t)
  | .oneOf => (close s).symmDiff (close t)

/-- Joins what was read before the last operator with the run that has just ended. -/
def closeRun (o : Options) (pending : Option (NestedSet × SetOperator)) (run : ItemRun) :
    NestedSet :=
  match pending with
  | none => run.toSet
  | some (s, op) =>
    let t := run.toSet
    ⟨applyOperator o op s.chars t.chars, max s.nesting t.nesting + 1⟩

/-- Takes a set that ASCII knows by name, as in `[:alpha:]`, if one is there. -/
def asciiSet? (o : Options) : Parser (Option CharSet) := do
  let source ← get
  match source.chars with
  | '[' :: ':' :: rest =>
    let (negated, rest) :=
      match rest with
      | '^' :: rest => (true, rest)
      | _ => (false, rest)
    let name := rest.takeWhile fun c => c ≠ ':'
    match rest.drop name.length with
    | ':' :: ']' :: rest =>
      match ascii? (String.ofList name) with
      | none => pure none
      | some s =>
        set { source with chars := rest }
        pure (some (← finishSet o negated s))
    | _ => pure none
  | _ => pure none

/-- Takes one end of a range, or an escape. -/
def setItem (o : Options) : Parser Primitive := do
  if ← accept '\\' then escape o else pure (.literal (← next) false)

/-- The character at an end of a range. -/
def rangeEnd (o : Options) : Primitive → Parser Char
  | .literal c _ =>
    if !o.unicode && 0x7F < c.toNat then failure else pure c
  | _ => failure

/-- Is a hyphen next that makes a range of what goes before?  It does not if a hyphen or the closing
bracket follows.  In this look ahead blanks are passed over, and of a comment its sign alone. -/
def rangeFollows (o : Options) : Parser Bool := do
  match (← get).chars with
  | '-' :: rest =>
    let after :=
      if o.verbose then
        match rest.dropWhile isBlank with
        | '#' :: rest => rest.dropWhile isBlank
        | rest => rest
      else rest
    pure (after.head? ≠ some ']' && after.head? ≠ some '-')
  | _ => pure false

/-- Takes a character, a range or a set without brackets. -/
def setRange (o : Options) : Parser CharSet := do
  let first ← setItem o
  skipBlanks o
  if ← rangeFollows o then
    drop 1
    skipBlanks o
    let last ← setItem o
    let a ← rangeEnd o first
    let b ← rangeEnd o last
    if b.toNat < a.toNat then failure
    pure (.range a.toNat b.toNat)
  else
    match first with
    | .literal _ _ => pure (.single (← rangeEnd o first))
    | .set s => pure s
    | .look _ => failure

/-- Takes hyphens, which stand for themselves right behind the opening bracket. -/
def leadingHyphens (o : Options) : (bound : Nat) → ItemRun → Parser ItemRun
  | 0, run => pure run
  | bound + 1, run => do
    if ← accept '-' then
      skipBlanks o
      leadingHyphens o bound (run.addPlain (.single '-'))
    else pure run

/-- Takes what goes before the items of a set: whether it is negated, and what stands for itself
only there.  Fewer than `bound` characters are still to be read. -/
def setStart (bound : Nat) (o : Options) : Parser (Bool × ItemRun) := do
  skipBlanks o
  let negated ← accept '^'
  skipBlanks o
  let run ← leadingHyphens o bound .empty
  if run.count = 0 then
    if ← accept ']' then
      return (negated, run.addPlain (.single ']'))
  return (negated, run)

/-- The set that the brackets around `s` stand for. -/
def closeSet (o : Options) (negated : Bool) (s : NestedSet) : Parser NestedSet := do
  pure ⟨← finishSet o negated s.chars, s.nesting + 1⟩

/-- Takes the items of a set, up to its closing bracket.  `pending` is what goes before the last
operator, `run` what has been read behind it. -/
def setItems (o : Options) : (bound : Nat) → Option (NestedSet × SetOperator) → ItemRun →
    Parser NestedSet
  | 0, _, _ => failure
  | bound + 1, pending, run => do
    skipBlanks o
    match (← get).chars with
    | [] => failure
    | '[' :: _ =>
      match ← asciiSet? o with
      | some s => setItems o bound pending (run.addPlain s)
      | none =>
        drop 1
        let (negated, start) ← setStart bound o
        let inner ← setItems o bound none start
        setItems o bound pending (run.add (← closeSet o negated inner))
    | ']' :: _ =>
      drop 1
      pure (closeRun o pending run)
    | '&' :: '&' :: _ =>
      drop 2
      setItems o bound (some (closeRun o pending run, .both)) .empty
    | '-' :: '-' :: _ =>
      drop 2
      setItems o bound (some (closeRun o pending run, .without)) .empty
    | '~' :: '~' :: _ =>
      drop 2
      setItems o bound (some (closeRun o pending run, .oneOf)) .empty
    | _ =>
      let s ← setRange o
      setItems o bound pending (run.addPlain s)

/-- Takes a set in brackets behind its opening bracket.  Fewer than `bound` characters are still to
be read. -/
def bracketSet (bound : Nat) (o : Options) : Parser NestedSet := do
  let (negated, start) ← setStart bound o
  closeSet o negated (← setItems o bound none start)

end Parser
end Pattern
end Reconcile
