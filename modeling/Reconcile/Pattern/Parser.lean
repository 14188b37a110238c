import Reconcile.Pattern.Bracket
import Reconcile.Pattern.Footprint

/-!
# The written form of patterns

A pattern is read from left to right by recursive descent.  Options such as `(?i)` hold up to the
end of the group in which they stand, so they are carried along.  A text that is no pattern is
refused without a reason, as is a pattern that is nested too deeply or needs too much room.
-/

namespace Reconcile
namespace Pattern
namespace Parser

/-! ## Repetition -/

/-- Takes a count, with blanks around it. -/
def decimal (o : Options) : Parser Nat := do
  let _ ← takeWhile isBlank
  let digits ← takeSpaced o Char.isDigit
  let _ ← takeWhile isBlank
  let n := digits.foldl (fun n d => 10 * n + (d.toNat - 48)) 0
  if digits = [] || 0x100000000 ≤ n then failure else pure n

/-- Takes the counts of a repetition behind the opening brace. -/
def counts (o : Options) : Parser (Nat × Option Nat) := do
  skipBlanks o
  let least ← decimal o
  let most ←
    if ← accept ',' then
      skipBlanks o
      if (← peek) = some '\x7d' then pure none else pure (some (← decimal o))
    else pure (some least)
  expect '\x7d'
  skipBlanks o
  let _ ← accept '?'
  if most.any fun m => m < least then failure
  pure (least, most)

/-! ## Groups -/

/-- What is known of options that are being read. -/
structure OptionList where
  seen : List Char
  negating : Bool
  /-- Has nothing been read behind the sign? -/
  dangling : Bool
  options : Options

/-- Sets an option by its letter. -/
def setOption (o : Options) (letter : Char) (value : Bool) : Option Options :=
  match letter with
  | 'i' => some { o with ignoreCase := value }
  | 'm' => some { o with multiLine := value }
  | 's' => some { o with dotAll := value }
  | 'U' => some o
  | 'u' => some { o with unicode := value }
  | 'R' => some { o with crlf := value }
  | 'x' => some { o with verbose := value }
  | _ => none

/-- Takes options up to a colon or a closing parenthesis, which stays. -/
def optionList : (bound : Nat) → OptionList → Parser OptionList
  | 0, _ => failure
  | bound + 1, l => do
    match ← peek with
    | none => failure
    | some c =>
      if c = ':' || c = ')' then
        if l.dangling then failure
        pure l
      else if c = '-' then
        if l.negating then failure
        drop 1
        optionList bound { l with negating := true, dangling := true }
      else
        if c ∈ l.seen then failure
        match setOption l.options c (!l.negating) with
        | none => failure
        | some o =>
          drop 1
          optionList bound { l with seen := c :: l.seen, dangling := false, options := o }

/-- Is the character a letter, as names of groups know them? -/
def isNameLetter (c : Char) : Bool := (Unicode.Property.alphabetic.set .seventeen).contains c

/-- Is the character a number, as names of groups know them? -/
def isNameNumber (c : Char) : Bool :=
  (Unicode.Category.union .seventeen [.nd, .nl, .no]).contains c

/-- May the character stand in the name of a group? -/
def isNameChar (first : Bool) (c : Char) : Bool :=
  c = '_' || isNameLetter c ||
    (!first && (c = '.' || c = '[' || c = ']' || isNameNumber c))

/-- Takes the name of a group up to its closing bracket. -/
def groupName : Parser Unit := do
  let name ← takeWhile fun c => c ≠ '>'
  expect '>'
  match name with
  | [] => failure
  | c :: rest =>
    if !isNameChar true c || !rest.all (isNameChar false) then failure
    if name ∈ (← get).names then failure
    modify fun s => { s with names := name :: s.names }

/-- What a parenthesis opens. -/
inductive Opening where
  /-- A group with a number. -/
  | numbered (number : Nat)
  /-- A group without a number, with options of its own. -/
  | plain (o : Options)
  /-- Options for what follows. -/
  | options (o : Options)

/-- The number of the group that is opened. -/
def groupNumber : Parser Nat := do
  modify fun s => { s with groups := s.groups + 1 }
  pure (← get).groups

/-- Takes what follows an opening parenthesis and belongs to it.  Fewer than `bound` characters are
still to be read. -/
def opening (bound : Nat) (o : Options) : Parser Opening := do
  skipBlanks o
  match (← get).chars with
  | '?' :: '=' :: _ | '?' :: '!' :: _ | '?' :: '<' :: '=' :: _ | '?' :: '<' :: '!' :: _ => failure
  | '?' :: 'P' :: '<' :: _ => do
    drop 3
    groupName
    pure (.numbered (← groupNumber))
  | '?' :: '<' :: _ => do
    drop 2
    groupName
    pure (.numbered (← groupNumber))
  | '?' :: _ => do
    drop 1
    let l ← optionList bound ⟨[], false, false, o⟩
    if (← next) = ':' then pure (.plain l.options)
    else if l.seen = [] then failure
    else pure (.options l.options)
  | _ => pure (.numbered (← groupNumber))

/-- The set of the dot. -/
def dotSet (o : Options) : Parser CharSet := do
  if !o.unicode then failure
  pure (if o.dotAll then .all
    else if o.crlf then ((CharSet.single '\n').union (.single '\r')).complement
    else (CharSet.single '\n').complement)

/-! ## The whole -/

/-- The greatest nesting of a pattern. -/
def greatestNesting : Nat := 250

/-- A part of a pattern as it was written. -/
structure Part where
  pattern : Pattern
  /-- How many groups, sets, repetitions, sequences and choices lie around the innermost part. -/
  nesting : Nat
  /-- Can it be repeated?  What sets options cannot. -/
  repeatable : Bool

/-- What has been read of a group: finished branches, and the parts of the branch that is being
read; both with the last one first. -/
structure Progress where
  branches : List Part
  parts : List Part

namespace Progress

/-- The greatest nesting of some parts, and one more if there are several. -/
def nestingOf (parts : List Part) : Nat :=
  parts.foldl (fun n p => max n p.nesting) 0 + (if parts.length ≤ 1 then 0 else 1)

/-- The branch that is being read. -/
def branch (p : Progress) : Part :=
  ⟨sequence (p.parts.reverse.map Part.pattern), nestingOf p.parts, true⟩

/-- All branches together. -/
def whole (p : Progress) : Part :=
  let all := p.branch :: p.branches
  ⟨choice (all.reverse.map Part.pattern), nestingOf all, true⟩

/-- Adds a part. -/
def push (p : Progress) (pattern : Pattern) (nesting : Nat) : Progress :=
  { p with parts := ⟨pattern, nesting, true⟩ :: p.parts }

/-- Ends a branch. -/
def nextBranch (p : Progress) : Progress := ⟨p.branch :: p.branches, []⟩

/-- Repeats the last part, if that does not nest it too deeply. -/
def repeatLast (p : Progress) (least : Nat) (most : Option Nat) : Parser Progress :=
  match p.parts with
  | ⟨last, nesting, true⟩ :: rest =>
    if nesting < greatestNesting then
      pure { p with parts := ⟨repeated last least most, nesting + 1, true⟩ :: rest }
    else failure
  | _ => failure

end Progress

/-- Takes the rest of a group up to its closing parenthesis, or of the whole up to the end; `depth`
is the number of groups around it. -/
def body : (bound : Nat) → (depth : Nat) → Options → Progress → Parser Part
  | 0, _, _, _ => failure
  | bound + 1, depth, o, p => do
    if greatestNesting < depth then failure
    skipBlanks o
    match ← peek with
    | none => if depth = 0 then pure p.whole else failure
    | some c =>
      drop 1
      match c with
      | '(' => do
        match ← opening bound o with
        | .options o => body bound depth o { p with parts := ⟨.empty, 0, false⟩ :: p.parts }
        | .plain inner =>
          let q ← body bound (depth + 1) inner ⟨[], []⟩
          body bound depth o (p.push q.pattern (q.nesting + 1))
        | .numbered n =>
          let q ← body bound (depth + 1) o ⟨[], []⟩
          body bound depth o (p.push (.group n q.pattern) (q.nesting + 1))
      | ')' => if depth = 0 then failure else pure p.whole
      | '|' => body bound depth o p.nextBranch
      | '[' => do
        let s ← bracketSet bound o
        body bound depth o (p.push (ofSet s.chars) s.nesting)
      | '?' => do
        let _ ← accept '?'
        body bound depth o (← p.repeatLast 0 (some 1))
      | '*' => do
        let _ ← accept '?'
        body bound depth o (← p.repeatLast 0 none)
      | '+' => do
        let _ ← accept '?'
        body bound depth o (← p.repeatLast 1 none)
      | '\x7b' => do
        let (least, most) ← counts o
        body bound depth o (← p.repeatLast least most)
      | '.' => do body bound depth o (p.push (ofSet (← dotSet o)) 0)
      | '^' =>
        let place := if o.multiLine then .lineStart o.crlf else .textStart
        body bound depth o (p.push (.look place) 0)
      | '$' =>
        let place := if o.multiLine then .lineEnd o.crlf else .textEnd
        body bound depth o (p.push (.look place) 0)
      | '\\' => do body bound depth o (p.push (← ofPrimitive o (← escape o)) 0)
      | c => do body bound depth o (p.push (← literal o c false) 0)

end Parser

/-- The pattern with a written form. -/
def parse? (text : String) : Option Pattern := do
  let chars := text.toList
  let part ← (Parser.body (chars.length + 1) 0 .standard ⟨[], []⟩).run' ⟨chars, [], 0⟩
  guard (part.nesting ≤ Parser.greatestNesting && fits part.pattern)
  pure part.pattern

end Pattern
end Reconcile
