import Reconcile.Pattern.Class

/-!
# Reading written patterns

What is still to be read of a written pattern, the options that hold there, and the steps that all
its parts are read by.  Reading either takes something from the front or fails without a reason.
-/

namespace Reconcile
namespace Pattern

/-- Options that change the meaning of what follows. -/
structure Options where
  ignoreCase : Bool
  /-- `^` and `$` hold at each line. -/
  multiLine : Bool
  /-- `.` stands for every character. -/
  dotAll : Bool
  /-- A carriage return ends lines too. -/
  crlf : Bool
  /-- Sets of characters are not restricted to ASCII. -/
  unicode : Bool
  /-- Blanks and comments count for nothing. -/
  verbose : Bool
deriving DecidableEq, Repr

/-- The options at the start. -/
def Options.standard : Options := ⟨false, false, false, false, true, false⟩

/-- What is still to be read, with the names and the number of the groups so far. -/
structure Source where
  chars : List Char
  names : List (List Char)
  groups : Nat
deriving DecidableEq, Repr

/-- Takes something from the front of a source. -/
abbrev Parser := StateT Source Option

namespace Parser

/-- The next character, which stays. -/
def peek : Parser (Option Char) := do pure (← get).chars.head?

/-- Drops some characters. -/
def drop (n : Nat) : Parser Unit := modify fun s => { s with chars := s.chars.drop n }

/-- Takes the next character. -/
def next : Parser Char := do
  match (← get).chars with
  | [] => failure
  | c :: rest =>
    modify fun s => { s with chars := rest }
    pure c

/-- Takes a character that must be there. -/
def expect (c : Char) : Parser Unit := do
  if (← next) ≠ c then failure

/-- Takes a character if it is there. -/
def accept (c : Char) : Parser Bool := do
  if (← peek) = some c then do drop 1; pure true
  else pure false

/-- Takes the characters at the front that pass a test. -/
def takeWhile (test : Char → Bool) : Parser (List Char) := do
  let taken := (← get).chars.takeWhile test
  drop taken.length
  pure taken

/-- Is the character a blank? -/
def isBlank (c : Char) : Bool := ShortSet.space.wide.contains c

/-- The text behind blanks and comments; `inComment` says that it starts inside a comment. -/
def dropBlanks : (inComment : Bool) → List Char → List Char
  | _, [] => []
  | true, c :: rest => dropBlanks (c ≠ '\n') rest
  | false, c :: rest =>
    if c = '#' then dropBlanks true rest
    else if isBlank c then dropBlanks false rest
    else c :: rest

/-- Drops blanks and comments, if they count for nothing. -/
def skipBlanks (o : Options) : Parser Unit := do
  if o.verbose then modify fun s => { s with chars := dropBlanks false s.chars }

/-- The characters up to the first one that fails a test, and the text from there on.  Blanks and
comments are left out. -/
def spanSpaced (test : Char → Bool) : (inComment : Bool) → List Char → List Char × List Char
  | _, [] => ([], [])
  | true, c :: rest => spanSpaced test (c ≠ '\n') rest
  | false, c :: rest =>
    if c = '#' then spanSpaced test true rest
    else if isBlank c then spanSpaced test false rest
    else if test c then
      let (taken, behind) := spanSpaced test false rest
      (c :: taken, behind)
    else ([], c :: rest)

/-- Takes the characters at the front that pass a test; where blanks and comments count for nothing,
with those between them. -/
def takeSpaced (o : Options) (test : Char → Bool) : Parser (List Char) := do
  if o.verbose then
    let source ← get
    let (taken, behind) := spanSpaced test false source.chars
    set { source with chars := behind }
    pure taken
  else takeWhile test

end Parser
end Pattern
end Reconcile
