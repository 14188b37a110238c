import Reconcile.Pattern.Simple
import Reconcile.Pattern.Source

/-!
# Primitives of written patterns

A primitive is a character that stands for itself, a set of characters or a place.  Most are written
with a backslash.  Options apply to them as they are read: sets come out closed under case, places
with the right notion of a word.
-/

namespace Reconcile
namespace Pattern

/-- What a primitive stands for. -/
inductive Primitive where
  /-- A character; `byte` says that it was given by the number of a byte. -/
  | literal (c : Char) (byte : Bool)
  | set (s : CharSet)
  | look (place : Look)
deriving DecidableEq, Repr

namespace Parser

/-- The value of a hexadecimal digit. -/
def hexDigit? (c : Char) : Option Nat :=
  if '0' ≤ c ∧ c ≤ '9' then some (c.toNat - 48)
  else if 'a' ≤ c ∧ c ≤ 'f' then some (c.toNat - 87)
  else if 'A' ≤ c ∧ c ≤ 'F' then some (c.toNat - 55)
  else none

/-- The character with a code, if there is one. -/
def charOf? (code : Nat) : Option Char :=
  if code < 0xD800 || (0xDFFF < code && code ≤ 0x10FFFF) then some (Char.ofNat code) else none

/-- Takes so many hexadecimal digits. -/
def fixedHex (o : Options) : (digits : Nat) → (value : Nat) → Parser Nat
  | 0, value => pure value
  | digits + 1, value => do
    skipBlanks o
    match hexDigit? (← next) with
    | some d => fixedHex o digits (16 * value + d)
    | none => failure

/-- Takes the text up to a closing brace, and the brace. -/
def braced (o : Options) : Parser (List Char) := do
  let inner ← takeSpaced o (· ≠ '\x7d')
  expect '\x7d'
  pure inner

/-- The number with these hexadecimal digits, or some number that is too large for a character. -/
def ofHexDigits (digits : List Nat) : Nat :=
  digits.foldl (fun value d => min (16 * value + d) 0x110000) 0

/-- Takes the code of a character behind a letter that promises so many digits. -/
def hexEscape (o : Options) (digits : Nat) : Parser Primitive := do
  skipBlanks o
  if ← accept '\x7b' then
    match (← braced o).mapM hexDigit? with
    | none | some [] => failure
    | some digits =>
      match charOf? (ofHexDigits digits) with
      | some c => pure (.literal c false)
      | none => failure
  else
    let n ← fixedHex o digits 0
    match charOf? n with
    | some c => pure (.literal c (digits = 2))
    | none => failure

/-! ## Sets -/

/-- Closes a set under case if case does not count, and takes its complement if it is negated.
Without Unicode only sets within ASCII are allowed. -/
def finishSet (o : Options) (negated : Bool) (s : CharSet) : Parser CharSet := do
  let closed :=
    if o.ignoreCase then
      if o.unicode then Unicode.foldClosure s else Unicode.foldClosureAscii s
    else s
  if !o.unicode && (negated || !closed.isAscii) then failure
  pure (if negated then closed.complement else closed)

/-- The characters of a set with a letter of its own. -/
def shortChars (o : Options) (s : ShortSet) : CharSet := if o.unicode then s.wide else s.narrow

/-- A set with a letter of its own, which is closed under case already. -/
def shortSet (o : Options) (negated : Bool) (s : ShortSet) : Parser Primitive := do
  if !negated then pure (.set (shortChars o s))
  else if o.unicode then pure (.set (shortChars o s).complement)
  else failure

/-- The set that is meant by the text between braces, and whether its complement is meant. -/
def setOfName? (name : List Char) : Option (CharSet × Bool) :=
  match name.span fun c => c ≠ '=' && c ≠ ':' && c ≠ '!' with
  | (property, '!' :: '=' :: value) => (valued? property value).map fun s => (s, true)
  | (property, '=' :: value) => (valued? property value).map fun s => (s, false)
  | (property, ':' :: value) => (valued? property value).map fun s => (s, false)
  | _ => (named? name).map fun s => (s, false)

/-- Takes the name of a set of characters behind `\p` or `\P`. -/
def propertySet (o : Options) (negated : Bool) : Parser CharSet := do
  skipBlanks o
  if !o.unicode then failure
  let c ← next
  let name ←
    if c = '\x7b' then braced o
    else if c = '\\' then failure
    else pure [c]
  match setOfName? name with
  | some (s, other) => finishSet o (negated != other) s
  | none => failure

/-! ## Escapes -/

/-- The characters with a meaning of their own. -/
def metaChars : List Char := "\\.+*?()|[]\x7b\x7d^$#&-~".toList

/-- The place with a name in braces. -/
def namedPlace? (word : CharSet) (name : String) : Option Look :=
  match name with
  | "start" => some (.wordStart word)
  | "end" => some (.wordEnd word)
  | "start-half" => some (.wordStartHalf word)
  | "end-half" => some (.wordEndHalf word)
  | _ => none

/-- May the character stand in the name of a place? -/
def isPlaceChar (c : Char) : Bool := c.isAlpha || c = '-'

/-- Takes the rest of `\b`, which may go on with the name of a place in braces.  Braces that hold
something else belong to a repetition. -/
def boundary (o : Options) : Parser Primitive := do
  let word := shortChars o .word
  let before ← get
  if ← accept '\x7b' then
    skipBlanks o
    match ← peek with
    | none => failure
    | some c =>
      if isPlaceChar c then
        let name ← takeSpaced o isPlaceChar
        expect '\x7d'
        match namedPlace? word (String.ofList name) with
        | some place => pure (.look place)
        | none => failure
      else
        set before
        pure (.look (.wordBoundary word))
  else pure (.look (.wordBoundary word))

/-- Takes an escape behind its backslash. -/
def escape (o : Options) : Parser Primitive := do
  let c ← next
  match c with
  | 'x' => hexEscape o 2
  | 'u' => hexEscape o 4
  | 'U' => hexEscape o 8
  | 'p' => do pure (.set (← propertySet o false))
  | 'P' => do pure (.set (← propertySet o true))
  | 'd' => shortSet o false .digit
  | 'D' => shortSet o true .digit
  | 's' => shortSet o false .space
  | 'S' => shortSet o true .space
  | 'w' => shortSet o false .word
  | 'W' => shortSet o true .word
  | 'a' => pure (.literal '\x07' false)
  | 'f' => pure (.literal '\x0c' false)
  | 't' => pure (.literal '\t' false)
  | 'n' => pure (.literal '\n' false)
  | 'r' => pure (.literal '\r' false)
  | 'v' => pure (.literal '\x0b' false)
  | 'A' => pure (.look .textStart)
  | 'z' => pure (.look .textEnd)
  | 'b' => boundary o
  | 'B' => pure (.look (.notWordBoundary (shortChars o .word)))
  | '<' => pure (.look (.wordStart (shortChars o .word)))
  | '>' => pure (.look (.wordEnd (shortChars o .word)))
  | c =>
    if c ∈ metaChars || (c.toNat < 0x80 && !c.isAlphanum) then pure (.literal c false) else failure

/-- The pattern of a character that stands for itself, or for all that is the same but for case.
Without Unicode a character beyond ASCII has no other case, and cannot be given as a byte. -/
def literal (o : Options) (c : Char) (byte : Bool) : Parser Pattern := do
  if !o.unicode && byte && 0x7F < c.toNat then failure
  if !o.ignoreCase then pure (.text [c])
  else if o.unicode then pure (ofSet (Unicode.foldClosure (.single c)))
  else if c.toNat < 0x80 then pure (ofSet (Unicode.foldClosureAscii (.single c)))
  else pure (.text [c])

/-- The pattern of a primitive. -/
def ofPrimitive (o : Options) : Primitive → Parser Pattern
  | .literal c byte => literal o c byte
  | .set s => pure (ofSet s)
  | .look place => pure (.look place)

end Parser
end Pattern
end Reconcile
