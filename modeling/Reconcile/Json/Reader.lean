import Reconcile.Json.Problem
import Reconcile.Text.Utf8

/-!
# Reading JSON from a stream of bytes

A reader takes bytes from the front of its input until it has a value, or stops at the first
problem.  Nothing behind that place counts, so a text may be refused for its form although it is
no JSON further on.  The input may end by a failure (`Ending.broken`), which is a problem of its own
as soon as something behind the last byte is asked for.

This file holds the input and the parts without structure: blanks, literals and texts.
-/

namespace Reconcile
namespace Json

/-- What is met behind the last byte. -/
inductive Ending where
  /-- The data are complete. -/
  | complete
  /-- Reading on fails. -/
  | broken
deriving DecidableEq, Repr

/-- What is still to be read. -/
structure Input where
  bytes : Bytes
  ending : Ending
deriving DecidableEq, Repr

/-- Takes a value from the front of the input. -/
abbrev Reader (α : Type) := StateT Input (Except Problem) α

/-- A byte of ASCII. -/
def byte (c : Char) : UInt8 := c.toNat.toUInt8

/-- The problem of an input that ends in the middle of a value. -/
def Ending.problem : Ending → Problem
  | .complete => .unfinished
  | .broken => .io

namespace Reader

/-- The next byte, which stays in the input; `none` at the end of complete data. -/
def peek : Reader (Option UInt8) := fun input =>
  match input.bytes, input.ending with
  | b :: _, _ => .ok (some b, input)
  | [], .complete => .ok (none, input)
  | [], .broken => .error .io

/-- Drops the next byte. -/
def skip : Reader Unit := fun input => .ok ((), { input with bytes := input.bytes.drop 1 })

/-- Stops with a problem. -/
def stop {α : Type} (problem : Problem) : Reader α := throw problem

/-- Takes the bytes at the front that pass a test. -/
def takeWhile (test : UInt8 → Bool) : Reader Bytes := fun input =>
  .ok (input.bytes.takeWhile test, { input with bytes := input.bytes.dropWhile test })

/-- Space, line feed, carriage return and tab count for nothing between values. -/
def isBlank (b : UInt8) : Bool := b = 32 || b = 10 || b = 13 || b = 9

/-- Drops blanks and shows the next byte. -/
def peekValue : Reader (Option UInt8) := do
  let _ ← takeWhile isBlank
  peek

/-- Takes the bytes of a literal. -/
def literal : Bytes → Reader Unit
  | [] => pure ()
  | b :: rest => do
    match ← peek with
    | none => stop .unfinished
    | some c => if c = b then skip; literal rest else stop .malformed

/-! ## Texts -/

/-- The value of a hexadecimal digit. -/
def hexDigit? (b : UInt8) : Option Nat :=
  if byte '0' ≤ b && b ≤ byte '9' then some (b.toNat - 48)
  else if byte 'a' ≤ b && b ≤ byte 'f' then some (b.toNat - 87)
  else if byte 'A' ≤ b && b ≤ byte 'F' then some (b.toNat - 55)
  else none

/-- The value of four hexadecimal digits. -/
def hexCode? (a b c d : UInt8) : Option Nat := do
  pure (4096 * (← hexDigit? a) + 256 * (← hexDigit? b) + 16 * (← hexDigit? c) + (← hexDigit? d))

/-- What a letter behind a backslash stands for. -/
def simpleEscape? (b : UInt8) : Option UInt8 :=
  if b = byte '"' then some b
  else if b = byte '\\' then some b
  else if b = byte '/' then some b
  else if b = byte 'b' then some 8
  else if b = byte 'f' then some 12
  else if b = byte 'n' then some 10
  else if b = byte 'r' then some 13
  else if b = byte 't' then some 9
  else none

/-- The bytes of the character with a code. -/
def ofCode (code : Nat) : Bytes := Utf8.encodeChars [Char.ofNat code]

/-- What `\u` stands for when `rest` follows, and the number of bytes of `rest` that belong to it.
The first half of a pair of surrogates must be followed by the second half. -/
def codeEscape (ending : Ending) (rest : Bytes) : Except Problem (Bytes × Nat) :=
  match rest with
  | a :: b :: c :: d :: rest =>
    match hexCode? a b c d with
    | none => .error .malformed
    | some high =>
      if 0xDC00 ≤ high && high ≤ 0xDFFF then .error .malformed
      else if high < 0xD800 || 0xDBFF < high then .ok (ofCode high, 4)
      else
        match rest with
        | [] => .error ending.problem
        | [x] => if x = byte '\\' then .error ending.problem else .error .malformed
        | x :: y :: rest =>
          if x ≠ byte '\\' || y ≠ byte 'u' then .error .malformed
          else
            match rest with
            | a :: b :: c :: d :: _ =>
              match hexCode? a b c d with
              | none => .error .malformed
              | some low =>
                if low < 0xDC00 || 0xDFFF < low then .error .malformed
                else .ok (ofCode (0x10000 + 1024 * (high - 0xD800) + (low - 0xDC00)), 10)
            | _ => .error ending.problem
  | _ => .error ending.problem

/-- What the byte `b` stands for inside a text when `rest` follows, and the number of bytes of
`rest` that belong to it. -/
def textUnit (ending : Ending) (b : UInt8) (rest : Bytes) : Except Problem (Bytes × Nat) :=
  if b = byte '\\' then
    match rest with
    | [] => .error ending.problem
    | e :: rest =>
      if e = byte 'u' then (codeEscape ending rest).map fun (bytes, used) => (bytes, used + 1)
      else
        match simpleEscape? e with
        | some c => .ok ([c], 1)
        | none => .error .malformed
  else if b < 32 then .error .malformed
  else .ok ([b], 0)

/-- Like `textUnit`, for a text that is passed over: only the form of an escape counts. -/
def textUnitForm (ending : Ending) (b : UInt8) (rest : Bytes) : Except Problem Nat :=
  if b = byte '\\' then
    match rest with
    | [] => .error ending.problem
    | e :: rest =>
      if e = byte 'u' then
        match rest with
        | a :: b :: c :: d :: _ => if (hexCode? a b c d).isSome then .ok 5 else .error .malformed
        | _ => .error ending.problem
      else if (simpleEscape? e).isSome then .ok 1
      else .error .malformed
  else if b < 32 then .error .malformed
  else .ok 0

/-- What a text stands for, after `used` bytes that are dealt with, up to its closing quote; and
the bytes behind it. -/
def textBody (ending : Ending) : (used : Nat) → Bytes → Except Problem (Bytes × Bytes)
  | _, [] => .error ending.problem
  | used + 1, _ :: rest => textBody ending used rest
  | 0, b :: rest =>
    if b = byte '"' then .ok ([], rest)
    else
      match textUnit ending b rest with
      | .error problem => .error problem
      | .ok (bytes, used) =>
        match textBody ending used rest with
        | .error problem => .error problem
        | .ok (more, behind) => .ok (bytes ++ more, behind)

/-- The bytes behind the closing quote of a text, after `used` bytes that are dealt with. -/
def textEnd (ending : Ending) : (used : Nat) → Bytes → Except Problem Bytes
  | _, [] => .error ending.problem
  | used + 1, _ :: rest => textEnd ending used rest
  | 0, b :: rest =>
    if b = byte '"' then .ok rest
    else
      match textUnitForm ending b rest with
      | .error problem => .error problem
      | .ok used => textEnd ending used rest

/-- Takes a text behind its opening quote. -/
def textRest : Reader String := fun input =>
  match textBody input.ending 0 input.bytes with
  | .error problem => .error problem
  | .ok (bytes, behind) =>
    match Utf8.decode? bytes with
    | none => .error .malformed
    | some s => .ok (s, { input with bytes := behind })

/-- Passes over a text behind its opening quote. -/
def skipTextRest : Reader Unit := fun input =>
  match textEnd input.ending 0 input.bytes with
  | .error problem => .error problem
  | .ok behind => .ok ((), { input with bytes := behind })

end Reader
end Json
end Reconcile
