import Reconcile.Decimal.Shortest
import Reconcile.Json.Reader

/-!
# Numbers

A number without fraction and exponent that fits into 64 bits is kept as it is.  Any other number
becomes a binary floating point number: its first digits, as many as fit into 64 bits, are scaled
by a power of ten.  A number that is too large is refused.
-/

namespace Reconcile
namespace Json

/-- A number in a JSON text. -/
inductive Number where
  | natural (n : Nat)
  /-- The negative of a positive number. -/
  | negative (n : Nat)
  | float (isNegative : Bool) (value : Binary64)
deriving DecidableEq, Repr

namespace Number

/-- The greatest number that fits into 64 bits. -/
def maxNatural : Nat := 0xFFFFFFFFFFFFFFFF

/-- The greatest exponent that is kept. -/
def maxExponent : Nat := 0x7FFFFFFF

/-- Numbers are shown with their fewest digits, as `1.5`, `100.0`, `1e+25` or `1e-7`. -/
def format : DecimalFormat where
  leastPlain := -5
  greatestPlain := 15

/-- The kind and the value of a number, as messages show them. -/
def shown : Number → String
  | .natural n => "integer `" ++ toString n ++ "`"
  | .negative n => "integer `-" ++ toString n ++ "`"
  | .float isNegative value => "floating point `" ++ format.text isNegative value ++ "`"

/-- Appends digits to `n` while the result fits into 64 bits; the second part are the digits that do
not fit. -/
def absorb : Nat → Bytes → Nat × Bytes
  | n, [] => (n, [])
  | n, d :: rest =>
    let next := 10 * n + (d.toNat - 48)
    if maxNatural < next then (n, d :: rest) else absorb next rest

/-- `x · 10 ^ exponent`, unless it is too large.  A large negative exponent is taken in steps of
308; `steps` of them are enough to reach zero. -/
def scale? : (steps : Nat) → Binary64 → Int → Option Binary64
  | steps, x, exponent =>
    if exponent.natAbs ≤ 308 then do
      let power ← Binary64.powerOfTen? exponent.natAbs
      if 0 ≤ exponent then x.mul? power else x.div? power
    else if x.units = 0 then some x
    else if 0 ≤ exponent then none
    else
      match steps with
      | 0 => some .zero
      | steps + 1 => do
        let power ← Binary64.powerOfTen? 308
        scale? steps (← x.div? power) (exponent + 308)

end Number

namespace Reader

/-- Is the byte a decimal digit? -/
def isDigit (b : UInt8) : Bool := byte '0' ≤ b && b ≤ byte '9'

/-- Does the byte start an exponent? -/
def isExponentMark (b : UInt8) : Bool := b = byte 'e' || b = byte 'E'

/-- The number `significand · 10 ^ exponent` with a sign. -/
def scaled (negative : Bool) (significand : Nat) (exponent : Int) : Reader Number :=
  match (Binary64.ofFraction? significand 1).bind fun x => Number.scale? 4 x exponent with
  | some x => pure (.float negative x)
  | none => stop .malformed

/-- Takes an exponent at its mark. -/
def exponentPart (negative : Bool) (significand : Nat) (exponent : Int) : Reader Number := do
  skip
  let sign ← peek
  if sign = some (byte '+') || sign = some (byte '-') then skip
  let digits ← takeWhile isDigit
  if digits = [] then
    match ← peek with
    | none => stop .unfinished
    | some _ => stop .malformed
  let size := digits.foldl (fun n d => 10 * n + (d.toNat - 48)) 0
  let tooLarge := Number.maxExponent < size
  if tooLarge && sign ≠ some (byte '-') && significand ≠ 0 then stop .malformed
  let _ ← peek
  if tooLarge then pure (.float negative .zero)
  else if sign = some (byte '-') then scaled negative significand (exponent - size)
  else scaled negative significand (exponent + size)

/-- Takes a fraction at its point. -/
def fractionPart (negative : Bool) (significand : Nat) (exponent : Int) : Reader Number := do
  skip
  let digits ← takeWhile isDigit
  let behind ← peek
  if digits = [] then
    if behind = none then stop .unfinished else stop .malformed
  let (significand, dropped) := Number.absorb significand digits
  let exponent := exponent - (digits.length - dropped.length : Nat)
  if behind.any isExponentMark then exponentPart negative significand exponent
  else scaled negative significand exponent

/-- Takes a number behind its sign. -/
def unsigned (negative : Bool) : Reader Number := do
  let first ← peek
  let digits ← takeWhile isDigit
  match digits with
  | [] => if first = none then stop .unfinished else stop .malformed
  | d :: more =>
    if d = byte '0' && more ≠ [] then stop .malformed
    let behind ← peek
    let (significand, dropped) := Number.absorb 0 (d :: more)
    if behind = some (byte '.') then fractionPart negative significand dropped.length
    else if behind.any isExponentMark then exponentPart negative significand dropped.length
    else if dropped ≠ [] then scaled negative significand dropped.length
    else if !negative then pure (.natural significand)
    else if significand = 0 || 0x8000000000000000 < significand then scaled true significand 0
    else pure (.negative significand)

/-- Takes a number. -/
def number : Reader Number := do
  if (← peek) = some (byte '-') then
    skip
    unsigned true
  else unsigned false

/-- Passes over digits with at least one of them. -/
def skipDigits : Reader Unit := do
  let digits ← takeWhile isDigit
  let _ ← peek
  if digits = [] then stop .malformed

/-- Passes over the exponent of a number, if it has one. -/
def skipExponent : Reader Unit := do
  if (← peek).any isExponentMark then
    skip
    let sign ← peek
    if sign = some (byte '+') || sign = some (byte '-') then skip
    skipDigits

/-- Passes over a number behind its sign. -/
def skipUnsigned : Reader Unit := do
  let first ← peek
  if first = some (byte '0') then
    skip
    if (← peek).any isDigit then stop .malformed
  else skipDigits
  if (← peek) = some (byte '.') then
    skip
    skipDigits
  skipExponent

end Reader
end Json
end Reconcile
