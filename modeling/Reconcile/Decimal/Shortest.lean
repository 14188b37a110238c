import Reconcile.Decimal.Binary64

/-!
# The shortest decimal that reads back

A number of the binary format stands for all reals that are rounded to it.  Its decimal form has as
few digits as any decimal among them, and of those with so few digits it is the one nearest to the
number itself.
-/

namespace Reconcile

/-- The number `digits · 10 ^ exponent`. -/
structure DecimalForm where
  digits : Nat
  exponent : Int
deriving DecidableEq, Repr

namespace Decimal

/-- The reals that are rounded to a number, in quarters of a unit: the ends, and whether they
belong to the interval. -/
structure Interval where
  low : Nat
  high : Nat
  closed : Bool
deriving DecidableEq, Repr

/-- The reals that are rounded to `x`.  Below a power of two the next number is nearer. -/
def intervalOf (x : Binary64) : Interval :=
  let gap := Nat.pow 2 (Binary64.spareBits x.units)
  let narrow := Binary64.spareBits x.units ≠ 0 && x.units = Nat.pow 2 x.units.log2
  { low := 4 * x.units - (if narrow then gap else 2 * gap)
    high := 4 * x.units + 2 * gap
    closed := x.units / gap % 2 = 0 }

/-- The factor that turns multiples of `10 ^ exponent` into quarters of a unit, as a fraction. -/
def quarters (exponent : Int) : Nat × Nat :=
  let perOne := 4 * Nat.pow 2 Binary64.unitExponent
  match exponent with
  | .ofNat n => (Nat.pow 10 n * perOne, 1)
  | .negSucc n => (perOne, Nat.pow 10 (n + 1))

/-- Is the number `d` among the reals of the interval? -/
def Interval.holds (i : Interval) (d : DecimalForm) : Bool :=
  let (num, den) := quarters d.exponent
  let point := d.digits * num
  if i.closed then i.low * den ≤ point && point ≤ i.high * den
  else i.low * den < point && point < i.high * den

/-- How far `d` is from `x`, times the denominator of its grid. -/
def distance (x : Binary64) (d : DecimalForm) : Nat :=
  let (num, den) := quarters d.exponent
  let point := d.digits * num
  let value := 4 * x.units * den
  (point - value) + (value - point)

/-- The multiples of `10 ^ exponent` just below and just above `x`. -/
def neighbours (x : Binary64) (exponent : Int) : DecimalForm × DecimalForm :=
  let (num, den) := quarters exponent
  let below := 4 * x.units * den / num
  (⟨below, exponent⟩, ⟨below + 1, exponent⟩)

/-- The better of the two neighbours of `x` on a grid, if one of them reads back as `x`. -/
def onGrid? (x : Binary64) (exponent : Int) : Option DecimalForm :=
  let (below, above) := neighbours x exponent
  match (intervalOf x).holds below, (intervalOf x).holds above with
  | true, true => some (if distance x above < distance x below then above else below)
  | true, false => some below
  | false, true => some above
  | false, false => none

/-- The exponent of the first decimal digit of a number, found among `start`, `start - 1`, … -/
def leadingExponent (x : Binary64) : (tries : Nat) → (start : Int) → Int
  | 0, start => start
  | tries + 1, start =>
    let (num, den) := quarters start
    if num ≤ 4 * x.units * den then start else leadingExponent x tries (start - 1)

/-- Tries grids from `exponent` downwards. -/
def shortestFrom (x : Binary64) : (tries : Nat) → (exponent : Int) → DecimalForm
  | 0, exponent => (neighbours x exponent).1
  | tries + 1, exponent =>
    match onGrid? x exponent with
    | some d => d
    | none => shortestFrom x tries (exponent - 1)

/-- The shortest decimal that reads back as a positive number. -/
def shortest (x : Binary64) : DecimalForm :=
  shortestFrom x 17 (leadingExponent x 633 308)

end Decimal

/-- How a decimal is written. -/
structure DecimalFormat where
  /-- The least exponent of the first digit that is written without an exponent. -/
  leastPlain : Int
  /-- The greatest such exponent. -/
  greatestPlain : Int

namespace DecimalFormat

/-- Digits without an exponent, the first of which has the exponent `first`; there is always a digit
on each side of the point. -/
def plain (digits : List Char) (first : Int) : List Char :=
  match first with
  | .ofNat n =>
    let whole := digits.take (n + 1) ++ List.replicate (n + 1 - digits.length) '0'
    let rest := digits.drop (n + 1)
    whole ++ '.' :: (if rest = [] then ['0'] else rest)
  | .negSucc n => '0' :: '.' :: (List.replicate n '0' ++ digits)

/-- Digits with the exponent of the first of them, which always has a sign. -/
def scientific (digits : List Char) (first : Int) : List Char :=
  let mantissa :=
    match digits with
    | [] => ['0']
    | [d] => [d]
    | d :: rest => d :: '.' :: rest
  mantissa ++ 'e' :: (if first < 0 then '-' else '+') :: Nat.toDigits 10 first.natAbs

/-- The text of a finite number. -/
def text (f : DecimalFormat) (negative : Bool) (x : Binary64) : String :=
  let body :=
    if x.units = 0 then ['0', '.', '0']
    else
      let d := Decimal.shortest x
      let all := Nat.toDigits 10 d.digits
      let digits := (all.reverse.dropWhile (· = '0')).reverse
      let first := d.exponent + (all.length - 1 : Nat)
      if f.leastPlain ≤ first ∧ first ≤ f.greatestPlain then plain digits first
      else scientific digits first
  String.ofList (if negative then '-' :: body else body)

end DecimalFormat
end Reconcile
