/-!
# Binary floating point with 53 significant bits

Every finite nonnegative number of the format is a multiple of its smallest positive number
2^-1074, so it is given by a natural number of such units, of which at most the first 53 binary
digits are not zero.  `Binary64.ofFraction?` rounds a fraction to the nearest of these numbers, and
to the one with an even last digit if two are equally near.
-/

namespace Reconcile

/-- A finite nonnegative number: so many units of 2^-1074. -/
structure Binary64 where
  units : Nat
deriving DecidableEq, Repr

namespace Binary64

/-- The smallest positive number is 2 to the power of minus this. -/
def unitExponent : Nat := 1074

/-- The number of significant binary digits. -/
def precision : Nat := 53

/-- From this number of units on, numbers are too large for the format. -/
def limit : Nat := Nat.pow 2 (1024 + unitExponent)

/-- The number zero. -/
def zero : Binary64 := ⟨0⟩

/-- The quotient, rounded to the nearest number; a half goes to the even neighbour. -/
def roundDiv (num den : Nat) : Nat :=
  let q := num / den
  let r := num % den
  if 2 * r < den then q
  else if den < 2 * r then q + 1
  else if q % 2 = 0 then q else q + 1

/-- The number of binary digits behind the significant ones of a number of units. -/
def spareBits (units : Nat) : Nat := units.log2 + 1 - precision

/-- The number nearest to a fraction, unless it is too large. -/
def ofFraction? (num den : Nat) : Option Binary64 :=
  let scaled := num * Nat.pow 2 unitExponent
  let spare := spareBits (scaled / den)
  let unit := Nat.pow 2 spare
  let units := roundDiv scaled (den * unit) * unit
  if limit ≤ units then none else some ⟨units⟩

/-- The product, unless it is too large. -/
def mul? (x y : Binary64) : Option Binary64 :=
  ofFraction? (x.units * y.units) (Nat.pow 2 (unitExponent + unitExponent))

/-- The quotient, unless it is too large. -/
def div? (x y : Binary64) : Option Binary64 := ofFraction? x.units y.units

/-- The number nearest to a power of ten. -/
def powerOfTen? (n : Nat) : Option Binary64 := ofFraction? (Nat.pow 10 n) 1

end Binary64
end Reconcile
