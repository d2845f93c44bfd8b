/-!
# Doubles

A JSON number that is not a whole 64-bit number is a finite binary64 value.  Every finite
binary64 value is a whole number of units of 2 ^ -1074, the least positive one, so a double is a
sign and that whole number.  Comparison, truncation and rounding are then arithmetic on natural
numbers, and a value has exactly one form.

`roundRatio?` is the rounding rule of the format: the nearest value, ties to the one with an
even last bit, nothing when the nearest lies beyond the greatest.
-/

namespace TableApi

/-- A finite binary64 value: a sign and a number of units of 2 ^ -1074. -/
structure Double where
  negative : Bool
  units : Nat
deriving DecidableEq, Repr, Inhabited

namespace Double

/-- The number of units in one. -/
def one : Nat := Nat.pow 2 1074

/-- The number of units that no finite value reaches. -/
def bound : Nat := Nat.pow 2 2098

/-- The quotient rounded to the nearest whole number, a tie to the even one. -/
def divideToEven (numerator denominator : Nat) : Nat :=
  let quotient := numerator / denominator
  let rest := numerator % denominator
  if 2 * rest < denominator then quotient
  else if 2 * rest = denominator && quotient % 2 = 0 then quotient
  else quotient + 1

/-- The number of units between neighbouring values near `units`: a value has 53 bits. -/
def spacing (units : Nat) : Nat :=
  Nat.pow 2 (units.log2 + 1 - 53)

/-- The units of the value nearest to a ratio, when it is finite. -/
def roundRatio? (numerator denominator : Nat) : Option Nat :=
  let scaled := numerator * one
  let step := spacing (scaled / denominator)
  let units := divideToEven scaled (denominator * step) * step
  if units < bound then some units else none

/-- The units of the value nearest to a natural number. -/
def unitsOfNat (value : Nat) : Nat :=
  (roundRatio? value 1).getD 0

/-- The double nearest to an integer of at most 64 bits. -/
def ofInt (value : Int) : Double :=
  ⟨value < 0, unitsOfNat value.natAbs⟩

/-- The value as a signed number of units. -/
def signedUnits (value : Double) : Int :=
  if value.negative then -(value.units : Int) else (value.units : Int)

/-- The order of the values; the two zeros are equal. -/
def compare (left right : Double) : Ordering :=
  Ord.compare left.signedUnits right.signedUnits

/-- The whole number next to the value in the direction of zero. -/
def truncate (value : Double) : Int :=
  if value.negative then -((value.units / one : Nat) : Int) else ((value.units / one : Nat) : Int)

/-- The product of two magnitudes, when it is finite. -/
def multiply? (left right : Nat) : Option Nat :=
  roundRatio? (left * right) (one * one)

/-- The quotient of two magnitudes, when it is finite. -/
def divide? (left right : Nat) : Option Nat :=
  roundRatio? left right

/-- The units of the value nearest to a power of ten up to 10 ^ 308. -/
def powerOfTen (exponent : Nat) : Nat :=
  unitsOfNat (Nat.pow 10 exponent)

end Double

end TableApi
