import TableApi.Number.Double

/-!
# The shortest decimal of a double

A double is written with the fewest digits that read back as the same double, and of the
decimals with that many digits the nearest to the value.  The decimals that read back fill an
interval around the value, half of the way to each neighbour, its ends included when the last
bit of the value is even.

For each position of the last digit, from the first digit downwards, the two neighbours of the
value among the decimals that end at that position are tried; the first position with a hit
gives the digits.
-/

namespace TableApi

namespace Double

/-- The decimals that read back as a value, in quarters of a unit. -/
structure Interval where
  low : Nat
  high : Nat
  closed : Bool
deriving DecidableEq, Repr

namespace Interval

/-- Whether a ratio of units lies in the interval. -/
def contains (interval : Interval) (numerator denominator : Nat) : Bool :=
  let value := 4 * numerator
  let low := interval.low * denominator
  let high := interval.high * denominator
  if interval.closed then low ≤ value && value ≤ high else low < value && value < high

end Interval

/-- The interval of the decimals that read back as the value with these units.  Below a power of
two the neighbour is half as far. -/
def interval (units : Nat) : Interval :=
  let step := spacing units
  let below := if 1 < step && units = step * Nat.pow 2 52 then step else 2 * step
  ⟨4 * units - below, 4 * units + 2 * step, units / step % 2 = 0⟩

/-- A decimal: its digits as a number and the exponent of its last digit. -/
structure Decimal where
  significand : Nat
  exponent : Int
deriving DecidableEq, Repr

namespace Decimal

/-- A decimal in units, as a ratio. -/
def ratio (decimal : Decimal) : Nat × Nat :=
  if 0 ≤ decimal.exponent then
    (decimal.significand * Nat.pow 10 decimal.exponent.toNat * one, 1)
  else
    (decimal.significand * one, Nat.pow 10 (-decimal.exponent).toNat)

/-- The distance of a decimal from a number of units, as a ratio. -/
def distance (decimal : Decimal) (units : Nat) : Nat × Nat :=
  let (numerator, denominator) := decimal.ratio
  let scaled := units * denominator
  (if numerator ≤ scaled then scaled - numerator else numerator - scaled, denominator)

end Decimal

/-- The exponent of the first digit of a positive value. -/
def firstExponent (units : Nat) : Int :=
  ((Nat.toDigits 10 (units * Nat.pow 10 400 / one)).length : Int) - 401

/-- The decimal that ends at `exponent` and is nearest to the value among those that read back,
an even last digit deciding a tie. -/
def decimalAt? (units : Nat) (exponent : Int) : Option Decimal :=
  let floor :=
    if 0 ≤ exponent then units / (Nat.pow 10 exponent.toNat * one)
    else units * Nat.pow 10 (-exponent).toNat / one
  let below : Decimal := ⟨floor, exponent⟩
  let above : Decimal := ⟨floor + 1, exponent⟩
  let reads (decimal : Decimal) :=
    (interval units).contains decimal.ratio.1 decimal.ratio.2
  match reads below, reads above with
  | false, false => none
  | true, false => some below
  | false, true => some above
  | true, true =>
      let toBelow := (below.distance units).1
      let toAbove := (above.distance units).1
      if toBelow < toAbove then some below
      else if toAbove < toBelow then some above
      else if floor % 2 = 0 then some below
      else some above

/-- Tries `tries` positions of the last digit from `exponent` downwards. -/
def decimalFrom (units : Nat) (exponent : Int) : Nat → Decimal
  | 0 => ⟨0, 0⟩
  | tries + 1 =>
      (decimalAt? units exponent).getD (decimalFrom units (exponent - 1) tries)

/-- The shortest decimal of a positive value; 17 digits always suffice. -/
def shortest (units : Nat) : Decimal :=
  decimalFrom units (firstExponent units + 1) 19

/-- How doubles are written: positionally while the exponent of the first digit lies between
these two, and with an exponent otherwise. -/
structure Style where
  least : Int
  greatest : Int

/-- Doubles are positional from 10 ^ -5 up to below 10 ^ 16. -/
def positional : Style := ⟨-5, 15⟩

/-- The digits of a decimal without the zeros at the end, and the exponent of its first. -/
def digitsOf (decimal : Decimal) : List Char × Int :=
  let digits := Nat.toDigits 10 decimal.significand
  let kept := (digits.reverse.dropWhile (· == '0')).reverse
  (kept, decimal.exponent + (digits.length : Int) - 1)

/-- Digits whose first has this exponent, written positionally with at least one place. -/
def renderPositional (digits : List Char) (first : Int) : List Char :=
  if first < 0 then
    '0' :: '.' :: (List.replicate (-first - 1).toNat '0' ++ digits)
  else
    let whole := first.toNat + 1
    let padded := digits ++ List.replicate (whole - digits.length) '0'
    let fraction := padded.drop whole
    padded.take whole ++ '.' :: (if fraction.isEmpty then ['0'] else fraction)

/-- Digits whose first has this exponent, written with a signed exponent. -/
def renderScientific (digits : List Char) (first : Int) : List Char :=
  let point := match digits with
    | lead :: next :: rest => lead :: '.' :: next :: rest
    | _ => digits
  let sign := if first < 0 then '-' else '+'
  point ++ 'e' :: sign :: Nat.toDigits 10 first.natAbs

def render (value : Double) : String :=
  let sign := if value.negative then ['-'] else []
  let magnitude :=
    if value.units = 0 then "0.0".toList
    else
      let (digits, first) := digitsOf (shortest value.units)
      if positional.least ≤ first && first ≤ positional.greatest then
        renderPositional digits first
      else
        renderScientific digits first
  String.ofList (sign ++ magnitude)

end Double

end TableApi
