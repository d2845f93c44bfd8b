import TableApi.Text.Integer
import TableApi.Text.Scan

/-!
# Fixed-point numbers

A numeric column holds a number of any length as text.  `FixedPoint` is such a number: a whole
coefficient and the number of digits behind the point.  The number of digits behind the point
is part of the value, so `1.50` keeps its last digit when it is written again.
-/

namespace TableApi

/-- The number `coefficient` divided by ten to the power `scale`. -/
structure FixedPoint where
  coefficient : Int
  scale : Int
deriving DecidableEq, Repr

namespace FixedPoint

/-- The value of a run of digits.  Behind the first digit underscores count for nothing. -/
def magnitude? (text : List Char) : Option Nat :=
  if text.head? = some '_' then none
  else Text.digitsValue? (text.filter fun character => character != '_')

/-- The value of a run of digits behind an optional sign. -/
def coefficient? : List Char → Option Int
  | '-' :: rest => (magnitude? rest).map fun value => -(value : Int)
  | '+' :: rest => (magnitude? rest).map fun value => (value : Int)
  | text => (magnitude? text).map fun value => (value : Int)

/-- The power of ten behind the mark of an exponent; there may be a plus sign of its own. -/
def exponent? : List Char → Option Int
  | '+' :: rest => Text.integer? rest
  | text => Text.integer? text

/-- The number of a text without an exponent.  The digits on both sides of the point are one run,
and the digits behind it count as places. -/
def ofPlain? (text : List Char) : Option FixedPoint :=
  let (whole, places) := (Text.cutAt? '.' text).getD (text, [])
  (coefficient? (whole ++ places)).map fun value => ⟨value, places.length⟩

/-- The number that a text spells: digits, at most one point, and perhaps an exponent. -/
def ofText? (text : List Char) : Option FixedPoint :=
  let isMark (character : Char) : Bool := character == 'e' || character == 'E'
  match text.span fun character => !isMark character with
  | (plain, _ :: exponent) =>
      match exponent? exponent, ofPlain? plain with
      | some power, some number => some { number with scale := number.scale - power }
      | _, _ => none
  | (plain, []) => ofPlain? plain

/-- The digits of a coefficient with a point in front of the last `scale` of them.  A missing
digit is a zero. -/
def placed (digits : List Char) (scale : Int) : List Char :=
  if scale ≤ 0 then digits ++ List.replicate (-scale).toNat '0'
  else
    let places := scale.toNat
    if digits.length ≤ places then
      '0' :: '.' :: (List.replicate (places - digits.length) '0' ++ digits)
    else
      digits.take (digits.length - places) ++ '.' :: digits.drop (digits.length - places)

/-- The text of a number, with all its places and without an exponent. -/
def text (number : FixedPoint) : String :=
  let digits := placed (toString number.coefficient.natAbs).toList number.scale
  .ofList (if number.coefficient < 0 then '-' :: digits else digits)

end FixedPoint

end TableApi
