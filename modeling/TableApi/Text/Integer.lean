/-!
# Whole numbers in text

A whole number in a query string, a document or an environment variable is an optional sign
and one or more decimal digits, with no blanks and no grouping; a value outside the range
asked for is no number.  Only the ASCII digits count.
-/

namespace TableApi.Text

/-- The value of a non-empty run of decimal digits. -/
def digitsValue? (digits : List Char) : Option Nat :=
  if !digits.isEmpty && digits.all Char.isDigit then
    some (digits.foldl (fun value digit => 10 * value + (digit.toNat - '0'.toNat)) 0)
  else
    none

/-- A natural number up to `largest`, with an optional plus sign. -/
def natural? (largest : Nat) (text : List Char) : Option Nat :=
  let digits := match text with
    | '+' :: rest => rest
    | _ => text
  (digitsValue? digits).filter fun value => value ≤ largest

/-- The largest value of an unsigned 64-bit word. -/
def largestWord : Nat := 18446744073709551615

/-- The largest value of a signed 64-bit word. -/
def largestInteger : Int := 9223372036854775807

/-- The least value of a signed 64-bit word. -/
def leastInteger : Int := -9223372036854775808

/-- A natural number that fits an unsigned 64-bit word. -/
def word? (text : List Char) : Option Nat :=
  natural? largestWord text

/-- An integer that fits a signed 64-bit word, with an optional sign. -/
def integer? (text : List Char) : Option Int :=
  let value := match text with
    | '-' :: rest => (digitsValue? rest).map fun value => -(value : Int)
    | '+' :: rest => (digitsValue? rest).map fun value => (value : Int)
    | _ => (digitsValue? text).map fun value => (value : Int)
  value.filter fun value => leastInteger ≤ value && value ≤ largestInteger

/-- The truth value that `true` and `false` spell. -/
def truth? (text : List Char) : Option Bool :=
  if text = "true".toList then some true
  else if text = "false".toList then some false
  else none

end TableApi.Text
