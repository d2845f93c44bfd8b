import TableApi.Text.Blank
import TableApi.Text.Scan

/-!
# Sets of characters

The standards that speak of characters list them as ranges of code points.  A `CodeSet` is such a
list, and it is written as the standards write it: ranges in hexadecimal with blanks between them.
-/

namespace TableApi.Unicode

def hexadecimalDigit (digit : Char) : Nat :=
  if digit.isDigit then digit.toNat - 0x30 else digit.toNat - 0x37

def hexadecimal (digits : List Char) : Nat :=
  digits.foldl (fun value digit => 16 * value + hexadecimalDigit digit) 0

/-- The character whose code point hexadecimal digits spell. -/
def hexadecimalChar (digits : List Char) : Char :=
  Char.ofNat (hexadecimal digits)

/-- A set of characters as ranges of code points. -/
structure CodeSet where
  ranges : List (Nat × Nat)
deriving DecidableEq, Repr

namespace CodeSet

/-- The range of a text such as `41-5A` or `AA`. -/
def rangeOfText (text : List Char) : Nat × Nat :=
  match Text.cutAt? '-' text with
  | some (first, last) => (hexadecimal first, hexadecimal last)
  | none => (hexadecimal text, hexadecimal text)

/-- The set of a text such as `41-5A 61-7A AA`. -/
def ofText (text : String) : CodeSet :=
  ⟨(Text.words text.toList).map rangeOfText⟩

def contains (set : CodeSet) (character : Char) : Bool :=
  set.ranges.any fun (first, last) => first ≤ character.toNat && character.toNat ≤ last

end CodeSet

end TableApi.Unicode
