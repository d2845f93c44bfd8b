import TableApi.Text.Scan

/-!
# Labels in ASCII

A label with characters beyond ASCII is written in ASCII: first its ASCII characters, then, as
numbers, how many places to go from one of the other characters to the next, in the order of their
code points.  A number is a sequence of digits, the least one first, and ends at the first digit
below a threshold that follows the size of the numbers before.
-/

namespace TableApi.Domain.Punycode

/-- The number of digits. -/
def digits : Nat := 36

/-- The threshold of the first number. -/
def firstBias : Nat := 72

/-- The first code point that is not ASCII. -/
def firstCode : Nat := 0x80

def largest : Nat := 4294967295

def digitOf (value : Nat) : Char :=
  if value < 26 then Char.ofNat (0x61 + value) else Char.ofNat (0x30 + (value - 26))

def valueOf? (digit : Char) : Option Nat :=
  if 'a' ≤ digit && digit ≤ 'z' then some (digit.toNat - 0x61)
  else if '0' ≤ digit && digit ≤ '9' then some (digit.toNat - 0x30 + 26)
  else none

/-- The threshold at a place: the places count in steps of `digits`. -/
def threshold (bias place : Nat) : Nat :=
  min 26 (max 1 (place - bias))

theorem threshold_pos (bias place : Nat) : 1 ≤ threshold bias place := by
  unfold threshold
  omega

/-- Divides a distance until it is small, and counts the places this takes. -/
def settle (distance place : Nat) : Nat × Nat :=
  if 455 < distance then settle (distance / 35) (place + digits) else (distance, place)
termination_by distance
decreasing_by omega

/-- The bias after a number, the `count`-th character having been reached. -/
def adapt (distance count : Nat) (isFirst : Bool) : Nat :=
  let scaled := if isFirst then distance / 700 else distance / 2
  let (rest, place) := settle (scaled + scaled / count) 0
  place + digits * rest / (rest + 38)

/-! ## Writing -/

/-- The digits of a number from a place on. -/
def writeNumber (bias place value : Nat) : List Char :=
  let bound := threshold bias place
  if value < bound then [digitOf value]
  else
    digitOf (bound + (value - bound) % (digits - bound)) ::
      writeNumber bias (place + digits) ((value - bound) / (digits - bound))
termination_by value
decreasing_by
  have positive := threshold_pos bias place
  have divided := Nat.div_le_self (value - threshold bias place) (digits - threshold bias place)
  omega

/-- How far writing has come. -/
structure Writing where
  written : List Char
  distance : Nat
  bias : Nat
  count : Nat
deriving DecidableEq, Repr

/-- Passes one character of the label when the characters with `code` are due. -/
def Writing.pass (known code : Nat) (writing : Writing) (character : Char) : Writing :=
  if character.toNat < code then { writing with distance := writing.distance + 1 }
  else if character.toNat = code then
    { written := writing.written ++ writeNumber writing.bias digits writing.distance
      distance := 0
      bias := adapt writing.distance (writing.count + 1) (writing.count == known)
      count := writing.count + 1 }
  else writing

/-- Writes the characters with the given code points, which ascend, from a code point on. -/
def writeCodes (label : List Char) (known : Nat) : List Nat → Nat → Writing → Writing
  | [], _, writing => writing
  | code :: codes, reached, writing =>
      let ahead := writing.distance + (code - reached) * (writing.count + 1)
      let passed := label.foldl (Writing.pass known code) { writing with distance := ahead }
      writeCodes label known codes (code + 1) { passed with distance := passed.distance + 1 }

/-- Puts a number into an ascending list unless it is there. -/
def insertNew (code : Nat) : List Nat → List Nat
  | [] => [code]
  | first :: rest =>
      if code < first then code :: first :: rest
      else if code = first then first :: rest
      else first :: insertNew code rest

def encode (label : List Char) : List Char :=
  let plain := label.filter fun character => character.toNat < firstCode
  let codes := (label.map Char.toNat).filter fun code => firstCode ≤ code
  let writing := writeCodes label plain.length (codes.foldr insertNew []) firstCode
    ⟨[], 0, firstBias, plain.length⟩
  plain ++ (if plain.isEmpty then [] else ['-']) ++ writing.written

/-! ## Reading -/

/-- Reads a number from a place on, its digits so far having the value `value` and the next one
counting `weight` times. -/
def readNumber? (bias place weight value : Nat) : List Char → Option (Nat × List Char)
  | [] => none
  | digit :: rest => do
      let amount ← valueOf? digit
      let total := value + amount * weight
      let bound := threshold bias place
      if largest < total then none
      else if amount < bound then some (total, rest)
      else if largest < weight * (digits - bound) then none
      else readNumber? bias (place + digits) (weight * (digits - bound)) total rest

/-- Reads characters up to the end of the text, one for each of `fuel` digits at most.  They go into
`label`, the next one with a code point from `code` on and at a place from `place` on. -/
def readCodes? (fuel bias code place : Nat) (label text : List Char) : Option (List Char) :=
  match fuel, text with
  | _, [] => some label
  | 0, _ => none
  | fuel + 1, text => do
      let (total, rest) ← readNumber? bias digits 1 place text
      let count := label.length + 1
      let next := code + total / count
      let reached := total % count
      if next < 0xD800 || (0xDFFF < next && next < 0x110000) then
        readCodes? fuel (adapt (total - place) count (place == 0)) next (reached + 1)
          (label.insertIdx reached (Char.ofNat next)) rest
      else none

/-- Reads a label from its form in ASCII.  A form without ASCII characters has no hyphen. -/
def decode? (text : List Char) : Option (List Char) :=
  match Text.cutAt? '-' text.reverse with
  | some (_, []) => none
  | some (codes, plain) =>
      readCodes? text.length firstBias firstCode 0 plain.reverse codes.reverse
  | none => readCodes? text.length firstBias firstCode 0 [] text

end TableApi.Domain.Punycode
