import TableApi.Number.Double
import TableApi.Text.Integer

/-!
# Doubles written in decimal

Two readers of decimal text live here.  `Reading.ofText?` reads a text as a number of any size,
rounded once to the nearest double; stored values are compared by it.  `Double.scale?` turns the
digits and exponent of a JSON literal into a double by one multiplication or division with a
power of ten, each rounded; JSON documents are read by it.
-/

namespace TableApi

/-- What a text reads as when it spells a number. -/
inductive Reading where
  | finite (value : Double)
  | infinite (negative : Bool)
  | notANumber
deriving DecidableEq, Repr

namespace Reading

/-- The order of two readings; a reading that is not a number has none. -/
def compare? : Reading → Reading → Option Ordering
  | notANumber, _ => none
  | _, notANumber => none
  | finite left, finite right => some (left.compare right)
  | infinite left, infinite right =>
      some (if left = right then .eq else if left then .lt else .gt)
  | infinite left, finite _ => some (if left then .lt else .gt)
  | finite _, infinite right => some (if right then .gt else .lt)

/-- The value of `digits` times a power of ten, rounded once. -/
def ofDecimal (negative : Bool) (digits : List Char) (exponent : Int) : Reading :=
  let significand := (Text.digitsValue? digits).getD 0
  let size := (digits.dropWhile (· == '0')).length
  if significand = 0 then finite ⟨negative, 0⟩
  else if 310 < (size : Int) + exponent then infinite negative
  else if (size : Int) + exponent < -330 then finite ⟨negative, 0⟩
  else
    let rounded :=
      if 0 ≤ exponent then Double.roundRatio? (significand * Nat.pow 10 exponent.toNat) 1
      else Double.roundRatio? significand (Nat.pow 10 (-exponent).toNat)
    match rounded with
    | some units => finite ⟨negative, units⟩
    | none => infinite negative

/-- The exponent after the letter `e`: an optional sign and digits. -/
def exponent? (text : List Char) : Option Int :=
  match text with
  | '-' :: digits => (Text.digitsValue? digits).map fun value => -(value : Int)
  | '+' :: digits => (Text.digitsValue? digits).map fun value => (value : Int)
  | digits => (Text.digitsValue? digits).map fun value => (value : Int)

/-- Digits with an optional point among or beside them, and an optional exponent. -/
def unsigned? (negative : Bool) (text : List Char) : Option Reading :=
  let whole := text.takeWhile Char.isDigit
  let afterWhole := text.dropWhile Char.isDigit
  let (fraction, rest) := match afterWhole with
    | '.' :: after => (after.takeWhile Char.isDigit, after.dropWhile Char.isDigit)
    | _ => ([], afterWhole)
  let digits := whole ++ fraction
  if digits.isEmpty then none
  else
    match rest with
    | [] => some (ofDecimal negative digits (-(fraction.length : Int)))
    | letter :: after =>
        if letter = 'e' || letter = 'E' then
          (exponent? after).map fun exponent =>
            ofDecimal negative digits (exponent - fraction.length)
        else none

/-- A number in decimal, or the name of an infinity or of the absence of a number. -/
def ofMagnitude? (negative : Bool) (text : List Char) : Option Reading :=
  let lower := text.map Char.toLower
  if lower = "inf".toList || lower = "infinity".toList then some (infinite negative)
  else if lower = "nan".toList then some notANumber
  else unsigned? negative text

/-- The number that a text spells, with an optional sign. -/
def ofText? (text : List Char) : Option Reading :=
  match text with
  | '-' :: rest => ofMagnitude? true rest
  | '+' :: rest => ofMagnitude? false rest
  | rest => ofMagnitude? false rest

end Reading

namespace Double

/-- The exponent that a significand of a JSON literal is scaled by at most in one step. -/
def largestPower : Nat := 308

/-- Scales a magnitude by a power of ten in steps of at most 10 ^ 308, rounding after each;
nothing when the result is infinite.  A magnitude of at most 64 bits is zero after three steps
down, so `steps` is never used up. -/
def scaleUnits? (steps : Nat) (units : Nat) (exponent : Int) : Option Nat :=
  if exponent.natAbs ≤ largestPower then
    if 0 ≤ exponent then multiply? units (powerOfTen exponent.natAbs)
    else divide? units (powerOfTen exponent.natAbs)
  else if units = 0 then some 0
  else if 0 ≤ exponent then none
  else
    match steps with
    | 0 => some 0
    | steps + 1 =>
        (divide? units (powerOfTen largestPower)).bind fun scaled =>
          scaleUnits? steps scaled (exponent + largestPower)

/-- The double of a JSON literal with this significand and decimal exponent. -/
def scale? (negative : Bool) (significand : Nat) (exponent : Int) : Option Double :=
  (scaleUnits? 4 (unitsOfNat significand) exponent).map fun units => ⟨negative, units⟩

end Double

end TableApi
