import TableApi.Text.Utf8

/-!
# Percent-encoded components

A component of a query string writes a byte as a percent sign and two hexadecimal digits, and a
space as a plus sign.  A percent sign that two digits do not follow stands for itself, and bytes
that are not UTF-8 read lossily.

`formEncode` writes the unreserved characters as they are and every other byte escaped.
-/

namespace TableApi.Text

/-- The value of a hexadecimal digit in either case. -/
def hexValue? (byte : UInt8) : Option UInt8 :=
  let code := byte.toNat
  if 48 ≤ code && code ≤ 57 then some (byte - 48)
  else if 65 ≤ code && code ≤ 70 then some (byte - 55)
  else if 97 ≤ code && code ≤ 102 then some (byte - 87)
  else none

def hexDigit (value : Nat) : Char :=
  if value < 10 then Char.ofNat (48 + value) else Char.ofNat (55 + value)

/-- The byte that a percent sign and two digits stand for. -/
def escaped? (sign high low : UInt8) : Option UInt8 :=
  if sign = 0x25 then
    match hexValue? high, hexValue? low with
    | some upper, some lower => some (16 * upper + lower)
    | _, _ => none
  else none

/-- Replaces each escape by the byte it stands for. -/
def unescapeBytes : List UInt8 → List UInt8
  | [] => []
  | [last] => [last]
  | [next, last] => [next, last]
  | byte :: high :: low :: rest =>
      match escaped? byte high low with
      | some value => value :: unescapeBytes rest
      | none => byte :: unescapeBytes (high :: low :: rest)

/-- The text that a component of a query string stands for. -/
def formDecode (component : List Char) : List Char :=
  Utf8.decodeLossy (unescapeBytes (Utf8.encode (component.map fun character =>
    if character = '+' then ' ' else character)))

/-- The bytes that a component may hold unescaped. -/
def isUnreserved (byte : UInt8) : Bool :=
  let character := Char.ofNat byte.toNat
  character.isAlphanum || character == '-' || character == '.' || character == '_' ||
    character == '~'

/-- A byte as a percent sign and two digits. -/
def escapeByte (byte : UInt8) : List Char :=
  ['%', hexDigit (byte.toNat / 16), hexDigit (byte.toNat % 16)]

def formEncode (text : List Char) : List Char :=
  (Utf8.encode text).flatMap fun byte =>
    if isUnreserved byte then [Char.ofNat byte.toNat] else escapeByte byte

end TableApi.Text
