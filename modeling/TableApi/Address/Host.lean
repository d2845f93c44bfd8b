import TableApi.Address.Escape
import TableApi.Domain.Name
import TableApi.Text.Integer

/-!
# Hosts

The host of an address is a name or a number.  The numbers are of two lengths: one of 32 bits,
written as up to four numbers with dots between them, and one of 128 bits, written as eight pieces
of 16 bits with colons between them.  Which names there are depends on the scheme: for most it is
domain names, and a domain name that ends in a number has to be one of the shorter numbers.
-/

namespace TableApi

/-- The host of an address. -/
inductive Host where
  | named (name : List Char)
  | short (number : Nat)
  | long (pieces : List Nat)
deriving DecidableEq, Repr

namespace Host

def nameless : Host :=
  named []

/-! ## Numbers of 32 bits -/

/-- The value of a digit in any base up to 16. -/
def digit? (digit : Char) : Option Nat :=
  if '0' ≤ digit && digit ≤ '9' then some (digit.toNat - 0x30)
  else if 'a' ≤ digit.toLower && digit.toLower ≤ 'f' then some (digit.toLower.toNat - 0x57)
  else none

/-- The number that digits of a base spell; no digits spell zero. -/
def number? (base : Nat) (digits : List Char) : Option Nat :=
  digits.foldlM (fun value digit => do
    let amount ← (digit? digit).filter (· < base)
    return base * value + amount) 0

/-- The number that a part of a shorter number spells: in octal behind a zero, in hexadecimal behind
a zero and an `x`. -/
def partOf? (text : List Char) : Option Nat :=
  match text with
  | [] => none
  | ['0'] => some 0
  | '0' :: 'x' :: digits => number? 16 digits
  | '0' :: 'X' :: digits => number? 16 digits
  | '0' :: digits => number? 8 digits
  | digits => number? 10 digits

/-- The parts of a name, without an empty one at the end. -/
def partsOf (name : List Char) : List (List Char) :=
  let parts := Text.splitAtChar '.' name
  if parts.length > 1 && parts.getLast? = some [] then parts.dropLast else parts

def endsInNumber (name : List Char) : Bool :=
  (partsOf name).getLast?.any fun last =>
    !last.isEmpty && (last.all Char.isDigit || (partOf? last).isSome)

/-- The number of the parts: all but the last are bytes, and the last one fills what they leave. -/
def joinParts? (parts : List Nat) : Option Nat :=
  match parts.getLast? with
  | none => none
  | some last =>
      let bytes := parts.dropLast
      if 3 < bytes.length || bytes.any (255 < ·) || Nat.pow 256 (4 - bytes.length) ≤ last then none
      else
        some (bytes.foldl (fun value byte => 256 * value + byte) 0 *
          Nat.pow 256 (4 - bytes.length) + last)

/-- The shorter number that a name spells. -/
def shortOf? (name : List Char) : Option Nat :=
  ((partsOf name).mapM partOf?).bind joinParts?

/-- The text of a shorter number: its bytes. -/
def shortText (number : Nat) : List Char :=
  (String.intercalate "." ([24, 16, 8, 0].map fun shift =>
    toString (number / Nat.pow 2 shift % 256))).toList

/-! ## Numbers of 128 bits -/

/-- The number that one to four hexadecimal digits spell. -/
def pieceOf? (text : List Char) : Option Nat :=
  if text.isEmpty || 4 < text.length then none else number? 16 text

/-- The byte that decimal digits spell, without zeros in front. -/
def byteOf? (text : List Char) : Option Nat :=
  match text with
  | [] => none
  | ['0'] => some 0
  | '0' :: _ => none
  | digits => (number? 10 digits).filter (· ≤ 255)

/-- The two pieces that four bytes with dots between them stand for. -/
def bytePieces? (text : List Char) : Option (List Nat) := do
  let bytes ← (Text.splitAtChar '.' text).mapM byteOf?
  match bytes with
  | [first, second, third, fourth] => return [256 * first + second, 256 * third + fourth]
  | _ => none

/-- The pieces of texts, the last of which may be four bytes if `ends`. -/
def piecesOf? (ends : Bool) : List (List Char) → Option (List Nat)
  | [] => some []
  | [last] =>
      ((pieceOf? last).map fun piece => [piece]).or (if ends then bytePieces? last else none)
  | text :: rest => do
      let piece ← pieceOf? text
      return piece :: (← piecesOf? ends rest)

/-- The pieces of a side of two colons, which may have none. -/
def sideOf? (ends : Bool) (text : List Char) : Option (List Nat) :=
  if text.isEmpty then some [] else piecesOf? ends (Text.splitAtChar ':' text)

/-- The pieces of a longer number.  Two colons stand for as many zeros as are missing, at least
one. -/
def longOf? (text : List Char) : Option (List Nat) :=
  match Text.cut? "::".toList text with
  | some (before, after) => do
      let first ← sideOf? false before
      let last ← sideOf? true after
      let known := first.length + last.length
      if 7 < known then none else some (first ++ List.replicate (8 - known) 0 ++ last)
  | none => (sideOf? true text).filter fun pieces => pieces.length = 8

def leadingZeros (pieces : List Nat) : Nat :=
  (pieces.takeWhile (· == 0)).length

/-- Where the longest run of zeros starts, and how long it is; the first of several. -/
def longestZeros : List Nat → Nat × Nat
  | [] => (0, 0)
  | piece :: rest =>
      let (start, length) := longestZeros rest
      let here := leadingZeros (piece :: rest)
      if length ≤ here then (0, here) else (start + 1, length)

/-- Pieces in hexadecimal with colons between them. -/
def pieceText (pieces : List Nat) : List Char :=
  Text.joinWith [':'] (pieces.map fun piece => (Nat.toDigits 16 piece).map Char.toLower)

/-- The text of a longer number: two colons stand for the longest run of zeros. -/
def longText (pieces : List Nat) : List Char :=
  let (start, length) := longestZeros pieces
  if length < 2 then pieceText pieces
  else pieceText (pieces.take start) ++ "::".toList ++ pieceText (pieces.drop (start + length))

/-! ## Hosts -/

/-- The longer number between square brackets. -/
def bracketed? (text : List Char) : Option Host :=
  if text.getLast? = some ']' then (longOf? text.dropLast).map long else none

/-- The host that a text is where hosts are domain names. -/
def ofDomain? (text : List Char) : Option Host :=
  match text with
  | '[' :: rest => bracketed? rest
  | _ => do
      let name ← Domain.toAscii? (← Address.unescape? text)
      if name.isEmpty then none
      else if endsInNumber name then (shortOf? name).map short
      else some (named name)

/-- Whether a character may not stand in a name that is no domain name. -/
def isForbidden (character : Char) : Bool :=
  "\x00\t\n\r #/:<>?@[\\]^|".toList.contains character

/-- The host that a text is where hosts have other names. -/
def ofOther? (text : List Char) : Option Host :=
  match text with
  | '[' :: rest => bracketed? rest
  | _ => if text.any isForbidden then none else some (named (Address.escape [] text))

def text : Host → List Char
  | named name => name
  | short number => shortText number
  | long pieces => '[' :: (longText pieces ++ [']'])

end Host

end TableApi
