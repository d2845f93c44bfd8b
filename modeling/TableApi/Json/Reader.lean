import TableApi.Json.Basic
import TableApi.Json.Printer
import TableApi.Number.Decimal
import TableApi.Text.Quoted
import TableApi.Text.Utf8

/-!
# Reading JSON

Documents and bodies are read from bytes.  A document that is no JSON is refused with the rule it
breaks and the place where reading stopped: the line, and how many bytes of that line had been
read, the offending byte included.

Each reader takes the bytes that are left and gives a value and the bytes after it.  A failure
keeps the number of bytes after its place; `place` turns that into a line and a column.
-/

namespace TableApi

namespace Json

/-- The rule that a text breaks. -/
inductive Fault where
  | expectedValue
  | keyNotString
  | expectedColon
  | expectedCommaOrBrace
  | expectedCommaOrBracket
  | trailingComma
  | trailingCharacters
  | expectedIdentifier
  | endInValue
  | endInObject
  | endInList
  | endInString
  | invalidNumber
  | numberOutOfRange
  | invalidEscape
  | endOfHexEscape
  | loneSurrogate
  | controlCharacter
  | invalidCodePoint
  | nestedTooDeep
  | notAnObject (found : String)
deriving DecidableEq, Repr

namespace Fault

def message : Fault → String
  | expectedValue => "expected value"
  | keyNotString => "key must be a string"
  | expectedColon => "expected `:`"
  | expectedCommaOrBrace => "expected `,` or `\x7d`"
  | expectedCommaOrBracket => "expected `,` or `]`"
  | trailingComma => "trailing comma"
  | trailingCharacters => "trailing characters"
  | expectedIdentifier => "expected ident"
  | endInValue => "EOF while parsing a value"
  | endInObject => "EOF while parsing an object"
  | endInList => "EOF while parsing a list"
  | endInString => "EOF while parsing a string"
  | invalidNumber => "invalid number"
  | numberOutOfRange => "number out of range"
  | invalidEscape => "invalid escape"
  | endOfHexEscape => "unexpected end of hex escape"
  | loneSurrogate => "lone leading surrogate in hex escape"
  | controlCharacter => "control character (\\u0000-\\u001F) found while parsing a string"
  | invalidCodePoint => "invalid unicode code point"
  | nestedTooDeep => "recursion limit exceeded"
  | notAnObject found => "invalid type: " ++ found ++ ", expected a map"

end Fault

/-- A broken rule and the number of bytes after its place. -/
structure Failure where
  fault : Fault
  remaining : Nat
deriving DecidableEq, Repr

/-- A broken rule and its place in the document. -/
structure ReadError where
  fault : Fault
  line : Nat
  column : Nat
deriving DecidableEq, Repr

namespace ReadError

def message (error : ReadError) : String :=
  error.fault.message ++ " at line " ++ toString error.line ++ " column " ++
    toString error.column

end ReadError

/-- The line after these bytes, and how many of them stand on it. -/
def place (bytes : List UInt8) : Nat × Nat :=
  bytes.foldl (fun (position : Nat × Nat) (byte : UInt8) =>
    if byte = 0x0A then (position.1 + 1, 0) else (position.1, position.2 + 1)) (1, 0)

namespace Failure

/-- The failure with its place in the document. -/
def located (failure : Failure) (document : List UInt8) : ReadError :=
  let (line, column) := place (document.take (document.length - failure.remaining))
  ⟨failure.fault, line, column⟩

end Failure

/-- A reader of one part of a document. -/
abbrev Reader (α : Type) := List UInt8 → Except Failure (α × List UInt8)

/-- Fails before `rest`, all bytes before it having been read. -/
def failBefore {α : Type} (fault : Fault) (rest : List UInt8) : Except Failure α :=
  .error ⟨fault, rest.length⟩

/-- Fails at the first byte of `rest`, or at the end. -/
def failAt {α : Type} (fault : Fault) (rest : List UInt8) : Except Failure α :=
  .error ⟨fault, rest.length - 1⟩

/-- The bytes that may stand between the parts of a document. -/
def isSpace (byte : UInt8) : Bool :=
  byte = 0x20 || byte = 0x0A || byte = 0x09 || byte = 0x0D

def skipSpace (bytes : List UInt8) : List UInt8 :=
  bytes.dropWhile isSpace

def isDigit (byte : UInt8) : Bool :=
  0x30 ≤ byte && byte ≤ 0x39

def digit (byte : UInt8) : Nat :=
  byte.toNat - 0x30

/-- Reads the rest of `true`, `false` or `null`. -/
def readWord (value : Json) : List UInt8 → Reader Json
  | [], bytes => .ok (value, bytes)
  | _ :: _, [] => failBefore .endInValue []
  | expected :: word, byte :: rest =>
      if byte = expected then readWord value word rest else failBefore .expectedIdentifier rest

/-! ## Numbers -/

/-- A number being read: its sign, the digits that fit a 64-bit word, and the power of ten that
the digits left out and the places after the point stand for. -/
structure Literal where
  negative : Bool
  significand : Nat
  exponent : Int
deriving DecidableEq, Repr

namespace Literal

/-- The double that a literal stands for, `rest` following it. -/
def finish (literal : Literal) (rest : List UInt8) : Except Failure (Number × List UInt8) :=
  match Double.scale? literal.negative literal.significand literal.exponent with
  | some value => .ok (.double value, rest)
  | none => failBefore .numberOutOfRange rest

end Literal

/-- The greatest exponent that is counted; a longer one is out of range or vanishes. -/
def largestExponent : Nat := 2147483647

/-- The least exponent that is counted. -/
def leastExponent : Int := -2147483648

/-- Reads the digits of an exponent, the first of them read already. -/
def readExponentDigits (literal : Literal) (down : Bool) (exponent : Nat) : Reader Number
  | [] => finishExponent exponent []
  | byte :: rest =>
      if isDigit byte then
        let next := 10 * exponent + digit byte
        if largestExponent < next then
          if literal.significand ≠ 0 && !down then failBefore .numberOutOfRange rest
          else .ok (.double ⟨literal.negative, 0⟩, rest.dropWhile isDigit)
        else readExponentDigits literal down next rest
      else finishExponent exponent (byte :: rest)
where
  /-- Scales by the exponent that was read. -/
  finishExponent (exponent : Nat) (rest : List UInt8) : Except Failure (Number × List UInt8) :=
    let total :=
      if down then max leastExponent (literal.exponent - exponent)
      else min (largestExponent : Int) (literal.exponent + exponent)
    Literal.finish { literal with exponent := total } rest

/-- Reads an exponent after the letter that starts it. -/
def readExponent (literal : Literal) (bytes : List UInt8) :
    Except Failure (Number × List UInt8) :=
  let (down, digits) := match bytes with
    | 0x2B :: rest => (false, rest)
    | 0x2D :: rest => (true, rest)
    | _ => (false, bytes)
  match digits with
  | [] => failBefore .endInValue []
  | byte :: rest =>
      if isDigit byte then readExponentDigits literal down (digit byte) rest
      else failBefore .invalidNumber rest

/-- Reads what may follow the digits of a number that is no whole 64-bit number. -/
def readTail (literal : Literal) : Reader Number
  | [] => literal.finish []
  | byte :: rest =>
      if byte = 0x65 || byte = 0x45 then readExponent literal rest
      else literal.finish (byte :: rest)

/-- Reads digits after the point.  Digits that no longer fit a word are passed over. -/
def readFraction (literal : Literal) : Reader Number
  | [] => readTail literal []
  | byte :: rest =>
      if isDigit byte then
        let next := 10 * literal.significand + digit byte
        if Text.largestWord < next then readTail literal (rest.dropWhile isDigit)
        else
          readFraction { literal with significand := next, exponent := literal.exponent - 1 } rest
      else readTail literal (byte :: rest)

/-- Reads what follows the digits before the point.  `whole` tells that all of them fit a word;
such a number without point and exponent is a whole number, unless it is a negative zero or
below the signed range. -/
def readAfterDigits (literal : Literal) (whole : Bool) (bytes : List UInt8) :
    Except Failure (Number × List UInt8) :=
  match bytes with
  | 0x2E :: rest =>
      match rest with
      | [] => failBefore .endInValue []
      | next :: _ =>
          if isDigit next then readFraction literal rest else failAt .invalidNumber rest
  | 0x65 :: rest => readExponent literal rest
  | 0x45 :: rest => readExponent literal rest
  | _ =>
      if !whole then literal.finish bytes
      else if !literal.negative then .ok (.integer literal.significand, bytes)
      else if literal.significand = 0 || Text.largestInteger + 1 < literal.significand then
        .ok (.double ⟨true, Double.unitsOfNat literal.significand⟩, bytes)
      else .ok (.integer (-(literal.significand : Int)), bytes)

/-- Reads digits before the point.  Digits that no longer fit a word count as powers of ten. -/
def readDigits (literal : Literal) (whole : Bool) : Reader Number
  | [] => readAfterDigits literal whole []
  | byte :: rest =>
      if isDigit byte then
        let next := 10 * literal.significand + digit byte
        if !whole || Text.largestWord < next then
          readDigits { literal with exponent := literal.exponent + 1 } false rest
        else readDigits { literal with significand := next } true rest
      else readAfterDigits literal whole (byte :: rest)

def readNumber (negative : Bool) : Reader Number
  | [] => failBefore .endInValue []
  | byte :: rest =>
      if byte = 0x30 then
        match rest with
        | next :: _ =>
            if isDigit next then failAt .invalidNumber rest
            else readAfterDigits ⟨negative, 0, 0⟩ true rest
        | [] => readAfterDigits ⟨negative, 0, 0⟩ true rest
      else if isDigit byte then readDigits ⟨negative, digit byte, 0⟩ true rest
      else failBefore .invalidNumber rest

/-! ## Strings -/

def hexUnit? (bytes : List UInt8) : Option Nat :=
  bytes.foldl (fun value byte => do
    let value ← value
    let code := byte.toNat
    if 48 ≤ code && code ≤ 57 then some (16 * value + (code - 48))
    else if 65 ≤ code && code ≤ 70 then some (16 * value + (code - 55))
    else if 97 ≤ code && code ≤ 102 then some (16 * value + (code - 87))
    else none) (some 0)

/-- Reads the four digits of a hexadecimal escape. -/
def readHexUnit (bytes : List UInt8) : Except Failure (Nat × List UInt8) :=
  if bytes.length < 4 then failBefore .endInString []
  else
    match hexUnit? (bytes.take 4) with
    | some unit => .ok (unit, bytes.drop 4)
    | none => failBefore .invalidEscape (bytes.drop 4)

/-- Reads one byte that has to be there. -/
def expectByte (byte : UInt8) : Reader Unit
  | [] => failBefore .endInString []
  | next :: rest => if next = byte then .ok ((), rest) else failBefore .endOfHexEscape rest

/-- Reads a hexadecimal escape after its letter.  A leading surrogate takes a second escape with
the trailing one. -/
def readUnicodeEscape (bytes : List UInt8) : Except Failure (Char × List UInt8) := do
  let (lead, rest) ← readHexUnit bytes
  if 0xDC00 ≤ lead && lead ≤ 0xDFFF then failBefore .loneSurrogate rest
  else if lead < 0xD800 || 0xDBFF < lead then return (Char.ofNat lead, rest)
  else
    let ((), rest) ← expectByte 0x5C rest
    let ((), rest) ← expectByte 0x75 rest
    let (trail, rest) ← readHexUnit rest
    if trail < 0xDC00 || 0xDFFF < trail then failBefore .loneSurrogate rest
    else return (Char.ofNat (0x10000 + (lead - 0xD800) * 0x400 + (trail - 0xDC00)), rest)

def readEscape : Reader Char
  | [] => failBefore .endInString []
  | byte :: rest =>
      if byte = 0x22 then .ok ('"', rest)
      else if byte = 0x5C then .ok ('\\', rest)
      else if byte = 0x2F then .ok ('/', rest)
      else if byte = 0x62 then .ok ('\x08', rest)
      else if byte = 0x66 then .ok ('\x0C', rest)
      else if byte = 0x6E then .ok ('\n', rest)
      else if byte = 0x72 then .ok ('\r', rest)
      else if byte = 0x74 then .ok ('\t', rest)
      else if byte = 0x75 then readUnicodeEscape rest
      else failBefore .invalidEscape rest

/-- Whether a byte stands for itself inside a string. -/
def isPlain (byte : UInt8) : Bool :=
  byte != 0x22 && byte != 0x5C && 0x20 ≤ byte

/-- Reads the bytes of a string after its opening quote, the characters of escapes among them;
`fuel` bounds the number of escapes. -/
def readBytes : (fuel : Nat) → Reader (List UInt8)
  | 0, bytes => failBefore .endInString bytes
  | fuel + 1, bytes =>
      let plain := bytes.takeWhile isPlain
      match bytes.dropWhile isPlain with
      | [] => failBefore .endInString []
      | byte :: after =>
          if byte = 0x22 then .ok (plain, after)
          else if byte = 0x5C then
            match readEscape after with
            | .error failure => .error failure
            | .ok (character, others) =>
                match readBytes fuel others with
                | .error failure => .error failure
                | .ok (read, after) =>
                    .ok (plain ++ (Text.Utf8.encodeChar character ++ read), after)
          else failBefore .controlCharacter after

/-- Reads a string after its opening quote.  Its bytes must be UTF-8; the place of the first that is
not is counted back from the end of the string, an escape counting as the bytes of its character. -/
def readString (bytes : List UInt8) : Except Failure (String × List UInt8) := do
  let (read, rest) ← readBytes (bytes.length + 1) bytes
  match Text.Utf8.decode read with
  | .ok text => return (String.ofList text, rest)
  | .error fault => .error ⟨.invalidCodePoint, rest.length + (read.length - fault.index)⟩

/-! ## Values -/

/-- Reads the key of an entry and the colon after it; the first byte has been found a quote. -/
def readKey (bytes : List UInt8) : Except Failure (String × List UInt8) := do
  let (key, rest) ← readString (bytes.drop 1)
  match skipSpace rest with
  | [] => failAt .endInObject []
  | byte :: after =>
      if byte = 0x3A then return (key, after) else failAt .expectedColon (byte :: after)

/-- Finds where the next item of an array starts, or the end of the array. -/
def nextItem (first : Bool) (bytes : List UInt8) : Except Failure (Bool × List UInt8) :=
  match skipSpace bytes with
  | [] => failAt .endInList []
  | byte :: rest =>
      if byte = 0x5D then .ok (false, rest)
      else if first then .ok (true, byte :: rest)
      else if byte = 0x2C then
        match skipSpace rest with
        | [] => failAt .endInValue []
        | next :: after =>
            if next = 0x5D then failAt .trailingComma (next :: after) else .ok (true, next :: after)
      else failAt .expectedCommaOrBracket (byte :: rest)

/-- Finds where the key of the next entry of an object starts, or the end of the object. -/
def nextKey (first : Bool) (bytes : List UInt8) : Except Failure (Bool × List UInt8) :=
  match skipSpace bytes with
  | [] => failAt .endInObject []
  | byte :: rest =>
      if byte = 0x7D then .ok (false, rest)
      else if first then
        if byte = 0x22 then .ok (true, byte :: rest) else failAt .keyNotString (byte :: rest)
      else if byte = 0x2C then
        match skipSpace rest with
        | [] => failAt .endInValue []
        | next :: after =>
            if next = 0x22 then .ok (true, next :: after)
            else if next = 0x7D then failAt .trailingComma (next :: after)
            else failAt .keyNotString (next :: after)
      else failAt .expectedCommaOrBrace (byte :: rest)

mutual

/-- Reads a value inside `depth` further levels.  Of two steps one reads a byte, so `fuel`
above twice the number of bytes is never used up. -/
def readValue : (fuel depth : Nat) → Reader Json
  | 0, _, bytes => failAt .endInValue bytes
  | fuel + 1, depth, bytes =>
      match skipSpace bytes with
      | [] => failAt .endInValue []
      | byte :: rest =>
          if byte = 0x6E then readWord .null [0x75, 0x6C, 0x6C] rest
          else if byte = 0x74 then readWord (.bool true) [0x72, 0x75, 0x65] rest
          else if byte = 0x66 then readWord (.bool false) [0x61, 0x6C, 0x73, 0x65] rest
          else if byte = 0x2D then
            (readNumber true rest).map fun (value, after) => (.number value, after)
          else if isDigit byte then
            (readNumber false (byte :: rest)).map fun (value, after) => (.number value, after)
          else if byte = 0x22 then
            (readString rest).map fun (text, after) => (.string text, after)
          else if byte = 0x5B then
            if depth ≤ 1 then failAt .nestedTooDeep (byte :: rest)
            else
              (readItems fuel (depth - 1) true rest).map fun (items, after) =>
                (.array items, after)
          else if byte = 0x7B then
            if depth ≤ 1 then failAt .nestedTooDeep (byte :: rest)
            else
              (readEntries fuel (depth - 1) true [] rest).map fun (fields, after) =>
                (.object fields, after)
          else failAt .expectedValue (byte :: rest)

/-- Reads the items of an array up to its end. -/
def readItems : (fuel depth : Nat) → (first : Bool) → Reader (List Json)
  | 0, _, _, bytes => failAt .endInList bytes
  | fuel + 1, depth, first, bytes =>
      match nextItem first bytes with
      | .error failure => .error failure
      | .ok (false, rest) => .ok ([], rest)
      | .ok (true, rest) =>
          match readValue fuel depth rest with
          | .error failure => .error failure
          | .ok (item, after) =>
              (readItems fuel depth false after).map fun (items, end_) => (item :: items, end_)

/-- Reads the entries of an object up to its end, after the entries read so far. -/
def readEntries : (fuel depth : Nat) → (first : Bool) → Fields → Reader Fields
  | 0, _, _, _, bytes => failAt .endInObject bytes
  | fuel + 1, depth, first, fields, bytes =>
      match nextKey first bytes with
      | .error failure => .error failure
      | .ok (false, rest) => .ok (fields, rest)
      | .ok (true, rest) =>
          match readKey rest with
          | .error failure => .error failure
          | .ok (key, after) =>
              match readValue fuel depth after with
              | .error failure => .error failure
              | .ok (value, others) =>
                  readEntries fuel depth false (Fields.set fields key value) others

end

/-- The number of levels that a document may have, plus one. -/
def levels : Nat := 128

def readEnd {α : Type} (value : α) (rest : List UInt8) : Except Failure α :=
  match skipSpace rest with
  | [] => .ok value
  | byte :: after => failAt .trailingCharacters (byte :: after)

def read (document : List UInt8) : Except ReadError Json :=
  let result := do
    let (value, rest) ← readValue (2 * document.length + 2) levels document
    readEnd value rest
  result.mapError fun failure => failure.located document

/-- What a value is called where an object was expected. -/
def describe : Json → String
  | .null => "null"
  | .bool true => "boolean `true`"
  | .bool false => "boolean `false`"
  | .number (.integer value) => "integer `" ++ toString value ++ "`"
  | .number (.double value) => "floating point `" ++ value.render ++ "`"
  | .string text => "string " ++ Text.quoted text
  | .array _ => "sequence"
  | .object _ => "map"

/-- Reads a document that holds one object.  Any other value is refused after it has been read,
an array before. -/
def readObject (document : List UInt8) : Except ReadError Fields :=
  let start := skipSpace document
  let result : Except Failure Fields :=
    match start with
    | 0x5B :: _ => failBefore (.notAnObject (describe (.array []))) start
    | _ => do
        let (value, rest) ← readValue (2 * document.length + 2) levels document
        match value with
        | .object fields => readEnd fields rest
        | other => failBefore (.notAnObject (describe other)) rest
  result.mapError fun failure => failure.located document

end Json

end TableApi
