/-!
# UTF-8

Bytes are read as UTF-8 piece by piece.  A piece is a scalar value or a malformed sequence: the
longest prefix of a well-formed sequence that the next byte breaks, or a single byte that can
start nothing.  The end of the input may leave a sequence unfinished.

Lossy reading writes one replacement character for each malformed piece; strict reading
reports where the first one starts and how long it is.
-/

namespace TableApi.Text.Utf8

def encodeChar (character : Char) : List UInt8 :=
  String.utf8EncodeChar character

def encode (text : List Char) : List UInt8 :=
  text.flatMap encodeChar

/-- A sequence that needs more bytes: how many, the range that the next one must lie in, the
value of the bits read so far and the number of bytes read so far. -/
structure Pending where
  needed : Nat
  low : Nat
  high : Nat
  value : Nat
  taken : Nat
deriving DecidableEq, Repr

/-- What a run of bytes reads as. -/
inductive Piece where
  | scalar (character : Char)
  | malformed (length : Nat)
  | unfinished (length : Nat)
deriving DecidableEq, Repr

namespace Piece

def length : Piece → Nat
  | scalar character => (encodeChar character).length
  | malformed length => length
  | unfinished length => length

/-- The character that stands for the piece in a lossy reading. -/
def shown : Piece → Char
  | scalar character => character
  | malformed _ => '\uFFFD'
  | unfinished _ => '\uFFFD'

end Piece

/-- What a byte does at the start of a sequence. -/
def start (byte : UInt8) : List Piece × Option Pending :=
  let code := byte.toNat
  if code < 0x80 then ([.scalar (Char.ofNat code)], none)
  else if code < 0xC2 then ([.malformed 1], none)
  else if code < 0xE0 then ([], some ⟨1, 0x80, 0xBF, code - 0xC0, 1⟩)
  else if code = 0xE0 then ([], some ⟨2, 0xA0, 0xBF, 0, 1⟩)
  else if code = 0xED then ([], some ⟨2, 0x80, 0x9F, 0x0D, 1⟩)
  else if code < 0xF0 then ([], some ⟨2, 0x80, 0xBF, code - 0xE0, 1⟩)
  else if code = 0xF0 then ([], some ⟨3, 0x90, 0xBF, 0, 1⟩)
  else if code < 0xF4 then ([], some ⟨3, 0x80, 0xBF, code - 0xF0, 1⟩)
  else if code = 0xF4 then ([], some ⟨3, 0x80, 0x8F, 4, 1⟩)
  else ([.malformed 1], none)

/-- What a byte does, given the sequence it may continue. -/
def feed (pending : Option Pending) (byte : UInt8) : List Piece × Option Pending :=
  match pending with
  | none => start byte
  | some sequence =>
      if sequence.low ≤ byte.toNat && byte.toNat ≤ sequence.high then
        let value := 64 * sequence.value + byte.toNat % 64
        if sequence.needed ≤ 1 then
          ([.scalar (Char.ofNat value)], none)
        else
          ([], some ⟨sequence.needed - 1, 0x80, 0xBF, value, sequence.taken + 1⟩)
      else
        let (pieces, next) := start byte
        (.malformed sequence.taken :: pieces, next)

/-- The pieces of the bytes, after the unfinished sequence `pending`. -/
def piecesAfter (pending : Option Pending) : List UInt8 → List Piece
  | [] =>
      match pending with
      | none => []
      | some sequence => [.unfinished sequence.taken]
  | byte :: rest =>
      let (pieces, next) := feed pending byte
      pieces ++ piecesAfter next rest

def pieces (bytes : List UInt8) : List Piece :=
  piecesAfter none bytes

/-- The text of the bytes, with one replacement character for each malformed piece. -/
def decodeLossy (bytes : List UInt8) : List Char :=
  (pieces bytes).map Piece.shown

/-- Where and how bytes fail to be UTF-8. -/
inductive Fault where
  | malformed (index length : Nat)
  | unfinished (index : Nat)
deriving DecidableEq, Repr

namespace Fault

/-- The index of the first byte that is at fault. -/
def index : Fault → Nat
  | malformed index _ => index
  | unfinished index => index

def message : Fault → String
  | malformed index length =>
      "invalid utf-8 sequence of " ++ toString length ++ " bytes from index " ++ toString index
  | unfinished index => "incomplete utf-8 byte sequence from index " ++ toString index

end Fault

/-- The text of the pieces, or the fault of the first that is no scalar value; `index` is where
the pieces start. -/
def textOf (index : Nat) : List Piece → Except Fault (List Char)
  | [] => .ok []
  | .scalar character :: rest =>
      match textOf (index + (encodeChar character).length) rest with
      | .ok text => .ok (character :: text)
      | .error fault => .error fault
  | .malformed length :: _ => .error (.malformed index length)
  | .unfinished _ :: _ => .error (.unfinished index)

/-- The text of the bytes, or the first fault. -/
def decode (bytes : List UInt8) : Except Fault (List Char) :=
  textOf 0 (pieces bytes)

end TableApi.Text.Utf8
