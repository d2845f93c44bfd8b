import TableApi.Calendar
import TableApi.Database.Basic
import TableApi.Json.Reader
import TableApi.Number.FixedPoint

/-!
# Columns of a database server

A server sends each value in the form of its column type.  `ColumnKind.read?` says which JSON value
it is, or that it cannot be read: the row then holds null and the log says so.  A null is null in
every column, and so is the zero day that servers keep in place of one.
-/

namespace TableApi

/-- How the values of a column are read. -/
inductive ColumnKind where
  | boolean
  | integer
  | double
  | decimal
  | moment
  | day
  | timeOfDay
  /-- A year; only the type that has no sign can be read. -/
  | year (hasSign : Bool)
  /-- A bit field; one with a sign reads as a truth value. -/
  | bits (hasSign : Bool)
  | json
  | text
  /-- Values that cannot be read. -/
  | unreadable
deriving DecidableEq, Repr

/-- The type of a column: the label that the log shows, and how its values are read. -/
structure ColumnType where
  label : String
  kind : ColumnKind
deriving DecidableEq, Repr

/-- A value as a server sends it. -/
inductive Cell where
  | null
  | integer (value : Int)
  | double (value : Double)
  | bytes (contents : List UInt8)
  /-- The parts of a day, of a time or of both, the largest unit first. -/
  | parts (values : List Nat)
deriving DecidableEq, Repr

namespace ColumnType

/-- The types whose label leaves out a part of the name. -/
def attributed : List (String × ColumnType) :=
  [("BOOLEAN UNSIGNED", ⟨"BOOLEAN", .boolean⟩),
    ("YEAR SIGNED", ⟨"YEAR", .year true⟩),
    ("BIT SIGNED", ⟨"BIT", .bits true⟩),
    ("VARCHAR LATIN1", ⟨"VARCHAR", .text⟩)]

/-- The kind of a type whose label is its name. -/
def kindOf (label : String) : ColumnKind :=
  match label with
  | "BOOLEAN" => .boolean
  | "TINYINT" | "SMALLINT" | "MEDIUMINT" | "INT" | "BIGINT" => .integer
  | "TINYINT UNSIGNED" | "SMALLINT UNSIGNED" | "MEDIUMINT UNSIGNED" | "INT UNSIGNED"
  | "BIGINT UNSIGNED" => .integer
  | "FLOAT" | "DOUBLE" => .double
  | "DECIMAL" => .decimal
  | "DATETIME" | "TIMESTAMP" => .moment
  | "DATE" => .day
  | "TIME" => .timeOfDay
  | "YEAR" => .year false
  | "BIT" => .bits false
  | "JSON" => .json
  | "CHAR" | "VARCHAR" | "TINYTEXT" | "TEXT" | "MEDIUMTEXT" | "LONGTEXT" | "ENUM" => .text
  | "BINARY" | "VARBINARY" | "TINYBLOB" | "BLOB" | "MEDIUMBLOB" | "LONGBLOB" => .text
  | _ => .unreadable

def ofName (name : String) : ColumnType :=
  (List.lookup name attributed).getD ⟨name, kindOf name⟩

end ColumnType

namespace Cell

/-- The value of bytes as a number without a sign, the highest byte first, in 64 bits. -/
def bigEndian (bytes : List UInt8) : Nat :=
  bytes.foldl (fun value byte => 256 * value + byte.toNat) 0 % Nat.pow 2 64

/-- The value of bytes as a number with a sign, the lowest byte first. -/
def littleEndian (bytes : List UInt8) : Int :=
  let value : Nat := bytes.foldr (fun byte value => 256 * value + byte.toNat) 0
  Int.bmod value (Nat.pow 2 (8 * bytes.length))

/-- The truth value of a bit field with a sign: whether it is not zero, as long as it fits one
byte. -/
def truth? (bytes : List UInt8) : Option Bool :=
  let value := littleEndian bytes
  if !bytes.isEmpty && bytes.length ≤ 8 && -128 ≤ value && value ≤ 127 then some (value != 0)
  else none

def day? : List Nat → Option CalendarDay
  | year :: month :: day :: _ => some ⟨year, month, day⟩ |>.filter CalendarDay.isReal
  | _ => none

/-- The time of parts that start with the hours; a time without parts is midnight. -/
def time? : List Nat → Option TimeOfDay
  | [] => some .midnight
  | [hour, minute, second] => some ⟨hour, minute, second, 0⟩ |>.filter TimeOfDay.isReal
  | [hour, minute, second, microsecond] =>
      some ⟨hour, minute, second, microsecond⟩ |>.filter TimeOfDay.isReal
  | _ => none

/-- The text of a day and a time. -/
def momentText? (parts : List Nat) : Option String :=
  match day? parts, time? (parts.drop 3) with
  | some day, some time => some (day.text ++ " " ++ time.text)
  | _, _ => none

end Cell

namespace ColumnKind

/-- Whether a value is none: null, or the zero day. -/
def isNull (kind : ColumnKind) (cell : Cell) : Bool :=
  cell = .null || (cell = .parts [] && (kind = .moment || kind = .day))

/-- The JSON value of a value that is not null. -/
def value? : ColumnKind → Cell → Option Json
  | boolean, .integer value => some (.bool (value != 0))
  | integer, .integer value => some (.ofInt value)
  | double, .double value => some (.number (.double value))
  | double, .integer value => some (.number (.double (Double.ofInt value)))
  | decimal, .bytes bytes =>
      match Text.Utf8.decode bytes with
      | .ok digits => (FixedPoint.ofText? digits).map fun number => .string number.text
      | .error _ => none
  | moment, .parts parts => (Cell.momentText? parts).map .string
  | day, .parts parts => (Cell.day? parts).map fun day => .string day.text
  | timeOfDay, .parts parts =>
      -- The number of days in front of a time is left out.
      (Cell.time? (parts.drop 1)).map fun time => .string time.text
  | year false, .integer value => some (.ofInt value)
  | bits false, .bytes bytes => some (.ofNat (Cell.bigEndian bytes))
  | bits true, .bytes bytes => (Cell.truth? bytes).map fun truth => .ofNat truth.toNat
  | json, .bytes bytes => (Json.read bytes).toOption
  | text, .bytes bytes => some (.string (.ofList (Text.Utf8.decodeLossy bytes)))
  | _, _ => none

/-- The JSON value of a value, or nothing if it cannot be read. -/
def read? (kind : ColumnKind) (cell : Cell) : Option Json :=
  if kind.isNull cell then some .null else kind.value? cell

/-- The name that a column holds: a text in UTF-8. -/
def readName (kind : ColumnKind) (cell : Cell) : Except DatabaseError String :=
  match kind, cell with
  | text, .bytes bytes =>
      match Text.Utf8.decode bytes with
      | .ok name => .ok (.ofList name)
      | .error fault => .error (.query fault.message)
  | _, _ => .error (.connection "a name is not a text")

@[simp]
theorem read?_null (kind : ColumnKind) : kind.read? .null = some .null := by
  simp [read?, isNull]

end ColumnKind

namespace ColumnType

/-- The log entry about a value that cannot be read. -/
def unread (type : ColumnType) : LogEntry :=
  .plain .warn ("Unhandled MySQL type: " ++ type.label ++ ", returning null")

/-- Reads a value; one that cannot be read is null and leaves an entry. -/
def read (type : ColumnType) (cell : Cell) : Json × List LogEntry :=
  match type.kind.read? cell with
  | some value => (value, [])
  | none => (.null, [type.unread])

end ColumnType

end TableApi
