import TableApi.Number.Double
import TableApi.Number.Shortest
import TableApi.Text.Integer
import TableApi.Text.Blank

/-!
# JSON values

Rows, request bodies, hook payloads and answers are JSON values.  A number is a whole number of
at most 64 bits or a double, and the two print differently, so the type keeps them apart.  The
entries of an object keep the order in which their keys first came.

`Fields` holds the entries of one object.  Setting a key that is present keeps its place; taking
a key out moves the last entry into its place.
-/

namespace TableApi

/-- A JSON number: a whole number that fits a signed or an unsigned 64-bit word, or a double. -/
inductive Number where
  | integer (value : Int)
  | double (value : Double)
deriving DecidableEq, Repr, Inhabited

namespace Number

def text : Number → String
  | integer value => toString value
  | double value => value.render

/-- The value as a signed 64-bit integer. -/
def integer? : Number → Option Int
  | integer value => if value ≤ Text.largestInteger then some value else none
  | double _ => none

/-- The value as an unsigned 64-bit integer. -/
def word? : Number → Option Nat
  | integer value => if 0 ≤ value then some value.toNat else none
  | double _ => none

end Number

/-- A JSON value. -/
inductive Json where
  | null
  | bool (value : Bool)
  | number (value : Number)
  | string (value : String)
  | array (items : List Json)
  | object (fields : List (String × Json))
deriving Repr, Inhabited

abbrev Fields := List (String × Json)

/-- A row of a table: its values under their column names. -/
abbrev Row := Fields

namespace Fields

def get? (fields : Fields) (key : String) : Option Json :=
  List.lookup key fields

def has (fields : Fields) (key : String) : Bool :=
  fields.any fun entry => entry.1 == key

def keys (fields : Fields) : List String :=
  fields.map Prod.fst

def values (fields : Fields) : List Json :=
  fields.map Prod.snd

/-- Sets a key: in place when it is present, at the end otherwise. -/
def set (fields : Fields) (key : String) (value : Json) : Fields :=
  match fields with
  | [] => [(key, value)]
  | entry :: rest =>
      if entry.1 = key then (key, value) :: rest else entry :: set rest key value

def setAll (fields entries : Fields) : Fields :=
  entries.foldl (fun result entry => set result entry.1 entry.2) fields

/-- Takes a key out; the last entry takes its place. -/
def remove (fields : Fields) (key : String) : Fields :=
  match fields.findIdx? fun entry => entry.1 == key, fields.getLast? with
  | some index, some last =>
      if index + 1 = fields.length then fields.dropLast
      else fields.dropLast.set index last
  | _, _ => fields

@[simp]
theorem get?_set_self (fields : Fields) (key : String) (value : Json) :
    get? (set fields key value) key = some value := by
  induction fields with
  | nil => simp [set, get?]
  | cons entry rest step =>
    obtain ⟨first, held⟩ := entry
    simp only [set]
    split
    · simp [get?]
    · rename_i other
      have differs : (key == first) = false := by simpa using fun same => other same.symm
      simpa [get?, List.lookup_cons, differs] using step

end Fields

namespace Json

mutual

def decide : (left right : Json) → Decidable (left = right)
  | .null, .null => isTrue rfl
  | .bool left, .bool right =>
      if same : left = right then isTrue (by rw [same])
      else isFalse (by intro equal; cases equal; exact same rfl)
  | .number left, .number right =>
      if same : left = right then isTrue (by rw [same])
      else isFalse (by intro equal; cases equal; exact same rfl)
  | .string left, .string right =>
      if same : left = right then isTrue (by rw [same])
      else isFalse (by intro equal; cases equal; exact same rfl)
  | .array left, .array right =>
      match decideItems left right with
      | isTrue same => isTrue (by rw [same])
      | isFalse differ => isFalse (by intro equal; cases equal; exact differ rfl)
  | .object left, .object right =>
      match decideFields left right with
      | isTrue same => isTrue (by rw [same])
      | isFalse differ => isFalse (by intro equal; cases equal; exact differ rfl)
  | .null, .bool _ | .null, .number _ | .null, .string _ | .null, .array _ | .null, .object _ =>
      isFalse nofun
  | .bool _, .null | .bool _, .number _ | .bool _, .string _ | .bool _, .array _
  | .bool _, .object _ => isFalse nofun
  | .number _, .null | .number _, .bool _ | .number _, .string _ | .number _, .array _
  | .number _, .object _ => isFalse nofun
  | .string _, .null | .string _, .bool _ | .string _, .number _ | .string _, .array _
  | .string _, .object _ => isFalse nofun
  | .array _, .null | .array _, .bool _ | .array _, .number _ | .array _, .string _
  | .array _, .object _ => isFalse nofun
  | .object _, .null | .object _, .bool _ | .object _, .number _ | .object _, .string _
  | .object _, .array _ => isFalse nofun

def decideItems : (left right : List Json) → Decidable (left = right)
  | [], [] => isTrue rfl
  | [], _ :: _ => isFalse nofun
  | _ :: _, [] => isFalse nofun
  | left :: lefts, right :: rights =>
      match decide left right, decideItems lefts rights with
      | isTrue first, isTrue others => isTrue (by rw [first, others])
      | isFalse differ, _ => isFalse (by intro equal; cases equal; exact differ rfl)
      | _, isFalse differ => isFalse (by intro equal; cases equal; exact differ rfl)

def decideFields : (left right : List (String × Json)) → Decidable (left = right)
  | [], [] => isTrue rfl
  | [], _ :: _ => isFalse nofun
  | _ :: _, [] => isFalse nofun
  | (leftKey, left) :: lefts, (rightKey, right) :: rights =>
      if same : leftKey = rightKey then
        match decide left right, decideFields lefts rights with
        | isTrue first, isTrue others => isTrue (by rw [same, first, others])
        | isFalse differ, _ => isFalse (by intro equal; cases equal; exact differ rfl)
        | _, isFalse differ => isFalse (by intro equal; cases equal; exact differ rfl)
      else isFalse (by intro equal; cases equal; exact same rfl)

end

instance : DecidableEq Json := Json.decide

def ofInt (value : Int) : Json :=
  .number (.integer value)

def ofNat (value : Nat) : Json :=
  .number (.integer value)

/-- A text or nothing as a string or null. -/
def ofText? : Option String → Json
  | some text => .string text
  | none => .null

/-- A list of texts as an array of strings. -/
def ofTexts (texts : List String) : Json :=
  .array (texts.map .string)

def isNull : Json → Bool
  | null => true
  | _ => false

/-- The value under a key of an object; null when there is none. -/
def member (value : Json) (key : String) : Json :=
  match value with
  | object fields => (Fields.get? fields key).getD null
  | _ => null

/-- The integer that a stored value counts as: whole numbers and doubles by truncation within the
signed 64-bit range, texts by what they spell, truth values as zero and one, else zero. -/
def toInteger : Option Json → Int
  | some (.number (.integer value)) =>
      if value ≤ Text.largestInteger then value else Text.largestInteger
  | some (.number (.double value)) =>
      max Text.leastInteger (min Text.largestInteger value.truncate)
  | some (.string text) => (Text.integer? (Text.trim text.toList)).getD 0
  | some (.bool value) => if value then 1 else 0
  | _ => 0

end Json

end TableApi
