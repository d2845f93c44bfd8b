import TableApi.Filter.Basic
import TableApi.Json.Reader

/-!
# Filters in the body of a request

The body is a JSON object whose keys name a column and, at their end, the sign of a comparison;
the body `{"age >=": 21}` asks for an age of at least 21.  The value of a condition is a string,
a number or a truth value, and becomes a text.

Each entry contributes a filter set of its own, and the first entry that contributes none is the
error of the body.  A body that is blank or null means every row.
-/

namespace TableApi

/-- Why a body is no filter set. -/
inductive FilterError where
  | invalidJson (error : Json.ReadError)
  | notAnObject
  | unsupportedValue (key : String)
  | emptyColumn (key : String)
deriving DecidableEq, Repr

namespace FilterError

def message : FilterError → String
  | invalidJson error => "Invalid JSON body: " ++ error.message
  | notAnObject => "Filter body must be a JSON object"
  | unsupportedValue key =>
      "Unsupported value for '" ++ key ++
        "': filter values must be strings, numbers or booleans"
  | emptyColumn key => "Empty column name in filter key '" ++ key ++ "'"

end FilterError

namespace Json

/-- The text that a scalar stands for in a condition; null has none. -/
def scalarText? : Json → Option String
  | .string text => some text
  | .number value => some value.text
  | .bool value => some (if value then "1" else "0")
  | .null => none
  | .array _ => none
  | .object _ => none

end Json

namespace FilterBody

/-- The signs that may end a key, in the order in which they are tried. -/
def signs : List (List Char × Comparison) :=
  [("!=".toList, .notEqual), ("<=".toList, .atMost), (">=".toList, .atLeast),
   ("!".toList, .notEqual), ("<".toList, .less), (">".toList, .greater), ("=".toList, .equal)]

/-- The column and the comparison of a key; a key without a sign asks for equality. -/
def splitKey (key : List Char) : List Char × Comparison :=
  let cut := signs.findSome? fun (sign, comparison) =>
    (Text.dropTail? sign key).map fun column => (Text.trimEnd column, comparison)
  cut.getD (key, .equal)

def filtersOfEntry (key : String) (value : Json) : Except FilterError FilterSet :=
  match Directive.ofKey? key.toList with
  | some directive =>
      match value.scalarText? with
      | some text => .ok (directive.filters text.toList)
      | none => .ok .empty
  | none =>
      let (conjunction, rest) := Conjunction.ofKey key.toList
      let (column, comparison) := splitKey rest
      if column.isEmpty then .error (.emptyColumn key)
      else
        match value.scalarText? with
        | some text => .ok (.ofCondition ⟨.ofList column, comparison, text, conjunction⟩)
        | none => .error (.unsupportedValue key)

/-- What the entries of a body contribute together. -/
def filtersOfEntries : Fields → Except FilterError FilterSet
  | [] => .ok .empty
  | (key, value) :: entries => do
      let first ← filtersOfEntry key value
      let others ← filtersOfEntries entries
      return first ++ others

/-- The filter set that a value means. -/
def filters : Json → Except FilterError FilterSet
  | .null => .ok .empty
  | .object entries => filtersOfEntries entries
  | _ => .error .notAnObject

/-- Whether a byte is white space of the ASCII range. -/
def isSpace (byte : UInt8) : Bool :=
  byte = 0x20 || byte = 0x09 || byte = 0x0A || byte = 0x0C || byte = 0x0D

/-- The filter set that the bytes of a body mean. -/
def filtersOfBytes (body : List UInt8) : Except FilterError FilterSet :=
  if body.all isSpace then .ok .empty
  else
    match Json.read body with
    | .ok value => filters value
    | .error error => .error (.invalidJson error)

end FilterBody

end TableApi
