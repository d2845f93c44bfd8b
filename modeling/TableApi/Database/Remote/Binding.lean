import TableApi.Database.Basic
import TableApi.Json.Printer

/-!
# Bound values

The values of a statement travel beside it, each with the type of its form.  A list or an object
travels as its JSON text, so that a statement binds nothing but plain values.
-/

namespace TableApi

/-- A value in the form in which it is bound. -/
inductive BoundValue where
  | null
  | truth (value : Bool)
  | integer (value : Int)
  /-- A number above the range of the signed ones. -/
  | word (value : Nat)
  | double (value : Double)
  | text (value : String)
deriving DecidableEq, Repr

namespace BoundValue

/-- The form in which a JSON value is bound. -/
def ofJson : Json → BoundValue
  | .null => null
  | .bool value => truth value
  | .number (.integer value) =>
      if value ≤ Text.largestInteger then integer value else word value.toNat
  | .number (.double value) => double value
  | .string value => text value
  | .array items => text (Json.array items).render
  | .object fields => text (Json.object fields).render

/-- The name of the type under which a value is bound. -/
def typeName : BoundValue → String
  | null => "NULL"
  | truth _ => "TINYINT"
  | integer _ => "BIGINT"
  | word _ => "BIGINT UNSIGNED"
  | double _ => "DOUBLE"
  | text _ => "VARCHAR"

/-- The value as the server receives it; a truth value is one or zero. -/
def received : BoundValue → Json
  | null => .null
  | truth value => .ofNat value.toNat
  | integer value => .ofInt value
  | word value => .ofNat value
  | double value => .number (.double value)
  | text value => .string value

end BoundValue

/-- A statement with its values as they are bound. -/
structure BoundStatement where
  query : String
  values : List BoundValue
deriving DecidableEq, Repr

namespace BoundStatement

def ofSql (sql : Sql) : BoundStatement :=
  ⟨sql.query, sql.params.map .ofJson⟩

end BoundStatement

end TableApi
