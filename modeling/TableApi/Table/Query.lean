import TableApi.Table.Schema

/-!
# Statements about a looked-up table

Each function here gives a statement about one table, or the error that names the columns which
the table does not have.  The column of an id is taken for granted where a statement addresses one
record, and looked up where ids are selected.
-/

namespace TableApi

namespace Json

/-- The value that is bound for a field: arrays and objects become their text. -/
def bound : Json → Json
  | .array items => .string (Json.array items).render
  | .object fields => .string (Json.object fields).render
  | other => other

end Json

namespace Schema

/-- Checks the columns that the conditions name, then the order clause. -/
def accept (schema : Schema) (filters : FilterSet) : Except SchemaError FilterSet := do
  schema.requireColumns filters.columns
  match filters.orderBy with
  | none => return filters
  | some clause =>
      let clause ← schema.orderBy clause
      return { filters with orderBy := some clause }

/-- All of each row that the filters mean. -/
def select (schema : Schema) (filters : FilterSet) : Except SchemaError Statement := do
  let filters ← schema.accept filters
  return .select .all schema.name filters

/-- How many rows satisfy the conditions, whatever the order and the window. -/
def count (schema : Schema) (filters : FilterSet) : Except SchemaError Statement := do
  schema.requireColumns filters.columns
  return .select .count schema.name { FilterSet.empty with conditions := filters.conditions }

/-- The id of each row that the filters mean. -/
def selectIds (schema : Schema) (filters : FilterSet) : Except SchemaError Statement := do
  let _ ← schema.column "id"
  let filters ← schema.accept filters
  return .select .id schema.name filters

def selectById (schema : Schema) (id : Int) : Statement :=
  .find schema.name "id" (Json.ofInt id)

/-- The rows with a text in a column. -/
def selectByColumn (schema : Schema) (column value : String) : Except SchemaError Statement := do
  let column ← schema.column column
  return .find schema.name column (.string value)

/-- A new row with the values of a record. -/
def insert (schema : Schema) (record : Fields) : Except SchemaError Statement := do
  schema.requireColumns record.keys
  return .insert schema.name record.keys [record.values.map Json.bound]

/-- The values of a record under these columns; a missing one is null. -/
def rowOf (columns : List String) (record : Fields) : List Json :=
  columns.map fun column => ((record.get? column).map Json.bound).getD .null

/-- A new row for each record, with the columns of the first. -/
def insertBatch (schema : Schema) (records : List Fields) : Except SchemaError Statement :=
  match records with
  | [] => .ok (.insert schema.name [] [])
  | first :: _ => do
      schema.requireColumns first.keys
      return .insert schema.name first.keys (records.map (rowOf first.keys))

/-- New values for the rows with an id. -/
def updateById (schema : Schema) (id : Int) (record : Fields) : Except SchemaError Statement := do
  schema.requireColumns record.keys
  return .update schema.name (record.map fun (column, value) => (column, value.bound)) id

/-- No more rows with an id. -/
def deleteById (schema : Schema) (id : Int) : Statement :=
  .delete schema.name id

/-- No more rows with any of these ids. -/
def deleteByIds (schema : Schema) (ids : List Int) : Statement :=
  .deleteAll schema.name ids

end Schema

end TableApi
