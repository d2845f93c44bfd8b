import TableApi.Access.Decision
import TableApi.Filter.QueryString

/-!
# What each endpoint does

An endpoint reads the filters or the record of a request, checks them, and only then sends a
statement that changes anything.  It returns the JSON body of a successful answer.
-/

namespace TableApi

/-- What an endpoint may read: the database, the table, the descriptor, the context of the request,
and its data as the before hook left them. -/
structure Execution (σ : Type) where
  database : Database σ
  schema : Schema
  descriptor : Descriptor
  context : Context
  input : HookInput

namespace Execution

variable {σ : Type}

def fetch (execution : Execution σ) (statement : Statement) : Action σ ApiError (List Row) :=
  (execution.database.rows statement.toSql).rescue DatabaseError.raise

/-- The receipt of a statement that changes rows. -/
def change (execution : Execution σ) (statement : Statement) : Action σ ApiError Receipt :=
  (execution.database.change statement.toSql).rescue DatabaseError.raise

/-- A statement about the table, or the error that the client sees. -/
def build (built : Except SchemaError Statement) : Action σ ApiError Statement :=
  match built with
  | .ok statement => pure statement
  | .error error => error.raise

/-- The filters of a request: those of the query string for `GET`, those of the body otherwise, and
none unless the endpoint lets requests filter. -/
def filters (execution : Execution σ) : Action σ ApiError FilterSet :=
  if execution.descriptor.enableParams then
    if execution.context.verb = .get then do
      Action.emit ((QueryString.ignored execution.input.query).map Event.log)
      return QueryString.filters execution.input.query
    else
      Action.ofExcept ((FilterBody.filters execution.input.params).mapError FilterError.toApiError)
  else pure .empty

/-- The posted object, which must not be empty. -/
def record (execution : Execution σ) : Except ApiError Fields :=
  match execution.input.params with
  | .object (entry :: entries) => .ok (entry :: entries)
  | .object [] => .error (.badRequest "Request body is empty")
  | .null => .error (.badRequest "Request body is empty")
  | _ => .error (.badRequest "Request body must be a JSON object")

def fetchById (execution : Execution σ) (id : Int) : Action σ ApiError (Option Row) := do
  let rows ← execution.fetch (execution.schema.selectById id)
  return rows.head?

/-- The message for a record that is not there. -/
def noRecord (execution : Execution σ) (id : Int) : String :=
  "No " ++ execution.schema.name ++ " record with id " ++ toString id

def rowOrNull : Option Row → Json
  | some row => .object row
  | none => .null

def rows (execution : Execution σ) : Action σ ApiError Json := do
  let filters ← execution.filters
  let statement ← build (execution.schema.select filters)
  let rows ← execution.fetch statement
  return .array (rows.map .object)

/-- The number in the first row of a count. -/
def countIn (rows : List Row) : Int :=
  match rows with
  | [] => 0
  | row :: _ => Json.toInteger (Fields.get? row "count")

def count (execution : Execution σ) : Action σ ApiError Json := do
  let filters ← execution.filters
  let statement ← build (execution.schema.count filters)
  let rows ← execution.fetch statement
  return .ofInt (countIn rows)

/-- The record with the id of the request. -/
def findOne (execution : Execution σ) : Action σ ApiError Json := do
  match execution.context.numericId with
  | none => Action.fail (.notFound "Record not found")
  | some id =>
      match ← execution.fetchById id with
      | some row => return .object row
      | none => Action.fail (.notFound (execution.noRecord id))

/-- Whether there is a record with the id of the request; a failing lookup finds none. -/
def existence (execution : Execution σ) : Action σ ApiError Json := do
  match execution.context.numericId with
  | none => return .bool false
  | some id =>
      match ← (execution.fetchById id).attempt with
      | .ok row => return .bool row.isSome
      | .error error =>
          Action.log (.plain .warn ("Exists lookup failed: " ++ error.message))
          return .bool false

/-- Adds the posted record and returns it as it is stored. -/
def create (execution : Execution σ) : Action σ ApiError Json := do
  let record ← Action.ofExcept execution.record
  let statement ← build (execution.schema.insert record)
  let receipt ← execution.change statement
  if (receipt.insertId : Int) ≤ Text.largestInteger then
    let row ← execution.fetchById receipt.insertId
    return rowOrNull row
  else
    Action.fail (.internal "Insert id out of range")

/-- The posted records, each a non-empty object; `index` counts them. -/
def objectsFrom (index : Nat) : List Json → Except ApiError (List Fields)
  | [] => .ok []
  | .object (entry :: entries) :: items =>
      (objectsFrom (index + 1) items).map fun records => (entry :: entries) :: records
  | _ :: _ => .error (.badRequest ("Item " ++ toString index ++ " is not a non-empty object"))

def sameKeys (first other : Fields) : Bool :=
  other.length == first.length && first.all fun entry => other.has entry.1

/-- Checks that the records from `index` on have the keys of the first one. -/
def checkKeysFrom (first : Fields) (index : Nat) : List Fields → Except ApiError Unit
  | [] => .ok ()
  | record :: records =>
      if sameKeys first record then checkKeysFrom first (index + 1) records
      else
        .error (.badRequest
          ("Item " ++ toString index ++ " does not have the same fields as item 0"))

/-- The posted records: a non-empty array of non-empty objects with the same keys. -/
def records (params : Json) : Except ApiError (List Fields) :=
  match params with
  | .array [] => .error (.badRequest "Request body is empty")
  | .array items => do
      let records ← objectsFrom 0 items
      match records with
      | [] => return []
      | first :: others =>
          checkKeysFrom first 1 others
          return first :: others
  | _ => .error (.badRequest "Request body must be a JSON array of objects")

/-- Adds the posted records with one statement and returns how many there are. -/
def insertBatch (execution : Execution σ) : Action σ ApiError Json := do
  let records ← Action.ofExcept (records execution.input.params)
  let statement ← build (execution.schema.insertBatch records)
  let receipt ← execution.change statement
  return .ofNat receipt.affected

/-- Sets the posted fields, the id apart, of the record with the id of the request, and returns it
as it is stored. -/
def update (execution : Execution σ) : Action σ ApiError Json := do
  match execution.context.numericId with
  | none => Action.fail (.badRequest "Update requires a numeric id")
  | some id =>
      let posted ← Action.ofExcept execution.record
      let record := Fields.remove posted "id"
      if record.isEmpty then
        Action.fail (.badRequest "Nothing to update")
      else
        let statement ← build (execution.schema.updateById id record)
        match ← execution.fetchById id with
        | none => Action.fail (.notFound (execution.noRecord id))
        | some _ =>
            let _ ← execution.change statement
            let row ← execution.fetchById id
            return rowOrNull row

/-- The ids of some rows. -/
def idsOf (rows : List Row) : List Int :=
  rows.map fun row => Json.toInteger (Fields.get? row "id")

/-- Removes the rows that the filters mean and returns how many there were. -/
def destroy (execution : Execution σ) : Action σ ApiError Json := do
  let filters ← execution.filters
  if filters.conditions.isEmpty then
    Action.log (.plain .warn
      ("Destroy on " ++ execution.schema.name ++ " without conditions removes every row"))
  let statement ← build (execution.schema.selectIds filters)
  let rows ← execution.fetch statement
  if rows.isEmpty then
    return .ofNat 0
  else
    let receipt ← execution.change (execution.schema.deleteByIds (idsOf rows))
    return .ofNat receipt.affected

/-- Removes the record with the id of the request. -/
def deleteOne (execution : Execution σ) : Action σ ApiError Json := do
  match execution.context.numericId with
  | none => Action.fail (.badRequest "Delete requires a numeric id")
  | some id =>
      match ← execution.fetchById id with
      | none => Action.fail (.unprocessable (execution.noRecord id))
      | some _ =>
          let _ ← execution.change (execution.schema.deleteById id)
          return .bool true

/-- Runs the endpoint of the request. -/
def run (execution : Execution σ) : Action σ ApiError Json :=
  match execution.context.endpoint with
  | .get | .search => execution.rows
  | .count | .countByPost => execution.count
  | .findOne => execution.findOne
  | .exists => execution.existence
  | .create => execution.create
  | .insertBatch => execution.insertBatch
  | .update => execution.update
  | .destroy => execution.destroy
  | .deleteOne => execution.deleteOne

end Execution

end TableApi
