import TableApi.Database.Basic
import TableApi.Database.Memory.Reading

/-!
# A database in memory

The database answers every statement shape that the endpoints send.  Its state is its tables.  It
can be set up with canned answers for queries that start with a text, and with faults for
statements that contain one; a fault comes first, then a canned answer, then the tables.
-/

namespace TableApi.Memory

/-- What a database in memory answers without looking at its tables. -/
structure Setup where
  /-- Rows for the queries that start with a text. -/
  answers : List (String × List Row)
  /-- Messages for the statements that contain a text. -/
  faults : List (String × String)
  /-- The message with which every sign of life fails. -/
  pingFault : Option String
deriving DecidableEq, Repr

namespace Setup

def plain : Setup :=
  ⟨[], [], none⟩

/-- The fault that is set up for a statement. -/
def faultOf? (setup : Setup) (query : String) : Option DatabaseError :=
  (setup.faults.find? fun fault => Text.occurs fault.1.toList query.toList).map fun fault =>
    .query fault.2

/-- The rows that are set up for a query. -/
def answerTo? (setup : Setup) (query : String) : Option (List Row) :=
  (setup.answers.find? fun answer => answer.1.toList.isPrefixOf query.toList).map Prod.snd

end Setup

/-- The error of a statement that has none of the known shapes. -/
def unreadable (query : String) : DatabaseError :=
  .query ("MemoryDatabase cannot run: " ++ query)

/-- The error of a statement about a table that is not there. -/
def missingTable (name : String) : DatabaseError :=
  .query ("Table '" ++ name ++ "' doesn't exist")

/-- The table with a name, or the error that it is not there. -/
def tableOf (tables : Tables) (name : String) : Except DatabaseError Table :=
  match Named.get? tables name with
  | some table => .ok table
  | none => .error (missingTable name)

/-- What a selection returns of the chosen rows. -/
def project (projection : String) (rows : List Row) : List Row :=
  if projection = "*" then rows
  else if projection = "COUNT(*) AS count" then [[("count", Json.ofNat rows.length)]]
  else rows.map fun row => [(projection, (Fields.get? row projection).getD .null)]

/-- The rows in the order of a query, if it has one, unless their ordering breaks off. -/
def Query.ordered? (query : Query) (rows : List Row) : Option (List Row) :=
  match query.order with
  | some clause => orderRows? clause rows
  | none => some rows

/-- The rows in the window of a query. -/
def Query.windowed (query : Query) (rows : List Row) : List Row :=
  match query.window with
  | some (offset, limit) => page offset limit rows
  | none => rows

/-- The rows that a query selects, before its projection, unless their ordering breaks off. -/
def Query.shown? (query : Query) (table : Table) (values : List Json) : Option (List Row) :=
  (query.ordered? (table.rows.filter (clauseHolds query.conditions values))).map query.windowed

/-- The error of a call whose ordering broke off. -/
def disordered : DatabaseError :=
  .broken "user-provided comparison function does not correctly implement a total order"

/-- Rows that were ordered, or the error that their ordering broke off. -/
def ofOrdered (rows : Option (List Row)) : Except DatabaseError (List Row) :=
  match rows with
  | some rows => .ok rows
  | none => .error disordered

def fetch (tables : Tables) (sql : Sql) : Except DatabaseError (List Row) :=
  match Query.ofText? sql.query.toList with
  | none => .error (unreadable sql.query)
  | some query => do
      let table ← tableOf tables query.table
      ofOrdered ((query.shown? table sql.params).map (project query.projection))

/-- The number of values of an unsigned 64-bit word. -/
def wordRange : Int := 18446744073709551616

def insert (tables : Tables) (sql : Sql) : Except DatabaseError (Receipt × Tables) :=
  match readInsertion? sql.query.toList with
  | none => .error (unreadable sql.query)
  | some (name, columns) => do
      let table ← tableOf tables name
      let values := pieces columns.length sql.params
      return (⟨values.length, (table.nextId % wordRange).toNat⟩,
        Named.put tables name (table.insert columns values))

def update (tables : Tables) (sql : Sql) : Except DatabaseError (Receipt × Tables) :=
  match readUpdate? sql.query.toList with
  | none => .error (unreadable sql.query)
  | some (name, columns, conditions) => do
      let table ← tableOf tables name
      let chosen := clauseHolds conditions (sql.params.drop columns.length)
      return (⟨(table.rows.filter chosen).length, 0⟩,
        Named.put tables name (table.update (columns.zip sql.params) chosen))

def delete (tables : Tables) (sql : Sql) : Except DatabaseError (Receipt × Tables) :=
  match readDeletion? sql.query.toList with
  | none => .error (unreadable sql.query)
  | some (name, conditions) => do
      let table ← tableOf tables name
      let chosen := clauseHolds conditions sql.params
      return (⟨(table.rows.filter chosen).length, 0⟩, Named.put tables name (table.remove chosen))

/-- Carries out a change of the kind that the first word of a statement says. -/
def change (tables : Tables) (sql : Sql) : Except DatabaseError (Receipt × Tables) :=
  let text := sql.query.toList
  if "INSERT".toList.isPrefixOf text then insert tables sql
  else if "UPDATE".toList.isPrefixOf text then update tables sql
  else if "DELETE".toList.isPrefixOf text then delete tables sql
  else .error (unreadable sql.query)

namespace Setup

/-- Answers unless a fault is set up for the statement. -/
def unlessFault {α : Type} (setup : Setup) (query : String)
    (answer : Except DatabaseError α) : Except DatabaseError α :=
  match setup.faultOf? query with
  | some error => .error error
  | none => answer

def listTables (setup : Setup) (tables : Tables) : Except DatabaseError (List String) :=
  setup.unlessFault "SHOW TABLES" (.ok (Named.names tables))

def describeTable (setup : Setup) (tables : Tables) (name : String) :
    Except DatabaseError (List String) :=
  setup.unlessFault ("DESCRIBE " ++ name) ((tableOf tables name).map Table.columns)

def fetchAll (setup : Setup) (tables : Tables) (sql : Sql) : Except DatabaseError (List Row) :=
  setup.unlessFault sql.query (
    match setup.answerTo? sql.query with
    | some rows => .ok rows
    | none => fetch tables sql)

/-- The receipt of a change and the tables after it. -/
def execute (setup : Setup) (tables : Tables) (sql : Sql) :
    Except DatabaseError (Receipt × Tables) :=
  setup.unlessFault sql.query (change tables sql)

def database (setup : Setup) : Database Tables where
  listTables tables := .quiet (setup.listTables tables) tables
  describeTable name tables := .quiet (setup.describeTable tables name) tables
  fetchAll sql tables := .quiet (setup.fetchAll tables sql) tables
  execute sql tables :=
    match setup.execute tables sql with
    | .ok (receipt, after) => .quiet (.ok receipt) after
    | .error error => .quiet (.error error) tables
  ping tables :=
    match setup.pingFault with
    | some reason => .quiet (.error (.query reason)) tables
    | none => .quiet (.ok ()) tables

end Setup

end TableApi.Memory
