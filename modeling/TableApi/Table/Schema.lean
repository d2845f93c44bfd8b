import TableApi.Effect.Action

/-!
# Looked-up tables

Names of tables and columns cannot be bound to placeholders, so they become part of the text of a
statement.  A `Schema` therefore holds only names that the database itself has listed, and every
column that a statement names is looked up in it first.

`Schema.load` is the gate: a name that is no identifier reaches no database, and a table that the
database does not list is never described.
-/

namespace TableApi

/-- Why a table, a column or an order clause was refused. -/
inductive SchemaError where
  | unknownTable (name : String)
  | unknownColumns (names : List String)
  | invalidOrder (clause : String)
  | database (error : DatabaseError)
deriving DecidableEq, Repr

namespace SchemaError

def message : SchemaError → String
  | unknownTable name => "Invalid table name: " ++ name
  | unknownColumns names => "Invalid column name(s): " ++ String.intercalate ", " names
  | invalidOrder clause => "Invalid order by clause: " ++ clause
  | database error => error.message

end SchemaError

/-- A table that the database has listed, with the columns that the database gave for it. -/
structure Schema where
  name : String
  columns : List String
deriving DecidableEq, Repr

/-- Whether a character may stand in an identifier. -/
def isIdentifierChar (character : Char) : Bool :=
  character.isAlphanum || character == '_'

/-- Whether a text is an identifier: one to 64 ASCII letters, digits and underscores. -/
def isIdentifier (name : String) : Bool :=
  !name.isEmpty && name.toList.length ≤ 64 && name.toList.all isIdentifierChar

namespace Schema

def hasColumn (schema : Schema) (column : String) : Bool :=
  schema.columns.any fun known => known == column

def column (schema : Schema) (name : String) : Except SchemaError String :=
  if schema.hasColumn name then .ok name else .error (.unknownColumns [name])

/-- The names that are no columns, each once, in the order in which they first come. -/
def unknownColumns (schema : Schema) (names : List String) : List String :=
  names.foldl
    (fun unknown name =>
      if schema.hasColumn name || unknown.contains name then unknown else unknown ++ [name])
    []

/-- Checks that every name is a column; the error lists all that are not. -/
def requireColumns (schema : Schema) (names : List String) : Except SchemaError Unit :=
  match schema.unknownColumns names with
  | [] => .ok ()
  | unknown => .error (.unknownColumns unknown)

/-- The words for the two directions of an order. -/
def isDirection (word : List Char) : Bool :=
  Directive.sameWord word "asc".toList || Directive.sameWord word "desc".toList

/-- Checks one part of an order clause: a column, and perhaps a direction.  The clause itself is
needed for the error only. -/
def checkOrderPart (schema : Schema) (clause part : List Char) : Except SchemaError Unit :=
  match Text.words part with
  | [] => .error (.invalidOrder (.ofList clause))
  | column :: rest => do
      let _ ← schema.column (.ofList column)
      match rest with
      | [] => .ok ()
      | [direction] =>
          if isDirection direction then .ok () else .error (.invalidOrder (.ofList clause))
      | _ => .error (.invalidOrder (.ofList clause))

/-- Checks the parts of an order clause from the left. -/
def checkOrderParts (schema : Schema) (clause : List Char) :
    List (List Char) → Except SchemaError Unit
  | [] => .ok ()
  | part :: parts => do
      schema.checkOrderPart clause part
      checkOrderParts schema clause parts

/-- The order clause without blanks around it, once every part between its commas is a column of
the table with at most a direction behind it. -/
def orderBy (schema : Schema) (text : String) : Except SchemaError String := do
  let clause := Text.trim text.toList
  schema.checkOrderParts clause (Text.splitAtChar ',' clause)
  return .ofList clause

/-- Looks a table up in a database, and then its columns. -/
def load {σ : Type} (database : Database σ) (name : String) : Action σ SchemaError Schema := do
  if !isIdentifier name then
    Action.fail (.unknownTable name)
  else
    let tables ← database.tables.rescue fun error => Action.fail (.database error)
    if tables.contains name then
      let columns ← (database.columns name).rescue fun error => Action.fail (.database error)
      return ⟨name, columns⟩
    else
      Action.log (.plain .debug ("Rejected unknown table '" ++ name ++ "'"))
      Action.fail (.unknownTable name)

end Schema

end TableApi
