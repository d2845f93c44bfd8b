import TableApi.Effect.Log
import TableApi.Sql.Statement

/-!
# Databases

A database is what answers five calls: the names of its tables, the columns of a table, the rows
of a query, the receipt of a change, and a sign of life.  Each call takes the state of the world
to a reply that holds the answer, the log entries made on the way and the next state, so that a
database is a plain value and every run can be replayed.
-/

namespace TableApi

/-- Why a database did not answer. -/
inductive DatabaseError where
  | missingSetting (name : String)
  | query (reason : String)
  /-- The server refused, with its code, its state and its text. -/
  | refused (code : Nat) (state reason : String)
  /-- The connection or a value failed before the server could answer. -/
  | connection (reason : String)
  /-- The call broke off and gave no reply at all.  The request ends with it unanswered, so what the
  stages behind the call make of this error stands for nothing. -/
  | broken (reason : String)
deriving DecidableEq, Repr

namespace DatabaseError

def message : DatabaseError → String
  | missingSetting name => "Missing configuration: " ++ name
  | query reason => "Query error: " ++ reason
  | refused code state reason =>
      "error returned from database: " ++ toString code ++ " (" ++ state ++ "): " ++ reason
  | connection reason => reason
  | broken reason => reason

end DatabaseError

/-- What a change reports: how many rows it affected, and the id that the first inserted row was
given. -/
structure Receipt where
  affected : Nat
  insertId : Nat
deriving DecidableEq, Repr

/-- What a call returns, logs and leaves behind. -/
structure Reply (σ ε α : Type) where
  result : Except ε α
  entries : List LogEntry
  state : σ

namespace Reply

/-- A reply that logs nothing. -/
def quiet {σ ε α : Type} (result : Except ε α) (state : σ) : Reply σ ε α :=
  ⟨result, [], state⟩

end Reply

/-- The five calls of a database whose world has states of type `σ`. -/
structure Database (σ : Type) where
  listTables : σ → Reply σ DatabaseError (List String)
  describeTable : String → σ → Reply σ DatabaseError (List String)
  fetchAll : Sql → σ → Reply σ DatabaseError (List Row)
  execute : Sql → σ → Reply σ DatabaseError Receipt
  ping : σ → Reply σ DatabaseError Unit

/-- A call as the database receives it. -/
inductive DatabaseCall where
  | listTables
  | describeTable (table : String)
  | fetchAll (sql : Sql)
  | execute (sql : Sql)
  | ping
deriving DecidableEq, Repr

namespace DatabaseCall

/-- The statement that a call sends; a sign of life needs none. -/
def statement? : DatabaseCall → Option Sql
  | listTables => some ⟨"SHOW TABLES", []⟩
  | describeTable table => some ⟨"DESCRIBE " ++ table, []⟩
  | fetchAll sql => some sql
  | execute sql => some sql
  | ping => none

end DatabaseCall

end TableApi
