import TableApi.Database.Memory.Order
import TableApi.Named
import TableApi.Sql.Statement

/-!
# Tables in memory

A table has columns and rows.  The operations of this module select, add, change and remove rows
by a predicate, and know nothing of statement texts.  A row that is added without an id is given
the one after the largest integer id.
-/

namespace TableApi.Memory

/-- A table: its columns, and its rows in the order in which they were added. -/
structure Table where
  columns : List String
  rows : List Row
deriving DecidableEq, Repr

/-- The tables of a database under their names. -/
abbrev Tables := Named Table

/-- The part of the rows that a limit and an offset leave. -/
def page {α : Type} (offset limit : Nat) (rows : List α) : List α :=
  (rows.drop offset).take limit

namespace Table

/-- The id after the largest integer id of the table, or one where no row is.  The program counts
ids in a signed word and this counter has no end, so what is said of new ids keeps it within the
word. -/
def nextId (table : Table) : Int :=
  match table.rows.map fun row => integerOf (Fields.get? row "id") with
  | [] => 1
  | first :: others => others.foldl max first + 1

/-- The row with these values under these columns, after the id if there is one to give. -/
def rowOf (given : Option Int) (columns : List String) (values : List Json) : Row :=
  let start : Row := match given with
    | some id => [("id", Json.ofInt id)]
    | none => []
  start.setAll (columns.zip values)

/-- The rows with these values under these columns; the ids are counted up from `first` unless the
columns hold one.  Like `nextId` the counter stands for that of the program within a signed word. -/
def rowsOf (columns : List String) (first : Int) : List (List Json) → List Row
  | [] => []
  | values :: others =>
      if columns.contains "id" then
        rowOf none columns values :: rowsOf columns first others
      else
        rowOf (some first) columns values :: rowsOf columns (first + 1) others

/-- Adds rows behind the ones that are there. -/
def insert (table : Table) (columns : List String) (values : List (List Json)) : Table :=
  { table with rows := table.rows ++ rowsOf columns table.nextId values }

/-- Sets the given fields in every row that the predicate chooses. -/
def update (table : Table) (fields : Fields) (chosen : Row → Bool) : Table :=
  { table with rows := table.rows.map fun row => if chosen row then row.setAll fields else row }

/-- Removes every row that the predicate chooses. -/
def remove (table : Table) (chosen : Row → Bool) : Table :=
  { table with rows := table.rows.filter fun row => !chosen row }

end Table

end TableApi.Memory
