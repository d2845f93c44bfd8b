import TableApi.Filter.Basic

/-!
# Statements

`Sql` is what a database receives: a text with placeholders and the values bound to them.
`Statement` is the shape of every statement that the endpoints send, before it becomes text;
`Statement.toSql` writes it.

The text of a condition names the column and the comparison; its value is always bound.
-/

namespace TableApi

/-- A statement text with placeholders, and the values bound to them in order. -/
structure Sql where
  query : String
  params : List Json
deriving DecidableEq, Repr

namespace Condition

/-- The condition as the text of a term. -/
def term (condition : Condition) : String :=
  condition.column ++ condition.comparison.symbol ++ "?"

/-- The term after the conjunction that joins it. -/
def joinedTerm (condition : Condition) : String :=
  " " ++ condition.conjunction.word ++ " " ++ condition.term

/-- The clause of a list of conditions.  The first one is joined to nothing. -/
def clause : List Condition → String
  | [] => ""
  | first :: others => " WHERE " ++ first.term ++ String.join (others.map joinedTerm)

end Condition

namespace FilterSet

def orderClause (filters : FilterSet) : String :=
  match filters.orderBy with
  | some order => " ORDER BY " ++ order
  | none => ""

/-- The clause of the window: the offset, then the limit.  A missing offset is zero, and a missing
limit the largest 64-bit word. -/
def windowClause (filters : FilterSet) : String :=
  match filters.limit, filters.offset with
  | none, none => ""
  | limit, offset =>
      " LIMIT " ++ toString (offset.getD 0) ++ ", " ++ toString (limit.getD Text.largestWord)

/-- The statement that filters what a base text selects. -/
def appliedTo (filters : FilterSet) (base : String) : Sql where
  query := base ++ Condition.clause filters.conditions ++ filters.orderClause ++
    filters.windowClause
  params := filters.conditions.map fun condition => .string condition.value

end FilterSet

/-- What a selection returns of the rows: all of each, the id of each, or their number. -/
inductive Projection where
  | all
  | id
  | count
deriving DecidableEq, Repr

namespace Projection

def text : Projection → String
  | all => "*"
  | id => "id"
  | count => "COUNT(*) AS count"

end Projection

/-- The statements that endpoints send. -/
inductive Statement where
  /-- The rows that a filter set means. -/
  | select (projection : Projection) (table : String) (filters : FilterSet)
  /-- The rows with one value in one column. -/
  | find (table column : String) (value : Json)
  /-- New rows, each with one value for each column. -/
  | insert (table : String) (columns : List String) (rows : List (List Json))
  /-- New values for some columns of the rows with an id. -/
  | update (table : String) (fields : Fields) (id : Int)
  /-- No more rows with this id. -/
  | delete (table : String) (id : Int)
  /-- No more rows with any of these ids. -/
  | deleteAll (table : String) (ids : List Int)
deriving DecidableEq, Repr

namespace Statement

def placeholders (count : Nat) : String :=
  String.intercalate ", " (List.replicate count "?")

/-- The placeholders of one row. -/
def rowText (columns : List String) : String :=
  "(" ++ placeholders columns.length ++ ")"

/-- The text of a statement and its bound values.  No rows to insert is no statement at all, and
has the empty text. -/
def toSql : Statement → Sql
  | select projection table filters =>
      filters.appliedTo ("SELECT " ++ projection.text ++ " FROM " ++ table)
  | find table column value =>
      ⟨"SELECT * FROM " ++ table ++ " WHERE " ++ column ++ "=?", [value]⟩
  | insert _ _ [] => ⟨"", []⟩
  | insert table columns (row :: rows) =>
      ⟨"INSERT INTO " ++ table ++ " (" ++ String.intercalate ", " columns ++ ") VALUES " ++
          String.intercalate ", " ((row :: rows).map fun _ => rowText columns),
        (row :: rows).flatten⟩
  | update table fields id =>
      ⟨"UPDATE " ++ table ++ " SET " ++
          String.intercalate ", " (fields.keys.map fun column => column ++ "=?") ++ " WHERE id=?",
        fields.values ++ [Json.ofInt id]⟩
  | delete table id => ⟨"DELETE FROM " ++ table ++ " WHERE id=?", [Json.ofInt id]⟩
  | deleteAll table ids =>
      ⟨"DELETE FROM " ++ table ++ " WHERE id IN (" ++ placeholders ids.length ++ ")",
        ids.map Json.ofInt⟩

end Statement

end TableApi
