import TableApi.Database.Memory.Table

/-!
# Reading statement texts

The database in memory receives statements as texts.  A text is read by cutting it at the words
that its statement shape has, and a clause of conditions by its single spaces: the terms between
them hold from left to right, `AND` and `OR` binding alike, and each term takes the next bound
value.
-/

namespace TableApi.Memory

/-- A query as its text says it. -/
structure Query where
  projection : String
  table : String
  conditions : List Char
  order : Option (List Char)
  window : Option (Nat × Nat)
deriving DecidableEq, Repr

namespace Query

/-- The window that the text behind `LIMIT` says: the offset and the limit. -/
def window? (text : List Char) : Option (Nat × Nat) := do
  let (offset, limit) ← Text.cut? ", ".toList text
  return ((Text.word? offset).getD 0, (Text.word? limit).getD Text.largestWord)

/-- The condition clause without its first word; anything else is no condition. -/
def conditionsOf (clause : List Char) : List Char :=
  (Text.dropLead? "WHERE ".toList (Text.trim clause)).getD []

/-- Cuts a clause at the order clause that it ends with. -/
def cutOrder (clause : List Char) : List Char × Option (List Char) :=
  match Text.cut? " ORDER BY ".toList clause with
  | some (before, order) => (before, some order)
  | none => (clause, none)

/-- Cuts a clause at the window that it ends with, and fails when the window is no pair. -/
def cutWindow? (clause : List Char) : Option (List Char × Option (Nat × Nat)) :=
  match Text.cut? " LIMIT ".toList clause with
  | some (before, text) => (window? text).map fun window => (before, some window)
  | none => some (clause, none)

def ofText? (text : List Char) : Option Query := do
  let rest ← Text.dropLead? "SELECT ".toList text
  let (projection, rest) ← Text.cut? " FROM ".toList rest
  let (table, clause) := (Text.cutAt? ' ' rest).getD (rest, [])
  let (clause, window) ← cutWindow? (' ' :: clause)
  let (clause, order) := cutOrder clause
  return ⟨.ofList projection, .ofList table, conditionsOf clause, order, window⟩

end Query

/-- The signs that a term may hold, in the order in which they are tried. -/
def termSigns : List Comparison :=
  [.notEqual, .atMost, .atLeast, .less, .greater, .equal]

/-- The column and the comparison of a term. -/
def splitTerm? (term : List Char) : Option (String × Comparison) :=
  let term := Text.dropWhileEnd (· == '?') term
  termSigns.findSome? fun comparison =>
    (Text.dropTail? comparison.symbol.toList term).map fun column => (.ofList column, comparison)

/-- Whether a term holds of a row and a bound value. -/
def termHolds (row : Row) (term : List Char) (value : Json) : Bool :=
  match splitTerm? term with
  | none => false
  | some (column, comparison) =>
      (compareValues? (Fields.get? row column) value).any comparison.holds

/-- Whether the rest of a clause holds of a row, after a part with this truth; the very first term
is joined to nothing. -/
def termsHold (row : Row) (first : Bool) (conjunction : Conjunction) (before : Bool) :
    List (List Char) → List Json → Bool
  | [], _ => before
  | token :: tokens, values =>
      if token = "AND".toList then termsHold row false .and before tokens values
      else if token = "OR".toList then termsHold row false .or before tokens values
      else
        match values with
        | [] => false
        | value :: values =>
            let term := termHolds row token value
            termsHold row false conjunction
              (if first then term else conjunction.join before term) tokens values

/-- Whether a clause of conditions holds of a row with these bound values.  A clause that looks for
a column in a list compares the column with every bound value. -/
def clauseHolds (clause : List Char) (values : List Json) (row : Row) : Bool :=
  if clause.isEmpty then true
  else
    match Text.cut? " IN (".toList clause with
    | some (column, _) =>
        values.any fun value =>
          compareValues? (Fields.get? row (.ofList column)) value == some .eq
    | none => termsHold row true .and true (Text.splitAtChar ' ' clause) values

/-- A list in pieces of a positive length, the last of which may be shorter. -/
def pieces {α : Type} (length : Nat) : List α → List (List α)
  | [] => []
  | item :: items =>
      (item :: items.take (length - 1)) :: pieces length (items.drop (length - 1))
termination_by items => items.length
decreasing_by
  simp only [List.length_drop, List.length_cons]
  omega

/-- An insertion as its text says it: the table and the columns. -/
def readInsertion? (text : List Char) : Option (String × List String) := do
  let rest ← Text.dropLead? "INSERT INTO ".toList text
  let (table, rest) ← Text.cut? " (".toList rest
  let (columns, _) ← Text.cut? ") VALUES ".toList rest
  return (.ofList table, (Text.splitAt ", ".toList columns).map .ofList)

/-- An update as its text says it: the table, the columns to set, and the conditions. -/
def readUpdate? (text : List Char) : Option (String × List String × List Char) := do
  let rest ← Text.dropLead? "UPDATE ".toList text
  let (table, rest) ← Text.cut? " SET ".toList rest
  let (assignments, conditions) ← Text.cut? " WHERE ".toList rest
  let columns := (Text.splitAt ", ".toList assignments).map (Text.dropTails "=?".toList)
  return (.ofList table, columns.map .ofList, conditions)

/-- A deletion as its text says it: the table and the conditions. -/
def readDeletion? (text : List Char) : Option (String × List Char) := do
  let rest ← Text.dropLead? "DELETE FROM ".toList text
  let (table, conditions) := (Text.cut? " WHERE ".toList rest).getD (rest, [])
  return (.ofList table, conditions)

end TableApi.Memory
