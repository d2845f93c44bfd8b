import TableApi.Database.Memory.Arrangement
import TableApi.Filter.Body
import TableApi.Number.Decimal

/-!
# Comparing and ordering stored values

Stored values compare as the numbers that their texts spell when both spell one, and as texts
otherwise; null compares with nothing.  Rows are ordered by one column.  Two rows whose values do
not compare count as equal, so which rows precede which need not be an order, and then the ordering
may break off.
-/

namespace TableApi.Memory

/-- The text that a stored value compares as; null has none. -/
def textOf? : Json → Option String
  | .null => none
  | .string text => some text
  | .bool value => some (if value then "1" else "0")
  | other => some other.render

/-- The order of two texts: of the numbers that they spell, else of their code points. -/
def compareTexts? (left right : String) : Option Ordering :=
  match Reading.ofText? left.toList, Reading.ofText? right.toList with
  | some first, some second => Reading.compare? first second
  | _, _ => some (if left < right then .lt else if left = right then .eq else .gt)

/-- The order of a stored value, if there is one, and another value. -/
def compareValues? (stored : Option Json) (value : Json) : Option Ordering := do
  let left ← textOf? (← stored)
  let right ← textOf? value
  compareTexts? left right

/-- The integer that a stored value spells; zero when it spells none. -/
def integerOf (stored : Option Json) : Int :=
  ((stored.bind textOf?).bind fun text => Text.integer? text.toList).getD 0

/-- The order of two rows by one column. -/
def compareRows (column : String) (left right : Row) : Ordering :=
  (do compareValues? (Fields.get? left column) (← Fields.get? right column)).getD .eq

/-- The column and the direction of the first part of an order clause; true means descending. -/
def orderKey (clause : List Char) : String × Bool :=
  let words := Text.words ((Text.splitAtChar ',' clause).headD [])
  (.ofList (words.headD []),
    (words[1]?).any fun word => Directive.sameWord word "desc".toList)

/-- The rows in the order of the first part of an order clause, unless the ordering breaks off. -/
def orderRows? (clause : List Char) (rows : List Row) : Option (List Row) :=
  let (column, descending) := orderKey clause
  Arrangement.arrange?
    (fun left right =>
      let ordering := compareRows column left right
      (if descending then ordering.swap else ordering) == .lt)
    rows

end TableApi.Memory
