import TableApi.Proofs.Database.Filtering
import TableApi.Proofs.Json.Fields
import TableApi.Proofs.Number.Decimal

/-!
# Rows under their ids

A row is looked up by its id in two ways: by the text of a segment of a path, and by the integer
that was read from this text.  Stored values compare as numbers when both sides spell one and as
texts otherwise, so the two could find different rows.  For digits whose value fits an integer they
do not: leading zeros do not count, and a stored text that spells no number is neither of the two.
-/

namespace TableApi

namespace Memory

/-! ## Digits and the integer that they spell -/

/-- Whether a row has a value depends on nothing but the text of the value. -/
theorem matchesAt_of_text {value : Json} {text : String} (spelled : textOf? value = some text)
    (column : String) (row : Row) :
    matchesAt column value row = true ↔
      ∃ stored, (Fields.get? row column).bind textOf? = some stored ∧
        compareTexts? stored text = some .eq := by
  cases held : Fields.get? row column with
  | none => simp [matchesAt, compareValues?, held]
  | some stored =>
    cases read : textOf? stored with
    | none => simp [matchesAt, compareValues?, held, read]
    | some own => simp [matchesAt, compareValues?, held, read, spelled]

/-- A row is changed without effect on whether it has a value, if the column is not set. -/
theorem matchesAt_setAll {fields : Fields} {column : String} (distinct : fields.keys.Nodup)
    (unset : column ∉ fields.keys) (value : Json) (row : Row) :
    matchesAt column value (row.setAll fields) = matchesAt column value row := by
  rw [matchesAt, matchesAt, Fields.get?_setAll_of_not_mem distinct unset]

/-- Two texts that spell the same number are equal to the same texts. -/
theorem compareTexts?_congr {first second : String} {number : Reading}
    (reads : Reading.ofText? first.toList = some number)
    (alike : Reading.ofText? second.toList = some number) (stored : String) :
    compareTexts? stored first = some .eq ↔ compareTexts? stored second = some .eq := by
  cases found : Reading.ofText? stored.toList with
  | some held => simp [compareTexts?, found, reads, alike]
  | none =>
    have unlike : ∀ {text : String}, Reading.ofText? text.toList = some number →
        compareTexts? stored text ≠ some .eq := by
      rintro text spelled equal
      have same : stored = text := by
        simp only [compareTexts?, found] at equal
        split at equal
        · cases equal
        · split at equal
          · assumption
          · cases equal
      rw [same, spelled] at found
      cases found
    exact ⟨fun equal => absurd equal (unlike reads), fun equal => absurd equal (unlike alike)⟩

/-- Digits find the same rows as the integer that they spell. -/
theorem matchesAt_digits {digits : String} {value : Nat}
    (spelled : Text.digitsValue? digits.toList = some value)
    (fits : (value : Int) ≤ Text.largestInteger) (column : String) :
    matchesAt column (.string digits) = matchesAt column (Json.ofInt value) := by
  have small : value < 10 ^ 310 := by
    have below : value < 10 ^ 19 := by
      simp only [Text.largestInteger] at fits
      omega
    have grows : ∀ size, 19 ≤ size → 10 ^ 19 ≤ 10 ^ size :=
      fun size larger => Nat.pow_le_pow_right (by decide) larger
    exact Nat.lt_of_lt_of_le below (grows 310 (by decide))
  have shown : textOf? (Json.ofInt value) = some (toString value) := rfl
  have reads := Reading.ofText?_of_digits spelled small
  have alike : Reading.ofText? (toString value).toList = some (Reading.ofNatural value) := by
    rw [Nat.toString_eq_ofList_toDigits, String.toList_ofList]
    exact Reading.ofText?_of_digits (Text.digitsValue?_toDigits value) small
  funext row
  rw [Bool.eq_iff_iff, matchesAt_of_text rfl, matchesAt_of_text shown]
  simp only [compareTexts?_congr reads alike]

/-! ## The row with an id -/

/-- One row of a table, with the rows before and after it, is the only one with an id. -/
structure Place (table : Table) (id : Int) (before : List Row) (row : Row) (after : List Row) :
    Prop where
  rows : table.rows = before ++ row :: after
  here : matchesAt "id" (Json.ofInt id) row = true
  notBefore : ∀ other ∈ before, matchesAt "id" (Json.ofInt id) other = false
  notAfter : ∀ other ∈ after, matchesAt "id" (Json.ofInt id) other = false

namespace Place

variable {table : Table} {id : Int} {before after : List Row} {row : Row}

/-- A row that is found alone has its place. -/
theorem of_filter (alone : table.rows.filter (matchesAt "id" (Json.ofInt id)) = [row]) :
    ∃ before after, Place table id before row after := by
  rcases List.filter_eq_cons_iff.1 alone with ⟨before, after, rows, notBefore, here, rest⟩
  refine ⟨before, after, rows, here, ?_, ?_⟩
  · intro other member
    simpa using notBefore other member
  · intro other member
    simpa using List.filter_eq_nil_iff.1 rest other member

theorem filter_eq (place : Place table id before row after) :
    table.rows.filter (matchesAt "id" (Json.ofInt id)) = [row] := by
  have none : ∀ {rows : List Row}, (∀ other ∈ rows, matchesAt "id" (Json.ofInt id) other = false) →
      rows.filter (matchesAt "id" (Json.ofInt id)) = [] := by
    intro rows others
    exact List.filter_eq_nil_iff.2 fun other member => by simp [others other member]
  rw [place.rows, List.filter_append, List.filter_cons_of_pos place.here, none place.notBefore,
    none place.notAfter, List.nil_append]

/-- An update by id changes the row in its place. -/
theorem update_eq (place : Place table id before row after) (fields : Fields) :
    table.update fields (matchesAt "id" (Json.ofInt id)) =
      ⟨table.columns, before ++ row.setAll fields :: after⟩ := by
  have kept : ∀ {rows : List Row}, (∀ other ∈ rows, matchesAt "id" (Json.ofInt id) other = false) →
      rows.map (fun other =>
        if matchesAt "id" (Json.ofInt id) other then other.setAll fields else other) = rows := by
    intro rows others
    refine (List.map_congr_left fun other member => ?_).trans (List.map_id rows)
    simp [others other member]
  simp [Table.update, place.rows, place.here, kept place.notBefore, kept place.notAfter]

/-- A row that keeps its id when it is changed keeps its place. -/
theorem set (place : Place table id before row after) (fields : Fields)
    (distinct : fields.keys.Nodup) (unnamed : "id" ∉ fields.keys) :
    Place ⟨table.columns, before ++ row.setAll fields :: after⟩ id before (row.setAll fields)
      after := by
  refine ⟨rfl, ?_, place.notBefore, place.notAfter⟩
  rw [matchesAt_setAll distinct unnamed]
  exact place.here

/-- A deletion by id removes the row from its place. -/
theorem remove_eq (place : Place table id before row after) :
    table.remove (matchesAt "id" (Json.ofInt id)) = ⟨table.columns, before ++ after⟩ := by
  have kept : ∀ {rows : List Row}, (∀ other ∈ rows, matchesAt "id" (Json.ofInt id) other = false) →
      rows.filter (fun other => !matchesAt "id" (Json.ofInt id) other) = rows := by
    intro rows others
    exact List.filter_eq_self.2 fun other member => by simp [others other member]
  simp [Table.remove, place.rows, place.here, kept place.notBefore, kept place.notAfter]

end Place

end Memory

end TableApi
