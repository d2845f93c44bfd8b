import TableApi.Database.Memory.Arrangement.Permutation
import TableApi.Proofs.Database.Filtering
import TableApi.Proofs.Json.Fields
import TableApi.Proofs.Sql.Grammar
import TableApi.Proofs.Table.Order

/-!
# What statements do to a table

A statement text is read back and carried out, and what comes of it depends on the text no longer: a
selection gives the rows that its filters mean, an insertion adds one row for each record, an update
sets its fields in the rows with its id, and a deletion takes the rows with its ids away.  The text
of an order clause is the one place where this needs the clause to be accepted by a schema of the
table.
-/

namespace TableApi

/-- The fields with the values that are bound for them. -/
def Fields.bound (fields : Fields) : Fields :=
  fields.map fun (column, value) => (column, value.bound)

/-- A field for each of some columns, with the value that is bound for it; a missing one is null. -/
def Fields.boundUnder (columns : List String) (fields : Fields) : Fields :=
  columns.map fun column => (column, ((fields.get? column).map Json.bound).getD .null)

namespace Fields

@[simp]
theorem keys_bound (fields : Fields) : fields.bound.keys = fields.keys := by
  simp [bound, keys]

theorem values_bound (fields : Fields) : fields.bound.values = fields.values.map Json.bound := by
  simp [bound, values]

@[simp]
theorem keys_boundUnder (columns : List String) (fields : Fields) :
    (fields.boundUnder columns).keys = columns := by
  simp [boundUnder, keys, Function.comp_def]

theorem values_boundUnder (columns : List String) (fields : Fields) :
    (fields.boundUnder columns).values = Schema.rowOf columns fields := by
  simp [boundUnder, values, Schema.rowOf]

theorem get?_bound (fields : Fields) (key : String) :
    fields.bound.get? key = (fields.get? key).map Json.bound := by
  induction fields with
  | nil => rfl
  | cons entry fields step =>
    rw [bound, List.map_cons, get?_cons, get?_cons, ← bound, step]
    by_cases same : entry.1 = key
    · simp [same]
    · simp [same]

theorem get?_boundUnder (columns : List String) (fields : Fields) (key : String) :
    (fields.boundUnder columns).get? key =
      if key ∈ columns then some (((fields.get? key).map Json.bound).getD .null) else none := by
  induction columns with
  | nil => rfl
  | cons column columns step =>
    rw [boundUnder, List.map_cons, get?_cons]
    by_cases same : column = key
    · simp [same]
    · rw [if_neg same, ← boundUnder, step]
      simp [Ne.symm same]

end Fields

namespace FilterSet

/-- The offset and the limit that the text of a statement says. -/
def bounds (filters : FilterSet) : Option (Nat × Nat) :=
  match filters.limit, filters.offset with
  | none, none => none
  | limit, offset => some (offset.getD 0, limit.getD Text.largestWord)

/-- The limit and the offset fit 64 bits. -/
def IsSmall (filters : FilterSet) : Prop :=
  (∀ limit ∈ filters.limit, limit ≤ Text.largestWord) ∧
    ∀ offset ∈ filters.offset, offset ≤ Text.largestWord

theorem toList_windowClause (filters : FilterSet) :
    filters.windowClause.toList = Memory.Query.windowText filters.bounds := by
  rcases filters with ⟨conditions, orderBy, _ | limit, _ | offset⟩ <;>
    simp [windowClause, bounds, Memory.Query.windowText]

theorem toList_orderClause (filters : FilterSet) :
    filters.orderClause.toList =
      Memory.Query.orderText (filters.orderBy.map String.toList) := by
  rcases filters with ⟨conditions, _ | clause, limit, offset⟩ <;>
    simp [orderClause, Memory.Query.orderText]

theorem bounds_small {filters : FilterSet} (small : filters.IsSmall) :
    ∀ bounds ∈ filters.bounds, bounds.1 ≤ Text.largestWord ∧ bounds.2 ≤ Text.largestWord := by
  rcases filters with ⟨conditions, orderBy, _ | limit, _ | offset⟩ <;>
    simp_all [IsSmall, bounds]

theorem length_arranged? {filters : FilterSet} {rows arranged : List Row}
    (found : filters.arranged? rows = some arranged) : arranged.length = rows.length := by
  unfold arranged? at found
  split at found
  · exact (Arrangement.arrange?_perm found).length_eq
  · rw [Option.some.inj found]

/-- A limit that is missing from a request is larger than any table. -/
theorem windowed_eq {filters : FilterSet} {rows : List Row} (few : rows.length ≤ Text.largestWord) :
    filters.windowed rows =
      match filters.bounds with
      | some (offset, limit) => Memory.page offset limit rows
      | none => rows := by
  have whole : ∀ offset, (rows.drop offset).take Text.largestWord = rows.drop offset := by
    intro offset
    apply List.take_of_length_le
    rw [List.length_drop]
    omega
  rcases filters with ⟨conditions, orderBy, _ | limit, _ | offset⟩ <;>
    simp [windowed, bounds, Memory.page, whole]

end FilterSet

namespace Memory

variable {tables : Tables} {name : String} {table : Table}

/-- The schema of a table of the database. -/
def Table.schema (table : Table) (name : String) : Schema :=
  ⟨name, table.columns⟩

/-- The row of a record: its fields, after a new id unless it has one. -/
def newRow (id : Int) (record : Fields) : Row :=
  if record.has "id" then record else ("id", Json.ofInt id) :: record

/-- The rows of some records; the new ids are counted up. -/
def newRows (id : Int) : List Fields → List Row
  | [] => []
  | record :: records => newRow id record :: newRows (id + 1) records

theorem tableOf_eq (stored : Named.get? tables name = some table) :
    tableOf tables name = .ok table := by
  simp [tableOf, stored]

/-! ## Questions -/

section Questions

variable (named : IsPlain name) (stored : Named.get? tables name = some table)

include named

/-- The text of a selection is read back as its projection and its filters. -/
theorem ofText?_select (projection : Projection) (filters : FilterSet)
    (legible : ∀ condition ∈ filters.conditions, condition.IsLegible)
    (unlimited : ∀ clause ∈ filters.orderBy.map String.toList,
      "LIMIT".toList ∉ Text.splitAtChar ' ' clause) (small : filters.IsSmall) :
    Query.ofText? (Statement.select projection name filters).toSql.query.toList =
      some ⟨projection.text, name, Text.joinWith [' '] (Condition.pieces filters.conditions),
        filters.orderBy.map String.toList, filters.bounds⟩ := by
  have other : ∀ piece ∈ Condition.wordedPieces filters.conditions,
      piece ≠ "LIMIT".toList ∧ piece ≠ "ORDER".toList := by
    intro piece member
    exact ⟨Condition.wordedPieces_ne (by decide) (by decide) piece member,
      Condition.wordedPieces_ne (by decide) (by decide) piece member⟩
  have text : (Statement.select projection name filters).toSql.query.toList =
      "SELECT ".toList ++ (projection.text.toList ++ (" FROM ".toList ++ (name.toList ++
        (Text.spaced (Condition.wordedPieces filters.conditions) ++
          Query.orderText (filters.orderBy.map String.toList) ++
            Query.windowText filters.bounds)))) := by
    simp only [Statement.toSql_select, FilterSet.appliedTo, String.toList_append,
      Condition.toList_clause, FilterSet.toList_orderClause, FilterSet.toList_windowClause,
      List.append_assoc]
  rw [text, Query.ofText?_eq projection named (Condition.space_not_mem_wordedPieces legible) other
    unlimited (FilterSet.bounds_small small), Query.conditionsOf_wordedPieces]

include stored

/-- A selection returns what its filters mean, as its projection shows it. -/
theorem fetch_select (projection : Projection) {filters accepted : FilterSet}
    (passed : (table.schema name).accept filters = .ok accepted)
    (plain : ∀ column ∈ table.columns, IsPlain column) (few : table.rows.length ≤ Text.largestWord)
    (unnamed : ¬filters.OrdersByLimit) (small : filters.IsSmall) :
    fetch tables (Statement.select projection name accepted).toSql =
      ofOrdered ((filters.chosen? table.rows).map (project projection.text)) := by
  have known := (Schema.of_accept passed).2.1
  have unlimited := Schema.limit_not_mem_of_accept passed unnamed
  rcases Schema.accept_eq_ok passed with ⟨rfl, _⟩
  have legible : ∀ condition ∈ filters.conditions, condition.IsLegible :=
    fun condition member =>
      Condition.isLegible_of_isPlain (plain condition.column (known condition member))
  have read := ofText?_select named projection
    { filters with orderBy := filters.orderBy.map Text.trimmed } legible unlimited
    small
  have shown : Query.shown? ⟨projection.text, name,
      Text.joinWith [' '] (Condition.pieces filters.conditions),
      (filters.orderBy.map Text.trimmed).map String.toList, filters.bounds⟩ table
        (filters.conditions.map fun condition => .string condition.value) =
      filters.chosen? table.rows := by
    have satisfying : table.rows.filter
        (clauseHolds (Text.joinWith [' '] (Condition.pieces filters.conditions))
          (filters.conditions.map fun condition => .string condition.value)) =
        filters.satisfying table.rows :=
      List.filter_congr fun row _ => clauseHolds_pieces legible row
    have ordered : Query.ordered? ⟨projection.text, name,
        Text.joinWith [' '] (Condition.pieces filters.conditions),
        (filters.orderBy.map Text.trimmed).map String.toList, filters.bounds⟩
          (filters.satisfying table.rows) = filters.arranged? (filters.satisfying table.rows) := by
      cases orders : filters.orderBy <;> simp [Query.ordered?, FilterSet.arranged?, orders]
    rw [Query.shown?, satisfying, ordered, FilterSet.chosen?]
    refine Option.map_congr fun rows arranged => ?_
    have fewer : rows.length ≤ Text.largestWord := by
      rw [FilterSet.length_arranged? arranged]
      exact Nat.le_trans (List.length_filter_le _ _) few
    rw [FilterSet.windowed_eq fewer]
    rfl
  simp only [fetch, read, tableOf_eq stored]
  exact congrArg (fun rows => ofOrdered (rows.map (project projection.text))) shown

/-- A count returns how many rows satisfy the conditions. -/
theorem fetch_count {filters : FilterSet}
    (passed : (table.schema name).requireColumns filters.columns = .ok ())
    (plain : ∀ column ∈ table.columns, IsPlain column)
    (few : table.rows.length ≤ Text.largestWord) :
    fetch tables (Statement.select .count name
        { FilterSet.empty with conditions := filters.conditions }).toSql =
      .ok [[("count", Json.ofNat (filters.satisfying table.rows).length)]] := by
  have unnamed :
      ¬FilterSet.OrdersByLimit { FilterSet.empty with conditions := filters.conditions } := by
    simp [FilterSet.OrdersByLimit, FilterSet.empty]
  have small : FilterSet.IsSmall { FilterSet.empty with conditions := filters.conditions } := by
    simp [FilterSet.IsSmall, FilterSet.empty]
  exact fetch_select named stored .count (Schema.accept_of_conditions passed) plain few unnamed
    small

/-- The rows with a value in a column are found. -/
theorem fetch_find {column : String} (plain : IsPlain column) (value : Json) :
    fetch tables (Statement.find name column value).toSql =
      .ok (table.rows.filter (matchesAt column value)) := by
  have text : (Statement.find name column value).toSql.query =
      (Statement.select .all name (.ofCondition ⟨column, .equal, "", .and⟩)).toSql.query := by
    apply String.toList_inj.1
    simp [Statement.toSql_find, Statement.toSql_select, FilterSet.appliedTo,
      FilterSet.ofCondition, FilterSet.empty, FilterSet.orderClause, FilterSet.windowClause,
      Condition.clause, Condition.term, Comparison.symbol, Projection.text]
  have read := ofText?_select named .all (.ofCondition ⟨column, .equal, "", .and⟩)
    (by simpa [FilterSet.ofCondition] using Condition.isLegible_of_isPlain plain)
    (by simp [FilterSet.ofCondition, FilterSet.empty])
    (by simp [FilterSet.IsSmall, FilterSet.ofCondition, FilterSet.empty])
  rw [← text] at read
  have clause : Text.joinWith [' '] (Condition.pieces
      (FilterSet.ofCondition ⟨column, .equal, "", .and⟩).conditions) =
        column.toList ++ "=?".toList := joinWith_pieces_equality column
  simp only [fetch, read, tableOf_eq stored, clause]
  simp only [Statement.toSql_find, Query.shown?, Query.ordered?, Query.windowed,
    clauseHolds_equality plain, FilterSet.ofCondition, FilterSet.empty,
    FilterSet.bounds, Option.map_none, Option.map_some, project, Projection.text]
  rfl

end Questions

/-! ## Changes -/

/-- The values of a record under its columns are the record. -/
theorem zip_keys_values (record : Fields) : record.keys.zip record.values = record := by
  rw [Fields.keys, Fields.values, List.zip_map', List.map_id'']
  simp

/-- Fields whose keys stand once are a row as they stand. -/
theorem rowOf_none {record : Fields} (distinct : record.keys.Nodup) :
    Table.rowOf none record.keys record.values = record := by
  have filled : Fields.setAll [] (record.keys.zip record.values) = [] ++ record := by
    rw [zip_keys_values]
    exact Fields.setAll_eq_append distinct (by simp)
  exact filled

/-- A new id comes before the fields of a row. -/
theorem rowOf_some {record : Fields} (distinct : record.keys.Nodup) (unnamed : "id" ∉ record.keys)
    (id : Int) :
    Table.rowOf (some id) record.keys record.values = ("id", Json.ofInt id) :: record := by
  have filled : Fields.setAll [("id", Json.ofInt id)] (record.keys.zip record.values) =
      [("id", Json.ofInt id)] ++ record := by
    rw [zip_keys_values]
    apply Fields.setAll_eq_append distinct
    intro key member inside
    have same : key = "id" := by simpa using inside
    exact unnamed (same ▸ member)
  exact filled

/-- Records with ids of their own are rows as they stand. -/
theorem newRows_of_given {records : List Fields} (given : ∀ record ∈ records, "id" ∈ record.keys)
    (id : Int) : newRows id records = records := by
  induction records generalizing id with
  | nil => rfl
  | cons record records step =>
    have has : record.has "id" = true := Fields.has_eq_true_iff.2 (given record List.mem_cons_self)
    have others := step (fun other member => given other (List.mem_cons_of_mem _ member)) (id + 1)
    simp [newRows, newRow, has, others]

/-- Records under the same columns become rows, one each. -/
theorem rowsOf_eq {columns : List String} {records : List Fields} (distinct : columns.Nodup)
    (named : ∀ record ∈ records, record.keys = columns) (id : Int) :
    Table.rowsOf columns id (records.map Fields.values) = newRows id records := by
  induction records generalizing id with
  | nil => rfl
  | cons record records step =>
    have same := named record List.mem_cons_self
    have others := step fun other member => named other (List.mem_cons_of_mem _ member)
    subst same
    by_cases given : "id" ∈ record.keys
    · have all : ∀ other ∈ record :: records, "id" ∈ other.keys := by
        intro other member
        rw [named other member]
        exact given
      have later := newRows_of_given (fun other member => all other (List.mem_cons_of_mem _ member))
      rw [newRows_of_given all, List.map_cons, Table.rowsOf, others, later]
      simp [given, rowOf_none distinct]
    · have hasNot : record.has "id" = false := by
        rw [Bool.eq_false_iff, ne_eq, Fields.has_eq_true_iff]
        exact given
      rw [List.map_cons, Table.rowsOf, others, others, newRows, newRow, hasNot]
      simp [given, rowOf_some distinct given]

/-- The first word of a change says of which kind it is. -/
theorem change_eq {sql : Sql} {rest : List Char} :
    (sql.query.toList = "INSERT INTO ".toList ++ rest → change tables sql = insert tables sql) ∧
    (sql.query.toList = "UPDATE ".toList ++ rest → change tables sql = update tables sql) ∧
    (sql.query.toList = "DELETE FROM ".toList ++ rest → change tables sql = delete tables sql) := by
  refine ⟨?_, ?_, ?_⟩
  · intro text
    simp only [change, text]
    rfl
  · intro text
    simp only [change, text]
    rfl
  · intro text
    simp only [change, text]
    rfl

section Changes

variable (named : IsPlain name) (stored : Named.get? tables name = some table)

include named stored

/-- An insertion adds the rows of its records. -/
theorem change_insert (columns : List String) (records : List Fields) (several : columns ≠ [])
    (plain : ∀ column ∈ columns, IsPlain column) (distinct : columns.Nodup)
    (under : ∀ record ∈ records, record.keys = columns) (filled : records ≠ []) :
    change tables (Statement.insert name columns (records.map Fields.values)).toSql =
      .ok (⟨records.length, (table.nextId % wordRange).toNat⟩,
        Named.put tables name ⟨table.columns, table.rows ++ newRows table.nextId records⟩) := by
  have wide : ∀ row ∈ records.map Fields.values, row.length = columns.length := by
    intro row member
    rcases List.mem_map.1 member with ⟨record, inside, rfl⟩
    rw [← under record inside, Fields.values, Fields.keys, List.length_map, List.length_map]
  have split : pieces columns.length (records.map Fields.values).flatten =
      records.map Fields.values :=
    pieces_flatten (List.length_pos_iff.2 several) wide
  cases texts : records.map Fields.values with
  | nil => simp [filled] at texts
  | cons row rows =>
    have read := readInsertion?_eq named several plain
      (String.intercalate ", " ((row :: rows).map fun _ => Statement.rowText columns)).toList
    have text : (Statement.insert name columns (row :: rows)).toSql.query.toList =
        "INSERT INTO ".toList ++ (name.toList ++ (" (".toList ++
          ((String.intercalate ", " columns).toList ++ (") VALUES ".toList ++
            (String.intercalate ", "
              ((row :: rows).map fun _ => Statement.rowText columns)).toList)))) := by
      simp only [Statement.toSql_insert, String.toList_append, List.append_assoc]
    have count : (row :: rows).length = records.length := by
      rw [← texts, List.length_map]
    have added : Table.rowsOf columns table.nextId (row :: rows) =
        newRows table.nextId records := by
      rw [← texts]
      exact rowsOf_eq distinct under table.nextId
    rw [texts] at split
    rw [change_eq.1 text, insert, text, read, ← added]
    simp only [tableOf_eq stored, Statement.toSql_insert, split, count]
    rfl

/-- The values that are bound for a record stand under its keys. -/
theorem change_insert_record {record : Fields} (filled : record ≠ [])
    (plain : ∀ column ∈ record.keys, IsPlain column) (distinct : record.keys.Nodup) :
    change tables (Statement.insert name record.keys [record.values.map Json.bound]).toSql =
      .ok (⟨1, (table.nextId % wordRange).toNat⟩, Named.put tables name
        ⟨table.columns, table.rows ++ [newRow table.nextId record.bound]⟩) := by
  have several : record.keys ≠ [] := by simpa [Fields.keys] using filled
  have changed := change_insert named stored record.keys [record.bound] several plain distinct
    (by simp) (by simp)
  rw [List.map_singleton, Fields.values_bound] at changed
  exact changed

/-- Of several records every one is inserted under the keys of the first. -/
theorem change_insert_records {first : Fields} (others : List Fields) (filled : first ≠ [])
    (plain : ∀ column ∈ first.keys, IsPlain column) (distinct : first.keys.Nodup) :
    change tables (Statement.insert name first.keys
        ((first :: others).map (Schema.rowOf first.keys))).toSql =
      .ok (⟨others.length + 1, (table.nextId % wordRange).toNat⟩, Named.put tables name
        ⟨table.columns, table.rows ++
          newRows table.nextId ((first :: others).map (Fields.boundUnder first.keys))⟩) := by
  have several : first.keys ≠ [] := by simpa [Fields.keys] using filled
  have changed := change_insert named stored first.keys
    ((first :: others).map (Fields.boundUnder first.keys)) several plain distinct (by simp)
    (by simp)
  rw [List.map_map, List.length_map] at changed
  simp only [Function.comp_def, Fields.values_boundUnder] at changed
  exact changed

/-- An update sets its fields in the rows with its id. -/
theorem change_update (fields : Fields) (several : fields ≠ [])
    (plain : ∀ column ∈ fields.keys, IsPlain column) (id : Int) :
    change tables (Statement.update name fields id).toSql =
      .ok (⟨(table.rows.filter (matchesAt "id" (Json.ofInt id))).length, 0⟩,
        Named.put tables name (table.update fields (matchesAt "id" (Json.ofInt id)))) := by
  have text : (Statement.update name fields id).toSql.query.toList =
      "UPDATE ".toList ++ (name.toList ++ (" SET ".toList ++
        ((String.intercalate ", " (fields.keys.map fun column => column ++ "=?")).toList ++
          (" WHERE ".toList ++ ("id".toList ++ "=?".toList))))) := by
    have conditions : " WHERE id=?".toList = " WHERE ".toList ++ ("id".toList ++ "=?".toList) := rfl
    simp only [Statement.toSql_update, String.toList_append, List.append_assoc, conditions]
  have filled : fields.keys ≠ [] := by simpa [Fields.keys] using several
  have read := readUpdate?_eq named filled plain ("id".toList ++ "=?".toList)
  have lengths : fields.keys.length = fields.values.length := by
    simp [Fields.keys, Fields.values]
  have bound : fields.keys.zip (fields.values ++ [Json.ofInt id]) = fields := by
    have padded : (fields.keys ++ []).zip (fields.values ++ [Json.ofInt id]) = _ :=
      List.zip_append lengths
    simpa [zip_keys_values] using padded
  have rest : (fields.values ++ [Json.ofInt id]).drop fields.keys.length = [Json.ofInt id] := by
    rw [lengths, List.drop_left]
  rw [change_eq.2.1 text, update, text, read]
  simp only [tableOf_eq stored, Statement.toSql_update, rest, bound,
    clauseHolds_equality isPlain_id]
  rfl

/-- A deletion removes the rows with its id. -/
theorem change_delete (id : Int) :
    change tables (Statement.delete name id).toSql =
      .ok (⟨(table.rows.filter (matchesAt "id" (Json.ofInt id))).length, 0⟩,
        Named.put tables name (table.remove (matchesAt "id" (Json.ofInt id)))) := by
  have text : (Statement.delete name id).toSql.query.toList =
      "DELETE FROM ".toList ++ (name.toList ++ (" WHERE ".toList ++
        ("id".toList ++ "=?".toList))) := by
    have conditions : " WHERE id=?".toList = " WHERE ".toList ++ ("id".toList ++ "=?".toList) := rfl
    simp only [Statement.toSql_delete, String.toList_append, List.append_assoc, conditions]
  rw [change_eq.2.2 text, delete, text, readDeletion?_eq named]
  simp only [tableOf_eq stored, Statement.toSql_delete, clauseHolds_equality isPlain_id]
  rfl

/-- A deletion of many removes the rows with any of its ids. -/
theorem change_deleteAll (ids : List Int) :
    change tables (Statement.deleteAll name ids).toSql =
      .ok (⟨(table.rows.filter fun row =>
          ids.any fun id => matchesAt "id" (Json.ofInt id) row).length, 0⟩,
        Named.put tables name
          (table.remove fun row => ids.any fun id => matchesAt "id" (Json.ofInt id) row)) := by
  have text : (Statement.deleteAll name ids).toSql.query.toList =
      "DELETE FROM ".toList ++ (name.toList ++ (" WHERE ".toList ++
        ("id".toList ++ " IN (".toList ++
          ((Statement.placeholders ids.length).toList ++ ")".toList)))) := by
    have conditions : " WHERE id IN (".toList =
        " WHERE ".toList ++ ("id".toList ++ " IN (".toList) := rfl
    simp only [Statement.toSql_deleteAll, String.toList_append, List.append_assoc, conditions]
  rw [change_eq.2.2 text, delete, text, readDeletion?_eq named]
  simp only [tableOf_eq stored, Statement.toSql_deleteAll, clauseHolds_list isPlain_id,
    List.any_map]
  rfl

/-- Nothing is inserted under no columns. -/
theorem change_insert_nil {row : List Json} {rows : List (List Json)}
    (empty : (row :: rows).flatten = []) :
    change tables (Statement.insert name [] (row :: rows)).toSql =
      .ok (⟨0, (table.nextId % wordRange).toNat⟩, Named.put tables name table) := by
  have text : (Statement.insert name [] (row :: rows)).toSql.query.toList =
      "INSERT INTO ".toList ++ (name.toList ++ (" (".toList ++ ([] ++ (") VALUES ".toList ++
        (String.intercalate ", " ((row :: rows).map fun _ => Statement.rowText [])).toList)))) := by
    simp only [Statement.toSql_insert, String.toList_append, List.append_assoc]
    rfl
  have split : Text.splitAt ", ".toList [] = [[]] := Text.splitAt_of_cut?_none rfl
  have none : pieces 1 ([] : List Json) = [] := by simp [pieces]
  rw [change_eq.1 text, insert, text, readInsertion?_of_unclosed named (by simp)]
  simp only [tableOf_eq stored, Statement.toSql_insert, empty, split, List.map_singleton,
    List.length_singleton, none]
  simp [bind, Except.bind, pure, Except.pure, Table.insert, Table.rowsOf]

/-- Nothing is set in any row by an update without fields. -/
theorem change_update_nil (id : Int) :
    change tables (Statement.update name [] id).toSql =
      .ok (⟨0, 0⟩, Named.put tables name table) := by
  have text : (Statement.update name [] id).toSql.query.toList =
      "UPDATE ".toList ++ (name.toList ++ (" SET ".toList ++ ([] ++
        (" WHERE ".toList ++ ("id".toList ++ "=?".toList))))) := by
    simp only [Statement.toSql_update, String.toList_append, List.append_assoc]
    rfl
  have cut : Text.cut? " WHERE ".toList ([] ++ (" WHERE ".toList ++ ("id".toList ++ "=?".toList))) =
      some ([], "id".toList ++ "=?".toList) := rfl
  have split : Text.splitAt ", ".toList [] = [[]] := Text.splitAt_of_cut?_none rfl
  have unbound : clauseHolds ("id".toList ++ "=?".toList) [] = fun _ => false := by
    funext row
    rw [← joinWith_pieces_equality,
      clauseHolds_cons (by simpa using Condition.isLegible_of_isPlain isPlain_id)]
    rfl
  rw [change_eq.2.1 text, update, text, readUpdate?_of_cut named cut, split]
  have none : (Fields.values [] ++ [Json.ofInt id]).drop 1 = [] := rfl
  simp only [tableOf_eq stored, Statement.toSql_update, List.map_singleton,
    List.length_singleton, none,
    Table.update, unbound]
  simp [bind, Except.bind, pure, Except.pure]

end Changes

end Memory

end TableApi
