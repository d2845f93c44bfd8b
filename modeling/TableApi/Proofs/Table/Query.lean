import TableApi.Proofs.Table.Schema
import TableApi.Table.Query

/-!
# Statements of a schema

Whatever a schema lets through becomes a statement of the grammar, for the table and the columns
of the schema.  The name of the table holds no placeholder, since it is an identifier; an empty
record and an empty list of ids are the callers' to keep away.
-/

namespace TableApi

open Grammar

theorem placeholderCount_identifier {name : String} (identifier : isIdentifier name = true) :
    placeholderCount name = 0 := by
  refine placeholderCount_eq_zero.2 fun member => ?_
  have every : ∀ character ∈ name.toList, isIdentifierChar character = true := by
    simp only [isIdentifier, Bool.and_eq_true, List.all_eq_true] at identifier
    exact identifier.2
  have plain := every '?' member
  revert plain
  decide

namespace Schema

variable {schema : Schema}

/-- Accepted filters keep their conditions, and name columns of the table only. -/
theorem of_accept {filters accepted : FilterSet} (passed : schema.accept filters = .ok accepted) :
    accepted.conditions = filters.conditions ∧
      (∀ condition ∈ accepted.conditions, condition.column ∈ schema.columns) ∧
      ∀ order ∈ accepted.orderBy, Order schema.columns order := by
  unfold accept at passed
  obtain ⟨_, checked, ordered⟩ := Result.ok_of_bind_ok passed
  have known : ∀ condition ∈ filters.conditions, condition.column ∈ schema.columns := by
    intro condition member
    exact mem_columns_of_requireColumns checked _ (List.mem_map_of_mem member)
  split at ordered
  · rename_i none
    cases Except.ok.inj ordered
    exact ⟨rfl, known, by simp [none]⟩
  · obtain ⟨clause, allowed, kept⟩ := Result.ok_of_bind_ok ordered
    cases Except.ok.inj kept
    refine ⟨rfl, known, ?_⟩
    intro order given
    rw [← Option.some.inj given]
    exact order_of_orderBy allowed

/-! ## What a statement was made from -/

theorem of_select {filters : FilterSet} {statement : Statement}
    (made : schema.select filters = .ok statement) :
    ∃ accepted, schema.accept filters = .ok accepted ∧
      statement = .select .all schema.name accepted := by
  obtain ⟨accepted, passed, returned⟩ := Result.ok_of_bind_ok made
  exact ⟨accepted, passed, (Except.ok.inj returned).symm⟩

theorem of_count {filters : FilterSet} {statement : Statement}
    (made : schema.count filters = .ok statement) :
    schema.requireColumns filters.columns = .ok () ∧
      statement = .select .count schema.name
        { FilterSet.empty with conditions := filters.conditions } := by
  obtain ⟨_, passed, returned⟩ := Result.ok_of_bind_ok made
  exact ⟨passed, (Except.ok.inj returned).symm⟩

theorem of_selectIds {filters : FilterSet} {statement : Statement}
    (made : schema.selectIds filters = .ok statement) :
    "id" ∈ schema.columns ∧ ∃ accepted, schema.accept filters = .ok accepted ∧
      statement = .select .id schema.name accepted := by
  obtain ⟨_, known, rest⟩ := Result.ok_of_bind_ok made
  obtain ⟨accepted, passed, returned⟩ := Result.ok_of_bind_ok rest
  exact ⟨(column_eq_ok known).2, accepted, passed, (Except.ok.inj returned).symm⟩

theorem of_selectByColumn {column value : String} {statement : Statement}
    (made : schema.selectByColumn column value = .ok statement) :
    column ∈ schema.columns ∧ statement = .find schema.name column (.string value) := by
  obtain ⟨found, known, returned⟩ := Result.ok_of_bind_ok made
  rcases column_eq_ok known with ⟨rfl, listed⟩
  exact ⟨listed, (Except.ok.inj returned).symm⟩

theorem selectByColumn_of_known {column : String} (value : String)
    (known : column ∈ schema.columns) :
    schema.selectByColumn column value = .ok (.find schema.name column (.string value)) := by
  simp [selectByColumn, Schema.column, hasColumn_iff.2 known, bind, Except.bind, pure, Except.pure]

theorem selectByColumn_of_unknown {column : String} (value : String)
    (unknown : column ∉ schema.columns) :
    schema.selectByColumn column value = .error (.unknownColumns [column]) := by
  have absent : schema.hasColumn column = false := by
    rw [Bool.eq_false_iff, ne_eq, hasColumn_iff]
    exact unknown
  simp [selectByColumn, Schema.column, absent, bind, Except.bind]

theorem of_insert {record : Fields} {statement : Statement}
    (made : schema.insert record = .ok statement) :
    schema.requireColumns record.keys = .ok () ∧
      statement = .insert schema.name record.keys [record.values.map Json.bound] := by
  obtain ⟨_, passed, returned⟩ := Result.ok_of_bind_ok made
  exact ⟨passed, (Except.ok.inj returned).symm⟩

theorem of_insertBatch {first : Fields} {others : List Fields} {statement : Statement}
    (made : schema.insertBatch (first :: others) = .ok statement) :
    schema.requireColumns first.keys = .ok () ∧
      statement =
        .insert schema.name first.keys ((first :: others).map (rowOf first.keys)) := by
  obtain ⟨_, passed, returned⟩ := Result.ok_of_bind_ok made
  exact ⟨passed, (Except.ok.inj returned).symm⟩

theorem of_updateById {id : Int} {record : Fields} {statement : Statement}
    (made : schema.updateById id record = .ok statement) :
    schema.requireColumns record.keys = .ok () ∧
      statement =
        .update schema.name (record.map fun (column, value) => (column, value.bound)) id := by
  obtain ⟨_, passed, returned⟩ := Result.ok_of_bind_ok made
  exact ⟨passed, (Except.ok.inj returned).symm⟩

/-! ## Texts of the statements -/

theorem length_flatten_of_width {rows : List (List Json)} {width : Nat}
    (each : ∀ row ∈ rows, row.length = width) :
    rows.flatten.length = rows.length * width := by
  induction rows with
  | nil => simp
  | cons row rows step =>
    have first := each row List.mem_cons_self
    have rest := step fun other member => each other (List.mem_cons_of_mem _ member)
    rw [List.flatten_cons, List.length_append, first, rest, List.length_cons, Nat.succ_mul,
      Nat.add_comm]

section Texts

variable (plain : placeholderCount schema.name = 0)

include plain

/-- A filter set whose names are columns selects by a query of the grammar. -/
theorem fits_select_of_known {filters : FilterSet} (projection : Projection)
    (known : ∀ condition ∈ filters.conditions, condition.column ∈ schema.columns)
    (accepted : ∀ order ∈ filters.orderBy, Order schema.columns order) :
    Fits (Query schema.name schema.columns) schema.columns
      (Statement.select projection schema.name filters).toSql where
  derived := query_of_filters projection known accepted
  bound unmarked := by
    have selects : placeholderCount "SELECT " = 0 := by decide
    have fromWord : placeholderCount " FROM " = 0 := by decide
    have projected : placeholderCount projection.text = 0 := by
      cases projection <;> decide
    simp only [Statement.toSql_select, FilterSet.appliedTo, placeholderCount_append, plain,
      selects, fromWord, projected, placeholderCount_clause unmarked known,
      placeholderCount_orderClause unmarked accepted, placeholderCount_windowClause,
      List.length_map]
    omega

theorem fits_find {column : String} (value : Json) (known : Column schema.columns column) :
    Fits (Query schema.name schema.columns) schema.columns
      (Statement.find schema.name column value).toSql where
  derived := by
    have term : Term schema.columns (column ++ "=" ++ "?") := Term.intro known (by decide)
    have filtered : Clause " WHERE " (Terms schema.columns) (" WHERE " ++ _) :=
      Clause.present (Terms.one term)
    have query : Query schema.name schema.columns
        ("SELECT " ++ "*" ++ " FROM " ++ schema.name ++
          (" WHERE " ++ (column ++ "=" ++ "?")) ++ "" ++ "") :=
      Query.select (by decide) filtered Clause.absent Clause.absent
    have front : "SELECT " ++ "*" ++ " FROM " = "SELECT * FROM " := by decide
    have sign : "=?" = "=" ++ "?" := by decide
    have text : "SELECT " ++ "*" ++ " FROM " ++ schema.name ++
        (" WHERE " ++ (column ++ "=" ++ "?")) ++ "" ++ "" =
          "SELECT * FROM " ++ schema.name ++ " WHERE " ++ column ++ "=?" := by
      rw [front, sign, String.append_empty, String.append_empty]
      simp only [String.append_assoc]
    rw [Statement.toSql_find, ← text]
    exact query
  bound unmarked := by
    have selects : placeholderCount "SELECT * FROM " = 0 := by decide
    have word : placeholderCount " WHERE " = 0 := by decide
    have mark : placeholderCount "=?" = 1 := by decide
    simp only [Statement.toSql_find, placeholderCount_append, plain, selects, word, mark,
      placeholderCount_column unmarked known, List.length_singleton]

/-- Rows of one width under known columns are inserted by a change of the grammar. -/
theorem fits_insert_of_known {names : List String} {row : List Json} {rows : List (List Json)}
    (named : names ≠ []) (known : ∀ name ∈ names, name ∈ schema.columns)
    (width : ∀ other ∈ row :: rows, other.length = names.length) :
    Fits (Change schema.name schema.columns) schema.columns
      (Statement.insert schema.name names (row :: rows)).toSql := by
  have columns : ∀ name ∈ names, Column schema.columns name :=
    fun name member => Column.listed (known name member)
  have rowTexts : String.intercalate ", " ((row :: rows).map fun _ => Statement.rowText names) =
      markRows (row :: rows).length names.length := by
    rw [List.map_const']
    rfl
  constructor
  · rw [Statement.toSql_insert, rowTexts]
    exact Change.insert named columns (by simp)
  · intro unmarked
    have insertWord : placeholderCount "INSERT INTO " = 0 := by decide
    have opening : placeholderCount " (" = 0 := by decide
    have values : placeholderCount ") VALUES " = 0 := by decide
    simp only [Statement.toSql_insert, rowTexts, placeholderCount_append, plain, insertWord,
      opening, values, placeholderCount_names unmarked columns, placeholderCount_markRows,
      length_flatten_of_width width]
    omega

/-- New values for known columns are set by a change of the grammar. -/
theorem fits_update_of_known {fields : Fields} (id : Int) (filled : fields ≠ [])
    (known : ∀ name ∈ fields.keys, name ∈ schema.columns) :
    Fits (Change schema.name schema.columns) schema.columns
      (Statement.update schema.name fields id).toSql := by
  have columns : ∀ name ∈ fields.keys, Column schema.columns name :=
    fun name member => Column.listed (known name member)
  constructor
  · rw [Statement.toSql_update]
    exact Change.update (by simpa [Fields.keys] using filled) columns
  · intro unmarked
    have updateWord : placeholderCount "UPDATE " = 0 := by decide
    have setWord : placeholderCount " SET " = 0 := by decide
    have found : placeholderCount " WHERE id=?" = 1 := by decide
    simp only [Statement.toSql_update, placeholderCount_append, plain, updateWord, setWord, found,
      placeholderCount_assignments unmarked columns, List.length_append, List.length_singleton]
    simp [Fields.keys, Fields.values]

theorem fits_deleteById (id : Int) :
    Fits (Change schema.name schema.columns) schema.columns (schema.deleteById id).toSql where
  derived := Change.deleteOne
  bound _ := by
    have deleteWord : placeholderCount "DELETE FROM " = 0 := by decide
    have found : placeholderCount " WHERE id=?" = 1 := by decide
    simp only [deleteById, Statement.toSql_delete, placeholderCount_append, plain, deleteWord,
      found, List.length_singleton]

theorem fits_deleteByIds {ids : List Int} (filled : ids ≠ []) :
    Fits (Change schema.name schema.columns) schema.columns (schema.deleteByIds ids).toSql where
  derived := Change.deleteMany (List.length_pos_iff.2 filled)
  bound _ := by
    have deleteWord : placeholderCount "DELETE FROM " = 0 := by decide
    have opening : placeholderCount " WHERE id IN (" = 0 := by decide
    have closing : placeholderCount ")" = 0 := by decide
    have marked : placeholderCount (Statement.placeholders ids.length) = ids.length :=
      placeholderCount_marks ids.length
    simp only [deleteByIds, Statement.toSql_deleteAll, placeholderCount_append, plain,
      deleteWord, opening, closing, marked, List.length_map]
    omega

theorem fits_select {filters : FilterSet} {statement : Statement}
    (made : schema.select filters = .ok statement) :
    Fits (Query schema.name schema.columns) schema.columns statement.toSql := by
  rcases of_select made with ⟨accepted, passed, rfl⟩
  rcases of_accept passed with ⟨_, known, ordered⟩
  exact fits_select_of_known plain .all known ordered

theorem fits_count {filters : FilterSet} {statement : Statement}
    (made : schema.count filters = .ok statement) :
    Fits (Query schema.name schema.columns) schema.columns statement.toSql := by
  rcases of_count made with ⟨passed, rfl⟩
  refine fits_select_of_known plain .count ?_ (by simp [FilterSet.empty])
  intro condition member
  exact mem_columns_of_requireColumns passed _ (List.mem_map_of_mem member)

theorem fits_selectIds {filters : FilterSet} {statement : Statement}
    (made : schema.selectIds filters = .ok statement) :
    Fits (Query schema.name schema.columns) schema.columns statement.toSql := by
  rcases of_selectIds made with ⟨_, accepted, passed, rfl⟩
  rcases of_accept passed with ⟨_, known, ordered⟩
  exact fits_select_of_known plain .id known ordered

theorem fits_selectById (id : Int) :
    Fits (Query schema.name schema.columns) schema.columns (schema.selectById id).toSql :=
  fits_find plain (Json.ofInt id) Column.id

theorem fits_insert {record : Fields} {statement : Statement} (filled : record ≠ [])
    (made : schema.insert record = .ok statement) :
    Fits (Change schema.name schema.columns) schema.columns statement.toSql := by
  rcases of_insert made with ⟨passed, rfl⟩
  apply fits_insert_of_known plain
  · simpa [Fields.keys] using filled
  · exact mem_columns_of_requireColumns passed
  · simp [Fields.keys, Fields.values]

theorem fits_insertBatch {first : Fields} {others : List Fields} {statement : Statement}
    (filled : first ≠ []) (made : schema.insertBatch (first :: others) = .ok statement) :
    Fits (Change schema.name schema.columns) schema.columns statement.toSql := by
  rcases of_insertBatch made with ⟨passed, rfl⟩
  rw [List.map_cons]
  apply fits_insert_of_known plain
  · simpa [Fields.keys] using filled
  · exact mem_columns_of_requireColumns passed
  · intro row member
    rw [← List.map_cons] at member
    rcases List.mem_map.1 member with ⟨record, _, rfl⟩
    exact List.length_map _

theorem fits_updateById {id : Int} {record : Fields} {statement : Statement}
    (filled : record ≠ []) (made : schema.updateById id record = .ok statement) :
    Fits (Change schema.name schema.columns) schema.columns statement.toSql := by
  rcases of_updateById made with ⟨passed, rfl⟩
  have keys : Fields.keys (record.map fun (column, value) => (column, value.bound)) =
      record.keys := by
    simp [Fields.keys]
  apply fits_update_of_known plain
  · simpa using filled
  · rw [keys]
    exact mem_columns_of_requireColumns passed

end Texts

end Schema

end TableApi
