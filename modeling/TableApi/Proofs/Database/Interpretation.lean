import TableApi.Proofs.Database.Operations

/-!
# Statements as operations on a table

The database in memory sees nothing of a statement but its text and its values.  It does with them
what the statement was made for: a selection returns the rows that its filters mean, an insertion
adds the rows of its records, an update sets the fields of its record and nothing else, and a
deletion removes the rows with its ids.  `Setup.interprets` says so for every statement that a
schema of a stored table makes.

Names are to consist of letters, digits and underscores, and no column of an order clause may be
called `LIMIT`, since the text of a clause would be cut at it.  A record without fields names no
column: it is inserted as no row, and sets nothing.

Two limits come from the database and not from the text.  Where the rows of a selection cannot be
ordered the call breaks off, as `Setup.select_disordered` shows for one missing value among
twenty-one.  And new ids are counted in a signed word, so there has to be room for them.
-/

namespace TableApi

namespace Memory

variable {tables : Tables}

/-- No fault is set up for a statement. -/
def Setup.Spares (setup : Setup) (statement : Statement) : Prop :=
  setup.faultOf? statement.toSql.query = none

/-- Neither a fault nor a canned answer is set up for a question. -/
def Setup.Leaves (setup : Setup) (statement : Statement) : Prop :=
  setup.Spares statement ∧ setup.answerTo? statement.toSql.query = none

/-- The counter for new ids passes no signed word when it gives out some more. -/
def Table.HasRoom (table : Table) (given : Nat) : Prop :=
  table.nextId + given ≤ Text.largestInteger

theorem Setup.fetchAll_of_leaves {setup : Setup} {statement : Statement}
    {answer : Except DatabaseError (List Row)} (leaves : setup.Leaves statement)
    (found : fetch tables statement.toSql = answer) :
    setup.database.fetchAll statement.toSql tables = .quiet answer tables := by
  have spared : setup.faultOf? statement.toSql.query = none := leaves.1
  simp [database, fetchAll, unlessFault, spared, leaves.2, found]

theorem Setup.execute_of_spares {setup : Setup} {statement : Statement} {receipt : Receipt}
    {after : Tables} (spares : setup.Spares statement)
    (changed : change tables statement.toSql = .ok (receipt, after)) :
    setup.database.execute statement.toSql tables = .quiet (.ok receipt) after := by
  have spared : setup.faultOf? statement.toSql.query = none := spares
  simp [database, execute, unlessFault, spared, changed]

theorem Setup.execute_of_refused {setup : Setup} {statement : Statement} {error : DatabaseError}
    (spares : setup.Spares statement) (refused : change tables statement.toSql = .error error) :
    setup.database.execute statement.toSql tables = .quiet (.error error) tables := by
  have spared : setup.faultOf? statement.toSql.query = none := spares
  simp [database, execute, unlessFault, spared, refused]

/--
What a database in memory answers to the statements of a stored table, and what
it makes of the table: the operations that the statements stand for.
-/
structure Setup.Interprets (setup : Setup) (tables : Tables) (name : String) (table : Table) :
    Prop where
  /-- The rows that the filters mean, unless their ordering breaks off. -/
  select : ∀ filters statement, (table.schema name).select filters = .ok statement →
    ¬filters.OrdersByLimit → filters.IsSmall → setup.Leaves statement →
      setup.database.fetchAll statement.toSql tables =
        .quiet (ofOrdered (filters.chosen? table.rows)) tables
  /-- The number of rows that satisfy the conditions, whatever the order and the window. -/
  count : ∀ filters statement, (table.schema name).count filters = .ok statement →
    setup.Leaves statement →
      setup.database.fetchAll statement.toSql tables =
        .quiet (.ok [[("count", Json.ofNat (filters.satisfying table.rows).length)]]) tables
  /-- The id of each row that the filters mean, unless their ordering breaks off. -/
  selectIds : ∀ filters statement, (table.schema name).selectIds filters = .ok statement →
    ¬filters.OrdersByLimit → filters.IsSmall → setup.Leaves statement →
      setup.database.fetchAll statement.toSql tables =
        .quiet (ofOrdered ((filters.chosen? table.rows).map fun rows => rows.map fun row =>
          [("id", (Fields.get? row "id").getD .null)])) tables
  selectById : ∀ id, setup.Leaves ((table.schema name).selectById id) →
    setup.database.fetchAll ((table.schema name).selectById id).toSql tables =
      .quiet (.ok (table.rows.filter (matchesAt "id" (Json.ofInt id)))) tables
  selectByColumn : ∀ column value statement,
    (table.schema name).selectByColumn column value = .ok statement → setup.Leaves statement →
      setup.database.fetchAll statement.toSql tables =
        .quiet (.ok (table.rows.filter (matchesAt column (.string value)))) tables
  /-- One row with the bound values, and an id when none was given. -/
  insert : ∀ record statement, (table.schema name).insert record = .ok statement → record ≠ [] →
    record.keys.Nodup → table.HasRoom (if record.has "id" then 0 else 1) →
    setup.Spares statement →
      setup.database.execute statement.toSql tables =
        .quiet (.ok ⟨1, (table.nextId % wordRange).toNat⟩)
          (Named.put tables name
            ⟨table.columns, table.rows ++ [newRow table.nextId record.bound]⟩)
  /-- One row for each record, with the columns of the first. -/
  insertBatch : ∀ first others statement,
    (table.schema name).insertBatch (first :: others) = .ok statement → first ≠ [] →
    first.keys.Nodup → table.HasRoom (if first.has "id" then 0 else others.length + 1) →
    setup.Spares statement →
      setup.database.execute statement.toSql tables =
        .quiet (.ok ⟨others.length + 1, (table.nextId % wordRange).toNat⟩)
          (Named.put tables name ⟨table.columns, table.rows ++
            newRows table.nextId ((first :: others).map (Fields.boundUnder first.keys))⟩)
  /-- The given columns and no others, in the rows with the id and in no others. -/
  updateById : ∀ id record statement, (table.schema name).updateById id record = .ok statement →
    record ≠ [] → record.keys.Nodup → setup.Spares statement →
      setup.database.execute statement.toSql tables =
          .quiet (.ok ⟨(table.rows.filter (matchesAt "id" (Json.ofInt id))).length, 0⟩)
            (Named.put tables name ⟨table.columns, table.rows.map fun row =>
              if matchesAt "id" (Json.ofInt id) row then row.setAll record.bound else row⟩) ∧
        ∀ (row : Row) (column : String), Fields.get? (row.setAll record.bound) column =
          (record.bound.get? column).or (Fields.get? row column)
  deleteById : ∀ id, setup.Spares ((table.schema name).deleteById id) →
    setup.database.execute ((table.schema name).deleteById id).toSql tables =
      .quiet (.ok ⟨(table.rows.filter (matchesAt "id" (Json.ofInt id))).length, 0⟩)
        (Named.put tables name ⟨table.columns, table.rows.filter fun row =>
          !matchesAt "id" (Json.ofInt id) row⟩)
  deleteByIds : ∀ ids, setup.Spares ((table.schema name).deleteByIds ids) →
    setup.database.execute ((table.schema name).deleteByIds ids).toSql tables =
      .quiet (.ok ⟨(table.rows.filter fun row =>
          ids.any fun id => matchesAt "id" (Json.ofInt id) row).length, 0⟩)
        (Named.put tables name ⟨table.columns, table.rows.filter fun row =>
          !(ids.any fun id => matchesAt "id" (Json.ofInt id) row)⟩)
  /-- A record without fields is inserted as no row. -/
  insertNothing : ∀ statement,
    ((table.schema name).insert [] = .ok statement ∨
      ∃ others, (table.schema name).insertBatch ([] :: others) = .ok statement) →
    table.HasRoom 0 → setup.Spares statement →
      setup.database.execute statement.toSql tables =
        .quiet (.ok ⟨0, (table.nextId % wordRange).toNat⟩) (Named.put tables name table)
  /-- No records make no statement. -/
  insertNone : ∀ statement, (table.schema name).insertBatch [] = .ok statement →
    setup.Spares statement →
      setup.database.execute statement.toSql tables = .quiet (.error (unreadable "")) tables
  /-- A record without fields sets nothing. -/
  updateNothing : ∀ id statement, (table.schema name).updateById id [] = .ok statement →
    setup.Spares statement →
      setup.database.execute statement.toSql tables =
        .quiet (.ok ⟨0, 0⟩) (Named.put tables name table)

/--
A database in memory does with every statement of a stored table what the
statement stands for.
-/
theorem Setup.interprets (setup : Setup) {name : String} {table : Table}
    (stored : Named.get? tables name = some table) (named : IsPlain name)
    (plain : ∀ column ∈ table.columns, IsPlain column)
    (few : table.rows.length ≤ Text.largestWord) : setup.Interprets tables name table := by
  have plainKeys : ∀ {record : Fields}, (table.schema name).requireColumns record.keys = .ok () →
      ∀ column ∈ record.keys, IsPlain column :=
    fun passed column member =>
      plain column (Schema.mem_columns_of_requireColumns passed column member)
  constructor
  case select =>
    intro filters statement made unnamed small leaves
    rcases Schema.of_select made with ⟨accepted, passed, rfl⟩
    have found := fetch_select named stored .all passed plain few unnamed small
    have whole : project Projection.all.text = id := rfl
    rw [whole, Option.map_id_fun, id_eq] at found
    exact Setup.fetchAll_of_leaves leaves found
  case count =>
    intro filters statement made leaves
    rcases Schema.of_count made with ⟨passed, rfl⟩
    exact Setup.fetchAll_of_leaves leaves (fetch_count named stored passed plain few)
  case selectIds =>
    intro filters statement made unnamed small leaves
    rcases Schema.of_selectIds made with ⟨_, accepted, passed, rfl⟩
    exact Setup.fetchAll_of_leaves leaves
      (fetch_select named stored .id passed plain few unnamed small)
  case selectById =>
    intro id leaves
    exact Setup.fetchAll_of_leaves leaves (fetch_find named stored isPlain_id (Json.ofInt id))
  case selectByColumn =>
    intro column value statement made leaves
    rcases Schema.of_selectByColumn made with ⟨known, rfl⟩
    exact Setup.fetchAll_of_leaves leaves
      (fetch_find named stored (plain column known) (.string value))
  case insert =>
    intro record statement made filled distinct _ spares
    rcases Schema.of_insert made with ⟨passed, rfl⟩
    exact Setup.execute_of_spares spares
      (change_insert_record named stored filled (plainKeys passed) distinct)
  case insertBatch =>
    intro first others statement made filled distinct _ spares
    rcases Schema.of_insertBatch made with ⟨passed, rfl⟩
    exact Setup.execute_of_spares spares
      (change_insert_records named stored others filled (plainKeys passed) distinct)
  case updateById =>
    intro id record statement made filled distinct spares
    rcases Schema.of_updateById made with ⟨passed, rfl⟩
    constructor
    · have changed := change_update named stored record.bound
        (by simpa [Fields.bound] using filled) (by simpa using plainKeys passed) id
      exact Setup.execute_of_spares spares changed
    · exact fun row column => Fields.get?_setAll (by simpa using distinct) row column
  case deleteById =>
    intro id spares
    exact Setup.execute_of_spares spares (change_delete named stored id)
  case deleteByIds =>
    intro ids spares
    exact Setup.execute_of_spares spares (change_deleteAll named stored ids)
  case insertNothing =>
    intro statement made _ spares
    rcases made with made | ⟨others, made⟩
    · rcases Schema.of_insert made with ⟨_, rfl⟩
      exact Setup.execute_of_spares spares (change_insert_nil named stored rfl)
    · rcases Schema.of_insertBatch made with ⟨_, rfl⟩
      have empty : (([] :: others).map (Schema.rowOf (Fields.keys []))).flatten = [] := by
        simp [Schema.rowOf]
      exact Setup.execute_of_spares spares (change_insert_nil named stored empty)
  case insertNone =>
    intro statement made spares
    cases made
    exact Setup.execute_of_refused spares rfl
  case updateNothing =>
    intro id statement made spares
    rcases Schema.of_updateById made with ⟨_, rfl⟩
    exact Setup.execute_of_spares spares (change_update_nil named stored id)

/-! ## An example -/

/-- A table with a value missing. -/
def planets : Table :=
  ⟨["id", "name", "mass"],
    [[("id", Json.ofInt 1), ("name", .string "mars"), ("mass", .null)],
      [("id", Json.ofInt 2), ("name", .string "venus"), ("mass", Json.ofInt 4867)]]⟩

def heavyOrMars : FilterSet :=
  ⟨[⟨"mass", .greater, "1000", .and⟩, ⟨"name", .equal, "mars", .or⟩], some "id desc", none, some 1⟩

theorem Setup.interprets_planets :
    Setup.plain.Interprets [("planets", planets)] "planets" planets ∧
    ∃ statement, (planets.schema "planets").select heavyOrMars = .ok statement ∧
      Setup.plain.database.fetchAll statement.toSql [("planets", planets)] =
        .quiet (.ok [[("id", Json.ofInt 1), ("name", .string "mars"), ("mass", .null)]])
          [("planets", planets)] := by
  have plain : ∀ column ∈ planets.columns, IsPlain column := by
    decide
  have interpreted : Setup.plain.Interprets [("planets", planets)] "planets" planets :=
    Setup.interprets Setup.plain rfl (by decide) plain (by decide)
  refine ⟨interpreted, .select .all "planets" heavyOrMars, rfl, ?_⟩
  have unnamed : ¬heavyOrMars.OrdersByLimit := by
    simp only [FilterSet.OrdersByLimit, heavyOrMars, Option.mem_some_iff, exists_eq_left']
    decide
  have small : heavyOrMars.IsSmall := by
    simp only [FilterSet.IsSmall, heavyOrMars]
    decide
  have found := interpreted.select heavyOrMars _ rfl unnamed small ⟨rfl, rfl⟩
  have rows : heavyOrMars.chosen? planets.rows =
      some [[("id", Json.ofInt 1), ("name", .string "mars"), ("mass", .null)]] := by
    decide +kernel
  rw [rows] at found
  exact found

/-- Twenty-one letters, one of them missing. -/
def letters : Table :=
  ⟨["id", "letter"], "z?klmnopqrabcdefghijs".toList.zipIdx.map fun (letter, place) =>
    [("id", Json.ofNat place),
      ("letter", if letter = '?' then .null else .string (.singleton letter))]⟩

/-- A missing letter counts as equal to every other, so `z` is equal to it and it is to `k`, and the
letters cannot be ordered. -/
theorem Setup.select_disordered :
    ∃ statement, (letters.schema "letters").select ⟨[], some "letter", none, none⟩ = .ok statement ∧
      Setup.plain.database.fetchAll statement.toSql [("letters", letters)] =
        .quiet (.error disordered) [("letters", letters)] := by
  have named : IsPlain "letters" := by
    decide
  have stored : Named.get? [("letters", letters)] "letters" = some letters := rfl
  have passed : (letters.schema "letters").accept ⟨[], some "letter", none, none⟩ =
      .ok ⟨[], some "letter", none, none⟩ := rfl
  have plain : ∀ column ∈ letters.columns, IsPlain column := by
    decide
  have unnamed : ¬FilterSet.OrdersByLimit ⟨[], some "letter", none, none⟩ := by
    simp only [FilterSet.OrdersByLimit, Option.mem_some_iff, exists_eq_left']
    decide
  have small : FilterSet.IsSmall ⟨[], some "letter", none, none⟩ := by
    simp [FilterSet.IsSmall]
  have none : FilterSet.chosen? ⟨[], some "letter", none, none⟩ letters.rows = none := by
    decide +kernel
  have found := fetch_select named stored .all passed plain (by decide) unnamed small
  rw [none] at found
  exact ⟨_, rfl, Setup.fetchAll_of_leaves ⟨rfl, rfl⟩ found⟩

end Memory

end TableApi
