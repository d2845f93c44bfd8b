import TableApi.Proofs.Database.Alteration
import TableApi.Proofs.Database.Coercion
import TableApi.Proofs.Request.Ownership

/-!
# The record that is created

A posted record becomes the last row of its table, under an id that is larger than all others, and
is read back by this id with a second statement.  The id travels as a number and is compared with
every stored id, so the row that comes back is the new one because integers of 53 bits compare as
they are: `Table.place_newRow`.  Without the bound the row is stored just the same, and only what is
returned may be another.
-/

namespace TableApi

open TableApi.Action Memory

/-! ## Checked columns -/

/-- Names that are all columns pass the check. -/
theorem Schema.requireColumns_of_known {schema : Schema} {names : List String}
    (known : ∀ name ∈ names, name ∈ schema.columns) : schema.requireColumns names = .ok () := by
  have none : schema.unknownColumns names = [] := by
    unfold unknownColumns
    induction names with
    | nil => rfl
    | cons name names step =>
      rw [List.forall_mem_cons] at known
      rw [List.foldl_cons, if_pos (by simp [known.1])]
      exact step known.2
  simp [requireColumns, none]

/-! ## The row of a record -/

namespace Memory

/-- Every row of a table has an integer id, and there is an exact integer after each of them. -/
def Table.Indexed (table : Table) : Prop :=
  ∀ row ∈ table.rows, ∃ id : Int, 0 ≤ id ∧ id + 1 < Double.exactBound ∧
    Fields.get? row "id" = some (Json.ofInt id)

variable {table : Table} {record : Fields}

theorem integerOf_ofInt_of_exact {id : Int} (least : 0 ≤ id)
    (largest : id < Double.exactBound) : integerOf (some (Json.ofInt id)) = id := by
  have bound : Double.exactBound = 9007199254740992 := rfl
  apply integerOf_ofInt
  · simp only [Text.leastInteger]
    omega
  · simp only [Text.largestInteger]
    omega

/-- The id that a table gives to a new row is positive and of 53 bits. -/
theorem Table.Indexed.nextId_bounds (indexed : table.Indexed) :
    0 < table.nextId ∧ table.nextId < Double.exactBound := by
  have counted : ∀ row ∈ table.rows, 0 ≤ integerOf (Fields.get? row "id") ∧
      integerOf (Fields.get? row "id") + 1 < Double.exactBound := by
    intro row member
    rcases indexed row member with ⟨id, least, largest, held⟩
    rw [held, integerOf_ofInt_of_exact least (by omega)]
    exact ⟨least, largest⟩
  unfold nextId
  split
  · decide
  · rename_i first others all
    have listed : ∀ id ∈ first :: others, 0 ≤ id ∧ id + 1 < Double.exactBound := by
      rw [← all]
      simpa using counted
    have greatest : (first :: others).max? = some (others.foldl max first) := List.max?_cons'
    have bounds := listed _ (List.max?_eq_some_iff.1 greatest).1
    omega

theorem Table.Indexed.nextId_fits (indexed : table.Indexed) :
    table.nextId ≤ Text.largestInteger := by
  have bound : Double.exactBound = 9007199254740992 := rfl
  have small := indexed.nextId_bounds.2
  simp only [Text.largestInteger]
  omega

/-- The row of a record without an id has the new id, and the bound values of the record. -/
theorem get?_newRow (unnumbered : "id" ∉ record.keys) (id : Int) (key : String) :
    Fields.get? (newRow id record.bound) key =
      if key = "id" then some (Json.ofInt id) else (record.get? key).map Json.bound := by
  have absent : record.bound.has "id" = false := by
    rw [Bool.eq_false_iff, ne_eq, Fields.has_eq_true_iff, Fields.keys_bound]
    exact unnumbered
  rw [newRow, absent, if_neg (by simp), Fields.get?_cons, Fields.get?_bound]
  simp only [eq_comm]

/-- The row of a new record is the only one that is found under its id. -/
theorem Table.Indexed.place_newRow (indexed : table.Indexed) (unnumbered : "id" ∉ record.keys) :
    Place ⟨table.columns, table.rows ++ [newRow table.nextId record.bound]⟩ table.nextId
      table.rows (newRow table.nextId record.bound) [] := by
  rcases indexed.nextId_bounds with ⟨positive, small⟩
  have fits := indexed.nextId_fits
  have held : Fields.get? (newRow table.nextId record.bound) "id" =
      some (Json.ofInt table.nextId) := by
    rw [get?_newRow unnumbered, if_pos rfl]
  have counted : Json.toInteger (some (Json.ofInt table.nextId)) = table.nextId := if_pos fits
  have found := findsItself_of_integer held fits
  rw [FindsItself, held, counted] at found
  refine ⟨rfl, found, fun other member => ?_, by simp⟩
  rcases indexed other member with ⟨id, least, largest, own⟩
  have smaller := Table.lt_nextId member
  rw [own, integerOf_ofInt_of_exact least (by omega)] at smaller
  have apart : ¬SameId other (newRow table.nextId record.bound) :=
    not_sameId_of_exact own held (by omega) (by omega) (by omega)
  rw [← Bool.not_eq_true]
  exact fun matched => apart (sameId_of_matchesAt matched found)

end Memory

/-! ## Creating -/

namespace Execution

section Statements

variable {σ : Type} {execution : Execution σ} {record : Fields}

/-- The execution of an endpoint on posted values. -/
def posting (execution : Execution σ) (endpoint : Endpoint) (params : Json) : Execution σ :=
  { execution with
    context := { execution.context with endpoint }
    input := { execution.input with params } }

/-- The execution that looks up the record with an id. -/
def seeking (execution : Execution σ) (id : Int) : Execution σ :=
  { execution with
    context := { execution.context with endpoint := .findOne, id := some (toString id) } }

/-- A record of known columns is inserted, and then read back by the id in the receipt. -/
theorem create_eq (posted : execution.record = .ok record)
    (known : ∀ column ∈ record.keys, column ∈ execution.schema.columns) :
    execution.create = (do
      let receipt ← execution.change
        (.insert execution.schema.name record.keys [record.values.map Json.bound])
      if (receipt.insertId : Int) ≤ Text.largestInteger then
        let row ← execution.fetchById receipt.insertId
        return rowOrNull row
      else
        fail (.internal "Insert id out of range") : Action σ ApiError Json) := by
  have made : execution.schema.insert record =
      .ok (.insert execution.schema.name record.keys [record.values.map Json.bound]) := by
    simp only [Schema.insert, Schema.requireColumns_of_known known]
    rfl
  have given : (ofExcept execution.record : Action σ ApiError Fields) = pure record := by
    rw [posted]
    rfl
  have built : (build (execution.schema.insert record) : Action σ ApiError Statement) =
      pure (.insert execution.schema.name record.keys [record.values.map Json.bound]) := by
    rw [made]
    rfl
  rw [create, given, pure_bind, built, pure_bind]

/-- The id in the path of a look-up is the number that it spells. -/
theorem numericId_seeking {id : Int} (least : 0 ≤ id) (largest : id ≤ Text.largestInteger) :
    (execution.seeking id).context.numericId = some id := by
  have spelled : toString id = String.ofList (Nat.toDigits 10 id.toNat) := by
    rw [← Nat.toString_eq_ofList_toDigits]
    conv_lhs => rw [← Int.toNat_of_nonneg least]
    rfl
  have digits : isNumeric (toString id) = true := by
    rw [isNumeric, spelled, String.toList_ofList, List.all_eq_true]
    exact fun digit member => Nat.isDigit_of_mem_toDigits (by simp) (Nat.le_refl 10) member
  have filled : (toString id).isEmpty = false := by
    rw [spelled]
    simp
  simp only [seeking, Context.numericId, Option.filter, filled, digits]
  exact Text.integer?_toString (by simp only [Text.leastInteger]; omega) largest

end Statements

section OverMemory

variable {setup : Setup} {execution : Execution Tables} {tables : Tables} {table : Table}
  {name : String} {record : Fields} (bare : setup.Bare)
  (inMemory : execution.database = setup.database)
  (schema : execution.schema = table.schema name) (named : IsPlain name)

include bare inMemory schema named

/-- A look-up of one record returns the row in its place. -/
theorem run_seeking {found : Table} (stored : Named.get? tables name = some found) {id : Int}
    {before after : List Row} {row : Row} (least : 0 ≤ id) (largest : id ≤ Text.largestInteger)
    (place : Place found id before row after) :
    ((execution.seeking id).run tables).result = .ok (.object row) := by
  have answered : ((execution.seeking id).fetchById id tables).result =
      .ok (found.rows.filter (matchesAt "id" (Json.ofInt id))).head? :=
    (fetchById_apply bare inMemory schema named stored id).1
  rw [place.filter_eq] at answered
  show ((execution.seeking id).findOne tables).result = _
  simp only [findOne, numericId_seeking least largest, bind_of_ok answered]
  rfl

variable (stored : Named.get? tables name = some table)

include stored

/-- A record of columns adds its row, and the first row that is found under the new id returns. -/
theorem run_posting_create (plain : ∀ column ∈ table.columns, IsPlain column) (filled : record ≠ [])
    (known : ∀ column ∈ record.keys, column ∈ table.columns) (distinct : record.keys.Nodup) :
    ((execution.posting .create (.object record)).run tables).state = Named.put tables name
        ⟨table.columns, table.rows ++ [newRow table.nextId record.bound]⟩ ∧
      (0 ≤ table.nextId → table.nextId ≤ Text.largestInteger →
        ((execution.posting .create (.object record)).run tables).result = .ok (rowOrNull
          ((table.rows ++ [newRow table.nextId record.bound]).filter
            (matchesAt "id" (Json.ofInt table.nextId))).head?)) := by
  have held : (execution.posting .create (.object record)).database = setup.database := inMemory
  have about : (execution.posting .create (.object record)).schema = table.schema name := schema
  have posted : (execution.posting .create (.object record)).record = .ok record := by
    cases record with
    | nil => exact absurd rfl filled
    | cons entry entries => rfl
  have runs : (execution.posting .create (.object record)).run =
      (execution.posting .create (.object record)).create := rfl
  have changed := change_insert_record named stored filled
    (fun column member => plain column (known column member)) distinct
  rcases change_apply bare held changed with ⟨carried, left⟩
  have created := Named.get?_put_self tables name
    ⟨table.columns, table.rows ++ [newRow table.nextId record.bound]⟩
  have again := fetchById_apply bare held about named created
  rw [runs, create_eq posted (by rw [about]; exact known), about]
  simp only [Table.schema, bind_of_ok carried, left]
  constructor
  · split
    · rw [bind_of_ok (again _).1]
      exact (again _).2
    · rfl
  · intro least largest
    have whole : ((table.nextId % wordRange).toNat : Int) = table.nextId := by
      simp only [wordRange, Text.largestInteger] at largest ⊢
      omega
    simp only [whole, largest, if_true]
    rw [bind_of_ok (again _).1]
    rfl

end OverMemory

end Execution

/-! ## What is returned -/

/--
A record of known columns without an id adds one row to a table with exact ids:
the row has an id that no other row has, the bound value of each field of the
record, and nothing else.  The row is returned, and a look-up of its id returns
it once more; every other row and every other table stays as it is.
-/
theorem Execution.create_returns_stored {setup : Setup} {execution : Execution Tables}
    {tables : Tables} {table : Table} {name : String} {record : Fields} (bare : setup.Bare)
    (inMemory : execution.database = setup.database)
    (schema : execution.schema = table.schema name) (named : IsPlain name)
    (stored : Named.get? tables name = some table)
    (plain : ∀ column ∈ table.columns, IsPlain column) (indexed : table.Indexed)
    (filled : record ≠ []) (distinct : record.keys.Nodup)
    (known : ∀ column ∈ record.keys, column ∈ table.columns) (unnumbered : "id" ∉ record.keys) :
    ∃ (id : Int) (row : Row),
      ((execution.posting .create (.object record)).run tables).result = .ok (.object row) ∧
      ((execution.posting .create (.object record)).run tables).state =
        Named.put tables name ⟨table.columns, table.rows ++ [row]⟩ ∧
      (∀ key, Fields.get? row key =
        if key = "id" then some (Json.ofInt id) else (record.get? key).map Json.bound) ∧
      (∀ other ∈ table.rows, Fields.get? other "id" ≠ Fields.get? row "id") ∧
      (∀ other ≠ name,
        Named.get? (Named.put tables name ⟨table.columns, table.rows ++ [row]⟩) other =
          Named.get? tables other) ∧
      ((execution.seeking id).run
        (Named.put tables name ⟨table.columns, table.rows ++ [row]⟩)).result =
          .ok (.object row) := by
  rcases indexed.nextId_bounds with ⟨positive, small⟩
  have fits := indexed.nextId_fits
  have place := indexed.place_newRow unnumbered
  rcases run_posting_create bare inMemory schema named stored plain filled known distinct with
    ⟨left, returned⟩
  have first := returned (by omega) fits
  rw [place.filter_eq] at first
  have fields := get?_newRow unnumbered table.nextId
  refine ⟨table.nextId, newRow table.nextId record.bound, first, left, fields, ?_, ?_, ?_⟩
  · intro other member same
    rcases indexed other member with ⟨id, least, largest, held⟩
    have smaller := Table.lt_nextId member
    rw [same, fields, if_pos rfl, integerOf_ofInt_of_exact (by omega) small] at smaller
    omega
  · exact fun other apart => Named.get?_put_of_ne _ _ apart
  · exact run_seeking bare inMemory schema named (Named.get?_put_self tables name _) (by omega)
      fits place

/-- Shelves with the largest id after which there is an exact one. -/
def shelves : Table :=
  ⟨["id", "label", "books"],
    [[("id", Json.ofInt 9007199254740990), ("label", .string "poems")],
      [("id", Json.ofInt 3), ("label", .null), ("books", .string "[]")]]⟩

def shelfExecution : Execution Tables where
  database := Setup.plain.database
  schema := shelves.schema "shelves"
  descriptor := ⟨.post, none, none, none, none, false⟩
  context := ⟨.post, "shelves", .create, none, ["shelves"], none, "", [], false⟩
  input := ⟨none, "shelves", "Create", .null, ""⟩

/-- A list of books is stored as its text, and the new shelf gets the last exact id. -/
theorem Execution.create_returns_stored_shelf :
    ∃ (id : Int) (row : Row),
      ((shelfExecution.posting .create (.object [("books", .array [.string "Emma"])])).run
        [("shelves", shelves)]).result = .ok (.object row) ∧
      Fields.get? row "books" = some (.string "[\"Emma\"]") ∧ Fields.get? row "label" = none ∧
      (∀ other ∈ shelves.rows, Fields.get? other "id" ≠ Fields.get? row "id") ∧
      ((shelfExecution.seeking id).run
        (Named.put [("shelves", shelves)] "shelves"
          ⟨shelves.columns, shelves.rows ++ [row]⟩)).result = .ok (.object row) := by
  have plain : ∀ column ∈ shelves.columns, IsPlain column := by
    decide
  have indexed : shelves.Indexed := by
    intro row member
    rcases List.mem_pair.1 member with rfl | rfl
    · exact ⟨9007199254740990, by decide, by decide, rfl⟩
    · exact ⟨3, by decide, by decide, rfl⟩
  have bare : Setup.plain.Bare := ⟨rfl, rfl⟩
  have schema : shelfExecution.schema = shelves.schema "shelves" := rfl
  have stored : Named.get? [("shelves", shelves)] "shelves" = some shelves := rfl
  have filled : ([("books", .array [.string "Emma"])] : Fields) ≠ [] := by simp
  rcases Execution.create_returns_stored bare rfl schema (by decide) stored plain indexed filled
      (by decide) (by decide) (by decide) with
    ⟨id, row, returned, _, fields, apart, _, found⟩
  refine ⟨id, row, returned, ?_, ?_, apart, found⟩
  · rw [fields, if_neg (by decide)]
    decide +kernel
  · rw [fields, if_neg (by decide)]
    rfl

end TableApi
