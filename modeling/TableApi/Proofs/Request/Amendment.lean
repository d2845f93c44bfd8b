import Mathlib.Data.List.Forall2
import TableApi.Proofs.Request.Record

/-!
# The fields that an update touches

An update sets the posted fields, the id apart, in every row that matches the id.  `Amends` says
what that makes of a row, field by field, and `Amended` what it makes of a table, row by row, so
that whatever they do not name is as it was.

The id is taken out of the posted object by putting the last entry in its place.  The columns and
the values of the statement are both read off the object after that, so they agree entry by entry:
`assigns_toSql`.  No posted field is the id, so the rows that match are still those that match when
the record is read back: `Table.find?_update`.
-/

namespace TableApi

open TableApi.Action Memory

/-! ## Rows and tables -/

/-- A row after the posted fields have been set in it. -/
structure Amends (posted : Fields) (row after : Row) : Prop where
  /-- The posted values stand under their keys as they are bound, and the id and everything that was
  not posted is as it was. -/
  fields : ∀ key, Fields.get? after key =
    if key = "id" then Fields.get? row "id"
    else ((posted.get? key).map Json.bound).or (Fields.get? row key)
  /-- The fields of the row keep their places. -/
  places : row.keys <+: after.keys

/-- A table after the posted fields have been set in the rows that match an id, and in no others. -/
structure Amended (posted : Fields) (id : Int) (table left : Table) : Prop where
  columns : left.columns = table.columns
  rows : List.Forall₂
    (fun row after =>
      if matchesAt "id" (Json.ofInt id) row = true then Amends posted row after else after = row)
    table.rows left.rows

/-- A statement that sets columns in the rows with an id: each column has its own posted value, and
the id is the last of the values. -/
structure Assigns (name : String) (id : Int) (posted : Fields) (columns : List String)
    (sql : Sql) : Prop where
  text : sql.query = "UPDATE " ++ name ++ " SET " ++
    String.intercalate ", " (columns.map fun column => column ++ "=?") ++ " WHERE id=?"
  complete : columns.Perm (posted.keys.filter fun key => key ≠ "id")
  values : ∀ (index : Nat) (column : String), columns[index]? = some column →
    ∃ value, posted.get? column = some value ∧ sql.params[index]? = some value.bound
  last : sql.params.length = columns.length + 1 ∧
    sql.params[columns.length]? = some (Json.ofInt id)

/-- The rows that match an id are the same before and after fields other than the id are set. -/
theorem Memory.Table.find?_update {fields : Fields} (distinct : fields.keys.Nodup)
    (unnumbered : "id" ∉ fields.keys) (table : Table) (value : Json) :
    (table.update fields (matchesAt "id" value)).rows.find? (matchesAt "id" value) =
      (table.rows.find? (matchesAt "id" value)).map fun row => row.setAll fields := by
  have stable : (matchesAt "id" value ∘ fun row : Row =>
      if matchesAt "id" value row then row.setAll fields else row) = matchesAt "id" value := by
    funext row
    rw [Function.comp_apply]
    split
    · exact matchesAt_setAll distinct unnumbered value row
    · rfl
  rw [update, List.find?_map, stable]
  cases found : table.rows.find? (matchesAt "id" value) with
  | none => rfl
  | some row => simp [List.find?_some found]

namespace IsAmendment

variable {columns : List String} {posted : Fields} (amendment : IsAmendment columns posted)

include amendment

/-- The fields that are set: each once, and the id not among them. -/
theorem nodup_bound :
    "id" ∉ (Fields.remove posted "id").bound.keys ∧
      (Fields.remove posted "id").bound.keys.Nodup := by
  rw [Fields.keys_bound]
  exact Fields.nodup_keys_remove amendment.distinct "id"

theorem amends (row : Row) : Amends posted row (row.setAll (Fields.remove posted "id").bound) := by
  rcases amendment.nodup_bound with ⟨unnumbered, distinct⟩
  constructor
  · intro key
    by_cases same : key = "id"
    · rw [if_pos same, same]
      exact Fields.get?_setAll_of_not_mem distinct unnumbered row
    · rw [if_neg same, Fields.get?_setAll distinct, Fields.get?_bound,
        Fields.get?_remove amendment.distinct, if_neg same]
  · exact Fields.keys_prefix_setAll row _

theorem amended (table : Table) (id : Int) :
    Amended posted id table (table.update (Fields.remove posted "id").bound
      (matchesAt "id" (Json.ofInt id))) := by
  constructor
  · rfl
  · rw [Table.update, List.forall₂_map_right_iff, List.forall₂_same]
    intro row _
    split
    · exact amendment.amends row
    · rfl

/-- Columns and values are read off the same object, so that they agree in their order. -/
theorem assigns_toSql (name : String) (id : Int) :
    Assigns name id posted (Fields.remove posted "id").keys
      (Statement.update name (Fields.remove posted "id").bound id).toSql := by
  have once := (Fields.nodup_keys_remove amendment.distinct "id").2
  have long : (Fields.remove posted "id").bound.values.length =
      (Fields.remove posted "id").keys.length := by
    simp [Fields.values, Fields.keys, Fields.bound]
  rw [Statement.toSql_update, Fields.keys_bound]
  constructor
  · rfl
  · exact Fields.keys_remove_perm amendment.distinct "id"
  · intro index column place
    have inside := (List.getElem?_eq_some_iff.1 place).1
    rw [Fields.keys, List.getElem?_map, Option.map_eq_some_iff] at place
    rcases place with ⟨entry, held, rfl⟩
    have found := Fields.get?_of_mem once (List.mem_of_getElem? held)
    rw [Fields.get?_remove amendment.distinct] at found
    split at found
    · cases found
    · refine ⟨entry.2, found, ?_⟩
      rw [List.getElem?_append_left (by rw [long]; exact inside), Fields.values_bound,
        List.getElem?_map, Fields.values, List.getElem?_map, held]
      rfl
  · constructor
    · rw [List.length_append, long, List.length_singleton]
    · rw [← long]
      exact List.getElem?_concat_length

end IsAmendment

/-! ## Updates -/

namespace Execution

/--
An amendment of the rows with an id.  If a row matches the id, it is looked up,
one statement sets the posted fields, and the first of the matching rows is read
back and returned; nothing else is different in this table or in another one.
If no row matches, the answer is that the record was not found, and no statement
is sent that changes anything.
-/
theorem update_amends {setup : Setup} {execution : Execution Tables} {tables : Tables}
    {table : Table} {name : String} {id : Int} {posted : Fields} (bare : setup.Bare)
    (inMemory : execution.database = setup.database)
    (schema : execution.schema = table.schema name) (named : IsPlain name)
    (stored : Named.get? tables name = some table)
    (plain : ∀ column ∈ table.columns, IsPlain column)
    (numeric : execution.context.numericId = some id)
    (amendment : IsAmendment table.columns posted) :
    let outcome := (execution.posting .update (.object posted)).run tables
    (∀ first, table.rows.find? (matchesAt "id" (Json.ofInt id)) = some first →
      ∃ (columns : List String) (sql : Sql) (left : Table) (row : Row),
        outcome.events = [lookup name id, .database (.execute sql), lookup name id] ∧
        Assigns name id posted columns sql ∧
        outcome.state = Named.put tables name left ∧
        (∀ other ≠ name, Named.get? outcome.state other = Named.get? tables other) ∧
        Amended posted id table left ∧
        left.rows.find? (matchesAt "id" (Json.ofInt id)) = some row ∧
        Amends posted first row ∧
        outcome.result = .ok (.object row)) ∧
    (table.rows.find? (matchesAt "id" (Json.ofInt id)) = none →
      outcome.FailsWith 404 ∧ outcome.events = [lookup name id] ∧ outcome.state = tables) := by
  intro outcome
  rcases amendment.nodup_bound with ⟨unnumbered, distinct⟩
  have runs : outcome = (execution.posting .update (.object posted)).update tables := rfl
  constructor
  · intro first found
    have again := Table.find?_update distinct unnumbered table (Json.ofInt id)
    rw [found, Option.map_some] at again
    have ran : (execution.posting .update (.object posted)).update tables = _ :=
      update_of_some bare inMemory schema named stored numeric plain amendment rfl found
    rw [again] at ran
    rw [runs, ran]
    refine ⟨_, _, _, _, rfl, amendment.assigns_toSql name id, rfl, ?_, amendment.amended table id,
      again, amendment.amends first, rfl⟩
    intro other apart
    exact Named.get?_put_of_ne _ _ apart
  · intro missing
    have ran : (execution.posting .update (.object posted)).update tables = _ :=
      update_of_none bare inMemory schema named stored numeric amendment rfl missing
    rw [runs, ran]
    exact ⟨⟨_, rfl, rfl⟩, rfl, rfl⟩

end Execution

/-- A new title and a list of tags behind an id: the tags come first in the statement, and the id
stays as it is stored. -/
theorem Execution.update_amends_notes :
    ∃ (columns : List String) (sql : Sql) (left : Table) (row : Row),
      Assigns "notes" 7 [("id", .null), ("title", .string "pen"), ("tags", .array [.null])] columns
        sql ∧
      ((noteExecution.posting .update (.object [("id", .null), ("title", .string "pen"),
        ("tags", .array [.null])])).run [("notes", looseNotes)]).state =
          Named.put [("notes", looseNotes)] "notes" left ∧
      Amended [("id", .null), ("title", .string "pen"), ("tags", .array [.null])] 7 looseNotes
        left ∧
      Fields.get? row "id" = some (.string "007") ∧ Fields.get? row "tags" = some (.string "[null]") ∧
      ((noteExecution.posting .update (.object [("id", .null), ("title", .string "pen"),
        ("tags", .array [.null])])).run [("notes", looseNotes)]).result = .ok (.object row) := by
  have bare : Setup.plain.Bare := ⟨rfl, rfl⟩
  have plain : ∀ column ∈ looseNotes.columns, IsPlain column := by
    decide
  have amendment : IsAmendment looseNotes.columns
      [("id", .null), ("title", .string "pen"), ("tags", .array [.null])] := by
    refine ⟨by decide, ⟨"title", by decide, by decide⟩, by decide⟩
  have numeric : noteExecution.context.numericId = some 7 := by
    decide +kernel
  have found : looseNotes.rows.find? (matchesAt "id" (Json.ofInt 7)) =
      some [("id", .string "007"), ("title", .string "ink")] := by
    decide +kernel
  have stored : Named.get? [("notes", looseNotes)] "notes" = some looseNotes := rfl
  rcases (Execution.update_amends bare rfl rfl (by decide) stored plain numeric amendment).1 _
    found with
    ⟨columns, sql, left, row, _, assigns, state, _, amended, _, amends, returned⟩
  refine ⟨columns, sql, left, row, assigns, state, amended, ?_, ?_, returned⟩
  · rw [amends.fields]
    rfl
  · rw [amends.fields]
    decide +kernel

end TableApi
