import TableApi.Proofs.Request.Creation

/-!
# Requests to one record

Over a bare database in memory the endpoints for one record ask for the first row that matches the
id, and go on only if there is one.  Each lemma here says all that an endpoint does in one of these
two cases: what it returns, the calls in their order, and the tables that it leaves.  Nothing is
assumed of the ids that are stored, so that several rows may match.
-/

namespace TableApi

open TableApi.Action Memory

/-! ## Success and failure -/

namespace Outcome

variable {σ ε α : Type}

/-- Whether an action returned a value. -/
def Succeeds (outcome : Outcome σ ε α) : Prop :=
  ∃ value, outcome.result = .ok value

/-- Whether an action failed with an error of this status. -/
def FailsWith (outcome : Outcome σ ApiError α) (status : Nat) : Prop :=
  ∃ error, outcome.result = .error error ∧ error.kind.status = status

theorem succeeds_iff_of_failsWith {outcome : Outcome σ ApiError α} {status : Nat}
    (fails : outcome.FailsWith status) : outcome.Succeeds ↔ false = true := by
  rcases fails with ⟨error, failed, _⟩
  constructor
  · rintro ⟨value, returned⟩
    rw [failed] at returned
    cases returned
  · intro absurdity
    cases absurdity

end Outcome

/-! ## What may be posted -/

/-- What may be posted to change a record: every key once, one of them at least another than the id,
and these others columns of the table. -/
structure IsAmendment (columns : List String) (posted : Fields) : Prop where
  distinct : posted.keys.Nodup
  filled : ∃ key ∈ posted.keys, key ≠ "id"
  known : ∀ key ∈ posted.keys, key ≠ "id" → key ∈ columns

namespace IsAmendment

variable {columns : List String} {posted : Fields}

/-- Without the id there is still something to set. -/
theorem remove_ne_nil (amendment : IsAmendment columns posted) :
    Fields.remove posted "id" ≠ [] := by
  rcases amendment.filled with ⟨key, member, other⟩
  intro none
  have left := (Fields.keys_remove_perm amendment.distinct "id").mem_iff (a := key)
  rw [none] at left
  simp [member, other] at left

theorem known_of_remove (amendment : IsAmendment columns posted) :
    ∀ key ∈ (Fields.remove posted "id").keys, key ∈ columns := by
  intro key member
  rw [(Fields.keys_remove_perm amendment.distinct "id").mem_iff, List.mem_filter] at member
  exact amendment.known key member.1 (by simpa using member.2)

theorem ne_nil (amendment : IsAmendment columns posted) : posted ≠ [] := by
  rcases amendment.filled with ⟨key, member, _⟩
  rintro rfl
  cases member

end IsAmendment

namespace Execution

/-- The call that looks a row up by its id. -/
def lookup (name : String) (id : Int) : Event :=
  .database (.fetchAll (Statement.find name "id" (Json.ofInt id)).toSql)

/-- The call that sends a statement which changes rows. -/
def sending (statement : Statement) : Event :=
  .database (.execute statement.toSql)

section OverMemory

variable {setup : Setup} {execution : Execution Tables} {tables : Tables} {table : Table}
  {name : String} {id : Int} {row : Row} {posted : Fields} (bare : setup.Bare)
  (inMemory : execution.database = setup.database)
  (schema : execution.schema = table.schema name) (named : IsPlain name)
  (stored : Named.get? tables name = some table)
  (numeric : execution.context.numericId = some id)

include bare inMemory schema named stored numeric

/-! ## Looking a record up -/

theorem findOne_of_some
    (found : table.rows.find? (matchesAt "id" (Json.ofInt id)) = some row) :
    execution.findOne tables = ⟨.ok (.object row), [lookup name id], tables⟩ := by
  have asked := fetchById_eq bare inMemory schema named stored id
  rw [found] at asked
  simp only [findOne, numeric]
  rw [bind_of_ok (by rw [asked]), asked]
  rfl

theorem findOne_of_none (missing : table.rows.find? (matchesAt "id" (Json.ofInt id)) = none) :
    execution.findOne tables =
      ⟨.error (.notFound (execution.noRecord id)), [lookup name id], tables⟩ := by
  have asked := fetchById_eq bare inMemory schema named stored id
  rw [missing] at asked
  simp only [findOne, numeric]
  rw [bind_of_ok (by rw [asked]), asked]
  rfl

/-- To ask whether a record is there is the same look-up, and succeeds in either case. -/
theorem existence_eq :
    execution.existence tables =
      ⟨.ok (.bool (table.rows.find? (matchesAt "id" (Json.ofInt id))).isSome), [lookup name id],
        tables⟩ := by
  have asked := fetchById_eq bare inMemory schema named stored id
  simp only [existence, numeric]
  rw [bind_of_ok (by rw [attempt_apply, asked]), attempt_apply, asked]
  rfl

/-! ## Removing a record -/

theorem deleteOne_of_some
    (found : table.rows.find? (matchesAt "id" (Json.ofInt id)) = some row) :
    execution.deleteOne tables =
      ⟨.ok (.bool true), [lookup name id, sending (.delete name id)],
        Named.put tables name (table.remove (matchesAt "id" (Json.ofInt id)))⟩ := by
  have asked := fetchById_eq bare inMemory schema named stored id
  rw [found] at asked
  have deletes : execution.schema.deleteById id = .delete name id := by
    rw [schema]
    rfl
  have carried := change_eq bare inMemory (change_delete named stored id)
  simp only [deleteOne, numeric, deletes]
  rw [bind_of_ok (by rw [asked]), asked]
  dsimp only
  rw [bind_of_ok (by rw [carried]), carried]
  rfl

theorem deleteOne_of_none (missing : table.rows.find? (matchesAt "id" (Json.ofInt id)) = none) :
    execution.deleteOne tables =
      ⟨.error (.unprocessable (execution.noRecord id)), [lookup name id], tables⟩ := by
  have asked := fetchById_eq bare inMemory schema named stored id
  rw [missing] at asked
  simp only [deleteOne, numeric]
  rw [bind_of_ok (by rw [asked]), asked]
  rfl

/-! ## Changing a record -/

omit bare inMemory named stored in
/-- An amendment passes every check, and only then is the record looked up. -/
theorem update_eq (amendment : IsAmendment table.columns posted)
    (given : execution.input.params = .object posted) :
    execution.update = (do
      match ← execution.fetchById id with
      | none => fail (.notFound (execution.noRecord id))
      | some _ =>
          let _ ← execution.change (.update name (Fields.remove posted "id").bound id)
          let row ← execution.fetchById id
          return rowOrNull row : Action Tables ApiError Json) := by
  have accepted : execution.record = .ok posted := by
    rw [record, given]
    cases posted with
    | nil => exact absurd rfl amendment.ne_nil
    | cons entry entries => rfl
  have made : execution.schema.updateById id (Fields.remove posted "id") =
      .ok (.update name (Fields.remove posted "id").bound id) := by
    rw [schema, Schema.updateById, Schema.requireColumns_of_known amendment.known_of_remove]
    rfl
  have filled : (Fields.remove posted "id").isEmpty = false := by
    simpa using amendment.remove_ne_nil
  have read : (ofExcept (.ok posted) : Action Tables ApiError Fields) = pure posted := rfl
  have built : ∀ statement, (build (.ok statement) : Action Tables ApiError Statement) =
      pure statement := fun _ => rfl
  simp only [update, numeric, accepted, read, pure_bind, filled, made, built]
  rfl

variable (plain : ∀ column ∈ table.columns, IsPlain column)
  (amendment : IsAmendment table.columns posted)
  (given : execution.input.params = .object posted)

include plain amendment given

/-- The record is read back from the table that the change leaves. -/
theorem update_of_some
    (found : table.rows.find? (matchesAt "id" (Json.ofInt id)) = some row) :
    execution.update tables =
      ⟨.ok (rowOrNull ((table.update (Fields.remove posted "id").bound
            (matchesAt "id" (Json.ofInt id))).rows.find? (matchesAt "id" (Json.ofInt id)))),
        [lookup name id, sending (.update name (Fields.remove posted "id").bound id),
          lookup name id],
        Named.put tables name (table.update (Fields.remove posted "id").bound
          (matchesAt "id" (Json.ofInt id)))⟩ := by
  have asked := fetchById_eq bare inMemory schema named stored id
  rw [found] at asked
  have columns : ∀ column ∈ (Fields.remove posted "id").bound.keys, IsPlain column := by
    intro column member
    rw [Fields.keys_bound] at member
    exact plain column (amendment.known_of_remove column member)
  have changed := change_update named stored (Fields.remove posted "id").bound
    (by simpa [Fields.bound] using amendment.remove_ne_nil) columns id
  have carried := change_eq bare inMemory changed
  have again := fetchById_eq bare inMemory schema named (Named.get?_put_self tables name
    (table.update (Fields.remove posted "id").bound (matchesAt "id" (Json.ofInt id)))) id
  rw [update_eq schema numeric amendment given, bind_of_ok (by rw [asked]), asked]
  dsimp only
  rw [bind_of_ok (by rw [carried]), carried]
  dsimp only
  rw [bind_of_ok (by rw [again]), again]
  rfl

omit plain in
theorem update_of_none (missing : table.rows.find? (matchesAt "id" (Json.ofInt id)) = none) :
    execution.update tables =
      ⟨.error (.notFound (execution.noRecord id)), [lookup name id], tables⟩ := by
  have asked := fetchById_eq bare inMemory schema named stored id
  rw [missing] at asked
  rw [update_eq schema numeric amendment given, bind_of_ok (by rw [asked]), asked]
  rfl

end OverMemory

end Execution

/-! ## An example -/

/-- Notes of which the first and the last match the id `7`. -/
def looseNotes : Table :=
  ⟨["id", "title", "tags"],
    [[("id", .string "007"), ("title", .string "ink")],
      [("id", Json.ofInt 8), ("title", .string "quill")],
      [("id", Json.ofInt 7), ("tags", .null)]]⟩

/-- Requests for the note with the id `7`. -/
def noteExecution : Execution Tables where
  database := Setup.plain.database
  schema := looseNotes.schema "notes"
  descriptor := ⟨.put, none, none, none, none, false⟩
  context := ⟨.put, "notes", .update, some "7", ["notes", "7"], none, "", [], false⟩
  input := ⟨none, "notes", "Update", .null, ""⟩

end TableApi
