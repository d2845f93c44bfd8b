import TableApi.Proofs.Request.Record

/-!
# Which records there are

The endpoints for one record read the same segment of the path and look the same row up, so each
of them tells whether the record is there: `AgreeOn` puts what they say side by side.  They differ
in how they say that there is none, and `Misses` lists that for an id that is a number.

A removal takes every row that the look-up matches, and so the first of the two becomes the second:
after it nothing matches, `find?_remove`.
-/

namespace TableApi

open TableApi.Action Memory

namespace Execution

/-- The endpoints for one record agree on whether it is there, whatever else is posted. -/
structure AgreeOn (execution : Execution Tables) (columns : List String) (tables : Tables)
    (found : Bool) : Prop where
  existence : ∀ params,
    ((execution.posting .exists params).run tables).result = .ok (.bool found) ∧
      ((execution.posting .exists params).run tables).state = tables
  findOne : ∀ params, ((execution.posting .findOne params).run tables).Succeeds ↔ found = true
  deleteOne : ∀ params, ((execution.posting .deleteOne params).run tables).Succeeds ↔ found = true
  update : ∀ posted, IsAmendment columns posted →
    (((execution.posting .update (.object posted)).run tables).Succeeds ↔ found = true)

/-- How each endpoint says that there is no record with the number that the id spells. -/
structure Misses (execution : Execution Tables) (columns : List String) (tables : Tables) :
    Prop where
  existence : ∀ params,
    ((execution.posting .exists params).run tables).result = .ok (.bool false)
  findOne : ∀ params, ((execution.posting .findOne params).run tables).FailsWith 404
  deleteOne : ∀ params, ((execution.posting .deleteOne params).run tables).FailsWith 422
  update : ∀ posted, IsAmendment columns posted →
    ((execution.posting .update (.object posted)).run tables).FailsWith 404

variable {setup : Setup} {execution : Execution Tables} {tables : Tables} {table : Table}
  {name : String} {columns : List String} {id : Int}

/-- Without a number nothing is looked up, and there is no record. -/
theorem agreeOn_of_unnumbered (unnumbered : execution.context.numericId = none)
    (columns : List String) (tables : Tables) : AgreeOn execution columns tables false := by
  have absent : ∀ endpoint params,
      (execution.posting endpoint params).context.numericId = none := fun _ _ => unnumbered
  constructor
  · intro params
    show ((execution.posting .exists params).existence tables).result = _ ∧
      ((execution.posting .exists params).existence tables).state = _
    rw [Execution.existence, absent]
    exact ⟨rfl, rfl⟩
  · intro params
    apply Outcome.succeeds_iff_of_failsWith
    show ((execution.posting .findOne params).findOne tables).FailsWith 404
    rw [Execution.findOne, absent]
    exact ⟨_, rfl, rfl⟩
  · intro params
    apply Outcome.succeeds_iff_of_failsWith
    show ((execution.posting .deleteOne params).deleteOne tables).FailsWith 400
    rw [Execution.deleteOne, absent]
    exact ⟨_, rfl, rfl⟩
  · intro posted _
    apply Outcome.succeeds_iff_of_failsWith
    show ((execution.posting .update (.object posted)).update tables).FailsWith 400
    rw [Execution.update, absent]
    exact ⟨_, rfl, rfl⟩

section OverMemory

variable (bare : setup.Bare) (inMemory : execution.database = setup.database)
  (schema : execution.schema = table.schema name) (named : IsPlain name)
  (stored : Named.get? tables name = some table)
  (numeric : execution.context.numericId = some id)

include bare inMemory schema named stored numeric

/-- Where no row matches the number, every endpoint misses the record. -/
theorem misses_of_none (missing : table.rows.find? (matchesAt "id" (Json.ofInt id)) = none) :
    Misses execution table.columns tables := by
  constructor
  · intro params
    have ran : (execution.posting .exists params).existence tables = _ :=
      existence_eq bare inMemory schema named stored numeric
    rw [missing] at ran
    exact congrArg Outcome.result ran
  · intro params
    have ran : (execution.posting .findOne params).findOne tables = _ :=
      findOne_of_none bare inMemory schema named stored numeric missing
    exact ⟨_, congrArg Outcome.result ran, rfl⟩
  · intro params
    have ran : (execution.posting .deleteOne params).deleteOne tables = _ :=
      deleteOne_of_none bare inMemory schema named stored numeric missing
    exact ⟨_, congrArg Outcome.result ran, rfl⟩
  · intro posted amendment
    have ran : (execution.posting .update (.object posted)).update tables = _ :=
      update_of_none bare inMemory schema named stored numeric amendment rfl missing
    exact ⟨_, congrArg Outcome.result ran, rfl⟩

/-- Where a row matches the number, every endpoint finds the record. -/
theorem agreeOn_of_some {row : Row} (plain : ∀ column ∈ table.columns, IsPlain column)
    (found : table.rows.find? (matchesAt "id" (Json.ofInt id)) = some row) :
    AgreeOn execution table.columns tables true := by
  constructor
  · intro params
    have ran : (execution.posting .exists params).existence tables = _ :=
      existence_eq bare inMemory schema named stored numeric
    rw [found] at ran
    exact ⟨congrArg Outcome.result ran, congrArg Outcome.state ran⟩
  · intro params
    have ran : (execution.posting .findOne params).findOne tables = _ :=
      findOne_of_some bare inMemory schema named stored numeric found
    exact ⟨fun _ => rfl, fun _ => ⟨_, congrArg Outcome.result ran⟩⟩
  · intro params
    have ran : (execution.posting .deleteOne params).deleteOne tables = _ :=
      deleteOne_of_some bare inMemory schema named stored numeric found
    exact ⟨fun _ => rfl, fun _ => ⟨_, congrArg Outcome.result ran⟩⟩
  · intro posted amendment
    have ran : (execution.posting .update (.object posted)).update tables = _ :=
      update_of_some bare inMemory schema named stored numeric plain amendment rfl found
    exact ⟨fun _ => rfl, fun _ => ⟨_, congrArg Outcome.result ran⟩⟩

/-- The endpoints agree on the record, whether it is there or not. -/
theorem agreeOn_of_numeric (plain : ∀ column ∈ table.columns, IsPlain column) :
    AgreeOn execution table.columns tables
      (table.rows.find? (matchesAt "id" (Json.ofInt id))).isSome := by
  cases found : table.rows.find? (matchesAt "id" (Json.ofInt id)) with
  | some row => exact agreeOn_of_some bare inMemory schema named stored numeric plain found
  | none =>
    have misses := misses_of_none bare inMemory schema named stored numeric found
    constructor
    · intro params
      have ran : (execution.posting .exists params).existence tables = _ :=
        existence_eq bare inMemory schema named stored numeric
      exact ⟨misses.existence params, congrArg Outcome.state ran⟩
    · intro params
      exact Outcome.succeeds_iff_of_failsWith (misses.findOne params)
    · intro params
      exact Outcome.succeeds_iff_of_failsWith (misses.deleteOne params)
    · intro posted amendment
      exact Outcome.succeeds_iff_of_failsWith (misses.update posted amendment)

end OverMemory

/-- No row that matches is left by the removal of all that match. -/
theorem find?_remove (table : Table) (chosen : Row → Bool) :
    (table.remove chosen).rows.find? chosen = none := by
  rw [List.find?_eq_none]
  intro row member
  simpa [Table.remove] using (List.mem_filter.1 member).2

/--
Whatever the id of a request spells, its endpoints for one record agree on
whether the record is there, and the one that only asks never fails and changes
nothing.  Once a removal has succeeded none of them finds the record any more,
and of the table all rows are left that did not match the id, as they were and
in their order.
-/
theorem presence_agrees (bare : setup.Bare) (inMemory : execution.database = setup.database)
    (schema : execution.schema = table.schema name) (named : IsPlain name)
    (stored : Named.get? tables name = some table)
    (plain : ∀ column ∈ table.columns, IsPlain column) :
    ∃ found, AgreeOn execution table.columns tables found ∧
      ∀ params, let removal := (execution.posting .deleteOne params).run tables
        removal.Succeeds →
          Misses execution table.columns removal.state ∧
          ∃ id, execution.context.numericId = some id ∧
            removal.state = Named.put tables name ⟨table.columns,
              table.rows.filter fun row => !matchesAt "id" (Json.ofInt id) row⟩ ∧
            ∀ other ≠ name, Named.get? removal.state other = Named.get? tables other := by
  cases numeric : execution.context.numericId with
  | none =>
    have agree := agreeOn_of_unnumbered numeric table.columns tables
    refine ⟨false, agree, ?_⟩
    intro params removal succeeded
    cases (agree.deleteOne params).1 succeeded
  | some id =>
    have agree := agreeOn_of_numeric bare inMemory schema named stored numeric plain
    refine ⟨_, agree, ?_⟩
    intro params removal succeeded
    obtain ⟨row, found⟩ := Option.isSome_iff_exists.1 ((agree.deleteOne params).1 succeeded)
    have left : removal.state =
        Named.put tables name (table.remove (matchesAt "id" (Json.ofInt id))) := by
      have ran : (execution.posting .deleteOne params).deleteOne tables = _ :=
        deleteOne_of_some bare inMemory schema named stored numeric found
      exact congrArg Outcome.state ran
    rw [left]
    refine ⟨?_, id, rfl, rfl, ?_⟩
    · have removed := Named.get?_put_self tables name
        (table.remove (matchesAt "id" (Json.ofInt id)))
      have about : execution.schema =
          (table.remove (matchesAt "id" (Json.ofInt id))).schema name := schema
      have misses : Misses execution (table.remove (matchesAt "id" (Json.ofInt id))).columns _ :=
        misses_of_none bare inMemory about named removed numeric (find?_remove table _)
      exact misses
    · intro other apart
      exact Named.get?_put_of_ne _ _ apart

/-- Two notes match the id `7`: they are found, and both are gone when the record is removed. -/
theorem presence_agrees_notes :
    AgreeOn noteExecution looseNotes.columns [("notes", looseNotes)] true ∧
      Misses noteExecution looseNotes.columns
        [("notes", ⟨looseNotes.columns, [[("id", Json.ofInt 8), ("title", .string "quill")]]⟩)] := by
  have bare : Setup.plain.Bare := ⟨rfl, rfl⟩
  have plain : ∀ column ∈ looseNotes.columns, IsPlain column := by
    decide
  have asked : ((noteExecution.posting .exists .null).run [("notes", looseNotes)]).result =
      .ok (.bool true) := Result.ok_of_toOption (by decide +kernel)
  have left : Named.put [("notes", looseNotes)] "notes" ⟨looseNotes.columns,
      looseNotes.rows.filter fun row => !matchesAt "id" (Json.ofInt 7) row⟩ =
        [("notes", ⟨looseNotes.columns, [[("id", Json.ofInt 8), ("title", .string "quill")]]⟩)] := by
    decide +kernel
  have named : IsPlain "notes" := by
    decide
  have stored : Named.get? [("notes", looseNotes)] "notes" = some looseNotes := rfl
  rcases presence_agrees bare rfl (rfl : noteExecution.schema = _) named stored plain with
    ⟨found, agree, removal⟩
  have same : found = true := by
    have both := (agree.existence .null).1.symm.trans asked
    cases both
    rfl
  subst same
  rcases removal .null ((agree.deleteOne .null).2 rfl) with ⟨misses, id, numeric, state, _⟩
  have given : noteExecution.context.numericId = some 7 := by
    decide +kernel
  obtain rfl : id = 7 := Option.some.inj (numeric.symm.trans given)
  rw [state, left] at misses
  exact ⟨agree, misses⟩

end Execution

end TableApi
