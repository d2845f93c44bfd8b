import TableApi.Proofs.Request.ApiError
import TableApi.Proofs.Table.Query
import TableApi.Request.Execution

/-!
# What endpoints send

An endpoint sends queries and changes of the grammar of its table and nothing else, whatever the
hooks made of its input.  Each endpoint is a sequence of a few parts, so the proof for an endpoint
follows the sequence and cites the renderer that made each statement.

Two checks matter here besides the columns: a posted record is never empty, and neither is a list
of posted records.
-/

namespace TableApi

open Grammar

/-- A log entry, or a statement of the grammar. -/
def Grammar.Admissible (table : String) (columns : List String) : Event → Prop
  | .log _ => True
  | .database (.fetchAll sql) => Fits (Query table columns) columns sql
  | .database (.execute sql) => Fits (Change table columns) columns sql
  | _ => False

theorem Grammar.Admissible.statement {table : String} {columns : List String} {event : Event}
    (admissible : Admissible table columns event) (reaches : event.isEffect = true) :
    ∃ sql, event = .database (.fetchAll sql) ∨ event = .database (.execute sql) := by
  cases event with
  | log entry => cases reaches
  | lookup token queries => exact admissible.elim
  | hook name payload => exact admissible.elim
  | database call =>
    cases call with
    | fetchAll sql => exact ⟨sql, Or.inl rfl⟩
    | execute sql => exact ⟨sql, Or.inr rfl⟩
    | listTables => exact admissible.elim
    | describeTable table => exact admissible.elim
    | ping => exact admissible.elim

/-- Every event of an action is a log entry or a statement of the grammar for a schema. -/
def Grammar.Speaks {σ ε α : Type} (schema : Schema) (action : Action σ ε α) : Prop :=
  Action.Emits (Admissible schema.name schema.columns) action

section Logging

variable {σ α : Type} {schema : Schema}

theorem speaks_log {ε : Type} (entry : LogEntry) :
    Speaks schema (Action.log entry : Action σ ε Unit) :=
  Action.obeys_emit fun _ => by
    simp [Action.Law.everyEvent, Admissible]

theorem speaks_emit_map_log {ε : Type} (entries : List LogEntry) :
    Speaks schema (Action.emit (entries.map Event.log) : Action σ ε Unit) :=
  Action.obeys_emit fun _ => by
    simp [Action.Law.everyEvent, Admissible]

theorem speaks_of_declines {ε : Type} {action : Action σ ε α} (declines : action.Declines) :
    Speaks schema action :=
  declines.obeys fun _ _ => by
    simp [Action.Law.everyEvent, Admissible]

end Logging

namespace Execution

variable {σ : Type} {execution : Execution σ}

/-! ## Posted records -/

theorem record_ne_nil {record : Fields} (posted : execution.record = .ok record) :
    record ≠ [] := by
  unfold Execution.record at posted
  split at posted
  · cases posted
    simp
  · cases posted
  · cases posted
  · cases posted

/-- Every posted object is a record that is not empty. -/
theorem of_objectsFrom {index : Nat} {items : List Json} {records : List Fields}
    (read : objectsFrom index items = .ok records) :
    (∀ record ∈ records, record ≠ []) ∧ records.length = items.length := by
  induction items generalizing index records with
  | nil =>
    cases read
    simp
  | cons item items step =>
    unfold objectsFrom at read
    split at read
    · rename_i empty
      cases empty
    · rename_i entry entries others same
      cases same
      cases rest : objectsFrom (index + 1) items with
      | error error => simp [rest, Except.map] at read
      | ok later =>
        have made : (entry :: entries) :: later = records := by
          simpa [rest, Except.map] using read
        subst made
        rcases step rest with ⟨filled, length⟩
        constructor
        · intro record member
          rcases List.mem_cons.1 member with rfl | member
          · simp
          · exact filled record member
        · simp [length]
    · cases read

/-- There is a first posted record, and it is not empty. -/
theorem records_eq_cons {params : Json} {posted : List Fields}
    (read : records params = .ok posted) :
    ∃ first others, posted = first :: others ∧ first ≠ [] := by
  unfold records at read
  split at read
  · cases read
  · rename_i items filled
    obtain ⟨found, objects, rest⟩ := Result.ok_of_bind_ok read
    rcases of_objectsFrom objects with ⟨each, length⟩
    cases found with
    | nil =>
      have empty : items = [] := by simpa using length.symm
      exact absurd empty (by simpa using filled)
    | cons first others =>
      obtain ⟨_, _, returned⟩ := Result.ok_of_bind_ok rest
      exact ⟨first, others, (Except.ok.inj returned).symm, each first List.mem_cons_self⟩
  · cases read

/-! ## The parts of an endpoint -/

/-- What is left of the removal of filtered rows once the filters have been read. -/
def removal (execution : Execution σ) (filters : FilterSet) : Action σ ApiError Json := do
  let statement ← build (execution.schema.selectIds filters)
  let rows ← execution.fetch statement
  if rows.isEmpty then
    return .ofNat 0
  else
    let receipt ← execution.change (execution.schema.deleteByIds (idsOf rows))
    return .ofNat receipt.affected

theorem destroy_eq (execution : Execution σ) :
    execution.destroy = (do
      let filters ← execution.filters
      if filters.conditions.isEmpty then
        Action.log (.plain .warn
          ("Destroy on " ++ execution.schema.name ++ " without conditions removes every row"))
        execution.removal filters
      else
        execution.removal filters) := rfl

theorem fetch_speaks {statement : Statement}
    (fits : Fits (Query execution.schema.name execution.schema.columns)
      execution.schema.columns statement.toSql) :
    Speaks execution.schema (execution.fetch statement) := by
  refine Action.Obeys.rescue ?_ fun error => speaks_of_declines error.raise_declines
  intro state event member
  rcases List.mem_cons.1 member with rfl | logged
  · exact fits
  · rcases List.mem_map.1 logged with ⟨entry, _, rfl⟩
    trivial

/-- A question that the database answers without a word in the log is one call. -/
theorem fetch_of_answer {statement : Statement} {rows : List Row} {state : σ}
    (answered : execution.database.fetchAll statement.toSql state = .quiet (.ok rows) state) :
    execution.fetch statement state =
      ⟨.ok rows, [.database (.fetchAll statement.toSql)], state⟩ := by
  have asked : execution.database.rows statement.toSql state =
      ⟨.ok rows, [.database (.fetchAll statement.toSql)], state⟩ := by
    simp only [Database.rows, Action.call_apply, answered]
    rfl
  have success : (execution.database.rows statement.toSql state).result = .ok rows := by
    rw [asked]
  rw [fetch, Action.rescue_of_ok success, asked]

theorem change_speaks {statement : Statement}
    (fits : Fits (Change execution.schema.name execution.schema.columns)
      execution.schema.columns statement.toSql) :
    Speaks execution.schema (execution.change statement) := by
  refine Action.Obeys.rescue ?_ fun error => speaks_of_declines error.raise_declines
  intro state event member
  rcases List.mem_cons.1 member with rfl | logged
  · exact fits
  · rcases List.mem_map.1 logged with ⟨entry, _, rfl⟩
    trivial

theorem build_speaks (built : Except SchemaError Statement) :
    Speaks execution.schema (build built : Action σ ApiError Statement) := by
  cases built with
  | ok statement => exact Action.obeys_pure statement
  | error error => exact speaks_of_declines error.raise_declines

/-- What `build` returns is the statement that was made. -/
theorem of_build {built : Except SchemaError Statement} {statement : Statement}
    (returned : ∃ state : σ, (build built state).result = .ok statement) :
    built = .ok statement := by
  rcases returned with ⟨state, returned⟩
  cases built with
  | ok made => simpa [build] using returned
  | error error =>
    cases error <;> simp [build, SchemaError.raise, DatabaseError.raise, Action.bind_of_ok]
      at returned

theorem filters_speaks : Speaks execution.schema execution.filters := by
  unfold filters
  split
  · split
    · exact (speaks_emit_map_log _).bind fun _ _ => Action.obeys_pure _
    · exact Action.obeys_ofExcept _
  · exact Action.obeys_pure _

/-! ## The endpoints -/

section Endpoints

variable (plain : placeholderCount execution.schema.name = 0)

include plain

theorem fetchById_speaks (id : Int) : Speaks execution.schema (execution.fetchById id) :=
  (fetch_speaks (Schema.fits_selectById plain id)).bind fun _ _ => Action.obeys_pure _

theorem rows_speaks : Speaks execution.schema execution.rows := by
  refine filters_speaks.bind fun filters _ => ?_
  refine (build_speaks _).bind fun statement made => ?_
  refine (fetch_speaks (Schema.fits_select plain (of_build made))).bind fun rows _ => ?_
  exact Action.obeys_pure _

theorem count_speaks : Speaks execution.schema execution.count := by
  refine filters_speaks.bind fun filters _ => ?_
  refine (build_speaks _).bind fun statement made => ?_
  refine (fetch_speaks (Schema.fits_count plain (of_build made))).bind fun rows _ => ?_
  exact Action.obeys_pure _

theorem findOne_speaks : Speaks execution.schema execution.findOne := by
  unfold findOne
  split
  · exact Action.obeys_fail _
  · refine (fetchById_speaks plain _).bind fun row _ => ?_
    split
    · exact Action.obeys_pure _
    · exact Action.obeys_fail _

theorem existence_speaks : Speaks execution.schema execution.existence := by
  unfold existence
  split
  · exact Action.obeys_pure _
  · refine (fetchById_speaks plain _).attempt.bind fun row _ => ?_
    split
    · exact Action.obeys_pure _
    · exact (speaks_log _).bind fun _ _ => Action.obeys_pure _

theorem create_speaks : Speaks execution.schema execution.create := by
  refine (Action.obeys_ofExcept _).bind fun record posted => ?_
  rcases posted with ⟨_, posted⟩
  refine (build_speaks _).bind fun statement made => ?_
  have fits := Schema.fits_insert plain (record_ne_nil posted) (of_build made)
  refine (change_speaks fits).bind fun receipt _ => ?_
  split
  · exact (fetchById_speaks plain _).bind fun row _ => Action.obeys_pure _
  · exact Action.obeys_fail _

theorem insertBatch_speaks : Speaks execution.schema execution.insertBatch := by
  refine (Action.obeys_ofExcept _).bind fun posted read => ?_
  rcases read with ⟨_, read⟩
  rcases records_eq_cons read with ⟨first, others, rfl, filled⟩
  refine (build_speaks _).bind fun statement made => ?_
  have fits := Schema.fits_insertBatch plain filled (of_build made)
  exact (change_speaks fits).bind fun receipt _ => Action.obeys_pure _

theorem update_speaks : Speaks execution.schema execution.update := by
  unfold update
  split
  · exact Action.obeys_fail _
  · refine (Action.obeys_ofExcept _).bind fun posted _ => ?_
    dsimp only
    split
    · exact Action.obeys_fail _
    · rename_i filled
      refine (build_speaks _).bind fun statement made => ?_
      have fits := Schema.fits_updateById plain (by simpa using filled) (of_build made)
      refine (fetchById_speaks plain _).bind fun found _ => ?_
      split
      · exact Action.obeys_fail _
      · refine (change_speaks fits).bind fun receipt _ => ?_
        exact (fetchById_speaks plain _).bind fun row _ => Action.obeys_pure _

theorem removal_speaks (filters : FilterSet) :
    Speaks execution.schema (execution.removal filters) := by
  refine (build_speaks _).bind fun statement made => ?_
  refine (fetch_speaks (Schema.fits_selectIds plain (of_build made))).bind fun rows _ => ?_
  split
  · exact Action.obeys_pure _
  · rename_i found
    have ids : idsOf rows ≠ [] := by simpa [idsOf] using found
    refine (change_speaks (Schema.fits_deleteByIds plain ids)).bind fun receipt _ => ?_
    exact Action.obeys_pure _

theorem destroy_speaks : Speaks execution.schema execution.destroy := by
  rw [destroy_eq]
  refine filters_speaks.bind fun filters _ => ?_
  split
  · exact (speaks_log _).bind fun _ _ => removal_speaks plain filters
  · exact removal_speaks plain filters

theorem deleteOne_speaks : Speaks execution.schema execution.deleteOne := by
  unfold deleteOne
  split
  · exact Action.obeys_fail _
  · refine (fetchById_speaks plain _).bind fun found _ => ?_
    split
    · exact Action.obeys_fail _
    · refine (change_speaks (Schema.fits_deleteById plain _)).bind fun receipt _ => ?_
      exact Action.obeys_pure _

/-- Whatever its input, an endpoint sends statements of the grammar only. -/
theorem run_speaks : Speaks execution.schema execution.run := by
  unfold run
  split
  · exact rows_speaks plain
  · exact rows_speaks plain
  · exact count_speaks plain
  · exact count_speaks plain
  · exact findOne_speaks plain
  · exact existence_speaks plain
  · exact create_speaks plain
  · exact insertBatch_speaks plain
  · exact update_speaks plain
  · exact destroy_speaks plain
  · exact deleteOne_speaks plain

end Endpoints

end Execution

end TableApi
