import TableApi.Proofs.Request.Execution

/-!
# The change of an endpoint

An endpoint checks everything first, then sends at most one change, and then only reads.  The shape
is stated once, as `Execution.Writes`: an action that reads, an action that sends a checked change
and reads afterwards, or an action that reads and goes on with one of these.  Every endpoint has
this shape, and a run of any action of this shape takes one of the three courses of
`Execution.Course`.
-/

namespace TableApi

open TableApi.Action

/-! ## What only reads -/

namespace Execution

variable {σ : Type} {execution : Execution σ} {state : σ}

theorem build_reads (built : Except SchemaError Statement) :
    (build built : Action σ ApiError Statement).Reads := by
  cases built with
  | ok statement => exact obeys_pure statement
  | error error => exact reads_of_declines error.raise_declines

theorem filters_reads : execution.filters.Reads := by
  unfold filters
  split
  · split
    · exact (reads_emit_map_log _).bind fun _ _ => obeys_pure _
    · exact obeys_ofExcept _
  · exact obeys_pure _

section Reading

variable (steady : execution.database.Steady)

include steady

theorem fetch_reads (statement : Statement) : (execution.fetch statement).Reads :=
  Obeys.rescue (steady.rows _) fun error => reads_of_declines error.raise_declines

theorem fetchById_reads (id : Int) : (execution.fetchById id).Reads :=
  (fetch_reads steady _).bind fun _ _ => obeys_pure _

theorem rows_reads : execution.rows.Reads :=
  filters_reads.bind fun _ _ => (build_reads _).bind fun _ _ =>
    (fetch_reads steady _).bind fun _ _ => obeys_pure _

theorem count_reads : execution.count.Reads :=
  filters_reads.bind fun _ _ => (build_reads _).bind fun _ _ =>
    (fetch_reads steady _).bind fun _ _ => obeys_pure _

theorem findOne_reads : execution.findOne.Reads := by
  unfold findOne
  split
  · exact obeys_fail _
  · refine (fetchById_reads steady _).bind fun row _ => ?_
    split
    · exact obeys_pure _
    · exact obeys_fail _

theorem existence_reads : execution.existence.Reads := by
  unfold existence
  split
  · exact obeys_pure _
  · refine (fetchById_reads steady _).attempt.bind fun row _ => ?_
    split
    · exact obeys_pure _
    · exact (reads_log _).bind fun _ _ => obeys_pure _

end Reading

/-! ## Checked changes -/

/--
A change with everything that was checked for it, and the queries that were
asked to check it.
-/
inductive Checked (execution : Execution σ) (state : σ) : List Event → Statement → Prop
  | create {record : Fields} (endpoint : execution.context.endpoint = .create)
      (posted : execution.record = .ok record)
      (known : ∀ name ∈ record.keys, name ∈ execution.schema.columns) :
      Checked execution state []
        (.insert execution.schema.name record.keys [record.values.map Json.bound])
  | insertBatch {first : Fields} {others : List Fields}
      (endpoint : execution.context.endpoint = .insertBatch)
      (posted : records execution.input.params = .ok (first :: others))
      (known : ∀ name ∈ first.keys, name ∈ execution.schema.columns) :
      Checked execution state []
        (.insert execution.schema.name first.keys
          ((first :: others).map (Schema.rowOf first.keys)))
  | update {id : Int} {posted : Fields} {row : Row} {rows : List Row}
      (endpoint : execution.context.endpoint = .update)
      (numeric : execution.context.numericId = some id)
      (record : execution.record = .ok posted) (filled : Fields.remove posted "id" ≠ [])
      (known : ∀ name ∈ (Fields.remove posted "id").keys, name ∈ execution.schema.columns)
      (found : (execution.database.fetchAll (execution.schema.selectById id).toSql state).result =
        .ok (row :: rows)) :
      Checked execution state [.database (.fetchAll (execution.schema.selectById id).toSql)]
        (.update execution.schema.name
          ((Fields.remove posted "id").map fun (column, value) => (column, value.bound)) id)
  | destroy {filters accepted : FilterSet} {rows : List Row}
      (endpoint : execution.context.endpoint = .destroy)
      (read : (execution.filters state).result = .ok filters)
      (known : "id" ∈ execution.schema.columns)
      (passed : execution.schema.accept filters = .ok accepted)
      (found : (execution.database.fetchAll
        (Statement.select .id execution.schema.name accepted).toSql state).result = .ok rows)
      (filled : rows ≠ []) :
      Checked execution state
        [.database (.fetchAll (Statement.select .id execution.schema.name accepted).toSql)]
        (.deleteAll execution.schema.name (idsOf rows))
  | deleteOne {id : Int} {row : Row} {rows : List Row}
      (endpoint : execution.context.endpoint = .deleteOne)
      (numeric : execution.context.numericId = some id)
      (found : (execution.database.fetchAll (execution.schema.selectById id).toSql state).result =
        .ok (row :: rows)) :
      Checked execution state [.database (.fetchAll (execution.schema.selectById id).toSql)]
        (.delete execution.schema.name id)

/-- The ways in which an endpoint may fail after its change was carried out. -/
inductive Late (execution : Execution σ) (receipt : Receipt) (state : σ) : ApiError → Prop
  | insertId (endpoint : execution.context.endpoint = .create)
      (large : Text.largestInteger < (receipt.insertId : Int)) :
      Late execution receipt state (.internal "Insert id out of range")
  | created {error : ApiError} (endpoint : execution.context.endpoint = .create)
      (failed : (execution.fetchById receipt.insertId state).result = .error error) :
      Late execution receipt state error
  | updated {id : Int} {error : ApiError} (endpoint : execution.context.endpoint = .update)
      (numeric : execution.context.numericId = some id)
      (failed : (execution.fetchById id state).result = .error error) :
      Late execution receipt state error

/-- The actions that send at most one change, and send it checked. -/
inductive Writes (execution : Execution σ) (state : σ) :
    List Event → Action σ ApiError Json → Prop
  | reads {asked : List Event} {action : Action σ ApiError Json} (reading : action.Reads) :
      Writes execution state asked action
  | change {asked : List Event} {statement : Statement} {next : Receipt → Action σ ApiError Json}
      (checked : Checked execution state asked statement) (rest : ∀ receipt, (next receipt).Reads)
      (late : ∀ receipt after error, (next receipt after).result = .error error →
        Late execution receipt after error) :
      Writes execution state asked (execution.change statement >>= next)
  | step {β : Type} {asked : List Event} {first : Action σ ApiError β}
      {next : β → Action σ ApiError Json} (reading : first.Reads)
      (rest : ∀ value, (first state).result = .ok value →
        Writes execution state (asked ++ effects (first state).events) (next value)) :
      Writes execution state asked (first >>= next)

/-- The three courses that an endpoint may take. -/
inductive Course (execution : Execution σ) (state : σ) (asked : List Event)
    (outcome : Outcome σ ApiError Json) : Prop
  /-- No change is sent. -/
  | kept (same : outcome.state = state) (none : executed outcome.events = [])
  /-- The change is refused, and nothing has happened. -/
  | refused {statement : Statement} {earlier later : List Event} {error : ApiError}
      (checked : Checked execution state (asked ++ effects earlier) statement)
      (events : outcome.events = earlier ++ .database (.execute statement.toSql) :: later)
      (before : executed earlier = []) (after : executed later = [])
      (same : outcome.state = state) (failed : outcome.result = .error error)
  /-- The change is carried out; what follows only reads. -/
  | made {statement : Statement} {earlier later : List Event} {receipt : Receipt}
      (checked : Checked execution state (asked ++ effects earlier) statement)
      (events : outcome.events = earlier ++ .database (.execute statement.toSql) :: later)
      (before : executed earlier = []) (after : executed later = [])
      (carried : (execution.database.execute statement.toSql state).result = .ok receipt)
      (left : outcome.state = (execution.database.execute statement.toSql state).state)
      (late : ∀ error, outcome.result = .error error →
        Late execution receipt outcome.state error)

/-! ## The course of an endpoint -/

theorem change_of_ok {statement : Statement} {receipt : Receipt}
    (carried : (execution.database.execute statement.toSql state).result = .ok receipt) :
    execution.change statement state =
      ⟨.ok receipt, .database (.execute statement.toSql) ::
          (execution.database.execute statement.toSql state).entries.map Event.log,
        (execution.database.execute statement.toSql state).state⟩ := by
  have success : (execution.database.change statement.toSql state).result = .ok receipt := carried
  simp only [change, Action.rescue_of_ok success]
  rfl

theorem change_of_error {statement : Statement} {error : DatabaseError}
    (refused : (execution.database.execute statement.toSql state).result = .error error) :
    ∃ entries : List LogEntry, execution.change statement state =
      ⟨.error (.badRequest error.message),
        .database (.execute statement.toSql) :: entries.map Event.log,
        (execution.database.execute statement.toSql state).state⟩ := by
  have failure : (execution.database.change statement.toSql state).result = .error error := refused
  refine ⟨(execution.database.execute statement.toSql state).entries ++
    [.plain .error ("Database error: " ++ error.message)], ?_⟩
  simp only [change, Action.rescue_of_error failure]
  simp [Database.change, DatabaseError.raise, Action.bind_of_ok]

/-- A course goes on as it does when an action that reads comes before it. -/
theorem Course.prepend {asked events : List Event} {outcome : Outcome σ ApiError Json}
    (reading : executed events = [])
    (course : Course execution state (asked ++ effects events) outcome) :
    Course execution state asked ⟨outcome.result, events ++ outcome.events, outcome.state⟩ := by
  cases course with
  | kept same none => exact Course.kept same (by simp [reading, none])
  | @refused statement earlier later error checked told before after same failed =>
    have still : Checked execution state (asked ++ effects (events ++ earlier)) statement := by
      simpa using checked
    exact Course.refused still (by simp [told]) (by simp [reading, before]) after same failed
  | @made statement earlier later receipt checked told before after carried left late =>
    have still : Checked execution state (asked ++ effects (events ++ earlier)) statement := by
      simpa using checked
    exact Course.made still (by simp [told]) (by simp [reading, before]) after carried left late

/-- Every run of an action that sends at most one change takes one of the courses. -/
theorem course_of_writes (steady : execution.database.Steady) {asked : List Event}
    {action : Action σ ApiError Json} (writes : Writes execution state asked action) :
    Course execution state asked (action state) := by
  induction writes with
  | reads reading => exact Course.kept (reading state).1 (reading state).2
  | @change asked statement next checked rest late =>
    have first : Checked execution state (asked ++ effects []) statement := by
      simpa using checked
    cases ended : (execution.database.execute statement.toSql state).result with
    | error error =>
      rcases change_of_error ended with ⟨entries, equal⟩
      have failed : (execution.change statement state).result =
          .error (.badRequest error.message) := by rw [equal]
      rw [Action.bind_of_error failed, equal]
      exact Course.refused first rfl rfl (executed_map_log entries) (steady.execute _ _ _ ended)
        rfl
    | ok receipt =>
      have carried := change_of_ok ended
      have success : (execution.change statement state).result = .ok receipt := by rw [carried]
      rw [Action.bind_of_ok success, carried]
      rcases rest receipt (execution.database.execute statement.toSql state).state with
        ⟨same, none⟩
      refine Course.made first rfl rfl ?_ ended same ?_
      · simpa using none
      · intro error failed
        rw [same]
        exact late receipt _ error failed
  | @step β asked first next reading rest step =>
    rcases reading state with ⟨same, none⟩
    rcases Action.bind_cases first next state with ⟨error, _, equal⟩ | ⟨value, gave, equal⟩
    · rw [equal]
      exact Course.kept same none
    · rw [equal, same]
      exact (step value gave).prepend none

/-! ## Every endpoint -/

theorem effects_build (built : Except SchemaError Statement) :
    effects (build built state : Outcome σ ApiError Statement).events = [] := by
  cases built with
  | ok statement => rfl
  | error error => exact error.raise_declines.effects_eq_nil state

theorem effects_filters : effects (execution.filters state).events = [] := by
  unfold filters
  split
  · split
    · simp [Action.bind_of_ok]
    · rfl
  · rfl

theorem effects_fetch (statement : Statement) :
    effects (execution.fetch statement state).events =
      [.database (.fetchAll statement.toSql)] := by
  unfold fetch
  rw [effects_rescue DatabaseError.raise_declines]
  simp [Database.rows, Event.isEffect]

theorem effects_fetchById (id : Int) :
    effects (execution.fetchById id state).events =
      [.database (.fetchAll (execution.schema.selectById id).toSql)] := by
  rw [← effects_fetch]
  unfold fetchById
  apply effects_bind_of_quiet
  intro rows after
  rfl

theorem of_fetch {statement : Statement} {rows : List Row}
    (found : (execution.fetch statement state).result = .ok rows) :
    (execution.database.fetchAll statement.toSql state).result = .ok rows :=
  ok_of_rescue_ok DatabaseError.raise_declines found

theorem of_fetchById {id : Int} {row : Row}
    (found : (execution.fetchById id state).result = .ok (some row)) :
    ∃ rows, (execution.database.fetchAll (execution.schema.selectById id).toSql state).result =
      .ok (row :: rows) := by
  rcases Action.ok_of_bind_ok found with ⟨rows, fetched, first⟩
  cases rows with
  | nil => simp at first
  | cons other rows =>
    have same : other = row := by simpa using first
    rw [← same]
    exact ⟨rows, of_fetch fetched⟩

theorem insertBatch_writes (endpoint : execution.context.endpoint = .insertBatch) :
    Writes execution state [] execution.insertBatch := by
  refine Writes.step (obeys_ofExcept _) fun posted read => ?_
  rcases records_eq_cons read with ⟨first, others, rfl, _⟩
  refine Writes.step (build_reads _) fun statement made => ?_
  rcases Schema.of_insertBatch (of_build ⟨state, made⟩) with ⟨known, rfl⟩
  have checked : Checked execution state _ _ :=
    Checked.insertBatch endpoint read (Schema.mem_columns_of_requireColumns known)
  refine Writes.change (by simpa [effects_build] using checked) ?_ ?_
  · exact fun receipt => obeys_pure _
  · intro receipt after error failed
    cases failed

section Endpoints

variable (steady : execution.database.Steady)

include steady

theorem create_writes (endpoint : execution.context.endpoint = .create) :
    Writes execution state [] execution.create := by
  refine Writes.step (obeys_ofExcept _) fun record posted => ?_
  refine Writes.step (build_reads _) fun statement made => ?_
  rcases Schema.of_insert (of_build ⟨state, made⟩) with ⟨known, rfl⟩
  have checked : Checked execution state _ _ :=
    Checked.create endpoint posted (Schema.mem_columns_of_requireColumns known)
  refine Writes.change (by simpa [effects_build] using checked) ?_ ?_
  · intro receipt
    split
    · exact (fetchById_reads steady _).bind fun row _ => obeys_pure _
    · exact obeys_fail _
  · intro receipt after error failed
    split at failed
    · exact Late.created endpoint (Action.error_of_bind_pure failed)
    · rename_i large
      cases failed
      exact Late.insertId endpoint (by omega)

theorem update_writes (endpoint : execution.context.endpoint = .update) :
    Writes execution state [] execution.update := by
  unfold update
  split
  · exact Writes.reads (obeys_fail _)
  · rename_i id numeric
    refine Writes.step (obeys_ofExcept _) fun posted record => ?_
    dsimp only
    split
    · exact Writes.reads (obeys_fail _)
    · rename_i filled
      refine Writes.step (build_reads _) fun statement made => ?_
      rcases Schema.of_updateById (of_build ⟨state, made⟩) with ⟨known, rfl⟩
      refine Writes.step (fetchById_reads steady id) fun found fetched => ?_
      split
      · exact Writes.reads (obeys_fail _)
      · rcases of_fetchById fetched with ⟨rows, answered⟩
        have checked : Checked execution state _ _ :=
          Checked.update endpoint numeric record (by simpa using filled)
            (Schema.mem_columns_of_requireColumns known) answered
        refine Writes.change (by simpa [effects_build, effects_fetchById] using checked) ?_ ?_
        · exact fun receipt => (fetchById_reads steady id).bind fun row _ => obeys_pure _
        · intro receipt after error failed
          exact Late.updated endpoint numeric (Action.error_of_bind_pure failed)

theorem removal_writes (endpoint : execution.context.endpoint = .destroy) {filters : FilterSet}
    {asked : List Event} (none : asked = [])
    (read : (execution.filters state).result = .ok filters) :
    Writes execution state asked (execution.removal filters) := by
  refine Writes.step (build_reads _) fun statement made => ?_
  rcases Schema.of_selectIds (of_build ⟨state, made⟩) with ⟨known, accepted, passed, rfl⟩
  refine Writes.step (fetch_reads steady _) fun rows fetched => ?_
  split
  · exact Writes.reads (obeys_pure _)
  · rename_i filled
    have checked : Checked execution state _ (execution.schema.deleteByIds (idsOf rows)) :=
      Checked.destroy endpoint read known passed (of_fetch fetched) (by simpa using filled)
    refine Writes.change (by simpa [none, effects_build, effects_fetch] using checked) ?_ ?_
    · exact fun receipt => obeys_pure _
    · intro receipt after error failed
      cases failed

theorem destroy_writes (endpoint : execution.context.endpoint = .destroy) :
    Writes execution state [] execution.destroy := by
  rw [destroy_eq]
  refine Writes.step filters_reads fun filters read => ?_
  split
  · refine Writes.step (reads_log _) fun _ _ => removal_writes steady endpoint ?_ read
    simp [effects_filters, Event.isEffect]
  · exact removal_writes steady endpoint (by simp [effects_filters]) read

theorem deleteOne_writes (endpoint : execution.context.endpoint = .deleteOne) :
    Writes execution state [] execution.deleteOne := by
  unfold deleteOne
  split
  · exact Writes.reads (obeys_fail _)
  · rename_i id numeric
    refine Writes.step (fetchById_reads steady id) fun found fetched => ?_
    split
    · exact Writes.reads (obeys_fail _)
    · rcases of_fetchById fetched with ⟨rows, answered⟩
      have checked : Checked execution state _ (execution.schema.deleteById id) :=
        Checked.deleteOne endpoint numeric answered
      refine Writes.change (by simpa [effects_fetchById] using checked) ?_ ?_
      · exact fun receipt => obeys_pure _
      · intro receipt after error failed
        cases failed

/-- Every endpoint sends at most one change, and sends it checked. -/
theorem run_writes : Writes execution state [] execution.run := by
  unfold run
  split
  · exact Writes.reads (rows_reads steady)
  · exact Writes.reads (rows_reads steady)
  · exact Writes.reads (count_reads steady)
  · exact Writes.reads (count_reads steady)
  · exact Writes.reads (findOne_reads steady)
  · exact Writes.reads (existence_reads steady)
  · exact create_writes steady ‹_›
  · exact insertBatch_writes ‹_›
  · exact update_writes steady ‹_›
  · exact destroy_writes steady ‹_›
  · exact deleteOne_writes steady ‹_›

end Endpoints

end Execution

end TableApi
