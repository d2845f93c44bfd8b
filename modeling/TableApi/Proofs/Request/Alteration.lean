import TableApi.Proofs.Database.Alteration
import TableApi.Proofs.Request.Stored

/-!
# How a request alters a table

The state that a request leaves is the one before it, or the one that its checked change makes of
it. Over a database in memory a checked change alters one table, the one of the request: the columns
that were checked are those of the table, and an update has dropped the id before.
-/

namespace TableApi

open TableApi.Action Memory

/-- No posted record carries an id. -/
def Json.Unnumbered (params : Json) : Prop :=
  (∀ fields, params = .object fields → "id" ∉ Fields.keys fields) ∧
    ∀ items, params = .array items → ∀ fields, .object fields ∈ items → "id" ∉ Fields.keys fields

/-- An endpoint that adds records adds none that carries an id. -/
def Execution.AddsUnnumbered {σ : Type} (execution : Execution σ) : Prop :=
  execution.context.endpoint = .create ∨ execution.context.endpoint = .insertBatch →
    execution.input.params.Unnumbered

/-! ## The state after a request -/

namespace Service

variable {σ : Type} {service : Service σ} {context : Context} {state : σ}

/-- A request leaves its state alone, or leaves what its checked change makes of it. -/
theorem state_cases (steady : service.database.Steady) (readOnly : service.tokens.ReadOnly) :
    (service.handle context state).state = state ∨
      ∃ execution statement asked receipt,
        (service.ready context state).result = .ok execution ∧
        execution.Checked state asked statement ∧
        (service.database.execute statement.toSql state).result = .ok receipt ∧
        (service.handle context state).state =
          (service.database.execute statement.toSql state).state := by
  have same := ((ready_reads steady readOnly : (service.ready context).Reads) state).1
  cases readied : (service.ready context state).result with
  | error error =>
    rw [handle_eq_ready, bind_of_error readied]
    exact Or.inl same
  | ok execution =>
    have held : execution.database = service.database := (cleared_of_ready readied).sameDatabase
    rw [state_of_ready steady readOnly readied]
    have quiet : execution.database.Steady := held ▸ steady
    have course : execution.Course state [] (execution.run state) :=
      Execution.course_of_writes quiet (Execution.run_writes quiet)
    cases course with
    | kept unchanged => exact Or.inl unchanged
    | refused _ _ _ _ unchanged => exact Or.inl unchanged
    | @made statement earlier later receipt checked _ _ _ carried left =>
      rw [held] at carried left
      exact Or.inr ⟨execution, statement, _, receipt, rfl, checked, carried, left⟩

end Service

/-- A change that is carried out leaves what it makes of the tables. -/
theorem Memory.Setup.state_of_execute {setup : Setup} {tables after : Tables} {sql : Sql}
    {receipt given : Receipt} (carried : (setup.database.execute sql tables).result = .ok given)
    (changed : Memory.change tables sql = .ok (receipt, after)) :
    (setup.database.execute sql tables).state = after := by
  simp only [Setup.database] at carried ⊢
  cases fault : setup.faultOf? sql.query with
  | some error =>
    simp only [Setup.execute, Setup.unlessFault, fault] at carried
    cases carried
  | none => simp [Setup.execute, Setup.unlessFault, fault, changed, Reply.quiet]

/-! ## Checked changes of a table -/

namespace Execution.Checked

variable {execution : Execution Tables} {tables : Tables} {table : Table} {asked : List Event}
  {statement : Statement}

/-- A checked change is read back, and alters the table that it is about. -/
theorem alters (checked : execution.Checked tables asked statement)
    (columns : execution.schema.columns = table.columns) (named : IsPlain execution.schema.name)
    (stored : Named.get? tables execution.schema.name = some table)
    (plain : ∀ column ∈ table.columns, IsPlain column) (tidy : execution.input.params.Tidy) :
    ∃ receipt altered,
      Memory.change tables statement.toSql =
        .ok (receipt, Named.put tables execution.schema.name altered) ∧
      Alters execution.AddsUnnumbered table altered := by
  have plainNames : ∀ {names : List String}, (∀ name ∈ names, name ∈ table.columns) →
      ∀ name ∈ names, IsPlain name :=
    fun known name member => plain name (known name member)
  cases checked with
  | @create record endpoint posted known =>
    have params := params_of_record posted
    rw [params] at tidy
    rw [columns] at known
    have changed := change_insert_record named stored (record_ne_nil posted) (plainNames known)
      tidy.nodup_keys
    refine ⟨_, _, changed, @Alters.added _ _ [record.bound] ?_ ?_⟩
    · simpa using known
    · intro unnumbered
      simpa using (unnumbered (Or.inl endpoint)).1 record params
  | @insertBatch first others endpoint posted known =>
    have params := params_of_records posted
    have member : Json.object first ∈ (first :: others).map Json.object := by simp
    rw [columns] at known
    have distinct : first.keys.Nodup := by
      rw [params] at tidy
      cases tidy with
      | array each => exact (each _ member).nodup_keys
    rcases records_eq_cons posted with ⟨_, _, same, filled⟩
    cases same
    have changed := change_insert_records named stored others filled (plainNames known) distinct
    have under : ∀ record ∈ (first :: others).map (Fields.boundUnder first.keys),
        record.keys = first.keys := by simp
    refine ⟨_, _, changed, Alters.added ?_ ?_⟩
    · intro record inside key held
      exact known key (under record inside ▸ held)
    · intro unnumbered record inside
      rw [under record inside]
      exact (unnumbered (Or.inr endpoint)).2 _ params first member
  | @update id posted row rows endpoint numeric record filled known found =>
    rw [params_of_record record] at tidy
    rw [columns] at known
    rcases Fields.nodup_keys_remove tidy.nodup_keys "id" with ⟨absent, distinct⟩
    have changed := change_update named stored (Fields.remove posted "id").bound
      (by simpa [Fields.bound] using filled)
      (by simpa using plainNames known) id
    exact ⟨_, _, changed, Alters.set _ (by simpa using distinct) (by simpa using known)
      (by simpa using absent)⟩
  | @destroy filters accepted rows =>
    have changed := change_deleteAll named stored (idsOf rows)
    exact ⟨_, _, changed, Alters.removed _⟩
  | @deleteOne id =>
    have changed := change_delete named stored id
    exact ⟨_, _, changed, Alters.removed _⟩

end Execution.Checked

namespace Service

variable {setup : Setup} {service : Service Tables} {context : Context} {tables : Tables}

/-- A request over a database in memory leaves the tables alone or alters the one it is about. -/
theorem handle_alters (inMemory : service.database = setup.database)
    (readOnly : service.tokens.ReadOnly) (tidy : service.hooks.Tidy)
    (plain : ∀ name table, Named.get? tables name = some table →
      ∀ column ∈ table.columns, IsPlain column) :
    (service.handle context tables).state = tables ∨
      ∃ execution table altered, (service.ready context tables).result = .ok execution ∧
        Named.get? tables context.table = some table ∧
        Alters execution.AddsUnnumbered table altered ∧
        (service.handle context tables).state = Named.put tables context.table altered := by
  have steady : service.database.Steady := inMemory ▸ setup.steady
  rcases state_cases steady readOnly with same | ⟨execution, statement, asked, receipt, readied,
    checked, carried, left⟩
  · exact Or.inl same
  · have cleared := cleared_of_ready readied
    rcases stored_of_schema inMemory cleared.gated with ⟨named, table, stored, schema⟩
    have called : execution.schema.name = context.table := by
      rw [schema]
      rfl
    have columns : execution.schema.columns = table.columns := by
      rw [schema]
      rfl
    rw [← called] at named stored ⊢
    rcases checked.alters columns named stored (plain _ _ stored) (cleared.tidy tidy) with
      ⟨found, altered, changed, alters⟩
    refine Or.inr ⟨execution, table, altered, readied, stored, alters, ?_⟩
    rw [left, inMemory]
    rw [inMemory] at carried
    exact Setup.state_of_execute carried changed

end Service

end TableApi
