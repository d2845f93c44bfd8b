import TableApi.Proofs.Endpoint.Route
import TableApi.Proofs.Request.Statements
import TableApi.Proofs.Request.Writing

/-!
# The change of a request

What stands before the endpoint of a request only reads, and so does the hook after it.  The course
of the endpoint is therefore that of the whole request: `handle_changes_once` says that a request
changes the tables once at most, when everything has been checked, and which failures may still come
after the change.
-/

namespace TableApi

open TableApi.Action

/-! ## Around the endpoint -/

namespace HookRegistry

variable {σ : Type} (registry : HookRegistry)

theorem invoke_reads (name : String) (payload : HookPayload) :
    (registry.invoke name payload : Action σ HookError HookPayload).Reads := by
  unfold invoke
  split
  · exact obeys_fail _
  · have called : (emit [.hook name payload] : Action σ HookError Unit).Reads :=
      obeys_emit fun _ => ⟨rfl, rfl⟩
    exact (reads_log _).bind fun _ _ => called.bind fun _ _ => obeys_ofExcept _

theorem before_reads (name : String) (data : HookInput) :
    (registry.before name data : Action σ HookError HookInput).Reads := by
  refine (registry.invoke_reads name _).bind fun payload _ => ?_
  split
  · exact obeys_pure _
  · exact obeys_fail _

theorem after_reads (name : String) (data : HookOutput) :
    (registry.after name data : Action σ HookError HookOutput).Reads := by
  refine (registry.invoke_reads name _).bind fun payload _ => ?_
  split
  · exact obeys_pure _
  · exact obeys_fail _

end HookRegistry

namespace Service

variable {σ : Type} {service : Service σ} {context : Context} {state : σ}

theorem descriptor_reads : (service.descriptor context).Reads := by
  unfold descriptor
  split
  · exact reads_of_declines (DocumentError.raise_declines _)
  · split
    · exact obeys_pure _
    · exact obeys_fail _

theorem prepare_reads (descriptor : Descriptor) (data : HookInput) :
    (service.prepare descriptor data).Reads := by
  unfold prepare
  split
  · exact obeys_pure _
  · exact Obeys.rescue (service.hooks.before_reads _ _) fun error => reads_of_declines error.raise_declines

theorem conclude_reads (descriptor : Descriptor) (data : HookOutput) :
    (service.conclude descriptor data).Reads := by
  unfold conclude
  split
  · exact obeys_pure _
  · exact Obeys.rescue (service.hooks.after_reads _ _) fun error => reads_of_declines error.raise_declines

theorem schema_reads (steady : service.database.Steady) : (service.schema context).Reads := by
  intro state
  refine ⟨service.schema_state context steady state, ?_⟩
  have asked := executed_prefix (Schema.effects_load service.database context.table state)
  rw [← executed_effects, effects_schema]
  exact List.prefix_nil.1 asked

theorem authorize_reads (steady : service.database.Steady) (readOnly : service.tokens.ReadOnly)
    (descriptor : Descriptor) (schema : Schema) :
    (service.authorize descriptor schema context).Reads := by
  intro state
  have inquires := service.authorize_inquires context descriptor schema state
  constructor
  · rcases inquires.state_cases steady with same | ⟨presented, _, looked⟩
    · exact same
    · exact looked.trans (readOnly.keeps presented state)
  · rw [← executed_effects]
    exact inquires.executed_eq_nil

/-- What stands before the endpoint of a request only reads. -/
theorem ready_reads (steady : service.database.Steady) (readOnly : service.tokens.ReadOnly) :
    (service.ready context).Reads := by
  refine descriptor_reads.bind fun descriptor _ => ?_
  refine (schema_reads steady).bind fun schema _ => ?_
  refine (authorize_reads steady readOnly descriptor schema).bind fun token _ => ?_
  refine (obeys_ofExcept _).bind fun params _ => ?_
  exact (prepare_reads descriptor _).bind fun input _ => obeys_pure _

/-! ## What stands before the endpoint -/

/-- What a request has passed when its endpoint runs. -/
structure Cleared (service : Service σ) (context : Context) (state : σ)
    (execution : Execution σ) : Prop where
  sameDatabase : execution.database = service.database
  sameContext : execution.context = context
  described : service.documents.descriptor context.table context.endpoint =
    .ok execution.descriptor
  verb : execution.descriptor.verb = context.verb
  gated : (service.schema context state).result = .ok execution.schema
  /-- The decision, the decoded body and what the hook before the endpoint made of them. -/
  prepared : ∃ token value before,
    (service.guard.evaluate (ε := ApiError) execution.descriptor context.token execution.schema
      context (service.schema context state).state).result = .ok (.allowed token) ∧
    params context = .ok value ∧
    (service.prepare execution.descriptor
      ⟨token, execution.schema.name, context.endpoint.name, value, context.query⟩ before).result =
      .ok execution.input

theorem of_descriptor {descriptor : Descriptor}
    (passed : (service.descriptor context state).result = .ok descriptor) :
    service.documents.descriptor context.table context.endpoint = .ok descriptor ∧
      descriptor.verb = context.verb ∧ (service.descriptor context state).state = state := by
  cases read : service.documents.descriptor context.table context.endpoint with
  | error error =>
    simp only [Service.descriptor, read] at passed
    cases error <;> cases passed
  | ok found =>
    by_cases verb : found.verb = context.verb
    · have returned := service.descriptor_of_described context read verb
      rw [returned] at passed ⊢
      cases passed
      exact ⟨rfl, verb, rfl⟩
    · simp [Service.descriptor, read, verb] at passed

theorem cleared_of_ready {execution : Execution σ}
    (readied : (service.ready context state).result = .ok execution) :
    Cleared service context state execution := by
  rcases Action.ok_of_bind_ok readied with ⟨descriptor, described, rest⟩
  rcases of_descriptor described with ⟨read, verb, same⟩
  rw [same] at rest
  rcases Action.ok_of_bind_ok rest with ⟨schema, gated, rest⟩
  rcases Action.ok_of_bind_ok rest with ⟨token, allowed, rest⟩
  rcases Action.ok_of_bind_ok rest with ⟨value, decoded, rest⟩
  rcases Action.ok_of_bind_ok rest with ⟨input, prepared, returned⟩
  cases returned
  exact ⟨rfl, rfl, read, verb, gated, token, value, _, of_authorize allowed, decoded, prepared⟩

/-! ## The course of a request -/

/-- The failures that come after a change was carried out. -/
inductive LateFailure (service : Service σ) (context : Context) (before : σ)
    (outcome : Outcome σ ApiError HookOutput) : ApiError → Prop
  /-- The endpoint failed after its change. -/
  | endpoint {execution : Execution σ} {asked : List Event} {statement : Statement}
      {receipt : Receipt} {error : ApiError}
      (readied : (service.ready context before).result = .ok execution)
      (checked : execution.Checked before asked statement)
      (carried : (service.database.execute statement.toSql before).result = .ok receipt)
      (left : outcome.state = (service.database.execute statement.toSql before).state)
      (late : execution.Late receipt outcome.state error) :
      LateFailure service context before outcome error
  /-- The endpoint succeeded, and the hook after it failed. -/
  | hook {execution : Execution σ} {body : Json} {error : ApiError}
      (readied : (service.ready context before).result = .ok execution)
      (ran : (execution.run before).result = .ok body)
      (failed : (service.conclude execution.descriptor ⟨body, 200, execution.input.token⟩
        outcome.state).result = .error error) :
      LateFailure service context before outcome error

/-- The courses that a request may take: without a change, or with one that was checked. -/
inductive Course (service : Service σ) (context : Context) (state : σ)
    (outcome : Outcome σ ApiError HookOutput) : Prop
  | kept (same : outcome.state = state) (none : executed outcome.events = [])
  | changed {execution : Execution σ} {statement : Statement} {asked later : List Event}
      (readied : (service.ready context state).result = .ok execution)
      (cleared : Cleared service context state execution)
      (checked : execution.Checked state asked statement)
      (told : effects outcome.events = effects (service.ready context state).events ++ asked ++
        .database (.execute statement.toSql) :: later)
      (only : executed outcome.events = [statement.toSql])
      (ending : ∀ error, outcome.result = .error error →
        outcome.state = state ∨ LateFailure service context state outcome error)

/-- One change among events that carry nothing out. -/
theorem one_change {before earlier later : List Event} {sql : Sql} (none : executed before = [])
    (still : executed earlier = []) (quiet : executed later = []) :
    effects (before ++ (earlier ++ .database (.execute sql) :: later)) =
        effects before ++ effects earlier ++ .database (.execute sql) :: effects later ∧
      executed (before ++ (earlier ++ .database (.execute sql) :: later)) = [sql] := by
  have single : executed (.database (.execute sql) :: later) = sql :: executed later := rfl
  constructor
  · simp [Event.isEffect]
  · rw [executed_append, executed_append, single, none, still, quiet]
    rfl

/-- An endpoint that is ready takes its course, and the hook after it only reads. -/
theorem course_of_ready {execution : Execution σ}
    (readied : (service.ready context state).result = .ok execution)
    (none : executed (service.ready context state).events = [])
    (course : execution.Course state [] (execution.run state)) :
    let tail := (do
      let body ← execution.run
      service.conclude execution.descriptor ⟨body, 200, execution.input.token⟩ :
        Action σ ApiError HookOutput) state
    Course service context state
      ⟨tail.result, (service.ready context state).events ++ tail.events, tail.state⟩ := by
  have cleared := cleared_of_ready readied
  dsimp only
  rcases Action.bind_cases execution.run (fun body =>
      service.conclude execution.descriptor ⟨body, 200, execution.input.token⟩) state with
    ⟨error, failed, equal⟩ | ⟨body, ran, equal⟩
  · rw [equal]
    cases course with
    | kept same quiet => exact Course.kept same (by simp [none, quiet])
    | refused checked told before after same _ =>
      rcases one_change none before after with ⟨asked, only⟩
      rw [← told] at asked only
      exact Course.changed readied cleared checked asked only fun _ _ => Or.inl same
    | made checked told before after carried left late =>
      rcases one_change none before after with ⟨asked, only⟩
      rw [← told] at asked only
      rw [cleared.sameDatabase] at carried left
      refine Course.changed readied cleared checked asked only fun cause shown => Or.inr ?_
      cases shown
      exact LateFailure.endpoint readied checked carried left (late error failed)
  · rw [equal]
    have reading : (service.conclude execution.descriptor
        ⟨body, 200, execution.input.token⟩).Reads := conclude_reads _ _
    rcases reading (execution.run state).state with ⟨still, quiet⟩
    cases course with
    | kept same unchanged =>
      exact Course.kept (still.trans same) (by simp [none, unchanged, quiet])
    | refused _ _ _ _ _ failed =>
      rw [ran] at failed
      cases failed
    | @made statement earlier later receipt checked told before after carried left late =>
      generalize concluded : service.conclude execution.descriptor
        ⟨body, 200, execution.input.token⟩ (execution.run state).state = answer at still quiet
      have behind : executed (later ++ answer.events) = [] := by
        simp [after, quiet]
      have whole : (execution.run state).events ++ answer.events =
          earlier ++ .database (.execute statement.toSql) :: (later ++ answer.events) := by
        simp [told]
      rcases one_change none before behind with ⟨asked, only⟩
      rw [← whole] at asked only
      refine Course.changed readied cleared checked asked only fun cause shown => Or.inr ?_
      refine LateFailure.hook readied ran ?_
      rw [still, concluded]
      exact shown

/-- The course of a request is that of its endpoint. -/
theorem course_of_handle (steady : service.database.Steady) (readOnly : service.tokens.ReadOnly) :
    Course service context state (service.handle context state) := by
  rw [handle_eq_ready]
  have reading : (service.ready context).Reads := ready_reads steady readOnly
  rcases reading state with ⟨same, none⟩
  rcases Action.bind_cases (service.ready context) (fun execution => do
      let body ← execution.run
      service.conclude execution.descriptor ⟨body, 200, execution.input.token⟩) state with
    ⟨error, _, equal⟩ | ⟨execution, readied, equal⟩
  · rw [equal]
    exact Course.kept same none
  · have cleared := cleared_of_ready readied
    have held : execution.database.Steady := by
      rw [cleared.sameDatabase]
      exact steady
    have writes : execution.Writes state [] execution.run := Execution.run_writes held
    have course := Execution.course_of_writes held writes
    rw [equal, same]
    exact course_of_ready readied none course

/-! ## The statements of a request -/

theorem isChange_of_query {table query : String} {columns : List String}
    (derived : Grammar.Query table columns query) (params : List Json) :
    (⟨query, params⟩ : Sql).isChange = false := by
  cases derived with
  | select known filtered ordered cut =>
    simp only [String.append_assoc]
    exact Sql.isChange_append _ _ (by decide)

theorem isChange_of_change {table query : String} {columns : List String}
    (derived : Grammar.Change table columns query) (params : List Json) :
    (⟨query, params⟩ : Sql).isChange = true := by
  have starts : ∀ word lead rest : String, word ∈ ["INSERT", "UPDATE", "DELETE"] →
      word.toList <+: lead.toList → (⟨lead ++ rest, params⟩ : Sql).isChange = true := by
    intro word lead rest known leads
    simp only [Sql.isChange, List.any_eq_true, List.isPrefixOf_iff_prefix, String.toList_append]
    exact ⟨word, known, leads.trans (List.prefix_append _ _)⟩
  cases derived with
  | insert =>
    simp only [String.append_assoc]
    exact starts "INSERT" _ _ (by decide) (by decide)
  | update =>
    simp only [String.append_assoc]
    exact starts "UPDATE" _ _ (by decide) (by decide)
  | deleteOne =>
    simp only [String.append_assoc]
    exact starts "DELETE" _ _ (by decide) (by decide)
  | deleteMany =>
    simp only [String.append_assoc]
    exact starts "DELETE" _ _ (by decide) (by decide)

/-- The statements that change rows are those that were carried out as changes. -/
theorem filter_statements (readOnly : service.tokens.ReadOnly) {events : List Event}
    (each : ∀ event ∈ events, Does service context state event) :
    (events.flatMap Event.statements).filter Sql.isChange = executed events := by
  induction events with
  | nil => rfl
  | cons event events step =>
    have rest := step fun other member => each other (List.mem_cons_of_mem _ member)
    have split : executed (event :: events) = executed [event] ++ executed events :=
      executed_append [event] events
    rw [List.flatMap_cons, List.filter_append, rest, split]
    congr 1
    cases each event List.mem_cons_self with
    | log entry => rfl
    | hook name payload => rfl
    | listTables => decide
    | describeTable =>
      have asks : (⟨"DESCRIBE " ++ context.table, []⟩ : Sql).isChange = false :=
        Sql.isChange_append _ _ (by decide)
      simp [Event.statements, DatabaseCall.statement?, asks, executed]
    | lookup token before =>
      simpa [Event.statements, executed] using readOnly.asks token before
    | query gated fits =>
      simp [Event.statements, DatabaseCall.statement?, isChange_of_query fits.derived _, executed]
    | change gated fits =>
      simp [Event.statements, DatabaseCall.statement?, isChange_of_change fits.derived _, executed]

/-- The change that an endpoint may send: its kind, and the rows that it is about. -/
inductive Suits : Endpoint → String → Prop
  | create (rest : String) : Suits .create ("INSERT INTO " ++ rest)
  | insertBatch (rest : String) : Suits .insertBatch ("INSERT INTO " ++ rest)
  | update (front : String) : Suits .update ("UPDATE " ++ front ++ " WHERE id=?")
  | destroy (front back : String) :
      Suits .destroy ("DELETE FROM " ++ front ++ " WHERE id IN (" ++ back)
  | deleteOne (front : String) : Suits .deleteOne ("DELETE FROM " ++ front ++ " WHERE id=?")

theorem suits_of_checked {execution : Execution σ} {asked : List Event} {statement : Statement}
    (checked : execution.Checked state asked statement) :
    Suits execution.context.endpoint statement.toSql.query := by
  cases checked with
  | create endpoint =>
    rw [endpoint, Statement.toSql_insert]
    simp only [String.append_assoc]
    exact Suits.create _
  | insertBatch endpoint =>
    rw [endpoint, List.map_cons, Statement.toSql_insert]
    simp only [String.append_assoc]
    exact Suits.insertBatch _
  | update endpoint =>
    rw [endpoint, Statement.toSql_update]
    generalize String.intercalate ", " _ = assignments
    have suits := Suits.update (execution.schema.name ++ " SET " ++ assignments)
    simpa only [String.append_assoc] using suits
  | destroy endpoint =>
    rw [endpoint, Statement.toSql_deleteAll]
    simpa only [String.append_assoc] using Suits.destroy execution.schema.name (_ ++ ")")
  | deleteOne endpoint =>
    rw [endpoint, Statement.toSql_delete]
    exact Suits.deleteOne _

/--
A request to a database in memory sends at most one statement that changes
rows, of the kind and with the conditions that its endpoint suits, and sends it
when everything has been checked; an error leaves the tables as they were
unless it came after the change; and the method `GET` changes nothing.

The token store shares the tables and has to leave them alone, which each of the
stores does: `TokenStore.ofKnown_readOnly` and `TokenStore.ofDatabase_readOnly`.
-/
theorem handle_changes_once (setup : Memory.Setup) (service : Service Memory.Tables)
    (context : Context) (tables : Memory.Tables) (inMemory : service.database = setup.database)
    (readOnly : service.tokens.ReadOnly) :
    ((service.handle context tables).statements.filter Sql.isChange).length ≤ 1 ∧
    (∀ sql ∈ (service.handle context tables).statements, sql.isChange = true →
      ∃ execution statement asked later, sql = statement.toSql ∧
        Suits context.endpoint sql.query ∧
        (service.ready context tables).result = .ok execution ∧
        Cleared service context tables execution ∧ execution.Checked tables asked statement ∧
        effects (service.handle context tables).events =
          effects (service.ready context tables).events ++ asked ++
            .database (.execute sql) :: later) ∧
    (∀ error, (service.handle context tables).result = .error error →
      (service.handle context tables).state = tables ∨
        LateFailure service context tables (service.handle context tables) error) ∧
    (∀ request tokenHeader, request.method = "GET" →
      Request.context request tokenHeader = .ok context →
        (service.handle context tables).state = tables) := by
  have steady : service.database.Steady := by
    rw [inMemory]
    exact setup.steady
  have changes : (service.handle context tables).statements.filter Sql.isChange =
      executed (service.handle context tables).events :=
    filter_statements readOnly fun event member => does_of_mem member
  rw [changes]
  have course : Course service context tables (service.handle context tables) :=
    course_of_handle steady readOnly
  cases course with
  | kept same none =>
    refine ⟨by simp [none], ?_, fun _ _ => Or.inl same, fun _ _ _ _ => same⟩
    intro sql member changing
    have carried : sql ∈ executed (service.handle context tables).events := by
      rw [← changes]
      exact List.mem_filter.2 ⟨member, changing⟩
    rw [none] at carried
    simp at carried
  | @changed execution statement asked later readied cleared checked told only ending =>
    refine ⟨by simp [only], ?_, ending, ?_⟩
    · intro sql member changing
      have carried : sql ∈ executed (service.handle context tables).events := by
        rw [← changes]
        exact List.mem_filter.2 ⟨member, changing⟩
      rw [only, List.mem_singleton] at carried
      subst carried
      have suits := suits_of_checked checked
      rw [cleared.sameContext] at suits
      exact ⟨execution, statement, asked, later, rfl, suits, readied, cleared, checked, told⟩
    · intro request tokenHeader method built
      have get := Request.endpoint_verb_of_get method built
      have suits := suits_of_checked checked
      rw [cleared.sameContext] at suits
      generalize context.endpoint = endpoint at get suits
      generalize statement.toSql.query = query at suits
      cases suits <;> cases get

/-- A service whose only table takes new rows from anyone. -/
def openService : Service Memory.Tables where
  database := Memory.Setup.plain.database
  tokens := .ofDatabase Memory.Setup.plain.database 0
  documents := ⟨"modules", Files.empty.write "modules/users/assets/api.json"
    (some "\x7b\"Create\":\x7b\"request_type\":\"POST\",\"authorization\":\"*\"\x7d\x7d".toUTF8.toList)⟩
  hooks := .empty
  bypassToken := none
  audit := false

/-- A new row posted to a table without rows changes it once at most. -/
theorem handle_changes_once_of_post :
    openService.database = Memory.Setup.plain.database ∧ openService.tokens.ReadOnly ∧
      ((openService.handle
        ⟨.post, "users", .create, none, ["users"], none, "",
          "\x7b\"name\":\"Ada\"\x7d".toUTF8.toList, false⟩
        [("users", ⟨["id", "name"], []⟩)]).statements.filter Sql.isChange).length ≤ 1 :=
  have readOnly : openService.tokens.ReadOnly :=
    TokenStore.ofDatabase_readOnly Memory.Setup.plain.steady 0
  ⟨rfl, readOnly,
    (handle_changes_once Memory.Setup.plain openService _ _ rfl readOnly).1⟩

end Service

end TableApi
