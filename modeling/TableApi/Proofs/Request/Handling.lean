import TableApi.Proofs.Request.Stages

/-!
# The order of a request

A request that ends early has not touched what comes later: without a usable descriptor nothing is
asked at all, and a request that is turned away has asked for no more than the decision needs.  The
hooks run once at most, each after what has to come before it.  `Service.InStages` gathers what the
handling of every request keeps to.
-/

namespace TableApi

namespace Service

variable {σ : Type} (service : Service σ) (context : Context)

/-! ## Requests that end early -/

/-- A request without a usable descriptor touches nothing. -/
theorem handle_of_undescribed {error : DocumentError} (state : σ)
    (undescribed : service.documents.descriptor context.table context.endpoint = .error error) :
    (∃ shown, (service.handle context state).result = .error shown) ∧
      effects (service.handle context state).events = [] ∧
      (service.handle context state).state = state := by
  have raised : service.descriptor context = error.raise := by
    simp only [descriptor, undescribed]
  rcases error.raise_declines (α := Descriptor) state with ⟨shown, entries, equal⟩
  rw [← raised] at equal
  have failed : (service.descriptor context state).result = .error shown := by rw [equal]
  simp only [handle]
  rw [Action.bind_of_error failed, equal]
  exact ⟨⟨shown, rfl⟩, effects_map_log entries, rfl⟩

/-- A request with another verb than its descriptor touches nothing. -/
theorem handle_of_wrongVerb {descriptor : Descriptor} (state : σ)
    (described : service.documents.descriptor context.table context.endpoint = .ok descriptor)
    (differs : descriptor.verb ≠ context.verb) :
    service.handle context state =
      ⟨.error (.badRequest (wrongVerb context descriptor.verb)), [], state⟩ := by
  have failed : service.descriptor context =
      Action.fail (.badRequest (wrongVerb context descriptor.verb)) := by
    simp [Service.descriptor, described, differs]
  simp only [handle, failed]
  rfl

/-- The decision that a request has reached, once its descriptor, its verb and its table passed. -/
inductive Decides (service : Service σ) (context : Context) (state : σ) : Decision → Prop
  | intro {descriptor : Descriptor} {schema : Schema} {decision : Decision}
      (described :
        service.documents.descriptor context.table context.endpoint = .ok descriptor)
      (verb : descriptor.verb = context.verb)
      (gated : (service.schema context state).result = .ok schema)
      (decided : (service.guard.evaluate (ε := ApiError) descriptor context.token schema context
        (service.schema context state).state).result = .ok decision) :
      Decides service context state decision

theorem descriptor_of_described {descriptor : Descriptor}
    (described : service.documents.descriptor context.table context.endpoint = .ok descriptor)
    (verb : descriptor.verb = context.verb) : service.descriptor context = pure descriptor := by
  simp [Service.descriptor, described, verb]

/-- A denied request ends with the decision, before its body is read. -/
theorem handle_of_denied {descriptor : Descriptor} {schema : Schema} {denial : Denial} {state : σ}
    (described : service.documents.descriptor context.table context.endpoint = .ok descriptor)
    (verb : descriptor.verb = context.verb)
    (gated : (service.schema context state).result = .ok schema)
    (denied : (service.guard.evaluate (ε := ApiError) descriptor context.token schema context
      (service.schema context state).state).result = .ok (.denied denial)) :
    service.handle context state =
      ⟨.error denial.toApiError,
        (service.schema context state).events ++
          (service.authorize descriptor schema context (service.schema context state).state).events,
        (service.authorize descriptor schema context
          (service.schema context state).state).state⟩ := by
  have refused : (service.authorize descriptor schema context
      (service.schema context state).state).result = .error denial.toApiError := by
    simp only [authorize]
    rw [Action.bind_of_ok denied]
    rfl
  simp only [handle, service.descriptor_of_described context described verb, pure_bind]
  rw [Action.bind_of_ok gated, Action.bind_of_error refused]

/-! ## Hook calls -/

variable {service context}

/-- The call of a hook that belongs to a stage: before the endpoint, or after it. -/
def isCallAt : Stage → Event → Bool
  | .before, .hook _ (.input _) => true
  | .after, .hook _ (.output _) => true
  | _, _ => false

theorem isCallAt_eq_true {stage : Stage} {event : Event} (called : isCallAt stage event = true) :
    ∃ name payload, event = .hook name payload := by
  cases event with
  | hook name payload => exact ⟨name, payload, rfl⟩
  | _ => cases stage <;> cases called

/-- Only two stages call hooks. -/
theorem no_hook_of_allows {stage : Stage} {effects : List Event}
    (allowed : Stage.Allows service context stage effects) (other : stage ≠ .before)
    (another : stage ≠ .after) : ∀ event ∈ effects, ∀ name payload, event ≠ .hook name payload := by
  rintro event member name payload rfl
  cases stage with
  | before => exact other rfl
  | after => exact another rfl
  | descriptor => simp [Stage.Allows] at allowed; simp [allowed] at member
  | verb => simp [Stage.Allows] at allowed; simp [allowed] at member
  | body => simp [Stage.Allows] at allowed; simp [allowed] at member
  | gate =>
    have call := allowed.subset member
    simp at call
  | authorization =>
    rcases allowed with ⟨_, _, _, _, _, inquires⟩
    cases inquires <;> simp at member
  | endpoint =>
    rcases allowed _ member with ⟨sql, same | same⟩ <;> cases same

/-- A stage makes at most one hook call, and a call that belongs to no other stage. -/
theorem countP_isCallAt (own : Stage) {stage : Stage} {events : List Event}
    (allowed : Stage.Allows service context stage (effects events)) :
    events.countP (isCallAt own) ≤ 1 ∧ (stage ≠ own → events.countP (isCallAt own) = 0) := by
  have reaches : ∀ event, isCallAt own event = true → event.isEffect = true := by
    intro event called
    rcases isCallAt_eq_true called with ⟨name, payload, rfl⟩
    rfl
  rw [← countP_effects reaches]
  by_cases before : stage = .before
  · subst before
    rcases allowed with quiet | ⟨name, data, called⟩
    · simp [quiet]
    · cases own <;> simp [called, isCallAt]
  · by_cases after : stage = .after
    · subst after
      rcases allowed with quiet | ⟨name, data, called⟩
      · simp [quiet]
      · cases own <;> simp [called, isCallAt]
    · have none : (effects events).countP (isCallAt own) = 0 := by
        rw [List.countP_eq_zero]
        intro event member called
        rcases isCallAt_eq_true called with ⟨name, payload, same⟩
        exact no_hook_of_allows allowed before after event member name payload same
      exact ⟨by omega, fun _ => none⟩

variable (service context)

/-- A request makes a hook call of a stage at most once, and only when it comes to that stage. -/
theorem handle_calls (own : Stage) (state : σ) :
    (service.handle context state).events.countP (isCallAt own) ≤ 1 ∧
      (0 < (service.handle context state).events.countP (isCallAt own) →
        ∃ report ∈ (service.pipeline context).reports state, report.stage = own) := by
  rcases (service.pipeline_staged context).reports state with ⟨order, allowed⟩
  have once : (((service.pipeline context).reports state).map Report.stage).Nodup :=
    order.sublist.nodup (by decide)
  rw [handle_eq_run, Pipeline.events_run]
  constructor
  · exact Pipeline.countP_flatMap_le once
      (fun report member => (countP_isCallAt own (allowed report member)).1)
      (fun report member => (countP_isCallAt own (allowed report member)).2)
  · intro called
    rcases List.countP_pos_iff.1 called with ⟨event, emitted, calls⟩
    rcases List.mem_flatMap.1 emitted with ⟨report, member, inside⟩
    refine ⟨report, member, ?_⟩
    apply Decidable.byContradiction
    intro other
    have none := (countP_isCallAt own (allowed report member)).2 other
    exact List.countP_eq_zero.1 none event inside calls

/-- A request that comes to one of its last three stages has passed the five before them. -/
theorem passed_of_late {report : Report Stage ApiError} {state : σ}
    (member : report ∈ (service.pipeline context).reports state)
    (late : report.stage ∈ [Stage.before, Stage.endpoint, Stage.after]) :
    ∃ descriptor schema token value,
      service.documents.descriptor context.table context.endpoint = .ok descriptor ∧
      descriptor.verb = context.verb ∧ (service.schema context state).result = .ok schema ∧
      (service.authorize descriptor schema context (service.schema context state).state).result =
        .ok token ∧
      params context = .ok value ∧
      report ∈ (Pipeline.step Stage.before (service.prepare descriptor
          ⟨token, schema.name, context.endpoint.name, value, context.query⟩) fun input =>
        .step .endpoint
          (Execution.run ⟨service.database, schema, descriptor, context, input⟩) fun body =>
        .step .after (service.conclude descriptor ⟨body, 200, input.token⟩) fun output =>
        .done output).reports
          (service.authorize descriptor schema context (service.schema context state).state).state := by
  have not_early : ∀ stage ∈ [Stage.descriptor, .verb, .gate, .authorization, .body],
      report.stage ≠ stage := by
    rintro stage early rfl
    generalize report.stage = stage at early late
    revert stage
    decide
  rcases Pipeline.mem_reports_step member (not_early _ (by decide)) with ⟨descriptor, found, member⟩
  rcases of_described found with ⟨described, equal⟩
  rw [equal] at member
  rcases Pipeline.mem_reports_step member (not_early _ (by decide)) with ⟨_, agreed, member⟩
  rcases of_verbChecked agreed with ⟨verb, equal⟩
  rw [equal] at member
  rcases Pipeline.mem_reports_step member (not_early _ (by decide)) with ⟨schema, gated, member⟩
  rcases Pipeline.mem_reports_step member (not_early _ (by decide)) with ⟨token, allowed, member⟩
  rcases Pipeline.mem_reports_step member (not_early _ (by decide)) with ⟨value, decoded, member⟩
  exact ⟨descriptor, schema, token, value, described, verb, gated, allowed, decoded, member⟩

/-- A request comes to the hook before its endpoint only when it is allowed and its body decoded. -/
theorem decided_of_before {report : Report Stage ApiError} {state : σ}
    (member : report ∈ (service.pipeline context).reports state)
    (before : report.stage = .before) :
    (∃ token, Decides service context state (.allowed token)) ∧
      ∃ value, params context = .ok value := by
  rcases service.passed_of_late context member (by simp [before]) with
    ⟨descriptor, schema, token, value, described, verb, gated, allowed, decoded, _⟩
  exact ⟨⟨token, Decides.intro described verb gated (of_authorize allowed)⟩, value, decoded⟩

/-- A request comes to the hook after its endpoint only when the endpoint succeeded. -/
theorem succeeded_of_after {report : Report Stage ApiError} {state : σ}
    (member : report ∈ (service.pipeline context).reports state)
    (after : report.stage = .after) :
    ∃ execution body, (service.ready context state).result = .ok execution ∧
      (execution.run (service.ready context state).state).result = .ok body := by
  rcases service.passed_of_late context member (by simp [after]) with
    ⟨descriptor, schema, token, value, described, verb, gated, allowed, decoded, member⟩
  rcases Pipeline.mem_reports_step member (by simp [after]) with ⟨input, prepared, member⟩
  rcases Pipeline.mem_reports_step member (by simp [after]) with ⟨body, ran, _⟩
  refine ⟨⟨service.database, schema, descriptor, context, input⟩, body, ?_⟩
  have passes : (Action.ofExcept (params context) : Action σ ApiError Json) = pure value := by
    rw [decoded]
    rfl
  simp only [ready, service.descriptor_of_described context described verb, passes, pure_bind]
  rw [Action.bind_of_ok gated, Action.bind_of_ok allowed, Action.bind_of_ok prepared]
  exact ⟨rfl, ran⟩

/-! ## Requests that are turned away -/

variable {service context}

/-- What becomes of a request that is turned away. -/
structure TurnedAway (context : Context) (denial : Denial) (outcome : Outcome σ ApiError HookOutput) :
    Prop where
  /-- The decision is the answer, whatever the body of the request is. -/
  result : outcome.result = .error denial.toApiError
  status : denial.toApiError.kind.status = denial.status
  known : denial.status = 412 ∨ denial.status = 401
  noHook : ∀ name payload, Event.hook name payload ∉ outcome.events
  /-- The two calls of the gate, a look-up of the token, and at most one query for an owner. -/
  asked : ∃ inquiry, effects outcome.events =
      [.database .listTables, .database (.describeTable context.table)] ++ inquiry ∧
    (inquiry = [] ∨ ∃ presented queries, inquiry = [.lookup presented queries] ∨
      ∃ column value, inquiry = [.lookup presented queries,
        .database (.fetchAll (Guard.ownershipQuery context.table column value))])

/-- The effects of a request that is turned away, and the state that it leaves. -/
theorem inquires_of_denied {denial : Denial} {state : σ}
    (denied : Decides service context state (.denied denial)) :
    (service.handle context state).result = .error denial.toApiError ∧
      ∃ descriptor schema inquiry, schema.name = context.table ∧
        effects (service.handle context state).events =
          [.database .listTables, .database (.describeTable context.table)] ++ inquiry ∧
        service.guard.Inquires descriptor context.token schema context
          (service.schema context state).state inquiry (service.handle context state).state := by
  cases denied with
  | @intro descriptor schema _ described verb gated decided =>
    have loaded := service.loaded_of_schema context gated
    rw [service.handle_of_denied context described verb gated decided]
    refine ⟨rfl, descriptor, schema, _, (Schema.of_load loaded).2.1, ?_,
      service.authorize_inquires context descriptor schema _⟩
    rw [effects_append, effects_schema, Schema.effects_of_load loaded]

theorem turnedAway_of_denied {denial : Denial} {state : σ}
    (denied : Decides service context state (.denied denial)) :
    TurnedAway context denial (service.handle context state) := by
  rcases inquires_of_denied denied with
    ⟨result, descriptor, schema, inquiry, named, asked, inquires⟩
  generalize (service.handle context state).state = after at inquires
  generalize (service.schema context state).state = before at inquires
  constructor
  · exact result
  · cases denial <;> decide
  · cases denial <;> decide
  · intro name payload member
    have effect : Event.hook name payload ∈ effects (service.handle context state).events :=
      mem_effects.2 ⟨member, rfl⟩
    rw [asked] at effect
    cases inquires <;> simp at effect
  · refine ⟨inquiry, asked, ?_⟩
    rw [← named]
    cases inquires with
    | nothing => exact Or.inl rfl
    | token => exact Or.inr ⟨_, _, Or.inl rfl⟩
    | owner => exact Or.inr ⟨_, _, Or.inr ⟨_, _, rfl⟩⟩

/-- Over a steady database a request that is turned away leaves the state of its token look-up. -/
theorem state_of_denied {denial : Denial} {state : σ} (steady : service.database.Steady)
    (denied : Decides service context state (.denied denial)) :
    (service.handle context state).state = state ∨
      ∃ presented, context.token = some presented ∧
        (service.handle context state).state =
          (service.tokens.lookup presented state).reply.state := by
  rcases inquires_of_denied denied with ⟨_, _, _, _, _, _, inquires⟩
  have left := inquires.state_cases steady
  rw [service.schema_state context steady] at left
  exact left

/-! ## The order of a request -/

/-- What the handling of a request keeps to, told by the reports of its stages. -/
structure InStages (service : Service σ) (context : Context) (state : σ) : Prop where
  /-- The events of a request are those of its stages. -/
  events : (service.handle context state).events =
    ((service.pipeline context).reports state).flatMap Report.events
  /-- The stages are the first ones of all stages, in order. -/
  order : ((service.pipeline context).reports state).map Report.stage <+: Stage.all
  /-- Each stage has the effects that it may have. -/
  allowed : ∀ report ∈ (service.pipeline context).reports state,
    Stage.Allows service context report.stage (effects report.events)
  /-- All stages succeed, or the last one fails with the error of the request. -/
  ending :
    ((∃ output, (service.handle context state).result = .ok output) ∧
      ((service.pipeline context).reports state).map Report.stage = Stage.all ∧
      ∀ report ∈ (service.pipeline context).reports state, report.failure? = none) ∨
    ∃ error earlier last, (service.handle context state).result = .error error ∧
      (service.pipeline context).reports state = earlier ++ [last] ∧
      last.failure? = some error ∧ ∀ report ∈ earlier, report.failure? = none
  /-- Without a usable descriptor nothing is touched. -/
  undescribed : ∀ error,
    service.documents.descriptor context.table context.endpoint = .error error →
      (∃ shown, (service.handle context state).result = .error shown) ∧
        effects (service.handle context state).events = [] ∧
        (service.handle context state).state = state
  /-- With another verb than that of the descriptor nothing is touched. -/
  wrongVerb : ∀ descriptor,
    service.documents.descriptor context.table context.endpoint = .ok descriptor →
      descriptor.verb ≠ context.verb →
        (∃ shown, (service.handle context state).result = .error shown) ∧
          effects (service.handle context state).events = [] ∧
          (service.handle context state).state = state
  denied : ∀ denial, Decides service context state (.denied denial) →
    TurnedAway context denial (service.handle context state)
  /-- The hook before the endpoint is called once at most, for an allowed request with a body. -/
  before : (service.handle context state).events.countP (isCallAt .before) ≤ 1 ∧
    (0 < (service.handle context state).events.countP (isCallAt .before) →
      (∃ token, Decides service context state (.allowed token)) ∧
        ∃ value, params context = .ok value)
  /-- The hook after the endpoint is called once at most, for an endpoint that succeeded. -/
  after : (service.handle context state).events.countP (isCallAt .after) ≤ 1 ∧
    (0 < (service.handle context state).events.countP (isCallAt .after) →
      ∃ execution body, (service.ready context state).result = .ok execution ∧
        (execution.run (service.ready context state).state).result = .ok body)

theorem ending_of_handle (service : Service σ) (context : Context) (state : σ) :
    ((∃ output, (service.handle context state).result = .ok output) ∧
      ((service.pipeline context).reports state).map Report.stage = Stage.all ∧
      ∀ report ∈ (service.pipeline context).reports state, report.failure? = none) ∨
    ∃ error earlier last, (service.handle context state).result = .error error ∧
      (service.pipeline context).reports state = earlier ++ [last] ∧
      last.failure? = some error ∧ ∀ report ∈ earlier, report.failure? = none := by
  rw [handle_eq_run]
  rcases Pipeline.result_run (service.pipeline context) state with ⟨succeeded, none⟩ | failed
  · exact Or.inl ⟨succeeded, (service.pipeline_staged context).complete none, none⟩
  · exact Or.inr failed

/--
Every request goes through the stages in order and ends with the first failure;
and one that is turned away leaves the tables in memory as its token look-up
left them, which is as they were when the token store only reads.
-/
theorem handle_inStages :
    (∀ (σ : Type) (service : Service σ) (context : Context) (state : σ),
      InStages service context state) ∧
    ∀ (setup : Memory.Setup) (service : Service Memory.Tables) (context : Context)
      (tables : Memory.Tables) (denial : Denial), service.database = setup.database →
        Decides service context tables (.denied denial) →
          ((service.handle context tables).state = tables ∨
            ∃ presented, context.token = some presented ∧
              (service.handle context tables).state =
                (service.tokens.lookup presented tables).reply.state) ∧
          (service.tokens.ReadOnly → (service.handle context tables).state = tables) := by
  constructor
  · intro σ service context state
    constructor
    · rw [handle_eq_run, Pipeline.events_run]
    · exact ((service.pipeline_staged context).reports state).1
    · exact ((service.pipeline_staged context).reports state).2
    · exact service.ending_of_handle context state
    · exact fun error undescribed => service.handle_of_undescribed context state undescribed
    · intro descriptor described differs
      rw [service.handle_of_wrongVerb context state described differs]
      exact ⟨⟨_, rfl⟩, rfl, rfl⟩
    · exact fun denial denied => turnedAway_of_denied denied
    · refine ⟨(service.handle_calls context .before state).1, fun called => ?_⟩
      rcases (service.handle_calls context .before state).2 called with ⟨report, member, before⟩
      exact service.decided_of_before context member before
    · refine ⟨(service.handle_calls context .after state).1, fun called => ?_⟩
      rcases (service.handle_calls context .after state).2 called with ⟨report, member, after⟩
      exact service.succeeded_of_after context member after
  · intro setup service context tables denial inMemory denied
    have steady : service.database.Steady := by
      rw [inMemory]
      exact setup.steady
    have left := state_of_denied steady denied
    refine ⟨left, fun readOnly => ?_⟩
    rcases left with same | ⟨presented, _, looked⟩
    · exact same
    · rw [looked, readOnly.keeps]

end Service

end TableApi
