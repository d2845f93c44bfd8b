import TableApi.Proofs.Access.Decision
import TableApi.Proofs.Effect.Pipeline
import TableApi.Proofs.Request.Execution
import TableApi.Request.Handling

/-!
# The stages of a request

Handling a request is one long sequence.  `Service.pipeline` cuts it at its eight stages, and
`handle_eq_run` says that the cut sequence is the one that runs.  What each stage may touch is
`Stage.Allows`; that stages come in order, that the first failure ends the run, and that nothing
later happens then follow from the laws of pipelines.
-/

namespace TableApi

/-! ## Hooks -/

namespace HookRegistry

variable {σ : Type}

/-- A hook is called once or, when the name stands for none, not at all. -/
theorem effects_invoke (registry : HookRegistry) (name : String) (payload : HookPayload)
    (state : σ) :
    effects (registry.invoke name payload state).events = [] ∨
      effects (registry.invoke name payload state).events = [.hook name payload] := by
  cases found : registry.find? name with
  | none => simp [invoke, found]
  | some hook => simp [invoke, found, Action.bind_of_ok, Event.isEffect]

theorem effects_before (registry : HookRegistry) (name : String) (data : HookInput) (state : σ) :
    effects (registry.before name data state).events =
      effects (registry.invoke name (.input data) state).events := by
  unfold before
  apply Action.effects_bind_of_quiet
  intro payload after
  cases payload <;> rfl

theorem effects_after (registry : HookRegistry) (name : String) (data : HookOutput) (state : σ) :
    effects (registry.after name data state).events =
      effects (registry.invoke name (.output data) state).events := by
  unfold after
  apply Action.effects_bind_of_quiet
  intro payload after
  cases payload <;> rfl

end HookRegistry

/-! ## The stages -/

/-- The stages of a request. -/
inductive Stage where
  | descriptor
  | verb
  | gate
  | authorization
  | body
  | before
  | endpoint
  | after
deriving DecidableEq, Repr

namespace Stage

/-- Every stage, in the order in which a request goes through them. -/
def all : List Stage :=
  [descriptor, verb, gate, authorization, body, before, endpoint, after]

/-- The effects that a stage may have. -/
def Allows {σ : Type} (service : Service σ) (context : Context) : Stage → List Event → Prop
  | descriptor, effects => effects = []
  | verb, effects => effects = []
  | gate, effects =>
      effects <+: [.database .listTables, .database (.describeTable context.table)]
  | authorization, effects => ∃ descriptor schema state after, schema.name = context.table ∧
      service.guard.Inquires descriptor context.token schema context state effects after
  | body, effects => effects = []
  | before, effects => effects = [] ∨ ∃ name data, effects = [.hook name (.input data)]
  | endpoint, effects => ∀ event ∈ effects, ∃ sql,
      event = .database (.fetchAll sql) ∨ event = .database (.execute sql)
  | after, effects => effects = [] ∨ ∃ name data, effects = [.hook name (.output data)]

end Stage

namespace Service

variable {σ : Type}

/-- The descriptor of the endpoint of a request, whatever its verb. -/
def described (service : Service σ) (context : Context) : Action σ ApiError Descriptor :=
  match service.documents.descriptor context.table context.endpoint with
  | .error error => error.raise
  | .ok descriptor => pure descriptor

/-- The check of the verb by itself. -/
def verbChecked (context : Context) (descriptor : Descriptor) : Action σ ApiError Unit :=
  if descriptor.verb = context.verb then pure ()
  else Action.fail (.badRequest (wrongVerb context descriptor.verb))

/-- A request cut at its stages. -/
def pipeline (service : Service σ) (context : Context) : Pipeline Stage σ ApiError HookOutput :=
  .step .descriptor (service.described context) fun descriptor =>
  .step .verb (verbChecked context descriptor) fun _ =>
  .step .gate (service.schema context) fun schema =>
  .step .authorization (service.authorize descriptor schema context) fun token =>
  .step .body (Action.ofExcept (params context)) fun params =>
  .step .before (service.prepare descriptor
    ⟨token, schema.name, context.endpoint.name, params, context.query⟩) fun input =>
  .step .endpoint
    (Execution.run ⟨service.database, schema, descriptor, context, input⟩) fun body =>
  .step .after (service.conclude descriptor ⟨body, 200, input.token⟩) fun output =>
  .done output

/-- What the endpoint of a request is run with: the stages before it in sequence. -/
def ready (service : Service σ) (context : Context) : Action σ ApiError (Execution σ) := do
  let descriptor ← service.descriptor context
  let schema ← service.schema context
  let token ← service.authorize descriptor schema context
  let params ← Action.ofExcept (params context)
  let input ← service.prepare descriptor
    ⟨token, schema.name, context.endpoint.name, params, context.query⟩
  return ⟨service.database, schema, descriptor, context, input⟩

theorem descriptor_eq (service : Service σ) (context : Context) :
    service.descriptor context = (do
      let descriptor ← service.described context
      verbChecked context descriptor
      return descriptor) := by
  unfold descriptor described
  cases service.documents.descriptor context.table context.endpoint with
  | error error =>
    funext state
    cases error <;> rfl
  | ok descriptor =>
    by_cases agrees : descriptor.verb = context.verb
    · simp [verbChecked, agrees]
    · simp only [agrees, if_false, verbChecked, pure_bind]
      rfl

/-- The stages in sequence are the handling of the request. -/
theorem handle_eq_run (service : Service σ) (context : Context) :
    service.handle context = (service.pipeline context).run := by
  simp only [handle, pipeline, Pipeline.run, descriptor_eq, bind_assoc, pure_bind, bind_pure]

/-- Handling a request is making it ready, running its endpoint and calling the hook after it. -/
theorem handle_eq_ready (service : Service σ) (context : Context) :
    service.handle context = (do
      let execution ← service.ready context
      let body ← execution.run
      service.conclude execution.descriptor ⟨body, 200, execution.input.token⟩) := by
  simp only [handle, ready, bind_assoc, pure_bind]

/-! ## Effects of the stages -/

variable (service : Service σ) (context : Context)

theorem effects_described (state : σ) : effects (service.described context state).events = [] := by
  unfold described
  cases service.documents.descriptor context.table context.endpoint with
  | error error => exact error.raise_declines.effects_eq_nil state
  | ok descriptor => rfl

theorem effects_verbChecked (descriptor : Descriptor) (state : σ) :
    effects (verbChecked context descriptor state).events = [] := by
  by_cases agrees : descriptor.verb = context.verb
  · simp [verbChecked, agrees]
  · simp [verbChecked, agrees]

theorem effects_schema (state : σ) :
    effects (service.schema context state).events =
      effects (Schema.load service.database context.table state).events :=
  Action.effects_rescue SchemaError.raise_declines state

/-- Looking the table of a request up leaves a steady database as it was. -/
theorem schema_state (steady : service.database.Steady) (state : σ) :
    (service.schema context state).state = state := by
  have kept := Schema.load_state steady context.table state
  cases loaded : (Schema.load service.database context.table state).result with
  | ok schema =>
    simp only [Service.schema, Action.rescue_of_ok loaded]
    exact kept
  | error error =>
    simp only [Service.schema, Action.rescue_of_error loaded]
    rw [kept]
    cases error <;> rfl

/-- The table of a request is one that the database looked up. -/
theorem loaded_of_schema {state : σ} {schema : Schema}
    (gated : (service.schema context state).result = .ok schema) :
    (Schema.load service.database context.table state).result = .ok schema :=
  Action.ok_of_rescue_ok SchemaError.raise_declines gated

/-- A request is admitted or turned away by asking what deciding asks. -/
theorem authorize_inquires (descriptor : Descriptor) (schema : Schema) (state : σ) :
    let outcome := service.authorize descriptor schema context state
    service.guard.Inquires descriptor context.token schema context state (effects outcome.events)
      outcome.state := by
  have inquires := Guard.evaluate_inquires (ε := ApiError) service.guard descriptor context.token
    schema context state
  dsimp only [authorize] at inquires ⊢
  rcases Action.bind_cases
    (service.guard.evaluate (ε := ApiError) descriptor context.token schema context)
    (fun decision => Action.ofExcept decision.toResult) state with
    ⟨error, _, equal⟩ | ⟨decision, _, equal⟩
  · rw [equal]
    exact inquires
  · rw [equal]
    simpa using inquires

theorem effects_prepare (descriptor : Descriptor) (data : HookInput) (state : σ) :
    effects (service.prepare descriptor data state).events = [] ∨
      ∃ name, effects (service.prepare descriptor data state).events =
        [.hook name (.input data)] := by
  unfold prepare
  cases descriptor.beforeHook with
  | none => exact Or.inl rfl
  | some name =>
    simp only [Action.effects_rescue HookError.raise_declines, HookRegistry.effects_before]
    rcases service.hooks.effects_invoke name (.input data) state with quiet | called
    · exact Or.inl quiet
    · exact Or.inr ⟨name, called⟩

theorem effects_conclude (descriptor : Descriptor) (data : HookOutput) (state : σ) :
    effects (service.conclude descriptor data state).events = [] ∨
      ∃ name, effects (service.conclude descriptor data state).events =
        [.hook name (.output data)] := by
  unfold conclude
  cases descriptor.afterHook with
  | none => exact Or.inl rfl
  | some name =>
    simp only [Action.effects_rescue HookError.raise_declines, HookRegistry.effects_after]
    rcases service.hooks.effects_invoke name (.output data) state with quiet | called
    · exact Or.inl quiet
    · exact Or.inr ⟨name, called⟩

/-- A request goes through the stages in order, and each has the effects that it may have. -/
theorem pipeline_staged :
    Pipeline.Staged (Stage.Allows service context) Stage.all (service.pipeline context) := by
  refine Pipeline.Staged.step (service.effects_described context) fun descriptor _ => ?_
  refine Pipeline.Staged.step (effects_verbChecked context descriptor) fun _ _ => ?_
  refine Pipeline.Staged.step (fun state => ?_) fun schema gated => ?_
  · rw [effects_schema]
    exact Schema.effects_load service.database context.table state
  rcases gated with ⟨before, gated⟩
  rcases Schema.of_load (service.loaded_of_schema context gated) with ⟨identifier, named, _⟩
  refine Pipeline.Staged.step (fun state => ?_) fun token _ => ?_
  · exact ⟨descriptor, schema, state, _, named,
      service.authorize_inquires context descriptor schema state⟩
  refine Pipeline.Staged.step (fun state => rfl) fun params _ => ?_
  refine Pipeline.Staged.step (fun state => ?_) fun input _ => ?_
  · rcases service.effects_prepare descriptor _ state with quiet | ⟨name, called⟩
    · exact Or.inl quiet
    · exact Or.inr ⟨name, _, called⟩
  refine Pipeline.Staged.step (fun state event member => ?_) fun body _ => ?_
  · have plain : Grammar.placeholderCount schema.name = 0 := by
      rw [named]
      exact placeholderCount_identifier identifier
    rcases mem_effects.1 member with ⟨emitted, reaches⟩
    exact (Execution.run_speaks plain state event emitted).statement reaches
  refine Pipeline.Staged.step (fun state => ?_) fun output _ => Pipeline.Staged.done
  rcases service.effects_conclude descriptor _ state with quiet | ⟨name, called⟩
  · exact Or.inl quiet
  · exact Or.inr ⟨name, _, called⟩

/-! ## Stages that were passed -/

variable {service context}

theorem of_described {descriptor : Descriptor} {state : σ}
    (passed : (service.described context state).result = .ok descriptor) :
    service.documents.descriptor context.table context.endpoint = .ok descriptor ∧
      service.described context state = ⟨.ok descriptor, [], state⟩ := by
  cases read : service.documents.descriptor context.table context.endpoint with
  | error error =>
    simp only [described, read] at passed
    cases error <;> cases passed
  | ok found =>
    simp only [described, read] at passed ⊢
    cases passed
    exact ⟨rfl, rfl⟩

theorem of_verbChecked {descriptor : Descriptor} {state : σ}
    (passed : (verbChecked context descriptor state).result = .ok ()) :
    descriptor.verb = context.verb ∧ verbChecked context descriptor state = ⟨.ok (), [], state⟩ := by
  by_cases agrees : descriptor.verb = context.verb
  · exact ⟨agrees, by simp [verbChecked, agrees]⟩
  · simp [verbChecked, agrees] at passed

theorem of_authorize {descriptor : Descriptor} {schema : Schema} {token : Option String}
    {state : σ} (passed : (service.authorize descriptor schema context state).result = .ok token) :
    (service.guard.evaluate (ε := ApiError) descriptor context.token schema context state).result =
      .ok (.allowed token) := by
  rcases Action.ok_of_bind_ok passed with ⟨decision, decided, accepted⟩
  cases decision with
  | allowed found =>
    cases accepted
    exact decided
  | denied denial => cases accepted

end Service

end TableApi
