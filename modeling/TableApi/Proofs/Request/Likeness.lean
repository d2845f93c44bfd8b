import TableApi.Proofs.Effect.Coupling
import TableApi.Proofs.Request.Execution
import TableApi.Request.Handling

/-!
# Two services side by side

What a client or an operator must not learn is a matter of two runs: over another database that
says other things when it fails, or for another token that the store does not tell from the first
one, a request is handled alike.  A `Likeness` says how the texts of errors and the tokens of two
such runs may differ, and what they still have to have in common.  Each stage of the handling keeps
to it, so the whole handling does; what is left to a use of it is to compare the databases, the
token stores and the hooks.
-/

namespace TableApi

open TableApi.Action Result

variable {σ τ ε δ α β : Type}

/-! ## Another token -/

/-- The context of a request that presents another token. -/
def Context.presenting (context : Context) (token : Option String) : Context :=
  { context with token }

@[simp]
theorem Context.presenting_viaApi (context : Context) (token : Option String) :
    (context.presenting token).viaApi = context.viaApi := rfl

namespace HookPayload

def token : HookPayload → Option String
  | input data => data.token
  | output data => data.token

/-- A payload that holds another token. -/
def presenting (payload : HookPayload) (token : Option String) : HookPayload :=
  match payload with
  | input data => .input { data with token }
  | output data => .output { data with token }

@[simp]
theorem presenting_token (payload : HookPayload) : payload.presenting payload.token = payload := by
  cases payload with
  | input data => rfl
  | output data => rfl

@[simp]
theorem presenting_kind (payload : HookPayload) (token : Option String) :
    (payload.presenting token).kind = payload.kind := by
  cases payload with
  | input data => rfl
  | output data => rfl

end HookPayload

section Hooks

variable (Tokens : Option String → Option String → Prop)

/-- Two inputs with the same data for an endpoint, and with tokens that may differ. -/
structure HookInput.Alike (first second : HookInput) : Prop where
  params : first.params = second.params
  query : first.query = second.query
  token : Tokens first.token second.token

/-- Two outputs with the same data for a client, and with tokens that may differ. -/
structure HookOutput.Alike (first second : HookOutput) : Prop where
  body : first.body = second.body
  code : first.code = second.code
  token : Tokens first.token second.token

/-- Two payloads of one kind that are alike. -/
inductive HookPayload.Alike : HookPayload → HookPayload → Prop
  | input {data other : HookInput} (inputs : data.Alike Tokens other) :
      Alike (.input data) (.input other)
  | output {data other : HookOutput} (outputs : data.Alike Tokens other) :
      Alike (.output data) (.output other)

/-- A hook that decides nothing by the token, but for the token that it hands back. -/
def Hook.Discreet (hook : Hook) : Prop :=
  ∀ payload token, Tokens payload.token token →
    Result.Alike (· = ·) (HookPayload.Alike Tokens) (hook payload) (hook (payload.presenting token))

/-- All hooks that are registered are discreet. -/
def HookRegistry.Discreet (registry : HookRegistry) : Prop :=
  ∀ name hook, registry.find? name = some hook → Hook.Discreet Tokens hook

end Hooks

/-- Two decisions of one kind, with tokens that may differ. -/
inductive Decision.Alike (Tokens : Option String → Option String → Prop) :
    Decision → Decision → Prop
  | allowed {token other : Option String} (tokens : Tokens token other) :
      Alike Tokens (.allowed token) (.allowed other)
  | denied (denial : Denial) : Alike Tokens (.denied denial) (.denied denial)

/-! ## What is compared -/

/-- What two runs of a service have in common, and how texts of errors and tokens may differ. -/
structure Likeness (σ τ : Type) extends Coupling σ τ where
  Messages : String → String → Prop
  Tokens : Option String → Option String → Prop
  same : ∀ message, Messages message message
  logged : ∀ entry, Events [.log entry] [.log entry]
  told : ∀ {message other}, Messages message other → ∀ level lead,
    Events [.log (.plain level (lead ++ message))] [.log (.plain level (lead ++ other))]
  called : ∀ {payload : HookPayload} {token}, Tokens payload.token token → ∀ name,
    Events [.hook name payload] [.hook name (payload.presenting token)]

/-- Two schema errors that are the same, or are both the database's. -/
inductive SchemaError.Akin : SchemaError → SchemaError → Prop
  | same (error : SchemaError) : Akin error error
  | database (error other : DatabaseError) : Akin (.database error) (.database other)

namespace Likeness

variable (likeness : Likeness σ τ)

/-- Two errors of one kind whose messages may differ as those of the runs may. -/
structure Errors (error other : ApiError) : Prop where
  kind : error.kind = other.kind
  message : likeness.Messages error.message other.message

/-- Two errors of databases whose messages may differ. -/
def Faults (error other : DatabaseError) : Prop :=
  likeness.Messages error.message other.message

/-- Two schema errors that are akin and whose messages may differ. -/
structure Refusals (error other : SchemaError) : Prop where
  akin : error.Akin other
  message : likeness.Messages error.message other.message

/-- Two parts of the handling of a request that go alike to the same value. -/
def Agree (first : Action σ ApiError α) (second : Action τ ApiError α) : Prop :=
  Alike likeness.toCoupling likeness.Errors (· = ·) first second

/-- Two databases that answer alike whatever an endpoint or the gate of a table asks. -/
structure Databases (first : Database σ) (second : Database τ) : Prop where
  tables : Alike likeness.toCoupling likeness.Faults (· = ·) first.tables second.tables
  columns : ∀ table,
    Alike likeness.toCoupling likeness.Faults (· = ·) (first.columns table) (second.columns table)
  rows : ∀ sql, Alike likeness.toCoupling likeness.Faults (· = ·) (first.rows sql) (second.rows sql)
  change : ∀ sql,
    Alike likeness.toCoupling likeness.Faults (· = ·) (first.change sql) (second.change sql)

/-- Two tokens that a guard cannot tell apart, with another store for the second one. -/
structure Confused (guard : Guard σ) (tokens : TokenStore τ) (token other : String) : Prop where
  resolved : Alike likeness.toCoupling
    (fun error partner : TokenError => likeness.Messages error.message partner.message) (· = ·)
    (guard.tokens.resolve token) (tokens.resolve other)
  fingerprint : fingerprint token = fingerprint other
  bypass : guard.bypassToken = some token ↔ guard.bypassToken = some other

variable {likeness}

theorem Errors.refl (error : ApiError) : likeness.Errors error error :=
  ⟨rfl, likeness.same _⟩

theorem Faults.refl (error : DatabaseError) : likeness.Faults error error :=
  likeness.same _

/-! ## Entries of the log -/

theorem alike_log {Errors : ε → δ → Prop} (entry : LogEntry) :
    Alike likeness.toCoupling Errors (· = ·) (log entry) (log entry) :=
  alike_emit (likeness.logged entry)

theorem alike_told {Errors : ε → δ → Prop} {message other : String}
    (messages : likeness.Messages message other) (level : LogLevel) (lead : String) :
    Alike likeness.toCoupling Errors (· = ·) (log (.plain level (lead ++ message)))
      (log (.plain level (lead ++ other))) :=
  alike_emit (likeness.told messages level lead)

theorem alike_emit_map_log {Errors : ε → δ → Prop} (entries : List LogEntry) :
    Alike likeness.toCoupling Errors (· = ·) (emit (entries.map Event.log))
      (emit (entries.map Event.log)) := by
  apply alike_emit
  induction entries with
  | nil => exact likeness.nothing
  | cons entry entries induction => exact likeness.sequence (likeness.logged entry) induction

/-! ## Errors that are shown -/

theorem raise_agree {error other : DatabaseError} (faults : likeness.Faults error other) :
    likeness.Agree (error.raise : Action σ ApiError α) other.raise :=
  (alike_told faults _ _).bind_same fun _ => alike_fail ⟨rfl, faults⟩

theorem Refusals.refl (error : SchemaError) : likeness.Refusals error error :=
  ⟨.same error, likeness.same _⟩

/-- Errors of databases that become schema errors are refusals. -/
theorem refusals_of_asked {first : Action σ DatabaseError α} {second : Action τ DatabaseError α}
    (asked : Alike likeness.toCoupling likeness.Faults (· = ·) first second) :
    Alike likeness.toCoupling likeness.Refusals (· = ·)
      (first.rescue fun error => fail (.database error))
      (second.rescue fun error => fail (.database error)) :=
  asked.rescue fun _ _ faults => alike_fail ⟨.database _ _, faults⟩

theorem Refusals.raise_agree {error other : SchemaError}
    (refusals : likeness.Refusals error other) :
    likeness.Agree (error.raise : Action σ ApiError α) other.raise := by
  rcases refusals with ⟨akin, messages⟩
  cases akin with
  | database error other => exact Likeness.raise_agree messages
  | same =>
    cases error with
    | database error => exact Likeness.raise_agree messages
    | _ => exact alike_fail ⟨rfl, messages⟩

theorem document_agree (error : DocumentError) :
    likeness.Agree (error.raise : Action σ ApiError α) error.raise := by
  cases error with
  | notFound what => exact alike_fail (.refl _)
  | _ => exact (alike_log _).bind_same fun _ => alike_fail (.refl _)

theorem hook_alike {Values : α → β → Prop} (error : HookError) :
    Alike likeness.toCoupling likeness.Errors Values (error.raise : Action σ ApiError α)
      (error.raise : Action τ ApiError β) := by
  cases error with
  | rejected reason => exact alike_fail (.refl _)
  | _ => exact (alike_log _).bind_same fun _ => alike_fail (.refl _)

/-- What needs no database goes alike beside any two. -/
theorem agree_ofExcept (result : Except ApiError α) :
    likeness.Agree (ofExcept result) (ofExcept result) :=
  alike_ofExcept (Alike.refl .refl (fun _ => rfl) result)

/-! ## The stages of a request -/

section Stages

variable {first : Database σ} {second : Database τ}

/-- Looking a table up ends with the same table, or with errors that are refusals. -/
theorem load_alike (databases : likeness.Databases first second) (name : String) :
    Alike likeness.toCoupling likeness.Refusals (· = ·) (Schema.load first name)
      (Schema.load second name) := by
  unfold Schema.load
  split
  · exact alike_fail (.refl _)
  apply (refusals_of_asked databases.tables).bind_same
  intro tables
  split
  · exact (refusals_of_asked (databases.columns name)).bind_same fun _ => alike_pure rfl
  · exact (alike_log _).bind_same fun _ => alike_fail (.refl _)

end Stages

end Likeness

/-- The guard over another database and token store. -/
def Guard.onto (guard : Guard σ) (database : Database τ) (tokens : TokenStore τ) : Guard τ :=
  ⟨tokens, database, guard.bypassToken, guard.audit⟩

/-- An endpoint run over another database. -/
def Execution.onto (execution : Execution σ) (database : Database τ) : Execution τ :=
  ⟨database, execution.schema, execution.descriptor, execution.context, execution.input⟩

section Onto

variable (execution : Execution σ) (database : Database τ)

@[simp]
theorem Execution.onto_schema : (execution.onto database).schema = execution.schema := rfl

@[simp]
theorem Execution.onto_descriptor :
    (execution.onto database).descriptor = execution.descriptor := rfl

@[simp]
theorem Execution.onto_context : (execution.onto database).context = execution.context := rfl

@[simp]
theorem Execution.onto_input : (execution.onto database).input = execution.input := rfl

@[simp]
theorem Execution.onto_record : (execution.onto database).record = execution.record := rfl

end Onto

/-- A service over another database and token store. -/
def Service.onto (service : Service σ) (database : Database τ) (tokens : TokenStore τ) :
    Service τ :=
  ⟨database, tokens, service.documents, service.hooks, service.bypassToken, service.audit⟩

@[simp]
theorem Service.onto_documents (service : Service σ) (database : Database τ)
    (tokens : TokenStore τ) : (service.onto database tokens).documents = service.documents := rfl

namespace Likeness

variable {likeness : Likeness σ τ}

section Decisions

variable {Errors : ε → δ → Prop} {second : Database τ}

/-- A lookup of the owner that fails finds none, so its error decides nothing. -/
theorem owns_alike {first : Database σ} (databases : likeness.Databases first second)
    (owned : OwnedSegment) (caller : Caller) (schema : Schema) (context : Context) :
    Alike likeness.toCoupling Errors (· = ·) (Guard.owns first owned caller schema context)
      (Guard.owns second owned caller schema context) := by
  unfold Guard.owns
  split
  · exact alike_pure rfl
  split
  · exact (alike_log _).bind_same fun _ => alike_pure rfl
  apply (databases.rows _).attempt.bind
  intro found other results
  cases results with
  | error faults => exact (alike_told faults _ _).bind_same fun _ => alike_pure rfl
  | ok same => exact alike_pure (congrArg (Guard.ownsFirst caller) same)

variable {guard : Guard σ} {tokens : TokenStore τ} {token other : String}

theorem judge_alike (databases : likeness.Databases guard.database second)
    (kept : likeness.Tokens (some token) (some other)) (policy : Policy) (caller : Caller)
    (schema : Schema) (context : Context) (presented : Option String) :
    Alike likeness.toCoupling Errors (Decision.Alike likeness.Tokens)
      (guard.judge policy token caller schema context)
      ((guard.onto second tokens).judge policy other caller schema
        (context.presenting presented)) := by
  have admits : Guard.admits policy caller (context.presenting presented) =
    Guard.admits policy caller context := rfl
  rw [Guard.judge, Guard.judge, admits, Context.presenting_viaApi]
  split
  · exact alike_pure (.allowed kept)
  split
  · exact alike_pure (.denied _)
  split
  · apply (owns_alike databases _ caller schema context).bind_same
    intro owned
    cases owned with
    | false => exact alike_pure (.denied _)
    | true => exact alike_pure (.allowed kept)
  · exact alike_pure (.denied _)

/-- Whatever the reason for which a token has no caller, only the bypass token is accepted. -/
theorem reject_alike (confused : likeness.Confused guard tokens token other)
    (kept : likeness.Tokens (some token) (some other)) (context : Context)
    (presented : Option String) {error partner : TokenError}
    (messages : likeness.Messages error.message partner.message) :
    Alike likeness.toCoupling Errors (Decision.Alike likeness.Tokens)
      (guard.reject token context error)
      ((guard.onto second tokens).reject other (context.presenting presented) partner) := by
  have same : (guard.onto second tokens).bypassToken = some other ↔
      guard.bypassToken = some token :=
    confused.bypass.symm
  by_cases bypassed : guard.bypassToken = some token
  · rw [Guard.reject, Guard.reject, if_pos bypassed, if_pos (same.2 bypassed)]
    exact (alike_log _).bind_same fun _ => alike_pure (.allowed kept)
  · rw [Guard.reject, Guard.reject, if_neg bypassed, if_neg (bypassed ∘ same.1)]
    exact (alike_told messages _ _).bind_same fun _ => alike_pure (.denied _)

variable {presented partner : Option String}

theorem weigh_alike (databases : likeness.Databases guard.database second)
    (confused : Option.Rel (likeness.Confused guard tokens) presented partner)
    (kept : likeness.Tokens presented partner) (descriptor : Descriptor) (schema : Schema)
    (context : Context) :
    Alike likeness.toCoupling Errors (Decision.Alike likeness.Tokens)
      (guard.weigh descriptor presented schema context)
      ((guard.onto second tokens).weigh descriptor partner schema
        (context.presenting partner)) := by
  rw [Guard.weigh, Guard.weigh]
  cases descriptor.authorization with
  | none => exact alike_pure (.denied _)
  | some authorization =>
    cases authorization with
    | wildcard => exact alike_pure (.allowed kept)
    | policy policy =>
      cases confused with
      | none => exact alike_pure (.denied _)
      | some confused =>
        apply confused.resolved.attempt.bind
        intro found other results
        cases results with
        -- Here an error of the database is dropped: the store gave no caller, for whatever reason.
        | error messages => exact reject_alike confused kept context _ messages
        | ok same => exact same ▸ judge_alike databases kept policy _ schema context _

/-- A decision is logged with the fingerprint of the token only. -/
theorem entryOf_eq (confused : Option.Rel (likeness.Confused guard tokens) presented partner)
    {decision other : Decision} (decisions : decision.Alike likeness.Tokens other)
    (context : Context) :
    (guard.onto second tokens).entryOf other partner (context.presenting partner) =
      guard.entryOf decision presented context := by
  have fingerprints : partner.map fingerprint = presented.map fingerprint := by
    cases confused with
    | none => rfl
    | some confused => exact congrArg some confused.fingerprint.symm
  cases decisions with
  | allowed => rw [Guard.entryOf, Guard.entryOf, fingerprints]; rfl
  | denied denial => rw [Guard.entryOf, Guard.entryOf, fingerprints]; rfl

theorem evaluate_alike (databases : likeness.Databases guard.database second)
    (confused : Option.Rel (likeness.Confused guard tokens) presented partner)
    (kept : likeness.Tokens presented partner) (descriptor : Descriptor) (schema : Schema)
    (context : Context) :
    Alike likeness.toCoupling Errors (Decision.Alike likeness.Tokens)
      (guard.evaluate descriptor presented schema context)
      ((guard.onto second tokens).evaluate descriptor partner schema
        (context.presenting partner)) := by
  apply (weigh_alike databases confused kept descriptor schema context).bind
  intro decision other decisions
  rw [entryOf_eq confused decisions]
  exact (alike_log _).bind_same fun _ => alike_pure decisions

end Decisions

/-! ## Endpoints -/

section Endpoints

theorem build_agree (built : Except SchemaError Statement) :
    likeness.Agree (Execution.build built) (Execution.build built) := by
  cases built with
  | ok statement => exact alike_pure rfl
  | error error => exact (Refusals.refl error).raise_agree

variable {execution : Execution σ} {second : Database τ}

theorem filters_agree : likeness.Agree execution.filters (execution.onto second).filters := by
  rw [Execution.filters, Execution.filters, Execution.onto_descriptor, Execution.onto_context,
    Execution.onto_input]
  split
  · split
    · exact (alike_emit_map_log _).bind_same fun _ => alike_pure rfl
    · exact agree_ofExcept _
  · exact alike_pure rfl

variable (databases : likeness.Databases execution.database second)

include databases

theorem fetch_agree (statement : Statement) :
    likeness.Agree (execution.fetch statement) ((execution.onto second).fetch statement) :=
  (databases.rows statement.toSql).rescue fun _ _ faults => raise_agree faults

theorem change_agree (statement : Statement) :
    likeness.Agree (execution.change statement) ((execution.onto second).change statement) :=
  (databases.change statement.toSql).rescue fun _ _ faults => raise_agree faults

theorem fetchById_agree (id : Int) :
    likeness.Agree (execution.fetchById id) ((execution.onto second).fetchById id) :=
  (fetch_agree databases _).bind_same fun _ => alike_pure rfl

theorem rows_agree : likeness.Agree execution.rows (execution.onto second).rows := by
  apply filters_agree.bind_same
  intro filters
  apply (build_agree _).bind_same
  intro statement
  exact (fetch_agree databases statement).bind_same fun _ => alike_pure rfl

theorem count_agree : likeness.Agree execution.count (execution.onto second).count := by
  apply filters_agree.bind_same
  intro filters
  apply (build_agree _).bind_same
  intro statement
  exact (fetch_agree databases statement).bind_same fun _ => alike_pure rfl

theorem findOne_agree : likeness.Agree execution.findOne (execution.onto second).findOne := by
  rw [Execution.findOne, Execution.findOne, Execution.onto_context]
  cases execution.context.numericId with
  | none => exact alike_fail (.refl _)
  | some id =>
    apply (fetchById_agree databases id).bind_same
    intro found
    cases found with
    | none => exact alike_fail (.refl _)
    | some row => exact alike_pure rfl

/-- A lookup that fails finds no record, so its error is shown to nobody. -/
theorem existence_agree :
    likeness.Agree execution.existence (execution.onto second).existence := by
  rw [Execution.existence, Execution.existence, Execution.onto_context]
  cases execution.context.numericId with
  | none => exact alike_pure rfl
  | some id =>
    apply (fetchById_agree databases id).attempt.bind
    intro found other results
    cases results with
    | ok same => exact alike_pure (congrArg (fun row => Json.bool row.isSome) same)
    | error errors => exact (alike_told errors.message _ _).bind_same fun _ => alike_pure rfl

theorem create_agree : likeness.Agree execution.create (execution.onto second).create := by
  rw [Execution.create, Execution.create, Execution.onto_record, Execution.onto_schema]
  apply (agree_ofExcept _).bind_same
  intro record
  apply (build_agree _).bind_same
  intro statement
  apply (change_agree databases statement).bind_same
  intro receipt
  split
  · exact (fetchById_agree databases _).bind_same fun _ => alike_pure rfl
  · exact alike_fail (.refl _)

theorem insertBatch_agree :
    likeness.Agree execution.insertBatch (execution.onto second).insertBatch := by
  rw [Execution.insertBatch, Execution.insertBatch, Execution.onto_input, Execution.onto_schema]
  apply (agree_ofExcept _).bind_same
  intro records
  apply (build_agree _).bind_same
  intro statement
  exact (change_agree databases statement).bind_same fun _ => alike_pure rfl

theorem update_agree : likeness.Agree execution.update (execution.onto second).update := by
  rw [Execution.update, Execution.update, Execution.onto_context, Execution.onto_record,
    Execution.onto_schema]
  cases execution.context.numericId with
  | none => exact alike_fail (.refl _)
  | some id =>
    apply (agree_ofExcept _).bind_same
    intro posted
    dsimp only
    split
    · exact alike_fail (.refl _)
    apply (build_agree _).bind_same
    intro statement
    apply (fetchById_agree databases id).bind_same
    intro found
    cases found with
    | none => exact alike_fail (.refl _)
    | some row =>
      apply (change_agree databases statement).bind_same
      intro receipt
      exact (fetchById_agree databases id).bind_same fun _ => alike_pure rfl

theorem removal_agree (filters : FilterSet) :
    likeness.Agree (execution.removal filters) ((execution.onto second).removal filters) := by
  rw [Execution.removal, Execution.removal, Execution.onto_schema]
  apply (build_agree _).bind_same
  intro statement
  apply (fetch_agree databases statement).bind_same
  intro rows
  split
  · exact alike_pure rfl
  · exact (change_agree databases _).bind_same fun _ => alike_pure rfl

theorem destroy_agree : likeness.Agree execution.destroy (execution.onto second).destroy := by
  rw [Execution.destroy_eq, Execution.destroy_eq, Execution.onto_schema]
  apply filters_agree.bind_same
  intro filters
  split
  · exact (alike_log _).bind_same fun _ => removal_agree databases filters
  · exact removal_agree databases filters

theorem deleteOne_agree :
    likeness.Agree execution.deleteOne (execution.onto second).deleteOne := by
  rw [Execution.deleteOne, Execution.deleteOne, Execution.onto_context, Execution.onto_schema]
  cases execution.context.numericId with
  | none => exact alike_fail (.refl _)
  | some id =>
    apply (fetchById_agree databases id).bind_same
    intro found
    cases found with
    | none => exact alike_fail (.refl _)
    | some row => exact (change_agree databases _).bind_same fun _ => alike_pure rfl

/-- An endpoint cannot tell two databases that answer alike from one another. -/
theorem run_agree : likeness.Agree execution.run (execution.onto second).run := by
  rw [Execution.run, Execution.run, Execution.onto_context]
  cases execution.context.endpoint with
  | get => exact rows_agree databases
  | search => exact rows_agree databases
  | count => exact count_agree databases
  | countByPost => exact count_agree databases
  | findOne => exact findOne_agree databases
  | «exists» => exact existence_agree databases
  | create => exact create_agree databases
  | insertBatch => exact insertBatch_agree databases
  | update => exact update_agree databases
  | destroy => exact destroy_agree databases
  | deleteOne => exact deleteOne_agree databases

omit databases

/-- No endpoint looks at the token. -/
theorem run_alike {first : Database σ} (databases : likeness.Databases first second)
    (schema : Schema) (descriptor : Descriptor) (context : Context) (token : Option String)
    {data other : HookInput} (inputs : data.Alike likeness.Tokens other) :
    likeness.Agree (Execution.run ⟨first, schema, descriptor, context, data⟩)
      (Execution.run ⟨second, schema, descriptor, context.presenting token, other⟩) := by
  rcases data with ⟨held, table, endpoint, params, query⟩
  rcases inputs with ⟨rfl, rfl, tokens⟩
  exact run_agree databases

end Endpoints

/-! ## The handling of a request -/

section Handling

variable {token other : Option String}

theorem invoke_alike {registry : HookRegistry} (discreet : registry.Discreet likeness.Tokens)
    (payload : HookPayload) (kept : likeness.Tokens payload.token other) (name : String) :
    Alike likeness.toCoupling (· = ·) (HookPayload.Alike likeness.Tokens)
      (registry.invoke name payload) (registry.invoke name (payload.presenting other)) := by
  rw [HookRegistry.invoke, HookRegistry.invoke, HookPayload.presenting_kind]
  cases found : registry.find? name with
  | none => exact alike_fail rfl
  | some hook =>
    apply (alike_log _).bind_same
    intro _
    apply (alike_emit (likeness.called kept name)).bind_same
    intro _
    exact alike_ofExcept (discreet name hook found payload other kept)

theorem before_alike {registry : HookRegistry} (discreet : registry.Discreet likeness.Tokens)
    {data : HookInput} (kept : likeness.Tokens data.token other) (name : String) :
    Alike likeness.toCoupling (· = ·) (HookInput.Alike likeness.Tokens)
      (registry.before name data) (registry.before name { data with token := other }) := by
  apply (invoke_alike discreet (.input data) kept name).bind
  intro payload partner payloads
  -- A hook that hands back the other kind of payload does so whatever the token is.
  cases payloads with
  | input inputs => exact alike_pure inputs
  | output outputs => exact alike_fail rfl

theorem after_alike {registry : HookRegistry} (discreet : registry.Discreet likeness.Tokens)
    {data : HookOutput} (kept : likeness.Tokens data.token other) (name : String) :
    Alike likeness.toCoupling (· = ·) (HookOutput.Alike likeness.Tokens)
      (registry.after name data) (registry.after name { data with token := other }) := by
  apply (invoke_alike discreet (.output data) kept name).bind
  intro payload partner payloads
  cases payloads with
  | input inputs => exact alike_fail rfl
  | output outputs => exact alike_pure outputs

variable {service : Service σ} {second : Database τ} {tokens : TokenStore τ}

theorem descriptor_agree (context : Context) :
    likeness.Agree (service.descriptor context)
      ((service.onto second tokens).descriptor (context.presenting other)) := by
  have unread : (service.onto second tokens).descriptor (context.presenting other) =
    (service.onto second tokens).descriptor context := rfl
  rw [unread, Service.descriptor, Service.descriptor, Service.onto_documents]
  cases service.documents.descriptor context.table context.endpoint with
  | error error => exact document_agree error
  | ok descriptor =>
    dsimp only
    split
    · exact alike_pure rfl
    · exact alike_fail (.refl _)

variable (discreet : service.hooks.Discreet likeness.Tokens)

include discreet

theorem prepare_alike (descriptor : Descriptor) {data : HookInput}
    (kept : likeness.Tokens data.token other) :
    Alike likeness.toCoupling likeness.Errors (HookInput.Alike likeness.Tokens)
      (service.prepare descriptor data)
      ((service.onto second tokens).prepare descriptor { data with token := other }) := by
  rw [Service.prepare, Service.prepare]
  cases descriptor.beforeHook with
  | none => exact alike_pure ⟨rfl, rfl, kept⟩
  | some name =>
    exact (before_alike discreet kept name).rescue fun error _ same => same ▸ hook_alike error

theorem conclude_alike (descriptor : Descriptor) {data : HookOutput}
    (kept : likeness.Tokens data.token other) :
    Alike likeness.toCoupling likeness.Errors (HookOutput.Alike likeness.Tokens)
      (service.conclude descriptor data)
      ((service.onto second tokens).conclude descriptor { data with token := other }) := by
  rw [Service.conclude, Service.conclude]
  cases descriptor.afterHook with
  | none => exact alike_pure ⟨rfl, rfl, kept⟩
  | some name =>
    exact (after_alike discreet kept name).rescue fun error _ same => same ▸ hook_alike error

/-- A request is handled alike by services whose databases, token stores and hooks are. -/
theorem handle_alike (databases : likeness.Databases service.database second)
    {context : Context}
    (confused : Option.Rel (likeness.Confused service.guard tokens) context.token other)
    (kept : likeness.Tokens context.token other) :
    Alike likeness.toCoupling likeness.Errors (HookOutput.Alike likeness.Tokens)
      (service.handle context)
      ((service.onto second tokens).handle (context.presenting other)) := by
  -- Each stage returns in either run what the next one starts from, up to the token, so that the
  -- next one is compared on equal arguments but for the token.
  apply (descriptor_agree context).bind_same
  intro descriptor
  apply ((load_alike databases context.table).rescue
    fun _ _ refusals => refusals.raise_agree).bind_same
  intro schema
  have authorized : Alike likeness.toCoupling likeness.Errors likeness.Tokens
      (service.authorize descriptor schema context)
      ((service.onto second tokens).authorize descriptor schema (context.presenting other)) := by
    apply (evaluate_alike databases confused kept descriptor schema context).bind
    intro decision partner decisions
    cases decisions with
    | allowed tokens => exact alike_ofExcept (.ok tokens)
    | denied denial => exact alike_ofExcept (.error (.refl _))
  apply authorized.bind
  intro accepted partner kept
  apply (agree_ofExcept (Service.params context)).bind_same
  intro params
  apply (prepare_alike discreet descriptor kept).bind
  intro data input inputs
  apply (run_alike databases schema descriptor context other inputs).bind_same
  intro body
  exact conclude_alike discreet descriptor inputs.token

end Handling

end Likeness

end TableApi
