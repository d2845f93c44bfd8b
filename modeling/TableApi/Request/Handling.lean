import TableApi.Hook.Registry
import TableApi.Request.Execution

/-!
# Handling a request

Every request goes through the same stages: the descriptor of its endpoint, the check of the verb,
the gate of the table, the decision who may call, the body, the hook before, the endpoint itself
and the hook after.  The first stage that fails ends the request with its error.
-/

namespace TableApi

/-- What the requests of a service share. -/
structure Service (σ : Type) where
  database : Database σ
  tokens : TokenStore σ
  documents : Documents
  hooks : HookRegistry
  bypassToken : Option String
  audit : Bool

namespace Service

variable {σ : Type}

/-- The message for a verb that the descriptor of an endpoint does not name. -/
def wrongVerb (context : Context) (expected : Verb) : String :=
  "Invalid request type: " ++ context.endpoint.name ++ " expects " ++ expected.text ++ ", got " ++
    context.verb.text

/-- The descriptor of the endpoint of a request, once its verb is the one of the request. -/
def descriptor (service : Service σ) (context : Context) : Action σ ApiError Descriptor :=
  match service.documents.descriptor context.table context.endpoint with
  | .error error => error.raise
  | .ok descriptor =>
      if descriptor.verb = context.verb then pure descriptor
      else Action.fail (.badRequest (wrongVerb context descriptor.verb))

/-- The table of a request. -/
def schema (service : Service σ) (context : Context) : Action σ ApiError Schema :=
  (Schema.load service.database context.table).rescue SchemaError.raise

/-- What decides who may call. -/
def guard (service : Service σ) : Guard σ :=
  ⟨service.tokens, service.database, service.bypassToken, service.audit⟩

/-- The token that a request goes on with, once it is admitted. -/
def authorize (service : Service σ) (descriptor : Descriptor) (schema : Schema)
    (context : Context) : Action σ ApiError (Option String) := do
  let decision ← service.guard.evaluate descriptor context.token schema context
  Action.ofExcept decision.toResult

/-- The decoded body of a request; null for `GET` and for a blank body. -/
def params (context : Context) : Except ApiError Json :=
  if context.verb = .get || context.body.all FilterBody.isSpace then .ok .null
  else (Json.read context.body).mapError fun error => (FilterError.invalidJson error).toApiError

/-- The data of a request as the before hook leaves them. -/
def prepare (service : Service σ) (descriptor : Descriptor) (data : HookInput) :
    Action σ ApiError HookInput :=
  match descriptor.beforeHook with
  | none => pure data
  | some name => (service.hooks.before name data).rescue HookError.raise

/-- The data of an answer as the after hook leaves them. -/
def conclude (service : Service σ) (descriptor : Descriptor) (data : HookOutput) :
    Action σ ApiError HookOutput :=
  match descriptor.afterHook with
  | none => pure data
  | some name => (service.hooks.after name data).rescue HookError.raise

/-- Handles a request. -/
def handle (service : Service σ) (context : Context) : Action σ ApiError HookOutput := do
  let descriptor ← service.descriptor context
  let schema ← service.schema context
  let token ← service.authorize descriptor schema context
  let params ← Action.ofExcept (params context)
  let input ← service.prepare descriptor
    ⟨token, schema.name, context.endpoint.name, params, context.query⟩
  let body ← Execution.run ⟨service.database, schema, descriptor, context, input⟩
  service.conclude descriptor ⟨body, 200, input.token⟩

end Service

end TableApi
