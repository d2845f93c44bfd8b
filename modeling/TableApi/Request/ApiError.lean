import TableApi.Endpoint.Document
import TableApi.Filter.Body
import TableApi.Table.Schema

/-!
# Errors that a client sees

Every failure of a request ends as one of six kinds, each with a status and a code, and a message
that clients see in development only.  The causes keep their own types; the conversions of this
module say which kind each becomes, and log those that an operator should know of.
-/

namespace TableApi

/-- The kinds of failure that a client can tell apart. -/
inductive ErrorKind where
  | badRequest
  | unauthorized
  | notFound
  | preconditionFailed
  | unprocessable
  | internal
deriving DecidableEq, Repr

namespace ErrorKind

/-- The status of an answer that reports this kind. -/
def status : ErrorKind → Nat
  | badRequest => 400
  | unauthorized => 401
  | notFound => 404
  | preconditionFailed => 412
  | unprocessable => 422
  | internal => 500

def code : ErrorKind → String
  | badRequest => "BAD_REQUEST"
  | unauthorized => "UNAUTHORIZED"
  | notFound => "NOT_FOUND"
  | preconditionFailed => "PRECONDITION_FAILED"
  | unprocessable => "UNPROCESSABLE_ENTITY"
  | internal => "INTERNAL_SERVER_ERROR"

/-- The kind for a status that a rule or a hook asks for. -/
def ofStatus (status : Nat) : ErrorKind :=
  if status = 401 then unauthorized
  else if status = 404 then notFound
  else if status = 412 then preconditionFailed
  else if status = 422 then unprocessable
  else if 400 ≤ status ∧ status < 500 then badRequest
  else internal

@[simp]
theorem ofStatus_status (kind : ErrorKind) : ofStatus kind.status = kind := by
  cases kind <;> decide

end ErrorKind

/-- A failed request. -/
structure ApiError where
  kind : ErrorKind
  message : String
deriving DecidableEq, Repr

namespace ApiError

/-- A request that breaks a rule. -/
def badRequest (message : String) : ApiError :=
  ⟨.badRequest, message⟩

/-- Something that is not there. -/
def notFound (message : String) : ApiError :=
  ⟨.notFound, message⟩

/-- A failure that is not the client's. -/
def internal (message : String) : ApiError :=
  ⟨.internal, message⟩

/-- A record that cannot be processed. -/
def unprocessable (message : String) : ApiError :=
  ⟨.unprocessable, message⟩

/-- The error for a status that a rule or a hook asks for. -/
def ofStatus (status : Nat) (message : String) : ApiError :=
  ⟨.ofStatus status, message⟩

end ApiError

/-- A filter error is the client's. -/
def FilterError.toApiError (error : FilterError) : ApiError :=
  .badRequest error.message

variable {σ α : Type}

/-- Fails with a database error, which is logged and blamed on the request. -/
def DatabaseError.raise (error : DatabaseError) : Action σ ApiError α := do
  Action.log (.plain .error ("Database error: " ++ error.message))
  Action.fail (.badRequest error.message)

/-- Fails with a schema error: a table that is not there, or a request that breaks a rule. -/
def SchemaError.raise (error : SchemaError) : Action σ ApiError α :=
  match error with
  | .unknownTable _ => Action.fail (.notFound error.message)
  | .unknownColumns _ => Action.fail (.badRequest error.message)
  | .invalidOrder _ => Action.fail (.badRequest error.message)
  | .database cause => cause.raise

/-- Fails with the error of a settings document, which is logged unless there is no entry. -/
def DocumentError.raise (error : DocumentError) : Action σ ApiError α :=
  match error with
  | .notFound _ => Action.fail (.notFound error.message)
  | _ => do
      Action.log (.plain .error ("Endpoint settings error: " ++ error.message))
      Action.fail (.internal error.message)

/-- Fails with a hook error, which is logged unless the hook refused the request. -/
def HookError.raise (error : HookError) : Action σ ApiError α :=
  match error with
  | .rejected _ => Action.fail (.badRequest error.message)
  | _ => do
      Action.log (.plain .error ("Hook error: " ++ error.message))
      Action.fail (.internal error.message)

end TableApi
