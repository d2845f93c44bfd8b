import TableApi.Access.Token
import TableApi.Request.Context
import TableApi.Table.Query

/-!
# Who may call

The rules of a descriptor are tried in a fixed order, and the first one that admits the caller
decides.  The rules about segments of the path, the ownership of a record among them, are tried
only for requests by the general entry, where the place of the segments is known.

A token that the store does not resolve is still accepted when it is the configured bypass token.
-/

namespace TableApi

/-- Why a request is turned away. -/
inductive Denial where
  | notActivated
  | missingToken
  | invalidToken
  | notOwner
  | notAuthorized
deriving DecidableEq, Repr

namespace Denial

def status : Denial → Nat
  | notActivated => 412
  | _ => 401

def message : Denial → String
  | notActivated => "API endpoint not activated"
  | missingToken => "Missing token"
  | invalidToken => "Invalid token"
  | notOwner => "Not the owner of this record"
  | notAuthorized => "Not authorized"

def toApiError (denial : Denial) : ApiError :=
  .ofStatus denial.status denial.message

end Denial

/-- Whether a request may go on, and with which token. -/
inductive Decision where
  | allowed (token : Option String)
  | denied (denial : Denial)
deriving DecidableEq, Repr

namespace Decision

/-- The accepted token, or the error that the client sees. -/
def toResult : Decision → Except ApiError (Option String)
  | allowed token => .ok token
  | denied denial => .error denial.toApiError

end Decision

/-- What is needed to decide: a token store, a database, perhaps a bypass token, and whether every
accepted request is to be logged for an audit. -/
structure Guard (σ : Type) where
  tokens : TokenStore σ
  database : Database σ
  bypassToken : Option String
  audit : Bool

namespace Guard

variable {σ ε : Type}

/-- The column that holds the owner of a record. -/
def ownerColumn : String :=
  "trongate_user_id"

/-- The user that the bypass token counts as in the log. -/
def bypassUserId : Int := 0

/-- Whether a segment of the path is a text that is not empty. -/
def segmentIs (context : Context) (number : Option Nat) (expected : String) : Bool :=
  match number.bind context.segment? with
  | some segment => !expected.isEmpty && segment == expected
  | none => false

/-- Whether a caller owns the first of some rows. -/
def ownsFirst (caller : Caller) : List Row → Bool
  | [] => false
  | row :: _ =>
      let owner := Json.toInteger (Fields.get? row ownerColumn)
      owner != 0 && owner == caller.userId

/-- Whether the rules that need no record admit a caller. -/
def admits (policy : Policy) (caller : Caller) (context : Context) : Bool :=
  policy.roles.contains caller.userLevel ||
    policy.userIds.any (fun id => Text.integer? id.toList == some caller.userId) ||
    (context.viaApi &&
      (segmentIs context policy.userIdSegment (toString caller.userId) ||
        segmentIs context policy.userCodeSegment caller.userCode))

/-- Whether a caller owns the record that the ownership rule finds.  A rule that names no column of
the table, and a lookup that fails, find no record. -/
def owns (database : Database σ) (owned : OwnedSegment) (caller : Caller) (schema : Schema)
    (context : Context) : Action σ ε Bool :=
  match context.segment? owned.segment with
  | none => pure false
  | some value =>
      match schema.selectByColumn owned.column value with
      | .error error => do
          Action.log (.plain .warn
            ("Ownership rule on " ++ schema.name ++ " is misconfigured: " ++ error.message))
          return false
      | .ok statement => do
          match ← (database.rows statement.toSql).attempt with
          | .error error =>
              Action.log (.plain .error ("Ownership lookup failed: " ++ error.message))
              return false
          | .ok rows => return ownsFirst caller rows

/-- Decides about a caller by the rules of a policy. -/
def judge (guard : Guard σ) (policy : Policy) (token : String) (caller : Caller)
    (schema : Schema) (context : Context) : Action σ ε Decision :=
  if admits policy caller context then pure (.allowed (some token))
  else
    match policy.ownedSegment with
    | none => pure (.denied .notAuthorized)
    | some owned =>
        if context.viaApi then do
          if ← owns guard.database owned caller schema context then
            return .allowed (some token)
          else
            return .denied .notOwner
        else pure (.denied .notAuthorized)

/-- Decides about a token that the store did not resolve. -/
def reject (guard : Guard σ) (token : String) (context : Context) (error : TokenError) :
    Action σ ε Decision :=
  if guard.bypassToken = some token then do
    Action.log (.plain .warn
      ("Bypass token used for " ++ context.endpoint.name ++ " on " ++ context.table ++
        " (user id " ++ toString bypassUserId ++ ")"))
    return .allowed (some token)
  else do
    Action.log (.plain .debug ("Token rejected: " ++ error.message))
    return .denied .invalidToken

/-- Decides whether a request may go on, without a record of the decision. -/
def weigh (guard : Guard σ) (descriptor : Descriptor) (token : Option String) (schema : Schema)
    (context : Context) : Action σ ε Decision :=
  match descriptor.authorization with
  | none => pure (.denied .notActivated)
  | some .wildcard => pure (.allowed token)
  | some (.policy policy) =>
      match token with
      | none => pure (.denied .missingToken)
      | some token => do
          match ← (guard.tokens.resolve token).attempt with
          | .error error => guard.reject token context error
          | .ok caller => guard.judge policy token caller schema context

def entryOf (guard : Guard σ) (decision : Decision) (token : Option String) (context : Context) :
    LogEntry :=
  let subject := context.endpoint.name ++ " on " ++ context.table
  let fields := [("token", (token.map fingerprint).getD "-")]
  match decision with
  | .allowed _ => ⟨if guard.audit then .info else .debug, "Allowed " ++ subject, fields⟩
  | .denied denial =>
      ⟨.info,
        "Denied " ++ subject ++ ": " ++ toString denial.status ++ " " ++ denial.message, fields⟩

/-- Decides whether a request may go on, and logs the decision. -/
def evaluate (guard : Guard σ) (descriptor : Descriptor) (token : Option String)
    (schema : Schema) (context : Context) : Action σ ε Decision := do
  let decision ← guard.weigh descriptor token schema context
  Action.log (guard.entryOf decision token context)
  return decision

end Guard

end TableApi
