import TableApi.Access.Sha256
import TableApi.Effect.Action
import TableApi.Named
import TableApi.Text.Percent

/-!
# Tokens and callers

A request may present a token, and a token store says which caller is behind it.  A store may ask
the database to find out.  Only the fingerprint of a token is ever logged: twelve hexadecimal
digits from its digest.
-/

namespace TableApi

/-- The user behind a token. -/
structure Caller where
  userId : Int
  userLevel : String
  userCode : String
deriving DecidableEq, Repr

/-- Why a token has no caller. -/
inductive TokenError where
  | unknown
  | expired
  | database (error : DatabaseError)
deriving DecidableEq, Repr

namespace TokenError

def message : TokenError → String
  | unknown => "Token not recognised"
  | expired => "Token expired"
  | database error => error.message

end TokenError

/-- The reply of a token store, with the queries that it sent. -/
structure Lookup (σ : Type) where
  reply : Reply σ TokenError Caller
  queries : List Sql

/-- What says which caller is behind a token. -/
structure TokenStore (σ : Type) where
  lookup : String → σ → Lookup σ

namespace TokenStore

variable {σ : Type}

/-- Asks a store for the caller behind a token. -/
def resolve (store : TokenStore σ) (token : String) : Action σ TokenError Caller :=
  fun state =>
    let found := store.lookup token state
    Action.call (.lookup token found.queries) (fun _ => found.reply) state

/-- The store that knows these tokens. -/
def ofKnown (known : Named Caller) : TokenStore σ where
  lookup token state :=
    let result := match Named.get? known token with
      | some caller => .ok caller
      | none => .error .unknown
    ⟨.quiet result state, []⟩

/-- The query for the caller behind a token. -/
def query (token : String) : Sql :=
  ⟨"SELECT trongate_tokens.user_id, trongate_tokens.expiry_date, " ++
      "trongate_users.code AS user_code, trongate_user_levels.level_title AS user_level " ++
      "FROM trongate_tokens " ++
      "INNER JOIN trongate_users ON trongate_tokens.user_id = trongate_users.id " ++
      "INNER JOIN trongate_user_levels " ++
      "ON trongate_users.user_level_id = trongate_user_levels.id " ++
      "WHERE trongate_tokens.token=?",
    [.string token]⟩

/-- The text of a field of a row; nothing and null are the empty text. -/
def textField (row : Row) (column : String) : String :=
  match Fields.get? row column with
  | some (.string text) => text
  | some .null => ""
  | none => ""
  | some other => other.render

/-- The integer of a field of a row. -/
def integerField (row : Row) (column : String) : Int :=
  Json.toInteger (Fields.get? row column)

/-- The caller that the rows of the query give at a time. -/
def callerOf (now : Int) : List Row → Except TokenError Caller
  | [] => .error .unknown
  | row :: _ =>
      if integerField row "expiry_date" ≤ now then .error .expired
      else
        .ok ⟨integerField row "user_id", textField row "user_level", textField row "user_code"⟩

/-- The store that asks a database, at a time. -/
def ofDatabase (database : Database σ) (now : Int) : TokenStore σ where
  lookup token state :=
    let reply := database.fetchAll (query token) state
    let result := match reply.result with
      | .ok rows => callerOf now rows
      | .error error => .error (.database error)
    ⟨⟨result, reply.entries, reply.state⟩, [query token]⟩

end TokenStore

/-- A byte as two hexadecimal digits in lower case. -/
def hexByte (byte : UInt8) : List Char :=
  [Json.hexDigit (byte.toNat / 16), Json.hexDigit (byte.toNat % 16)]

/-- What may be logged of a token. -/
def fingerprint (token : String) : String :=
  .ofList (((Sha256.digest token.toUTF8.toList).take 6).flatMap hexByte)

end TableApi
