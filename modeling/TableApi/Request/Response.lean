import TableApi.Request.Context

/-!
# Answers

An answer has a status, headers and a body.  Errors are answered with their message as plain text
when messages are shown, and with an empty body otherwise; only a missing thing that was asked for
by the general entry is always answered with a JSON object.
-/

namespace TableApi

namespace Headers

def none : Headers :=
  ⟨[]⟩

/-- Sets a header, in place of one that has the same name. -/
def set (headers : Headers) (name value : String) : Headers :=
  let others := headers.entries.filter fun entry => lowered entry.1 != lowered name
  ⟨others ++ [(name, value)]⟩

/-- The punctuation that the name of a header may hold. -/
def namePunctuation : List Char :=
  ['!', '#', '$', '%', '&', '\'', '*', '+', '-', '.', '^', '_', Char.ofNat 0x60, '|', '~']

/-- Whether a text can be the name of a header. -/
def isName (name : String) : Bool :=
  !name.isEmpty && name.toList.all fun character =>
    character.isAlphanum || namePunctuation.contains character

end Headers

/-- An answer. -/
structure Response where
  status : Nat
  headers : Headers
  body : String
deriving DecidableEq, Repr

namespace Response

/-- The header that names the type of a body. -/
def contentType : String :=
  "content-type"

def empty (status : Nat) : Response :=
  ⟨status, Headers.none, ""⟩

def plain (status : Nat) (text : String) : Response :=
  ⟨status, Headers.none.set contentType "text/plain; charset=utf-8", text⟩

def json (status : Nat) (value : Json) : Response :=
  ⟨status, Headers.none.set contentType "application/json", value.render⟩

/-- The status of an answer with a code: a code that is no status becomes 500. -/
def statusOf (code : Nat) : Nat :=
  if 100 ≤ code ∧ code ≤ 999 then code else 500

/-- The answer for the output of an endpoint.  A token is echoed in the header with the given name
if both can be sent. -/
def ofOutput (output : HookOutput) (tokenHeader : String) : Response :=
  let response := json (statusOf output.code) output.body
  match output.token with
  | some token =>
      if Headers.isName tokenHeader && Headers.isSendable token then
        { response with headers := response.headers.set tokenHeader token }
      else response
  | none => response

/-- The log entry about a token that could not be echoed. -/
def unechoed (output : HookOutput) (tokenHeader : String) : List LogEntry :=
  match output.token with
  | some token =>
      if Headers.isName tokenHeader && Headers.isSendable token then []
      else [.plain .warn ("Token could not be echoed in header " ++ tokenHeader)]
  | none => []

end Response

namespace ApiError

/-- The answer for an error: its message if messages are shown, and nothing otherwise. -/
def respond (error : ApiError) (shown : Bool) : Response :=
  if shown then .plain error.kind.status error.message else .empty error.kind.status

/-- The answer for an error of a request that came by the general entry, or not. -/
def respondRouted (error : ApiError) (viaApi shown : Bool) : Response :=
  if viaApi ∧ error.kind = .notFound then
    .json 404 (.object [("error", .string error.kind.code),
      ("message", if shown then .string error.message else .null)])
  else error.respond shown

end ApiError

end TableApi
