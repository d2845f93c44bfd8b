import TableApi.Json.Basic

/-!
# What hooks receive

A before hook receives the data of a request and hands back data in its place; an after hook
does the same with the answer.  Both are functions on one payload type, so a hook may also hand
back the wrong kind, which is an error of its own.
-/

namespace TableApi

/-- The data of a request that a before hook sees: the accepted token, the table, the name of the
endpoint, the decoded body (null when there is none) and the raw query string. -/
structure HookInput where
  token : Option String
  table : String
  endpoint : String
  params : Json
  query : String
deriving DecidableEq, Repr

/-- The data of an answer that an after hook sees; nothing else reaches the client. -/
structure HookOutput where
  body : Json
  code : Nat
  token : Option String
deriving DecidableEq, Repr

/-- What a hook receives and hands back. -/
inductive HookPayload where
  | input (data : HookInput)
  | output (data : HookOutput)
deriving DecidableEq, Repr

namespace HookPayload

def kind : HookPayload → String
  | input _ => "input"
  | output _ => "output"

end HookPayload

/-- Why a hook did not hand a payload on. -/
inductive HookError where
  | unknown (name : String)
  | mismatch (name expected returned : String)
  | rejected (reason : String)
  | failed (reason : String)
deriving DecidableEq, Repr

namespace HookError

def message : HookError → String
  | unknown name => "Unknown hook: " ++ name
  | mismatch name expected returned =>
      "Hook " ++ name ++ " returned an " ++ returned ++ " payload, expected " ++ expected
  | rejected reason => reason
  | failed reason => "Hook failed: " ++ reason

end HookError

/-- A hook as a function of its payload. -/
abbrev Hook := HookPayload → Except HookError HookPayload

end TableApi
