import TableApi.Endpoint.Route

/-!
# Requests

A request as it arrives has a method, a path, a query string, headers and a body.  Its context is
what the handling needs of it: the effective verb, the route, the segments of the path, and the
token if one was presented.

A header value is text only when its characters are visible ASCII characters, spaces and tabs.
-/

namespace TableApi

/-- Header values under their names. -/
structure Headers where
  entries : List (String × String)
deriving DecidableEq, Repr

namespace Headers

/-- The name of a header in lower case. -/
def lowered (name : String) : List Char :=
  name.toList.map Char.toLower

/-- The value of a header, whatever the case of its name. -/
def get? (headers : Headers) (name : String) : Option String :=
  (headers.entries.find? fun entry => lowered entry.1 = lowered name).map Prod.snd

/-- Whether a character may stand in a header value that is text. -/
def isTextChar (character : Char) : Bool :=
  character == '\t' || (0x20 ≤ character.toNat && character.toNat ≤ 0x7E)

/-- Whether a character may stand in a header value at all: controls other than the tab may not. -/
def isSendableChar (character : Char) : Bool :=
  character == '\t' || (0x20 ≤ character.toNat && character.toNat != 0x7F)

/-- Whether a text can be the value of a header. -/
def isSendable (value : String) : Bool :=
  value.toList.all isSendableChar

def isText (value : String) : Bool :=
  value.toList.all isTextChar

end Headers

/-- A request as it arrives. -/
structure Request where
  method : String
  path : String
  query : Option String
  headers : Headers
  body : List UInt8
deriving DecidableEq, Repr

/-- What the handling of a request needs to know. -/
structure Context where
  verb : Verb
  table : String
  endpoint : Endpoint
  id : Option String
  segments : List String
  token : Option String
  query : String
  body : List UInt8
  viaApi : Bool
deriving DecidableEq, Repr

namespace Request

/-- The header that names another verb for a request whose method is not `GET`. -/
def overrideHeader : String :=
  "X-HTTP-Method-Override"

def verbOf (text : String) : Except ApiError Verb :=
  (Verb.ofText text).mapError fun name => .badRequest (Verb.unsupported name)

def effectiveVerb (method : String) (headers : Headers) : Except ApiError Verb :=
  if method = "GET" then verbOf method
  else
    match headers.get? overrideHeader with
    | none => verbOf method
    | some value =>
        if Headers.isText value then verbOf value
        else .error (.badRequest "Invalid method override header")

/-- The token in a header: its text without blanks around it, unless it is blank. -/
def tokenIn (headers : Headers) (name : String) : Option String :=
  (((headers.get? name).filter Headers.isText).map Text.trimmed).filter fun token =>
    !token.isEmpty

/-- The context of a request whose token is in the header with this name. -/
def context (request : Request) (tokenHeader : String) : Except ApiError Context := do
  let verb ← effectiveVerb request.method request.headers
  let segments := segmentsOf request.path
  let route ← (Route.find verb segments).mapError RouteError.toApiError
  return {
    verb
    table := route.table
    endpoint := route.endpoint
    id := route.id
    segments
    token := tokenIn request.headers tokenHeader
    query := request.query.getD ""
    body := request.body
    viaApi := route.viaApi }

end Request

namespace Context

/-- A segment of the path; the first one has number one. -/
def segment? (context : Context) (number : Nat) : Option String :=
  match number with
  | 0 => none
  | index + 1 => context.segments[index]?

/-- The id of the addressed record, when its segment is a number that fits 64 bits. -/
def numericId (context : Context) : Option Int :=
  (context.id.filter fun id => !id.isEmpty && isNumeric id).bind fun id =>
    Text.integer? id.toList

end Context

end TableApi
