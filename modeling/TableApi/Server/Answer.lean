import TableApi.Configuration.Basic
import TableApi.Request.Handling
import TableApi.Request.Response
import TableApi.Server.Origin
import TableApi.Server.Target

/-!
# The server

The server answers every request: a few paths by itself, and every other one by handling it.
Around the answers lies the limit on the length of bodies, and around that the rule which origins
may read them.
-/

namespace TableApi

/-- A server over one world. -/
structure Server (σ : Type) where
  database : Database σ
  tokens : TokenStore σ
  documents : Documents
  hooks : HookRegistry
  configuration : Configuration

namespace Server

variable {σ ε : Type}

def service (server : Server σ) : Service σ where
  database := server.database
  tokens := server.tokens
  documents := server.documents
  hooks := server.hooks
  bypassToken := server.configuration.security.bypassToken
  audit := server.configuration.security.audit

/-- An endpoint as the list of endpoints shows it. -/
def describe (endpoint : Endpoint) : Json :=
  .object [("name", .string endpoint.name), ("request_type", .string endpoint.verb.text),
    ("restful_identifier", .string endpoint.identifier)]

def welcome : Response :=
  .json 200 (.object
    [("success", .bool true),
      ("data", .object
        [("name", .string "Trongate API"),
          ("version", .string version),
          ("description",
            .string "Generic REST-over-SQL endpoints with per-table authorization"),
          ("routes", .object
            [("api", .string "/api/<action>/<table>[/<id>]"),
              ("shorthand", .string "/<table>[/<id>][/exists|/count|/search|/batch]"),
              ("health", .string "/health")]),
          ("endpoints", .array (Endpoint.all.map describe))])])

/-- The answer about the health of the database. -/
def healthAnswer : Except DatabaseError Unit → Response
  | .ok () =>
      .json 200 (.object
        [("success", .bool true),
          ("data", .object [("status", .string "ok"), ("database", .string "ok")])])
  | .error error =>
      .json 503 (.object
        [("success", .bool false), ("error", .string "database unavailable"),
          ("data", .object
            [("status", .string "degraded"), ("database_error", .string error.message)])])

/-- Asks the database for a sign of life and answers what it gave. -/
def health (server : Server σ) : Action σ ε Response := do
  let sign ← server.database.check.attempt
  return healthAnswer sign

/-- The way that a request came. -/
def wayOf (context : Context) : String :=
  if context.viaApi then "api prefix" else "shorthand"

/-- Handles a request and answers its output or its error. -/
def dispatch (server : Server σ) (request : Request) : Action σ ε Response := do
  let shown := server.configuration.isDevelopment
  let tokenHeader := server.configuration.api.tokenHeader
  match request.context tokenHeader with
  | .error error =>
      Action.log (.plain .debug
        ("No endpoint for " ++ request.method ++ " " ++ request.path ++ ": " ++ error.message))
      return error.respondRouted (Route.isApiPath request.path) shown
  | .ok context =>
      Action.log (.plain .debug
        ("Resolved " ++ context.verb.text ++ " " ++ request.path ++ " via " ++ wayOf context))
      match ← (server.service.handle context).attempt with
      | .ok output =>
          Action.emit ((Response.unechoed output tokenHeader).map Event.log)
          return .ofOutput output tokenHeader
      | .error error =>
          Action.log (.plain .info
            (toString error.kind.status ++ " " ++ error.kind.code ++ ": " ++ error.message))
          return error.respondRouted context.viaApi shown

/-- The most bytes of a body that are read whatever the configuration allows. -/
def largestBuffer : Nat := 2 * 1024 * 1024

/-- The length that a request announces for its body. -/
def announcedLength (request : Request) : Option Nat :=
  ((request.headers.get? "content-length").filter Headers.isText).bind fun text =>
    Text.word? text.toList

/-- The most bytes of a body that are read. -/
def bodyLimit (limit : Nat) (request : Request) : Nat :=
  min largestBuffer (min limit ((announcedLength request).getD limit))

/-- The paths that the server answers by itself. -/
def ownPaths : List String :=
  ["/", "/health"]

def ownMethods : List String :=
  ["GET", "HEAD"]

/-- Answers a request for one of the paths of the server itself. -/
def answerOwn (server : Server σ) (request : Request) : Action σ ε Response :=
  if ownMethods.contains request.method then
    if request.path = "/health" then server.health else pure welcome
  else pure (.empty 405)

/-- Answers a request whose body may be read. -/
def answerWithin (server : Server σ) (request : Request) : Action σ ε Response :=
  if ownPaths.contains request.path then server.answerOwn request
  else if bodyLimit server.configuration.api.largestBody request < request.body.length then
    pure (.plain 413 "Failed to buffer the request body: length limit exceeded")
  else server.dispatch request

/-- Answers a request unless it announces a body that is too long. -/
def answerLimited (server : Server σ) (request : Request) : Action σ ε Response :=
  if (announcedLength request).any fun length =>
      server.configuration.api.largestBody < length then
    pure (.plain 413 "length limit exceeded")
  else server.answerWithin request

/-- An answer with a header unless it has one of that name. -/
def withDefault (name value : String) (response : Response) : Response :=
  if (response.headers.get? name).isSome then response
  else { response with headers := response.headers.set name value }

/-- An answer as it is sent: with the length of its body, with the allowed methods where an own path
was asked for with another one, and without the body where only the headers of an own path were
asked for. -/
def finish (request : Request) (response : Response) : Response :=
  let isOwn := ownPaths.contains request.path
  let response :=
    if isOwn && !ownMethods.contains request.method then
      withDefault "allow" (String.intercalate "," ownMethods) response
    else response
  let response := withDefault "content-length" (toString response.body.utf8ByteSize) response
  if isOwn && request.method = "HEAD" then { response with body := "" } else response

/-- Answers a request.  A question about what is allowed, the method `OPTIONS`, needs no more than
the rule about origins. -/
def answer (server : Server σ) (request : Request) : Action σ ε Response := do
  let response ←
    if request.method = "OPTIONS" then pure (.empty 200) else server.answerLimited request
  return finish request (Origin.state server.configuration request response)

end Server

end TableApi
