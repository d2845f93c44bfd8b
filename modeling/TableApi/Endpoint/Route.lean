import TableApi.Request.ApiError

/-!
# Routes

Two forms of path lead to an endpoint.  The general entry names an action, a table and perhaps an
id: `/api/<action>/<table>/<id>`.  The short form starts with the table, and the rest of the path,
with numbers replaced by the mark of an id, is the identifier of the endpoint.
-/

namespace TableApi

/-- Where a request leads. -/
structure Route where
  table : String
  endpoint : Endpoint
  id : Option String
  /-- Whether the request came by the general entry. -/
  viaApi : Bool
deriving DecidableEq, Repr

/-- Why a request leads nowhere. -/
inductive RouteError where
  | noTable
  | noAction
  | wrongVerb (verb : Verb) (action : String)
  | unknownAction (action : String)
  | noEndpoint (verb : Verb) (segments : List String)
deriving DecidableEq, Repr

namespace RouteError

def message : RouteError → String
  | noTable => "No table in path"
  | noAction => "Expected /api/<action>/<table>"
  | wrongVerb verb action => "Invalid request type " ++ verb.text ++ " for /api/" ++ action
  | unknownAction action => "Unknown API action: " ++ action
  | noEndpoint verb segments =>
      "No endpoint for " ++ verb.text ++ " /" ++ String.intercalate "/" segments

def toApiError (error : RouteError) : ApiError :=
  match error with
  | wrongVerb _ _ => .badRequest error.message
  | _ => .notFound error.message

end RouteError

namespace Route

def entry : String :=
  "api"

/-- An action of the general entry: its name, the verb, whether an id follows the table, and the
endpoint that it leads to. -/
structure Action where
  name : String
  verb : Verb
  withId : Bool
  endpoint : Endpoint
deriving DecidableEq, Repr

def actions : List Action :=
  [⟨"get", .get, false, .get⟩, ⟨"get", .get, true, .findOne⟩, ⟨"get", .post, false, .search⟩,
    ⟨"search", .post, false, .search⟩, ⟨"exists", .get, true, .exists⟩,
    ⟨"count", .get, false, .count⟩, ⟨"count", .post, false, .countByPost⟩,
    ⟨"create", .post, false, .create⟩, ⟨"batch", .post, false, .insertBatch⟩,
    ⟨"update", .put, true, .update⟩, ⟨"destroy", .delete, false, .destroy⟩,
    ⟨"delete", .delete, true, .deleteOne⟩]

/-- Finds the route of the general entry behind its first segment. -/
def ofAction (verb : Verb) : List String → Except RouteError Route
  | action :: table :: rest =>
      let name := String.ofList (action.toList.map Char.toLower)
      let id := rest.head?
      match actions.find? fun known =>
          known.name = name && known.verb = verb && known.withId = id.isSome with
      | some known => .ok ⟨table, known.endpoint, id, true⟩
      | none =>
          if actions.any fun known => known.name = name then .error (.wrongVerb verb name)
          else .error (.unknownAction name)
  | _ => .error .noAction

def ofTable (verb : Verb) (table : String) (rest : List String) : Except RouteError Route :=
  match Endpoint.resolve? verb (normalizePath (String.intercalate "/" rest)) with
  | some endpoint => .ok ⟨table, endpoint, rest.find? isNumeric, false⟩
  | none => .error (.noEndpoint verb (table :: rest))

/-- Finds the route of a request by its verb and the segments of its path. -/
def find (verb : Verb) : List String → Except RouteError Route
  | [] => .error .noTable
  | first :: rest => if first = entry then ofAction verb rest else ofTable verb first rest

/-- Whether a path is one of the general entry. -/
def isApiPath (path : String) : Bool :=
  (segmentsOf path).head? = some entry

end Route

end TableApi
