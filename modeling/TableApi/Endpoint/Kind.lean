import TableApi.Text.Blank
import TableApi.Text.Scan

/-!
# The built-in endpoints

Every table has the same eleven endpoints.  Each has a name, which is its key in the settings
document of a table, a verb, and an identifier: the rest of the path behind the table, where
`{id}` stands for a number.
-/

namespace TableApi

/-- The verbs that endpoints answer to. -/
inductive Verb where
  | get
  | post
  | put
  | delete
deriving DecidableEq, Repr

namespace Verb

def all : List Verb :=
  [get, post, put, delete]

def text : Verb → String
  | get => "GET"
  | post => "POST"
  | put => "PUT"
  | delete => "DELETE"

/-- Reads a verb in any case, with blanks around it.  The error shows the text as it was compared:
without the blanks and in capitals. -/
def ofText (text : String) : Except String Verb :=
  let name := String.ofList ((Text.trim text.toList).map Char.toUpper)
  match all.find? fun verb => verb.text = name with
  | some verb => .ok verb
  | none => .error name

/-- The message for a text that is no verb. -/
def unsupported (name : String) : String :=
  "Unsupported request type: " ++ name

end Verb

/-- The endpoints that every table has. -/
inductive Endpoint where
  | get
  | search
  | findOne
  | exists
  | count
  | countByPost
  | create
  | insertBatch
  | update
  | destroy
  | deleteOne
deriving DecidableEq, Repr

namespace Endpoint

/-- Every endpoint, in the order in which they are listed and tried. -/
def all : List Endpoint :=
  [get, search, findOne, .exists, count, countByPost, create, insertBatch, update, destroy,
    deleteOne]

/-- The key of an endpoint in a settings document. -/
def name : Endpoint → String
  | get => "Get"
  | search => "Search"
  | findOne => "Find One"
  | .exists => "Exists"
  | count => "Count"
  | countByPost => "Count By Post"
  | create => "Create"
  | insertBatch => "Insert Batch"
  | update => "Update"
  | destroy => "Destroy"
  | deleteOne => "Delete One"

def verb : Endpoint → Verb
  | get | findOne | .exists | count => .get
  | search | countByPost | create | insertBatch => .post
  | update => .put
  | destroy | deleteOne => .delete

def identifierSegments : Endpoint → List String
  | get | create | destroy => []
  | search => ["search"]
  | findOne | update | deleteOne => ["\x7bid\x7d"]
  | .exists => ["\x7bid\x7d", "exists"]
  | count | countByPost => ["count"]
  | insertBatch => ["batch"]

/-- The path behind the table. -/
def identifier (endpoint : Endpoint) : String :=
  String.intercalate "/" endpoint.identifierSegments

/-- Whether an endpoint addresses one record. -/
def addressesRecord : Endpoint → Bool
  | findOne | .exists | update | deleteOne => true
  | _ => false

def ofName? (name : String) : Option Endpoint :=
  all.find? fun endpoint => endpoint.name = name

@[simp]
theorem ofName?_name (endpoint : Endpoint) : ofName? endpoint.name = some endpoint := by
  cases endpoint <;> decide

end Endpoint

/-- Whether a text consists of ASCII digits only; the empty text does. -/
def isNumeric (segment : String) : Bool :=
  segment.toList.all Char.isDigit

/-- The segments of a path: the texts between its slashes that are not empty. -/
def segmentsOf (path : String) : List String :=
  ((Text.splitAtChar '/' path.toList).filter fun segment => !segment.isEmpty).map .ofList

/-- The segments with every number replaced by the mark of an id. -/
def normalizeSegments (segments : List String) : List String :=
  segments.map fun segment => if isNumeric segment then "\x7bid\x7d" else segment

/-- A path without empty segments and with every number replaced by the mark of an id. -/
def normalizePath (path : String) : String :=
  String.intercalate "/" (normalizeSegments (segmentsOf path))

namespace Endpoint

/-- The endpoint for a verb and a normalized path; slashes around the path do not count. -/
def resolve? (verb : Verb) (path : String) : Option Endpoint :=
  let bare := (Text.dropWhileEnd (· == '/') (path.toList.dropWhile (· == '/')))
  all.find? fun endpoint => endpoint.verb = verb && endpoint.identifier.toList = bare

/-- The path of an endpoint behind the general entry, with marks for the table and the id. -/
def apiPath : Endpoint → String
  | get => "/api/get/<table>"
  | search => "/api/search/<table>"
  | findOne => "/api/get/<table>/<id>"
  | .exists => "/api/exists/<table>/<id>"
  | count | countByPost => "/api/count/<table>"
  | create => "/api/create/<table>"
  | insertBatch => "/api/batch/<table>"
  | update => "/api/update/<table>/<id>"
  | destroy => "/api/destroy/<table>"
  | deleteOne => "/api/delete/<table>/<id>"

end Endpoint

end TableApi
