import TableApi.Configuration.Basic
import TableApi.Request.Response

/-!
# Which origins may read answers

Each answer tells the program that shows it which origins may read it: every origin when the
configuration lists none, and otherwise the origin of the request if it is on the list.  A request
with the method `OPTIONS` asks for no more than that, and also learns which methods and headers it
may send.
-/

namespace TableApi

namespace Headers

/-- Adds a header behind those that have the same name. -/
def append (headers : Headers) (name value : String) : Headers :=
  ⟨headers.entries ++ [(name, value)]⟩

end Headers

namespace Origin

/-- The header that says which origin may read an answer. -/
def header : String :=
  "access-control-allow-origin"

/-- The header that says on which headers of the request an answer depends. -/
def varyHeader : String :=
  "vary"

/-- The headers of a request on which the rule depends. -/
def decisive : String :=
  "origin, access-control-request-method, access-control-request-headers"

def isOpen (configuration : Configuration) : Bool :=
  configuration.security.origins.isEmpty

/-- The origin that may read the answer to a request: any if there is no list of origins, and
otherwise the one that asks if it is on the list. -/
def allowed (configuration : Configuration) (request : Request) : Option String :=
  if isOpen configuration then some "*"
  else
    (request.headers.get? "origin").filter fun origin =>
      (configuration.security.origins.filter Headers.isSendable).contains origin

/-- What a request may learn by the method `OPTIONS`. -/
def permissions (configuration : Configuration) : List (String × String) :=
  [("access-control-allow-methods",
      if isOpen configuration then "*" else "GET,POST,PUT,DELETE"),
    ("access-control-allow-headers", "*")]

/-- Which headers of an answer may be read. -/
def exposure (configuration : Configuration) : List (String × String) :=
  if isOpen configuration then [("access-control-expose-headers", "*")] else []

/-- The headers that state the rule, in place of those of an answer that have the same names. -/
def stated (configuration : Configuration) (request : Request) : List (String × String) :=
  ((allowed configuration request).toList.map fun origin => (header, origin)) ++
    if request.method = "OPTIONS" then permissions configuration else exposure configuration

/-- The answer to a request with the headers that state the rule. -/
def state (configuration : Configuration) (request : Request) (response : Response) : Response :=
  let headers := (stated configuration request).foldl
    (fun headers (name, value) => headers.set name value) response.headers
  { response with headers := headers.append varyHeader decisive }

end Origin

end TableApi
