import TableApi.Address.Reader
import TableApi.CommandLine.Grammar
import TableApi.CommandLine.Output
import TableApi.Configuration.Basic
import TableApi.Endpoint.Summary
import TableApi.Filter.QueryString
import TableApi.Request.Response
import TableApi.Server.Target

/-!
# Commands for operators

The commands look at filters, routes and settings documents without a server or a database, and one
asks a running server for its health.  A command is a function of the files and the variables it
may read.
-/

namespace TableApi

/-- What an operator asks for. -/
inductive Command where
  /-- The statement for a filter on a table. -/
  | explain (table : String) (query body : Option String) (count : Bool)
  /-- The built-in endpoints. -/
  | listEndpoints
  /-- The settings document of a table. -/
  | checkEndpoints (table : String) (directory : Option String)
  /-- The endpoint for a method and a path. -/
  | resolve (method path : String) (override : Option String)
  /-- The health of a running server. -/
  | ping (url : Option String)
deriving DecidableEq, Repr

namespace CommandLine

def helpArgument : NamedArgument :=
  ⟨"help", some 'h', .help, []⟩

def commonArguments : List NamedArgument :=
  [⟨"text", none, .flag, []⟩, ⟨"json", none, .flag, []⟩, helpArgument]

/-- A command that takes the common arguments and these. -/
def leaf (name : String) (named : List NamedArgument) (placed : List PlacedArgument) :
    CommandGrammar :=
  ⟨name, named ++ commonArguments, placed, []⟩

/-- A command that takes the common arguments and a subcommand. -/
def group (name : String) (subcommands : List CommandGrammar) : CommandGrammar :=
  ⟨name, commonArguments, [], subcommands⟩

/-- An argument with a value of a kind. -/
def valued (name : String) (kind : ValueKind) (conflicts : List String) : NamedArgument :=
  ⟨name, none, .value kind, conflicts⟩

def grammar : CommandGrammar where
  name := "trongate"
  named := commonArguments ++ [⟨"version", some 'V', .version, []⟩]
  placed := []
  subcommands :=
    [leaf "explain"
        [valued "query" .text ["body"], valued "body" .text ["query"],
          ⟨"count", none, .flag, []⟩]
        [⟨"TABLE", true⟩],
      group "endpoints"
        [leaf "list" [] [],
          leaf "check" [valued "modules-dir" .path []] [⟨"TABLE", true⟩]],
      leaf "resolve" [valued "override" .text []] [⟨"METHOD", true⟩, ⟨"PATH", true⟩],
      group "server" [leaf "ping" [valued "timeout" .word []] [⟨"URL", false⟩]]]

def valueOf (given : Given) (name : String) : Option String :=
  List.lookup name given

/-- Whether any of the commands was given the flag for JSON. -/
def asksForJson (invocation : Invocation) : Bool :=
  invocation.any fun (_, given) => CommandGrammar.isGiven given "json"

/-- The command that the innermost words ask for. -/
def commandOf (name : String) (given : Given) : Command :=
  let value (argument : String) : String := (valueOf given argument).getD ""
  match name with
  | "explain" =>
      .explain (value "TABLE") (valueOf given "query") (valueOf given "body")
        (CommandGrammar.isGiven given "count")
  | "check" => .checkEndpoints (value "TABLE") (valueOf given "modules-dir")
  | "resolve" => .resolve (value "METHOD") (value "PATH") (valueOf given "override")
  | "ping" => .ping (valueOf given "URL")
  | _ => .listEndpoints

/-- Reads a command line: the command, and whether it is to print JSON. -/
def read (words : List String) : Except UsageError (Command × Bool) := do
  let invocation ← grammar.parse words
  let (name, given) := invocation.getLastD ("", [])
  return (commandOf name given, asksForJson invocation)

end CommandLine

namespace Command

/-- The filters of a request to explain: those of the body, or those of the query string. -/
def filtersOf (query body : Option String) : Except FilterError FilterSet :=
  match query, body with
  | _, some body => FilterBody.filtersOfBytes body.toUTF8.toList
  | some query, none => .ok (QueryString.filters query)
  | none, none => .ok .empty

/-- The statement for filters on a table whose columns nobody has looked up. -/
def statementFor (table : String) (filters : FilterSet) (count : Bool) : Statement :=
  if count then .select .count table { FilterSet.empty with conditions := filters.conditions }
  else .select .all table filters

/-- The failure for filters that cannot be read. -/
def filterFailure (error : FilterError) : CommandFailure :=
  match error with
  | .invalidJson cause => ⟨error.message, some cause.message⟩
  | _ => .plain error.message

/-- The filters and the statement of a request to explain. -/
def render (table : String) (query body : Option String) (count : Bool) :
    Except CommandFailure (FilterSet × Sql) :=
  if Documents.isTableName table then do
    let filters ← (filtersOf query body).mapError filterFailure
    return (filters, (statementFor table filters count).toSql)
  else .error (.plain ("Invalid table name: " ++ table))

def numberOrNull : Option Nat → Json
  | some value => .ofNat value
  | none => .null

def conditionJson (condition : Condition) : Json :=
  .object [("column", .string condition.column),
    ("operator", .string condition.comparison.symbol), ("value", .string condition.value),
    ("conjunction", .string condition.conjunction.word)]

def filtersJson (filters : FilterSet) : Json :=
  .object [("conditions", .array (filters.conditions.map conditionJson)),
    ("order_by", .ofText? filters.orderBy), ("limit", numberOrNull filters.limit),
    ("offset", numberOrNull filters.offset)]

def printSql (sql : Sql) : CommandOutcome :=
  let params := if sql.params.isEmpty then []
    else ["params: [" ++ String.intercalate ", " (sql.params.map Json.render) ++ "]"]
  .lines (sql.query :: params)

/-- The log entries about the parts of a query string that are no filters. -/
def ignoredOf (query body : Option String) : List LogEntry :=
  match query, body with
  | some query, none => QueryString.ignored query
  | _, _ => []

def runExplain (table : String) (query body : Option String) (count json : Bool) :
    CommandOutcome :=
  match render table query body count with
  | .error failure => .failed failure
  | .ok (filters, sql) =>
      let report :=
        if json then
          CommandOutcome.value (.object [("sql", .string sql.query), ("params", .array sql.params),
            ("filters", filtersJson filters)])
        else printSql sql
      { report with entries := ignoredOf query body }

/-- The short form of the path of an endpoint. -/
def shorthand (endpoint : Endpoint) : String :=
  .ofList (Text.dropWhileEnd (· == '/') ("/<table>/" ++ endpoint.identifier).toList)

def endpointJson (endpoint : Endpoint) : Json :=
  .object [("name", .string endpoint.name), ("request_type", .string endpoint.verb.text),
    ("restful_identifier", .string endpoint.identifier), ("api_path", .string endpoint.apiPath)]

def runList (json : Bool) : CommandOutcome :=
  if json then .value (.object [("endpoints", .array (Endpoint.all.map endpointJson))])
  else
    .lines (TextTable.lines ["ENDPOINT", "METHOD", "SHORTHAND", "API PATH"]
      (Endpoint.all.map fun endpoint =>
        [endpoint.name, endpoint.verb.text, shorthand endpoint, endpoint.apiPath]))

/-- The remark on an entry whose verb is not the built-in one, or that belongs to no endpoint. -/
def remark (summary : Summary) : String :=
  match summary.standardVerb with
  | some true => ""
  | some false => " (method differs from built-in)"
  | none => " (custom)"

/-- The failure for a document that cannot be read. -/
def documentFailure (error : DocumentError) : CommandFailure :=
  match error with
  | .unreadable _ reason => ⟨error.message, some reason⟩
  | _ => .plain error.message

def runCheck (documents : Documents) (table : String) (json : Bool) : CommandOutcome :=
  match documents.load table with
  | .error error => .failed (documentFailure error)
  | .ok entries =>
      let summaries := Summary.ofEntries entries
      let path := documents.documentPath table
      if json then
        .value (.object [("table", .string table), ("path", .string path),
          ("endpoints", .array (summaries.map Summary.toJson))])
      else
        .lines ((path ++ " (" ++ toString summaries.length ++ " entries)") ::
          TextTable.lines ["ENDPOINT", "METHOD", "AUTHORIZATION"]
            (summaries.map fun summary =>
              [summary.name ++ remark summary, summary.descriptor.verb.text,
                Authorization.describe summary.descriptor.authorization]))

def contextOf (method target : String) (override : Option String) :
    Except CommandFailure Context := do
  let name := String.ofList (method.toList.map Char.toUpper)
  if !Headers.isName name then
    .error ⟨"Invalid HTTP method: " ++ method, some "invalid HTTP method"⟩
  else if !override.all Headers.isSendable then
    .error (.plain "failed to parse header value")
  else
    let place := Target.ofPath target.toList
    let headers : Headers :=
      ⟨override.toList.map fun value => (Request.overrideHeader, value)⟩
    let request : Request := ⟨name, place.path, place.query, headers, []⟩
    (request.context "").mapError fun error => .plain error.message

def runResolve (method target : String) (override : Option String) (json : Bool) :
    CommandOutcome :=
  match contextOf method target override with
  | .error failure => .failed failure
  | .ok context =>
      if json then
        .value (.object [("endpoint", .string context.endpoint.name),
          ("method", .string context.verb.text), ("table", .string context.table),
          ("id", .ofText? context.id), ("via_api", .bool context.viaApi),
          ("settings_key",
            .string (context.table ++ "/assets/api.json#" ++ context.endpoint.name))])
      else
        .lines ([context.verb.text ++ " " ++ target ++ " -> " ++ context.endpoint.name,
            "table: " ++ context.table] ++
          (context.id.toList.map fun id => "id: " ++ id) ++
          ["route: " ++ if context.viaApi then "api prefix" else "shorthand"])

/-- The address that a server answers about its health. -/
def healthUrl (base : String) : String :=
  .ofList (Text.dropWhileEnd (· == '/') base.toList) ++ "/health"

/-- The longest address that requests can be sent to, in bytes. -/
def longestTarget : Nat :=
  65534

/-- Whether requests can be sent to an address: one of a web server, whose name has neither
quotation marks nor braces. -/
def canSendTo (address : Address) : Bool :=
  let marks := "\"\x7b\x7d".toList ++ [Char.ofNat 0x60]
  (address.scheme = "http".toList || address.scheme = "https".toList) &&
    (address.authority.any fun authority => !authority.host.text.any marks.contains) &&
    address.text.utf8ByteSize ≤ longestTarget

/-- Why sending a request to an address fails: there is no connection to any server.  Credentials
are not sent as a part of the address. -/
def sendingFailure (url : String) : String :=
  match (Address.ofText? url).map Address.anonymous with
  | none => "builder error"
  | some address =>
      (if canSendTo address then "error sending request" else "builder error") ++
        " for url (" ++ address.text ++ ")"

/-- Asks a server for its health, which always fails. -/
def runPing (base : String) (json : Bool) : CommandOutcome :=
  let reason := sendingFailure (healthUrl base)
  let report := CommandOutcome.error json (base ++ " is down: " ++ reason)
    (some "SERVER_UNREACHABLE")
  { report with failure := some (.plain reason) }

/-- Runs a command with the files and the variables that it may read. -/
def run (command : Command) (files : Files) (scope : Variables) (json : Bool) :
    CommandOutcome :=
  let configuration := Configuration.ofVariables scope
  match command with
  | explain table query body count => runExplain table query body count json
  | listEndpoints => runList json
  | checkEndpoints table directory =>
      runCheck ⟨directory.getD configuration.modulesDirectory, files⟩ table json
  | resolve method path override => runResolve method path override json
  | ping url =>
      runPing (url.getD ("http://localhost:" ++ toString configuration.api.port)) json

end Command

end TableApi
