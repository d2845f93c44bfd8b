import TableApi.Json.Basic
import TableApi.Text.Scan

/-!
# Configuration

A configuration starts from the preset of its environment, and variables replace single settings.
A variable that does not spell a value of its setting leaves the setting as it is.
-/

namespace TableApi

def version : String :=
  "0.1.0"

/-- Where the service runs. -/
inductive Environment where
  | development
  | staging
  | production
deriving DecidableEq, Repr

namespace Environment

def name : Environment → String
  | development => "Development"
  | staging => "Staging"
  | production => "Production"

/-- The environment that a variable names; any other text, and none, is development. -/
def ofVariable (value : Option String) : Environment :=
  match value with
  | some "production" | some "prod" => production
  | some "staging" | some "stage" => staging
  | _ => development

end Environment

/-- The settings of the interface. -/
structure ApiSettings where
  port : Nat
  tokenHeader : String
  largestBody : Nat
  requestLogging : Bool
deriving DecidableEq, Repr

/-- The settings of the database. -/
structure DatabaseSettings where
  url : Option String
  connections : Nat
  timeout : Nat
  queryLogging : Bool
  slowMilliseconds : Nat
deriving DecidableEq, Repr

/-- The settings of the protection. -/
structure SecuritySettings where
  bypassToken : Option String
  audit : Bool
  origins : List String
deriving DecidableEq, Repr

/-- Every setting of a service. -/
structure Configuration where
  environment : Environment
  api : ApiSettings
  database : DatabaseSettings
  modulesDirectory : String
  security : SecuritySettings
deriving DecidableEq, Repr

abbrev Variables := List (String × String)

namespace Variables

def get? (scope : Variables) (name : String) : Option String :=
  List.lookup name scope

end Variables

namespace Configuration

def development : Configuration where
  environment := .development
  api := ⟨3000, "trongateToken", 10 * 1024 * 1024, true⟩
  database := ⟨none, 10, 30, true, 100⟩
  modulesDirectory := "modules"
  security := ⟨none, false, []⟩

def staging : Configuration where
  environment := .staging
  api := ⟨3000, "trongateToken", 5 * 1024 * 1024, true⟩
  database := ⟨none, 20, 10, true, 500⟩
  modulesDirectory := "modules"
  security := ⟨none, true, ["https://staging.example.com"]⟩

def production : Configuration where
  environment := .production
  api := ⟨3000, "trongateToken", 2 * 1024 * 1024, false⟩
  database := ⟨none, 50, 5, false, 1000⟩
  modulesDirectory := "modules"
  security := ⟨none, true, ["https://app.example.com"]⟩

def preset : Environment → Configuration
  | .development => development
  | .staging => staging
  | .production => production

/-- Whether messages are shown to clients. -/
def isDevelopment (configuration : Configuration) : Bool :=
  configuration.environment = .development

/-- A setting as a variable replaces it: by what its text spells, if it spells anything. -/
def override {α : Type} (given : Option String) (spelled : List Char → Option α)
    (setting : α) : α :=
  (given.bind fun text => spelled text.toList).getD setting

def largestPort : Nat := 65535

def largestConnections : Nat := 4294967295

/-- The entries of a list with commas between them, without blanks around them; blank entries do
not count. -/
def listOf (text : String) : List String :=
  ((Text.splitAtChar ',' text.toList).map fun entry => String.ofList (Text.trim entry)).filter
    fun entry => !entry.isEmpty

/-- A text without blanks around it, unless it is blank. -/
def nonBlank? (text : List Char) : Option String :=
  if (Text.trim text).isEmpty then none else some (.ofList (Text.trim text))

/-- The settings of the interface as variables replace them.  The second name of the port counts
only when the first one is not set at all. -/
def apiWith (scope : Variables) (settings : ApiSettings) : ApiSettings where
  port := override ((scope.get? "API_PORT").or (scope.get? "PORT"))
    (Text.natural? largestPort) settings.port
  tokenHeader := override (scope.get? "API_TOKEN_HEADER") nonBlank? settings.tokenHeader
  largestBody := override (scope.get? "API_MAX_REQUEST_SIZE_BYTES") Text.word?
    settings.largestBody
  requestLogging := override (scope.get? "API_ENABLE_REQUEST_LOGGING") Text.truth?
    settings.requestLogging

/-- The settings of the database as variables replace them. -/
def databaseWith (scope : Variables) (settings : DatabaseSettings) : DatabaseSettings where
  url := (scope.get? "DATABASE_URL").or settings.url
  connections := override (scope.get? "DATABASE_MAX_CONNECTIONS")
    (Text.natural? largestConnections) settings.connections
  timeout := override (scope.get? "DATABASE_CONNECTION_TIMEOUT") Text.word? settings.timeout
  queryLogging := override (scope.get? "DATABASE_ENABLE_QUERY_LOGGING") Text.truth?
    settings.queryLogging
  slowMilliseconds := override (scope.get? "DATABASE_SLOW_QUERY_THRESHOLD_MS") Text.word?
    settings.slowMilliseconds

/-- The settings of the protection as variables replace them.  A blank bypass token means none. -/
def securityWith (scope : Variables) (settings : SecuritySettings) : SecuritySettings where
  bypassToken := match scope.get? "SECURITY_BYPASS_TOKEN" with
    | some text => nonBlank? text.toList
    | none => settings.bypassToken
  audit := override (scope.get? "SECURITY_ENABLE_AUDIT_LOGGING") Text.truth? settings.audit
  origins := match scope.get? "SECURITY_CORS_ORIGINS" with
    | some text => listOf text
    | none => settings.origins

/-- A configuration as variables replace its settings. -/
def withVariables (configuration : Configuration) (scope : Variables) : Configuration where
  environment := configuration.environment
  api := apiWith scope configuration.api
  database := databaseWith scope configuration.database
  modulesDirectory := (scope.get? "ENDPOINTS_MODULES_DIR").getD configuration.modulesDirectory
  security := securityWith scope configuration.security

/-- The configuration that the variables of a process describe. -/
def ofVariables (scope : Variables) : Configuration :=
  (preset (.ofVariable (scope.get? "APP_ENV"))).withVariables scope

def toJson (configuration : Configuration) : Json :=
  .object
    [("environment", .string configuration.environment.name),
      ("api", .object
        [("port", .ofNat configuration.api.port),
          ("token_header", .string configuration.api.tokenHeader),
          ("max_request_size_bytes", .ofNat configuration.api.largestBody),
          ("enable_request_logging", .bool configuration.api.requestLogging)]),
      ("database", .object
        [("url", .ofText? configuration.database.url),
          ("max_connections", .ofNat configuration.database.connections),
          ("connection_timeout", .ofNat configuration.database.timeout),
          ("enable_query_logging", .bool configuration.database.queryLogging),
          ("slow_query_threshold_ms", .ofNat configuration.database.slowMilliseconds)]),
      ("endpoints", .object [("modules_dir", .string configuration.modulesDirectory)]),
      ("security", .object
        [("bypass_token", .ofText? configuration.security.bypassToken),
          ("enable_audit_logging", .bool configuration.security.audit),
          ("cors_origins", .ofTexts configuration.security.origins)])]

end Configuration

end TableApi
