import TableApi.Configuration.VariablesFile
import TableApi.Database.Remote.Connection
import TableApi.Effect.Threshold
import TableApi.Program.Exit

/-!
# Starting the service

The service reads its variables, says in which mode it starts, and connects to its database.  There
is no database to reach here, so starting always ends at the connection.
-/

namespace TableApi

namespace Service

/-- The entries that starting with a configuration makes. -/
def greeting (configuration : Configuration) : List LogEntry :=
  .plain .info ("Starting Trongate API in " ++ configuration.environment.name ++ " mode") ::
    if configuration.security.bypassToken.isSome then
      [.plain .warn
        "SECURITY_BYPASS_TOKEN is set: requests carrying it skip authorization rules"]
    else []

/-- Which entries the variables ask for. -/
def threshold (scope : Variables) : LogThreshold :=
  match scope.get? "RUST_LOG" with
  | some word => .ofWord word
  | none => .standard

/-- What connecting to a database that nobody can reach ends with. -/
def unreachable : DatabaseError :=
  .connection "the database cannot be reached"

/-- The lines of entries, as far as they are shown. -/
def linesOf (threshold : LogThreshold) (entries : List LogEntry) : String :=
  String.join ((entries.filter threshold.shows).map fun entry => entry.line "trongate_api")

/-- Starts the service with the variables of the process and a file of variables. -/
def start (file : String) (scope : Variables) : Exit :=
  let scope := VariablesFile.load file scope
  let configuration := Configuration.ofVariables scope
  let lines (entries : List LogEntry) : String :=
    linesOf (threshold scope) (greeting configuration ++ entries)
  match Connection.connect configuration.database (some unreachable) with
  | .error error => .failed (lines []) error.message
  | .ok entry => ⟨0, lines [entry], ""⟩

end Service

end TableApi
