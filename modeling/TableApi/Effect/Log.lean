/-!
# Log entries

An entry has a level, a message and named fields.  Whatever runs returns its entries in the
order in which they were made; only the outermost layer writes them anywhere.
-/

namespace TableApi

/-- How much an entry matters, the most first. -/
inductive LogLevel where
  | error
  | warn
  | info
  | debug
  | trace
deriving DecidableEq, Repr

namespace LogLevel

def name : LogLevel → String
  | error => "ERROR"
  | warn => "WARN"
  | info => "INFO"
  | debug => "DEBUG"
  | trace => "TRACE"

/-- The place of a level, from 1 for the most important. -/
def rank : LogLevel → Nat
  | error => 1
  | warn => 2
  | info => 3
  | debug => 4
  | trace => 5

end LogLevel

/-- One entry of a log. -/
structure LogEntry where
  level : LogLevel
  message : String
  fields : List (String × String)
deriving DecidableEq, Repr

namespace LogEntry

def plain (level : LogLevel) (message : String) : LogEntry :=
  ⟨level, message, []⟩

end LogEntry

end TableApi
