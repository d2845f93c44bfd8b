import TableApi.Effect.Log

/-!
# Which entries of a log are shown

A threshold is the least important level that is shown; without one nothing is.  A word names it,
in either case, or a digit: the number of levels that are shown.
-/

namespace TableApi

/-- The least important level that is shown. -/
structure LogThreshold where
  level : Option LogLevel
deriving DecidableEq, Repr

namespace LogThreshold

def errors : LogThreshold :=
  ⟨some .error⟩

/-- Shows everything down to what is worth knowing. -/
def standard : LogThreshold :=
  ⟨some .info⟩

/-- The threshold that a word names.  The empty word shows errors, and a word that is no level
shows nothing. -/
def ofWord (word : String) : LogThreshold :=
  match String.ofList (word.toList.map Char.toLower) with
  | "" | "error" | "1" => errors
  | "warn" | "2" => ⟨some .warn⟩
  | "info" | "3" => ⟨some .info⟩
  | "debug" | "4" => ⟨some .debug⟩
  | "trace" | "5" => ⟨some .trace⟩
  | _ => ⟨none⟩

def shows (threshold : LogThreshold) (entry : LogEntry) : Bool :=
  threshold.level.any fun level => entry.level.rank ≤ level.rank

end LogThreshold

namespace LogEntry

/-- The line of an entry in the log of a program. -/
def line (entry : LogEntry) (program : String) : String :=
  entry.level.name ++ " " ++ program ++ ": " ++ entry.message ++
    String.join (entry.fields.map fun (name, value) => " " ++ name ++ "=" ++ value) ++ "\n"

end LogEntry

end TableApi
