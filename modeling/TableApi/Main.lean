import TableApi.Program.Operator

/-!
# The operators' command line

Reads the surroundings of the process, runs the program and prints what it leaves behind.
-/

namespace TableApi

namespace Operator

def variableNames : List String :=
  ["CLI_VERBOSE", "APP_ENV", "API_PORT", "PORT", "ENDPOINTS_MODULES_DIR"]

def processVariables : IO Variables :=
  variableNames.filterMapM fun name => do
    return (← IO.getEnv name).map fun value => (name, value)

def documentOf? (words : List String) (scope : Variables) : Option String :=
  match CommandLine.read words with
  | .ok (.checkEndpoints table directory, _) =>
      let directory := directory.getD (Configuration.ofVariables scope).modulesDirectory
      some (Documents.documentPath ⟨directory, .empty⟩ table)
  | _ => none

/-- The tree that holds one document, as far as it can be read. -/
def readDocument (path : String) : IO Files := do
  try
    let contents ← IO.FS.readBinFile path
    return Files.empty.write path (some contents.toList)
  catch
    | .noFileOrDirectory _ _ _ => return .empty
    | _ => return Files.empty.write path none

end Operator

end TableApi

open TableApi in
/-- Runs the program with the words of the command line. -/
def main (words : List String) : IO UInt32 := do
  let scope ← Operator.processVariables
  let files ← match Operator.documentOf? words scope with
    | some path => Operator.readDocument path
    | none => pure .empty
  let exit := Operator.run words files scope
  IO.print exit.stdout
  IO.eprint exit.stderr
  return exit.code.toUInt32
