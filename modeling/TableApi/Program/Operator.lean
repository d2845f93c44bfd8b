import TableApi.CommandLine.Commands
import TableApi.Program.Exit

/-!
# The program for operators

The program reads one command from its words, runs it with the files and the variables of its
surroundings, and reports how it went.
-/

namespace TableApi

namespace UsageError

def usage : String :=
  "Usage: trongate [--json] <explain|endpoints|resolve|server> ...\n"

def message : UsageError → String
  | help => "help was asked for"
  | version => "the version was asked for"
  | missingCommand => "a command is missing"
  | missingSubcommand => "a subcommand is missing"
  | missingArgument => "a required argument is missing"
  | unknownArgument => "there is no such argument"
  | unknownSubcommand => "there is no such subcommand"
  | missingValue => "an argument needs a value"
  | invalidValue => "a value does not suit its argument"
  | conflict => "two arguments exclude each other"
  | tooManyValues => "an argument takes no value"

/-- How the program ends when it has no command to run. -/
def exit : UsageError → Exit
  | help => ⟨0, usage, ""⟩
  | version => ⟨0, "trongate " ++ TableApi.version ++ "\n", ""⟩
  | error => ⟨2, "", "error: " ++ error.message ++ "\n\n" ++ usage⟩

end UsageError

namespace Operator

/-- Whether the variables ask for the causes of a failure. -/
def asksForCauses (scope : Variables) : Bool :=
  match scope.get? "CLI_VERBOSE" with
  | some "true" | some "1" => true
  | _ => false

/-- How the program ends after a command. -/
def exitOf (outcome : CommandOutcome) (verbose : Bool) : Exit :=
  match outcome.failure with
  | none => ⟨0, outcome.stdout, outcome.stderr⟩
  | some failure =>
      ⟨1, outcome.stdout, outcome.stderr ++ "Error: " ++ failure.text verbose ++ "\n"⟩

/-- Runs the program. -/
def run (words : List String) (files : Files) (scope : Variables) : Exit :=
  match CommandLine.read words with
  | .error error => error.exit
  | .ok (command, json) =>
      exitOf (command.run files scope json) (asksForCauses scope)

end Operator

end TableApi
