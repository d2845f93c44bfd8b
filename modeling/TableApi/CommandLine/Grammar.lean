import TableApi.Text.Integer
import TableApi.Text.Scan

/-!
# Command lines

A command has named arguments, positional ones and subcommands; `parse` reads words against it.
Named arguments are flags or take one value, which is the word behind them or stands behind an
equals sign.  Behind the word `--` every word is positional.

A value is settled as late as possible: when the next argument comes or when the words end.  So of
two mistakes an unknown argument is reported before the mistake in the value in front of it.
-/

namespace TableApi

/-- What the value of an argument must be. -/
inductive ValueKind where
  | text
  /-- A path, which is not empty. -/
  | path
  /-- A number that fits 64 bits. -/
  | word
deriving DecidableEq, Repr

/-- What a named argument does. -/
inductive ArgumentRole where
  | flag
  | value (kind : ValueKind)
  | help
  | version
deriving DecidableEq, Repr

/-- An argument that is given by its name. -/
structure NamedArgument where
  name : String
  short : Option Char
  role : ArgumentRole
  /-- The names of arguments that may not be given beside it. -/
  conflicts : List String
deriving DecidableEq, Repr

/-- An argument that is given by its place. -/
structure PlacedArgument where
  name : String
  isRequired : Bool
deriving DecidableEq, Repr

/-- A command and its subcommands.  A command with subcommands needs one of them. -/
structure CommandGrammar where
  name : String
  named : List NamedArgument
  placed : List PlacedArgument
  subcommands : List CommandGrammar
deriving Repr

/-- Why words do not fit a command, or what they ask for instead of running it. -/
inductive UsageError where
  | help
  | version
  | missingCommand
  | missingSubcommand
  | missingArgument
  | unknownArgument
  | unknownSubcommand
  | missingValue
  | invalidValue
  | conflict
  | tooManyValues
deriving DecidableEq, Repr

/-- The arguments that a command was given: their names and values; a flag has an empty value. -/
abbrev Given := List (String × String)

/-- What the words say: for each command, from the outermost on, its name and what it was given. -/
abbrev Invocation := List (String × Given)

namespace CommandGrammar

/-- A word by its form. -/
inductive Word where
  | separator
  /-- A long name, with the text behind an equals sign. -/
  | long (name : String) (value : Option String)
  /-- The letters behind a single hyphen. -/
  | short (letters : List Char)
  | plain
deriving DecidableEq, Repr

/-- The form of a word.  A lone hyphen is a plain word. -/
def wordOf (word : String) : Word :=
  match word.toList with
  | ['-', '-'] => .separator
  | '-' :: '-' :: rest =>
      match Text.cutAt? '=' rest with
      | some (name, value) => .long (.ofList name) (some (.ofList value))
      | none => .long (.ofList rest) none
  | '-' :: letter :: letters => .short (letter :: letters)
  | _ => .plain

/-- How far the words have been read. -/
structure State where
  given : Given
  /-- The argument whose value is not settled yet, and the value if it has been read. -/
  pending : Option (NamedArgument × Option String)
  /-- Whether the separator has been read. -/
  trailing : Bool
  /-- How many positional arguments have been read. -/
  place : Nat
deriving DecidableEq, Repr

def State.start : State :=
  ⟨[], none, false, 0⟩

def isGiven (given : Given) (name : String) : Bool :=
  given.any fun entry => entry.1 == name

def checkValue (kind : ValueKind) (value : String) : Except UsageError Unit :=
  match kind with
  | .text => .ok ()
  | .path => if value.isEmpty then .error .missingValue else .ok ()
  | .word => if (Text.word? value.toList).isSome then .ok () else .error .invalidValue

/-- Adds an argument with its value, unless it has been given before. -/
def add (given : Given) (argument : NamedArgument) (value : String) : Except UsageError Given := do
  if isGiven given argument.name then .error .conflict
  else
    match argument.role with
    | .value kind => checkValue kind value
    | _ => .ok ()
    return given ++ [(argument.name, value)]

def settle (state : State) : Except UsageError State :=
  match state.pending with
  | none => .ok state
  | some (_, none) => .error .missingValue
  | some (argument, some value) => do
      let given ← add state.given argument value
      return { state with given, pending := none }

/-- Whether the next word is the value of the argument before it. -/
def awaitsValue (state : State) : Bool :=
  match state.pending with
  | some (_, none) => !state.trailing
  | _ => false

/-- Carries out an argument that takes no value. -/
def raise (state : State) (argument : NamedArgument) : Except UsageError State := do
  let settled ← settle state
  match argument.role with
  | .help => .error .help
  | .version => .error .version
  | _ => return { settled with given := ← add settled.given argument "" }

/-- Reads an argument given by its long name. -/
def readLong (command : CommandGrammar) (state : State) (name : String)
    (value : Option String) : Except UsageError State :=
  match command.named.find? fun argument => argument.name = name with
  | none => .error .unknownArgument
  | some argument =>
      match argument.role, value with
      | .value _, some value => do
          let settled ← settle state
          return { settled with given := ← add settled.given argument value }
      | .value _, none => do
          let settled ← settle state
          return { settled with pending := some (argument, none) }
      | _, some _ => .error .tooManyValues
      | _, none => raise state argument

/-- Reads arguments given by their letters; none of them takes a value. -/
def readShort (command : CommandGrammar) (state : State) : List Char → Except UsageError State
  | [] => .ok state
  | letter :: letters =>
      match command.named.find? fun argument => argument.short = some letter with
      | none => .error .unknownArgument
      | some argument => do readShort command (← raise state argument) letters

def subcommand? (command : CommandGrammar) (name : String) : Option CommandGrammar :=
  command.subcommands.find? fun other => other.name = name

/-- Whether a word names a subcommand; every command with subcommands also has one that helps. -/
def isSubcommand (command : CommandGrammar) (name : String) : Bool :=
  (command.subcommand? name).isSome || (name == "help" && !command.subcommands.isEmpty)

def readPlaced (command : CommandGrammar) (state : State) (word : String) :
    Except UsageError State :=
  match command.placed[state.place]? with
  | some argument => do
      let settled ← settle state
      return { settled with
        given := settled.given ++ [(argument.name, word)]
        place := settled.place + 1 }
  | none =>
      if command.subcommands.isEmpty || (state.trailing && command.isSubcommand word) then
        .error .unknownArgument
      else .error .unknownSubcommand

def readWord (command : CommandGrammar) (state : State) (word : String) :
    Except UsageError State :=
  if state.trailing then command.readPlaced state word
  else
    match wordOf word with
    | .separator => .ok { state with trailing := true }
    | .long name value => command.readLong state name value
    | .short letters => command.readShort state letters
    | .plain =>
        match state.pending with
        | some (argument, none) => .ok { state with pending := some (argument, some word) }
        | _ => command.readPlaced state word

/-- What the subcommand that helps answers for the words behind it. -/
def helpFor (command : CommandGrammar) : List String → UsageError
  | [] => .help
  | word :: words =>
      match command.subcommand? word with
      | some other => other.helpFor words
      | none =>
          if command.isSubcommand word && words.isEmpty then .help else .unknownSubcommand

/-- Whether two arguments were given that may not stand beside each other. -/
def hasConflict (command : CommandGrammar) (given : Given) : Bool :=
  command.named.any fun argument =>
    isGiven given argument.name && argument.conflicts.any (isGiven given)

def hasGap (command : CommandGrammar) (given : Given) : Bool :=
  command.placed.any fun argument => argument.isRequired && !isGiven given argument.name

/-- Checks what a command was given, when a subcommand was or was not named. -/
def check (command : CommandGrammar) (given : Given) (named : Bool) : Except UsageError Unit :=
  if !named && !command.subcommands.isEmpty then
    .error (if given.isEmpty then .missingCommand else .missingSubcommand)
  else if command.hasConflict given then .error .conflict
  else if command.hasGap given then .error .missingArgument
  else .ok ()

/-- Settles and checks a command at the end of its words. -/
def finish (command : CommandGrammar) (state : State) (named : Bool) :
    Except UsageError (String × Given) := do
  let settled ← settle state
  command.check settled.given named
  return (command.name, settled.given)

/-- Reads words against a command that has been read up to a state. -/
def run (command : CommandGrammar) (state : State) : List String → Except UsageError Invocation
  | [] => do return [← command.finish state false]
  | word :: words =>
      let looked := if state.trailing || awaitsValue state then none else command.subcommand? word
      match looked with
      | some other => do
          let inner ← other.run State.start words
          return (← command.finish state true) :: inner
      | none =>
          if !state.trailing && !awaitsValue state && command.isSubcommand word then
            .error (command.helpFor words)
          else do command.run (← command.readWord state word) words

def parse (command : CommandGrammar) (words : List String) : Except UsageError Invocation :=
  command.run State.start words

end CommandGrammar

end TableApi
