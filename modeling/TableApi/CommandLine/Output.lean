import TableApi.Effect.Log
import TableApi.Json.Printer
import TableApi.Text.Blank
import TableApi.Text.Scan

/-!
# What a command prints

A command prints to two streams, adds entries to the log and may fail with a message, and perhaps
with the cause behind it.  The outcome of a command holds all of it, so that commands stay plain
functions.
-/

namespace TableApi

/-- Why a command failed. -/
structure CommandFailure where
  message : String
  cause : Option String
deriving DecidableEq, Repr

namespace CommandFailure

def plain (message : String) : CommandFailure :=
  ⟨message, none⟩

/-- The message, with the cause if it is asked for. -/
def text (failure : CommandFailure) (verbose : Bool) : String :=
  match failure.cause with
  | some cause =>
      if verbose then failure.message ++ "\n\nCaused by:\n    " ++ cause else failure.message
  | none => failure.message

end CommandFailure

/-- What a command printed and logged, and whether it failed. -/
structure CommandOutcome where
  stdout : String
  stderr : String
  failure : Option CommandFailure
  entries : List LogEntry
deriving DecidableEq, Repr

namespace CommandOutcome

def lines (texts : List String) : CommandOutcome :=
  ⟨String.join (texts.map fun text => text ++ "\n"), "", none, []⟩

def value (json : Json) : CommandOutcome :=
  lines [json.pretty]

def failed (failure : CommandFailure) : CommandOutcome :=
  ⟨"", "", some failure, []⟩

/-- Reports a success, as a value with more entries or as a line. -/
def success (json : Bool) (message : String) (data : Option Json) : CommandOutcome :=
  let response : Fields := [("success", .bool true), ("message", .string message)]
  let extra : Fields := match data with
    | some (.object entries) => entries
    | _ => []
  if json then value (.object (response.setAll extra)) else lines ["✓ " ++ message]

/-- Reports an error, as a value that may hold a code or as a line of the error stream. -/
def error (json : Bool) (message : String) (code : Option String) : CommandOutcome :=
  if json then
    value (.object ([("success", .bool false), ("error", .string message)] ++
      code.toList.map fun code => ("error_code", .string code)))
  else ⟨"", "Error: " ++ message ++ "\n", none, []⟩

end CommandOutcome

namespace TextTable

/-- A text with blanks behind it, up to a number of characters. -/
def pad (text : String) (width : Nat) : List Char :=
  text.toList ++ List.replicate (width - text.toList.length) ' '

/-- The width of each column: the bytes of its header or the characters of its longest cell. -/
def widths (headers : List String) (rows : List (List String)) : List Nat :=
  let widen : List Nat → List String → List Nat := fun widths row =>
    widths.mapIdx fun index width =>
      match row[index]? with
      | some cell => max width cell.toList.length
      | none => width
  rows.foldl widen (headers.map String.utf8ByteSize)

/-- One line: its cells in columns two blanks apart. -/
def line (widths : List Nat) (cells : List String) : String :=
  .ofList (Text.trimEnd (Text.joinWith "  ".toList
    ((cells.zip widths).map fun (cell, width) => pad cell width)))

def lines (headers : List String) (rows : List (List String)) : List String :=
  (headers :: rows).map (line (widths headers rows))

end TextTable

end TableApi
