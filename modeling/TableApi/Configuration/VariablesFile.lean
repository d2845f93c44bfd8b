import TableApi.Configuration.Basic
import TableApi.Text.Blank
import TableApi.Unicode.Alphanumeric

/-!
# Files of variables

A file may hold variables for a program, one definition a line: a name, an equals sign and a
value.  A value may be quoted, may refer to variables that are known already, and may run over
several lines inside quotes.  A variable of the process counts before one of the file, and a first
definition before a second.  Reading stops at the first line that is no definition; what stands in
front of it counts.
-/

namespace TableApi

namespace VariablesFile

/-! ## Joining lines -/

/-- Where a line stands with respect to quotes, escapes and comments. -/
inductive Position where
  | open
  /-- Behind a blank, where a comment may start. -/
  | blank
  | escape
  | strong
  | strongEscape
  | weak
  | weakEscape
deriving DecidableEq, Repr

namespace Position

/-- The position behind a character that stands outside quotes. -/
def behind (character : Char) : Position :=
  match character with
  | '\\' => escape
  | '"' => weak
  | '\'' => strong
  | _ => .open

/-- The position behind a character; nothing when a comment starts with it. -/
def next? (position : Position) (character : Char) : Option Position :=
  match position with
  | .open =>
      if Text.isBlank character && character != '\n' && character != '\r' then some blank
      else some (behind character)
  | blank => if character = '#' then none else some (behind character)
  | escape => some .open
  | strong =>
      some (if character = '\\' then strongEscape else if character = '\'' then .open else strong)
  | strongEscape => some strong
  | weak => some (if character = '\\' then weakEscape else if character = '"' then .open else weak)
  | weakEscape => some weak

/-- Follows a text: the position at its end, or the part in front of a comment. -/
def follow (position : Position) : List Char → Position ⊕ List Char
  | [] => .inl position
  | character :: rest =>
      match position.next? character with
      | none => .inr []
      | some position =>
          match position.follow rest with
          | .inl position => .inl position
          | .inr part => .inr (character :: part)

end Position

/-- The lines of a text, each with its line end. -/
def linesOf : List Char → List (List Char)
  | [] => []
  | '\n' :: rest => ['\n'] :: linesOf rest
  | character :: rest =>
      match linesOf rest with
      | [] => [[character]]
      | line :: lines => (character :: line) :: lines

/-- A text without the end of its last line. -/
def dropLineEnd (text : List Char) : List Char :=
  match text.reverse with
  | '\n' :: '\r' :: rest => rest.reverse
  | '\n' :: rest => rest.reverse
  | _ => text

def isComment (text : List Char) : Bool :=
  (Text.trimStart text).head? = some '#'

/-- Joins lines that end inside quotes or behind an escape with the next ones.  The last piece is
missing when the text ends there. -/
def joined (position : Position) (begun : List Char) :
    List (List Char) → List (Option (List Char))
  | [] => if position = .open then [] else [none]
  | line :: rest =>
      let text := begun ++ line
      if isComment text then some [] :: joined .open [] rest
      else
        match position.follow line with
        | .inr part => some (begun ++ part) :: joined .open [] rest
        | .inl .open => some (dropLineEnd text) :: joined .open [] rest
        | .inl position => joined position text rest

/-! ## Values -/

/-- Where the reading of a value stands. -/
inductive Mode where
  | plain
  | strong
  | weak
  /-- Behind a backslash, in quotes or not. -/
  | escape (quoted : Bool)
  /-- In the name of a variable behind a dollar sign, in quotes or not. -/
  | reference (quoted : Bool) (name : List Char)
  /-- In a name between braces. -/
  | braced (quoted : Bool) (name : List Char)
  /-- Behind the value, where only blanks and a comment may follow. -/
  | ended
deriving DecidableEq, Repr

namespace Mode

/-- Whether a value may end here. -/
def isFinal : Mode → Bool
  | plain | ended => true
  | escape quoted => !quoted
  | reference quoted _ => !quoted
  | strong | weak | braced _ _ => false

/-- The mode outside escapes and references. -/
def outside (quoted : Bool) : Mode :=
  if quoted then weak else plain

end Mode

/-- The text of a variable; an unknown one is empty. -/
def expand (scope : Variables) (name : List Char) : List Char :=
  ((scope.get? (.ofList name)).getD "").toList

/-- What a character after a backslash stands for. -/
def unescape? (character : Char) : Option Char :=
  if "\\'\"$ ".toList.contains character then some character
  else if character = 'n' then some '\n'
  else none

def readValue? (scope : Variables) (mode : Mode) : List Char → Option (List Char)
  | [] =>
      match mode with
      | .reference false name => some (expand scope name)
      | _ => if mode.isFinal then some [] else none
  | character :: rest =>
      match mode with
      | .ended =>
          if character = ' ' || character = '\t' then readValue? scope .ended rest
          else if character = '#' then some []
          else none
      | .escape quoted =>
          match unescape? character with
          | some meant => (readValue? scope (.outside quoted) rest).map (meant :: ·)
          | none => none
      | .strong =>
          if character = '\'' then readValue? scope .plain rest
          else (readValue? scope .strong rest).map (character :: ·)
      | .reference quoted name =>
          if Unicode.isAlphanumeric character then
            readValue? scope (.reference quoted (name ++ [character])) rest
          else if character = '\x7b' && name.isEmpty then
            readValue? scope (.braced quoted []) rest
          else if character = '$' then
            (readValue? scope (.reference quoted []) rest).map (expand scope name ++ ·)
          else
            (readValue? scope (.outside quoted) rest).map
              (expand scope name ++ character :: ·)
      | .braced quoted name =>
          if character = '\x7d' then
            (readValue? scope (.outside quoted) rest).map (expand scope name ++ ·)
          else readValue? scope (.braced quoted (name ++ [character])) rest
      | .plain =>
          if character = '$' then readValue? scope (.reference false []) rest
          else if character = '\'' then readValue? scope .strong rest
          else if character = '"' then readValue? scope .weak rest
          else if character = '\\' then readValue? scope (.escape false) rest
          else if character = ' ' || character = '\t' then readValue? scope .ended rest
          else (readValue? scope .plain rest).map (character :: ·)
      | .weak =>
          if character = '$' then readValue? scope (.reference true []) rest
          else if character = '"' then readValue? scope .plain rest
          else if character = '\\' then readValue? scope (.escape true) rest
          else (readValue? scope .weak rest).map (character :: ·)

/-! ## Definitions -/

/-- What a line is. -/
inductive Line where
  | empty
  | definition (name value : String)
  | fault
deriving DecidableEq, Repr

/-- Cuts a name off the start of a text. -/
def cutName? (text : List Char) : Option (List Char × List Char) :=
  let isStart (character : Char) : Bool := character.isAlpha || character == '_'
  let isPart (character : Char) : Bool :=
    character.isAlphanum || character == '_' || character == '.'
  match text with
  | first :: _ =>
      if isStart first then some (text.takeWhile isPart, text.dropWhile isPart) else none
  | [] => none

/-- Cuts a name and the equals sign behind it off the start of a text. -/
def cutDefinition? (text : List Char) : Option (List Char × List Char) :=
  match cutName? text with
  | some (name, rest) =>
      match Text.trimStart rest with
      | '=' :: value => some (name, value)
      | _ => none
  | none => none

/-- Cuts the name of a definition off, which the word `export` may introduce. -/
def cutExported? (text : List Char) : Option (List Char × List Char) :=
  match cutDefinition? text, cutName? text with
  | some definition, _ => some definition
  | none, some (name, rest) =>
      if name = "export".toList then cutDefinition? (Text.trimStart rest) else none
  | none, none => none

/-- Reads a line, with the variables that are known so far. -/
def readLine (scope : Variables) (line : List Char) : Line :=
  let text := Text.trimStart (Text.trimEnd line)
  if text.isEmpty || text.head? = some '#' then .empty
  else
    match cutExported? text with
    | none => .fault
    | some (name, rest) =>
        let value := Text.trimStart rest
        if value.isEmpty || value.head? = some '#' then .definition (.ofList name) ""
        else
          match readValue? scope .plain value with
          | some value => .definition (.ofList name) (.ofList value)
          | none => .fault

/-- Adds a variable unless there is one of that name. -/
def define (scope : Variables) (name value : String) : Variables :=
  if (scope.get? name).isSome then scope else scope ++ [(name, value)]

/-- Adds the definitions of lines, up to the first fault. -/
def defineAll (scope : Variables) : List (Option (List Char)) → Variables
  | [] => scope
  | none :: _ => scope
  | some line :: rest =>
      match readLine scope line with
      | .empty => defineAll scope rest
      | .definition name value => defineAll (define scope name value) rest
      | .fault => scope

/-- Adds the variables of a file to those of the process.  A byte order mark in front does not
count. -/
def load (file : String) (scope : Variables) : Variables :=
  let text := match file.toList with
    | '\uFEFF' :: rest => rest
    | text => text
  defineAll scope (joined .open [] (linesOf text))

end VariablesFile

end TableApi
