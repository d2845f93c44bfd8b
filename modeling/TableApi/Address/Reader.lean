import TableApi.Address.Basic

/-!
# Reading addresses

Schemes come in three kinds.  The addresses of some always name a server by a domain name or a
number; those of files may name one; all others may or may not, and have other names for servers.
A backslash is a slash in the addresses of the first two kinds.
-/

namespace TableApi.Address

/-! ## Schemes -/

/-- How the addresses of a scheme are read. -/
inductive SchemeKind where
  /-- With a server, which has a port of its own when none is named. -/
  | served (port : Nat)
  | file
  | other
deriving DecidableEq, Repr

namespace SchemeKind

def ofScheme (scheme : List Char) : SchemeKind :=
  match String.ofList scheme with
  | "http" | "ws" => served 80
  | "https" | "wss" => served 443
  | "ftp" => served 21
  | "file" => file
  | _ => other

/-- Whether a backslash is a slash. -/
def isSpecial : SchemeKind → Bool
  | other => false
  | _ => true

end SchemeKind

/-- The scheme in lower case and the text behind its colon. -/
def scheme? (text : List Char) : Option (List Char × List Char) :=
  let isPart (character : Char) : Bool :=
    character.isAlphanum || character == '+' || character == '-' || character == '.'
  match Text.cutAt? ':' text with
  | some (scheme, rest) =>
      match scheme with
      | first :: others =>
          if first.isAlpha && others.all isPart then some (scheme.map Char.toLower, rest) else none
      | [] => none
  | none => none

/-! ## Servers -/

/-- The credentials that stand in front of the last at sign, and the text behind it. -/
def cutCredentials (text : List Char) : Option (List Char) × List Char :=
  match Text.cutAt? '@' text.reverse with
  | some (after, before) => (some before.reverse, after.reverse)
  | none => (none, text)

def readCredentials (text : List Char) : List Char × List Char :=
  let (user, password) := (Text.cutAt? ':' text).getD (text, [])
  (escape inCredentials user, escape inCredentials password)

/-- Cuts a host off: at the first colon outside square brackets. -/
def cutHost (bracketed : Bool) : List Char → List Char × Option (List Char)
  | [] => ([], none)
  | ':' :: rest =>
      if bracketed then
        let (host, port) := cutHost bracketed rest
        (':' :: host, port)
      else ([], some rest)
  | character :: rest =>
      let (host, port) :=
        cutHost (if character = '[' then true else if character = ']' then false else bracketed)
          rest
      (character :: host, port)

/-- The port that digits spell and the text behind them, which is empty or starts with a backslash.
Without digits there is no port, and the own port of a scheme is not named. -/
def port? (kind : SchemeKind) (text : List Char) : Option (Option Nat × List Char) :=
  let digits := text.takeWhile Char.isDigit
  let rest := text.dropWhile Char.isDigit
  if rest.head?.any (· != '\\') then none
  else if digits.isEmpty then some (none, rest)
  else
    match (Text.digitsValue? digits).filter (· ≤ 65535) with
    | some port => some (if kind = .served port then none else some port, rest)
    | none => none

/-- The server that the text between the two slashes and the path names, and what stands between it
and the path. -/
def authority? (kind : SchemeKind) (text : List Char) : Option (Authority × List Char) := do
  let (credentials, server) := cutCredentials text
  let (user, password) := readCredentials (credentials.getD [])
  let (hostText, portText) := cutHost false server
  let isAsked := !user.isEmpty || !password.isEmpty || credentials = some []
  if hostText.isEmpty && (portText.isSome || isAsked || kind.isSpecial) then none
  else
    let host ← if kind.isSpecial then Host.ofDomain? hostText else Host.ofOther? hostText
    let (port, rest) ← port? kind (portText.getD [])
    return (⟨user, password, host, port⟩, rest)

/-- Reads the text behind two slashes: a server and a path. -/
def served? (kind : SchemeKind) (text : List Char) : Option (Option Authority × List Char) :=
  (authority? kind (text.takeWhile (· != '/'))).map fun (authority, between) =>
    (some authority,
      pathBehindServer kind.isSpecial (between ++ text.dropWhile (· != '/')))

/-! ## Files -/

/-- The host of a file, which is nameless when it is this computer. -/
def fileHost? (text : List Char) : Option Host :=
  if text.isEmpty then some .nameless
  else
    (Host.ofDomain? text).map fun host =>
      if host = .named "localhost".toList then .nameless else host

/-- The host and the path of a file.  A path that starts with a drive is on this computer. -/
def locate (host : Host) (segments : List (List Char)) : Option Authority × List Char :=
  let host := if segments.head?.any isDrive then .nameless else host
  (some (.ofHost host), filePath segments)

/-- Reads the text behind the scheme of a file. -/
def file? (text : List Char) : Option (Option Authority × List Char) :=
  match text with
  | '/' :: '/' :: rest =>
      let hostText := rest.takeWhile (· != '/')
      let pathText := rest.dropWhile (· != '/')
      if isDrive hostText then some (locate .nameless (fileSegments rest))
      else
        (fileHost? hostText).map fun host =>
          if host = .nameless then locate host (fileSegments pathText)
          else locate host (fileSegments (pathText.drop 1))
  | '/' :: rest => some (locate .nameless (fileSegments rest))
  | _ => some (locate .nameless (fileSegments text))

/-! ## Addresses -/

/-- The text of an address without blanks and controls around it and without line ends and tabs
in it. -/
def cleaned (text : List Char) : List Char :=
  let isOuter (character : Char) : Bool := character.toNat ≤ 0x20
  (Text.dropWhileEnd isOuter (text.dropWhile isOuter)).filter fun character =>
    !"\t\n\r".toList.contains character

/-- A text with slashes in place of backslashes. -/
def withSlashes (text : List Char) : List Char :=
  text.map fun character => if character = '\\' then '/' else character

/-- Reads the text behind the scheme, without the query and the fragment. -/
def server? (kind : SchemeKind) (text : List Char) : Option (Option Authority × List Char) :=
  match kind with
  | .served _ => served? kind ((withSlashes text).dropWhile (· == '/'))
  | .file => file? (withSlashes text)
  | .other =>
      match text with
      | '/' :: '/' :: rest => served? kind rest
      | _ => some (none, lonePath text)

/-- Cuts a text at the first of a mark. -/
def cutPart (mark : Char) (text : List Char) : List Char × Option (List Char) :=
  match Text.cutAt? mark text with
  | some (before, after) => (before, some after)
  | none => (text, none)

def ofText? (text : String) : Option Address := do
  let (scheme, rest) ← scheme? (cleaned text.toList)
  let (rest, fragment) := cutPart '#' rest
  let (rest, query) := cutPart '?' rest
  let kind := SchemeKind.ofScheme scheme
  let (authority, path) ← server? kind rest
  return ⟨scheme, authority, path, query.map (escape (inQuery kind.isSpecial)),
    fragment.map (escape inFragment)⟩

end TableApi.Address
