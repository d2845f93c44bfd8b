import TableApi.Text.Scan

/-!
# Request targets

The target of a request holds its path and its query string.  The path ends at the first question
mark, the query string at the first number sign; what follows is a fragment, which nobody reads.  A
target may also name the scheme and the server before the path, or a server alone, which leaves the
path empty.
-/

namespace TableApi

/-- The path and the query string of a request target. -/
structure Target where
  path : String
  query : Option String
deriving DecidableEq, Repr

namespace Target

/-- The path and the query string of a text that holds nothing else. -/
def ofPath (text : List Char) : Target :=
  match Text.cutAt? '?' text with
  | some (path, query) => ⟨.ofList path, some (.ofList query)⟩
  | none => ⟨.ofList text, none⟩

def withoutFragment (text : List Char) : List Char :=
  text.takeWhile (· != '#')

/-- The text behind the server of a target that names a scheme; the path is at least a slash. -/
def behindServer? (text : List Char) : Option (List Char) :=
  (Text.cut? "://".toList text).map fun (_, rest) =>
    match rest.dropWhile fun character => character != '/' && character != '?' with
    | '/' :: path => '/' :: path
    | others => '/' :: others

/-- Reads a target.  An asterisk is a path of its own. -/
def ofText (text : String) : Target :=
  match withoutFragment text.toList with
  | '/' :: path => ofPath ('/' :: path)
  | ['*'] => ⟨"*", none⟩
  | others =>
      match behindServer? others with
      | some path => ofPath path
      | none => ⟨"", none⟩

end Target

end TableApi
