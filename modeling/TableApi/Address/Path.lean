import TableApi.Address.Escape
import TableApi.Text.Scan

/-!
# Paths in addresses

A path is a sequence of segments.  A dot stands for the place where it is, and two dots for the
place above; both are resolved.  Nothing stands above a drive, a letter with a colon or a bar, as
paths of files may start with.
-/

namespace TableApi.Address

/-- Whether a segment stands for the place where it is. -/
def isDot (segment : List Char) : Bool :=
  [".", "%2e"].contains (String.ofList (segment.map Char.toLower))

/-- Whether a segment stands for the place above. -/
def isDoubleDot (segment : List Char) : Bool :=
  ["..", "%2e.", ".%2e", "%2e%2e"].contains (String.ofList (segment.map Char.toLower))

/-- Whether a segment is a drive. -/
def isDrive (segment : List Char) : Bool :=
  match segment with
  | [letter, sign] => letter.isAlpha && (sign == ':' || sign == '|')
  | _ => false

/-- The segments above the last one, the last one first; a drive has nothing above it. -/
def above : List (List Char) → List (List Char)
  | [] => []
  | last :: others => if isDrive last then last :: others else others

/-- A drive with a colon; other segments stay as they are. -/
def normalDrive (segment : List Char) : List Char :=
  match segment with
  | [letter, '|'] => if letter.isAlpha then [letter, ':'] else segment
  | _ => segment

/-- Resolves the dots among segments behind those already passed, the last one first.  A dot at the
end leaves an empty segment, and the drive that comes first in the path of a file gets a colon. -/
def resolveDots (file : Bool) (passed : List (List Char)) :
    List (List Char) → List (List Char)
  | [] => passed.reverse
  | segment :: rest =>
      let leave (passed : List (List Char)) : List (List Char) :=
        if rest.isEmpty then [] :: passed else passed
      if isDoubleDot segment then resolveDots file (leave (above passed)) rest
      else if isDot segment then resolveDots file (leave passed) rest
      else
        resolveDots file
          ((if file && passed.isEmpty then normalDrive segment else segment) :: passed) rest

def segmentsOf (text : List Char) : List (List Char) :=
  (Text.splitAtChar '/' text).map (escape inPath)

/-- The text of a path with the given segments. -/
def pathText (segments : List (List Char)) : List Char :=
  segments.flatMap fun segment => '/' :: segment

/-- The normal form of a path whose first slash has been taken off. -/
def resolvedPath (text : List Char) : List Char :=
  pathText (resolveDots false [] (segmentsOf text))

/-- The normal form of the path behind a server. -/
def pathBehindServer (special : Bool) (text : List Char) : List Char :=
  match text with
  | [] => if special then ['/'] else []
  | '/' :: rest => resolvedPath rest
  | _ => resolvedPath text

/-- The normal form of the path of an address without a server. -/
def lonePath (text : List Char) : List Char :=
  match text with
  | '/' :: rest =>
      let path := resolvedPath rest
      if ['/', '/'].isPrefixOf path then "/.".toList ++ path else path
  | _ => escape [] text

/-! ## Paths of files -/

/-- The segments of the path of a file. -/
def fileSegments (text : List Char) : List (List Char) :=
  resolveDots true [] (segmentsOf text)

/-- The path of a file with the given segments, empty ones at its start left out. -/
def filePath (segments : List (List Char)) : List Char :=
  '/' :: (pathText segments).dropWhile (· == '/')

end TableApi.Address
