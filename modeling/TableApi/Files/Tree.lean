import TableApi.Text.Scan
import TableApi.Text.Utf8

/-!
# A tree of files

The settings documents are files below a directory.  `Files` is what that directory holds at one
moment: the contents of the files under their paths.  Reading a path walks its components from the
left, as a file system does: an empty component and a dot stay where they are, two dots go up, and
the first component that cannot be entered decides how reading fails.  Above the directory lies the
root, and nothing else.
-/

namespace TableApi

/-- What a directory holds: files with their bytes, and directories that are empty, under their
paths. -/
structure Files where
  entries : List (List String × Option (List UInt8))
deriving DecidableEq, Repr

/-- What reading a path gives. -/
inductive FileRead where
  | missing
  | failed (reason : String)
  | bytes (contents : List UInt8)
deriving DecidableEq, Repr

namespace Files

def empty : Files :=
  ⟨[]⟩

def components (path : String) : List String :=
  (Text.splitAtChar '/' path.toList).map .ofList

/-- The components that lead somewhere: neither empty nor a dot.  An absolute path starts with a
step to the root. -/
def steps (path : String) : List String :=
  let inner := (components path).filter fun step => !step.isEmpty && step != "."
  if path.toList.head? = some '/' then "/" :: inner else inner

def root : List String :=
  ["/"]

def above (place : List String) : List String :=
  if place.isEmpty || place = root then root else place.dropLast

def next (place : List String) (step : String) : List String :=
  if step = ".." then above place else place ++ [step]

/-- Puts a file with these bytes, or a directory, at a path. -/
def write (files : Files) (path : String) (contents : Option (List UInt8)) : Files :=
  let place := (steps path).foldl next []
  ⟨(files.entries.filter fun entry => entry.1 != place) ++ [(place, contents)]⟩

/-- The contents of the file at a place. -/
def fileAt? (files : Files) (place : List String) : Option (List UInt8) :=
  (files.entries.find? fun entry => entry.1 = place && entry.2.isSome).bind Prod.snd

/-- Whether there is a directory at a place. -/
def isDirectory (files : Files) (place : List String) : Bool :=
  place.isEmpty || place = root || files.entries.any fun entry =>
    place.isPrefixOf entry.1 && (entry.1 != place || entry.2.isNone)

/-- The most bytes that the name of a file may have. -/
def longestName : Nat := 255

/-- Reads what is found by these steps from a place. -/
def walk (files : Files) (place : List String) : List String → FileRead
  | [] =>
      match files.fileAt? place with
      | some contents => .bytes contents
      | none =>
          if files.isDirectory place then .failed "Is a directory (os error 21)" else .missing
  | step :: rest =>
      if files.isDirectory place then
        let reached := next place step
        if longestName < step.utf8ByteSize then .failed "File name too long (os error 36)"
        else if files.isDirectory reached || (files.fileAt? reached).isSome then
          walk files reached rest
        else .missing
      else .failed "Not a directory (os error 20)"

/-- The most bytes that a path may have. -/
def longestPath : Nat := 4095

def read (files : Files) (path : String) : FileRead :=
  if path.toList.contains '\x00' then
    .failed "file name contained an unexpected NUL byte"
  else if longestPath < path.utf8ByteSize then .failed "File name too long (os error 36)"
  else files.walk [] (steps path)

end Files

end TableApi
