import TableApi.Endpoint.Descriptor
import TableApi.Files.Tree
import TableApi.Named
import TableApi.Table.Schema

/-!
# Settings documents

Each table has one settings document, a JSON object that holds the descriptors of its endpoints
under their names.  `Documents` says where the documents are.  A document can be read as a whole, or
for the descriptor of one endpoint, where a fault in another entry does not matter.
-/

namespace TableApi

/-- Why a document did not give a descriptor. -/
inductive DocumentError where
  | notFound (what : String)
  | malformed (path : String) (error : Json.ReadError)
  | badEntry (path name : String) (fault : DescriptorFault)
  | unreadable (path reason : String)
deriving DecidableEq, Repr

namespace DocumentError

def message : DocumentError → String
  | notFound what => "No endpoint settings for '" ++ what ++ "'"
  | malformed path error => "Invalid endpoint settings in " ++ path ++ ": " ++ error.message
  | badEntry path name fault =>
      "Invalid endpoint settings in " ++ path ++ ": " ++ name ++ ": " ++ fault.message
  | unreadable path reason => "Failed to read " ++ path ++ ": " ++ reason

end DocumentError

/-- The directory of the documents, and the files that are there. -/
structure Documents where
  directory : String
  files : Files
deriving DecidableEq, Repr

namespace Documents

/-- A path one step further; an absolute step starts anew. -/
def extend (path step : String) : String :=
  if path.isEmpty || step.toList.head? = some '/' then step
  else if path.toList.getLast? = some '/' then path ++ step
  else path ++ "/" ++ step

/-- The path of the document of a table. -/
def documentPath (documents : Documents) (table : String) : String :=
  extend (extend (extend documents.directory table) "assets") "api.json"

/-- Whether a table name may become part of a path. -/
def isTableName (table : String) : Bool :=
  !table.isEmpty && table.toList.all isIdentifierChar

/-- The entries of the document of a table. -/
def document (documents : Documents) (table : String) : Except DocumentError Fields :=
  if isTableName table then
    let path := documents.documentPath table
    match documents.files.read path with
    | .missing => .error (.notFound table)
    | .failed reason => .error (.unreadable path reason)
    | .bytes contents => (Json.readObject contents).mapError (.malformed path)
  else .error (.notFound table)

def readEntry (documents : Documents) (table name : String) (entry : Json) :
    Except DocumentError Descriptor :=
  (Descriptor.ofJson entry).mapError (.badEntry (documents.documentPath table) name)

/-- The descriptors of all entries, in the order of the document. -/
def readEntries (documents : Documents) (table : String) :
    Fields → Except DocumentError (List (String × Descriptor))
  | [] => .ok []
  | (name, entry) :: entries => do
      let descriptor ← documents.readEntry table name entry
      let others ← readEntries documents table entries
      return (name, descriptor) :: others

/-- The descriptors of all entries, in the order of their names. -/
def load (documents : Documents) (table : String) :
    Except DocumentError (Named Descriptor) := do
  let entries ← documents.document table
  let descriptors ← documents.readEntries table entries
  return Named.ofList descriptors

/-- The name that may stand for the search endpoint in a document. -/
def searchAlias : String :=
  "Get By Post"

/-- The entry of an endpoint in a document: the one under its name or, for the search endpoint, the
one under its other name. -/
def entryOf? (entries : Fields) (endpoint : Endpoint) : Option Json :=
  match Fields.get? entries endpoint.name with
  | some entry => some entry
  | none => if endpoint = .search then Fields.get? entries searchAlias else none

/-- The descriptor with the identifier of the endpoint, unless it has its own. -/
def complete (endpoint : Endpoint) (descriptor : Descriptor) : Descriptor :=
  { descriptor with identifier := descriptor.identifier.or (some endpoint.identifier) }

/-- The descriptor of one endpoint of a table. -/
def descriptor (documents : Documents) (table : String) (endpoint : Endpoint) :
    Except DocumentError Descriptor := do
  let entries ← documents.document table
  match entryOf? entries endpoint with
  | none => .error (.notFound (table ++ "/" ++ endpoint.name))
  | some entry =>
      let descriptor ← documents.readEntry table endpoint.name entry
      return complete endpoint descriptor

end Documents

end TableApi
