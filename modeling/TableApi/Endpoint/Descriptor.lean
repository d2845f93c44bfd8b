import TableApi.Endpoint.Kind
import TableApi.Json.Reader
import TableApi.Text.Quoted

/-!
# Endpoint descriptors

A descriptor says what one endpoint of one table asks for: the verb, who may call it, the hooks
around it and whether requests may filter.  An endpoint whose descriptor holds no authorization is
not activated.

Descriptors are read from JSON.  An object is read in the order of its keys, an array by
position, and the first field that does not fit is the fault of the whole.
-/

namespace TableApi

/-- The rule that the row found under a segment of the path must belong to the caller. -/
structure OwnedSegment where
  column : String
  segment : Nat
deriving DecidableEq, Repr

/-- The rules of an endpoint; a caller that satisfies any of them is admitted. -/
structure Policy where
  roles : List String
  userIds : List String
  userIdSegment : Option Nat
  userCodeSegment : Option Nat
  ownedSegment : Option OwnedSegment
deriving DecidableEq, Repr

/-- Who may call an endpoint: anyone at all, or whom a policy admits. -/
inductive Authorization where
  | wildcard
  | policy (policy : Policy)
deriving DecidableEq, Repr

/-- What one endpoint of one table asks for. -/
structure Descriptor where
  verb : Verb
  identifier : Option String
  authorization : Option Authorization
  beforeHook : Option String
  afterHook : Option String
  enableParams : Bool
deriving DecidableEq, Repr

/-- Why a value is no descriptor. -/
inductive DescriptorFault where
  | wrongType (found expected : String)
  | unsupportedVerb (name : String)
  | unsupportedAuthorization (text : String)
  | unreadableAuthorization
  | missingVerb
  | noItems
  | tooManyItems (count : Nat)
deriving DecidableEq, Repr

namespace DescriptorFault

def message : DescriptorFault → String
  | wrongType found expected => "invalid type: " ++ found ++ ", expected " ++ expected
  | unsupportedVerb name => Verb.unsupported name
  | unsupportedAuthorization text => "Unsupported authorization value: " ++ Text.quoted text
  | unreadableAuthorization => "data did not match any variant of untagged enum RawAuthorization"
  | missingVerb => "missing field `request_type`"
  | noItems => "invalid length 0, expected struct EndpointDescriptor with 6 elements"
  | tooManyItems count =>
      "invalid length " ++ toString count ++ ", expected fewer elements in array"

end DescriptorFault

namespace Policy

def empty : Policy :=
  ⟨[], [], none, none, none⟩

/-- The text of one entry of a list of roles or ids. -/
def entryOf? : Json → Option String
  | .string text => some (Text.trimmed text)
  | .number value => some value.text
  | _ => none

/-- A list of roles or ids; a single entry may stand for a list, and null for the empty one. -/
def entriesOf? : Json → Option (List String)
  | .null => some []
  | .array items => items.mapM entryOf?
  | scalar => (entryOf? scalar).map fun entry => [entry]

/-- The number of a segment, given as a number or as a text. -/
def segmentOf? : Json → Option Nat
  | .number value => value.word?
  | .string text => Text.word? (Text.trim text.toList)
  | _ => none

/-- The number of a segment, or null for none. -/
def optionalSegmentOf? : Json → Option (Option Nat)
  | .null => some none
  | value => (segmentOf? value).map some

def textOf? : Json → Option String
  | .string text => some text
  | _ => none

/-- The ownership rule of a value: both fields are required. -/
def ownedOf? : Json → Option OwnedSegment
  | .object fields => do
      let column ← textOf? (← Fields.get? fields "column")
      let segment ← segmentOf? (← Fields.get? fields "segmentNum")
      return ⟨column, segment⟩
  | .array [column, segment] => do
      return ⟨← textOf? column, ← segmentOf? segment⟩
  | _ => none

/-- The ownership rule of a value, or null for none. -/
def optionalOwnedOf? : Json → Option (Option OwnedSegment)
  | .null => some none
  | value => (ownedOf? value).map some

/-- The names of the rules, in the order in which an array gives them. -/
def fieldNames : List String :=
  ["roles", "userIds", "userIdSegment", "userCodeSegment", "userOwnedSegment"]

/-- The rules that the fields give; a rule that is not given is not there. -/
def ofFields? (fields : Fields) : Option Policy := do
  let read {α : Type} (name : String) (absent : α) (decode : Json → Option α) : Option α :=
    match Fields.get? fields name with
    | some value => decode value
    | none => some absent
  return {
    roles := ← read "roles" [] entriesOf?
    userIds := ← read "userIds" [] entriesOf?
    userIdSegment := ← read "userIdSegment" none optionalSegmentOf?
    userCodeSegment := ← read "userCodeSegment" none optionalSegmentOf?
    ownedSegment := ← read "userOwnedSegment" none optionalOwnedOf? }

/-- The policy that a value gives: an object by its keys, an array by position. -/
def ofJson? : Json → Option Policy
  | .object fields => ofFields? fields
  | .array items =>
      if items.length ≤ fieldNames.length then ofFields? (fieldNames.zip items) else none
  | _ => none

end Policy

namespace Authorization

def openText : String :=
  "*"

def ofJson : Json → Except DescriptorFault Authorization
  | .string text =>
      if Text.trimmed text = openText then .ok .wildcard
      else .error (.unsupportedAuthorization text)
  | value =>
      match Policy.ofJson? value with
      | some rules => .ok (.policy rules)
      | none => .error .unreadableAuthorization

end Authorization

namespace Descriptor

/-- What has been read of a descriptor: a field that has not been given is not there. -/
structure Draft where
  verb : Option Verb
  identifier : Option String
  authorization : Option Authorization
  beforeHook : Option String
  afterHook : Option String
  enableParams : Bool
deriving DecidableEq, Repr

def textOf : Json → Except DescriptorFault String
  | .string text => .ok text
  | other => .error (.wrongType other.describe "a string")

/-- Reads a text, or null for none. -/
def optionalTextOf : Json → Except DescriptorFault (Option String)
  | .null => .ok none
  | value => (textOf value).map some

/-- Reads the name of a hook; a blank name means no hook. -/
def hookOf (value : Json) : Except DescriptorFault (Option String) := do
  let name ← optionalTextOf value
  return (name.map Text.trimmed).filter fun name => !name.isEmpty

def truthOf : Json → Except DescriptorFault Bool
  | .bool value => .ok value
  | other => .error (.wrongType other.describe "a boolean")

def verbOf (value : Json) : Except DescriptorFault Verb := do
  (Verb.ofText (← textOf value)).mapError .unsupportedVerb

/-- Reads who may call the endpoint, or null for an endpoint that is not activated. -/
def authorizationOf : Json → Except DescriptorFault (Option Authorization)
  | .null => .ok none
  | value => (Authorization.ofJson value).map some

namespace Draft

def empty : Draft :=
  ⟨none, none, none, none, none, false⟩

/-- Reads one field; an unknown name is passed over. -/
def read (draft : Draft) (name : String) (value : Json) : Except DescriptorFault Draft :=
  match name with
  | "request_type" => do return { draft with verb := some (← verbOf value) }
  | "restful_identifier" => do return { draft with identifier := ← optionalTextOf value }
  | "authorization" => do return { draft with authorization := ← authorizationOf value }
  | "beforeHook" => do return { draft with beforeHook := ← hookOf value }
  | "afterHook" => do return { draft with afterHook := ← hookOf value }
  | "enableParams" => do return { draft with enableParams := ← truthOf value }
  | _ => .ok draft

def readAll (draft : Draft) : Fields → Except DescriptorFault Draft
  | [] => .ok draft
  | (name, value) :: fields => do readAll (← draft.read name value) fields

/-- The descriptor, once the verb has been read. -/
def finish (draft : Draft) : Except DescriptorFault Descriptor :=
  match draft.verb with
  | none => .error .missingVerb
  | some verb =>
      .ok ⟨verb, draft.identifier, draft.authorization, draft.beforeHook, draft.afterHook,
        draft.enableParams⟩

end Draft

/-- The names of the fields, in the order in which an array gives them. -/
def fieldNames : List String :=
  ["request_type", "restful_identifier", "authorization", "beforeHook", "afterHook",
    "enableParams"]

/-- The descriptor that a value gives: an object by its keys, an array by position. -/
def ofJson : Json → Except DescriptorFault Descriptor
  | .object fields => do (← Draft.empty.readAll fields).finish
  | .array [] => .error .noItems
  | .array items => do
      let draft ← Draft.empty.readAll (fieldNames.zip items)
      if items.length ≤ fieldNames.length then draft.finish
      else .error (.tooManyItems items.length)
  | other => .error (.wrongType other.describe "struct EndpointDescriptor")

end Descriptor

end TableApi
