import TableApi.Endpoint.Document

/-!
# Summaries of settings documents

A summary shows one entry of a document to an operator: what it asks for, in short texts, and
whether its verb is the one of the built-in endpoint that the entry belongs to.
-/

namespace TableApi

namespace Policy

/-- The rules of a policy as short texts. -/
def parts (policy : Policy) : List String :=
  (if policy.roles.isEmpty then [] else ["roles=" ++ String.intercalate "|" policy.roles]) ++
  (if policy.userIds.isEmpty then []
    else ["user_ids=" ++ String.intercalate "|" policy.userIds]) ++
  (policy.userIdSegment.toList.map fun number => "userIdSegment=" ++ toString number) ++
  (policy.userCodeSegment.toList.map fun number => "userCodeSegment=" ++ toString number) ++
  (policy.ownedSegment.toList.map fun owned =>
    "owned(" ++ owned.column ++ "@" ++ toString owned.segment ++ ")")

end Policy

namespace Authorization

def describe : Option Authorization → String
  | none => "not activated"
  | some wildcard => openText
  | some (policy rules) =>
      if rules.parts.isEmpty then "token holders with no matching rule are denied"
      else String.intercalate ", " rules.parts

end Authorization

/-- What an operator sees of an entry. -/
structure Summary where
  name : String
  descriptor : Descriptor
  /-- Whether the verb is the one of the built-in endpoint, if the entry belongs to one. -/
  standardVerb : Option Bool
deriving DecidableEq, Repr

namespace Summary

def ofEntry (name : String) (descriptor : Descriptor) : Summary where
  name
  descriptor
  standardVerb :=
    match Endpoint.ofName? name with
    | some endpoint => some (endpoint.verb = descriptor.verb)
    | none => if name = Documents.searchAlias then some true else none

/-- The summaries of the entries of a document. -/
def ofEntries (entries : Named Descriptor) : List Summary :=
  entries.map fun (name, descriptor) => ofEntry name descriptor

def ofTruth : Option Bool → Json
  | some value => .bool value
  | none => .null

def toJson (summary : Summary) : Json :=
  .object
    [("name", .string summary.name),
      ("request_type", .string summary.descriptor.verb.text),
      ("restful_identifier", .ofText? summary.descriptor.identifier),
      ("authorization", .string (Authorization.describe summary.descriptor.authorization)),
      ("before_hook", .ofText? summary.descriptor.beforeHook),
      ("after_hook", .ofText? summary.descriptor.afterHook),
      ("enable_params", .bool summary.descriptor.enableParams),
      ("standard_method", ofTruth summary.standardVerb)]

end Summary

end TableApi
