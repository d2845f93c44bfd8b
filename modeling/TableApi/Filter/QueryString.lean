import TableApi.Effect.Log
import TableApi.Filter.Basic
import TableApi.Text.Percent

/-!
# Filters in a query string

A query string is a list of pairs between ampersands.  The sign of the comparison is the
delimiter between the key and the value of a pair, plain or percent-encoded: the pair
`price%3E=10` asks for a price of at least ten.  Delimiters are tried in a fixed order, so that
the long signs come before their first characters.

Each pair contributes a filter set of its own, and the query string means their concatenation.
A pair without a delimiter contributes nothing, nor does one with a blank column.
-/

namespace TableApi

/-- A way to write a comparison between the key and the value of a pair. -/
structure Delimiter where
  comparison : Comparison
  encoded : Option (List Char)
  plain : List Char
deriving DecidableEq, Repr

namespace Delimiter

/-- The delimiters in the order in which they are tried. -/
def all : List Delimiter :=
  [⟨.notEqual, some "%21=".toList, "!=".toList⟩,
   ⟨.atMost, some "%3C=".toList, "<=".toList⟩,
   ⟨.atLeast, some "%3E=".toList, ">=".toList⟩,
   ⟨.less, some "%3C".toList, "<".toList⟩,
   ⟨.greater, some "%3E".toList, ">".toList⟩,
   ⟨.equal, none, "=".toList⟩]

/-- The text before and after the first occurrence of a mark in capitals, where letters of the
text count as capitals. -/
def cutFolded? (mark text : List Char) : Option (List Char × List Char) :=
  (Text.cut? mark (text.map Char.toUpper)).map fun (before, _) =>
    (text.take before.length, text.drop (before.length + mark.length))

/-- The key and the value around the first occurrence of a delimiter.  Its encoded form is looked
for in the whole pair before its plain form is. -/
def cut? (delimiter : Delimiter) (pair : List Char) : Option (List Char × List Char) :=
  (delimiter.encoded.bind fun mark => cutFolded? mark pair).or (Text.cut? delimiter.plain pair)

/-- The comparison, the key and the value of a pair, all still encoded. -/
def splitPair? (pair : List Char) : Option (Comparison × List Char × List Char) :=
  all.findSome? fun delimiter =>
    (delimiter.cut? pair).map fun (key, value) => (delimiter.comparison, key, value)

end Delimiter

namespace QueryString

/-- The pairs of a query string.  One leading question mark does not count, nor do empty
pairs. -/
def pairs (text : List Char) : List (List Char) :=
  let text := match text with
    | '?' :: rest => rest
    | _ => text
  (Text.splitAtChar '&' text).filter fun pair => !pair.isEmpty

/-- What a decoded key contributes with this comparison and this decoded value. -/
def filtersOfKey (comparison : Comparison) (key value : List Char) : FilterSet :=
  match Directive.ofKey? key with
  | some directive => directive.filters value
  | none =>
      let (conjunction, column) := Conjunction.ofKey key
      if column.isEmpty then .empty
      else .ofCondition ⟨.ofList column, comparison, .ofList value, conjunction⟩

def filtersOfPair (pair : List Char) : FilterSet :=
  match Delimiter.splitPair? pair with
  | none => .empty
  | some (comparison, key, value) =>
      filtersOfKey comparison (Text.formDecode key) (Text.formDecode value)

/-- The filter set that a query string means. -/
def filters (text : String) : FilterSet :=
  FilterSet.concat ((pairs text.toList).map filtersOfPair)

/-- The log entries about the pairs of a query string that have no delimiter. -/
def ignored (text : String) : List LogEntry :=
  ((pairs text.toList).filter fun pair => (Delimiter.splitPair? pair).isNone).map fun pair =>
    .plain .trace ("Ignoring query pair without operator: " ++ .ofList pair)

end QueryString

end TableApi
