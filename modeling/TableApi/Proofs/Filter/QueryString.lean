import TableApi.Proofs.Database.Operations
import TableApi.Proofs.Filter.Delimiter
import TableApi.Proofs.Filter.Key

/-!
# Filters written into a query string

A condition is written as its encoded key, the encoded sign of its comparison and its encoded value,
and a directive as its name, an equals sign and its encoded value.  A condition is read back when
the first sign that is seen in its pair is its own: `filtersOfPair_pair_iff` says when that is.
Ampersands and question marks are in no pair, so the pairs of a query string are read one by one.
-/

namespace TableApi

/-! ## Conditions -/

namespace Comparison

/-- The sign of a comparison between an encoded key and an encoded value. -/
def delimiter : Comparison → List Char
  | equal => "=".toList
  | notEqual => "%21=".toList
  | less => "%3C".toList
  | greater => "%3E".toList
  | atMost => "%3C=".toList
  | atLeast => "%3E=".toList

end Comparison

namespace Condition

/-- A condition as a pair of a query string. -/
def pair (condition : Condition) : List Char :=
  Text.formEncode condition.key ++ condition.comparison.delimiter ++
    Text.formEncode condition.value.toList

/-- Either shape of an encoded pair, by the comparison. -/
theorem pair_eq (condition : Condition) :
    condition.pair =
      match condition.comparison with
      | .equal =>
          Text.formEncode condition.key ++ '=' :: Text.formEncode condition.value.toList
      | .notEqual =>
          Text.formEncode (condition.key ++ ['!']) ++ '=' :: Text.formEncode condition.value.toList
      | .less => Text.formEncode (condition.key ++ '<' :: condition.value.toList)
      | .greater => Text.formEncode (condition.key ++ '>' :: condition.value.toList)
      | .atMost =>
          Text.formEncode (condition.key ++ ['<']) ++ '=' :: Text.formEncode condition.value.toList
      | .atLeast =>
          Text.formEncode (condition.key ++ ['>']) ++
            '=' :: Text.formEncode condition.value.toList := by
  have bang : Text.formEncode ['!'] = "%21".toList := by decide
  have less : Text.formEncode ['<'] = "%3C".toList := by decide
  have greater : Text.formEncode ['>'] = "%3E".toList := by decide
  cases comparison : condition.comparison <;>
    simp [pair, comparison, Comparison.delimiter, bang, less, greater,
      Text.formEncode_cons _ condition.value.toList]

theorem pair_ne_nil (condition : Condition) : condition.pair ≠ [] := by
  cases comparison : condition.comparison <;> simp [pair, comparison, Comparison.delimiter]

theorem mem_pair {condition : Condition} {character : Char} (member : character ∈ condition.pair) :
    Text.isEncoded character = true ∨ character = '=' := by
  have signs : condition.comparison.delimiter.all
      (fun other => Text.isEncoded other || other == '=') = true := by
    cases condition.comparison <;> decide
  rcases List.mem_append.1 member with inside | inside
  · rcases List.mem_append.1 inside with inside | sign
    · exact Or.inl (Text.isEncoded_of_mem inside)
    · simpa using List.all_eq_true.1 signs character sign
  · exact Or.inl (Text.isEncoded_of_mem inside)

/-- Whether no character of the condition is taken for the sign of a comparison. -/
def Survives (condition : Condition) : Prop :=
  match condition.comparison with
  | .notEqual => True
  | .atMost => True
  | .atLeast => True
  | .less => '<' ∉ condition.column.toList
  | .greater =>
      ('<' ∉ condition.column.toList ∧ '>' ∉ condition.column.toList) ∧
        '<' ∉ condition.value.toList
  | .equal =>
      ('<' ∉ condition.column.toList ∧ '>' ∉ condition.column.toList) ∧
        ('<' ∉ condition.value.toList ∧ '>' ∉ condition.value.toList) ∧
          condition.column.toList.getLast? ≠ some '!'

end Condition

namespace QueryString

open Text

/-- The key of a condition means that condition. -/
theorem filtersOfKey_key {condition : Condition} (named : condition.Named) :
    filtersOfKey condition.comparison condition.key condition.value.toList =
      .ofCondition condition := by
  have undirected := named.directive_key [] (by simp)
  rcases named.column_eq_cons with ⟨first, rest, column, _⟩
  rw [List.append_nil] at undirected
  simp only [filtersOfKey, undirected, named.conjunction_key, column, List.isEmpty_cons,
    Bool.false_eq_true, if_false]
  rw [← column, String.ofList_toList, String.ofList_toList]

/-- A condition that a key means has the comparison that was found, and its column comes from the
key. -/
theorem of_filtersOfKey {comparison : Comparison} {key value : List Char} {condition : Condition}
    (means : filtersOfKey comparison key value = .ofCondition condition) :
    condition.comparison = comparison ∧
      ∀ character ∈ condition.column.toList, character ∈ key := by
  have conditions := congrArg FilterSet.conditions means
  simp only [filtersOfKey, FilterSet.ofCondition] at conditions
  split at conditions
  · rename_i directive _
    cases directive <;> simp [Directive.filters, FilterSet.empty] at conditions
    split at conditions <;> simp at conditions
  · split at conditions
    · simp [FilterSet.empty] at conditions
    · simp only [List.cons.injEq, and_true] at conditions
      have read : ∀ character ∈ (Conjunction.ofKey key).2, character ∈ key :=
        fun _ => Conjunction.mem_of_mem_ofKey
      rw [← conditions]
      exact ⟨rfl, by simpa using read⟩

/-- A pair whose parts are encoded means what the parts say. -/
theorem filtersOfPair_eq {pair key value : List Char} {comparison : Comparison}
    (split : Delimiter.splitPair? pair = some (comparison, formEncode key, formEncode value)) :
    filtersOfPair pair = filtersOfKey comparison key value := by
  simp only [filtersOfPair, split, formDecode_formEncode]

/-- A pair that means a condition is parted at the sign of its comparison. -/
theorem split_of_filtersOfPair {condition : Condition} {pair : List Char}
    (means : filtersOfPair pair = .ofCondition condition) :
    ∃ parts, Delimiter.splitPair? pair = some (condition.comparison, parts) := by
  rw [filtersOfPair] at means
  split at means
  · simp [FilterSet.ofCondition, FilterSet.empty] at means
  · rename_i comparison key value split
    refine ⟨(key, value), ?_⟩
    rw [split, (of_filtersOfKey means).1]

/-- A condition is not read back when its pair is parted inside its key. -/
theorem not_means_of_split {condition : Condition} {pair before : List Char} {mark : Char}
    (other : mark ∉ "OR ".toList) (member : mark ∈ condition.key) (absent : mark ∉ before)
    {comparison : Comparison} {after : List Char}
    (split : Delimiter.splitPair? pair = some (comparison, formEncode before, formEncode after)) :
    filtersOfPair pair ≠ .ofCondition condition := by
  intro means
  rw [filtersOfPair_eq split] at means
  exact absent ((of_filtersOfKey means).2 mark ((condition.mem_key_iff other).1 member))

section Pair

variable {condition : Condition} (named : condition.Named)

include named

/-- The pair of a condition is parted at the sign of the comparison. -/
theorem splitPair?_pair (survives : condition.Survives) :
    Delimiter.splitPair? condition.pair =
      some (condition.comparison, formEncode condition.key, formEncode condition.value.toList) := by
  have less := condition.mem_key_iff (by decide : '<' ∉ "OR ".toList)
  have greater := condition.mem_key_iff (by decide : '>' ∉ "OR ".toList)
  rw [Condition.pair_eq]
  cases comparison : condition.comparison with
  | equal =>
    simp only [Condition.Survives, comparison, ← less, ← greater, ← named.getLast?_key] at survives
    exact Delimiter.splitPair?_equal _ _ survives.1 survives.2.1 survives.2.2
  | notEqual => exact Delimiter.splitPair?_notEqual _ _
  | less =>
    simp only [Condition.Survives, comparison, ← less] at survives
    exact Delimiter.splitPair?_less _ _ survives
  | greater =>
    simp only [Condition.Survives, comparison, ← less, ← greater] at survives
    exact Delimiter.splitPair?_greater _ _ (by simp [survives]) survives.1.2
  | atMost => exact Delimiter.splitPair?_atMost _ _
  | atLeast => exact Delimiter.splitPair?_atLeast _ _

/-- A condition is read back only when no character of it is taken for a sign. -/
theorem survives_of_filtersOfPair (means : filtersOfPair condition.pair = .ofCondition condition) :
    condition.Survives := by
  have less := condition.mem_key_iff (by decide : '<' ∉ "OR ".toList)
  have greater := condition.mem_key_iff (by decide : '>' ∉ "OR ".toList)
  rw [Condition.pair_eq] at means
  cases comparison : condition.comparison with
  | equal =>
    simp only [comparison] at means
    rcases split_of_filtersOfPair means with ⟨parts, split⟩
    rw [comparison] at split
    simp only [Condition.Survives, comparison, ← less, ← greater, ← named.getLast?_key]
    exact Delimiter.plain_of_splitPair?_equal _ _ split
  | notEqual => simp [Condition.Survives, comparison]
  | less =>
    simp only [comparison] at means
    simp only [Condition.Survives, comparison, ← less]
    intro member
    rcases List.eq_append_cons_of_mem member with ⟨start, rest, split, absent⟩
    have parts := Delimiter.splitPair?_less start (rest ++ '<' :: condition.value.toList) absent
    rw [split, List.append_assoc, List.cons_append] at means
    exact not_means_of_split (by decide) member absent parts means
  | greater =>
    simp only [comparison] at means
    rcases split_of_filtersOfPair means with ⟨parts, sign⟩
    have plain : '<' ∉ condition.key ++ '>' :: condition.value.toList := by
      intro member
      rcases List.eq_append_cons_of_mem member with ⟨start, rest, split, absent⟩
      rw [split, Delimiter.splitPair?_less start rest absent, comparison] at sign
      simp at sign
    simp only [Condition.Survives, comparison, ← less, ← greater]
    refine ⟨⟨fun member => plain (by simp [member]), ?_⟩, fun member => plain (by simp [member])⟩
    intro member
    rcases List.eq_append_cons_of_mem member with ⟨start, rest, split, absent⟩
    rw [split, List.append_assoc, List.cons_append] at means plain
    have parts := Delimiter.splitPair?_greater start (rest ++ '>' :: condition.value.toList)
      (by simpa using plain) absent
    exact not_means_of_split (by decide) member absent parts means
  | atMost => simp [Condition.Survives, comparison]
  | atLeast => simp [Condition.Survives, comparison]

theorem filtersOfPair_pair_iff :
    filtersOfPair condition.pair = .ofCondition condition ↔ condition.Survives := by
  constructor
  · exact survives_of_filtersOfPair named
  · intro survives
    rw [filtersOfPair_eq (splitPair?_pair named survives), filtersOfKey_key named]

end Pair

end QueryString

/-! ## Filter sets -/

namespace Directive

/-- The name of a directive in a query string. -/
def name : Directive → List Char
  | orderBy => "orderBy".toList
  | limit => "limit".toList
  | offset => "offset".toList

/-- A directive and its value as a pair of a query string. -/
def pair (directive : Directive) (value : String) : List Char :=
  directive.name ++ '=' :: Text.formEncode value.toList

/-- A pair with a directive means that directive, unless its value has the sign of a comparison. -/
theorem filtersOfPair_pair (directive : Directive) {value : String}
    (plain : '<' ∉ value.toList ∧ '>' ∉ value.toList) :
    QueryString.filtersOfPair (directive.pair value) = directive.filters value.toList := by
  have encoded : Text.formEncode directive.name = directive.name := by
    cases directive <;> decide
  have known : ofKey? directive.name = some directive := by
    cases directive <;> decide
  have split := Delimiter.splitPair?_equal directive.name value.toList
    (by cases directive <;> decide) plain (by cases directive <;> decide)
  have shape : directive.pair value =
      Text.formEncode directive.name ++ '=' :: Text.formEncode value.toList := by
    rw [encoded]
    rfl
  rw [shape, QueryString.filtersOfPair_eq split]
  simp only [QueryString.filtersOfKey, known]

/-- A number has no sign of a comparison. -/
theorem plain_toString (value : Nat) :
    '<' ∉ (toString value).toList ∧ '>' ∉ (toString value).toList :=
  ⟨fun member => absurd (isDigit_of_mem_toString member) (by decide),
    fun member => absurd (isDigit_of_mem_toString member) (by decide)⟩

theorem mem_pair {directive : Directive} {value : String} {character : Char}
    (member : character ∈ directive.pair value) :
    Text.isEncoded character = true ∨ character = '=' := by
  have names : directive.name.all Text.isEncoded = true := by
    cases directive <;> decide
  rcases List.mem_append.1 member with inside | behind
  · exact Or.inl (List.all_eq_true.1 names character inside)
  · rcases List.mem_cons.1 behind with sign | inside
    · exact Or.inr sign
    · exact Or.inl (Text.isEncoded_of_mem inside)

end Directive

namespace FilterSet

/-- The pairs that say the directives of a filter set. -/
def directivePairs (filters : FilterSet) : List (List Char) :=
  (filters.orderBy.map (Directive.pair .orderBy)).toList ++
    ((filters.limit.map fun limit => Directive.pair .limit (toString limit)).toList ++
      (filters.offset.map fun offset => Directive.pair .offset (toString offset)).toList)

/-- A filter set as a query string. -/
def queryText (filters : FilterSet) : String :=
  .ofList (Text.joinWith ['&'] (filters.conditions.map Condition.pair ++ filters.directivePairs))

/-- A filter set that a query string can say. -/
structure IsQuery (filters : FilterSet) : Prop where
  named : ∀ condition ∈ filters.conditions, condition.Named
  survive : ∀ condition ∈ filters.conditions, condition.Survives
  ordered : ∀ clause ∈ filters.orderBy, Text.trimmed clause = clause ∧ clause ≠ "" ∧
    '<' ∉ clause.toList ∧ '>' ∉ clause.toList
  small : filters.IsSmall

/-- Conditions that are read one by one are read together. -/
theorem concat_conditions (conditions : List Condition) :
    concat (conditions.map ofCondition) = { empty with conditions := conditions } := by
  induction conditions with
  | nil => rfl
  | cons condition conditions step =>
    simp only [concat, List.map_cons, List.foldr_cons] at step ⊢
    rw [step]
    rfl

/-- A pair that may be there contributes what it means. -/
theorem concat_optional {α : Type} {value : Option α} {pair : α → List Char}
    {part : α → FilterSet}
    (read : ∀ given ∈ value, QueryString.filtersOfPair (pair given) = part given) :
    concat ((value.map pair).toList.map QueryString.filtersOfPair) =
      (value.map part).getD .empty := by
  cases value with
  | none => rfl
  | some given => exact (append_empty _).trans (read given rfl)

theorem concat_directivePairs {filters : FilterSet} (query : filters.IsQuery) :
    concat (filters.directivePairs.map QueryString.filtersOfPair) =
      { filters with conditions := [] } := by
  have order : ∀ clause ∈ filters.orderBy,
      QueryString.filtersOfPair (Directive.pair .orderBy clause) =
        { empty with orderBy := some clause } := by
    intro clause given
    rcases query.ordered clause given with ⟨trimmed, filled, plain⟩
    rw [Directive.filtersOfPair_pair _ plain, Directive.filters_orderBy trimmed filled]
  have limit : ∀ value ∈ filters.limit,
      QueryString.filtersOfPair (Directive.pair .limit (toString value)) =
        { empty with limit := some value } := by
    intro value given
    rw [Directive.filtersOfPair_pair _ (Directive.plain_toString value),
      Directive.filters_limit (query.small.1 value given)]
  have offset : ∀ value ∈ filters.offset,
      QueryString.filtersOfPair (Directive.pair .offset (toString value)) =
        { empty with offset := some value } := by
    intro value given
    rw [Directive.filtersOfPair_pair _ (Directive.plain_toString value),
      Directive.filters_offset (query.small.2 value given)]
  rw [directivePairs, List.map_append, List.map_append, concat_append, concat_append,
    concat_optional order, concat_optional limit, concat_optional offset]
  rcases filters with ⟨conditions, _ | clause, _ | limit, _ | offset⟩ <;> rfl

/-- The pairs of a query text are not empty and have neither an ampersand nor a question mark. -/
theorem mem_pairs {filters : FilterSet} {pair : List Char}
    (member : pair ∈ filters.conditions.map Condition.pair ++ filters.directivePairs) :
    pair ≠ [] ∧ ∀ character ∈ pair, Text.isEncoded character = true ∨ character = '=' := by
  have shapes : (∃ condition : Condition, pair = condition.pair) ∨
      ∃ (directive : Directive) (value : String), pair = directive.pair value := by
    simp only [directivePairs, List.mem_append, List.mem_map, Option.mem_toList,
      Option.map_eq_some_iff] at member
    rcases member with ⟨condition, _, rfl⟩ | ⟨clause, _, rfl⟩ | ⟨limit, _, rfl⟩ | ⟨offset, _, rfl⟩
    · exact Or.inl ⟨condition, rfl⟩
    · exact Or.inr ⟨.orderBy, clause, rfl⟩
    · exact Or.inr ⟨.limit, toString limit, rfl⟩
    · exact Or.inr ⟨.offset, toString offset, rfl⟩
  rcases shapes with ⟨condition, rfl⟩ | ⟨directive, value, rfl⟩
  · exact ⟨condition.pair_ne_nil, fun _ => Condition.mem_pair⟩
  · exact ⟨by simp [Directive.pair], fun _ => Directive.mem_pair⟩

end FilterSet

namespace QueryString

/-- The pairs of a text that starts with no question mark. -/
theorem pairs_eq {text : List Char} (unmarked : text.head? ≠ some '?') :
    pairs text = (Text.splitAtChar '&' text).filter fun pair => !pair.isEmpty := by
  cases text with
  | nil => rfl
  | cons first rest =>
    have other : first ≠ '?' := by simpa using unmarked
    simp [pairs, other]

/-- Encoded pairs that are joined by ampersands are parted again. -/
theorem pairs_joinWith {pieces : List (List Char)} (encoded : ∀ piece ∈ pieces, piece ≠ [] ∧
      ∀ character ∈ piece, Text.isEncoded character = true ∨ character = '=') :
    pairs (Text.joinWith ['&'] pieces) = pieces := by
  have absent : ∀ mark, Text.isEncoded mark = false → mark ≠ '=' →
      ∀ piece ∈ pieces, mark ∉ piece := by
    intro mark plain other piece member inside
    rcases (encoded piece member).2 mark inside with found | found
    · simp [plain] at found
    · exact other found
  have filled : pieces.filter (fun pair => !pair.isEmpty) = pieces := by
    rw [List.filter_eq_self]
    intro pair member
    simpa using (encoded pair member).1
  cases pieces with
  | nil => rfl
  | cons piece others =>
    have unmarked : (Text.joinWith ['&'] (piece :: others)).head? = piece.head? := by
      cases piece with
      | nil => exact absurd rfl (encoded [] List.mem_cons_self).1
      | cons first rest => cases others <;> rfl
    have split : Text.splitAtChar '&' (Text.joinWith ['&'] (piece :: others)) = piece :: others :=
      Text.splitAtChar_joinWith (by simp) (absent '&' (by decide) (by decide))
    rw [pairs_eq, split, filled]
    rw [unmarked]
    exact fun found => absent '?' (by decide) (by decide) piece List.mem_cons_self
      (List.mem_of_mem_head? found)

/-- A filter set in a query string is read back. -/
theorem filters_queryText {filters : FilterSet} (query : filters.IsQuery) :
    QueryString.filters filters.queryText = filters := by
  have each : ∀ condition ∈ filters.conditions,
      filtersOfPair condition.pair = .ofCondition condition :=
    fun condition member =>
      (filtersOfPair_pair_iff (query.named condition member)).2 (query.survive condition member)
  have conditions : (filters.conditions.map Condition.pair).map filtersOfPair =
      filters.conditions.map FilterSet.ofCondition := by
    rw [List.map_map]
    exact List.map_congr_left each
  rw [QueryString.filters, FilterSet.queryText, String.toList_ofList,
    pairs_joinWith fun _ => FilterSet.mem_pairs, List.map_append, FilterSet.concat_append,
    conditions, FilterSet.concat_conditions, FilterSet.concat_directivePairs query]
  ext1 <;> simp [FilterSet.empty]

theorem filters_pair (condition : Condition) :
    QueryString.filters (.ofList condition.pair) = filtersOfPair condition.pair := by
  have one : pairs (Text.joinWith ['&'] [condition.pair]) = [condition.pair] :=
    pairs_joinWith (by simpa using ⟨condition.pair_ne_nil, fun _ => Condition.mem_pair⟩)
  rw [QueryString.filters, String.toList_ofList]
  rw [Text.joinWith] at one
  rw [one]
  exact FilterSet.append_empty _

/-- Exactly the conditions none of whose characters is taken for a sign are read back from a pair,
and a filter set of such conditions is read back from its pairs. -/
theorem filters_encoded :
    (∀ condition : Condition, condition.Named →
      (QueryString.filters (.ofList condition.pair) = .ofCondition condition ↔
        condition.Survives)) ∧
    ∀ filters : FilterSet, filters.IsQuery → QueryString.filters filters.queryText = filters := by
  constructor
  · intro condition named
    rw [filters_pair]
    exact filtersOfPair_pair_iff named
  · intro filters query
    exact filters_queryText query

/-- A filter set with a less-than sign in a column and an ampersand in a value. -/
def pricedOrNoted : FilterSet :=
  ⟨[⟨"price", .atLeast, "10", .and⟩, ⟨"a<b", .notEqual, "x&y", .or⟩], some "price DESC", some 5,
    some 10⟩

theorem pricedOrNoted_isQuery : pricedOrNoted.IsQuery := by
  refine ⟨?_, ?_, by decide, by decide, by decide⟩
  · intro condition member
    simp only [pricedOrNoted, List.mem_cons, List.not_mem_nil, or_false] at member
    rcases member with rfl | rfl
    · exact ⟨by decide, by decide, by decide, by decide⟩
    · exact ⟨by decide, by decide, by decide, by decide⟩
  · simp [pricedOrNoted, Condition.Survives]

theorem pricedOrNoted_encoded :
    pricedOrNoted.queryText =
        "price%3E=10&OR%20a%3Cb%21=x%26y&orderBy=price%20DESC&limit=5&offset=10" ∧
      QueryString.filters pricedOrNoted.queryText = pricedOrNoted :=
  ⟨by decide +kernel, filters_encoded.2 pricedOrNoted pricedOrNoted_isQuery⟩

end QueryString

end TableApi
