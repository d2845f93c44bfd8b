import TableApi.Filter.Body
import TableApi.Proofs.Database.Operations
import TableApi.Proofs.Filter.Key

/-!
# Filters written into a body

A condition is written as an entry whose key is the key of the condition, a space and the sign of
the comparison.  The signs are tried at the end of the key, and the space keeps the characters of the
column from being part of one, so columns and values may hold any characters: `filters_form` reads
every filter set back whose keys are distinct.

Only a column that is the bare word of an alternative is taken for the mark of one, since the space
behind it completes the mark.
-/

namespace TableApi

namespace Text

/-- A word of two letters with a space behind it starts a text that is that word up to a space, or
one that starts with all of it. -/
theorem eq_or_prefix_of_prefix {first second : Char} {text rest : List Char} (other : second ≠ ' ')
    (filled : text ≠ []) (starts : [first, second, ' '] <+: text ++ ' ' :: rest) :
    text = [first, second] ∨ [first, second, ' '] <+: text := by
  match text with
  | [] => exact absurd rfl filled
  | [_] =>
    have later := (List.cons_prefix_cons.1 starts).2
    exact absurd (List.cons_prefix_cons.1 later).1 other
  | [_, _] =>
    rcases List.cons_prefix_cons.1 starts with ⟨rfl, later⟩
    rcases List.cons_prefix_cons.1 later with ⟨rfl, -⟩
    exact Or.inl rfl
  | _ :: _ :: third :: others =>
    rcases List.cons_prefix_cons.1 starts with ⟨rfl, later⟩
    rcases List.cons_prefix_cons.1 later with ⟨rfl, last⟩
    rcases List.cons_prefix_cons.1 last with ⟨rfl, -⟩
    exact Or.inr ⟨others, rfl⟩

end Text

namespace FilterBody

/-- The characters of the signs. -/
def signChars : List Char :=
  "!<>=".toList

/-- A sign is tried before every sign that ends it. -/
theorem signs_pairwise : signs.Pairwise fun earlier later => ¬earlier.1 <:+ later.1 := by
  decide

theorem of_mem_signs : ∀ sign ∈ signs, sign.1 ≠ [] ∧ sign.1.length ≤ 2 ∧
    sign.1 ⊆ signChars := by
  decide

/-- No sign that is tried before the one behind a text ends both, unless the text ends in a
character of a sign. -/
theorem dropTail?_of_earlier {text : List Char} {last : Char} (ends : text.getLast? = some last)
    (other : last ∉ signChars) {earlier sign : List Char × Comparison} (known : earlier ∈ signs)
    (member : sign ∈ signs) (apart : ¬earlier.1 <:+ sign.1) :
    Text.dropTail? earlier.1 (text ++ sign.1) = none := by
  apply Text.dropTail?_eq_none
  intro suffix
  rcases List.getLast?_eq_some_iff.1 ends with ⟨front, rfl⟩
  have short : earlier.1.length ≤ (last :: sign.1).length := by
    have filled := List.length_pos_iff.2 (of_mem_signs sign member).1
    have bound := (of_mem_signs earlier known).2.1
    rw [List.length_cons]
    omega
  have near : earlier.1 <:+ last :: sign.1 := by
    apply List.suffix_of_suffix_length_le suffix _ short
    exact ⟨front, by simp⟩
  rcases List.suffix_cons_iff.1 near with whole | inner
  · exact other ((of_mem_signs earlier known).2.2 (by simp [whole]))
  · exact apart inner

/-- A sign is taken off a text that does not end in a character of one. -/
theorem splitKey_sign {text : List Char} {last : Char} (ends : text.getLast? = some last)
    (other : last ∉ signChars) {sign : List Char × Comparison} (member : sign ∈ signs) :
    splitKey (text ++ sign.1) = (Text.trimEnd text, sign.2) := by
  rcases List.append_of_mem member with ⟨before, after, split⟩
  have apart : ∀ earlier ∈ before, ¬earlier.1 <:+ sign.1 := by
    have ordered := signs_pairwise
    rw [split] at ordered
    exact fun earlier inside =>
      (List.pairwise_append.1 ordered).2.2 earlier inside sign List.mem_cons_self
  have skipped : before.findSome? (fun earlier =>
      (Text.dropTail? earlier.1 (text ++ sign.1)).map fun column =>
        (Text.trimEnd column, earlier.2)) = none := by
    rw [List.findSome?_eq_none_iff]
    intro earlier inside
    have known : earlier ∈ signs := by
      rw [split]
      exact List.mem_append_left _ inside
    rw [dropTail?_of_earlier ends other known member (apart earlier inside)]
    rfl
  simp only [splitKey, split, List.findSome?_append, skipped, List.findSome?_cons,
    Text.dropTail?_append, Option.map_some, Option.none_or, Option.getD_some]

/-- A text with a sign behind it and a space between them is the column when it does not end in a
blank. -/
theorem splitKey_space {column : List Char}
    (ends : ∀ last ∈ column.getLast?, Text.isBlank last = false) {sign : List Char × Comparison}
    (member : sign ∈ signs) : splitKey (column ++ ' ' :: sign.1) = (column, sign.2) := by
  have space : Text.isBlank ' ' = true := by decide
  have blank : Text.trimEnd (column ++ [' ']) = column := by
    have same := Text.trimEnd_eq_self ends
    simp only [Text.trimEnd, Text.dropWhileEnd] at same ⊢
    simp [space, same]
  have split : splitKey (column ++ [' '] ++ sign.1) = (Text.trimEnd (column ++ [' ']), sign.2) :=
    splitKey_sign (List.getLast?_concat ..) (by decide) member
  rw [blank, List.append_assoc] at split
  exact split

theorem symbol_mem_signs (comparison : Comparison) :
    (comparison.symbol.toList, comparison) ∈ signs := by
  cases comparison <;> decide

end FilterBody

/-! ## Conditions -/

namespace Condition

/-- The key of a condition in a body. -/
def bodyKey (condition : Condition) : List Char :=
  condition.key ++ ' ' :: condition.comparison.symbol.toList

/-- A condition as an entry of a body. -/
def entry (condition : Condition) : String × Json :=
  (.ofList condition.bodyKey, .string condition.value)

/-- Whether the column is the bare word of an alternative, without standing behind its mark. -/
def IsBareMark (condition : Condition) : Prop :=
  condition.conjunction = .and ∧ (condition.column = "OR" ∨ condition.column = "or")

instance (condition : Condition) : Decidable condition.IsBareMark :=
  inferInstanceAs (Decidable (_ ∧ _))

namespace Named

variable {condition : Condition} (named : condition.Named)

include named

/-- A column with a sign behind it has no blanks around it. -/
theorem trim_signed (comparison : Comparison) :
    Text.trim (condition.column.toList ++ ' ' :: comparison.symbol.toList) =
      condition.column.toList ++ ' ' :: comparison.symbol.toList := by
  rcases named.column_eq_cons with ⟨first, rest, column, unblank⟩
  have sign : comparison.symbol.toList.getLast?.all (fun last => !Text.isBlank last) = true := by
    cases comparison <;> decide
  have filled : comparison.symbol.toList ≠ [] := by cases comparison <;> decide
  rw [Text.trim_eq_self_iff]
  constructor
  · intro start found
    rw [column] at found
    obtain rfl := Option.some.inj found
    exact unblank
  · intro last found
    rw [List.getLast?_append_cons, List.getLast?_cons_of_ne_nil filled] at found
    rw [found] at sign
    simpa using sign

/-- The mark of an alternative starts a column with a space behind it only when it starts the column
or the column is its bare word. -/
theorem unmarked_signed (plain : condition.conjunction = .and) (other : ¬condition.IsBareMark)
    (rest : List Char) :
    ∀ mark ∈ Conjunction.marks, ¬mark <+: condition.column.toList ++ ' ' :: rest := by
  have unmarked := named.unmarked plain
  have filled : condition.column.toList ≠ [] := by simpa using named.filled
  have bare : condition.column.toList ≠ "OR".toList ∧ condition.column.toList ≠ "or".toList := by
    simp only [IsBareMark, plain, true_and, not_or] at other
    exact ⟨fun same => other.1 (String.toList_inj.1 same), fun same =>
      other.2 (String.toList_inj.1 same)⟩
  simp only [Conjunction.marks, List.mem_cons, List.not_mem_nil, or_false]
  rintro mark (rfl | rfl) starts
  · rcases Text.eq_or_prefix_of_prefix (by decide) filled starts with word | lead
    · exact bare.1 word
    · exact unmarked.1 lead
  · rcases Text.eq_or_prefix_of_prefix (by decide) filled starts with word | lead
    · exact bare.2 word
    · exact unmarked.2 lead

/-- The key of a condition in a body says how it joins the others, what its column is and how the
column is compared. -/
theorem conjunction_bodyKey (other : ¬condition.IsBareMark) :
    Conjunction.ofKey condition.bodyKey =
      (condition.conjunction,
        condition.column.toList ++ ' ' :: condition.comparison.symbol.toList) := by
  have trimmed := named.trim_signed condition.comparison
  cases conjunction : condition.conjunction with
  | and =>
    have read := Conjunction.ofKey_and trimmed (named.unmarked_signed conjunction other _)
    simpa [bodyKey, key, conjunction, Conjunction.mark] using read
  | or =>
    have read := Conjunction.ofKey_or trimmed
    rw [← List.append_assoc] at read
    simpa only [bodyKey, key, conjunction, Conjunction.mark] using read

end Named

end Condition

/-! ## Filter sets -/

namespace FilterBody

/-- The readers of bodies and of JSON agree about every space but one, and that one is no value. -/
theorem read_of_blank {body : List UInt8} (blank : body.all isSpace = true) (value : Json) :
    Json.read body ≠ .ok value := by
  have failed : ∃ failure, Json.readValue (2 * body.length + 1 + 1) Json.levels body =
      .error failure := by
    have inside : ∀ byte ∈ Json.skipSpace body, isSpace byte = true :=
      fun byte member => List.all_eq_true.1 blank byte ((List.dropWhile_sublist _).mem member)
    have start := List.head?_dropWhile_not Json.isSpace body
    rw [← Json.skipSpace] at start
    rw [Json.readValue]
    cases left : Json.skipSpace body with
    | nil => exact ⟨_, rfl⟩
    | cons byte rest =>
      rw [left] at start inside
      have other : Json.isSpace byte = false := start
      have feed : byte = 0x0C := by
        have space := inside byte List.mem_cons_self
        simp only [isSpace, Json.isSpace, Bool.or_eq_true, Bool.or_eq_false_iff, decide_eq_true_eq,
          decide_eq_false_iff_not] at space other
        tauto
      subst feed
      exact ⟨_, rfl⟩
  rcases failed with ⟨failure, failed⟩
  intro read
  rw [Json.read, failed] at read
  cases read

/-- The entry of a condition means that condition. -/
theorem filtersOfEntry_entry {condition : Condition} (named : condition.Named)
    (other : ¬condition.IsBareMark) :
    filtersOfEntry condition.entry.1 condition.entry.2 = .ok (.ofCondition condition) := by
  have undirected := named.directive_key (' ' :: condition.comparison.symbol.toList) (by
    intro first found
    obtain rfl := Option.some.inj found
    decide)
  have split := splitKey_space (Text.trim_eq_self_iff.1 named.trim_column).2
    (symbol_mem_signs condition.comparison)
  have filled : condition.column.toList.isEmpty = false := by simpa using named.filled
  simp only [filtersOfEntry, Condition.entry, String.toList_ofList, Condition.bodyKey, undirected]
  rw [← Condition.bodyKey, named.conjunction_bodyKey other]
  dsimp only
  rw [split]
  simp only [filled, Json.scalarText?, String.ofList_toList]
  rfl

theorem filtersOfEntries_cons {entry : String × Json} {entries : Fields} {first others : FilterSet}
    (read : filtersOfEntry entry.1 entry.2 = .ok first)
    (readOthers : filtersOfEntries entries = .ok others) :
    filtersOfEntries (entry :: entries) = .ok (first ++ others) := by
  rw [filtersOfEntries, read, readOthers]
  rfl

theorem filtersOfEntries_conditions {conditions : List Condition} {entries : Fields}
    {others : FilterSet} (named : ∀ condition ∈ conditions, condition.Named)
    (apart : ∀ condition ∈ conditions, ¬condition.IsBareMark)
    (readOthers : filtersOfEntries entries = .ok others) :
    filtersOfEntries (conditions.map Condition.entry ++ entries) =
      .ok ({ FilterSet.empty with conditions := conditions } ++ others) := by
  induction conditions with
  | nil => exact readOthers.trans (congrArg Except.ok (FilterSet.empty_append others).symm)
  | cons condition conditions step =>
    have first := filtersOfEntry_entry (named condition List.mem_cons_self)
      (apart condition List.mem_cons_self)
    have later := step (fun other member => named other (List.mem_cons_of_mem _ member))
      (fun other member => apart other (List.mem_cons_of_mem _ member))
    rw [List.map_cons, List.cons_append, filtersOfEntries_cons first later,
      ← FilterSet.append_assoc]
    rfl

/-- An entry that may be there contributes what it means. -/
theorem filtersOfEntries_optional {α : Type} {value : Option α} (entry : α → String × Json)
    (part : α → FilterSet) {entries : Fields} {others : FilterSet}
    (read : ∀ given ∈ value, filtersOfEntry (entry given).1 (entry given).2 = .ok (part given))
    (readOthers : filtersOfEntries entries = .ok others) :
    filtersOfEntries ((value.map entry).toList ++ entries) =
      .ok ((value.map part).getD .empty ++ others) := by
  cases value with
  | none => exact readOthers.trans (congrArg Except.ok (FilterSet.empty_append others).symm)
  | some given => exact filtersOfEntries_cons (read given rfl) readOthers

end FilterBody

namespace FilterSet

/-- The entries of a body, where `bound` writes a number. -/
def entries (bound : Nat → Json) (filters : FilterSet) : Fields :=
  filters.conditions.map Condition.entry ++
    ((filters.orderBy.map fun clause => ("order_by", Json.string clause)).toList ++
      ((filters.limit.map fun limit => ("limit", bound limit)).toList ++
        ((filters.offset.map fun offset => ("offset", bound offset)).toList ++ [])))

/-- A filter set as the value of a body: its entries set one after the other. -/
def form (bound : Nat → Json) (filters : FilterSet) : Json :=
  .object (Fields.setAll [] (filters.entries bound))

/-- A filter set that a body can say. -/
structure IsForm (filters : FilterSet) : Prop where
  named : ∀ condition ∈ filters.conditions, condition.Named
  apart : ∀ condition ∈ filters.conditions, ¬condition.IsBareMark
  distinct : (filters.conditions.map Condition.bodyKey).Nodup
  ordered : ∀ clause ∈ filters.orderBy, Text.trimmed clause = clause ∧ clause ≠ ""
  small : filters.IsSmall

/-- The entries of the directives of a filter set. -/
theorem directives_entries (bound : Nat → Json) (filters : FilterSet) :
    ∃ directives : Fields,
      filters.entries bound = filters.conditions.map Condition.entry ++ directives ∧
      directives.keys.Nodup ∧ ∀ key ∈ directives.keys, ' ' ∉ key.toList := by
  refine ⟨_, rfl, ?_, ?_⟩
  · rcases filters with ⟨conditions, _ | clause, _ | limit, _ | offset⟩ <;> simp [Fields.keys]
  · rcases filters with ⟨conditions, _ | clause, _ | limit, _ | offset⟩ <;> simp [Fields.keys]

/-- The keys of different entries are different, since those of conditions have a space. -/
theorem keys_entries_nodup {filters : FilterSet}
    (distinct : (filters.conditions.map Condition.bodyKey).Nodup) (bound : Nat → Json) :
    (filters.entries bound).keys.Nodup := by
  rcases filters.directives_entries bound with ⟨directives, split, others, spaceless⟩
  have keys : Fields.keys (filters.conditions.map Condition.entry) =
      (filters.conditions.map Condition.bodyKey).map String.ofList := by
    simp [Fields.keys, Condition.entry]
  rw [split, Fields.keys_append, keys, List.nodup_append]
  refine ⟨distinct.map fun _ _ same => String.ofList_injective same, others, ?_⟩
  rintro key member other inside rfl
  rcases List.mem_map.1 member with ⟨text, isKey, rfl⟩
  rcases List.mem_map.1 isKey with ⟨condition, _, rfl⟩
  apply spaceless _ inside
  rw [String.toList_ofList]
  simp [Condition.bodyKey]

/-- A filter set in the value of a body is read back. -/
theorem filters_form {filters : FilterSet} (isForm : filters.IsForm) {bound : Nat → Json}
    (spells : ∀ value, (bound value).scalarText? = some (toString value)) :
    FilterBody.filters (filters.form bound) = .ok filters := by
  have distinct := keys_entries_nodup isForm.distinct bound
  have set : Fields.setAll [] (filters.entries bound) = filters.entries bound :=
    Fields.setAll_eq_append distinct (by simp)
  have order : ∀ clause ∈ filters.orderBy,
      FilterBody.filtersOfEntry "order_by" (.string clause) =
        .ok { FilterSet.empty with orderBy := some clause } := by
    intro clause given
    rcases isForm.ordered clause given with ⟨trimmed, filled⟩
    rw [← Directive.filters_orderBy trimmed filled]
    rfl
  have limit : ∀ value ∈ filters.limit, FilterBody.filtersOfEntry "limit" (bound value) =
      .ok { FilterSet.empty with limit := some value } := by
    intro value given
    have known : Directive.ofKey? "limit".toList = some .limit := by decide
    rw [← Directive.filters_limit (isForm.small.1 value given), FilterBody.filtersOfEntry, known,
      spells]
  have offset : ∀ value ∈ filters.offset, FilterBody.filtersOfEntry "offset" (bound value) =
      .ok { FilterSet.empty with offset := some value } := by
    intro value given
    have known : Directive.ofKey? "offset".toList = some .offset := by decide
    rw [← Directive.filters_offset (isForm.small.2 value given), FilterBody.filtersOfEntry, known,
      spells]
  have nothing : FilterBody.filtersOfEntries [] = .ok .empty := rfl
  have directives := FilterBody.filtersOfEntries_optional
    (fun clause => ("order_by", Json.string clause)) _ order
    (FilterBody.filtersOfEntries_optional (fun limit => ("limit", bound limit)) _ limit
      (FilterBody.filtersOfEntries_optional (fun offset => ("offset", bound offset)) _ offset
        nothing))
  have whole := FilterBody.filtersOfEntries_conditions isForm.named isForm.apart directives
  rw [form, set]
  refine whole.trans (congrArg Except.ok ?_)
  rcases filters with ⟨conditions, _ | clause, _ | limit, _ | offset⟩ <;>
    simp [FilterSet.ext_parts_iff, empty]

/-- A condition on a column that is the bare word of an alternative is not read back. -/
theorem filters_form_bareMark :
    (⟨"OR", .equal, "x", .and⟩ : Condition).Named ∧
      ([(⟨"OR", .equal, "x", .and⟩ : Condition)].map Condition.bodyKey).Nodup ∧
      FilterBody.filters ((ofCondition ⟨"OR", .equal, "x", .and⟩).form Json.ofNat) =
        .error (.emptyColumn "OR =") :=
  ⟨⟨by decide, by decide, by decide, by decide⟩, by decide, by decide +kernel⟩

end FilterSet

end TableApi
