import Mathlib.Data.List.Forall2
import TableApi.Filter.Basic
import TableApi.Proofs.Number.Decimal
import TableApi.Proofs.Text.Blank
import TableApi.Proofs.Text.Cutting

/-!
# Keys of conditions and directives

A key is read by its first word and by its mark: `Directive.ofKey?_eq_none_iff` says when it names a
directive, and `Conjunction.ofKey_cases` what it leaves for a column.  A directive whose value is a
trimmed clause, or a number that fits 64 bits, contributes that value.

A condition is written with its column as the key, behind a mark when the condition is an
alternative.  The key is read back when its column is trimmed and, without the mark, is taken
neither for a marked key nor for the name of a directive.
-/

namespace TableApi

namespace Conjunction

/-- What stands before the column of a condition. -/
def mark : Conjunction → List Char
  | and => []
  | or => "OR ".toList

/-- A key behind a mark is an alternative, and one that starts with no mark is not. -/
theorem ofKey_cases (key : List Char) :
    (∃ mark ∈ marks, ∃ rest, Text.trimStart key = mark ++ rest ∧ ofKey key = (or, Text.trim rest)) ∨
      (∀ mark ∈ marks, ¬mark <+: Text.trimStart key) ∧ ofKey key = (and, Text.trim key) := by
  have front : Text.trim (Text.trimStart key) = Text.trim key := by
    rw [Text.trim, Text.trimStart_eq_self Text.head?_trimStart, Text.trim]
  cases cut : marks.findSome? fun mark => Text.dropLead? mark (Text.trimStart key) with
  | some rest =>
    rcases List.exists_of_findSome?_eq_some cut with ⟨mark, member, lead⟩
    refine Or.inl ⟨mark, member, rest, (Text.append_of_isPrefixOf? lead).symm, ?_⟩
    simp only [ofKey, cut]
  | none =>
    refine Or.inr ⟨?_, by simp only [ofKey, cut, front]⟩
    rintro mark member ⟨rest, whole⟩
    have dropped := List.findSome?_eq_none_iff.1 cut mark member
    rw [← whole, Text.dropLead?_append] at dropped
    cases dropped

/-- The marks are equally long, so that a text starts with one of them at most. -/
theorem length_of_mark : ∀ mark ∈ marks, mark.length = 3 := by
  decide

/-- A text behind a mark is read without the mark. -/
theorem ofKey_of_mark {key mark rest : List Char} (member : mark ∈ marks)
    (front : Text.trimStart key = mark ++ rest) : ofKey key = (or, Text.trim rest) := by
  rcases ofKey_cases key with ⟨other, known, behind, whole, read⟩ | ⟨unmarked, _⟩
  · have lengths := (length_of_mark mark member).trans (length_of_mark other known).symm
    rw [front] at whole
    rw [read, (List.append_inj whole lengths).2]
  · exact absurd ⟨rest, front.symm⟩ (unmarked mark member)

theorem ofKey_of_unmarked {key : List Char}
    (unmarked : ∀ mark ∈ marks, ¬mark <+: Text.trimStart key) :
    ofKey key = (and, Text.trim key) := by
  rcases ofKey_cases key with ⟨mark, member, rest, front, _⟩ | ⟨_, read⟩
  · exact absurd ⟨rest, front.symm⟩ (unmarked mark member)
  · exact read

/-- A text behind the mark of an alternative is read without it. -/
theorem ofKey_or {text : List Char} (trimmed : Text.trim text = text) :
    ofKey ("OR ".toList ++ text) = (or, text) := by
  have unblank : Text.isBlank 'O' = false := by decide
  have front : Text.trimStart ("OR ".toList ++ text) = "OR ".toList ++ text := by
    simp [Text.trimStart, unblank]
  rw [ofKey_of_mark (by decide) front, trimmed]

/-- A text without the mark of an alternative is read as it is. -/
theorem ofKey_and {text : List Char} (trimmed : Text.trim text = text)
    (unmarked : ∀ mark ∈ marks, ¬mark <+: text) : ofKey text = (and, text) := by
  have front := Text.trimStart_eq_self (Text.trim_eq_self_iff.1 trimmed).1
  rw [ofKey_of_unmarked (by rwa [front]), trimmed]

/-- The column of a key is made of characters of the key. -/
theorem mem_of_mem_ofKey {key : List Char} {character : Char}
    (member : character ∈ (ofKey key).2) : character ∈ key := by
  rcases ofKey_cases key with ⟨mark, _, rest, front, read⟩ | ⟨_, read⟩
  · rw [read] at member
    have inside : character ∈ Text.trimStart key := by
      rw [front]
      exact List.mem_append_right mark (Text.mem_of_mem_trim member)
    exact (List.dropWhile_sublist _).mem inside
  · rw [read] at member
    exact Text.mem_of_mem_trim member

/-- What a key leaves for its column has no blanks around it. -/
theorem trim_ofKey (key : List Char) : Text.trim (ofKey key).2 = (ofKey key).2 := by
  rcases ofKey_cases key with ⟨_, _, rest, _, read⟩ | ⟨_, read⟩
  · rw [read, Text.trim_trim]
  · rw [read, Text.trim_trim]

/-- A key that is no alternative starts with no mark, and leaves all of its text for its column. -/
theorem of_ofKey_and {key column : List Char} (read : ofKey key = (and, column)) :
    column = Text.trim key ∧ ∀ mark ∈ marks, ¬mark <+: Text.trimStart key := by
  rcases ofKey_cases key with ⟨_, _, _, _, other⟩ | ⟨unmarked, same⟩
  · rw [read] at other
    cases other
  · exact ⟨congrArg Prod.snd (read.symm.trans same), unmarked⟩

/-- What follows a key that ends in no blank is read behind its column, unless it completes a
mark. -/
theorem ofKey_append {key tail : List Char} {last : Char} (ends : key.getLast? = some last)
    (unblank : Text.isBlank last = false)
    (tailEnds : ∀ final ∈ tail.getLast?, Text.isBlank final = false)
    (apart : ∀ mark ∈ marks, mark <+: Text.trimStart key ++ tail → mark <+: Text.trimStart key) :
    ofKey (key ++ tail) = ((ofKey key).1, (ofKey key).2 ++ tail) ∧
      (ofKey key).2.getLast? = some last := by
  have whole := Text.trimStart_append ends unblank tail
  rcases ofKey_cases key with ⟨mark, member, rest, front, read⟩ | ⟨unmarked, read⟩
  · have restEnds : rest.getLast? = some last := by
      have space : ∀ other ∈ marks, other.getLast? = some ' ' := by decide
      have reached := Text.getLast?_trimStart ends unblank
      rw [front, List.getLast?_append, space mark member] at reached
      cases behind : rest.getLast? with
      | none =>
        rw [behind] at reached
        rw [← Option.some.inj reached] at unblank
        exact absurd unblank (by decide)
      | some final => rwa [behind] at reached
    rw [front, List.append_assoc] at whole
    rw [ofKey_of_mark member whole, read, Text.trim_append restEnds unblank tailEnds]
    exact ⟨rfl, Text.getLast?_trim restEnds unblank⟩
  · have still : ∀ mark ∈ marks, ¬mark <+: Text.trimStart (key ++ tail) := by
      intro mark member starts
      rw [whole] at starts
      exact unmarked mark member (apart mark member starts)
    rw [ofKey_of_unmarked still, read, Text.trim_append ends unblank tailEnds]
    exact ⟨rfl, Text.getLast?_trim ends unblank⟩

end Conjunction

namespace Directive

/-- A word that names a directive. -/
def IsName (word : List Char) : Prop :=
  word = "orderBy".toList ∨ word = "order_by".toList ∨
    word.map Char.toLower = "limit".toList ∨ word.map Char.toLower = "offset".toList

instance (word : List Char) : Decidable (IsName word) :=
  inferInstanceAs (Decidable (_ ∨ _ ∨ _ ∨ _))

/-- A key is no directive exactly when its first word names none. -/
theorem ofKey?_eq_none_iff {key : List Char} :
    ofKey? key = none ↔ ∀ word ∈ (Text.words key).head?, ¬IsName word := by
  have limits : "limit".toList.map Char.toLower = "limit".toList := by decide
  have offsets : "offset".toList.map Char.toLower = "offset".toList := by decide
  unfold ofKey?
  cases Text.words key with
  | nil => exact ⟨fun _ word found => (nomatch found), fun _ => rfl⟩
  | cons word others =>
    simp only [List.head?_cons, Option.mem_def, Option.some.injEq, forall_eq', IsName, sameWord,
      limits, offsets, beq_iff_eq, not_or]
    by_cases order : word = "orderBy".toList ∨ word = "order_by".toList
    · rw [if_pos order]
      refine ⟨fun none => (nomatch none), fun other => ?_⟩
      exact absurd order (not_or.2 ⟨other.1, other.2.1⟩)
    · rw [if_neg order]
      by_cases limit : word.map Char.toLower = "limit".toList
      · rw [if_pos limit]
        exact ⟨fun none => (nomatch none), fun other => absurd limit other.2.2.1⟩
      · rw [if_neg limit]
        by_cases offset : word.map Char.toLower = "offset".toList
        · rw [if_pos offset]
          exact ⟨fun none => (nomatch none), fun other => absurd offset other.2.2.2⟩
        · rw [if_neg offset]
          exact ⟨fun _ => ⟨(not_or.1 order).1, (not_or.1 order).2, limit, offset⟩, fun _ => rfl⟩

theorem ofKey?_congr {key other : List Char}
    (same : (Text.words key).head? = (Text.words other).head?) : ofKey? key = ofKey? other := by
  unfold ofKey?
  cases first : Text.words key with
  | nil =>
    cases second : Text.words other with
    | nil => rfl
    | cons => simp [first, second] at same
  | cons =>
    cases second : Text.words other with
    | nil => simp [first, second] at same
    | cons =>
      rw [first, second] at same
      obtain rfl := Option.some.inj same
      rfl

/-- A directive contributes no conditions. -/
theorem conditions_filters (directive : Directive) (value : List Char) :
    (directive.filters value).conditions = [] := by
  cases directive with
  | orderBy =>
    simp only [filters]
    split <;> rfl
  | limit => rfl
  | offset => rfl

/-- A clause without blanks around it is the order of the rows. -/
theorem filters_orderBy {clause : String} (trimmed : Text.trimmed clause = clause)
    (filled : clause ≠ "") :
    orderBy.filters clause.toList = { FilterSet.empty with orderBy := some clause } := by
  have same : Text.trim clause.toList = clause.toList := by rw [← Text.toList_trimmed, trimmed]
  have some : clause.toList.isEmpty = false := by simpa using filled
  simp [filters, same, some]

theorem isDigit_of_mem_toString {value : Nat} {digit : Char}
    (member : digit ∈ (toString value).toList) : digit.isDigit = true := by
  rw [Nat.toString_eq_ofList_toDigits, String.toList_ofList] at member
  exact Nat.isDigit_of_mem_toDigits (by simp) (Nat.le_refl 10) member

theorem trim_toString (value : Nat) :
    Text.trim (toString value).toList = (toString value).toList :=
  Text.trim_of_unblank fun _ member => Text.isBlank_of_isDigit (isDigit_of_mem_toString member)

theorem filters_limit {value : Nat} (small : value ≤ Text.largestWord) :
    limit.filters (toString value).toList = { FilterSet.empty with limit := some value } := by
  simp only [filters, trim_toString, Text.word?_toString small]

theorem filters_offset {value : Nat} (small : value ≤ Text.largestWord) :
    offset.filters (toString value).toList = { FilterSet.empty with offset := some value } := by
  simp only [filters, trim_toString, Text.word?_toString small]

end Directive

namespace Condition

/-- The key of a condition. -/
def key (condition : Condition) : List Char :=
  condition.conjunction.mark ++ condition.column.toList

theorem mem_key_iff (condition : Condition) {character : Char}
    (other : character ∉ "OR ".toList) :
    character ∈ condition.key ↔ character ∈ condition.column.toList := by
  cases conjunction : condition.conjunction with
  | and => simp [key, conjunction, Conjunction.mark]
  | or =>
    rw [key, conjunction, Conjunction.mark, List.mem_append]
    exact or_iff_right other

/-- A condition whose column is what a key says without more ado: it has no blanks around it and,
unless it stands behind the mark of an alternative, neither starts with such a mark nor has the name
of a directive as its first word. -/
structure Named (condition : Condition) : Prop where
  filled : condition.column ≠ ""
  trimmed : Text.trimmed condition.column = condition.column
  unmarked : condition.conjunction = .and →
    ¬"OR ".toList <+: condition.column.toList ∧ ¬"or ".toList <+: condition.column.toList
  undirected : condition.conjunction = .and →
    ∀ word ∈ (Text.words condition.column.toList).head?, ¬Directive.IsName word

/-- What a key that names no directive leaves for a column is what a key of that column says. -/
theorem named_of_ofKey {key column : List Char} {conjunction : Conjunction}
    (undirected : Directive.ofKey? key = none)
    (read : Conjunction.ofKey key = (conjunction, column)) (filled : column ≠ [])
    (comparison : Comparison) (value : String) :
    (⟨.ofList column, comparison, value, conjunction⟩ : Condition).Named := by
  have trimmed := Conjunction.trim_ofKey key
  rw [read] at trimmed
  refine ⟨?_, ?_, ?_, ?_⟩
  · simpa using filled
  · rw [Text.trimmed, String.toList_ofList, trimmed]
  · rintro rfl
    rcases Conjunction.of_ofKey_and read with ⟨rfl, unmarked⟩
    have start : (String.ofList (Text.trim key)).toList <+: Text.trimStart key := by
      rw [String.toList_ofList]
      exact Text.trim_prefix_trimStart key
    exact ⟨fun mark => unmarked "OR ".toList (by decide) (mark.trans start),
      fun mark => unmarked "or ".toList (by decide) (mark.trans start)⟩
  · rintro rfl
    rcases Conjunction.of_ofKey_and read with ⟨rfl, -⟩
    rw [String.toList_ofList, Text.words_trim]
    exact Directive.ofKey?_eq_none_iff.1 undirected

/-- What holds of every condition that something means holds of all that a list of these means. -/
theorem forall_of_forall₂ {Source : Type} {Means : Source → Condition → Prop}
    {property : Condition → Prop}
    (each : ∀ source condition, Means source condition → property condition)
    {sources : List Source} {conditions : List Condition}
    (means : List.Forall₂ Means sources conditions) :
    ∀ condition ∈ conditions, property condition := by
  have both : List.Forall₂ (fun condition source => property condition ∧ Means source condition)
      conditions sources :=
    (means.imp fun source condition meant => ⟨each source condition meant, meant⟩).flip
  exact ((List.forall₂_and_left _ _).1 both).1

namespace Named

variable {condition : Condition} (named : condition.Named)

include named

theorem trim_column : Text.trim condition.column.toList = condition.column.toList := by
  rw [← Text.toList_trimmed, named.trimmed]

/-- The column starts with a character that is no blank. -/
theorem column_eq_cons :
    ∃ first rest, condition.column.toList = first :: rest ∧ Text.isBlank first = false := by
  have starts := (Text.trim_eq_self_iff.1 named.trim_column).1
  cases text : condition.column.toList with
  | nil => exact absurd (String.toList_inj.1 text) named.filled
  | cons first rest => exact ⟨first, rest, rfl, starts first (by rw [text]; rfl)⟩

theorem getLast?_key : condition.key.getLast? = condition.column.toList.getLast? := by
  rcases named.column_eq_cons with ⟨first, rest, column, _⟩
  rw [key, List.getLast?_append, column, List.getLast?_cons]
  rfl

theorem unmarked_of_mem (plain : condition.conjunction = .and) :
    ∀ mark ∈ Conjunction.marks, ¬mark <+: condition.column.toList := by
  simp only [Conjunction.marks, List.mem_cons, List.not_mem_nil, or_false]
  rintro mark (rfl | rfl)
  · exact (named.unmarked plain).1
  · exact (named.unmarked plain).2

/-- The key of a condition is no directive, whatever follows it after a blank. -/
theorem directive_key (tail : List Char)
    (apart : ∀ first ∈ tail.head?, Text.isBlank first = true) :
    Directive.ofKey? (condition.key ++ tail) = none := by
  have head : ∀ text word : List Char, word ∈ (Text.words text).head? →
      (Text.words (text ++ tail)).head? = some word := by
    intro text word found
    cases tail with
    | nil => rw [List.append_nil, found]
    | cons blank rest => rw [Text.words_append (apart blank rfl), List.head?_append, found]; rfl
  apply Directive.ofKey?_eq_none_iff.2
  intro word found
  rcases named.column_eq_cons with ⟨first, rest, column, unblank⟩
  cases conjunction : condition.conjunction with
  | and =>
    have some : Text.words condition.column.toList ≠ [] :=
      Text.words_ne_nil (by rw [column]; rfl) unblank
    cases split : Text.words condition.column.toList with
    | nil => exact absurd split some
    | cons start others =>
      have same := head _ start (by rw [split]; rfl)
      rw [key, conjunction, Conjunction.mark, List.nil_append, same] at found
      obtain rfl := Option.some.inj found
      exact named.undirected conjunction start (by rw [split]; rfl)
  | or =>
    have start : (Text.words ("OR ".toList ++ condition.column.toList)).head? =
        some "OR".toList := by
      have parted : Text.words ("OR".toList ++ ' ' :: condition.column.toList) = _ :=
        Text.words_append (by decide) _ _
      have one : Text.words "OR".toList = ["OR".toList] := by decide
      exact (congrArg List.head? parted).trans (by rw [one]; rfl)
    rw [key, conjunction, Conjunction.mark, head _ _ start] at found
    obtain rfl := Option.some.inj found
    decide

/-- The key of a condition says how it joins the others and what its column is. -/
theorem conjunction_key :
    Conjunction.ofKey condition.key = (condition.conjunction, condition.column.toList) := by
  cases conjunction : condition.conjunction with
  | and =>
    simpa [key, conjunction, Conjunction.mark] using
      Conjunction.ofKey_and named.trim_column (named.unmarked_of_mem conjunction)
  | or => simpa [key, conjunction, Conjunction.mark] using Conjunction.ofKey_or named.trim_column

end Named

end Condition

end TableApi
