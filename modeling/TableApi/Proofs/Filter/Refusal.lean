import TableApi.Filter.Body
import TableApi.Proofs.Effect.Result
import TableApi.Proofs.Filter.Key

/-!
# Bodies that are refused

A body is refused when it is neither null nor an object, or when one of its entries is: an entry
that is no directive must name a column and have a scalar for its value.  The entries are read in
the order in which they stand, so the error names the first one that is refused.

A body that is not refused means one condition for each entry that is no directive, in the order of
the entries (`filters_refuses`).
-/

namespace TableApi

namespace Json

/-- Whether a value stands for a text in a condition. -/
def isScalar : Json → Bool
  | .string _ => true
  | .number _ => true
  | .bool _ => true
  | _ => false

theorem scalarText?_eq_none_iff {value : Json} :
    value.scalarText? = none ↔ value.isScalar = false := by
  cases value <;> simp [scalarText?, isScalar]

end Json

namespace FilterBody

/-! ## What a key says -/

/-- A text in front of the sign that it ends with, and the comparison of that sign; a text without a
sign asks for equality. -/
def cutSign (text : List Char) : List Char × Comparison :=
  (signs.findSome? fun sign => (Text.dropTail? sign.1 text).map fun front => (front, sign.2)).getD
    (text, .equal)

/-- The column part of a key: without the mark of an alternative, without one sign, and without
blanks around it. -/
def columnPart (key : String) : List Char :=
  Text.trim (cutSign (Conjunction.ofKey key.toList).2).1

/-- A key whose first word is the name of a directive. -/
def NamesDirective (key : String) : Prop :=
  ∃ word ∈ (Text.words key.toList).head?, Directive.IsName word

instance (key : String) : Decidable (NamesDirective key) :=
  inferInstanceAs (Decidable (∃ word ∈ (Text.words key.toList).head?, Directive.IsName word))

/-- What is left of a trimmed text without its sign starts with no blank. -/
theorem trimStart_cutSign {text : List Char} (trimmed : Text.trim text = text) :
    Text.trimStart (cutSign text).1 = (cutSign text).1 := by
  have starts := (Text.trim_eq_self_iff.1 trimmed).1
  unfold cutSign
  cases cut : signs.findSome? fun sign =>
      (Text.dropTail? sign.1 text).map fun front => (front, sign.2) with
  | none => exact Text.trimStart_eq_self starts
  | some found =>
    rcases List.exists_of_findSome?_eq_some cut with ⟨sign, _, dropped⟩
    rcases Option.map_eq_some_iff.1 dropped with ⟨front, tail, rfl⟩
    apply Text.trimStart_eq_self
    intro first (found : front.head? = some first)
    apply starts first
    rw [← Text.append_of_dropTail? tail, List.head?_append, found]
    rfl

/-- A trimmed text is split into its column, trimmed, and its comparison. -/
theorem splitKey_eq {text : List Char} (trimmed : Text.trim text = text) :
    splitKey text = (Text.trim (cutSign text).1, (cutSign text).2) := by
  have ends : splitKey text = (Text.trimEnd (cutSign text).1, (cutSign text).2) := by
    have each : (signs.findSome? fun sign =>
          (Text.dropTail? sign.1 text).map fun column => (Text.trimEnd column, sign.2)) =
        (signs.findSome? fun sign =>
          (Text.dropTail? sign.1 text).map fun front => (front, sign.2)).map
            fun found => (Text.trimEnd found.1, found.2) := by
      rw [List.map_findSome?]
      congr 1
      funext sign
      simp [Function.comp_def]
    rw [splitKey, each, cutSign]
    cases signs.findSome? fun sign =>
        (Text.dropTail? sign.1 text).map fun front => (front, sign.2) with
    | none =>
      have same := Text.trimEnd_eq_self (Text.trim_eq_self_iff.1 trimmed).2
      simp only [Option.map_none, Option.getD_none, same]
    | some found => rfl
  rw [ends, Text.trim, trimStart_cutSign trimmed]

theorem trim_columnPart (key : String) : Text.trim (columnPart key) = columnPart key :=
  Text.trim_trim _

theorem ofKey?_eq_none_iff {key : String} :
    Directive.ofKey? key.toList = none ↔ ¬NamesDirective key := by
  rw [Directive.ofKey?_eq_none_iff]
  simp [NamesDirective]

/-! ## Entries -/

/-- An entry that is no directive and names no column, or has no scalar for its value. -/
def Refused (entry : String × Json) : Prop :=
  ¬NamesDirective entry.1 ∧ (columnPart entry.1 = [] ∨ entry.2.isScalar = false)

instance (entry : String × Json) : Decidable (Refused entry) :=
  inferInstanceAs (Decidable (¬NamesDirective entry.1 ∧
    (columnPart entry.1 = [] ∨ entry.2.isScalar = false)))

/-- The error that an entry is refused with. -/
def refusal (entry : String × Json) : FilterError :=
  if columnPart entry.1 = [] then .emptyColumn entry.1 else .unsupportedValue entry.1

/-- An entry means a condition on the column part of its key. -/
structure Means (entry : String × Json) (condition : Condition) : Prop where
  column : condition.column = .ofList (columnPart entry.1)
  named : condition.column ≠ ""
  comparison : condition.comparison = (cutSign (Conjunction.ofKey entry.1.toList).2).2
  conjunction : condition.conjunction = (Conjunction.ofKey entry.1.toList).1
  value : entry.2.scalarText? = some condition.value

variable {entry : String × Json}

theorem filtersOfEntry_of_directive (directive : NamesDirective entry.1) :
    ∃ filters, filtersOfEntry entry.1 entry.2 = .ok filters ∧ filters.conditions = [] := by
  unfold filtersOfEntry
  cases directed : Directive.ofKey? entry.1.toList with
  | none => exact absurd directive (ofKey?_eq_none_iff.1 directed)
  | some found =>
    cases entry.2.scalarText? with
    | some text => exact ⟨_, rfl, found.conditions_filters _⟩
    | none => exact ⟨_, rfl, rfl⟩

/-- An entry that is no directive is read from its column part and its sign. -/
theorem filtersOfEntry_of_key (other : ¬NamesDirective entry.1) :
    filtersOfEntry entry.1 entry.2 =
      if columnPart entry.1 = [] then .error (.emptyColumn entry.1)
      else
        match entry.2.scalarText? with
        | some text => .ok (.ofCondition ⟨.ofList (columnPart entry.1),
            (cutSign (Conjunction.ofKey entry.1.toList).2).2, text,
            (Conjunction.ofKey entry.1.toList).1⟩)
        | none => .error (.unsupportedValue entry.1) := by
  simp only [filtersOfEntry, ofKey?_eq_none_iff.2 other,
    splitKey_eq (Conjunction.trim_ofKey entry.1.toList), List.isEmpty_iff]
  rfl

theorem filtersOfEntry_of_refused (refused : Refused entry) :
    filtersOfEntry entry.1 entry.2 = .error (refusal entry) := by
  rcases refused with ⟨other, faulty⟩
  rw [filtersOfEntry_of_key other, refusal]
  by_cases empty : columnPart entry.1 = []
  · rw [if_pos empty, if_pos empty]
  · rw [if_neg empty, if_neg empty,
      Json.scalarText?_eq_none_iff.2 (faulty.resolve_left empty)]

theorem filtersOfEntry_of_accepted (other : ¬NamesDirective entry.1)
    (accepted : ¬Refused entry) :
    ∃ condition, filtersOfEntry entry.1 entry.2 = .ok (.ofCondition condition) ∧
      Means entry condition := by
  have filled : columnPart entry.1 ≠ [] := fun empty => accepted ⟨other, Or.inl empty⟩
  rw [filtersOfEntry_of_key other, if_neg filled]
  cases scalar : entry.2.scalarText? with
  | none =>
    exact absurd ⟨other, Or.inr (Json.scalarText?_eq_none_iff.1 scalar)⟩ accepted
  | some text => exact ⟨_, rfl, rfl, by simpa using filled, rfl, rfl, scalar⟩

theorem Means.trimmed {condition : Condition} (means : Means entry condition) :
    Text.trimmed condition.column = condition.column := by
  rw [means.column, Text.trimmed, String.toList_ofList, trim_columnPart]

/-! ## Bodies -/

/-- An entry that is not refused leaves the result to the entries behind it. -/
theorem exists_filtersOfEntry (accepted : ¬Refused entry) :
    ∃ filters, filtersOfEntry entry.1 entry.2 = .ok filters := by
  by_cases directive : NamesDirective entry.1
  · rcases filtersOfEntry_of_directive directive with ⟨filters, read, _⟩
    exact ⟨filters, read⟩
  · rcases filtersOfEntry_of_accepted directive accepted with ⟨condition, read, _⟩
    exact ⟨.ofCondition condition, read⟩

/-- The error is that of the first entry that is refused. -/
theorem filtersOfEntries_of_refused {before : Fields}
    (accepted : ∀ earlier ∈ before, ¬Refused earlier) (refused : Refused entry)
    (after : Fields) : filtersOfEntries (before ++ entry :: after) = .error (refusal entry) := by
  induction before with
  | nil =>
    rw [List.nil_append, filtersOfEntries, filtersOfEntry_of_refused refused]
    rfl
  | cons first before step =>
    rw [List.forall_mem_cons] at accepted
    rcases exists_filtersOfEntry accepted.1 with ⟨filters, read⟩
    rw [List.cons_append, filtersOfEntries, read, step accepted.2]
    rfl

/-- Entries of which none is refused mean a condition each, directives apart. -/
theorem filtersOfEntries_of_accepted {entries : Fields}
    (accepted : ∀ entry ∈ entries, ¬Refused entry) :
    ∃ filters, filtersOfEntries entries = .ok filters ∧
      List.Forall₂ Means (entries.filter fun entry => ¬NamesDirective entry.1)
        filters.conditions := by
  induction entries with
  | nil => exact ⟨.empty, rfl, List.Forall₂.nil⟩
  | cons entry entries step =>
    rw [List.forall_mem_cons] at accepted
    rcases step accepted.2 with ⟨others, readOthers, means⟩
    by_cases directive : NamesDirective entry.1
    · rcases filtersOfEntry_of_directive directive with ⟨first, read, none⟩
      refine ⟨first ++ others, by rw [filtersOfEntries, read, readOthers]; rfl, ?_⟩
      rw [List.filter_cons_of_neg (by simpa using directive), FilterSet.conditions_append, none]
      exact means
    · rcases filtersOfEntry_of_accepted directive accepted.1 with ⟨condition, read, meant⟩
      refine ⟨.ofCondition condition ++ others, by rw [filtersOfEntries, read, readOthers]; rfl, ?_⟩
      rw [List.filter_cons_of_pos (by simpa using directive), FilterSet.conditions_append]
      exact List.Forall₂.cons meant means

theorem accepted_of_filtersOfEntries {entries : Fields} {filterSet : FilterSet}
    (read : filtersOfEntries entries = .ok filterSet) : ∀ entry ∈ entries, ¬Refused entry := by
  induction entries generalizing filterSet with
  | nil => simp
  | cons entry entries step =>
    rcases Result.ok_of_bind_ok read with ⟨first, readFirst, later⟩
    rcases Result.ok_of_bind_ok later with ⟨others, readOthers, _⟩
    rw [List.forall_mem_cons]
    refine ⟨fun refused => ?_, step readOthers⟩
    rw [filtersOfEntry_of_refused refused] at readFirst
    cases readFirst

/-- The bodies that are refused, the error of the first entry that is refused, and what the other
bodies mean. -/
theorem filters_refuses :
    (∀ body : Json, (∃ error, filters body = .error error) ↔
      (body ≠ .null ∧ ∀ entries, body ≠ .object entries) ∨
        ∃ entries, body = .object entries ∧ ∃ entry ∈ entries, Refused entry) ∧
    (∀ (before after : Fields) (entry : String × Json),
      (∀ earlier ∈ before, ¬Refused earlier) → Refused entry →
        filters (.object (before ++ entry :: after)) =
          .error (if columnPart entry.1 = [] then .emptyColumn entry.1
            else .unsupportedValue entry.1)) ∧
    ∀ (entries : Fields) (filterSet : FilterSet), filters (.object entries) = .ok filterSet →
      List.Forall₂ Means (entries.filter fun entry => ¬NamesDirective entry.1)
        filterSet.conditions ∧
      ∀ condition ∈ filterSet.conditions, condition.column ≠ "" ∧
        Text.trimmed condition.column = condition.column := by
  refine ⟨?_, ?_, ?_⟩
  · intro body
    cases body with
    | null => simp [filters]
    | object entries =>
      simp only [filters, ne_eq, reduceCtorEq, not_false_eq_true, Json.object.injEq, true_and,
        exists_eq_left']
      constructor
      · rintro ⟨error, failed⟩
        by_contra accepted
        simp only [not_or, not_exists, not_and] at accepted
        rcases filtersOfEntries_of_accepted accepted.2 with ⟨others, read, _⟩
        rw [read] at failed
        cases failed
      · rintro (other | ⟨entry, member, refused⟩)
        · exact absurd rfl (other entries)
        · cases read : filtersOfEntries entries with
          | error error => exact ⟨error, rfl⟩
          | ok filterSet => exact absurd refused (accepted_of_filtersOfEntries read entry member)
    | bool value => simp [filters]
    | number value => simp [filters]
    | string value => simp [filters]
    | array items => simp [filters]
  · intro before after entry accepted refused
    exact filtersOfEntries_of_refused accepted refused after
  · intro entries filterSet read
    have accepted := accepted_of_filtersOfEntries read
    rcases filtersOfEntries_of_accepted accepted with ⟨found, readFound, means⟩
    obtain rfl : found = filterSet := Except.ok.inj (readFound.symm.trans read)
    exact ⟨means, Condition.forall_of_forall₂ (fun _ _ meant => ⟨meant.named, meant.trimmed⟩) means⟩

theorem filters_refuses_tags :
    filters (.object [("limit", .array []), ("age >=", .string "21"), ("tags", .array []),
        ("OR =", .null)]) = .error (.unsupportedValue "tags") ∧
      filters (.object [("limit", .array []), ("OR =", .null), ("tags", .array [])]) =
        .error (.emptyColumn "OR =") ∧
      (∃ error, filters (.string "age") = .error error) ∧
      ∃ filterSet, filters (.object [("limit", .array []), ("age >=", .string "21")]) =
          .ok filterSet ∧
        ∀ condition ∈ filterSet.conditions, condition.column ≠ "" ∧
          Text.trimmed condition.column = condition.column := by
  refine ⟨?_, ?_, ?_, _, rfl, ?_⟩
  · exact filters_refuses.2.1 [("limit", .array []), ("age >=", .string "21")] [("OR =", .null)]
      ("tags", .array []) (by decide +kernel) (by decide +kernel)
  · exact filters_refuses.2.1 [("limit", .array [])] [("tags", .array [])] ("OR =", .null)
      (by decide +kernel) (by decide +kernel)
  · exact (filters_refuses.1 (.string "age")).2 (Or.inl ⟨by simp, by simp⟩)
  · exact (filters_refuses.2.2 [("limit", .array []), ("age >=", .string "21")] _ rfl).2

end FilterBody

end TableApi
