import TableApi.Proofs.Filter.QueryString

/-!
# Query strings pair by pair

A query string is read from its pairs, and each pair on its own: a query string behind another adds
its conditions and overrides the directives that it gives (`filters_append`).  A pair that is empty,
has no sign, names no column or gives a directive no usable value is `Idle`, and may stand anywhere
or be left out.

Only the very start of a query string is special, since a question mark there does not count.  So a
second part must not start with one, and a first pair that is left out leaves its ampersand behind
when what follows does.
-/

namespace TableApi

namespace QueryString

/-! ## Parts of a query string -/

/-- A query string without the question mark that it may start with. -/
def unmarked : List Char → List Char
  | '?' :: rest => rest
  | text => text

theorem unmarked_of_head? {text : List Char} (plain : text.head? ≠ some '?') :
    unmarked text = text := by
  unfold unmarked
  split
  · exact absurd rfl plain
  · rfl

theorem unmarked_append (first second : List Char) :
    unmarked (first ++ '&' :: second) = unmarked first ++ '&' :: second := by
  cases first with
  | nil => rfl
  | cons character first =>
    by_cases mark : character = '?'
    · subst mark
      rfl
    · rw [unmarked_of_head? (by simpa using mark), unmarked_of_head? (by simpa using mark)]

/-- The pairs between the ampersands of a text. -/
def parts (text : List Char) : List (List Char) :=
  (Text.splitAtChar '&' text).filter fun pair => !pair.isEmpty

theorem pairs_eq_parts (text : List Char) : pairs text = parts (unmarked text) := by
  by_cases mark : text.head? = some '?'
  · rcases List.head?_eq_some_iff.1 mark with ⟨rest, rfl⟩
    rfl
  · rw [pairs_eq mark, unmarked_of_head? mark, parts]

theorem parts_append (first second : List Char) :
    parts (first ++ '&' :: second) = parts first ++ parts second := by
  have cut : Text.splitWhen (· == '&') (first ++ '&' :: second) =
      Text.splitWhen (· == '&') first ++ Text.splitWhen (· == '&') second :=
    Text.splitWhen_append rfl first second
  simp only [parts, Text.splitAtChar_eq_splitWhen, cut, List.filter_append]

/-- What the pairs of a text mean together. -/
def filtersOfParts (text : List Char) : FilterSet :=
  FilterSet.concat ((parts text).map filtersOfPair)

theorem filters_eq (text : String) : filters text = filtersOfParts (unmarked text.toList) := by
  rw [filters, pairs_eq_parts, filtersOfParts]

theorem filtersOfParts_append (first second : List Char) :
    filtersOfParts (first ++ '&' :: second) = filtersOfParts first ++ filtersOfParts second := by
  rw [filtersOfParts, parts_append, List.map_append, FilterSet.concat_append]
  rfl

theorem filters_join (first second : String) :
    filters (first ++ "&" ++ second) = filters first ++ filtersOfParts second.toList := by
  have joined : (first ++ "&" ++ second).toList = first.toList ++ '&' :: second.toList := by simp
  rw [filters_eq, joined, unmarked_append, filtersOfParts_append, ← filters_eq]

/-- A query string behind another one is read on its own. -/
theorem filters_append (first : String) {second : String}
    (plain : second.toList.head? ≠ some '?') :
    filters (first ++ "&" ++ second) = filters first ++ filters second := by
  rw [filters_join, filters_eq second, unmarked_of_head? plain]

/-! ## Pairs that mean nothing -/

/-- A pair that contributes nothing. -/
inductive Idle (pair : List Char) : Prop
  /-- There is nothing between two ampersands. -/
  | empty (none : pair = [])
  /-- The pair has no sign of a comparison. -/
  | unsigned (none : Delimiter.splitPair? pair = none)
  /-- The key is no directive and leaves nothing for a column. -/
  | unnamed {comparison : Comparison} {key value : List Char}
      (split : Delimiter.splitPair? pair = some (comparison, key, value))
      (undirected : Directive.ofKey? (Text.formDecode key) = none)
      (blank : (Conjunction.ofKey (Text.formDecode key)).2 = [])
  /-- The clause of an order is blank. -/
  | unordered {comparison : Comparison} {key value : List Char}
      (split : Delimiter.splitPair? pair = some (comparison, key, value))
      (directed : Directive.ofKey? (Text.formDecode key) = some .orderBy)
      (blank : Text.trim (Text.formDecode value) = [])
  /-- The bound of a window is no unsigned 64-bit word. -/
  | unbounded {comparison : Comparison} {key value : List Char} {directive : Directive}
      (split : Delimiter.splitPair? pair = some (comparison, key, value))
      (directed : Directive.ofKey? (Text.formDecode key) = some directive)
      (bound : directive = .limit ∨ directive = .offset)
      (wordless : Text.word? (Text.trim (Text.formDecode value)) = none)

theorem splitPair?_nil : Delimiter.splitPair? [] = none := by
  decide

theorem filtersOfPair_of_none {pair : List Char} (none : Delimiter.splitPair? pair = none) :
    filtersOfPair pair = .empty := by
  rw [filtersOfPair, none]

section Split

variable {pair key value : List Char} {comparison : Comparison}
  (split : Delimiter.splitPair? pair = some (comparison, key, value))

include split

theorem filtersOfPair_of_directive {directive : Directive}
    (directed : Directive.ofKey? (Text.formDecode key) = some directive) :
    filtersOfPair pair = directive.filters (Text.formDecode value) := by
  simp only [filtersOfPair, split, filtersOfKey, directed]

theorem filtersOfPair_of_blank (undirected : Directive.ofKey? (Text.formDecode key) = none)
    (blank : (Conjunction.ofKey (Text.formDecode key)).2 = []) : filtersOfPair pair = .empty := by
  simp only [filtersOfPair, split, filtersOfKey, undirected, blank, List.isEmpty_nil, if_true]

theorem filtersOfPair_of_column (undirected : Directive.ofKey? (Text.formDecode key) = none)
    (filled : (Conjunction.ofKey (Text.formDecode key)).2 ≠ []) :
    filtersOfPair pair = .ofCondition
      ⟨.ofList (Conjunction.ofKey (Text.formDecode key)).2, comparison,
        .ofList (Text.formDecode value), (Conjunction.ofKey (Text.formDecode key)).1⟩ := by
  have some : (Conjunction.ofKey (Text.formDecode key)).2.isEmpty = false := by
    simpa using filled
  simp only [filtersOfPair, split, filtersOfKey, undirected, some, Bool.false_eq_true, if_false]

end Split

/-- The idle pairs are those that contribute nothing. -/
theorem filtersOfPair_eq_empty_iff {pair : List Char} :
    filtersOfPair pair = .empty ↔ Idle pair := by
  constructor
  · intro nothing
    cases split : Delimiter.splitPair? pair with
    | none => exact Idle.unsigned split
    | some found =>
      rcases found with ⟨comparison, key, value⟩
      cases directed : Directive.ofKey? (Text.formDecode key) with
      | none =>
        by_cases blank : (Conjunction.ofKey (Text.formDecode key)).2 = []
        · exact Idle.unnamed split directed blank
        · rw [filtersOfPair_of_column split directed blank] at nothing
          cases congrArg FilterSet.conditions nothing
      | some directive =>
        rw [filtersOfPair_of_directive split directed] at nothing
        cases directive with
        | orderBy =>
          refine Idle.unordered split directed ?_
          cases clause : Text.trim (Text.formDecode value) with
          | nil => rfl
          | cons first rest =>
            simp only [Directive.filters, clause, List.isEmpty_cons, Bool.false_eq_true,
              if_false] at nothing
            cases congrArg FilterSet.orderBy nothing
        | limit =>
          exact Idle.unbounded split directed (Or.inl rfl) (congrArg FilterSet.limit nothing)
        | offset =>
          exact Idle.unbounded split directed (Or.inr rfl) (congrArg FilterSet.offset nothing)
  · rintro (rfl | none | ⟨split, undirected, blank⟩ | ⟨split, directed, blank⟩ |
      ⟨split, directed, bound, wordless⟩)
    · exact filtersOfPair_of_none splitPair?_nil
    · exact filtersOfPair_of_none none
    · exact filtersOfPair_of_blank split undirected blank
    · rw [filtersOfPair_of_directive split directed]
      simp only [Directive.filters, blank, List.isEmpty_nil, if_true]
    · rw [filtersOfPair_of_directive split directed]
      rcases bound with rfl | rfl
      · simp only [Directive.filters, wordless]
        rfl
      · simp only [Directive.filters, wordless]
        rfl

/-- A text without an ampersand is one pair, or none when it is empty. -/
theorem filtersOfParts_of_pair {pair : List Char} (single : '&' ∉ pair) :
    filtersOfParts pair = filtersOfPair pair := by
  rw [filtersOfParts, parts, Text.splitAtChar_of_not_mem single]
  cases pair with
  | nil => exact (filtersOfPair_of_none splitPair?_nil).symm
  | cons first rest => exact FilterSet.append_empty _

section Skip

variable {pair : String} (single : '&' ∉ pair.toList)

include single

/-- An idle pair may be left out at the end and between two others. -/
theorem filters_skip (idle : Idle pair.toList) (before : String) :
    filters (before ++ "&" ++ pair) = filters before ∧
      ∀ after : String,
        filters (before ++ "&" ++ pair ++ "&" ++ after) = filters (before ++ "&" ++ after) := by
  have nothing : filtersOfParts pair.toList = .empty := by
    rw [filtersOfParts_of_pair single]
    exact filtersOfPair_eq_empty_iff.2 idle
  have last : filters (before ++ "&" ++ pair) = filters before := by
    rw [filters_join, nothing, FilterSet.append_empty]
  exact ⟨last, fun after => by rw [filters_join, last, ← filters_join]⟩

/-- A first pair that is idle may be left out in front of its ampersand. -/
theorem filters_skip_first (idle : Idle (unmarked pair.toList)) :
    filters pair = .empty ∧
      ∀ after : String, filters (pair ++ "&" ++ after) = filters ("" ++ "&" ++ after) := by
  have rest : '&' ∉ unmarked pair.toList := by
    unfold unmarked
    split
    · rename_i rest whole
      rw [whole] at single
      exact fun member => single (List.mem_cons_of_mem _ member)
    · exact single
  have nothing : filters pair = .empty := by
    rw [filters_eq, filtersOfParts_of_pair rest]
    exact filtersOfPair_eq_empty_iff.2 idle
  refine ⟨nothing, fun after => ?_⟩
  rw [filters_join, filters_join, nothing]
  rfl

end Skip

/-! ## Pairs that mean a condition -/

/-- Whether a pair has a sign, and a key that is no directive and names a column. -/
def isConditional (pair : List Char) : Bool :=
  match Delimiter.splitPair? pair with
  | none => false
  | some (_, key, _) =>
      (Directive.ofKey? (Text.formDecode key)).isNone &&
        !(Conjunction.ofKey (Text.formDecode key)).2.isEmpty

/-- A pair means a condition: the comparison by its sign, the column and the conjunction by its key,
and the value by what is behind the sign. -/
inductive Means (pair : List Char) : Condition → Prop
  | intro {comparison : Comparison} {key value column : List Char} {conjunction : Conjunction}
      (split : Delimiter.splitPair? pair = some (comparison, key, value))
      (undirected : Directive.ofKey? (Text.formDecode key) = none)
      (read : Conjunction.ofKey (Text.formDecode key) = (conjunction, column))
      (filled : column ≠ []) :
      Means pair ⟨.ofList column, comparison, .ofList (Text.formDecode value), conjunction⟩

theorem Means.named {pair : List Char} {condition : Condition} (means : Means pair condition) :
    condition.Named := by
  cases means with
  | intro split undirected read filled =>
    exact Condition.named_of_ofKey undirected read filled _ _

theorem of_isConditional {pair : List Char} (conditional : isConditional pair = true) :
    ∃ condition, filtersOfPair pair = .ofCondition condition ∧ Means pair condition := by
  unfold isConditional at conditional
  split at conditional
  · cases conditional
  · rename_i comparison key value split
    simp only [Bool.and_eq_true, Option.isNone_iff_eq_none, Bool.not_eq_true',
      List.isEmpty_eq_false_iff] at conditional
    exact ⟨_, filtersOfPair_of_column split conditional.1 conditional.2,
      Means.intro split conditional.1 rfl conditional.2⟩

theorem conditions_of_not_isConditional {pair : List Char}
    (other : isConditional pair = false) : (filtersOfPair pair).conditions = [] := by
  unfold isConditional at other
  split at other
  · rename_i none
    rw [filtersOfPair_of_none none]
    rfl
  · rename_i comparison key value split
    cases directed : Directive.ofKey? (Text.formDecode key) with
    | none =>
      have blank : (Conjunction.ofKey (Text.formDecode key)).2 = [] := by
        simpa [directed] using other
      rw [filtersOfPair_of_blank split directed blank]
      rfl
    | some directive =>
      rw [filtersOfPair_of_directive split directed, directive.conditions_filters]

/-- The conditions of some pairs are those that the conditional ones among them mean, one for
each. -/
theorem conditions_forall₂ (pairs : List (List Char)) :
    List.Forall₂ Means (pairs.filter isConditional)
      (FilterSet.concat (pairs.map filtersOfPair)).conditions := by
  induction pairs with
  | nil => exact List.Forall₂.nil
  | cons pair pairs step =>
    have split : (FilterSet.concat ((pair :: pairs).map filtersOfPair)).conditions =
        (filtersOfPair pair).conditions ++
          (FilterSet.concat (pairs.map filtersOfPair)).conditions := rfl
    rw [split]
    cases conditional : isConditional pair with
    | true =>
      rcases of_isConditional conditional with ⟨condition, found, means⟩
      rw [List.filter_cons_of_pos conditional, found]
      exact List.Forall₂.cons means step
    | false =>
      rw [List.filter_cons_of_neg (by simp [conditional]),
        conditions_of_not_isConditional conditional]
      exact step

/-- A query string is read pair by pair: two of them behind one another, the pairs that count for
nothing, and the conditions of all pairs. -/
theorem filters_by_pair :
    (∀ first second : String, second.toList.head? ≠ some '?' →
      (filters (first ++ "&" ++ second)).conditions =
          (filters first).conditions ++ (filters second).conditions ∧
        (filters (first ++ "&" ++ second)).orderBy =
          (filters second).orderBy.or (filters first).orderBy ∧
        (filters (first ++ "&" ++ second)).limit =
          (filters second).limit.or (filters first).limit ∧
        (filters (first ++ "&" ++ second)).offset =
          (filters second).offset.or (filters first).offset) ∧
    (∀ pair : String, '&' ∉ pair.toList →
      (Idle pair.toList → ∀ before : String,
        filters (before ++ "&" ++ pair) = filters before ∧
          ∀ after : String,
            filters (before ++ "&" ++ pair ++ "&" ++ after) = filters (before ++ "&" ++ after)) ∧
      (Idle (unmarked pair.toList) → filters pair = .empty ∧
        ∀ after : String, filters (pair ++ "&" ++ after) = filters ("" ++ "&" ++ after) ∧
          (after.toList.head? ≠ some '?' → filters (pair ++ "&" ++ after) = filters after))) ∧
    ∀ text : String,
      List.Forall₂ Means ((pairs text.toList).filter isConditional) (filters text).conditions ∧
        ∀ condition ∈ (filters text).conditions, condition.Named := by
  refine ⟨?_, ?_, ?_⟩
  · intro first second plain
    rw [filters_append first plain]
    exact ⟨rfl, rfl, rfl, rfl⟩
  · intro pair single
    refine ⟨filters_skip single, fun idle => ?_⟩
    rcases filters_skip_first single idle with ⟨nothing, left⟩
    refine ⟨nothing, fun after => ⟨left after, fun plain => ?_⟩⟩
    rw [filters_append pair plain, nothing, FilterSet.empty_append]
  · intro text
    have means := conditions_forall₂ (pairs text.toList)
    exact ⟨means, Condition.forall_of_forall₂ (fun _ _ meant => meant.named) means⟩

theorem idle_limit : Idle "limit=ten".toList :=
  Idle.unbounded (by decide +kernel : _ = some (.equal, "limit".toList, "ten".toList))
    (by decide +kernel : _ = some .limit) (Or.inl rfl) (by decide +kernel)

theorem filters_by_pair_priced :
    (filters ("?price%3E=10&limit=5" ++ "&" ++ "OR name=x&limit=7")).conditions =
        [⟨"price", .atLeast, "10", .and⟩, ⟨"name", .equal, "x", .or⟩] ∧
      (filters ("?price%3E=10&limit=5" ++ "&" ++ "OR name=x&limit=7")).limit = some 7 ∧
      filters ("price=1" ++ "&" ++ "limit=ten" ++ "&" ++ "?name=x") =
        filters ("price=1" ++ "&" ++ "?name=x") ∧
      filters ("limit=ten" ++ "&" ++ "?name=x") = filters ("" ++ "&" ++ "?name=x") ∧
      filters ("limit=ten" ++ "&" ++ "name=x") = filters "name=x" ∧
      ∀ condition ∈ (filters "OR name=x&limit=7").conditions, condition.Named := by
  have joined := filters_by_pair.1 "?price%3E=10&limit=5" "OR name=x&limit=7" (by decide)
  have skipped := filters_by_pair.2.1 "limit=ten" (by decide)
  have first := skipped.2 idle_limit
  refine ⟨?_, ?_, (skipped.1 idle_limit "price=1").2 "?name=x", (first.2 "?name=x").1,
    (first.2 "name=x").2 (by decide), (filters_by_pair.2.2 "OR name=x&limit=7").2⟩
  · rw [joined.1]
    decide +kernel
  · rw [joined.2.2.1]
    decide +kernel

end QueryString

end TableApi
