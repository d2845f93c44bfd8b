import TableApi.Database.Memory.Database
import TableApi.Proofs.Database.Reading

/-!
# What a filter set means

A filter set stands for some rows of a table: those that satisfy its conditions, in the order of its
order clause, from its offset on and up to its limit.  The conditions are joined from left to right,
the first one to nothing, and no conjunction binds closer than another.  This module says so without
any text, and shows that the clause of the conditions holds of just the rows that satisfy them.
-/

namespace TableApi

namespace Condition

/-- Whether a row satisfies a condition.  Without a value in the column it satisfies none. -/
def holdsOf (row : Row) (condition : Condition) : Bool :=
  match Fields.get? row condition.column with
  | none => false
  | some .null => false
  | some stored =>
      (Memory.compareValues? (some stored) (.string condition.value)).any
        condition.comparison.holds

/-- Whether a row satisfies conditions that are joined from left to right. -/
def allHold (row : Row) : List Condition → Bool
  | [] => true
  | first :: others =>
      others.foldl
        (fun before condition => condition.conjunction.join before (condition.holdsOf row))
        (first.holdsOf row)

end Condition

namespace FilterSet

/-- The rows that satisfy the conditions. -/
def satisfying (filters : FilterSet) (rows : List Row) : List Row :=
  rows.filter fun row => Condition.allHold row filters.conditions

/-- The rows in the order of the order clause, if there is one, unless their ordering breaks off. -/
def arranged? (filters : FilterSet) (rows : List Row) : Option (List Row) :=
  match filters.orderBy with
  | some clause => Memory.orderRows? (Text.trim clause.toList) rows
  | none => some rows

/-- The rows from the offset on, up to the limit; without a limit all of them. -/
def windowed (filters : FilterSet) (rows : List Row) : List Row :=
  match filters.limit with
  | some limit => (rows.drop (filters.offset.getD 0)).take limit
  | none => rows.drop (filters.offset.getD 0)

/-- The rows that a filter set means, unless their ordering breaks off. -/
def chosen? (filters : FilterSet) (rows : List Row) : Option (List Row) :=
  (filters.arranged? (filters.satisfying rows)).map filters.windowed

end FilterSet

namespace Memory

/-! ## One term -/

theorem splitTerm?_eq {condition : Condition} (legible : condition.IsLegible) :
    splitTerm? (condition.column.toList ++ condition.comparison.symbol.toList ++ ['?']) =
      some (condition.column, condition.comparison) := by
  -- A sign of two characters could only be found early if the column ended with the first of them.
  have absent : condition.comparison = .equal →
      ∀ sign ∈ ['!', '<', '>'], [sign].isPrefixOf? condition.column.toList.reverse = none := by
    intro equal sign known
    apply Text.dropLead?_eq_none
    rintro ⟨rest, same⟩
    apply legible.unsigned equal sign known
    rw [← List.head?_reverse, ← same]
    rfl
  cases comparison : condition.comparison with
  | equal =>
    have exclamation := absent comparison '!' (by simp)
    have less := absent comparison '<' (by simp)
    have greater := absent comparison '>' (by simp)
    simp [splitTerm?, Text.dropWhileEnd, termSigns, Text.dropTail?, Comparison.symbol,
      Text.isPrefixOf?_nil, Text.isPrefixOf?_cons, exclamation, less, greater]
  | _ =>
    simp [splitTerm?, Text.dropWhileEnd, termSigns, Text.dropTail?, Comparison.symbol,
      Text.isPrefixOf?_nil, Text.isPrefixOf?_cons]

theorem termHolds_eq {condition : Condition} (legible : condition.IsLegible) (row : Row)
    (value : Json) :
    termHolds row (condition.column.toList ++ condition.comparison.symbol.toList ++ ['?']) value =
      (compareValues? (Fields.get? row condition.column) value).any condition.comparison.holds := by
  rw [termHolds, splitTerm?_eq legible]

/-- A term holds of the rows that satisfy its condition. -/
theorem termHolds_term {condition : Condition} (legible : condition.IsLegible) (row : Row) :
    termHolds row condition.term.toList (.string condition.value) = condition.holdsOf row := by
  rw [Condition.toList_term, termHolds_eq legible, Condition.holdsOf]
  cases Fields.get? row condition.column with
  | none => rfl
  | some stored => cases stored <;> rfl

/-! ## Clauses -/

section

variable {row : Row}

theorem term_ne_conjunction (condition : Condition) :
    condition.term.toList ≠ "AND".toList ∧ condition.term.toList ≠ "OR".toList := by
  have ends : condition.term.toList.getLast? = some '?' := by
    simp [Condition.toList_term]
  constructor
  · intro same
    rw [same] at ends
    revert ends
    decide
  · intro same
    rw [same] at ends
    revert ends
    decide

theorem termsHold_term (condition : Condition) (first : Bool) (conjunction : Conjunction)
    (before : Bool) (tokens : List (List Char)) (value : Json) (values : List Json) :
    termsHold row first conjunction before (condition.term.toList :: tokens) (value :: values) =
      termsHold row false conjunction
        (if first then termHolds row condition.term.toList value
          else conjunction.join before (termHolds row condition.term.toList value))
        tokens values := by
  simp only [termsHold, (term_ne_conjunction condition).1, (term_ne_conjunction condition).2,
    if_false]

theorem termsHold_word (conjunction joined : Conjunction) (before : Bool)
    (tokens : List (List Char)) (values : List Json) :
    termsHold row false conjunction before (joined.word.toList :: tokens) values =
      termsHold row false joined before tokens values := by
  cases joined with
  | and => rfl
  | or => rfl

/-- Behind the first term, each word tells how the term after it is joined. -/
theorem termsHold_others {others : List Condition}
    (legible : ∀ condition ∈ others, condition.IsLegible) (conjunction : Conjunction)
    (before : Bool) :
    termsHold row false conjunction before
        (others.flatMap fun condition =>
          [condition.conjunction.word.toList, condition.term.toList])
        (others.map fun condition => .string condition.value) =
      others.foldl
        (fun before condition => condition.conjunction.join before (condition.holdsOf row))
        before := by
  induction others generalizing conjunction before with
  | nil => rfl
  | cons condition others step =>
    rw [List.flatMap_cons, List.map_cons, List.foldl_cons]
    rw [List.cons_append, List.cons_append, List.nil_append, termsHold_word, termsHold_term,
      termHolds_term (legible condition List.mem_cons_self)]
    exact step (fun other member => legible other (List.mem_cons_of_mem _ member)) _ _

end

/-- A clause is read as its pieces, unless one of them is the word for a list. -/
theorem clauseHolds_joined {first : List Char} {others : List (List Char)} (filled : first ≠ [])
    (spaceless : ∀ piece ∈ first :: others, ' ' ∉ piece)
    (wordless : ∀ piece ∈ first :: others, piece ≠ "IN".toList) (values : List Json) (row : Row) :
    clauseHolds (Text.joinWith [' '] (first :: others)) values row =
      termsHold row true .and true (first :: others) values := by
  have behind : Text.cut? " IN (".toList (Text.spaced others) = none :=
    Text.cut?_spaced_eq_none "IN".toList ['('] (by decide)
      (fun piece member => spaceless piece (List.mem_cons_of_mem _ member))
      (fun piece member => wordless piece (List.mem_cons_of_mem _ member))
  have passed : Text.cut? " IN (".toList (first ++ Text.spaced others) =
      (Text.cut? " IN (".toList (Text.spaced others)).map fun cut => (first ++ cut.1, cut.2) :=
    Text.cut?_append (spaceless first List.mem_cons_self) _
  have listless : Text.cut? " IN (".toList (first ++ Text.spaced others) = none := by
    rw [passed, behind]
    rfl
  have some : (first ++ Text.spaced others).isEmpty = false := by simp [filled]
  rw [Text.joinWith_space, clauseHolds, some, listless, Text.splitAtChar_spaced spaceless]
  rfl

/-- No piece of a clause is the word for a list. -/
theorem pieces_ne_in (conditions : List Condition) :
    ∀ piece ∈ Condition.pieces conditions, piece ≠ "IN".toList :=
  fun piece member => Condition.wordedPieces_ne (by decide) (by decide) piece
    (Condition.mem_wordedPieces_of_mem_pieces member)

theorem term_ne_nil (condition : Condition) : condition.term.toList ≠ [] := by
  simp [Condition.toList_term]

/-- The clause of some conditions is read as their terms, whatever values are bound. -/
theorem clauseHolds_cons {first : Condition} {others : List Condition}
    (legible : ∀ condition ∈ first :: others, condition.IsLegible) (values : List Json)
    (row : Row) :
    clauseHolds (Text.joinWith [' '] (Condition.pieces (first :: others))) values row =
      termsHold row true .and true (Condition.pieces (first :: others)) values := by
  have spaceless : ∀ piece ∈ Condition.pieces (first :: others), ' ' ∉ piece :=
    fun piece member => Condition.space_not_mem_wordedPieces legible piece
      (Condition.mem_wordedPieces_of_mem_pieces member)
  exact clauseHolds_joined (term_ne_nil first) spaceless (pieces_ne_in (first :: others)) values row

/-- The clause of some conditions holds of the rows that satisfy them. -/
theorem clauseHolds_pieces {conditions : List Condition}
    (legible : ∀ condition ∈ conditions, condition.IsLegible) (row : Row) :
    clauseHolds (Text.joinWith [' '] (Condition.pieces conditions))
        (conditions.map fun condition => .string condition.value) row =
      Condition.allHold row conditions := by
  cases conditions with
  | nil => rfl
  | cons first others =>
    rw [clauseHolds_cons legible, Condition.pieces, List.map_cons, termsHold_term,
      termHolds_term (legible first List.mem_cons_self),
      termsHold_others fun other member => legible other (List.mem_cons_of_mem _ member)]
    rfl

/-- The text that a column equals a value, whatever the value is. -/
theorem joinWith_pieces_equality (column : String) :
    Text.joinWith [' '] (Condition.pieces [⟨column, .equal, "", .and⟩]) =
      column.toList ++ "=?".toList := by
  rw [Condition.pieces, Text.joinWith_space, Condition.toList_term]
  simp [Comparison.symbol]

/-- Whether a row has a value that compares as equal to another one. -/
def matchesAt (column : String) (value : Json) (row : Row) : Bool :=
  compareValues? (Fields.get? row column) value == some .eq

/-- A clause of one equality holds of the rows with that value, of whatever kind it is. -/
theorem clauseHolds_equality {column : String} (plain : IsPlain column) (value : Json) :
    clauseHolds (column.toList ++ "=?".toList) [value] = matchesAt column value := by
  funext row
  have legible : (⟨column, .equal, "", .and⟩ : Condition).IsLegible :=
    Condition.isLegible_of_isPlain plain
  rw [← joinWith_pieces_equality, clauseHolds_cons (by simpa using legible), Condition.pieces,
    termsHold_term, Condition.toList_term, termHolds_eq legible, matchesAt]
  cases compareValues? (Fields.get? row column) value with
  | none => rfl
  | some ordering => cases ordering <;> rfl

/-- A clause that looks for a column in a list holds of the rows with one of the values. -/
theorem clauseHolds_list {column : String} (plain : IsPlain column) (marks : List Char)
    (values : List Json) :
    clauseHolds (column.toList ++ " IN (".toList ++ marks) values =
      fun row => values.any fun value => matchesAt column value row := by
  funext row
  have space : ' ' ∉ column.toList := plain.not_mem (by decide)
  have cut : Text.cut? " IN (".toList (column.toList ++ " IN (".toList ++ marks) =
      some (column.toList, marks) := Text.cut?_between space marks
  have filled : (column.toList ++ " IN (".toList ++ marks).isEmpty = false := by
    simp
  rw [clauseHolds, filled, cut]
  simp [matchesAt]

end Memory

end TableApi
