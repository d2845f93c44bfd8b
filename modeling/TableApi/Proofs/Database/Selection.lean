import Mathlib.Data.List.Perm.Subperm
import TableApi.Proofs.Database.Operations

/-!
# Rows and ids of one selection

The ids of the rows that some filters mean are selected by a text of their own, which differs from
the text that selects the rows in its projection and in nothing else.  Both are read back alike, so
the ids are those of the rows.  This holds for any names and any order clause, and so does that each
row of the table is selected once at most.

An order clause may hold the word at which a window is cut off, and then the text is read back
otherwise than it was written.  Even so it selects no row that fails the conditions: its order is
mistaken, or its conditions have a word too many and hold of no row.
-/

namespace TableApi

namespace Memory

variable {tables : Tables} {name : String} {table : Table}

/-! ## Rows and projections -/

theorem ofOrdered_eq_ok {rows : Option (List Row)} {ordered : List Row} :
    ofOrdered rows = .ok ordered ↔ rows = some ordered := by
  cases rows <;> simp [ofOrdered]

theorem Query.ordered?_perm {query : Query} {rows ordered : List Row}
    (found : query.ordered? rows = some ordered) : ordered.Perm rows := by
  unfold ordered? at found
  split at found
  · exact Arrangement.arrange?_perm found
  · rw [Option.some.inj found]

theorem Query.windowed_sublist (query : Query) (rows : List Row) :
    (query.windowed rows).Sublist rows := by
  unfold windowed
  split
  · exact (List.take_sublist _ _).trans (List.drop_sublist _ _)
  · exact List.Sublist.refl _

/-- A query selects rows that its conditions hold of, each as often as the table has it at most. -/
theorem Query.shown?_subperm {query : Query} {table : Table} {values : List Json}
    {shown : List Row} (found : query.shown? table values = some shown) :
    shown.Subperm (table.rows.filter (clauseHolds query.conditions values)) := by
  rcases Option.map_eq_some_iff.1 found with ⟨ordered, arranged, rfl⟩
  exact (query.windowed_sublist ordered).subperm.trans (ordered?_perm arranged).subperm

/-- A row with its id and nothing else. -/
def idOnly (row : Row) : Row :=
  [("id", (Fields.get? row "id").getD .null)]

theorem project_id (rows : List Row) : project Projection.id.text rows = rows.map idOnly := rfl

/-- The text of a selection is read back alike whatever it projects on. -/
theorem Query.exists_reading (name : String) (filters : FilterSet) :
    ∃ read : Option Query, ∀ projection : Projection,
      ofText? (Statement.select projection name filters).toSql.query.toList =
        read.map fun query => { query with projection := projection.text } := by
  refine ⟨ofText? (Statement.select .all name filters).toSql.query.toList, fun projection => ?_⟩
  have text : ∀ projection : Projection,
      (Statement.select projection name filters).toSql.query.toList =
        "SELECT ".toList ++ (projection.text.toList ++ (" FROM ".toList ++ (name.toList ++
          ((Condition.clause filters.conditions).toList ++
            (filters.orderClause.toList ++ filters.windowClause.toList))))) := by
    intro projection
    simp only [Statement.toSql_select, FilterSet.appliedTo, String.toList_append, List.append_assoc]
  have cut : ∀ (projection : Projection) (tail : List Char),
      Text.cut? " FROM ".toList (projection.text.toList ++ (" FROM ".toList ++ tail)) =
        some (projection.text.toList, tail) := by
    intro projection tail
    cases projection <;> rfl
  rw [text projection, text .all]
  simp only [ofText?, Text.dropLead?_append, cut, Option.bind_eq_bind, Option.bind_some,
    Option.map_bind, Function.comp_def, Option.pure_def, Option.map_some, String.ofList_toList]

/-- A selection is refused whatever it projects on, or it is the same selection of rows. -/
theorem fetch_cases (tables : Tables) (name : String) (filters : FilterSet) :
    (∀ projection, ∃ reason,
      fetch tables (Statement.select projection name filters).toSql = .error (.query reason)) ∨
    ∃ query table,
      Query.ofText? (Statement.select .all name filters).toSql.query.toList = some query ∧
      Named.get? tables query.table = some table ∧
      ∀ projection, fetch tables (Statement.select projection name filters).toSql =
        ofOrdered ((query.shown? table
          (filters.conditions.map fun condition => .string condition.value)).map
            (project projection.text)) := by
  rcases Query.exists_reading name filters with ⟨read, reads⟩
  cases read with
  | none => exact Or.inl fun projection => ⟨_, by rw [fetch, reads]; rfl⟩
  | some query =>
    cases held : Named.get? tables query.table with
    | none =>
      refine Or.inl fun projection => ⟨"Table '" ++ query.table ++ "' doesn't exist", ?_⟩
      simp only [fetch, reads, tableOf, held, Option.map_some]
      rfl
    | some table =>
      refine Or.inr ⟨_, table, reads .all, held, fun projection => ?_⟩
      simp only [fetch, reads, tableOf, held, Option.map_some]
      rfl

/-! ## Conditions before any order clause -/

namespace Query

open Text

variable {pieces : List (List Char)}

/-- What stands behind the name of the table: the conditions, the order clause and the window. -/
def tailText (filters : FilterSet) : List Char :=
  spaced (Condition.wordedPieces filters.conditions) ++
    orderText (filters.orderBy.map String.toList) ++ windowText filters.bounds

theorem head?_tailText (filters : FilterSet) : ∀ first ∈ (tailText filters).head?, first = ' ' := by
  rw [tailText, orderText_eq_spaced, ← spaced_append]
  cases Condition.wordedPieces filters.conditions ++
      orderPieces (filters.orderBy.map String.toList) with
  | cons piece others => simp
  | nil => cases filters.bounds <;> simp [windowText]

/-- A selection from a table with a plain name is read back as one from this table, and its
conditions, its order and its window are what its tail says. -/
theorem of_reading (named : IsPlain name) {filters : FilterSet} {query : Query}
    (read : ofText? (Statement.select .all name filters).toSql.query.toList = some query) :
    query.table = name ∧ ∃ before, cutWindow? (' ' :: (tailText filters).drop 1) =
      some (before, query.window) ∧ query.conditions = conditionsOf (cutOrder before).1 := by
  have text : (Statement.select .all name filters).toSql.query.toList =
      "SELECT ".toList ++
        ("*".toList ++ (" FROM ".toList ++ (name.toList ++ tailText filters))) := by
    simp only [Statement.toSql_select, FilterSet.appliedTo, String.toList_append,
      Condition.toList_clause, FilterSet.toList_orderClause, FilterSet.toList_windowClause,
      List.append_assoc, tailText]
    rfl
  have cut (tail : List Char) :
      cut? " FROM ".toList ("*".toList ++ (" FROM ".toList ++ tail)) = some ("*".toList, tail) :=
    rfl
  have table := cutTable (named.not_mem (by decide)) (head?_tailText filters)
  simp only [text, ofText?, dropLead?_append, cut, table, Option.bind_eq_bind,
    Option.bind_some] at read
  rcases Option.bind_eq_some_iff.1 read with ⟨⟨before, window⟩, windowed, returned⟩
  cases returned
  exact ⟨String.ofList_toList, before, windowed, rfl⟩

/-- The text before a window is the whole text, or ends where the window is cut off. -/
theorem of_cutWindow? {clause before : List Char} {window : Option (Nat × Nat)}
    (cut : cutWindow? clause = some (before, window)) :
    (cut? " LIMIT ".toList clause = none ∧ before = clause) ∨
      ∃ after, cut? " LIMIT ".toList clause = some (before, after) := by
  unfold cutWindow? at cut
  split at cut
  · rename_i front after found
    rcases Option.map_eq_some_iff.1 cut with ⟨bounds, _, same⟩
    cases same
    exact Or.inr ⟨after, found⟩
  · rename_i uncut
    cases cut
    exact Or.inl ⟨uncut, rfl⟩

/-- A window is cut off behind pieces none of which is its word. -/
theorem cutWindow?_behind (plain : ∀ piece ∈ pieces, ' ' ∉ piece)
    (other : ∀ piece ∈ pieces, piece ≠ "LIMIT".toList) {rest before : List Char}
    (next : ∀ first ∈ rest.head?, first = ' ') {window : Option (Nat × Nat)}
    (cut : cutWindow? (spaced pieces ++ rest) = some (before, window)) :
    ∃ front, before = spaced pieces ++ front ∧
      ((cut? " LIMIT ".toList rest = none ∧ front = rest) ∨
        ∃ after, cut? " LIMIT ".toList rest = some (front, after)) := by
  have passed : cut? " LIMIT ".toList (spaced pieces ++ rest) =
      (cut? " LIMIT ".toList rest).map fun cut => (spaced pieces ++ cut.1, cut.2) :=
    cut?_spaced (by decide) plain other next
  rcases of_cutWindow? cut with ⟨uncut, rfl⟩ | ⟨after, found⟩
  · rw [passed] at uncut
    exact ⟨rest, rfl, Or.inl ⟨Option.map_eq_none_iff.1 uncut, rfl⟩⟩
  · rw [passed] at found
    rcases Option.map_eq_some_iff.1 found with ⟨⟨front, rear⟩, here, same⟩
    cases same
    exact ⟨front, rfl, Or.inr ⟨rear, here⟩⟩

/-- A part of a text that starts with a space is empty or starts with a space. -/
theorem front_of_cut? {mark rest front after : List Char}
    (cut : cut? mark (' ' :: rest) = some (front, after)) :
    front = [] ∨ ∃ more, front = ' ' :: more := by
  have whole := append_of_cut? cut
  cases front with
  | nil => exact Or.inl rfl
  | cons first more =>
    refine Or.inr ⟨more, ?_⟩
    simp only [List.cons_append, List.cons.injEq] at whole
    rw [whole.1]

/-- The words of an order clause, without what it orders by. -/
def orderWords : List (List Char) :=
  ["ORDER".toList, "BY".toList]

theorem orderText_some (clause : List Char) :
    orderText (some clause) = spaced orderWords ++ ' ' :: clause := rfl

theorem orderWords_ne : ∀ piece ∈ orderWords,
    ' ' ∉ piece ∧ piece ≠ "LIMIT".toList ∧ piece ≠ "IN".toList := by
  decide

/-- Before a window that stands behind pieces are these pieces. -/
theorem before_window_of_pieces (plain : ∀ piece ∈ pieces, ' ' ∉ piece)
    (other : ∀ piece ∈ pieces, piece ≠ "LIMIT".toList) {bounds window : Option (Nat × Nat)}
    {before : List Char}
    (cut : cutWindow? (spaced pieces ++ windowText bounds) = some (before, window)) :
    before = spaced pieces := by
  have next : ∀ first ∈ (windowText bounds).head?, first = ' ' := by
    cases bounds <;> simp [windowText]
  rcases cutWindow?_behind plain other next cut with ⟨front, rfl, found⟩
  suffices nothing : front = [] by rw [nothing, List.append_nil]
  cases bounds with
  | none =>
    rcases found with ⟨_, rfl⟩ | ⟨after, found⟩
    · rfl
    · cases found
  | some bounds =>
    rw [windowText, Option.elim_some, cut?_append_self (by decide)] at found
    rcases found with ⟨uncut, _⟩ | ⟨after, found⟩
    · cases uncut
    · cases found
      rfl

/-- Before a window that stands behind an order clause are the words of this clause, and nothing or
some clause behind them. -/
theorem before_window_of_order (plain : ∀ piece ∈ pieces, ' ' ∉ piece)
    (other : ∀ piece ∈ pieces, piece ≠ "LIMIT".toList) {rest before : List Char}
    {window : Option (Nat × Nat)}
    (cut : cutWindow? (spaced (pieces ++ orderWords) ++ ' ' :: rest) = some (before, window)) :
    before = spaced (pieces ++ orderWords) ∨
      ∃ clause, before = spaced pieces ++ orderText (some clause) := by
  have plainAll : ∀ piece ∈ pieces ++ orderWords, ' ' ∉ piece :=
    List.forall_mem_append.2 ⟨plain, fun piece word => (orderWords_ne piece word).1⟩
  have otherAll : ∀ piece ∈ pieces ++ orderWords, piece ≠ "LIMIT".toList :=
    List.forall_mem_append.2 ⟨other, fun piece word => (orderWords_ne piece word).2.1⟩
  rcases cutWindow?_behind plainAll otherAll (by simp) cut with ⟨front, rfl, found⟩
  have starts : front = [] ∨ ∃ more, front = ' ' :: more := by
    rcases found with ⟨_, rfl⟩ | ⟨after, found⟩
    · exact Or.inr ⟨_, rfl⟩
    · exact front_of_cut? found
  rcases starts with rfl | ⟨more, rfl⟩
  · exact Or.inl (List.append_nil _)
  · refine Or.inr ⟨more, ?_⟩
    rw [orderText_some, spaced_append, List.append_assoc]

/-- Before a window stand the pieces, and behind them an order clause, if any, or only its words. -/
theorem before_window (plain : ∀ piece ∈ pieces, ' ' ∉ piece)
    (other : ∀ piece ∈ pieces, piece ≠ "LIMIT".toList) {order : Option (List Char)}
    {bounds window : Option (Nat × Nat)} {before : List Char}
    (cut : cutWindow? (spaced pieces ++ orderText order ++ windowText bounds) =
      some (before, window)) :
    (∃ clause, before = spaced pieces ++ orderText clause) ∨
      before = spaced (pieces ++ orderWords) := by
  cases order with
  | none =>
    rw [orderText, Option.elim_none, List.append_nil] at cut
    refine Or.inl ⟨none, ?_⟩
    rw [before_window_of_pieces plain other cut]
    exact (List.append_nil _).symm
  | some clause =>
    rw [orderText_some, ← List.append_assoc, ← spaced_append, List.append_assoc,
      List.cons_append] at cut
    rcases before_window_of_order plain other cut with rfl | ⟨clause, rfl⟩
    · exact Or.inr rfl
    · exact Or.inl ⟨some clause, rfl⟩

/-- No clause is cut off where nothing stands behind the words of an order clause. -/
theorem cutOrder_orderWords (plain : ∀ piece ∈ pieces, ' ' ∉ piece)
    (other : ∀ piece ∈ pieces, piece ≠ "ORDER".toList) :
    cutOrder (spaced (pieces ++ orderWords)) = (spaced (pieces ++ orderWords), none) := by
  have passed : cut? " ORDER BY ".toList (spaced pieces ++ spaced orderWords) =
      (cut? " ORDER BY ".toList (spaced orderWords)).map fun cut =>
        (spaced pieces ++ cut.1, cut.2) :=
    @cut?_spaced "ORDER".toList "BY ".toList _ _ (by decide) plain other (by simp [orderWords])
  have nothing : cut? " ORDER BY ".toList (spaced orderWords) = none := by decide
  rw [nothing, Option.map_none, ← spaced_append] at passed
  rw [cutOrder, passed]

theorem conditionsOf_orderWords {conditions : List Condition} (several : conditions ≠ []) :
    conditionsOf (spaced (Condition.wordedPieces conditions ++ orderWords)) =
      joinWith [' '] (Condition.pieces conditions ++ orderWords) := by
  have ends : ∀ piece ∈ Condition.wordedPieces conditions ++ orderWords,
      ∃ before last, piece = before ++ [last] ∧ isBlank last = false := by
    have words : ∀ piece ∈ orderWords, piece = piece.dropLast ++ [piece.getLast?.getD ' '] ∧
        isBlank (piece.getLast?.getD ' ') = false := by decide
    exact List.forall_mem_append.2
      ⟨Condition.wordedPieces_end, fun piece word => ⟨_, _, words piece word⟩⟩
  cases conditions with
  | nil => exact absurd rfl several
  | cons first others => exact conditionsOf_spaced ends

/-- The conditions of a selection are read back as they were written, or with the words of an order
clause behind them. -/
theorem conditions_of_reading (named : IsPlain name) {filters : FilterSet} {query : Query}
    (legible : ∀ condition ∈ filters.conditions, condition.IsLegible)
    (several : filters.conditions ≠ [])
    (read : ofText? (Statement.select .all name filters).toSql.query.toList = some query) :
    query.conditions = joinWith [' '] (Condition.pieces filters.conditions) ∨
      query.conditions = joinWith [' '] (Condition.pieces filters.conditions ++ orderWords) := by
  have plain := Condition.space_not_mem_wordedPieces legible
  have other : ∀ word ∈ ["LIMIT".toList, "ORDER".toList],
      ∀ piece ∈ Condition.wordedPieces filters.conditions, piece ≠ word := by
    intro word known
    have apart : ∀ word ∈ ["LIMIT".toList, "ORDER".toList],
        word ∉ ["WHERE".toList, "AND".toList, "OR".toList] ∧ word.getLast? ≠ some '?' := by
      decide
    exact Condition.wordedPieces_ne (apart word known).1 (apart word known).2
  have whole : ' ' :: (tailText filters).drop 1 = tailText filters := by
    rw [tailText, Condition.wordedPieces, if_neg (by simpa using several)]
    simp
  rcases of_reading named read with ⟨_, before, cut, conditions⟩
  rw [whole] at cut
  rw [conditions]
  rcases before_window plain (other _ (by simp)) cut with ⟨clause, rfl⟩ | rfl
  · rw [cutOrder_spaced plain (other _ (by simp)), conditionsOf_wordedPieces]
    exact Or.inl rfl
  · rw [cutOrder_orderWords plain (other _ (by simp)), conditionsOf_orderWords several]
    exact Or.inr rfl

end Query

/-! ## Rows that satisfy the conditions -/

/-- Whether a piece of a clause takes a bound value: it is neither of the conjunctions. -/
def isTerm (piece : List Char) : Bool :=
  piece != "AND".toList && piece != "OR".toList

theorem isTerm_term (condition : Condition) : isTerm condition.term.toList = true := by
  simp only [isTerm, Bool.and_eq_true, bne_iff_ne]
  exact term_ne_conjunction condition

theorem isTerm_word (conjunction : Conjunction) : isTerm conjunction.word.toList = false := by
  cases conjunction <;> rfl

/-- A clause has a term for each condition. -/
theorem countP_pieces (conditions : List Condition) :
    (Condition.pieces conditions).countP isTerm = conditions.length := by
  have later : ∀ others : List Condition,
      (others.flatMap fun condition =>
        [condition.conjunction.word.toList, condition.term.toList]).countP isTerm =
          others.length := by
    intro others
    induction others with
    | nil => rfl
    | cons condition others step =>
      simp [isTerm_term, isTerm_word, step]
  cases conditions with
  | nil => rfl
  | cons first others => simp [Condition.pieces, isTerm_term, later]

/-- A clause with more terms than values holds of no row. -/
theorem termsHold_of_few {row : Row} {tokens : List (List Char)} {values : List Json}
    (few : values.length < tokens.countP isTerm) (first : Bool) (conjunction : Conjunction)
    (before : Bool) : termsHold row first conjunction before tokens values = false := by
  induction tokens generalizing values first conjunction before with
  | nil => simp at few
  | cons token tokens step =>
    by_cases isAnd : token = "AND".toList
    · simp only [termsHold, isAnd, if_true]
      rw [isAnd, List.countP_cons_of_neg (by decide)] at few
      exact step few _ _ _
    by_cases isOr : token = "OR".toList
    · have apart : "OR".toList ≠ "AND".toList := by decide
      simp only [termsHold, isOr, apart, if_true, if_false]
      rw [isOr, List.countP_cons_of_neg (by decide)] at few
      exact step few _ _ _
    · simp only [termsHold, isAnd, isOr, if_false]
      rw [List.countP_cons_of_pos (by simpa [isTerm] using ⟨isAnd, isOr⟩)] at few
      cases values with
      | nil => rfl
      | cons value values => exact step (by simpa using few) _ _ _

/-- A clause that ends in the words of an order clause holds of no row. -/
theorem clauseHolds_orderWords {conditions : List Condition}
    (legible : ∀ condition ∈ conditions, condition.IsLegible) (several : conditions ≠ [])
    (row : Row) :
    clauseHolds (Text.joinWith [' '] (Condition.pieces conditions ++ Query.orderWords))
      (conditions.map fun condition => .string condition.value) row = false := by
  have spaceless : ∀ piece ∈ Condition.pieces conditions ++ Query.orderWords, ' ' ∉ piece :=
    List.forall_mem_append.2
      ⟨fun piece member => Condition.space_not_mem_wordedPieces legible piece
        (Condition.mem_wordedPieces_of_mem_pieces member),
      fun piece word => (Query.orderWords_ne piece word).1⟩
  have single : ∀ piece ∈ Condition.pieces conditions ++ Query.orderWords,
      piece ≠ "IN".toList :=
    List.forall_mem_append.2
      ⟨pieces_ne_in conditions, fun piece word => (Query.orderWords_ne piece word).2.2⟩
  have few : (conditions.map fun condition => Json.string condition.value).length <
      (Condition.pieces conditions ++ Query.orderWords).countP isTerm := by
    have words : Query.orderWords.countP isTerm = 2 := by decide
    rw [List.countP_append, countP_pieces, words, List.length_map]
    omega
  cases conditions with
  | nil => exact absurd rfl several
  | cons first others =>
    exact (clauseHolds_joined (term_ne_nil first) spaceless single _ row).trans
      (termsHold_of_few few true .and true)

/-- A query that is read back from a selection selects only rows that satisfy the conditions. -/
theorem allHold_of_reading (named : IsPlain name) {filters : FilterSet} {query : Query}
    (legible : ∀ condition ∈ filters.conditions, condition.IsLegible)
    (several : filters.conditions ≠ [])
    (read : Query.ofText? (Statement.select .all name filters).toSql.query.toList = some query)
    {row : Row}
    (holds : clauseHolds query.conditions
      (filters.conditions.map fun condition => .string condition.value) row = true) :
    Condition.allHold row filters.conditions = true := by
  rcases Query.conditions_of_reading named legible several read with same | longer
  · rwa [same, clauseHolds_pieces legible] at holds
  · rw [longer, clauseHolds_orderWords legible several] at holds
    cases holds

end Memory

end TableApi
