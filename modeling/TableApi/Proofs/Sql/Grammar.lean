import TableApi.Sql.Statement

/-!
# The grammar of statement texts

The texts that a database may be sent, for one table and the columns that were listed for it.  The
grammar is stated on texts alone: it knows the words of a statement, the table, the columns and
the placeholders, and nothing of filters, records or values.

`Grammar.Query` derives the texts that ask for rows, and `Grammar.Change` those that change them.
The second part counts placeholders: a statement has as many as it binds values, unless a column
is named with a question mark.
-/

namespace TableApi

namespace Statement

theorem toSql_select (projection : Projection) (table : String) (filters : FilterSet) :
    (select projection table filters).toSql =
      filters.appliedTo ("SELECT " ++ projection.text ++ " FROM " ++ table) := rfl

theorem toSql_find (table column : String) (value : Json) :
    (find table column value).toSql =
      ⟨"SELECT * FROM " ++ table ++ " WHERE " ++ column ++ "=?", [value]⟩ := rfl

theorem toSql_insert (table : String) (columns : List String) (row : List Json)
    (rows : List (List Json)) :
    (insert table columns (row :: rows)).toSql =
      ⟨"INSERT INTO " ++ table ++ " (" ++ String.intercalate ", " columns ++ ") VALUES " ++
          String.intercalate ", " ((row :: rows).map fun _ => rowText columns),
        (row :: rows).flatten⟩ := rfl

theorem toSql_update (table : String) (fields : Fields) (id : Int) :
    (update table fields id).toSql =
      ⟨"UPDATE " ++ table ++ " SET " ++
          String.intercalate ", " (fields.keys.map fun column => column ++ "=?") ++ " WHERE id=?",
        fields.values ++ [Json.ofInt id]⟩ := rfl

theorem toSql_delete (table : String) (id : Int) :
    (delete table id).toSql =
      ⟨"DELETE FROM " ++ table ++ " WHERE id=?", [Json.ofInt id]⟩ := rfl

theorem toSql_deleteAll (table : String) (ids : List Int) :
    (deleteAll table ids).toSql =
      ⟨"DELETE FROM " ++ table ++ " WHERE id IN (" ++ placeholders ids.length ++ ")",
        ids.map Json.ofInt⟩ := rfl

end Statement

namespace Grammar

/-- What may stand for a column: the literal `id`, or a column of the table. -/
inductive Column (columns : List String) : String → Prop
  | id : Column columns "id"
  | listed {name : String} (known : name ∈ columns) : Column columns name

/-- The comparison signs. -/
def signs : List String :=
  ["=", "!=", "<", ">", "<=", ">="]

/-- The words between conditions. -/
def conjunctions : List String :=
  ["AND", "OR"]

/-- A condition: a column, a sign and a placeholder. -/
inductive Term (columns : List String) : String → Prop
  | intro {name sign : String} (column : Column columns name) (known : sign ∈ signs) :
      Term columns (name ++ sign ++ "?")

/-- One or more conditions with a conjunction between each two. -/
inductive Terms (columns : List String) : String → Prop
  | one {term : String} (single : Term columns term) : Terms columns term
  | more {front word term : String} (before : Terms columns front)
      (known : word ∈ conjunctions) (last : Term columns term) :
      Terms columns (front ++ " " ++ word ++ " " ++ term)

/-- A text of white space, perhaps empty. -/
def Blanks (text : String) : Prop :=
  ∀ character ∈ text.toList, Text.isBlank character = true

/-- The direction of an order in any case. -/
def Direction (text : String) : Prop :=
  text.toList.map Char.toLower ∈ ["asc".toList, "desc".toList]

/-- A part of an order: a column, perhaps with a direction behind white space. -/
inductive OrderPart (columns : List String) : String → Prop
  | plain {lead name trail : String} (before : Blanks lead) (column : Column columns name)
      (behind : Blanks trail) : OrderPart columns (lead ++ name ++ trail)
  | directed {lead name gap direction trail : String} (before : Blanks lead)
      (column : Column columns name) (apart : gap ≠ "") (between : Blanks gap)
      (known : Direction direction) (behind : Blanks trail) :
      OrderPart columns (lead ++ name ++ gap ++ direction ++ trail)

/-- One or more parts of an order with commas between them. -/
inductive Order (columns : List String) : String → Prop
  | one {part : String} (single : OrderPart columns part) : Order columns part
  | more {part rest : String} (first : OrderPart columns part) (others : Order columns rest) :
      Order columns (part ++ "," ++ rest)

/-- A window: two decimal numbers. -/
inductive Window : String → Prop
  | intro (offset limit : Nat) : Window (toString offset ++ ", " ++ toString limit)

/-- A clause that may be left out with its word. -/
inductive Clause (word : String) (Body : String → Prop) : String → Prop
  | absent : Clause word Body ""
  | present {body : String} (derived : Body body) : Clause word Body (word ++ body)

/-- What a query may ask for. -/
def projections : List String :=
  ["*", "id", "COUNT(*) AS count"]

/-- The texts that ask for rows of a table. -/
inductive Query (table : String) (columns : List String) : String → Prop
  | select {projection conditions order window : String} (known : projection ∈ projections)
      (filtered : Clause " WHERE " (Terms columns) conditions)
      (ordered : Clause " ORDER BY " (Order columns) order)
      (cut : Clause " LIMIT " Window window) :
      Query table columns
        ("SELECT " ++ projection ++ " FROM " ++ table ++ conditions ++ order ++ window)

/-- Placeholders with commas between them. -/
def marks (count : Nat) : String :=
  String.intercalate ", " (List.replicate count "?")

/-- Placeholder rows with commas between them. -/
def markRows (rows width : Nat) : String :=
  String.intercalate ", " (List.replicate rows ("(" ++ marks width ++ ")"))

/-- The texts that change a table. -/
inductive Change (table : String) (columns : List String) : String → Prop
  | insert {names : List String} {rows : Nat} (named : names ≠ [])
      (known : ∀ name ∈ names, Column columns name) (filled : 0 < rows) :
      Change table columns
        ("INSERT INTO " ++ table ++ " (" ++ String.intercalate ", " names ++ ") VALUES " ++
          markRows rows names.length)
  | update {names : List String} (named : names ≠ [])
      (known : ∀ name ∈ names, Column columns name) :
      Change table columns
        ("UPDATE " ++ table ++ " SET " ++
          String.intercalate ", " (names.map fun name => name ++ "=?") ++ " WHERE id=?")
  | deleteOne : Change table columns ("DELETE FROM " ++ table ++ " WHERE id=?")
  | deleteMany {count : Nat} (filled : 0 < count) :
      Change table columns
        ("DELETE FROM " ++ table ++ " WHERE id IN (" ++ marks count ++ ")")

/-! ## Clauses of a filter set -/

variable {columns : List String}

theorem symbol_mem_signs (comparison : Comparison) : comparison.symbol ∈ signs := by
  cases comparison <;> decide

theorem word_mem_conjunctions (conjunction : Conjunction) :
    conjunction.word ∈ conjunctions := by
  cases conjunction <;> decide

theorem term_of_condition {condition : Condition} (known : condition.column ∈ columns) :
    Term columns condition.term :=
  Term.intro (Column.listed known) (symbol_mem_signs condition.comparison)

/-- Joining further conditions to derived ones derives all of them. -/
theorem terms_join {front : String} (before : Terms columns front) {others : List Condition}
    (known : ∀ condition ∈ others, condition.column ∈ columns) :
    Terms columns (front ++ String.join (others.map Condition.joinedTerm)) := by
  induction others generalizing front with
  | nil => simpa using before
  | cons condition others step =>
    have next : Terms columns
        (front ++ " " ++ condition.conjunction.word ++ " " ++ condition.term) :=
      Terms.more before (word_mem_conjunctions _)
        (term_of_condition (known condition List.mem_cons_self))
    have rest := step next fun other member => known other (List.mem_cons_of_mem _ member)
    simpa [Condition.joinedTerm, String.append_assoc] using rest

theorem clause_terms {conditions : List Condition}
    (known : ∀ condition ∈ conditions, condition.column ∈ columns) :
    Clause " WHERE " (Terms columns) (Condition.clause conditions) := by
  cases conditions with
  | nil => exact Clause.absent
  | cons first others =>
    have single : Terms columns first.term :=
      Terms.one (term_of_condition (known first List.mem_cons_self))
    have joined := terms_join single fun other member =>
      known other (List.mem_cons_of_mem _ member)
    have present : Clause " WHERE " (Terms columns) _ := Clause.present joined
    simpa [Condition.clause, String.append_assoc] using present

theorem clause_order {filters : FilterSet}
    (accepted : ∀ order ∈ filters.orderBy, Order columns order) :
    Clause " ORDER BY " (Order columns) filters.orderClause := by
  cases given : filters.orderBy with
  | none =>
    simp only [FilterSet.orderClause, given]
    exact Clause.absent
  | some order =>
    simp only [FilterSet.orderClause, given]
    exact Clause.present (accepted order (by simp [given]))

theorem clause_window (filters : FilterSet) :
    Clause " LIMIT " Window filters.windowClause := by
  unfold FilterSet.windowClause
  split
  · exact Clause.absent
  · have present : Clause " LIMIT " Window _ :=
      Clause.present
        (Window.intro (filters.offset.getD 0) (filters.limit.getD Text.largestWord))
    simpa [String.append_assoc] using present

/-- The text of a filter set applied to a projection is a query. -/
theorem query_of_filters {table : String} {filters : FilterSet} (projection : Projection)
    (known : ∀ condition ∈ filters.conditions, condition.column ∈ columns)
    (accepted : ∀ order ∈ filters.orderBy, Order columns order) :
    Query table columns (Statement.select projection table filters).toSql.query :=
  Query.select (by cases projection <;> decide) (clause_terms known) (clause_order accepted)
    (clause_window filters)

/-! ## Placeholders -/

/-- How many placeholders a text holds. -/
def placeholderCount (text : String) : Nat :=
  text.toList.count '?'

/-- No column is named with a question mark. -/
def Unmarked (columns : List String) : Prop :=
  ∀ column ∈ columns, '?' ∉ column.toList

@[simp]
theorem placeholderCount_append (first second : String) :
    placeholderCount (first ++ second) = placeholderCount first + placeholderCount second := by
  simp [placeholderCount]

theorem placeholderCount_eq_zero {text : String} :
    placeholderCount text = 0 ↔ '?' ∉ text.toList := by
  simp [placeholderCount, List.count_eq_zero]

/-- Texts with equally many placeholders, with commas between them. -/
theorem placeholderCount_intercalate {texts : List String} {count : Nat}
    (each : ∀ text ∈ texts, placeholderCount text = count) :
    placeholderCount (String.intercalate ", " texts) = texts.length * count := by
  induction texts with
  | nil => simp [placeholderCount]
  | cons text texts step =>
    have first := each text List.mem_cons_self
    have rest := step fun other member => each other (List.mem_cons_of_mem _ member)
    cases texts with
    | nil => simpa using first
    | cons other texts =>
      have separator : placeholderCount ", " = 0 := by decide
      have longer : (text :: other :: texts).length * count =
          (other :: texts).length * count + count := Nat.succ_mul _ _
      rw [String.intercalate_cons_cons, placeholderCount_append, placeholderCount_append, first,
        separator, rest, longer]
      omega

theorem placeholderCount_marks (count : Nat) : placeholderCount (marks count) = count := by
  have each : ∀ text ∈ List.replicate count "?", placeholderCount text = 1 := by
    intro text member
    rw [List.eq_of_mem_replicate member]
    decide
  rw [marks, placeholderCount_intercalate each, List.length_replicate, Nat.mul_one]

theorem placeholderCount_markRows (rows width : Nat) :
    placeholderCount (markRows rows width) = rows * width := by
  have left : placeholderCount "(" = 0 := by decide
  have right : placeholderCount ")" = 0 := by decide
  have each : ∀ text ∈ List.replicate rows ("(" ++ marks width ++ ")"),
      placeholderCount text = width := by
    intro text member
    rw [List.eq_of_mem_replicate member]
    simp [left, right, placeholderCount_marks]
  rw [markRows, placeholderCount_intercalate each, List.length_replicate]

theorem placeholderCount_column {name : String} (unmarked : Unmarked columns)
    (column : Column columns name) : placeholderCount name = 0 := by
  cases column with
  | id => decide
  | listed known => exact placeholderCount_eq_zero.2 (unmarked name known)

/-- A list of columns binds nothing. -/
theorem placeholderCount_names {names : List String} (unmarked : Unmarked columns)
    (known : ∀ name ∈ names, Column columns name) :
    placeholderCount (String.intercalate ", " names) = 0 := by
  have each : ∀ name ∈ names, placeholderCount name = 0 :=
    fun name member => placeholderCount_column unmarked (known name member)
  rw [placeholderCount_intercalate each, Nat.mul_zero]

/-- A list of assignments binds one value for each column. -/
theorem placeholderCount_assignments {names : List String} (unmarked : Unmarked columns)
    (known : ∀ name ∈ names, Column columns name) :
    placeholderCount (String.intercalate ", " (names.map fun name => name ++ "=?")) =
      names.length := by
  have mark : placeholderCount "=?" = 1 := by decide
  have each : ∀ text ∈ names.map fun name => name ++ "=?", placeholderCount text = 1 := by
    intro text member
    rcases List.mem_map.1 member with ⟨name, inside, rfl⟩
    simp [mark, placeholderCount_column unmarked (known name inside)]
  rw [placeholderCount_intercalate each, List.length_map, Nat.mul_one]

theorem placeholderCount_blanks {text : String} (blanks : Blanks text) :
    placeholderCount text = 0 := by
  refine placeholderCount_eq_zero.2 fun member => ?_
  have blank := blanks '?' member
  revert blank
  decide

theorem placeholderCount_direction {text : String} (known : Direction text) :
    placeholderCount text = 0 := by
  refine placeholderCount_eq_zero.2 fun member => ?_
  have lowered : '?' ∈ text.toList.map Char.toLower :=
    List.mem_map.2 ⟨'?', member, by decide⟩
  rcases List.mem_cons.1 known with same | known
  · rw [same] at lowered
    revert lowered
    decide
  · rw [List.mem_singleton.1 known] at lowered
    revert lowered
    decide

theorem placeholderCount_orderPart {text : String} (unmarked : Unmarked columns)
    (part : OrderPart columns text) : placeholderCount text = 0 := by
  cases part with
  | plain before column behind =>
    simp [placeholderCount_blanks before, placeholderCount_blanks behind,
      placeholderCount_column unmarked column]
  | directed before column apart between known behind =>
    simp [placeholderCount_blanks before, placeholderCount_blanks behind,
      placeholderCount_blanks between, placeholderCount_direction known,
      placeholderCount_column unmarked column]

/-- An order binds nothing. -/
theorem placeholderCount_order {text : String} (unmarked : Unmarked columns)
    (order : Order columns text) : placeholderCount text = 0 := by
  have comma : placeholderCount "," = 0 := by decide
  induction order with
  | one single => exact placeholderCount_orderPart unmarked single
  | more first _ step => simp [placeholderCount_orderPart unmarked first, comma, step]

theorem placeholderCount_decimal (value : Nat) : placeholderCount (toString value) = 0 := by
  refine placeholderCount_eq_zero.2 fun member => ?_
  have inside : '?' ∈ Nat.toDigits 10 value := by
    simpa [Nat.toString_eq_ofList_toDigits] using member
  have digit := Nat.isDigit_of_mem_toDigits (by decide) (by decide) inside
  revert digit
  decide

theorem placeholderCount_windowClause (filters : FilterSet) :
    placeholderCount filters.windowClause = 0 := by
  have word : placeholderCount " LIMIT " = 0 := by decide
  have separator : placeholderCount ", " = 0 := by decide
  unfold FilterSet.windowClause
  split
  · decide
  · simp only [placeholderCount_append, placeholderCount_decimal, word, separator]

theorem placeholderCount_orderClause {filters : FilterSet} (unmarked : Unmarked columns)
    (accepted : ∀ order ∈ filters.orderBy, Order columns order) :
    placeholderCount filters.orderClause = 0 := by
  have word : placeholderCount " ORDER BY " = 0 := by decide
  unfold FilterSet.orderClause
  split
  · rename_i order given
    simp [word, placeholderCount_order unmarked (accepted order (by simp [given]))]
  · decide

theorem placeholderCount_term {condition : Condition} (unmarked : Unmarked columns)
    (known : condition.column ∈ columns) : placeholderCount condition.term = 1 := by
  have column := placeholderCount_column unmarked (Column.listed known)
  have sign : placeholderCount condition.comparison.symbol = 0 := by
    cases condition.comparison <;> decide
  have mark : placeholderCount "?" = 1 := by decide
  simp [Condition.term, column, sign, mark]

/-- A clause of conditions has one placeholder for each of them. -/
theorem placeholderCount_clause {conditions : List Condition} (unmarked : Unmarked columns)
    (known : ∀ condition ∈ conditions, condition.column ∈ columns) :
    placeholderCount (Condition.clause conditions) = conditions.length := by
  have space : placeholderCount " " = 0 := by decide
  have word : placeholderCount " WHERE " = 0 := by decide
  have joined : ∀ others : List Condition,
      (∀ condition ∈ others, condition.column ∈ columns) →
        placeholderCount (String.join (others.map Condition.joinedTerm)) = others.length := by
    intro others
    induction others with
    | nil => simp [placeholderCount]
    | cons condition others step =>
      intro known
      have first := placeholderCount_term unmarked (known condition List.mem_cons_self)
      have rest := step fun other member => known other (List.mem_cons_of_mem _ member)
      have conjunction : placeholderCount condition.conjunction.word = 0 := by
        cases condition.conjunction <;> decide
      simp only [List.map_cons, String.join_cons, placeholderCount_append, rest,
        Condition.joinedTerm, space, conjunction, first, List.length_cons]
      omega
  cases conditions with
  | nil => rfl
  | cons first others =>
    have one := placeholderCount_term unmarked (known first List.mem_cons_self)
    have rest := joined others fun other member => known other (List.mem_cons_of_mem _ member)
    simp only [Condition.clause, placeholderCount_append, word, one, rest, List.length_cons]
    omega

/-! ## Statements of the grammar -/

/-- The text of a statement is derived, and each of its placeholders is bound. -/
structure Fits (Derived : String → Prop) (columns : List String) (sql : Sql) : Prop where
  derived : Derived sql.query
  bound : Unmarked columns → placeholderCount sql.query = sql.params.length

end Grammar

end TableApi
