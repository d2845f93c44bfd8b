import TableApi.Proofs.Database.Steady
import TableApi.Proofs.Effect.Result
import TableApi.Proofs.Sql.Grammar
import TableApi.Proofs.Text.Words
import TableApi.Table.Schema

/-!
# What the gate of a table lets through

A schema comes from two answers of the database: the table is among the names that it listed, and
the columns are the ones that it gave for that table.  Names and order clauses that a schema
accepts consist of those columns.
-/

namespace TableApi.Schema

variable {σ : Type} {schema : Schema}

/-! ## Columns -/

@[simp]
theorem hasColumn_iff {name : String} : schema.hasColumn name = true ↔ name ∈ schema.columns := by
  simp [hasColumn]

theorem column_eq_ok {name found : String} (accepted : schema.column name = .ok found) :
    found = name ∧ name ∈ schema.columns := by
  unfold column at accepted
  split at accepted
  · rename_i known
    exact ⟨(Except.ok.inj accepted).symm, hasColumn_iff.1 known⟩
  · simp at accepted

/-- The fold that gathers unknown names keeps what it has gathered. -/
private theorem mem_gather {gathered names : List String} {name : String}
    (member : name ∈ gathered) :
    name ∈ names.foldl
      (fun unknown name =>
        if schema.hasColumn name || unknown.contains name then unknown else unknown ++ [name])
      gathered := by
  induction names generalizing gathered with
  | nil => exact member
  | cons other names step =>
    rw [List.foldl_cons]
    split
    · exact step member
    · exact step (List.mem_append_left _ member)

/-- The fold that gathers unknown names passes over no unknown name. -/
private theorem gather_complete {gathered names : List String} {name : String}
    (member : name ∈ names) (unknown : name ∉ schema.columns) :
    name ∈ names.foldl
      (fun unknown name =>
        if schema.hasColumn name || unknown.contains name then unknown else unknown ++ [name])
      gathered := by
  induction names generalizing gathered with
  | nil => simp at member
  | cons other names step =>
    rw [List.foldl_cons]
    rcases List.mem_cons.1 member with rfl | later
    · split
      · rename_i seen
        have inside : name ∈ gathered := by simpa [unknown] using seen
        exact mem_gather inside
      · exact mem_gather (List.mem_append_right _ List.mem_cons_self)
    · exact step later

theorem mem_columns_of_requireColumns {names : List String}
    (accepted : schema.requireColumns names = .ok ()) :
    ∀ name ∈ names, name ∈ schema.columns := by
  intro name member
  by_cases known : name ∈ schema.columns
  · exact known
  · have found : name ∈ schema.unknownColumns names := gather_complete member known
    unfold requireColumns at accepted
    split at accepted
    · rename_i none
      rw [none] at found
      simp at found
    · simp at accepted

/-! ## Order clauses -/

theorem isDirection_iff {word : List Char} :
    isDirection word = true ↔ Grammar.Direction (String.ofList word) := by
  have ascending : "asc".toList.map Char.toLower = "asc".toList := by decide
  have descending : "desc".toList.map Char.toLower = "desc".toList := by decide
  simp only [isDirection, Directive.sameWord, ascending, descending, Bool.or_eq_true, beq_iff_eq,
    Grammar.Direction, String.toList_ofList, List.mem_cons, List.not_mem_nil, or_false]

theorem blanks_ofList {text : List Char}
    (blank : ∀ character ∈ text, Text.isBlank character = true) :
    Grammar.Blanks (String.ofList text) := by
  simpa [Grammar.Blanks] using blank

/-- An accepted part of an order clause is a column with at most a direction behind it. -/
theorem orderPart_of_checkOrderPart {clause part : List Char}
    (accepted : schema.checkOrderPart clause part = .ok ()) :
    Grammar.OrderPart schema.columns (String.ofList part) := by
  unfold checkOrderPart at accepted
  split at accepted
  · simp at accepted
  · rename_i name others found
    obtain ⟨_, known, directed⟩ := Result.ok_of_bind_ok accepted
    have listed := (column_eq_ok known).2
    rcases Text.words_eq_cons found with ⟨lead, after, rfl, before, next, further⟩
    split at directed
    · rw [String.ofList_append, String.ofList_append]
      exact Grammar.OrderPart.plain (blanks_ofList before) (Grammar.Column.listed listed)
        (blanks_ofList (Text.words_eq_nil further))
    · rename_i direction
      split at directed
      · rename_i directs
        rcases Text.words_eq_cons further with ⟨gap, trail, rfl, between, _, last⟩
        have word : direction ∈ Text.words (gap ++ direction ++ trail) := by
          rw [further]
          exact List.mem_singleton_self _
        have apart : gap ≠ [] := by
          -- What follows the column starts with a blank, and a word never does.
          rintro rfl
          rcases Text.mem_words word with ⟨filled, plain⟩
          cases direction with
          | nil => exact filled rfl
          | cons first rest =>
            have blank := next first (by simp)
            rw [plain first List.mem_cons_self] at blank
            simp at blank
        have parts : String.ofList (lead ++ name ++ (gap ++ direction ++ trail)) =
            String.ofList lead ++ String.ofList name ++ String.ofList gap ++
              String.ofList direction ++ String.ofList trail := by
          simp [String.append_assoc]
        rw [parts]
        exact Grammar.OrderPart.directed (blanks_ofList before) (Grammar.Column.listed listed)
          (by simpa using apart) (blanks_ofList between) (isDirection_iff.1 directs)
          (blanks_ofList (Text.words_eq_nil last))
      · simp at directed
    · simp at directed

theorem order_of_checkOrderParts {clause : List Char} {parts : List (List Char)}
    (filled : parts ≠ []) (accepted : schema.checkOrderParts clause parts = .ok ()) :
    Grammar.Order schema.columns (String.ofList (Text.joinWith [','] parts)) := by
  induction parts with
  | nil => exact absurd rfl filled
  | cons part parts step =>
    unfold checkOrderParts at accepted
    obtain ⟨_, checked, others⟩ := Result.ok_of_bind_ok accepted
    have first := orderPart_of_checkOrderPart checked
    cases parts with
    | nil => exact Grammar.Order.one first
    | cons other parts =>
      have rest := step (by simp) others
      rw [Text.joinWith_cons _ _ (by simp), String.ofList_append, String.ofList_append]
      exact Grammar.Order.more first rest

/-- An accepted order clause is a list of columns, each with at most a direction behind it. -/
theorem order_of_orderBy {text clause : String} (accepted : schema.orderBy text = .ok clause) :
    Grammar.Order schema.columns clause := by
  unfold orderBy at accepted
  obtain ⟨_, checked, given⟩ := Result.ok_of_bind_ok accepted
  have order := order_of_checkOrderParts (Text.splitAtChar_ne_nil _ _) checked
  rw [Text.joinWith_splitAtChar] at order
  rw [← Except.ok.inj given]
  exact order

/-! ## The gate -/

/--
A database listed a table, and then these columns for it: the two answers with
which the gate of a table is passed.
-/
structure Listed (database : Database σ) (state : σ) (table : String) (columns : List String) :
    Prop where
  tableListed : ∃ tables, (database.listTables state).result = .ok tables ∧ table ∈ tables
  columnsGiven :
    (database.describeTable table (database.listTables state).state).result = .ok columns

theorem load_of_refused (database : Database σ) {name : String} (state : σ)
    (refused : isIdentifier name = false) :
    load database name state = ⟨.error (.unknownTable name), [], state⟩ := by
  simp [load, refused]

/-- A list of the tables that cannot be had ends the look-up. -/
theorem load_of_unlisted {database : Database σ} {name : String} {state : σ}
    {error : DatabaseError} (identifier : isIdentifier name = true)
    (failed : (database.listTables state).result = .error error) :
    load database name state =
      ⟨.error (.database error), (database.tables state).events,
        (database.listTables state).state⟩ := by
  simp [load, identifier, Bind.bind, Action.bind, Action.rescue, Database.tables, failed]

/-- A table that is not among the names is not asked for its columns. -/
theorem load_of_unknown {database : Database σ} {name : String} {state : σ}
    {tables : List String} (identifier : isIdentifier name = true)
    (listed : (database.listTables state).result = .ok tables) (unknown : name ∉ tables) :
    load database name state =
      ⟨.error (.unknownTable name),
        (database.tables state).events ++
          [.log (.plain .debug ("Rejected unknown table '" ++ name ++ "'"))],
        (database.listTables state).state⟩ := by
  simp [load, identifier, Bind.bind, Action.bind, Action.rescue, Database.tables, listed, unknown]

/-- The columns of a table among the names are the ones that the database gives. -/
theorem load_of_known {database : Database σ} {name : String} {state : σ}
    {tables : List String} (identifier : isIdentifier name = true)
    (listed : (database.listTables state).result = .ok tables) (known : name ∈ tables) :
    load database name state =
      ⟨((database.describeTable name (database.listTables state).state).result.mapError
          SchemaError.database).map fun columns => ⟨name, columns⟩,
        (database.tables state).events ++
          (database.columns name (database.listTables state).state).events,
        (database.describeTable name (database.listTables state).state).state⟩ := by
  cases given : (database.describeTable name (database.listTables state).state).result <;>
    simp [load, identifier, Bind.bind, Action.bind, Action.rescue, Database.tables,
      Database.columns, listed, known, given, Except.map]

/-- A schema is the routed table, which is an identifier, with the columns that were given. -/
theorem of_load {database : Database σ} {name : String} {state : σ}
    (loaded : (load database name state).result = .ok schema) :
    isIdentifier name = true ∧ schema.name = name ∧
      Listed database state name schema.columns := by
  by_cases identifier : isIdentifier name = true
  · cases listed : (database.listTables state).result with
    | error error => simp [load_of_unlisted identifier listed] at loaded
    | ok tables =>
      by_cases known : name ∈ tables
      · rw [load_of_known identifier listed known] at loaded
        cases given : (database.describeTable name (database.listTables state).state).result with
        | error error => simp [given, Except.map] at loaded
        | ok columns =>
          have made : (⟨name, columns⟩ : Schema) = schema := by
            simpa [given, Except.map] using loaded
          subst made
          exact ⟨identifier, rfl, ⟨tables, listed, known⟩, given⟩
      · simp [load_of_unknown identifier listed known] at loaded
  · simp [load_of_refused database state (by simpa using identifier)] at loaded

/-- Looking a table up makes at most its two calls, and in their order. -/
theorem effects_load (database : Database σ) (name : String) (state : σ) :
    effects (load database name state).events <+:
      [.database .listTables, .database (.describeTable name)] := by
  by_cases identifier : isIdentifier name = true
  · cases listed : (database.listTables state).result with
    | error error =>
      rw [load_of_unlisted identifier listed]
      simp [Database.tables, Event.isEffect]
    | ok tables =>
      by_cases known : name ∈ tables
      · rw [load_of_known identifier listed known]
        simp [Database.tables, Database.columns, Event.isEffect]
      · rw [load_of_unknown identifier listed known]
        simp [Database.tables, Event.isEffect]
  · simp [load_of_refused database state (by simpa using identifier)]

/-- A table that is found was asked for with both calls. -/
theorem effects_of_load {database : Database σ} {name : String} {state : σ}
    (loaded : (load database name state).result = .ok schema) :
    effects (load database name state).events =
      [.database .listTables, .database (.describeTable name)] := by
  rcases of_load loaded with ⟨identifier, _, ⟨tables, listed, known⟩, _⟩
  rw [load_of_known identifier listed known]
  simp [Database.tables, Database.columns, Event.isEffect]

/-- Looking a table up leaves a steady database as it was. -/
theorem load_state {database : Database σ} (steady : database.Steady) (name : String)
    (state : σ) : (load database name state).state = state := by
  by_cases identifier : isIdentifier name = true
  · cases listed : (database.listTables state).result with
    | error error =>
      rw [load_of_unlisted identifier listed]
      exact steady.listTables state
    | ok tables =>
      by_cases known : name ∈ tables
      · rw [load_of_known identifier listed known]
        exact (steady.describeTable name _).trans (steady.listTables state)
      · rw [load_of_unknown identifier listed known]
        exact steady.listTables state
  · rw [load_of_refused database state (by simpa using identifier)]

end TableApi.Schema
