import TableApi.Proofs.Request.Handling

/-!
# The statements of a request

Whatever a request asks for and whatever its hooks hand back, the statements that its handling
sends are statements of the grammar, for the table of its route and the columns that the database
gave for that table in this very request.
-/

namespace TableApi

open Grammar

/-- A table that the database listed, named by an identifier, and the columns that it gave. -/
structure Gated {σ : Type} (database : Database σ) (state : σ) (table : String)
    (columns : List String) : Prop where
  filled : 1 ≤ table.toList.length
  short : table.toList.length ≤ 64
  plain : ∀ character ∈ table.toList, character.isAlphanum = true ∨ character = '_'
  listed : Schema.Listed database state table columns

theorem gated_of_identifier {σ : Type} {database : Database σ} {state : σ} {table : String}
    {columns : List String} (identifier : isIdentifier table = true)
    (listed : Schema.Listed database state table columns) :
    Gated database state table columns := by
  simp only [isIdentifier, Bool.and_eq_true, List.all_eq_true, decide_eq_true_eq] at identifier
  rcases identifier with ⟨⟨filled, short⟩, plain⟩
  constructor
  · cases text : table.toList with
    | nil => simp [String.toList_eq_nil_iff.1 text] at filled
    | cons first others => simp
  · exact short
  · intro character member
    simpa [isIdentifierChar] using plain character member
  · exact listed

namespace Service

variable {σ : Type} {service : Service σ} {context : Context} {state : σ}

/-- Everything that the handling of a request may do. -/
inductive Does (service : Service σ) (context : Context) (state : σ) : Event → Prop
  | log (entry : LogEntry) : Does service context state (.log entry)
  | hook (name : String) (payload : HookPayload) : Does service context state (.hook name payload)
  | listTables : Does service context state (.database .listTables)
  | describeTable : Does service context state (.database (.describeTable context.table))
  | lookup (token : String) (before : σ) :
      Does service context state (.lookup token (service.tokens.lookup token before).queries)
  | query {columns : List String} {sql : Sql}
      (gated : Gated service.database state context.table columns)
      (fits : Fits (Query context.table columns) columns sql) :
      Does service context state (.database (.fetchAll sql))
  | change {columns : List String} {sql : Sql}
      (gated : Gated service.database state context.table columns)
      (fits : Fits (Change context.table columns) columns sql) :
      Does service context state (.database (.execute sql))

/-! ## What each stage does -/

/-- Events may be judged by their effects. -/
theorem does_of_effects {events : List Event}
    (each : ∀ effect ∈ effects events, Does service context state effect) :
    ∀ event ∈ events, Does service context state event := by
  intro event member
  cases event with
  | log entry => exact Does.log entry
  | _ => exact each _ (mem_effects.2 ⟨member, rfl⟩)

theorem described_does (before : σ) :
    ∀ event ∈ (service.described context before).events, Does service context state event :=
  does_of_effects (by simp [effects_described])

theorem verbChecked_does (descriptor : Descriptor) (before : σ) :
    ∀ event ∈ (verbChecked context descriptor before).events, Does service context state event :=
  does_of_effects (by simp [effects_verbChecked])

theorem schema_does (before : σ) :
    ∀ event ∈ (service.schema context before).events, Does service context state event := by
  apply does_of_effects
  intro effect member
  rw [effects_schema] at member
  have call := (Schema.effects_load service.database context.table before).subset member
  rcases List.mem_cons.1 call with rfl | call
  · exact Does.listTables
  · rw [List.mem_singleton.1 call]
    exact Does.describeTable

theorem gated_of_schema {schema : Schema}
    (passed : (service.schema context state).result = .ok schema) :
    schema.name = context.table ∧ placeholderCount schema.name = 0 ∧
      Gated service.database state context.table schema.columns := by
  rcases Schema.of_load (service.loaded_of_schema context passed) with ⟨identifier, named, listed⟩
  refine ⟨named, ?_, gated_of_identifier identifier listed⟩
  rw [named]
  exact placeholderCount_identifier identifier

/-- Deciding about a request looks a token up, and perhaps the record of the ownership rule. -/
theorem does_of_inquires {descriptor : Descriptor} {schema : Schema} {before after : σ}
    {events : List Event} (passed : (service.schema context state).result = .ok schema)
    (inquires :
      service.guard.Inquires descriptor context.token schema context before events after) :
    ∀ event ∈ events, Does service context state event := by
  rcases gated_of_schema passed with ⟨named, plain, gated⟩
  intro event member
  cases inquires with
  | nothing => simp at member
  | @token _ presented =>
    rw [List.mem_singleton.1 member]
    exact Does.lookup presented before
  | @owner _ presented column value _ _ _ _ _ known =>
    rcases List.mem_cons.1 member with rfl | member
    · exact Does.lookup presented before
    · rw [List.mem_singleton.1 member]
      have fits := Schema.fits_find plain (.string value) (Column.listed known)
      rw [named] at fits
      rw [named]
      exact Does.query gated fits

theorem authorize_does {schema : Schema} (descriptor : Descriptor) (before : σ)
    (passed : (service.schema context state).result = .ok schema) :
    ∀ event ∈ (service.authorize descriptor schema context before).events,
      Does service context state event :=
  does_of_effects
    (does_of_inquires passed (service.authorize_inquires context descriptor schema before))

theorem prepare_does (descriptor : Descriptor) (data : HookInput) (before : σ) :
    ∀ event ∈ (service.prepare descriptor data before).events,
      Does service context state event := by
  apply does_of_effects
  rcases service.effects_prepare descriptor data before with quiet | ⟨name, called⟩
  · simp [quiet]
  · intro effect member
    rw [called] at member
    rw [List.mem_singleton.1 member]
    exact Does.hook name _

theorem conclude_does (descriptor : Descriptor) (data : HookOutput) (before : σ) :
    ∀ event ∈ (service.conclude descriptor data before).events,
      Does service context state event := by
  apply does_of_effects
  rcases service.effects_conclude descriptor data before with quiet | ⟨name, called⟩
  · simp [quiet]
  · intro effect member
    rw [called] at member
    rw [List.mem_singleton.1 member]
    exact Does.hook name _

theorem run_does {execution : Execution σ} (before : σ)
    (passed : (service.schema context state).result = .ok execution.schema) :
    ∀ event ∈ (execution.run before).events, Does service context state event := by
  rcases gated_of_schema passed with ⟨named, plain, gated⟩
  intro event member
  have admissible := Execution.run_speaks plain before event member
  rw [named] at admissible
  cases event with
  | log entry => exact Does.log entry
  | lookup token queries => exact admissible.elim
  | hook name payload => exact admissible.elim
  | database call =>
    cases call with
    | fetchAll sql => exact Does.query gated admissible
    | execute sql => exact Does.change gated admissible
    | listTables => exact admissible.elim
    | describeTable table => exact admissible.elim
    | ping => exact admissible.elim

/-! ## All stages -/

/-- The handling of a request does nothing else. -/
theorem does_of_mem {event : Event} (member : event ∈ (service.handle context state).events) :
    Does service context state event := by
  rw [handle_eq_run] at member
  simp only [pipeline, Pipeline.run] at member
  rcases Action.mem_events_bind member with early | ⟨descriptor, found, member⟩
  · exact described_does _ event early
  rw [(of_described found).2] at member
  rcases Action.mem_events_bind member with early | ⟨_, agreed, member⟩
  · exact verbChecked_does _ _ event early
  rw [(of_verbChecked agreed).2] at member
  rcases Action.mem_events_bind member with early | ⟨schema, passed, member⟩
  · exact schema_does _ event early
  rcases Action.mem_events_bind member with early | ⟨token, _, member⟩
  · exact authorize_does _ _ passed event early
  rcases Action.mem_events_bind member with early | ⟨params, _, member⟩
  · simp at early
  rcases Action.mem_events_bind member with early | ⟨input, _, member⟩
  · exact prepare_does _ _ _ event early
  rcases Action.mem_events_bind member with early | ⟨body, _, member⟩
  · exact run_does _ passed event early
  rcases Action.mem_events_bind member with early | ⟨output, _, member⟩
  · exact conclude_does _ _ _ event early
  · simp at member

/--
Every statement that the handling of a request sends is a query or a change of
the grammar, for the table of its route and the columns that the database gave
for that table; and as many values are bound as it has placeholders.
-/
theorem handle_speaks (service : Service σ) (context : Context) (state : σ) (sql : Sql) :
    (Event.database (.fetchAll sql) ∈ (service.handle context state).events →
      ∃ columns, Gated service.database state context.table columns ∧
        Query context.table columns sql.query ∧
        (Unmarked columns → placeholderCount sql.query = sql.params.length)) ∧
    (Event.database (.execute sql) ∈ (service.handle context state).events →
      ∃ columns, Gated service.database state context.table columns ∧
        Change context.table columns sql.query ∧
        (Unmarked columns → placeholderCount sql.query = sql.params.length)) := by
  constructor
  · intro member
    cases does_of_mem member with
    | query gated fits => exact ⟨_, gated, fits.derived, fits.bound⟩
  · intro member
    cases does_of_mem member with
    | change gated fits => exact ⟨_, gated, fits.derived, fits.bound⟩

end Service

end TableApi
