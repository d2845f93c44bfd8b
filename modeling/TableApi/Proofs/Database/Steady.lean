import TableApi.Access.Token
import TableApi.Database.Memory.Database
import TableApi.Proofs.Effect.Action

/-!
# Databases that only change when they are told to

A database is steady when a question leaves its state as it was, and so does a change that is
refused.  The database in memory is steady whatever answers and faults are set up.  A token store
that only reads leaves the state alone as well, which both token stores do over a steady database.
-/

namespace TableApi

/-- Whether the text of a statement starts with a word that changes rows. -/
def Sql.isChange (sql : Sql) : Bool :=
  ["INSERT", "UPDATE", "DELETE"].any fun word => word.toList.isPrefixOf sql.query.toList

/-- A text that differs early enough from the words that change rows starts with none of them. -/
theorem Sql.isChange_append {lead : String} (rest : String) (params : List Json)
    (apart : ∀ word ∈ ["INSERT", "UPDATE", "DELETE"],
      ¬word.toList <+: lead.toList ∧ ¬lead.toList <+: word.toList) :
    (⟨lead ++ rest, params⟩ : Sql).isChange = false := by
  simp only [isChange, String.toList_append, List.any_eq_false, List.isPrefixOf_iff_prefix]
  intro word member starts
  rcases List.prefix_or_prefix_of_prefix starts (List.prefix_append _ _) with first | second
  · exact (apart word member).1 first
  · exact (apart word member).2 second

/-- The first letter may be enough to tell. -/
theorem Sql.isChange_of_head {lead : String} (rest : String) (params : List Json)
    (starts : lead.toList.head? = some 'S') :
    (⟨lead ++ rest, params⟩ : Sql).isChange = false := by
  cases text : lead.toList with
  | nil => simp [text] at starts
  | cons first others =>
    have first_eq : first = 'S' := by simpa [text] using starts
    apply isChange_append
    rw [text, first_eq]
    simp

/-- The statements that a database was told to carry out as changes, in order. -/
def executed (events : List Event) : List Sql :=
  events.filterMap fun
    | .database (.execute sql) => some sql
    | _ => none

@[simp]
theorem executed_nil : executed [] = [] := rfl

@[simp]
theorem executed_append (first second : List Event) :
    executed (first ++ second) = executed first ++ executed second := by
  simp [executed]

@[simp]
theorem executed_map_log (entries : List LogEntry) : executed (entries.map Event.log) = [] := by
  induction entries with
  | nil => rfl
  | cons entry entries step => exact step

theorem executed_prefix {first second : List Event} (leads : first <+: second) :
    executed first <+: executed second :=
  leads.filterMap _

/-- A log entry carries out nothing. -/
theorem executed_effects (events : List Event) : executed (effects events) = executed events := by
  induction events with
  | nil => rfl
  | cons event events step =>
    cases event with
    | log entry => simpa [executed, Event.isEffect] using step
    | database call => cases call <;> simpa [executed, Event.isEffect] using step
    | lookup token queries => simpa [executed, Event.isEffect] using step
    | hook name payload => simpa [executed, Event.isEffect] using step

/-- Questions and refused changes leave the state of a database as it was. -/
structure Database.Steady {σ : Type} (database : Database σ) : Prop where
  listTables : ∀ state, (database.listTables state).state = state
  describeTable : ∀ table state, (database.describeTable table state).state = state
  fetchAll : ∀ sql state, (database.fetchAll sql state).state = state
  execute : ∀ sql state error, (database.execute sql state).result = .error error →
    (database.execute sql state).state = state

/-- The database in memory is steady, whatever is set up. -/
theorem Memory.Setup.steady (setup : Memory.Setup) : setup.database.Steady where
  listTables _ := rfl
  describeTable _ _ := rfl
  fetchAll _ _ := rfl
  execute sql tables error failed := by
    simp only [Memory.Setup.database] at failed ⊢
    cases ended : setup.execute tables sql with
    | ok receipt =>
      rw [ended] at failed
      cases failed
    | error cause => rfl

/-- A token store that leaves the state as it was, and sends no statement that changes rows. -/
structure TokenStore.ReadOnly {σ : Type} (store : TokenStore σ) : Prop where
  keeps : ∀ token state, (store.lookup token state).reply.state = state
  asks : ∀ token state, ∀ sql ∈ (store.lookup token state).queries, sql.isChange = false

theorem TokenStore.ofKnown_readOnly {σ : Type} (known : Named Caller) :
    (TokenStore.ofKnown known : TokenStore σ).ReadOnly where
  keeps _ _ := rfl
  asks token state sql member := by
    simp [TokenStore.ofKnown] at member

theorem TokenStore.ofDatabase_readOnly {σ : Type} {database : Database σ}
    (steady : database.Steady) (now : Int) : (TokenStore.ofDatabase database now).ReadOnly where
  keeps token state := steady.fetchAll (TokenStore.query token) state
  asks token state sql member := by
    rw [List.mem_singleton.1 member]
    unfold TokenStore.query
    simp only [String.append_assoc]
    exact Sql.isChange_of_head _ _ rfl

/-! ## Reading -/

namespace Action

/-- Nothing was carried out, and the state is what it was. -/
def Law.reading {σ : Type} : Law σ where
  Holds before events after := after = before ∧ executed events = []
  nothing _ := ⟨rfl, rfl⟩
  sequence := by
    rintro before middle after first second ⟨rfl, none⟩ ⟨rfl, still⟩
    exact ⟨rfl, by simp [none, still]⟩

/-- Every run of an action only reads. -/
def Reads {σ ε α : Type} (action : Action σ ε α) : Prop :=
  Obeys Law.reading action

variable {σ ε α : Type}

theorem reads_log (entry : LogEntry) : Reads (log entry : Action σ ε Unit) :=
  obeys_emit fun _ => ⟨rfl, rfl⟩

theorem reads_emit_map_log (entries : List LogEntry) :
    Reads (emit (entries.map Event.log) : Action σ ε Unit) :=
  obeys_emit fun _ => ⟨rfl, executed_map_log entries⟩

theorem reads_of_declines {action : Action σ ε α} (declines : Declines action) : Reads action :=
  declines.obeys fun entries _ => ⟨rfl, executed_map_log entries⟩

end Action

/-- The rows of a query are read. -/
theorem Database.Steady.rows {σ : Type} {database : Database σ} (steady : database.Steady)
    (sql : Sql) : (database.rows sql).Reads := by
  intro state
  refine ⟨steady.fetchAll sql state, ?_⟩
  exact executed_map_log (database.fetchAll sql state).entries

end TableApi
