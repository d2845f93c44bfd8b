import TableApi.Database.Basic
import TableApi.Hook.Payload

/-!
# Actions and their events

Handling a request touches the outside world: the database, the token store, the hooks and the
log.  An action is a function from the state of the world to a result, the list of events it
caused and the next state.  Actions compose by appending their events, so what a request did can
be read off the outcome, in order.
-/

namespace TableApi

/-- One thing that an action did to the outside world. -/
inductive Event where
  | log (entry : LogEntry)
  | database (call : DatabaseCall)
  /-- A token was looked up, with these queries. -/
  | lookup (token : String) (queries : List Sql)
  | hook (name : String) (payload : HookPayload)
deriving DecidableEq, Repr

namespace Event

/-- The statements that an event sent to a database. -/
def statements : Event → List Sql
  | log _ => []
  | database call => call.statement?.toList
  | lookup _ queries => queries
  | hook _ _ => []

/-- The entry that an event added to the log. -/
def entry? : Event → Option LogEntry
  | log entry => some entry
  | _ => none

def hookCall? : Event → Option (String × HookPayload)
  | hook name payload => some (name, payload)
  | _ => none

end Event

/-- What an action returned, did and left behind. -/
structure Outcome (σ ε α : Type) where
  result : Except ε α
  events : List Event
  state : σ

namespace Outcome

variable {σ ε α : Type}

/-- Every statement sent, in order. -/
def statements (outcome : Outcome σ ε α) : List Sql :=
  outcome.events.flatMap Event.statements

def entries (outcome : Outcome σ ε α) : List LogEntry :=
  outcome.events.filterMap Event.entry?

/-- Every hook called, in order. -/
def hookCalls (outcome : Outcome σ ε α) : List (String × HookPayload) :=
  outcome.events.filterMap Event.hookCall?

end Outcome

/-- A computation that may touch the outside world and may fail. -/
def Action (σ ε α : Type) : Type :=
  σ → Outcome σ ε α

namespace Action

variable {σ ε δ α β : Type}

protected def pure (value : α) : Action σ ε α :=
  fun state => ⟨.ok value, [], state⟩

/-- Runs an action and, when it succeeds, the one that its value gives. -/
protected def bind (action : Action σ ε α) (next : α → Action σ ε β) : Action σ ε β :=
  fun state =>
    let first := action state
    match first.result with
    | .error error => ⟨.error error, first.events, first.state⟩
    | .ok value =>
        let second := next value first.state
        ⟨second.result, first.events ++ second.events, second.state⟩

instance : Monad (Action σ ε) where
  pure := Action.pure
  bind := Action.bind

/-- The action that only fails. -/
def fail (error : ε) : Action σ ε α :=
  fun state => ⟨.error error, [], state⟩

/-- The action that returns or fails as a result says. -/
def ofExcept (result : Except ε α) : Action σ ε α :=
  fun state => ⟨result, [], state⟩

/-- The action that causes some events and no more. -/
def emit (events : List Event) : Action σ ε Unit :=
  fun state => ⟨.ok (), events, state⟩

def log (entry : LogEntry) : Action σ ε Unit :=
  emit [.log entry]

/-- Runs an action and, when it fails, the one that its error gives. -/
def rescue (action : Action σ ε α) (recover : ε → Action σ δ α) : Action σ δ α :=
  fun state =>
    let first := action state
    match first.result with
    | .ok value => ⟨.ok value, first.events, first.state⟩
    | .error error =>
        let second := recover error first.state
        ⟨second.result, first.events ++ second.events, second.state⟩

/-- Runs an action and returns its result, whatever it is. -/
def attempt (action : Action σ ε α) : Action σ δ (Except ε α) :=
  fun state =>
    let first := action state
    ⟨.ok first.result, first.events, first.state⟩

/-- Causes an event, then the entries that the reply holds. -/
def call (event : Event) (reply : σ → Reply σ ε α) : Action σ ε α :=
  fun state =>
    let answer := reply state
    ⟨answer.result, event :: answer.entries.map Event.log, answer.state⟩

@[simp]
theorem pure_apply (value : α) (state : σ) :
    (pure value : Action σ ε α) state = ⟨.ok value, [], state⟩ := rfl

theorem bind_of_ok {action : Action σ ε α} {next : α → Action σ ε β} {state : σ} {value : α}
    (success : (action state).result = .ok value) :
    (action >>= next) state =
      ⟨(next value (action state).state).result,
        (action state).events ++ (next value (action state).state).events,
        (next value (action state).state).state⟩ := by
  show Action.bind action next state = _
  simp [Action.bind, success]

theorem bind_of_error {action : Action σ ε α} {next : α → Action σ ε β} {state : σ} {error : ε}
    (failure : (action state).result = .error error) :
    (action >>= next) state = ⟨.error error, (action state).events, (action state).state⟩ := by
  show Action.bind action next state = _
  simp [Action.bind, failure]

end Action

namespace Database

variable {σ : Type}

/-- Asks a database for the names of its tables. -/
def tables (database : Database σ) : Action σ DatabaseError (List String) :=
  Action.call (.database .listTables) database.listTables

/-- Asks a database for the columns of a table. -/
def columns (database : Database σ) (table : String) : Action σ DatabaseError (List String) :=
  Action.call (.database (.describeTable table)) (database.describeTable table)

/-- Asks a database for the rows of a query. -/
def rows (database : Database σ) (sql : Sql) : Action σ DatabaseError (List Row) :=
  Action.call (.database (.fetchAll sql)) (database.fetchAll sql)

def change (database : Database σ) (sql : Sql) : Action σ DatabaseError Receipt :=
  Action.call (.database (.execute sql)) (database.execute sql)

/-- Asks a database for a sign of life. -/
def check (database : Database σ) : Action σ DatabaseError Unit :=
  Action.call (.database .ping) database.ping

end Database

end TableApi
