import TableApi.Database.Remote.Session
import TableApi.Hook.Script
import TableApi.Proofs.Request.Likeness

/-!
# Tokens that are not told apart

A request for one token is handled with the same entries in the log as for another one, if the
token store gives the same answer for both, if they have one fingerprint, and if neither of them or
both are the bypass token.  This holds over every database that is indifferent to the look-up, as a
dialogue with a database server is, and with all hooks that decide nothing by the token, as scripted
hooks do not.
-/

namespace TableApi

open TableApi.Action Result

variable {σ ε α : Type} {States : σ → σ → Prop}

/-! ## What a database and a token store overlook -/

/-- Two replies that return and log the same. -/
structure Reply.Same (States : σ → σ → Prop) (first second : Reply σ ε α) : Prop where
  result : first.result = second.result
  entries : first.entries = second.entries
  states : States first.state second.state

/-- A database that answers and logs the same in two such states, as every one does in states that
are the same. -/
structure Database.Overlooks (database : Database σ) (States : σ → σ → Prop) : Prop where
  listTables : ∀ ⦃state other⦄, States state other →
    (database.listTables state).Same States (database.listTables other)
  describeTable : ∀ table ⦃state other⦄, States state other →
    (database.describeTable table state).Same States (database.describeTable table other)
  fetchAll : ∀ sql ⦃state other⦄, States state other →
    (database.fetchAll sql state).Same States (database.fetchAll sql other)
  execute : ∀ sql ⦃state other⦄, States state other →
    (database.execute sql state).Same States (database.execute sql other)

/-- A token store that gives the same answer for two tokens. -/
def TokenStore.Confuses (store : TokenStore σ) (States : σ → σ → Prop) (token other : String) :
    Prop :=
  ∀ ⦃state partner⦄, States state partner →
    (store.lookup token state).reply.Same States (store.lookup other partner).reply

/-! ## Dialogues with a server -/

namespace Session

/-- Two dialogues with the same answers to come, whatever was sent in them. -/
structure Abreast (first second : Session) : Prop where
  answers : first.answers = second.answers
  pace : first.pace = second.pace

variable {first second : Session}

/-- The answer to a statement does not depend on the statement. -/
theorem Abreast.ask (abreast : first.Abreast second) (sql other : Sql) :
    ∃ answer next after, first.ask sql = (answer, next) ∧ second.ask other = (answer, after) ∧
      next.Abreast after := by
  rcases first with ⟨answers, sent, pace⟩
  rcases second with ⟨others, asked, rest⟩
  rcases abreast with ⟨rfl, rfl⟩
  rcases answers with _ | ⟨answer, answers⟩
  · exact ⟨_, _, _, rfl, rfl, rfl, rfl⟩
  cases answer with
  | rows columns rows => exact ⟨_, _, _, rfl, rfl, rfl, rfl⟩
  | done receipt => exact ⟨_, _, _, rfl, rfl, rfl, rfl⟩
  | refused error => exact ⟨_, _, _, rfl, rfl, rfl, rfl⟩

theorem Abreast.askNames (abreast : first.Abreast second) (query : String) :
    (askNames query first).Same Abreast (askNames query second) := by
  rcases abreast.ask ⟨query, []⟩ ⟨query, []⟩ with ⟨answer, next, after, asked, also, states⟩
  simp only [Session.askNames, asked, also]
  exact ⟨rfl, rfl, states⟩

variable (observation : Observation)

/-- Of the values of a statement nothing but their number is logged. -/
theorem Abreast.fetchAll (abreast : first.Abreast second) {sql other : Sql}
    (queries : sql.query = other.query) (counts : sql.params.length = other.params.length) :
    ((database observation).fetchAll sql first).Same Abreast
      ((database observation).fetchAll other second) := by
  rcases abreast.ask sql other with ⟨answer, next, after, asked, also, states⟩
  simp only [database, asked, also]
  cases answer with
  | error error => exact ⟨rfl, rfl, states⟩
  | ok answer =>
    refine ⟨rfl, ?_, states⟩
    simp only [Observation.entries, queries, counts, abreast.pace]

theorem Abreast.execute (abreast : first.Abreast second) (sql : Sql) :
    ((database observation).execute sql first).Same Abreast
      ((database observation).execute sql second) := by
  rcases abreast.ask sql sql with ⟨answer, next, after, asked, also, states⟩
  simp only [database, asked, also]
  cases answer with
  | error error => exact ⟨rfl, rfl, states⟩
  | ok answer =>
    refine ⟨rfl, ?_, states⟩
    simp only [abreast.pace]

/-- A dialogue goes on without regard to what was sent in it. -/
theorem database_overlooks : (database observation).Overlooks Abreast where
  listTables _ _ abreast := abreast.askNames _
  describeTable _ _ _ abreast := abreast.askNames _
  fetchAll _ _ _ abreast := abreast.fetchAll observation rfl rfl
  execute sql _ _ abreast := abreast.execute observation sql

/-- A store that asks a server in a dialogue logs nothing of the token, so it tells two tokens apart
by the answers of the server only. -/
theorem tokens_confuse (now : Int) (token other : String) :
    (TokenStore.ofDatabase (database observation) now).Confuses Abreast token other := by
  intro state partner abreast
  have replies : ((database observation).fetchAll (TokenStore.query token) state).Same Abreast
      ((database observation).fetchAll (TokenStore.query other) partner) :=
    abreast.fetchAll observation rfl rfl
  refine ⟨?_, replies.entries, replies.states⟩
  simp only [TokenStore.ofDatabase, replies.result]

end Session

/-! ## Scripted hooks -/

section Scripts

variable {Tokens : Option String → Option String → Prop}

/-- Two payloads that are the same but for the token. -/
structure HookPayload.Follows (Tokens : Option String → Option String → Prop)
    (first second : HookPayload) : Prop where
  same : second = first.presenting second.token
  token : Tokens first.token second.token

theorem HookPayload.Follows.alike {first second : HookPayload}
    (follows : first.Follows Tokens second) : first.Alike Tokens second := by
  rcases follows with ⟨same, token⟩
  rw [same]
  cases first with
  | input data => exact .input ⟨rfl, rfl, token⟩
  | output data => exact .output ⟨rfl, rfl, token⟩

/-- A step replaces the token or hands it on, and does the rest without it. -/
theorem HookStep.run_follows (reflexive : ∀ token, Tokens token token) (step : HookStep)
    {first second : HookPayload} (follows : first.Follows Tokens second) :
    Result.Alike (· = ·) (HookPayload.Follows Tokens) (step.run first) (step.run second) := by
  rcases follows with ⟨same, token⟩
  rw [same]
  cases first with
  | input data =>
    cases step with
    | fail error => exact .error rfl
    | swap => exact .ok ⟨rfl, reflexive _⟩
    | setToken held => exact .ok ⟨rfl, reflexive _⟩
    | _ => exact .ok ⟨rfl, token⟩
  | output data =>
    cases step with
    | fail error => exact .error rfl
    | swap => exact .ok ⟨rfl, reflexive _⟩
    | setToken held => exact .ok ⟨rfl, reflexive _⟩
    | _ => exact .ok ⟨rfl, token⟩

theorem HookRegistry.discreet_empty : HookRegistry.empty.Discreet Tokens := by
  intro name hook found
  cases found

theorem HookRegistry.Discreet.register {registry : HookRegistry}
    (discreet : registry.Discreet Tokens) {hook : Hook} (added : Hook.Discreet Tokens hook)
    (name : String) : (registry.register name hook).Discreet Tokens := by
  intro asked found same
  rw [find?, HookRegistry.register] at same
  by_cases taken : normalize asked = normalize name
  · rw [taken, Named.get?_put_self] at same
    cases same
    exact added
  · rw [Named.get?_put_of_ne _ _ taken] at same
    exact discreet asked found same

theorem Hook.ofSteps_cons (step : HookStep) (steps : List HookStep) (payload : HookPayload) :
    Hook.ofSteps (step :: steps) payload = (step.run payload >>= Hook.ofSteps steps) :=
  List.foldlM_cons

theorem Hook.ofSteps_follows (reflexive : ∀ token, Tokens token token) (steps : List HookStep)
    {first second : HookPayload} (follows : first.Follows Tokens second) :
    Result.Alike (· = ·) (HookPayload.Follows Tokens) (Hook.ofSteps steps first)
      (Hook.ofSteps steps second) := by
  induction steps generalizing first second with
  | nil => exact .ok follows
  | cons step steps induction =>
    rw [ofSteps_cons, ofSteps_cons]
    rcases (step.run_follows reflexive follows).split with
      ⟨value, other, values, ended, finished⟩ | ⟨error, _, rfl, failed, failing⟩
    · rw [ended, finished]
      exact induction values
    · rw [failed, failing]
      exact .error rfl

/-- Scripts are discreet: no step decides anything by the token. -/
theorem Hook.discreet_ofSteps (reflexive : ∀ token, Tokens token token) (steps : List HookStep) :
    Hook.Discreet Tokens (.ofSteps steps) := by
  intro payload token kept
  have follows : payload.Follows Tokens (payload.presenting token) := by
    cases payload with
    | input data => exact ⟨rfl, kept⟩
    | output data => exact ⟨rfl, kept⟩
  exact (ofSteps_follows reflexive steps follows).mono (fun _ _ same => same)
    fun _ _ follows => follows.alike

end Scripts

/-! ## The handling of a request -/

/-- Two runs that make the same entries in the log, for tokens that may differ. -/
def Likeness.sameEntries (States : σ → σ → Prop)
    (Tokens : Option String → Option String → Prop) : Likeness σ σ where
  toCoupling := .sameEntries States
  Messages := (· = ·)
  Tokens := Tokens
  same _ := rfl
  logged _ := rfl
  told same _ _ := by
    rw [same]
    rfl
  called _ _ := rfl

/-- Calls that are not logged themselves leave the entries of their replies. -/
theorem Reply.Same.alike {Errors : ε → ε → Prop} {first second : Reply σ ε α}
    (same : first.Same States second) (reflexive : ∀ error, Errors error error)
    {event other : Event} (unlogged : event.entry? = none) (also : other.entry? = none) :
    Outcome.Alike (.sameEntries States) Errors (· = ·)
      ⟨first.result, event :: first.entries.map Event.log, first.state⟩
      ⟨second.result, other :: second.entries.map Event.log, second.state⟩ where
  result := by
    rw [same.result]
    exact Alike.refl reflexive (fun _ => rfl) _
  events := by
    show List.filterMap _ _ = List.filterMap _ _
    rw [List.filterMap_cons_none unlogged, List.filterMap_cons_none also, same.entries]
  states := same.states

section Calls

variable {Tokens : Option String → Option String → Prop}

theorem Database.Overlooks.databases {database : Database σ}
    (overlooks : database.Overlooks States) :
    (Likeness.sameEntries States Tokens).Databases database database where
  tables _ _ related := (overlooks.listTables related).alike .refl (by rfl) (by rfl)
  columns table _ _ related := (overlooks.describeTable table related).alike .refl (by rfl) (by rfl)
  rows sql _ _ related := (overlooks.fetchAll sql related).alike .refl (by rfl) (by rfl)
  change sql _ _ related := (overlooks.execute sql related).alike .refl (by rfl) (by rfl)

namespace Service

variable {service : Service σ} {token other : String}

/-- Two tokens that a service cannot tell apart when it decides who may call. -/
structure Confuses (service : Service σ) (States : σ → σ → Prop) (token other : String) :
    Prop where
  answers : service.tokens.Confuses States token other
  fingerprint : fingerprint token = fingerprint other
  bypass : service.bypassToken = some token ↔ service.bypassToken = some other

theorem Confuses.confused (confuses : service.Confuses States token other) :
    (Likeness.sameEntries States Tokens).Confused service.guard service.tokens token other where
  resolved _ _ related :=
    (confuses.answers related).alike (by exact fun _ => rfl) (by rfl) (by rfl)
  fingerprint := confuses.fingerprint
  bypass := confuses.bypass

/-- For two tokens that a service cannot tell apart a request is handled with the same entries in
the log, and to ends that differ in the token that is handed back only. -/
theorem handle_presenting (overlooks : service.database.Overlooks States)
    (discreet : service.hooks.Discreet Tokens) (confuses : service.Confuses States token other)
    (kept : Tokens (some token) (some other)) {context : Context}
    (presented : context.token = some token) :
    Alike (.sameEntries States) (· = ·) (HookOutput.Alike Tokens) (service.handle context)
      (service.handle (context.presenting (some other))) := by
  have confused : Option.Rel ((Likeness.sameEntries States Tokens).Confused service.guard
      service.tokens) context.token (some other) := by
    rw [presented]
    exact .some confuses.confused
  have tokens : (Likeness.sameEntries States Tokens).Tokens context.token (some other) := by
    rw [presented]
    exact kept
  have databases : (Likeness.sameEntries States Tokens).Databases service.database
    service.database := overlooks.databases
  have alike := Likeness.handle_alike discreet databases confused tokens
  refine alike.mono (fun error partner errors => ?_) (fun _ _ outputs => outputs)
  rcases error with ⟨kind, message⟩
  rcases errors with ⟨rfl, messages⟩
  cases messages
  rfl

end Service

end Calls

end TableApi
