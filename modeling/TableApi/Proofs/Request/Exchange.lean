import TableApi.Database.Memory.Database
import TableApi.Proofs.Request.Likeness

/-!
# Another database in its place

Two databases answer alike when they give the same values and fail on the same calls; what their
errors say is left open.  Exchange one for the other below a service, and the token store with it,
and a request is handled in the same way: with the same effects, and to the same output or to an
error of the same kind.  Whatever a database says when it fails, it can reach a client by the
message of that error only.
-/

namespace TableApi

open TableApi.Action Result

variable {σ τ ε α : Type} {States : σ → τ → Prop}

/-! ## Databases and token stores that answer alike -/

/-- Two replies with the same value, or with an error each. -/
structure Reply.Alike (States : σ → τ → Prop) (first : Reply σ ε α) (second : Reply τ δ α) :
    Prop where
  result : Result.Alike AnyErrors (· = ·) first.result second.result
  states : States first.state second.state

/-- Two databases that give the same values and fail on the same calls, whatever their errors
say. -/
structure Database.Alike (States : σ → τ → Prop) (first : Database σ) (second : Database τ) :
    Prop where
  listTables : ∀ ⦃state other⦄, States state other →
    (first.listTables state).Alike States (second.listTables other)
  describeTable : ∀ table ⦃state other⦄, States state other →
    (first.describeTable table state).Alike States (second.describeTable table other)
  fetchAll : ∀ sql ⦃state other⦄, States state other →
    (first.fetchAll sql state).Alike States (second.fetchAll sql other)
  execute : ∀ sql ⦃state other⦄, States state other →
    (first.execute sql state).Alike States (second.execute sql other)
  ping : ∀ ⦃state other⦄, States state other →
    (first.ping state).Alike States (second.ping other)

/-- Two lookups of one token with the same queries. -/
structure Lookup.Alike (States : σ → τ → Prop) (first : Lookup σ) (second : Lookup τ) : Prop where
  reply : first.reply.Alike States second.reply
  queries : first.queries = second.queries

/-- Two token stores that know the same callers. -/
def TokenStore.Alike (States : σ → τ → Prop) (first : TokenStore σ) (second : TokenStore τ) :
    Prop :=
  ∀ token ⦃state other⦄, States state other →
    (first.lookup token state).Alike States (second.lookup token other)

/-- Stores that ask databases are alike when the databases are. -/
theorem TokenStore.alike_ofDatabase {first : Database σ} {second : Database τ}
    (databases : first.Alike States second) (now : Int) :
    TokenStore.Alike States (.ofDatabase first now) (.ofDatabase second now) := by
  intro token state other related
  rcases databases.fetchAll (query token) related with ⟨results, states⟩
  refine ⟨⟨?_, states⟩, rfl⟩
  rcases results.split with
    ⟨rows, _, rfl, ended, answered⟩ | ⟨error, answer, _, ended, answered⟩
  · simp only [ofDatabase, ended, answered]
    exact Alike.refl (fun _ => trivial) (fun _ => rfl) (callerOf now rows)
  · simp only [ofDatabase, ended, answered]
    exact .error trivial

/-! ## Databases in memory with other messages -/

namespace Memory.Setup

/-- A setup with faults for the same statements that say something else. -/
def reworded (setup : Setup) (reword : String → String) : Setup where
  answers := setup.answers
  faults := setup.faults.map fun fault => (fault.1, reword fault.2)
  pingFault := setup.pingFault.map reword

variable (setup : Setup) (reword : String → String)

theorem unlessFault_alike {α : Type} (query : String) (answer : Except DatabaseError α) :
    Result.Alike AnyErrors (· = ·) (setup.unlessFault query answer)
      ((setup.reworded reword).unlessFault query answer) := by
  have faults : (setup.reworded reword).faultOf? query =
      (setup.faults.find? fun fault => Text.occurs fault.1.toList query.toList).map fun fault =>
        .query (reword fault.2) := by
    simp only [faultOf?, reworded, List.find?_map, Option.map_map]
    rfl
  rw [unlessFault, unlessFault, faults, faultOf?]
  cases setup.faults.find? fun fault => Text.occurs fault.1.toList query.toList with
  | none => exact Alike.refl (fun _ => trivial) (fun _ => rfl) answer
  | some fault => exact .error trivial

/-- What faults say is all that the messages of a setup decide. -/
theorem alike_reworded : setup.database.Alike (· = ·) (setup.reworded reword).database where
  listTables := by
    rintro tables _ rfl
    exact ⟨setup.unlessFault_alike reword _ _, rfl⟩
  describeTable := by
    rintro table tables _ rfl
    exact ⟨setup.unlessFault_alike reword _ _, rfl⟩
  fetchAll := by
    rintro sql tables _ rfl
    exact ⟨setup.unlessFault_alike reword _ _, rfl⟩
  execute := by
    rintro sql tables _ rfl
    rcases (setup.unlessFault_alike reword sql.query (change tables sql)).split with
      ⟨⟨receipt, after⟩, _, rfl, gave, other⟩ | ⟨error, partner, _, gave, other⟩
    · simp only [database, execute, gave, other]
      exact ⟨.ok rfl, rfl⟩
    · simp only [database, execute, gave, other]
      exact ⟨.error trivial, rfl⟩
  ping := by
    rintro tables _ rfl
    dsimp only [database, reworded]
    cases setup.pingFault with
    | none => exact ⟨.ok rfl, rfl⟩
    | some message => exact ⟨.error trivial, rfl⟩

end Memory.Setup

/-! ## What is asked of them -/

/-- Two runs with the same effects, over databases whose errors may say anything. -/
def Likeness.sameEffects (States : σ → τ → Prop) : Likeness σ τ where
  toCoupling := .sameEffects States
  Messages _ _ := True
  Tokens := (· = ·)
  same _ := trivial
  logged _ := rfl
  told _ _ _ := rfl
  called same _ := by
    rw [← same, HookPayload.presenting_token]
    rfl

theorem Action.alike_call (event : Event) {reply : σ → Reply σ DatabaseError α}
    {other : τ → Reply τ DatabaseError α}
    (replies : ∀ ⦃state partner⦄, States state partner →
      (reply state).Alike States (other partner)) :
    Alike (.sameEffects States) (Likeness.sameEffects States).Faults (· = ·) (call event reply)
      (call event other) := by
  intro state partner related
  rcases replies related with ⟨results, states⟩
  refine ⟨results.mono (fun _ _ any => any) (fun _ _ same => same), ?_, states⟩
  show effects _ = effects _
  simp

theorem Database.Alike.databases {first : Database σ} {second : Database τ}
    (databases : first.Alike States second) :
    (Likeness.sameEffects States).Databases first second where
  tables := alike_call _ databases.listTables
  columns table := alike_call _ (databases.describeTable table)
  rows sql := alike_call _ (databases.fetchAll sql)
  change sql := alike_call _ (databases.execute sql)

/-- With two stores that know the same callers no token is told from itself. -/
theorem TokenStore.Alike.confused {guard : Guard σ} {tokens : TokenStore τ}
    (stores : guard.tokens.Alike States tokens) (token : String) :
    (Likeness.sameEffects States).Confused guard tokens token token where
  resolved := by
    intro state other related
    rcases stores token related with ⟨⟨results, states⟩, queries⟩
    refine ⟨results.mono (fun _ _ any => any) (fun _ _ same => same), ?_, states⟩
    show effects _ = effects _
    simp [resolve, queries]
  fingerprint := rfl
  bypass := Iff.rfl

/-! ## The handling of a request -/

/-- Two errors that a client cannot tell apart unless it sees their messages. -/
def ApiError.SameKind (error other : ApiError) : Prop :=
  error.kind = other.kind

/-- Two parts of the handling of a request that go alike: to the same value or to errors of one
kind, and with the same effects. -/
def Action.Agree (States : σ → τ → Prop) (first : Action σ ApiError α)
    (second : Action τ ApiError α) : Prop :=
  Alike (.sameEffects States) ApiError.SameKind (· = ·) first second

/-- Every hook hands back the same for the same payload. -/
theorem HookRegistry.discreet_eq (registry : HookRegistry) : registry.Discreet (· = ·) := by
  intro name hook _ payload token same
  rw [← same, HookPayload.presenting_token]
  refine Alike.refl (fun _ => rfl) (fun returned => ?_) (hook payload)
  cases returned with
  | input data => exact .input ⟨rfl, rfl, rfl⟩
  | output data => exact .output ⟨rfl, rfl, rfl⟩

theorem HookOutput.Alike.eq {output other : HookOutput} (alike : output.Alike (· = ·) other) :
    output = other := by
  rcases output with ⟨body, code, token⟩
  rcases alike with ⟨rfl, rfl, rfl⟩
  rfl

/-- Over databases that answer alike a request is handled in the same way, up to the messages of
errors. -/
theorem Service.handle_agree {service : Service σ} {second : Database τ} {tokens : TokenStore τ}
    (databases : service.database.Alike States second)
    (stores : service.tokens.Alike States tokens) (context : Context) :
    Agree States (service.handle context) ((service.onto second tokens).handle context) := by
  have confused : Option.Rel ((Likeness.sameEffects States).Confused service.guard tokens)
      context.token context.token := by
    cases context.token with
    | none => exact .none
    | some token => exact .some (TokenStore.Alike.confused stores token)
  exact (Likeness.handle_alike service.hooks.discreet_eq databases.databases confused rfl).mono
    (fun _ _ errors => errors.kind) (fun _ _ outputs => outputs.eq)

end TableApi
