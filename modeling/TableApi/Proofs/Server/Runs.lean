import TableApi.Proofs.Request.Alteration
import TableApi.Server.Answer

/-!
# Runs of requests

A server answers one request after the other, each with the documents, the hooks and the
configuration that it has by then.  Over a database in memory a request alters one table at most,
and `Turn.run_keeps` says what a whole run keeps: the tables and their columns, the fields that a
row may have, the tables that a request is not about, and ids that are distinct integers.
-/

namespace TableApi

open TableApi.Action Memory

/-! ## The state after an answer -/

namespace Action

variable {σ ε δ α β : Type} {state : σ}

theorem state_bind_pure (action : Action σ ε α) (value : α → β) :
    ((action >>= fun found => pure (value found)) state).state = (action state).state := by
  rcases bind_cases action (fun found => pure (value found)) state with
    ⟨error, _, equal⟩ | ⟨found, _, equal⟩
  · rw [equal]
  · rw [equal]
    rfl

theorem state_log_bind (entry : LogEntry) (next : Unit → Action σ ε β) :
    ((log entry >>= next) state).state = (next () state).state := rfl

theorem state_attempt_bind (action : Action σ δ α) (next : Except δ α → Action σ ε β) :
    ((action.attempt >>= next) state).state =
      (next (action state).result (action state).state).state := rfl

end Action

namespace Server

variable {σ ε : Type}

/-- Only the handling of a request has a part in the state that the dispatcher leaves. -/
theorem dispatch_state (server : Server σ) (request : Request) (state : σ) :
    (server.dispatch request state : Outcome σ ε Response).state =
      match request.context server.configuration.api.tokenHeader with
      | .error _ => state
      | .ok context => (server.service.handle context state).state := by
  unfold dispatch
  cases built : request.context server.configuration.api.tokenHeader with
  | error error => rfl
  | ok context =>
    dsimp only
    rw [state_log_bind, state_attempt_bind]
    cases (server.service.handle context state).result <;> rfl

/-- A sign of life leaves the tables alone. -/
theorem health_state {setup : Setup} {server : Server Tables} {tables : Tables}
    (inMemory : server.database = setup.database) :
    (server.health tables : Outcome Tables ε Response).state = tables := by
  have quiet : (server.database.ping tables).state = tables := by
    rw [inMemory]
    simp only [Setup.database]
    split <;> rfl
  exact quiet

/-- An answer leaves the tables alone or leaves what the handling of the request leaves. -/
theorem answer_state {setup : Setup} {server : Server Tables}
    (inMemory : server.database = setup.database) (request : Request) (tables : Tables) :
    (server.answer request tables : Outcome Tables ε Response).state = tables ∨
      ∃ context, request.context server.configuration.api.tokenHeader = .ok context ∧
        (server.answer request tables : Outcome Tables ε Response).state =
          (server.service.handle context tables).state := by
  unfold answer
  split
  · exact Or.inl rfl
  rw [state_bind_pure]
  unfold answerLimited
  split
  · exact Or.inl rfl
  unfold answerWithin
  split
  · unfold answerOwn
    split
    · split
      · exact Or.inl (health_state inMemory)
      · exact Or.inl rfl
    · exact Or.inl rfl
  split
  · exact Or.inl rfl
  have dispatched := dispatch_state (ε := ε) server request tables
  cases built : request.context server.configuration.api.tokenHeader with
  | error error =>
    rw [built] at dispatched
    exact Or.inl dispatched
  | ok context =>
    rw [built] at dispatched
    exact Or.inr ⟨context, rfl, dispatched⟩

end Server

/-! ## One turn -/

/-- A request, and the server as it is when the request arrives. -/
structure Turn where
  server : Server Tables
  request : Request

namespace Turn

/-- The context of the request, if it leads anywhere. -/
def context? (turn : Turn) : Option Context :=
  (turn.request.context turn.server.configuration.api.tokenHeader).toOption

/-- The tables after the answer to the request. -/
def after (turn : Turn) (tables : Tables) : Tables :=
  (turn.server.answer turn.request tables : Outcome Tables Empty Response).state

/-- The server asks the database in memory, and its tokens and hooks are of the usual kind. -/
structure Sound (setup : Setup) (turn : Turn) : Prop where
  inMemory : turn.server.database = setup.database
  readOnly : turn.server.tokens.ReadOnly
  tidy : turn.server.hooks.Tidy

/-- No record that the request adds carries an id, as the hook before the endpoint leaves it. -/
def AddsUnnumbered (turn : Turn) (tables : Tables) : Prop :=
  ∀ context execution, turn.context? = some context →
    (turn.server.service.ready context tables).result = .ok execution → execution.AddsUnnumbered

variable {setup : Setup} {turn : Turn} {tables : Tables}

/-- A request alters no table, or the one that it is about. -/
theorem after_cases (sound : turn.Sound setup)
    (plain : ∀ name table, Named.get? tables name = some table →
      ∀ column ∈ table.columns, IsPlain column) :
    turn.after tables = tables ∨ ∃ context table altered, turn.context? = some context ∧
      Named.get? tables context.table = some table ∧
      Alters (turn.AddsUnnumbered tables) table altered ∧
      turn.after tables = Named.put tables context.table altered := by
  rcases Server.answer_state (ε := Empty) sound.inMemory turn.request tables with
    same | ⟨context, built, handled⟩
  · exact Or.inl same
  have led : turn.context? = some context := by rw [context?, built]; rfl
  have inMemory : turn.server.service.database = setup.database := sound.inMemory
  rcases Service.handle_alters inMemory sound.readOnly sound.tidy plain with
    same | ⟨execution, table, altered, readied, stored, alters, left⟩
  · exact Or.inl (handled.trans same)
  · refine Or.inr ⟨context, table, altered, led, stored, ?_, handled.trans left⟩
    exact alters.imp fun unnumbered => unnumbered context execution led readied

end Turn

/-! ## A whole run -/

/-- The columns of every table are plain, and its rows have fields under them and the id only. -/
structure Memory.Orderly (tables : Tables) : Prop where
  plain : ∀ name table, Named.get? tables name = some table → ∀ column ∈ table.columns,
    IsPlain column
  fits : ∀ name table, Named.get? tables name = some table → table.Fits

/-- The same tables are there, each with the same columns. -/
def Memory.SameColumns (before after : Tables) : Prop :=
  ∀ name, (Named.get? after name).map Table.columns = (Named.get? before name).map Table.columns

/-- An altered table in the place of the one that it comes from. -/
theorem Memory.Orderly.put {tables : Tables} {name : String} {table altered : Table}
    {unnumbered : Prop} (orderly : Orderly tables) (stored : Named.get? tables name = some table)
    (alters : Alters unnumbered table altered) :
    SameColumns tables (Named.put tables name altered) ∧
      Orderly (Named.put tables name altered) := by
  have found : ∀ other held, Named.get? (Named.put tables name altered) other = some held →
      (other = name ∧ held = altered) ∨ Named.get? tables other = some held := by
    intro other held got
    by_cases same : other = name
    · rw [same, Named.get?_put_self] at got
      exact Or.inl ⟨same, (Option.some.inj got).symm⟩
    · rw [Named.get?_put_of_ne _ _ same] at got
      exact Or.inr got
  refine ⟨?_, ?_, ?_⟩
  · intro other
    by_cases same : other = name
    · rw [same, Named.get?_put_self, stored, Option.map_some, Option.map_some, alters.columns_eq]
    · rw [Named.get?_put_of_ne _ _ same]
  · intro other held got
    rcases found other held got with ⟨_, rfl⟩ | before
    · rw [alters.columns_eq]
      exact orderly.plain name table stored
    · exact orderly.plain other held before
  · intro other held got
    rcases found other held got with ⟨_, rfl⟩ | before
    · exact alters.fits (orderly.fits name table stored)
    · exact orderly.fits other held before

namespace Turn

variable {setup : Setup} {turn : Turn} {turns : List Turn} {tables : Tables}

/-- What one request keeps. -/
theorem after_keeps (sound : turn.Sound setup) (orderly : Orderly tables) :
    SameColumns tables (turn.after tables) ∧ Orderly (turn.after tables) ∧
      ∀ name, turn.context?.map Context.table ≠ some name →
        Named.get? (turn.after tables) name = Named.get? tables name := by
  rcases after_cases sound orderly.plain with
    same | ⟨context, table, altered, led, stored, alters, left⟩
  · rw [same]
    exact ⟨fun _ => rfl, orderly, fun _ _ => rfl⟩
  · rw [left]
    rcases orderly.put stored alters with ⟨columns, kept⟩
    refine ⟨columns, kept, ?_⟩
    intro name apart
    apply Named.get?_put_of_ne
    rintro rfl
    exact apart (by rw [led]; rfl)

/-- Distinct integer ids of a table stay so when a request is answered. -/
theorem after_numbered (sound : turn.Sound setup) (orderly : Orderly tables)
    (unnumbered : turn.AddsUnnumbered tables) {name : String} {table : Table}
    (stored : Named.get? tables name = some table) (numbered : table.Numbered)
    (below : table.BelowLargest) :
    ∃ current, Named.get? (turn.after tables) name = some current ∧ current.Numbered := by
  rcases after_cases sound orderly.plain with
    same | ⟨context, held, altered, _, there, alters, left⟩
  · rw [same]
    exact ⟨table, stored, numbered⟩
  · rw [left]
    by_cases routed : name = context.table
    · subst routed
      rw [there] at stored
      cases stored
      exact ⟨altered, Named.get?_put_self _ _ _, alters.numbered unnumbered numbered below⟩
    · rw [Named.get?_put_of_ne _ _ routed]
      exact ⟨table, stored, numbered⟩

/-- The tables after some requests, answered in order. -/
def run (turns : List Turn) (tables : Tables) : Tables :=
  turns.foldl (fun current turn => turn.after current) tables

theorem run_snoc (turns : List Turn) (turn : Turn) (tables : Tables) :
    run (turns ++ [turn]) tables = turn.after (run turns tables) := by
  simp [run]

/-- What a run keeps, by induction on its requests. -/
theorem run_orderly (sound : ∀ turn ∈ turns, turn.Sound setup) (orderly : Orderly tables) :
    SameColumns tables (run turns tables) ∧ Orderly (run turns tables) := by
  induction turns generalizing tables with
  | nil => exact ⟨fun _ => rfl, orderly⟩
  | cons turn turns step =>
    rcases after_keeps (sound turn List.mem_cons_self) orderly with ⟨columns, kept, _⟩
    rcases step (fun other member => sound other (List.mem_cons_of_mem _ member)) kept with
      ⟨later, final⟩
    exact ⟨fun name => (later name).trans (columns name), final⟩

/-- Ids stay distinct integers throughout a run, by induction on its requests. -/
theorem run_numbered (sound : ∀ turn ∈ turns, turn.Sound setup) (orderly : Orderly tables)
    {name : String} {table : Table} (stored : Named.get? tables name = some table)
    (numbered : table.Numbered)
    (unnumbered : ∀ earlier turn, earlier ++ [turn] <+: turns →
      turn.AddsUnnumbered (run earlier tables))
    (below : ∀ earlier, earlier <+: turns → ∀ current,
      Named.get? (run earlier tables) name = some current → current.BelowLargest) :
    ∃ current, Named.get? (run turns tables) name = some current ∧ current.Numbered := by
  induction turns generalizing tables table with
  | nil => exact ⟨table, stored, numbered⟩
  | cons turn turns step =>
    have first := sound turn List.mem_cons_self
    rcases after_numbered first orderly (unnumbered [] turn (by simp)) stored numbered
      (below [] (List.nil_prefix) table stored) with ⟨next, held, distinct⟩
    refine step (fun other member => sound other (List.mem_cons_of_mem _ member))
      (after_keeps first orderly).2.1 held distinct ?_ ?_
    · intro earlier other leads
      exact unnumbered (turn :: earlier) other (by simpa using leads)
    · intro earlier leads
      exact below (turn :: earlier) (by simpa using leads)

/-- What has been kept when a request is answered: of the first tables, and of those before it. -/
structure Keeps (turn : Turn) (start before now : Tables) : Prop where
  columns : SameColumns start now
  fits : ∀ name table, Named.get? now name = some table → table.Fits
  others : ∀ name, turn.context?.map Context.table ≠ some name →
    Named.get? now name = Named.get? before name

/--
After every request of a run the tables and their columns are those of the
start, rows have fields under the columns and the id only, and no table but the
one that the request is about is another than before.  The ids of a table stay
distinct integers when they are at the start, as long as no added record carries
an id and the largest integer is not reached.
-/
theorem run_keeps (sound : ∀ turn ∈ turns, turn.Sound setup) (orderly : Orderly tables) :
    ∀ earlier turn, earlier ++ [turn] <+: turns →
      turn.Keeps tables (run earlier tables) (run (earlier ++ [turn]) tables) ∧
      ∀ name table, Named.get? tables name = some table → table.Numbered →
        (∀ before next, before ++ [next] <+: turns → next.AddsUnnumbered (run before tables)) →
        (∀ before, before <+: turns → ∀ current,
          Named.get? (run before tables) name = some current → current.BelowLargest) →
        ∃ current, Named.get? (run (earlier ++ [turn]) tables) name = some current ∧
          current.Numbered := by
  intro earlier turn leads
  have soundHere : ∀ other ∈ earlier ++ [turn], other.Sound setup :=
    fun other member => sound other (leads.subset member)
  have soundBefore : ∀ other ∈ earlier, other.Sound setup :=
    fun other member => soundHere other (List.mem_append_left _ member)
  rcases run_orderly soundHere orderly with ⟨columns, kept⟩
  constructor
  · refine ⟨columns, kept.fits, ?_⟩
    rw [run_snoc]
    exact (after_keeps (soundHere turn (by simp)) (run_orderly soundBefore orderly).2).2.2
  · intro name table stored numbered unnumbered below
    refine run_numbered soundHere orderly stored numbered ?_ ?_
    · exact fun before next first => unnumbered before next (first.trans leads)
    · exact fun before first => below before (first.trans leads)

/-! ## An example -/

/-- A server whose only table takes new rows from anyone. -/
def openServer : Server Tables where
  database := Setup.plain.database
  tokens := .ofDatabase Setup.plain.database 0
  documents := ⟨"modules", Files.empty.write "modules/users/assets/api.json"
    (some "\x7b\"Create\":\x7b\"request_type\":\"POST\",\"authorization\":\"*\"\x7d\x7d".toUTF8.toList)⟩
  hooks := .empty
  configuration := .development

def creation : Turn :=
  ⟨openServer, ⟨"POST", "/users", none, ⟨[]⟩, "\x7b\"name\":\"Ada\"\x7d".toUTF8.toList⟩⟩

def usersWith (ids : List Int) : Table :=
  ⟨["id", "name"], ids.map fun id => [("id", Json.ofInt id), ("name", .string "Ada")]⟩

theorem creation_sound : creation.Sound Setup.plain where
  inMemory := rfl
  readOnly := TokenStore.ofDatabase_readOnly Setup.plain.steady 0
  tidy := HookRegistry.tidy_empty

theorem creation_addsUnnumbered (tables : Tables) : creation.AddsUnnumbered tables := by
  intro context execution led readied _
  have built : creation.context? = some ⟨.post, "users", .create, none, ["users"], none, "",
      "\x7b\"name\":\"Ada\"\x7d".toUTF8.toList, false⟩ := by decide +kernel
  rw [built] at led
  cases led
  have cleared := Service.cleared_of_ready readied
  have described : openServer.service.documents.descriptor "users" .create =
      .ok ⟨.post, some "", some .wildcard, none, none, false⟩ :=
    Result.ok_of_toOption (by decide +kernel)
  have same : execution.descriptor = ⟨.post, some "", some .wildcard, none, none, false⟩ :=
    Except.ok.inj (cleared.described.symm.trans described)
  rcases cleared.prepared with ⟨token, value, before, _, decoded, prepared⟩
  have read : value = .object [("name", .string "Ada")] := by
    have found : (Service.params ⟨.post, "users", .create, none, ["users"], none, "",
        "\x7b\"name\":\"Ada\"\x7d".toUTF8.toList, false⟩).toOption =
          some (.object [("name", .string "Ada")]) := by decide +kernel
    rw [decoded] at found
    exact Option.some.inj found
  rw [same] at prepared
  have params : execution.input.params = value := by
    have input := Except.ok.inj prepared
    rw [← input]
  rw [params, read]
  constructor
  · intro fields object
    cases object
    decide
  · intro items array
    cases array

theorem usersWith_belowLargest {ids : List Int} (small : ∀ id ∈ ids, id < Text.largestInteger) :
    (usersWith ids).BelowLargest := by
  intro row member id held
  rcases List.mem_map.1 member with ⟨own, inside, rfl⟩
  have same : own = id := by simpa [Fields.get?_cons, Json.ofInt] using held
  exact same ▸ small own inside

theorem usersWith_orderly : Orderly [("users", usersWith [4])] := by
  have single : ∀ name table, Named.get? [("users", usersWith [4])] name = some table →
      table = usersWith [4] := by
    intro name table stored
    simp only [Named.get?, List.lookup_cons, List.lookup_nil] at stored
    split at stored
    · exact (Option.some.inj stored).symm
    · cases stored
  constructor
  · intro name table stored
    rw [single name table stored]
    decide
  · intro name table stored
    rw [single name table stored]
    unfold Table.Fits
    decide

/-- Each of two requests adds a row. -/
theorem run_creation :
    run [creation] [("users", usersWith [4])] = [("users", usersWith [4, 5])] ∧
      run [creation, creation] [("users", usersWith [4])] = [("users", usersWith [4, 5, 6])] := by
  have once : creation.after [("users", usersWith [4])] = [("users", usersWith [4, 5])] := by
    decide +kernel
  have twice : creation.after [("users", usersWith [4, 5])] = [("users", usersWith [4, 5, 6])] := by
    decide +kernel
  constructor
  · rw [run, List.foldl_cons, once]
    rfl
  · rw [run, List.foldl_cons, List.foldl_cons, once, twice]
    rfl

/-- A table with one row is given the next two ids by two requests. -/
theorem run_keeps_users :
    Named.get? (run [creation, creation] [("users", usersWith [4])]) "users" =
        some (usersWith [4, 5, 6]) ∧ (usersWith [4, 5, 6]).Numbered := by
  have sound : ∀ turn ∈ [creation, creation], turn.Sound Setup.plain := by
    simpa using creation_sound
  have numbered : (usersWith [4]).Numbered := by
    constructor
    · intro row member
      rw [List.mem_singleton.1 member]
      exact ⟨4, by decide, rfl⟩
    · decide
  have below : ∀ before, before <+: [creation, creation] → ∀ current,
      Named.get? (run before [("users", usersWith [4])]) "users" = some current →
        current.BelowLargest := by
    intro before leads current held
    rcases List.prefix_cons_iff.1 leads with rfl | ⟨others, rfl, left⟩
    · cases held
      exact usersWith_belowLargest (by decide)
    rcases List.prefix_cons_iff.1 left with rfl | ⟨none, rfl, last⟩
    · rw [run_creation.1] at held
      cases held
      exact usersWith_belowLargest (by decide)
    rw [List.prefix_nil.1 last, run_creation.2] at held
    cases held
    exact usersWith_belowLargest (by decide)
  have unnumbered : ∀ before next, before ++ [next] <+: [creation, creation] →
      next.AddsUnnumbered (run before [("users", usersWith [4])]) := by
    intro before next leads
    have member : next ∈ [creation, creation] := leads.subset (by simp)
    have same : next = creation := by simpa using member
    rw [same]
    exact creation_addsUnnumbered _
  have final : Named.get? (run [creation, creation] [("users", usersWith [4])]) "users" =
      some (usersWith [4, 5, 6]) := by
    rw [run_creation.2]
    rfl
  rcases (run_keeps sound usersWith_orderly [creation] creation List.prefix_rfl).2 "users"
    (usersWith [4]) rfl numbered unnumbered below with ⟨current, held, distinct⟩
  rw [List.singleton_append, final] at held
  cases held
  exact ⟨final, distinct⟩

end Turn

end TableApi
