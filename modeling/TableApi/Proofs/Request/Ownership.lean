import TableApi.Proofs.Database.Identity
import TableApi.Proofs.Request.Stored

/-!
# The owner of the row that is acted on

The rule of ownership looks a row up by the text of a segment, and the endpoint acts on the rows
with the integer that this text spells.  A text that spells no integer of digits alone ends the
request before anything is done, and for every other text the two find the same row, `Place`.  So
the row that a request to one record returns, changes or removes is the one whose owner was checked.
-/

namespace TableApi

open TableApi.Action Memory

namespace Memory

/-- A database in memory without canned answers and faults. -/
def Setup.Bare (setup : Setup) : Prop :=
  setup.answers = [] ∧ setup.faults = []

theorem Setup.Bare.leaves {setup : Setup} (bare : setup.Bare) (statement : Statement) :
    setup.Leaves statement := by
  simp [Leaves, Spares, faultOf?, answerTo?, bare.1, bare.2]

/-- A bare database answers a question from its tables. -/
theorem Setup.Bare.fetchAll_eq {setup : Setup} (bare : setup.Bare) (sql : Sql) (tables : Tables) :
    setup.database.fetchAll sql tables = .quiet (fetch tables sql) tables := by
  simp [database, fetchAll, unlessFault, faultOf?, answerTo?, bare.1, bare.2]

/--
What a request to one record made of a row and of the tables: the rows before
and after it, and every other table, stay as they are.
-/
inductive ActsOn (tables : Tables) (name : String) (columns : List String) (before : List Row)
    (row : Row) (after : List Row) : Endpoint → Json → Tables → Prop
  | returned : ActsOn tables name columns before row after .findOne (.object row) tables
  | changed {fields : Fields} (unnamed : "id" ∉ fields.keys) :
      ActsOn tables name columns before row after .update (.object (row.setAll fields))
        (Named.put tables name ⟨columns, before ++ row.setAll fields :: after⟩)
  | removed :
      ActsOn tables name columns before row after .deleteOne (.bool true)
        (Named.put tables name ⟨columns, before ++ after⟩)

variable {tables : Tables} {name : String} {columns : List String} {before after : List Row}
  {row : Row}

theorem ActsOn.get?_of_ne {endpoint : Endpoint} {body : Json} {left : Tables} {other : String}
    (acts : ActsOn tables name columns before row after endpoint body left) (apart : other ≠ name) :
    Named.get? left other = Named.get? tables other := by
  cases acts with
  | returned => rfl
  | changed => exact Named.get?_put_of_ne _ _ apart
  | removed => exact Named.get?_put_of_ne _ _ apart

end Memory

/-! ## The endpoints for one record -/

namespace Execution

variable {setup : Setup} {execution : Execution Tables} {tables : Tables} {table : Table}
  {name : String} {id : Int} {body : Json}

/-- What has passed in an update that succeeds, and what is left to be done then. -/
theorem of_update {σ : Type} {execution : Execution σ} {state : σ}
    (numeric : execution.context.numericId = some id)
    (ran : (execution.update state).result = .ok body) :
    ∃ posted, execution.record = .ok posted ∧ Fields.remove posted "id" ≠ [] ∧
      execution.schema.requireColumns (Fields.remove posted "id").keys = .ok () ∧
      execution.update state = (do
        match ← execution.fetchById id with
        | none => fail (.notFound (execution.noRecord id))
        | some _ =>
            let _ ← execution.change
              (.update execution.schema.name (Fields.remove posted "id").bound id)
            let row ← execution.fetchById id
            return rowOrNull row : Action σ ApiError Json) state := by
  simp only [update, numeric] at ran ⊢
  rcases ok_of_bind_ok ran with ⟨posted, read, _⟩
  have accepted : execution.record = .ok posted := read
  have given : (ofExcept (.ok posted) : Action σ ApiError Fields) = pure posted := rfl
  simp only [accepted, given, pure_bind] at ran ⊢
  split at ran
  · cases ran
  rename_i filled
  rw [if_neg filled]
  rcases ok_of_bind_ok ran with ⟨statement, made, _⟩
  have passed := of_build ⟨state, made⟩
  have built : (build (.ok statement) : Action σ ApiError Statement) = pure statement := rfl
  rcases Schema.of_updateById passed with ⟨known, rfl⟩
  refine ⟨posted, rfl, by simpa using filled, known, ?_⟩
  simp only [passed, built, pure_bind]
  rfl

section OverMemory

variable (bare : setup.Bare) (inMemory : execution.database = setup.database)

include bare inMemory

/-- A change is one call, which returns the receipt of the database. -/
theorem change_eq {statement : Statement} {receipt : Receipt} {left : Tables}
    (changed : Memory.change tables statement.toSql = .ok (receipt, left)) :
    execution.change statement tables =
      ⟨.ok receipt, [.database (.execute statement.toSql)], left⟩ := by
  have carried := Setup.execute_of_spares (bare.leaves statement).1 changed
  have answered : (execution.database.execute statement.toSql tables).result = .ok receipt := by
    rw [inMemory, carried]
    rfl
  rw [change_of_ok answered, inMemory, carried]
  rfl

/-- A change returns the receipt of the database and leaves what the change makes of the tables. -/
theorem change_apply {statement : Statement} {receipt : Receipt} {left : Tables}
    (changed : Memory.change tables statement.toSql = .ok (receipt, left)) :
    (execution.change statement tables).result = .ok receipt ∧
      (execution.change statement tables).state = left := by
  rw [change_eq bare inMemory changed]
  exact ⟨rfl, rfl⟩

variable (schema : execution.schema = table.schema name) (named : IsPlain name)

include schema named

/-- A look-up by id is one question, for the first of the rows with the id. -/
theorem fetchById_eq {current : Tables} {found : Table}
    (stored : Named.get? current name = some found) (id : Int) :
    execution.fetchById id current =
      ⟨.ok (found.rows.find? (matchesAt "id" (Json.ofInt id))),
        [.database (.fetchAll (Statement.find name "id" (Json.ofInt id)).toSql)], current⟩ := by
  have asked : execution.schema.selectById id = Statement.find name "id" (Json.ofInt id) := by
    rw [schema]
    rfl
  have answered : execution.database.fetchAll (execution.schema.selectById id).toSql current =
      .quiet (.ok (found.rows.filter (matchesAt "id" (Json.ofInt id)))) current := by
    rw [inMemory, asked, bare.fetchAll_eq, fetch_find named stored isPlain_id]
  have fetched := fetch_of_answer answered
  have success : (execution.fetch (execution.schema.selectById id) current).result =
      .ok (found.rows.filter (matchesAt "id" (Json.ofInt id))) := by
    rw [fetched]
  rw [fetchById, bind_of_ok success, fetched, asked, ← List.head?_filter]
  rfl

/-- A look-up by id returns the first of the rows with the id, and leaves the tables alone. -/
theorem fetchById_apply {current : Tables} {found : Table}
    (stored : Named.get? current name = some found) (id : Int) :
    (execution.fetchById id current).result =
        .ok (found.rows.filter (matchesAt "id" (Json.ofInt id))).head? ∧
      (execution.fetchById id current).state = current := by
  rw [fetchById_eq bare inMemory schema named stored, List.head?_filter]
  exact ⟨rfl, rfl⟩

variable (stored : Named.get? tables name = some table) {before after : List Row} {row : Row}
  (numeric : execution.context.numericId = some id) (place : Place table id before row after)

include stored numeric place

theorem findOne_actsOn (ran : (execution.findOne tables).result = .ok body) :
    ActsOn tables name table.columns before row after .findOne body
      (execution.findOne tables).state := by
  rcases fetchById_apply bare inMemory schema named stored id with ⟨found, same⟩
  rw [place.filter_eq] at found
  simp only [findOne, numeric, bind_of_ok found] at ran ⊢
  simp only [List.head?_cons, pure_apply, same] at ran ⊢
  cases ran
  exact ActsOn.returned

theorem deleteOne_actsOn (ran : (execution.deleteOne tables).result = .ok body) :
    ActsOn tables name table.columns before row after .deleteOne body
      (execution.deleteOne tables).state := by
  rcases fetchById_apply bare inMemory schema named stored id with ⟨found, same⟩
  rw [place.filter_eq] at found
  have removal := change_delete named stored id
  rw [place.remove_eq] at removal
  have asked : execution.schema.deleteById id = Statement.delete name id := by
    rw [schema]
    rfl
  rw [← asked] at removal
  rcases change_apply bare inMemory removal with ⟨carried, left⟩
  simp only [deleteOne, numeric, bind_of_ok found] at ran ⊢
  simp only [List.head?_cons, same, bind_of_ok carried] at ran ⊢
  simp only [pure_apply, left] at ran ⊢
  cases ran
  exact ActsOn.removed

theorem update_actsOn (plain : ∀ column ∈ table.columns, IsPlain column)
    (tidy : execution.input.params.Tidy) (ran : (execution.update tables).result = .ok body) :
    ActsOn tables name table.columns before row after .update body
      (execution.update tables).state := by
  rcases fetchById_apply bare inMemory schema named stored id with ⟨found, same⟩
  rw [place.filter_eq] at found
  rcases of_update numeric ran with ⟨posted, accepted, filled, known, equal⟩
  rw [params_of_record accepted] at tidy
  rcases Fields.nodup_keys_remove tidy.nodup_keys "id" with ⟨unnamed, once⟩
  rw [schema] at known
  have keys : ∀ column ∈ (Fields.remove posted "id").bound.keys, IsPlain column := by
    intro column member
    rw [Fields.keys_bound] at member
    exact plain column (Schema.mem_columns_of_requireColumns known column member)
  have changed := change_update named stored (Fields.remove posted "id").bound
    (by simpa [Fields.bound] using filled) keys id
  rw [place.update_eq] at changed
  rcases change_apply bare inMemory changed with ⟨carried, left⟩
  have moved := place.set (Fields.remove posted "id").bound (by simpa using once)
    (by simpa using unnamed)
  rcases fetchById_apply bare inMemory schema named (Named.get?_put_self tables name _) id with
    ⟨again, still⟩
  rw [moved.filter_eq] at again
  have called : execution.schema.name = name := by
    rw [schema]
    rfl
  rw [equal, called] at ran ⊢
  simp only [bind_of_ok found, List.head?_cons, same, bind_of_ok carried, left, bind_of_ok again,
    pure_apply, still] at ran ⊢
  cases ran
  exact ActsOn.changed (by simpa using unnamed)

end OverMemory

/-- The endpoints for one record, apart from the one that only says whether it is there. -/
def IsForOne (endpoint : Endpoint) : Prop :=
  endpoint = .findOne ∨ endpoint = .update ∨ endpoint = .deleteOne

/-- These endpoints succeed only with the number of a record. -/
theorem numericId_of_run {σ : Type} {execution : Execution σ} {state : σ}
    (addressed : IsForOne execution.context.endpoint)
    (ran : (execution.run state).result = .ok body) :
    ∃ id, execution.context.numericId = some id := by
  cases numeric : execution.context.numericId with
  | some id => exact ⟨id, rfl⟩
  | none =>
    rcases addressed with endpoint | endpoint | endpoint
    · simp [run, endpoint, findOne, numeric] at ran
    · simp [run, endpoint, update, numeric] at ran
    · simp [run, endpoint, deleteOne, numeric] at ran

/-- An endpoint for one record acts on the row with the id of the request. -/
theorem run_actsOn {before after : List Row} {row : Row} (bare : setup.Bare)
    (inMemory : execution.database = setup.database)
    (schema : execution.schema = table.schema name) (named : IsPlain name)
    (stored : Named.get? tables name = some table)
    (plain : ∀ column ∈ table.columns, IsPlain column) (tidy : execution.input.params.Tidy)
    (addressed : IsForOne execution.context.endpoint)
    (numeric : execution.context.numericId = some id) (place : Place table id before row after)
    (ran : (execution.run tables).result = .ok body) :
    ActsOn tables name table.columns before row after execution.context.endpoint body
      (execution.run tables).state := by
  rcases addressed with endpoint | endpoint | endpoint
  · simp only [run, endpoint] at ran ⊢
    exact findOne_actsOn bare inMemory schema named stored numeric place ran
  · simp only [run, endpoint] at ran ⊢
    exact update_actsOn bare inMemory schema named stored numeric place plain tidy ran
  · simp only [run, endpoint] at ran ⊢
    exact deleteOne_actsOn bare inMemory schema named stored numeric place ran

end Execution

/-! ## The rule of ownership -/

/-- The policy that admits the owner of the row under the fourth segment, and nobody else. -/
def Policy.ownersOnly : Policy :=
  ⟨[], [], none, none, some ⟨"id", 4⟩⟩

namespace Guard

variable {σ : Type} {database : Database σ} {caller : Caller} {schema : Schema} {context : Context}
  {state : σ}

/-- Under this policy the text of the fourth segment finds a row of the caller. -/
theorem Admits.of_ownersOnly
    (admitted : Admits database .ownersOnly caller schema context state) :
    ∃ value row rows, context.segments[3]? = some value ∧
      (database.fetchAll (Statement.find schema.name "id" (.string value)).toSql state).result =
        .ok (row :: rows) ∧
      caller.userId ≠ 0 ∧ Json.toInteger (Fields.get? row "trongate_user_id") = caller.userId := by
  cases admitted with
  | role listed => simp [Policy.ownersOnly] at listed
  | userId listed => simp [Policy.ownersOnly] at listed
  | idSegment ruled => simp [Policy.ownersOnly] at ruled
  | codeSegment ruled => simp [Policy.ownersOnly] at ruled
  | @owner column value number row rows ruled presented known found named owns =>
    cases ruled
    rcases presented with ⟨_, index, place, segment⟩
    cases place
    have asked : (Statement.find schema.name "id" (.string value)).toSql =
        ownershipQuery schema.name "id" value := Statement.toSql_find _ _ _
    rw [← asked] at found
    exact ⟨value, row, rows, segment, found, named, owns⟩

/-- A caller that is let through under a policy is admitted by it. -/
theorem admits_of_evaluate {guard : Guard σ} {descriptor : Descriptor} {policy : Policy}
    {presented : String} {token : Option String}
    (ruled : descriptor.authorization = some (.policy policy))
    (resolved : (guard.tokens.lookup presented state).reply.result = .ok caller)
    (allowed : (guard.evaluate (ε := ApiError) descriptor (some presented) schema context
      state).result = .ok (.allowed token)) :
    Admits guard.database policy caller schema context
      (guard.tokens.lookup presented state).reply.state := by
  rcases weigh_agrees (ε := ApiError) guard descriptor (some presented) schema context state with
    ⟨decision, weighed, agrees⟩
  rw [evaluate_of_weigh weighed] at allowed
  cases allowed
  cases agrees with
  | allowed granted => exact (grants_iff_admits ruled resolved).1 granted

end Guard

namespace Context

/-- The id of a request that is a number is spelled by its digits. -/
theorem digits_of_numericId {context : Context} {id : Int} (numeric : context.numericId = some id) :
    ∃ (text : String) (value : Nat), context.id = some text ∧ id = value ∧
      Text.digitsValue? text.toList = some value ∧ (value : Int) ≤ Text.largestInteger := by
  rcases Option.bind_eq_some_iff.1 numeric with ⟨text, held, spelled⟩
  rcases Option.filter_eq_some_iff.1 held with ⟨given, digits⟩
  simp only [isNumeric, Bool.and_eq_true, List.all_eq_true] at digits
  rcases Text.digitsValue?_of_integer? digits.2 spelled with ⟨value, same, read, fits⟩
  exact ⟨text, value, given, same, read, fits⟩

end Context

namespace Service

variable {setup : Setup} {service : Service Tables} {context : Context} {tables : Tables}
  {table : Table} {caller : Caller}

/-- A caller that owns the row under the text of an id owns the only row with this id. -/
theorem place_of_admits {id : Int} (bare : setup.Bare)
    (inMemory : service.database = setup.database)
    (named : IsPlain context.table) (stored : Named.get? tables context.table = some table)
    (segment : context.id = context.segments[3]?) (numeric : context.numericId = some id)
    (alone : ∀ value, (table.rows.filter (matchesAt "id" value)).length ≤ 1)
    (admitted : Guard.Admits service.guard.database .ownersOnly caller
      (table.schema context.table) context tables) :
    caller.userId ≠ 0 ∧ ∃ before row after, Place table id before row after ∧
      Json.toInteger (Fields.get? row "trongate_user_id") = caller.userId := by
  rcases admitted.of_ownersOnly with ⟨text, row, rows, presented, found, filled, owns⟩
  rcases context.digits_of_numericId numeric with ⟨digits, value, held, rfl, spelled, fits⟩
  have same : text = digits := by
    rw [segment, presented] at held
    exact Option.some.inj held
  subst same
  have answered := Setup.fetchAll_of_leaves (bare.leaves _)
    (fetch_find named stored isPlain_id (.string text))
  have guarded : service.guard.database = setup.database := inMemory
  rw [guarded] at found
  have listed : table.rows.filter (matchesAt "id" (.string text)) = row :: rows := by
    have both := (congrArg Reply.result answered).symm.trans found
    exact Except.ok.inj both
  rw [matchesAt_digits spelled fits] at listed
  have few := alone (Json.ofInt value)
  have none : rows = [] := by
    rw [listed, List.length_cons] at few
    exact List.length_eq_zero_iff.1 (by omega)
  rw [none] at listed
  rcases Place.of_filter listed with ⟨before, after, place⟩
  exact ⟨filled, before, row, after, place, owns⟩

/--
A request by the general entry to one record that only its owner may touch, when
it succeeds, returned, changed or removed a row of the caller, and touched
nothing else.  The answer is what the hook after the endpoint made of its body.
-/
theorem handle_actsOn_owned {request : Request} {tokenHeader presented : String}
    {descriptor : Descriptor} {output : HookOutput} (bare : setup.Bare)
    (inMemory : service.database = setup.database) (readOnly : service.tokens.ReadOnly)
    (tidy : service.hooks.Tidy) (built : request.context tokenHeader = .ok context)
    (general : context.viaApi = true) (addressed : Execution.IsForOne context.endpoint)
    (described : service.documents.descriptor context.table context.endpoint = .ok descriptor)
    (ruled : descriptor.authorization = some (.policy .ownersOnly))
    (given : context.token = some presented)
    (resolved : (service.tokens.lookup presented tables).reply.result = .ok caller)
    (stored : Named.get? tables context.table = some table)
    (plain : ∀ column ∈ table.columns, IsPlain column)
    (alone : ∀ value, (table.rows.filter (matchesAt "id" value)).length ≤ 1)
    (answered : (service.handle context tables).result = .ok output) :
    ∃ before row after execution body, table.rows = before ++ row :: after ∧
      caller.userId ≠ 0 ∧ Json.toInteger (Fields.get? row "trongate_user_id") = caller.userId ∧
      ActsOn tables context.table table.columns before row after context.endpoint body
        (service.handle context tables).state ∧
      (∀ other ≠ context.table, Named.get? (service.handle context tables).state other =
        Named.get? tables other) ∧
      (service.ready context tables).result = .ok execution ∧
      (execution.run tables).result = .ok body ∧
      (service.conclude descriptor ⟨body, 200, execution.input.token⟩
        (service.handle context tables).state).result = .ok output := by
  have steady : service.database.Steady := inMemory ▸ setup.steady
  have reading : (service.ready context).Reads := ready_reads steady readOnly
  rw [handle_eq_ready] at answered
  rcases ok_of_bind_ok answered with ⟨execution, readied, rest⟩
  have cleared := cleared_of_ready readied
  rw [(reading tables).1] at rest
  rcases ok_of_bind_ok rest with ⟨body, ran, concluded⟩
  rcases stored_of_schema inMemory cleared.gated with ⟨named, found, held, schema⟩
  rw [stored] at held
  cases held
  have same : execution.descriptor = descriptor := by
    have both := cleared.described.symm.trans described
    exact Except.ok.inj both
  rcases cleared.prepared with ⟨token, _, _, allowed, _, _⟩
  rw [service.schema_state context steady, same, given, schema] at allowed
  have admitted := Guard.admits_of_evaluate ruled resolved allowed
  have unchanged : (service.guard.tokens.lookup presented tables).reply.state = tables :=
    readOnly.keeps presented tables
  rw [unchanged] at admitted
  rw [← cleared.sameContext] at addressed
  rcases Execution.numericId_of_run addressed ran with ⟨id, numeric⟩
  have identified : context.numericId = some id := cleared.sameContext ▸ numeric
  rcases place_of_admits bare inMemory named stored (Request.id_of_viaApi built general) identified
    alone admitted with ⟨filled, before, row, after, place, owns⟩
  have acts := Execution.run_actsOn bare (cleared.sameDatabase.trans inMemory) schema named stored
    plain (cleared.tidy tidy) addressed numeric place ran
  rw [cleared.sameContext] at acts
  rw [state_of_ready steady readOnly readied]
  rw [same] at concluded
  exact ⟨before, row, after, execution, body, place.rows, filled, owns, acts,
    fun other apart => acts.get?_of_ne apart, readied, ran, concluded⟩

/-! ## An example -/

/-- A service whose notes may be removed by their owners. -/
def noteService : Service Tables where
  database := Setup.plain.database
  tokens := .ofKnown [("ada", ⟨7, "member", "code"⟩)]
  documents := ⟨"modules", Files.empty.write "modules/notes/assets/api.json"
    (some ("\x7b\"Delete One\":\x7b\"request_type\":\"DELETE\",\"authorization\":" ++
      "\x7b\"userOwnedSegment\":\x7b\"column\":\"id\",\"segmentNum\":4\x7d\x7d\x7d\x7d").toUTF8.toList)⟩
  hooks := .empty
  bypassToken := none
  audit := false

/-- A note whose id is stored as a text, and a row without an id. -/
def notes : Table :=
  ⟨["id", "trongate_user_id"],
    [[("id", .string "7"), ("trongate_user_id", Json.ofInt 7)],
      [("id", .null), ("trongate_user_id", Json.ofInt 9)]]⟩

def noteRemoval : Request :=
  ⟨"DELETE", "/api/delete/notes/007", none, ⟨[("token", "ada")]⟩, []⟩

def noteContext : Context :=
  ⟨.delete, "notes", .deleteOne, some "007", ["api", "delete", "notes", "007"], some "ada", "", [],
    true⟩

/-- The row under the id `7` is removed by a request for `007`, and the other row stays. -/
theorem handle_actsOn_owned_notes :
    ∃ before row after body, notes.rows = before ++ row :: after ∧
      Json.toInteger (Fields.get? row "trongate_user_id") = 7 ∧
      ActsOn [("notes", notes)] "notes" notes.columns before row after .deleteOne body
        (noteService.handle noteContext [("notes", notes)]).state := by
  have answered : (noteService.handle noteContext [("notes", notes)]).result =
      .ok ⟨.bool true, 200, some "ada"⟩ := Result.ok_of_toOption (by decide +kernel)
  have described : noteService.documents.descriptor noteContext.table noteContext.endpoint =
      .ok ⟨.delete, some "\x7bid\x7d", some (.policy .ownersOnly), none, none, false⟩ :=
    Result.ok_of_toOption (by decide +kernel)
  have plain : ∀ column ∈ notes.columns, IsPlain column := by
    decide
  have alone : ∀ value, (notes.rows.filter (matchesAt "id" value)).length ≤ 1 := by
    intro value
    have absent :
        matchesAt "id" value [("id", .null), ("trongate_user_id", Json.ofInt 9)] = false := rfl
    simp only [notes, List.filter_cons, absent]
    split <;> simp
  have bare : Setup.plain.Bare := ⟨rfl, rfl⟩
  have built : noteRemoval.context "token" = .ok noteContext := rfl
  have resolved : (noteService.tokens.lookup "ada" [("notes", notes)]).reply.result =
      .ok ⟨7, "member", "code"⟩ := rfl
  rcases handle_actsOn_owned bare rfl (TokenStore.ofKnown_readOnly _) HookRegistry.tidy_empty
    built rfl (Or.inr (Or.inr rfl)) described rfl rfl resolved rfl plain alone answered with
    ⟨before, row, after, execution, body, rows, _, owns, acts, _⟩
  exact ⟨before, row, after, body, rows, owns, acts⟩

end Service

end TableApi
