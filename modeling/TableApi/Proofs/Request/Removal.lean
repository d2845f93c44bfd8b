import TableApi.Proofs.Database.Coercion
import TableApi.Proofs.Request.Alteration
import TableApi.Proofs.Request.Ownership
import TableApi.Proofs.Request.Search

/-!
# The rows that filters remove

Filtered rows are removed in two steps: their ids are selected, and the rows with the integers that
these ids count as are deleted.  Between the steps a row is known by its id alone, so that the rows
that go are those that were selected only if every id is found under its own integer and under no
other.
-/

namespace TableApi

open TableApi.Action Memory

namespace Memory

/-- A table without some of its rows: all others stay as they are, in their order. -/
structure Table.Without (table : Table) (gone : List Row) (left : Table) : Prop where
  columns : left.columns = table.columns
  kept : left.rows = table.rows.filter fun row => row ∉ gone
  all : (gone ++ left.rows).Perm table.rows

/-- Rows that are named by integers without a mistake are those that are removed. -/
theorem Table.without_remove {table : Table} {selected : List Row}
    (apart : table.rows.Pairwise fun row other => ¬SameId row other)
    (within : selected.Subperm table.rows) (found : ∀ row ∈ selected, FindsItself row) :
    table.Without selected (table.remove fun row =>
      (Execution.idsOf selected).any fun id => matchesAt "id" (Json.ofInt id) row) := by
  refine ⟨rfl, ?_, ?_⟩
  · refine List.filter_congr fun row member => ?_
    rw [Bool.eq_iff_iff]
    simp only [Bool.not_eq_true', decide_eq_true_eq, ← Bool.not_eq_true,
      any_idsOf_iff apart within.subset found member]
  · have gone := filter_idsOf_perm apart within found
    exact (gone.symm.append_right _).trans (List.filter_append_perm _ _)

theorem Table.without_nil (table : Table) : table.Without [] table := by
  refine ⟨rfl, ?_, List.Perm.refl _⟩
  simp

/-- Rows that are no canned answer come from the tables. -/
theorem Setup.fetch_of_answer {setup : Setup} {sql : Sql} {tables : Tables} {rows : List Row}
    (answered : (setup.database.fetchAll sql tables).result = .ok rows)
    (uncanned : setup.answerTo? sql.query = none) : fetch tables sql = .ok rows := by
  simp only [database, Setup.fetchAll, unlessFault, uncanned, Reply.quiet] at answered
  split at answered
  · cases answered
  · exact answered

theorem idsOf_idOnly (rows : List Row) :
    Execution.idsOf (rows.map idOnly) = Execution.idsOf rows := by
  have same : ∀ row : Row, Json.toInteger (Fields.get? (idOnly row) "id") =
      Json.toInteger (Fields.get? row "id") := by
    intro row
    have single : Fields.get? (idOnly row) "id" = some ((Fields.get? row "id").getD .null) := rfl
    rw [single]
    cases Fields.get? row "id" with
    | none => rfl
    | some id => rfl
  simp [Execution.idsOf, same]

/-- The ids that are selected for some filters are those of rows that satisfy the conditions. -/
theorem idsOf_selected {tables : Tables} {name : String} {table : Table} {filters : FilterSet}
    {rows : List Row} (named : IsPlain name) (stored : Named.get? tables name = some table)
    (legible : ∀ condition ∈ filters.conditions, condition.IsLegible)
    (several : filters.conditions ≠ [])
    (found : fetch tables (Statement.select .id name filters).toSql = .ok rows) :
    ∃ selected : List Row, Execution.idsOf rows = Execution.idsOf selected ∧
      ∀ row ∈ selected, row ∈ table.rows ∧ Condition.allHold row filters.conditions = true := by
  rcases fetch_cases tables name filters with refused | ⟨query, holder, read, held, shown⟩
  · rcases refused .id with ⟨error, refused⟩
    rw [refused] at found
    cases found
  have same : query.table = name := (Query.of_reading named read).1
  rw [same, stored] at held
  cases held
  rw [shown .id, ofOrdered_eq_ok] at found
  rcases Option.map_eq_some_iff.1 found with ⟨selected, chosen, rfl⟩
  refine ⟨selected, by rw [project_id, idsOf_idOnly], fun row member => ?_⟩
  rcases List.mem_filter.1 ((Query.shown?_subperm chosen).subset member) with ⟨inside, holds⟩
  exact ⟨inside, allHold_of_reading named legible several read holds⟩

/-- Rows that fail the conditions stay when the rows with the selected ids are removed. -/
theorem Table.remove_keeps {tables : Tables} {name : String} {table : Table} {filters : FilterSet}
    {rows : List Row} (named : IsPlain name) (stored : Named.get? tables name = some table)
    (legible : ∀ condition ∈ filters.conditions, condition.IsLegible)
    (several : filters.conditions ≠ []) (apart : table.IdsApart)
    (found : fetch tables (Statement.select .id name filters).toSql = .ok rows) :
    (table.rows.filter fun row => !Condition.allHold row filters.conditions).Sublist
      (table.remove fun row => (Execution.idsOf rows).any fun id =>
        matchesAt "id" (Json.ofInt id) row).rows := by
  rcases idsOf_selected named stored legible several found with ⟨selected, same, satisfied⟩
  rw [same]
  -- A row that goes has the id of a selected row, so it is this row and satisfies the conditions.
  have gone : ∀ row ∈ table.rows, ((Execution.idsOf selected).any fun id =>
      matchesAt "id" (Json.ofInt id) row) = true →
        Condition.allHold row filters.conditions = true := by
    intro row member removed
    rcases List.any_eq_true.1 removed with ⟨id, counted, matched⟩
    rcases List.mem_map.1 counted with ⟨chosen, inside, rfl⟩
    rcases satisfied chosen inside with ⟨within, holds⟩
    rwa [apart chosen within row member matched]
  have kept : ∀ row ∈ table.rows, (!Condition.allHold row filters.conditions) =
      (!Condition.allHold row filters.conditions && !((Execution.idsOf selected).any fun id =>
        matchesAt "id" (Json.ofInt id) row)) := by
    intro row member
    cases holds : Condition.allHold row filters.conditions with
    | true => rfl
    | false =>
      have stays := mt (gone row member) (by simp [holds])
      simpa using stays
  rw [List.filter_congr kept, ← List.filter_filter]
  exact List.filter_sublist

end Memory

theorem Schema.selectIds_of_accept {schema : Schema} {filters accepted : FilterSet}
    (known : "id" ∈ schema.columns) (passed : schema.accept filters = .ok accepted) :
    schema.selectIds filters = .ok (.select .id schema.name accepted) := by
  simp [selectIds, column, hasColumn_iff.2 known, passed, bind, Except.bind, pure, Except.pure]

namespace Execution

variable {σ : Type} {execution : Execution σ} {filters : FilterSet} {state : σ}

/-! ## The steps of a removal -/

/-- The removal of rows of which the ids have been selected. -/
def removalOf (execution : Execution σ) (rows : List Row) : Action σ ApiError Json :=
  if rows.isEmpty then
    return .ofNat 0
  else do
    let receipt ← execution.change (execution.schema.deleteByIds (idsOf rows))
    return .ofNat receipt.affected

/-- Once its filters are read, a removal is what is left of it. -/
theorem ReadsFilters.destroy_apply (reads : execution.ReadsFilters filters) (state : σ) :
    (execution.destroy state).result = (execution.removal filters state).result ∧
      (execution.destroy state).state = (execution.removal filters state).state := by
  rcases reads.filters_apply state with ⟨entries, read⟩
  have first : (execution.filters state).result = .ok filters := by rw [read]
  rw [destroy_eq, bind_of_ok first, read]
  dsimp only
  split
  · rw [bind_of_ok rfl]
    exact ⟨rfl, rfl⟩
  · exact ⟨rfl, rfl⟩

/-- A removal goes on with the rows that the database gives for the question for their ids. -/
theorem ReadsFilters.destroy_of_answer (reads : execution.ReadsFilters filters)
    {statement : Statement} {rows : List Row}
    (made : execution.schema.selectIds filters = .ok statement)
    (answered : execution.database.fetchAll statement.toSql state = .quiet (.ok rows) state) :
    (execution.destroy state).result = (execution.removalOf rows state).result ∧
      (execution.destroy state).state = (execution.removalOf rows state).state := by
  have built : (build (.ok statement) : Action σ ApiError Statement) = pure statement := rfl
  have fetched := fetch_of_answer answered
  have success : (execution.fetch statement state).result = .ok rows := by rw [fetched]
  rcases reads.destroy_apply state with ⟨result, after⟩
  rw [result, after, removal, made, built, pure_bind, bind_of_ok success, fetched]
  exact ⟨rfl, rfl⟩

/-- A removal ends where the database refuses the question for the ids. -/
theorem ReadsFilters.destroy_of_refusal (reads : execution.ReadsFilters filters)
    {statement : Statement} {error : DatabaseError}
    (made : execution.schema.selectIds filters = .ok statement)
    (refused : execution.database.fetchAll statement.toSql state = .quiet (.error error) state) :
    (execution.destroy state).result = .error (.badRequest error.message) ∧
      (execution.destroy state).state = state := by
  have built : (build (.ok statement) : Action σ ApiError Statement) = pure statement := rfl
  have asked : execution.database.rows statement.toSql state =
      ⟨.error error, [.database (.fetchAll statement.toSql)], state⟩ := by
    simp only [Database.rows, call_apply, refused]
    rfl
  have failure : (execution.database.rows statement.toSql state).result = .error error := by
    rw [asked]
  have fetched : (execution.fetch statement state).result = .error (.badRequest error.message) ∧
      (execution.fetch statement state).state = state := by
    rw [fetch, rescue_of_error failure, asked]
    exact ⟨rfl, rfl⟩
  rcases reads.destroy_apply state with ⟨result, after⟩
  rw [result, after, removal, made, built, pure_bind, bind_of_error fetched.1]
  exact ⟨rfl, fetched.2⟩

end Execution

/-! ## What is removed -/

namespace Execution

variable {setup : Setup} {execution : Execution Tables} {filters : FilterSet} {tables : Tables}
  {name : String} {table : Table}

/-- What an outcome is when it has removed some rows of a table, and nothing else. -/
structure Removes (outcome : Outcome Tables ApiError Json) (tables : Tables) (name : String)
    (table : Table) (gone : List Row) : Prop where
  counted : outcome.result = .ok (.ofNat gone.length)
  left : ∃ left, Named.get? outcome.state name = some left ∧ table.Without gone left
  others : ∀ other ≠ name, Named.get? outcome.state other = Named.get? tables other

theorem Removes.congr {first second : Outcome Tables ApiError Json} {gone : List Row}
    (removes : Removes second tables name table gone) (result : first.result = second.result)
    (state : first.state = second.state) : Removes first tables name table gone :=
  ⟨result ▸ removes.counted, state ▸ removes.left, state ▸ removes.others⟩

/-- Selected rows are removed by the integers that their ids count as. -/
theorem removalOf_removes {gone : List Row} (bare : setup.Bare)
    (inMemory : execution.database = setup.database) (called : execution.schema.name = name)
    (named : IsPlain name) (stored : Named.get? tables name = some table)
    (apart : table.rows.Pairwise fun row other => ¬SameId row other)
    (within : gone.Subperm table.rows) (found : ∀ row ∈ gone, FindsItself row) :
    Removes (execution.removalOf (gone.map idOnly) tables) tables name table gone := by
  cases gone with
  | nil => exact ⟨rfl, ⟨table, stored, table.without_nil⟩, fun _ _ => rfl⟩
  | cons first others =>
    have changed := change_deleteAll named stored (idsOf (first :: others))
    have counted := (filter_idsOf_perm apart within found).length_eq
    rw [counted] at changed
    have deletes : execution.schema.deleteByIds (idsOf ((first :: others).map idOnly)) =
        .deleteAll name (idsOf (first :: others)) := by
      rw [idsOf_idOnly, Schema.deleteByIds, called]
    rcases change_apply bare inMemory changed with ⟨answered, left⟩
    have removal : execution.removalOf ((first :: others).map idOnly) = (do
        let receipt ← execution.change (.deleteAll name (idsOf (first :: others)))
        return .ofNat receipt.affected) := by
      rw [← deletes]
      rfl
    rw [removal, bind_of_ok answered, left]
    exact ⟨rfl, ⟨_, Named.get?_put_self _ _ _, Table.without_remove apart within found⟩,
      fun _ other => Named.get?_put_of_ne _ _ other⟩

/-- Filters remove the rows that a selection with the same filters returns.  Where the selection
returns none the removal changes nothing, and where it is refused so is the removal, unless the
selection broke off and there is no answer at all. -/
theorem destroy_removes_selected {statement : Statement} (bare : setup.Bare)
    (inMemory : execution.database = setup.database) (reads : execution.ReadsFilters filters)
    (schema : execution.schema = table.schema name) (named : IsPlain name)
    (stored : Named.get? tables name = some table) (numbered : "id" ∈ table.columns)
    (selects : execution.schema.select filters = .ok statement)
    (apart : table.rows.Pairwise fun row other => ¬SameId row other) :
    (∀ selected, (execution.database.fetchAll statement.toSql tables).result = .ok selected →
      (∀ row ∈ selected, FindsItself row) →
        Removes (execution.destroy tables) tables name table selected) ∧
    ∀ error, (execution.database.fetchAll statement.toSql tables).result = .error error →
      (execution.destroy tables).state = tables ∧
        ((∀ reason, error ≠ .broken reason) →
          ∃ message, (execution.destroy tables).result = .error (.badRequest message)) := by
  rcases Schema.of_select selects with ⟨accepted, passed, rfl⟩
  have called : execution.schema.name = name := by rw [schema]; rfl
  have known : "id" ∈ execution.schema.columns := by rw [schema]; exact numbered
  have made := Schema.selectIds_of_accept known passed
  have answers : ∀ projection, execution.database.fetchAll
      (Statement.select projection execution.schema.name accepted).toSql tables =
        .quiet (Memory.fetch tables (Statement.select projection name accepted).toSql) tables := by
    intro projection
    rw [inMemory, bare.fetchAll_eq, called]
  rw [answers]
  rcases fetch_cases tables name accepted with refused | ⟨query, found, read, held, shown⟩
  · rcases refused .all with ⟨_, refusedAll⟩
    rcases refused .id with ⟨reason, refusedIds⟩
    rw [refusedAll]
    constructor
    · intro selected answered
      cases answered
    · intro _ _
      have asked := answers .id
      rw [refusedIds] at asked
      rcases reads.destroy_of_refusal made asked with ⟨failed, same⟩
      exact ⟨same, fun _ => ⟨_, failed⟩⟩
  · have same : query.table = name := (Query.of_reading named read).1
    rw [same, stored] at held
    cases held
    have asked := answers .id
    rw [shown .all]
    rw [shown .id] at asked
    cases chosen : query.shown? table
        (accepted.conditions.map fun condition => .string condition.value) with
    | some rows =>
      rw [chosen, Option.map_some, project_id] at asked
      constructor
      · intro selected answered finds
        have same : rows = selected := Except.ok.inj answered
        subst same
        have within : rows.Subperm table.rows :=
          (Query.shown?_subperm chosen).trans List.filter_sublist.subperm
        rcases reads.destroy_of_answer made asked with ⟨removed, after⟩
        exact (removalOf_removes bare inMemory called named stored apart within finds).congr removed
          after
      · intro error answered
        cases answered
    | none =>
      rw [chosen] at asked
      constructor
      · intro selected answered
        cases answered
      · intro error answered
        have broken : error = disordered := (Except.error.inj answered).symm
        exact ⟨(reads.destroy_of_refusal made asked).2, fun replied => absurd broken (replied _)⟩

/-- A removal of filtered rows whose filters are read from a value. -/
def filteredRemoval (table : Table) (params : Json) : Execution Tables where
  database := Setup.plain.database
  schema := table.schema "items"
  descriptor := ⟨.delete, some "", some .wildcard, none, none, true⟩
  context := ⟨.delete, "items", .destroy, none, ["api", "destroy", "items"], none, "", [], true⟩
  input := ⟨none, "items", "Destroy", params, ""⟩

/-- Ids of several kinds, one of which is found under no integer. -/
def mixedItems : Table :=
  ⟨["id", "name"],
    [[("id", Json.ofInt 3), ("name", .string "pen")],
      [("id", .string "abc"), ("name", .string "cup")],
      [("id", .string "007"), ("name", .string "pen")],
      [("id", .bool true), ("name", .string "pen")]]⟩

/-- Of three selected rows the two with the largest ids are removed, whatever their kind. -/
theorem destroy_removes_selected_mixed :
    Removes
      ((filteredRemoval mixedItems (.object [("name", .string "pen"),
        ("order_by", .string "id desc"), ("limit", Json.ofNat 2)])).destroy [("items", mixedItems)])
      [("items", mixedItems)] "items" mixedItems
      [[("id", .string "007"), ("name", .string "pen")],
        [("id", Json.ofInt 3), ("name", .string "pen")]] := by
  have given : FilterBody.filters (.object [("name", .string "pen"),
      ("order_by", .string "id desc"), ("limit", Json.ofNat 2)]) =
        .ok ⟨[⟨"name", .equal, "pen", .and⟩], some "id desc", some 2, none⟩ :=
    Result.ok_of_toOption (by decide +kernel)
  have reads : (filteredRemoval mixedItems (.object [("name", .string "pen"),
      ("order_by", .string "id desc"), ("limit", Json.ofNat 2)])).ReadsFilters
        ⟨[⟨"name", .equal, "pen", .and⟩], some "id desc", some 2, none⟩ := ⟨rfl, given⟩
  have apart : mixedItems.rows.Pairwise fun row other => ¬SameId row other := by
    decide +kernel
  have selects : (mixedItems.schema "items").select
      ⟨[⟨"name", .equal, "pen", .and⟩], some "id desc", some 2, none⟩ =
        .ok (.select .all "items"
          ⟨[⟨"name", .equal, "pen", .and⟩], some "id desc", some 2, none⟩) :=
    Result.ok_of_toOption (by decide +kernel)
  have answered : (Setup.plain.database.fetchAll (Statement.select .all "items"
      ⟨[⟨"name", .equal, "pen", .and⟩], some "id desc", some 2, none⟩).toSql
        [("items", mixedItems)]).result =
      .ok [[("id", .string "007"), ("name", .string "pen")],
        [("id", Json.ofInt 3), ("name", .string "pen")]] :=
    Result.ok_of_toOption (by decide +kernel)
  have bare : Setup.plain.Bare := ⟨rfl, rfl⟩
  exact (destroy_removes_selected bare rfl reads rfl (by decide) rfl (by decide) selects apart).1 _
    answered (by decide +kernel)

/-- An id that is no number counts as zero, so the row with the id zero goes in place of the one
that was selected. -/
theorem destroy_removes_other :
    let table : Table := ⟨["id", "name"],
      [[("id", .string "abc"), ("name", .string "x")],
        [("id", Json.ofInt 0), ("name", .string "y")]]⟩
    let outcome := (filteredRemoval table (.object [("name", .string "x")])).destroy
      [("items", table)]
    (table.rows.Pairwise fun row other => ¬SameId row other) ∧
      FilterSet.chosen? (.ofCondition ⟨"name", .equal, "x", .and⟩) table.rows =
        some [[("id", .string "abc"), ("name", .string "x")]] ∧
      outcome.result.toOption = some (.ofNat 1) ∧
      outcome.state =
        [("items", ⟨["id", "name"], [[("id", .string "abc"), ("name", .string "x")]]⟩)] := by
  decide +kernel

end Execution

/-! ## Requests that remove -/

namespace Service

variable {setup : Setup} {service : Service Tables} {context : Context} {tables : Tables}
  {table : Table} {filters : FilterSet}

/-- The filters of a removal that comes to its endpoint are those of its body. -/
theorem readsFilters_of_cleared {execution : Execution Tables} {descriptor : Descriptor}
    (cleared : Cleared service context tables execution) (verb : context.verb ≠ .get)
    (described : service.documents.descriptor context.table context.endpoint = .ok descriptor)
    (enabled : descriptor.enableParams = true) (unhooked : descriptor.beforeHook = none)
    (posted : FilterBody.filtersOfBytes context.body = .ok filters)
    (several : filters.conditions ≠ []) : execution.ReadsFilters filters := by
  have same : execution.descriptor = descriptor :=
    Except.ok.inj (cleared.described.symm.trans described)
  rcases cleared.prepared with ⟨token, value, before, _, decoded, prepared⟩
  have given : execution.input.params = value := by
    simp only [prepare, same, unhooked] at prepared
    rw [← Except.ok.inj prepared]
  refine ⟨same ▸ enabled, ?_⟩
  rw [if_neg (cleared.sameContext ▸ verb), given]
  have filled : context.body.all FilterBody.isSpace = false := by
    refine Bool.eq_false_iff.2 fun blank => several ?_
    simp only [FilterBody.filtersOfBytes, blank, if_true] at posted
    cases posted
    rfl
  simp only [params, verb, filled, decide_false, Bool.or_self, Bool.false_eq_true, if_false,
    Result.mapError_eq_ok] at decoded
  simpa only [FilterBody.filtersOfBytes, filled, decoded, Bool.false_eq_true, if_false] using posted

/-- A removal keeps every row that fails the posted conditions. -/
theorem handle_keeps_unmatched {request : Request} {tokenHeader : String} {descriptor : Descriptor}
    (inMemory : service.database = setup.database) (readOnly : service.tokens.ReadOnly)
    (built : request.context tokenHeader = .ok context) (endpoint : context.endpoint = .destroy)
    (described : service.documents.descriptor context.table context.endpoint = .ok descriptor)
    (enabled : descriptor.enableParams = true) (unhooked : descriptor.beforeHook = none)
    (posted : FilterBody.filtersOfBytes context.body = .ok filters)
    (several : filters.conditions ≠ [])
    (stored : Named.get? tables context.table = some table)
    (legible : ∀ condition ∈ filters.conditions, condition.IsLegible)
    (uncanned : ∀ statement, (table.schema context.table).selectIds filters = .ok statement →
      setup.answerTo? statement.toSql.query = none)
    (apart : table.IdsApart) :
    ∃ left, Named.get? (service.handle context tables).state context.table = some left ∧
      left.columns = table.columns ∧ left.rows.Sublist table.rows ∧
      (table.rows.filter fun row => !Condition.allHold row filters.conditions).Sublist
        left.rows := by
  have steady : service.database.Steady := inMemory ▸ setup.steady
  rcases state_cases steady readOnly with same | ⟨execution, statement, asked, receipt, readied,
    checked, carried, left⟩
  · rw [same]
    exact ⟨table, stored, rfl, List.Sublist.refl _, List.filter_sublist⟩
  have cleared := cleared_of_ready readied
  rcases stored_of_schema inMemory cleared.gated with ⟨named, found, held, schema⟩
  rw [stored] at held
  cases held
  have verb : context.verb ≠ .get := by
    rw [← Request.endpoint_verb built, endpoint]
    decide
  have removal : execution.context.endpoint = .destroy := cleared.sameContext ▸ endpoint
  have reads := readsFilters_of_cleared cleared verb described enabled unhooked posted several
  cases checked with
  | create other => rw [removal] at other; cases other
  | insertBatch other => rw [removal] at other; cases other
  | update other => rw [removal] at other; cases other
  | deleteOne other => rw [removal] at other; cases other
  | @destroy own accepted rows _ read known passed answered =>
    have same : own = filters := by
      rcases reads.filters_apply tables with ⟨entries, given⟩
      rw [given] at read
      exact (Except.ok.inj read).symm
    rw [same] at passed
    have called : execution.schema.name = context.table := by rw [schema]; rfl
    have conditions := (Schema.of_accept passed).1
    have numbered : "id" ∈ (table.schema context.table).columns := schema ▸ known
    have fetched : fetch tables (Statement.select .id context.table accepted).toSql = .ok rows := by
      rw [cleared.sameDatabase, inMemory, called] at answered
      exact Setup.fetch_of_answer answered
        (uncanned _ (Schema.selectIds_of_accept numbered (schema ▸ passed)))
    have changed := change_deleteAll named stored (Execution.idsOf rows)
    rw [inMemory, called] at carried left
    refine ⟨table.remove fun row => (Execution.idsOf rows).any fun id =>
      matchesAt "id" (Json.ofInt id) row, ?_, rfl, List.filter_sublist, ?_⟩
    · rw [left, Setup.state_of_execute carried changed]
      exact Named.get?_put_self _ _ _
    · rw [← conditions] at legible several ⊢
      exact Table.remove_keeps named stored legible several apart fetched

/-- A service that lets anyone remove rows of its only table, by filters if these are enabled. -/
def removalService (setup : Setup) (enabled : String) : Service Tables where
  database := setup.database
  tokens := .ofKnown []
  documents := ⟨"modules", Files.empty.write "modules/items/assets/api.json" (some
    ("\x7b\"Destroy\":\x7b\"request_type\":\"DELETE\",\"authorization\":\"*\"," ++
      "\"enableParams\":" ++ enabled ++ "\x7d\x7d").toUTF8.toList)⟩
  hooks := .empty
  bypassToken := none
  audit := false

def itemRemoval (body : String) : Request :=
  ⟨"DELETE", "/api/destroy/items", none, ⟨[]⟩, body.toUTF8.toList⟩

def itemRemovalContext (body : String) : Context :=
  ⟨.delete, "items", .destroy, none, ["api", "destroy", "items"], none, "", body.toUTF8.toList,
    true⟩

/-- Of three items the dear one is kept when the cheap ones are removed. -/
theorem handle_keeps_unmatched_items :
    let dear : Row := [("id", Json.ofInt 2), ("price", Json.ofInt 80)]
    let items : Table := ⟨["id", "price"],
      [[("id", Json.ofInt 1), ("price", Json.ofInt 10)], dear,
        [("id", Json.ofInt 3), ("price", Json.ofInt 20)]]⟩
    ∃ left, Named.get? ((removalService .plain "true").handle
        (itemRemovalContext "\x7b\"price <\":30\x7d") [("items", items)]).state "items" =
          some left ∧
      [dear].Sublist left.rows := by
  intro dear items
  have described : (removalService .plain "true").documents.descriptor "items" .destroy =
      .ok ⟨.delete, some "", some .wildcard, none, none, true⟩ :=
    Result.ok_of_toOption (by decide +kernel)
  have posted : FilterBody.filtersOfBytes "\x7b\"price <\":30\x7d".toUTF8.toList =
      .ok (.ofCondition ⟨"price", .less, "30", .and⟩) :=
    Result.ok_of_toOption (by decide +kernel)
  have numbered : ∀ row ∈ items.rows, ∃ id : Int, id.natAbs < Double.exactBound ∧
      Fields.get? row "id" = some (Json.ofInt id) := by
    simp only [items, dear, List.mem_cons, List.not_mem_nil, or_false]
    rintro row (rfl | rfl | rfl)
    · exact ⟨1, by decide, rfl⟩
    · exact ⟨2, by decide, rfl⟩
    · exact ⟨3, by decide, rfl⟩
  have apart : items.IdsApart := Table.idsApart_of_exact numbered (by decide)
  have built : (itemRemoval "\x7b\"price <\":30\x7d").context "token" =
      .ok (itemRemovalContext "\x7b\"price <\":30\x7d") := rfl
  have stored : Named.get? [("items", items)] "items" = some items := rfl
  have legible : ∀ condition ∈ (FilterSet.ofCondition ⟨"price", .less, "30", .and⟩).conditions,
      condition.IsLegible := by
    intro condition member
    rw [List.mem_singleton.1 member]
    exact Condition.isLegible_of_isPlain (by decide)
  rcases handle_keeps_unmatched rfl (TokenStore.ofKnown_readOnly []) built rfl described rfl rfl
    posted (by decide) stored legible (fun _ _ => rfl) apart with ⟨left, held, _, _, kept⟩
  have failing : (items.rows.filter fun row =>
      !Condition.allHold row [⟨"price", .less, "30", .and⟩]) = [dear] := by decide +kernel
  exact ⟨left, held, failing ▸ kept⟩

/-- The rows that fail the posted conditions and are gone after a removal. -/
def dropped (service : Service Tables) (body : String) (table : Table) : List Row :=
  match FilterBody.filtersOfBytes body.toUTF8.toList,
      Named.get? (service.handle (itemRemovalContext body) [("items", table)]).state "items" with
  | .ok filters, some left => table.rows.filter fun row =>
      !Condition.allHold row filters.conditions && !left.rows.contains row
  | _, _ => []

/-- A row that fails the conditions goes where filters are switched off, where its id and that of a
selected row are the same double, where a canned answer names it, and where the name of a column is
read as a conjunction and another column, or its end as part of the sign. -/
theorem handle_drops_unmatched :
    let other : Row := [("id", Json.ofInt 2), ("name", .string "y")]
    let items : Table := ⟨["id", "name"], [[("id", Json.ofInt 1), ("name", .string "x")], other]⟩
    let large : Row := [("id", Json.ofInt 9007199254740993), ("name", .string "y")]
    let alike : Table :=
      ⟨["id", "name"], [[("id", Json.ofInt 9007199254740992), ("name", .string "x")], large]⟩
    let spaced : Row := [("id", Json.ofInt 1), ("a", .string "x"), ("AND a", .string "y")]
    let signed : Row := [("id", Json.ofInt 1), ("a", Json.ofInt 3), ("a<", Json.ofInt 7)]
    let canned : Setup := ⟨[("SELECT id", [[("id", Json.ofInt 2)]])], [], none⟩
    dropped (removalService .plain "false") "\x7b\"name\":\"x\"\x7d" items = [other] ∧
      dropped (removalService .plain "true") "\x7b\"name\":\"x\"\x7d" alike = [large] ∧
      dropped (removalService canned "true") "\x7b\"name\":\"x\"\x7d" items = [other] ∧
      dropped (removalService .plain "true") "\x7b\"AND a =\":\"x\"\x7d"
        ⟨["id", "a", "AND a"], [spaced]⟩ = [spaced] ∧
      dropped (removalService .plain "true") "\x7b\"a< =\":\"5\"\x7d"
        ⟨["id", "a", "a<"], [signed]⟩ = [signed] := by
  refine ⟨?_, ?_, ?_, ?_, ?_⟩
  · decide +kernel
  · decide +kernel
  · decide +kernel
  · decide +kernel
  · decide +kernel

end Service

end TableApi
