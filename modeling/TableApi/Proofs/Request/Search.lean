import TableApi.Proofs.Filter.Body
import TableApi.Proofs.Filter.QueryString
import TableApi.Proofs.Request.Handling

/-!
# The same rows by either grammar

The rows of a table can be asked for with filters in the query string or in the body.  A request
with filters ends in one of two ways once it is admitted: the database is asked for the rows that
the filters mean, or the filters are refused.  Which of the two, and with which statement or error,
depends on the filter set alone, so both grammars lead to the same statement or the same error.
-/

namespace TableApi

/-! ## Schema errors -/

/-- What a client sees of a schema error, wherever it is raised. -/
def SchemaError.Shows (error : SchemaError) (shown : ApiError) : Prop :=
  ∃ entries : List LogEntry, ∀ {σ α : Type} (state : σ),
    (error.raise : Action σ ApiError α) state = ⟨.error shown, entries.map .log, state⟩

theorem SchemaError.exists_shows (error : SchemaError) : ∃ shown, error.Shows shown := by
  cases error with
  | database cause => exact ⟨_, [.plain .error _], fun _ => rfl⟩
  | _ => exact ⟨_, [], fun _ => rfl⟩

/-! ## Rows and their filters -/

namespace Execution

variable {σ : Type} {execution : Execution σ} {filters : FilterSet} {state : σ}

/-- The filters of a request are read without asking for anything. -/
structure ReadsFilters (execution : Execution σ) (filters : FilterSet) : Prop where
  enabled : execution.descriptor.enableParams = true
  given : if execution.context.verb = .get then
      QueryString.filters execution.input.query = filters
    else FilterBody.filters execution.input.params = .ok filters

theorem ReadsFilters.filters_apply (reads : execution.ReadsFilters filters) (state : σ) :
    ∃ entries : List LogEntry,
      execution.filters state = ⟨.ok filters, entries.map .log, state⟩ := by
  rcases reads with ⟨enabled, given⟩
  by_cases get : execution.context.verb = .get
  · rw [if_pos get] at given
    refine ⟨QueryString.ignored execution.input.query, ?_⟩
    simp only [Execution.filters, enabled, get, if_true, given]
    rw [Action.bind_of_ok rfl]
    simp
  · rw [if_neg get] at given
    refine ⟨[], ?_⟩
    simp only [Execution.filters, enabled, get, if_true, if_false, given]
    rfl

/-- What is left of a request for rows once the filters have been read. -/
def listing (execution : Execution σ) (filters : FilterSet) : Action σ ApiError Json := do
  let statement ← build (execution.schema.select filters)
  let rows ← execution.fetch statement
  return .array (rows.map .object)

theorem ReadsFilters.rows_apply (reads : execution.ReadsFilters filters) (state : σ) :
    ∃ entries : List LogEntry,
      execution.rows state =
        ⟨(execution.listing filters state).result,
          entries.map .log ++ (execution.listing filters state).events,
          (execution.listing filters state).state⟩ := by
  rcases reads.filters_apply state with ⟨entries, read⟩
  have first : (execution.filters state).result = .ok filters := by rw [read]
  refine ⟨entries, (Action.bind_of_ok first).trans ?_⟩
  rw [read]
  rfl

/-- A statement that the filters are made into is the one question of a request for its rows. -/
theorem ReadsFilters.effects_asking (reads : execution.ReadsFilters filters)
    {made : FilterSet → Except SchemaError Statement} {statement : Statement}
    (accepted : made filters = .ok statement) (answer : List Row → Json) (state : σ) :
    effects ((do
      let filters ← execution.filters
      let statement ← build (made filters)
      let rows ← execution.fetch statement
      return answer rows : Action σ ApiError Json) state).events =
        [.database (.fetchAll statement.toSql)] := by
  have asked : ∀ before, effects (execution.fetch statement before).events =
      [.database (.fetchAll statement.toSql)] := by
    intro before
    rw [fetch, Action.effects_rescue DatabaseError.raise_declines]
    simp [Database.rows, Action.call, Event.isEffect]
  rcases reads.filters_apply state with ⟨entries, read⟩
  have first : (execution.filters state).result = .ok filters := by rw [read]
  have built : (build (.ok statement) : Action σ ApiError Statement) = pure statement := rfl
  rw [Action.bind_of_ok first, read, accepted, built, pure_bind, effects_append, effects_map_log,
    List.nil_append, Action.effects_bind_of_quiet fun _ _ => rfl, asked]

/-- Filters that are accepted lead to one question for the rows that they mean. -/
theorem ReadsFilters.effects_rows (reads : execution.ReadsFilters filters) {statement : Statement}
    (selected : execution.schema.select filters = .ok statement) (state : σ) :
    effects (execution.rows state).events = [.database (.fetchAll statement.toSql)] :=
  reads.effects_asking selected (fun rows => .array (rows.map .object)) state

/-- Conditions that are accepted lead to one question for the number of rows that satisfy them. -/
theorem ReadsFilters.effects_count (reads : execution.ReadsFilters filters) {statement : Statement}
    (counted : execution.schema.count filters = .ok statement) (state : σ) :
    effects (execution.count state).events = [.database (.fetchAll statement.toSql)] :=
  reads.effects_asking counted (fun rows => .ofInt (countIn rows)) state

/-- Filters that are refused end the request before anything is asked. -/
theorem ReadsFilters.rows_of_refused (reads : execution.ReadsFilters filters)
    {error : SchemaError} {shown : ApiError}
    (refused : execution.schema.select filters = .error error) (shows : error.Shows shown)
    (state : σ) :
    (execution.rows state).result = .error shown ∧ effects (execution.rows state).events = [] := by
  rcases shows with ⟨entries, raised⟩
  rcases reads.rows_apply state with ⟨earlier, ran⟩
  have built : (build (.error error) : Action σ ApiError Statement) state =
      ⟨.error shown, entries.map .log, state⟩ := raised state
  have failed : ((build (.error error) : Action σ ApiError Statement) state).result =
      .error shown := by rw [built]
  rw [listing, refused, Action.bind_of_error failed, built] at ran
  rw [ran]
  exact ⟨rfl, by simp⟩

end Execution

/-! ## Requests for rows -/

namespace Service

variable {σ : Type} {service : Service σ} {context : Context} {state : σ}

/-- A request whose endpoint lets requests filter and has no hooks, and which is authorized if its
table can be looked up. -/
structure Filterable (service : Service σ) (context : Context) (state : σ)
    (descriptor : Descriptor) : Prop where
  described : service.documents.descriptor context.table context.endpoint = .ok descriptor
  verb : descriptor.verb = context.verb
  enabled : descriptor.enableParams = true
  unhooked : descriptor.beforeHook = none ∧ descriptor.afterHook = none
  admitted : ∀ schema, (service.schema context state).result = .ok schema → ∃ token,
    (service.authorize descriptor schema context (service.schema context state).state).result =
      .ok token

/-- A request for rows that carries these filters, in its query string or in its body. -/
inductive Carries (context : Context) (filters : FilterSet) : Prop
  | query (verb : context.verb = .get) (endpoint : context.endpoint = .get)
      (given : context.query = filters.queryText)
  | body (verb : context.verb = .post) (endpoint : context.endpoint = .search)
      {bound : Nat → Json} (spells : ∀ value, (bound value).scalarText? = some (toString value))
      (given : Json.read context.body = .ok (filters.form bound))

/-- How a request for rows ends once its table has been looked up: with one question after those of
the earlier stages, or with an error and no question. -/
structure Ends (service : Service σ) (context : Context) (state : σ) (schema : Schema)
    (filters : FilterSet) : Prop where
  asked : ∀ statement, schema.select filters = .ok statement →
    effects (service.handle context state).events =
      effects (service.ready context state).events ++ [.database (.fetchAll statement.toSql)]
  refused : ∀ error shown, schema.select filters = .error error → error.Shows shown →
    (service.handle context state).result = .error shown ∧
      effects (service.handle context state).events = effects (service.ready context state).events

/-- The filters of a request are decoded before its endpoint runs. -/
theorem params_of_carries {filters : FilterSet} (carries : Carries context filters)
    (isQuery : filters.IsQuery) (isForm : filters.IsForm) :
    ∃ value, params context = .ok value ∧
      if context.verb = .get then QueryString.filters context.query = filters
      else FilterBody.filters value = .ok filters := by
  cases carries with
  | query verb endpoint given =>
    refine ⟨.null, by simp [params, verb], ?_⟩
    rw [if_pos verb, given]
    exact QueryString.filters_queryText isQuery
  | body verb endpoint spells given =>
    have filled : context.body.all FilterBody.isSpace = false :=
      Bool.eq_false_iff.2 fun blank => FilterBody.read_of_blank blank _ given
    refine ⟨_, by simp [params, verb, filled, given, Except.mapError]; rfl, ?_⟩
    rw [if_neg (by simp [verb])]
    exact FilterSet.filters_form isForm spells

/-- A request with filters is ready once its table has been looked up. -/
theorem ready_of_filterable {descriptor : Descriptor} {schema : Schema} {filters : FilterSet}
    (filterable : service.Filterable context state descriptor) (carries : Carries context filters)
    (isQuery : filters.IsQuery) (isForm : filters.IsForm)
    (gated : (service.schema context state).result = .ok schema) :
    ∃ execution, (service.ready context state).result = .ok execution ∧
      execution.ReadsFilters filters ∧ execution.schema = schema ∧ execution.run = execution.rows ∧
        execution.descriptor.afterHook = none := by
  rcases filterable.admitted schema gated with ⟨token, admitted⟩
  rcases params_of_carries carries isQuery isForm with ⟨value, decoded, given⟩
  have described := service.descriptor_of_described context filterable.described filterable.verb
  let data : HookInput := ⟨token, schema.name, context.endpoint.name, value, context.query⟩
  have prepared : service.prepare descriptor data = pure data := by
    simp only [prepare, filterable.unhooked.1]
  let execution : Execution σ := ⟨service.database, schema, descriptor, context, data⟩
  refine ⟨execution, ?_, ⟨filterable.enabled, given⟩, rfl, ?_, filterable.unhooked.2⟩
  · rw [ready, described, pure_bind, Action.bind_of_ok gated, Action.bind_of_ok admitted, decoded,
      Action.bind_of_ok rfl, prepared]
    rfl
  · cases carries with
    | query verb endpoint given => simp [execution, Execution.run, endpoint]
    | body verb endpoint spells given => simp [execution, Execution.run, endpoint]

/-- A request with filters ends as the filters make it end. -/
theorem ends_of_filterable {descriptor : Descriptor} {schema : Schema} {filters : FilterSet}
    (filterable : service.Filterable context state descriptor) (carries : Carries context filters)
    (isQuery : filters.IsQuery) (isForm : filters.IsForm)
    (gated : (service.schema context state).result = .ok schema) :
    Ends service context state schema filters := by
  rcases ready_of_filterable filterable carries isQuery isForm gated with
    ⟨execution, readied, reads, rfl, rows, unhooked⟩
  have concluded : ∀ data, service.conclude execution.descriptor data = pure data := by
    intro data
    simp only [conclude, unhooked]
  have handled : service.handle context state = _ :=
    (congrFun (handle_eq_ready service context) state).trans (Action.bind_of_ok readied)
  constructor
  · intro statement selected
    rw [handled, rows, effects_append, Action.effects_bind_of_quiet, reads.effects_rows selected]
    intro body after
    rw [concluded]
    rfl
  · intro error shown refused shows
    rcases reads.rows_of_refused refused shows (service.ready context state).state with
      ⟨failed, quiet⟩
    rw [handled, rows, effects_append, Action.bind_of_error failed, quiet, List.append_nil]
    exact ⟨rfl, rfl⟩

/-- How two requests for rows end that mean the same: with the same question, or with the same
schema error and no question. -/
inductive SameEnd (service : Service σ) (first second : Context) (filters : FilterSet) (state : σ) :
    Prop
  | asked {schema : Schema} {statement : Statement}
      (gated : (service.schema first state).result = .ok schema)
      (selected : schema.select filters = .ok statement)
      (one : effects (service.handle first state).events =
        effects (service.ready first state).events ++ [.database (.fetchAll statement.toSql)])
      (other : effects (service.handle second state).events =
        effects (service.ready second state).events ++ [.database (.fetchAll statement.toSql)]) :
      SameEnd service first second filters state
  | refused (error : SchemaError) (shown : ApiError) (shows : error.Shows shown)
      (one : (service.handle first state).result = .error shown ∧
        effects (service.handle first state).events = effects (service.ready first state).events)
      (other : (service.handle second state).result = .error shown ∧
        effects (service.handle second state).events =
          effects (service.ready second state).events) :
      SameEnd service first second filters state

/-- A request whose table cannot be looked up ends with that error. -/
theorem handle_of_ungated {descriptor : Descriptor}
    (filterable : service.Filterable context state descriptor) {error : SchemaError}
    {shown : ApiError} (shows : error.Shows shown)
    (failed : (Schema.load service.database context.table state).result = .error error) :
    (service.handle context state).result = .error shown ∧
      effects (service.handle context state).events =
        effects (service.ready context state).events := by
  have described := service.descriptor_of_described context filterable.described filterable.verb
  have stopped : (service.schema context state).result = .error shown := by
    rcases shows with ⟨entries, raised⟩
    rw [Service.schema, Action.rescue_of_error failed, raised]
  have unready : (service.ready context state).result = .error shown := by
    rw [ready, described, pure_bind, Action.bind_of_error stopped]
  rw [handle_eq_ready, Action.bind_of_error unready]
  exact ⟨rfl, rfl⟩

/-- Two requests for the rows of a table that carry the same filters end in the same way. -/
theorem sameEnd_of_filterable {first second : Context} {one other : Descriptor}
    {filters : FilterSet} (sameTable : first.table = second.table)
    (filterable : service.Filterable first state one)
    (filterableOther : service.Filterable second state other) (carries : Carries first filters)
    (carriesOther : Carries second filters) (isQuery : filters.IsQuery) (isForm : filters.IsForm) :
    SameEnd service first second filters state := by
  have sameGate : service.schema second = service.schema first := by
    simp only [Service.schema, sameTable]
  cases loaded : (Schema.load service.database first.table state).result with
  | error error =>
    rcases error.exists_shows with ⟨shown, shows⟩
    exact .refused error shown shows (handle_of_ungated filterable shows loaded)
      (handle_of_ungated filterableOther shows (sameTable ▸ loaded))
  | ok schema =>
    have gated : (service.schema first state).result = .ok schema := by
      rw [Service.schema, Action.rescue_of_ok loaded]
    have ends := ends_of_filterable filterable carries isQuery isForm gated
    have endsOther := ends_of_filterable filterableOther carriesOther isQuery isForm
      (sameGate ▸ gated)
    cases selected : schema.select filters with
    | ok statement =>
      exact .asked gated selected (ends.asked statement selected)
        (endsOther.asked statement selected)
    | error error =>
      rcases error.exists_shows with ⟨shown, shows⟩
      exact .refused error shown shows (ends.refused error shown selected shows)
        (endsOther.refused error shown selected shows)

/-- A filter set whose columns are no bare marks is read back from a body, and a request that
carries it there asks the same question, or is refused for the same reason, as one that carries it
in its query string. -/
theorem forms_and_queries :
    (∀ (filters : FilterSet) (bound : Nat → Json), filters.IsForm →
      (∀ value, (bound value).scalarText? = some (toString value)) →
        FilterBody.filters (filters.form bound) = .ok filters) ∧
    ∀ {σ : Type} (service : Service σ) (first second : Context) (one other : Descriptor)
      (filters : FilterSet) (state : σ), first.table = second.table →
        service.Filterable first state one → service.Filterable second state other →
          Carries first filters → Carries second filters → filters.IsQuery → filters.IsForm →
            SameEnd service first second filters state := by
  constructor
  · intro filters bound isForm spells
    exact FilterSet.filters_form isForm spells
  · intro σ service first second one other filters state sameTable filterable filterableOther
      carries carriesOther isQuery isForm
    exact sameEnd_of_filterable sameTable filterable filterableOther carries carriesOther isQuery
      isForm

/-- A service that lets anyone filter the rows of its only table. -/
def filteredService : Service Memory.Tables where
  database := Memory.Setup.plain.database
  tokens := .ofKnown []
  documents := ⟨"modules", Files.empty.write "modules/items/assets/api.json" (some
    ("\x7b\"Get\":\x7b\"request_type\":\"GET\",\"authorization\":\"*\"," ++
      "\"enableParams\":true\x7d,\"Search\":\x7b\"request_type\":\"POST\",\"authorization\":\"*\"," ++
        "\"enableParams\":true\x7d\x7d").toUTF8.toList)⟩
  hooks := .empty
  bypassToken := none
  audit := false

def itemTables : Memory.Tables :=
  [("items", ⟨["id", "price", "a<b"], []⟩)]

theorem forms_and_queries_of_priced :
    SameEnd filteredService
      ⟨.get, "items", .get, none, ["items"], none,
        "price%3E=10&OR%20a%3Cb%21=x%26y&orderBy=price%20DESC&limit=5&offset=10", [], false⟩
      ⟨.post, "items", .search, none, ["items", "search"], none, "",
        ("\x7b\"price >=\":\"10\",\"OR a<b !=\":\"x&y\",\"order_by\":" ++
          "\"price DESC\",\"limit\":5,\"offset\":10\x7d").toUTF8.toList, false⟩
      QueryString.pricedOrNoted itemTables := by
  have gets : filteredService.documents.descriptor "items" .get =
      .ok ⟨.get, some "", some .wildcard, none, none, true⟩ :=
    Result.ok_of_toOption (by decide +kernel)
  have searches : filteredService.documents.descriptor "items" .search =
      .ok ⟨.post, some "search", some .wildcard, none, none, true⟩ :=
    Result.ok_of_toOption (by decide +kernel)
  have isForm : QueryString.pricedOrNoted.IsForm :=
    ⟨QueryString.pricedOrNoted_isQuery.named, by decide, by decide, by decide, by decide, by decide⟩
  have body : Json.read ("\x7b\"price >=\":\"10\",\"OR a<b !=\":\"x&y\",\"order_by\":" ++
      "\"price DESC\",\"limit\":5,\"offset\":10\x7d").toUTF8.toList =
        .ok (QueryString.pricedOrNoted.form Json.ofNat) :=
    Result.ok_of_toOption (by decide +kernel)
  exact forms_and_queries.2 filteredService _ _ _ _ QueryString.pricedOrNoted itemTables rfl
    ⟨gets, rfl, rfl, ⟨rfl, rfl⟩, fun _ _ => ⟨none, rfl⟩⟩
    ⟨searches, rfl, rfl, ⟨rfl, rfl⟩, fun _ _ => ⟨none, rfl⟩⟩
    (.query rfl rfl (by decide +kernel)) (.body rfl rfl (fun _ => rfl) body)
    QueryString.pricedOrNoted_isQuery isForm

end Service

end TableApi
