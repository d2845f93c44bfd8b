import TableApi.Proofs.Database.Ordering
import TableApi.Proofs.Request.Ownership
import TableApi.Proofs.Request.Search

/-!
# Pages and their number

A page is what a limit and an offset leave of the rows that some filters mean.  The window travels
to the database as text, where a missing offset is written as zero and a missing limit as the
largest word, and it is cut out there after the rows have been filtered and ordered.  So every page
is a stretch of one list, and neighbouring stretches join: `page_append_page`.

The number of rows is asked for with another statement, which keeps the conditions alone.  To put
rows in order loses none of them, so the number is the length of the list that the pages are cut
from.

All this is about rows that can be ordered, as few rows can, and rows with values of one kind:
`FilterSet.exists_arranged`.  Where their ordering breaks off there are no pages, and a number all
the same: `pages_break_off`.
-/

namespace TableApi

open TableApi.Action Memory

/-- Rows that a signed word can count are fewer than the limit that is written for none. -/
theorem Memory.Table.length_le_largestWord {table : Table}
    (few : (table.rows.length : Int) ≤ Text.largestInteger) :
    table.rows.length ≤ Text.largestWord := by
  simp only [Text.largestInteger, Text.largestWord] at few ⊢
  omega

/-- Two pages, the second of which starts where the first ends, are one page. -/
theorem Memory.page_append_page {α : Type} (offset first second : Nat) (rows : List α) :
    page offset first rows ++ page (offset + first) second rows =
      page offset (first + second) rows := by
  rw [page, page, page, List.take_add, List.drop_drop]

namespace FilterSet

variable {filters : FilterSet}

/-- The filters with another offset and limit. -/
def paged (filters : FilterSet) (offset limit : Option Nat) : FilterSet :=
  { filters with limit, offset }

/-- The rows that satisfy the conditions, in the order of the order clause, unless their ordering
breaks off. -/
def listed? (filters : FilterSet) (rows : List Row) : Option (List Row) :=
  filters.arranged? (filters.satisfying rows)

/-- Every page is cut from the same list. -/
theorem chosen?_paged {rows listed : List Row} (ordered : filters.listed? rows = some listed)
    (offset limit : Option Nat) : (filters.paged offset limit).chosen? rows =
      some ((filters.paged offset limit).windowed listed) :=
  congrArg (Option.map (filters.paged offset limit).windowed) ordered

theorem windowed_paged_none (rows : List Row) :
    (filters.paged none none).windowed rows = rows := rfl

theorem windowed_paged_offset (offset : Nat) (rows : List Row) :
    (filters.paged (some offset) none).windowed rows = rows.drop offset := rfl

theorem windowed_paged (offset limit : Nat) (rows : List Row) :
    (filters.paged (some offset) (some limit)).windowed rows = page offset limit rows := rfl

theorem isSmall_paged {offset limit : Option Nat}
    (offsets : ∀ value ∈ offset, value ≤ Text.largestWord)
    (limits : ∀ value ∈ limit, value ≤ Text.largestWord) : (filters.paged offset limit).IsSmall :=
  ⟨limits, offsets⟩

end FilterSet

namespace Schema

variable {schema : Schema} {filters accepted : FilterSet}

/-- Whether filters are accepted does not depend on their window. -/
theorem accept_paged (passed : schema.accept filters = .ok accepted) (offset limit : Option Nat) :
    schema.accept (filters.paged offset limit) = .ok (accepted.paged offset limit) := by
  unfold accept at passed ⊢
  rcases Result.ok_of_bind_ok passed with ⟨_, known, ordered⟩
  have same : schema.requireColumns (filters.paged offset limit).columns = .ok () := known
  rw [same]
  cases order : filters.orderBy with
  | none =>
    have unordered : (filters.paged offset limit).orderBy = none := order
    rw [order] at ordered
    cases ordered
    rw [unordered]
    rfl
  | some clause =>
    have orders : (filters.paged offset limit).orderBy = some clause := order
    rw [order] at ordered
    rcases Result.ok_of_bind_ok ordered with ⟨kept, allowed, returned⟩
    cases returned
    rw [orders]
    simp only [allowed, bind, Except.bind]
    rfl

/-- An accepted order clause names columns, so it does not name `LIMIT` unless this is one. -/
theorem not_ordersByLimit_of_accept (passed : schema.accept filters = .ok accepted)
    (unlimited : "LIMIT" ∉ schema.columns) : ¬filters.OrdersByLimit := by
  rintro ⟨clause, given, part, inside, named⟩
  have checked := (accept_eq_ok passed).2 clause given
  have accepted := checkOrderPart_of_parts checked part inside
  unfold checkOrderPart at accepted
  split at accepted
  · cases accepted
  · rename_i column rest found
    rw [found] at named
    rcases Result.ok_of_bind_ok accepted with ⟨_, known, _⟩
    have listed := (column_eq_ok known).2
    rw [Option.some.inj named, String.ofList_toList] at listed
    exact unlimited listed

end Schema

namespace Execution

/-- A request to one of some endpoints of a stored table, with these filters. -/
structure Asks (execution : Execution Tables) (setup : Setup) (name : String) (table : Table)
    (endpoints : List Endpoint) (filters : FilterSet) : Prop where
  inMemory : execution.database = setup.database
  schema : execution.schema = table.schema name
  endpoint : execution.context.endpoint ∈ endpoints
  reads : execution.ReadsFilters filters

namespace Asks

variable {setup : Setup} {execution : Execution Tables} {tables : Tables} {table : Table}
  {name : String} {filters accepted : FilterSet} (bare : setup.Bare) (named : IsPlain name)
  (stored : Named.get? tables name = some table)
  (plain : ∀ column ∈ table.columns, IsPlain column)
  (few : (table.rows.length : Int) ≤ Text.largestInteger)

include bare named stored plain few

/-- A request for rows returns the rows that its filters mean. -/
theorem result_rows (asks : Asks execution setup name table [.get, .search] filters)
    (passed : (table.schema name).accept filters = .ok accepted)
    (unlimited : "LIMIT" ∉ table.columns) (small : filters.IsSmall) {rows : List Row}
    (chosen : filters.chosen? table.rows = some rows) :
    (execution.run tables).result = .ok (.array (rows.map .object)) := by
  have runs : execution.run = execution.rows := by
    rcases List.mem_pair.1 asks.endpoint with get | search
    · rw [run, get]
    · rw [run, search]
  have made : (table.schema name).select filters = .ok (.select .all name accepted) := by
    rw [Schema.select, passed]
    rfl
  have built : (build (.ok (.select .all name accepted)) : Action Tables ApiError Statement) =
      pure (.select .all name accepted) := rfl
  have found := fetch_select named stored .all passed plain (Table.length_le_largestWord few)
    (Schema.not_ordersByLimit_of_accept passed unlimited) small
  rw [chosen] at found
  have answered : execution.database.fetchAll (Statement.select .all name accepted).toSql tables =
      .quiet (.ok rows) tables := by
    rw [asks.inMemory, bare.fetchAll_eq, found]
    rfl
  have fetched := fetch_of_answer answered
  rcases asks.reads.rows_apply tables with ⟨entries, ran⟩
  rw [runs, ran, listing, asks.schema, made, built, pure_bind, bind_of_ok (by rw [fetched])]
  rfl

/-- A request for the number of rows returns how many satisfy its conditions. -/
theorem result_count (asks : Asks execution setup name table [.count, .countByPost] filters)
    (passed : (table.schema name).requireColumns filters.columns = .ok ()) :
    (execution.run tables).result = .ok (.ofNat (filters.satisfying table.rows).length) := by
  have runs : execution.run = execution.count := by
    rcases List.mem_pair.1 asks.endpoint with count | countByPost
    · rw [run, count]
    · rw [run, countByPost]
  have made : (table.schema name).count filters = .ok (.select .count name
      { FilterSet.empty with conditions := filters.conditions }) := by
    rw [Schema.count, passed]
    rfl
  have built : ∀ statement, (build (.ok statement) : Action Tables ApiError Statement) =
      pure statement := fun _ => rfl
  have found := fetch_count named stored passed plain (Table.length_le_largestWord few)
  have answered := bare.fetchAll_eq (Statement.select .count name
    { FilterSet.empty with conditions := filters.conditions }).toSql tables
  rw [found, ← asks.inMemory] at answered
  have fetched := fetch_of_answer answered
  -- The number is read as a signed word, which the length of a table does not exceed.
  have counted : countIn [[("count", Json.ofNat (filters.satisfying table.rows).length)]] =
      (filters.satisfying table.rows).length := by
    have fewer : ((filters.satisfying table.rows).length : Int) ≤ Text.largestInteger :=
      Int.le_trans (Int.ofNat_le.2 (List.length_filter_le _ _)) few
    exact if_pos fewer
  rcases asks.reads.filters_apply tables with ⟨entries, read⟩
  rw [runs, count, bind_of_ok (by rw [read]), read]
  dsimp only
  rw [asks.schema, made, built, pure_bind, bind_of_ok (by rw [fetched])]
  dsimp only
  rw [counted]
  rfl

end Asks

/--
The pages of a table.  For filters that the table accepts, and by which its rows
can be ordered, a page and the page that starts where it ends are one page
together; without a limit all rows from the offset on are returned; and the
number of rows, asked for with the same conditions and any order, limit and
offset, is that of the rows which are returned without limit and offset.  Any of
the requests may have its filters in the query string or in the body.

No table in memory has more rows than a signed word can count.
-/
theorem pages_tile {setup : Setup} {tables : Tables} {table : Table} {name : String}
    {filters accepted : FilterSet} {listed : List Row} (bare : setup.Bare) (named : IsPlain name)
    (stored : Named.get? tables name = some table)
    (plain : ∀ column ∈ table.columns, IsPlain column) (unlimited : "LIMIT" ∉ table.columns)
    (few : (table.rows.length : Int) ≤ Text.largestInteger)
    (passed : (table.schema name).accept filters = .ok accepted)
    (ordered : filters.listed? table.rows = some listed) :
    (∀ (a b c : Nat) (first second both : Execution Tables),
      a + b ≤ Text.largestWord → b + c ≤ Text.largestWord →
      Asks first setup name table [.get, .search] (filters.paged (some a) (some b)) →
      Asks second setup name table [.get, .search] (filters.paged (some (a + b)) (some c)) →
      Asks both setup name table [.get, .search] (filters.paged (some a) (some (b + c))) →
        ∃ rows more : List Json, (first.run tables).result = .ok (.array rows) ∧
          (second.run tables).result = .ok (.array more) ∧
          (both.run tables).result = .ok (.array (rows ++ more))) ∧
    (∀ (a : Nat) (whole rest : Execution Tables), a ≤ Text.largestWord →
      Asks whole setup name table [.get, .search] (filters.paged none none) →
      Asks rest setup name table [.get, .search] (filters.paged (some a) none) →
        ∃ rows : List Json, (whole.run tables).result = .ok (.array rows) ∧
          (rest.run tables).result = .ok (.array (rows.drop a))) ∧
    ∀ (whole counting : Execution Tables) (counted : FilterSet),
      counted.conditions = filters.conditions →
      Asks whole setup name table [.get, .search] (filters.paged none none) →
      Asks counting setup name table [.count, .countByPost] counted →
        ∃ rows : List Json, (whole.run tables).result = .ok (.array rows) ∧
          (counting.run tables).result = .ok (.ofNat rows.length) := by
  have returns : ∀ {execution : Execution Tables} {offset limit : Option Nat},
      Asks execution setup name table [.get, .search] (filters.paged offset limit) →
      (∀ value ∈ offset, value ≤ Text.largestWord) →
      (∀ value ∈ limit, value ≤ Text.largestWord) →
        (execution.run tables).result =
          .ok (.array (((filters.paged offset limit).windowed listed).map .object)) := by
    intro execution offset limit asks offsets limits
    have allowed := Schema.accept_paged passed offset limit
    exact asks.result_rows bare named stored plain few allowed unlimited
      (FilterSet.isSmall_paged offsets limits) (FilterSet.chosen?_paged ordered offset limit)
  refine ⟨?_, ?_, ?_⟩
  · intro a b c first second both starts ends asksFirst asksSecond asksBoth
    have page := returns asksFirst (by simp; omega) (by simp; omega)
    have next := returns asksSecond (by simpa using starts) (by simp; omega)
    have joined := returns asksBoth (by simp; omega) (by simpa using ends)
    rw [FilterSet.windowed_paged] at page next joined
    rw [← page_append_page, List.map_append] at joined
    exact ⟨_, _, page, next, joined⟩
  · intro a whole rest small asksWhole asksRest
    have all := returns asksWhole (by simp) (by simp)
    have remaining := returns asksRest (by simpa using small) (by simp)
    rw [FilterSet.windowed_paged_none] at all
    rw [FilterSet.windowed_paged_offset, List.map_drop] at remaining
    exact ⟨_, all, remaining⟩
  · intro whole counting counted same asksWhole asksCount
    have all := returns asksWhole (by simp) (by simp)
    have known : (table.schema name).requireColumns counted.columns = .ok () := by
      unfold Schema.accept at passed
      rcases Result.ok_of_bind_ok passed with ⟨_, known, _⟩
      rw [FilterSet.columns, same]
      exact known
    have number := asksCount.result_count bare named stored plain few known
    have length : (counted.satisfying table.rows).length = (listed.map Json.object).length := by
      rw [List.length_map, FilterSet.length_arranged? ordered, FilterSet.satisfying,
        FilterSet.satisfying, same]
    rw [FilterSet.windowed_paged_none] at all
    rw [length] at number
    exact ⟨_, all, number⟩

/-- Requests about planets whose filters are in the query string or in the posted value. -/
def planetExecution (verb : Verb) (endpoint : Endpoint) (query : String) (params : Json) :
    Execution Tables where
  database := Setup.plain.database
  schema := planets.schema "planets"
  descriptor := ⟨verb, none, none, none, none, true⟩
  context := ⟨verb, "planets", endpoint, none, ["planets"], none, query, [], false⟩
  input := ⟨none, "planets", endpoint.name, params, query⟩

/-- Two pages of one planet each are a page of two, and the number that is asked for with a limit
is that of all planets. -/
theorem pages_tile_planets :
    ∃ rows more all : List Json,
      ((planetExecution .get .get "orderBy=name+desc&offset=0&limit=1" .null).run
        [("planets", planets)]).result = .ok (.array rows) ∧
      ((planetExecution .get .get "orderBy=name+desc&offset=1&limit=1" .null).run
        [("planets", planets)]).result = .ok (.array more) ∧
      ((planetExecution .get .get "orderBy=name+desc&offset=0&limit=2" .null).run
        [("planets", planets)]).result = .ok (.array (rows ++ more)) ∧
      ((planetExecution .post .search "" (.object [("order_by", .string "name desc")])).run
        [("planets", planets)]).result = .ok (.array all) ∧
      ((planetExecution .post .countByPost "" (.object [("limit", Json.ofNat 1)])).run
        [("planets", planets)]).result = .ok (.ofNat all.length) := by
  have bare : Setup.plain.Bare := ⟨rfl, rfl⟩
  have named : IsPlain "planets" := by
    decide
  have stored : Named.get? [("planets", planets)] "planets" = some planets := rfl
  have plain : ∀ column ∈ planets.columns, IsPlain column := by
    decide
  have passed : (planets.schema "planets").accept ⟨[], some "name desc", none, none⟩ =
      .ok ⟨[], some "name desc", none, none⟩ := Result.ok_of_toOption (by decide +kernel)
  have spelled : ∀ {query : String} {filters : FilterSet}, QueryString.filters query = filters →
      Asks (planetExecution .get .get query .null) Setup.plain "planets" planets [.get, .search]
        filters :=
    fun given => ⟨rfl, rfl, List.mem_cons_self, rfl, given⟩
  have posted : FilterBody.filters (.object [("order_by", .string "name desc")]) =
      .ok ⟨[], some "name desc", none, none⟩ := Result.ok_of_toOption (by decide +kernel)
  have limited : FilterBody.filters (.object [("limit", Json.ofNat 1)]) =
      .ok ⟨[], none, some 1, none⟩ := Result.ok_of_toOption (by decide +kernel)
  have orderable : ∀ clause ∈ some "name desc",
      Orderable (orderKey (Text.trim clause.toList)).1 planets.rows :=
    fun _ _ => .few (by decide)
  have arranges : ∃ listed, FilterSet.listed? ⟨[], some "name desc", none, none⟩ planets.rows =
      some listed := FilterSet.exists_arranged orderable
  rcases arranges with ⟨listed, ordered⟩
  rcases pages_tile bare named stored plain (by decide) (by decide) passed ordered with
    ⟨tiles, _, counts⟩
  rcases tiles 0 1 1 (planetExecution .get .get "orderBy=name+desc&offset=0&limit=1" .null)
      (planetExecution .get .get "orderBy=name+desc&offset=1&limit=1" .null)
      (planetExecution .get .get "orderBy=name+desc&offset=0&limit=2" .null) (by decide)
      (by decide) (spelled (by decide +kernel)) (spelled (by decide +kernel))
      (spelled (by decide +kernel)) with
    ⟨rows, more, first, second, both⟩
  rcases counts (planetExecution .post .search "" (.object [("order_by", .string "name desc")]))
      (planetExecution .post .countByPost "" (.object [("limit", Json.ofNat 1)]))
      ⟨[], none, some 1, none⟩ rfl ⟨rfl, rfl, by decide, rfl, posted⟩
      ⟨rfl, rfl, by decide, rfl, limited⟩ with
    ⟨all, whole, number⟩
  exact ⟨rows, more, all, first, second, both, whole, number⟩

/-- Requests about letters, in the order of the letters. -/
def letterExecution (endpoint : Endpoint) : Execution Tables where
  database := Setup.plain.database
  schema := letters.schema "letters"
  descriptor := ⟨.get, none, none, none, none, true⟩
  context := ⟨.get, "letters", endpoint, none, ["letters"], none, "orderBy=letter", [], false⟩
  input := ⟨none, "letters", endpoint.name, .null, "orderBy=letter"⟩

/-- Letters with one missing are counted and cannot be listed, although their order is accepted. -/
theorem pages_break_off :
    (letters.schema "letters").accept ⟨[], some "letter", none, none⟩ =
        .ok ⟨[], some "letter", none, none⟩ ∧
      FilterSet.listed? ⟨[], some "letter", none, none⟩ letters.rows = none ∧
      Asks (letterExecution .get) Setup.plain "letters" letters [.get, .search]
        ⟨[], some "letter", none, none⟩ ∧
      Asks (letterExecution .count) Setup.plain "letters" letters [.count, .countByPost]
        ⟨[], some "letter", none, none⟩ ∧
      ((letterExecution .get).run [("letters", letters)]).result.toOption = none ∧
      ((letterExecution .count).run [("letters", letters)]).result = .ok (.ofNat 21) := by
  have read : QueryString.filters "orderBy=letter" = ⟨[], some "letter", none, none⟩ := by
    decide +kernel
  refine ⟨rfl, ?_, ⟨rfl, rfl, List.mem_cons_self, rfl, read⟩,
    ⟨rfl, rfl, List.mem_cons_self, rfl, read⟩, ?_, ?_⟩
  · decide +kernel
  · decide +kernel
  · exact Result.ok_of_toOption (by decide +kernel)

end Execution

end TableApi
