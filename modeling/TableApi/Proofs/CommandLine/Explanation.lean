import TableApi.CommandLine.Commands
import TableApi.Proofs.Request.Search
import TableApi.Proofs.Table.Query

/-!
# Statements explained without a database

An operator can ask for the statement of a filter without a server.  The command takes the name of
the table and the filters as they are given, where a request looks the table and its columns up
first; and it decodes a body by itself.  All the same it shows what a request would ask.

The order is why: a request asks for the order without the blanks around it, and the command for
the order as it was read.  Both grammars take the blanks away while they read, so that filters which
pass the check of the columns pass it unchanged.
-/

namespace TableApi

/-! ## Orders without blanks around them -/

namespace FilterSet

/-- There are no blanks around the order. -/
def Trimmed (filters : FilterSet) : Prop :=
  ∀ clause ∈ filters.orderBy, Text.trimmed clause = clause

theorem trimmed_of_none {filters : FilterSet} (unordered : filters.orderBy = none) :
    filters.Trimmed := by
  simp [Trimmed, unordered]

theorem Trimmed.append {first second : FilterSet} (left : first.Trimmed) (right : second.Trimmed) :
    (first ++ second).Trimmed := by
  intro clause given
  rw [orderBy_append, Option.mem_def, Option.or_eq_some_iff] at given
  rcases given with later | ⟨_, earlier⟩
  · exact right clause later
  · exact left clause earlier

theorem trimmed_concat {parts : List FilterSet} (each : ∀ part ∈ parts, part.Trimmed) :
    (concat parts).Trimmed := by
  induction parts with
  | nil => exact trimmed_of_none rfl
  | cons part parts step =>
    rw [List.forall_mem_cons] at each
    exact each.1.append (step each.2)

end FilterSet

/-- The order directive takes the blanks away that are around its value. -/
theorem Directive.trimmed_filters (directive : Directive) (value : List Char) :
    (directive.filters value).Trimmed := by
  cases directive with
  | orderBy =>
    simp only [filters]
    split
    · exact FilterSet.trimmed_of_none rfl
    · rintro clause ⟨⟩
      rw [Text.trimmed, String.toList_ofList, Text.trim_trim]
  | limit => exact FilterSet.trimmed_of_none rfl
  | offset => exact FilterSet.trimmed_of_none rfl

namespace QueryString

theorem trimmed_filtersOfPair (pair : List Char) : (filtersOfPair pair).Trimmed := by
  unfold filtersOfPair
  split
  · exact FilterSet.trimmed_of_none rfl
  · rename_i comparison key value _
    unfold filtersOfKey
    split
    · exact Directive.trimmed_filters _ _
    · dsimp only
      split
      · exact FilterSet.trimmed_of_none rfl
      · exact FilterSet.trimmed_of_none rfl

theorem trimmed_filters (text : String) : (filters text).Trimmed := by
  apply FilterSet.trimmed_concat
  intro part member
  obtain ⟨pair, _, rfl⟩ := List.mem_map.1 member
  exact trimmed_filtersOfPair pair

end QueryString

namespace FilterBody

variable {filters : FilterSet}

theorem trimmed_of_filtersOfEntry {key : String} {value : Json}
    (read : filtersOfEntry key value = .ok filters) : filters.Trimmed := by
  unfold filtersOfEntry at read
  split at read
  · split at read
    · cases read
      exact Directive.trimmed_filters _ _
    · cases read
      exact FilterSet.trimmed_of_none rfl
  · dsimp only at read
    split at read
    · cases read
    · split at read
      · cases read
        exact FilterSet.trimmed_of_none rfl
      · cases read

theorem trimmed_of_filtersOfEntries {entries : Fields}
    (read : filtersOfEntries entries = .ok filters) : filters.Trimmed := by
  induction entries generalizing filters with
  | nil =>
    cases read
    exact FilterSet.trimmed_of_none rfl
  | cons entry entries step =>
    rcases Result.ok_of_bind_ok read with ⟨first, here, rest⟩
    rcases Result.ok_of_bind_ok rest with ⟨others, later, returned⟩
    cases returned
    exact (trimmed_of_filtersOfEntry here).append (step later)

theorem trimmed_of_filters {value : Json} (read : FilterBody.filters value = .ok filters) :
    filters.Trimmed := by
  cases value with
  | null =>
    cases read
    exact FilterSet.trimmed_of_none rfl
  | object entries => exact trimmed_of_filtersOfEntries read
  | bool | number | string | array => cases read

end FilterBody

/-- Filters whose order has no blanks around it pass the check of the columns unchanged. -/
theorem Schema.accept_of_trimmed {schema : Schema} {filters accepted : FilterSet}
    (trimmed : filters.Trimmed) (passed : schema.accept filters = .ok accepted) :
    accepted = filters := by
  rcases Result.ok_of_bind_ok passed with ⟨_, _, ordered⟩
  split at ordered
  · cases ordered
    rfl
  · rename_i clause given
    rcases Result.ok_of_bind_ok ordered with ⟨kept, allowed, returned⟩
    cases returned
    rcases Result.ok_of_bind_ok allowed with ⟨_, _, same⟩
    cases same
    have bare : String.ofList (Text.trim clause.toList) = clause := trimmed clause given
    rw [bare, ← given]

/-! ## What a command shows and a request asks -/

namespace Command

variable {schema : Schema} {filters : FilterSet} {query body : Option String}

theorem isTableName_of_isIdentifier {name : String} (identifier : isIdentifier name = true) :
    Documents.isTableName name = true := by
  simp only [isIdentifier, Bool.and_eq_true] at identifier
  rw [Documents.isTableName, identifier.1.1, identifier.2]
  rfl

/-- The command shows the statement that a request makes of filters, with the same values, and a
request for rows or for their number asks the database for just that. -/
structure Explains (schema : Schema) (filters : FilterSet) (query body : Option String) : Prop where
  select : ∀ statement, schema.select filters = .ok statement →
    render schema.name query body false = .ok (filters, statement.toSql)
  count : ∀ statement, schema.count filters = .ok statement →
    render schema.name query body true = .ok (filters, statement.toSql)
  rows : ∀ {σ : Type} (execution : Execution σ) (state : σ), execution.schema = schema →
    execution.ReadsFilters filters → ∀ statement, schema.select filters = .ok statement →
      effects (execution.rows state).events = [.database (.fetchAll statement.toSql)]
  number : ∀ {σ : Type} (execution : Execution σ) (state : σ), execution.schema = schema →
    execution.ReadsFilters filters → ∀ statement, schema.count filters = .ok statement →
      effects (execution.count state).events = [.database (.fetchAll statement.toSql)]

theorem render_of_filters {table : String} (identifier : isIdentifier table = true)
    (read : filtersOf query body = .ok filters) (count : Bool) :
    render table query body count = .ok (filters, (statementFor table filters count).toSql) := by
  simp only [render, isTableName_of_isIdentifier identifier, if_true, read]
  rfl

theorem render_of_error {table : String} {error : FilterError}
    (identifier : isIdentifier table = true) (refused : filtersOf query body = .error error)
    (count : Bool) : render table query body count = .error (filterFailure error) := by
  simp only [render, isTableName_of_isIdentifier identifier, if_true, refused]
  rfl

theorem explains_of_trimmed (identifier : isIdentifier schema.name = true)
    (trimmed : filters.Trimmed) (read : filtersOf query body = .ok filters) :
    Explains schema filters query body where
  select statement made := by
    rcases Schema.of_select made with ⟨accepted, passed, rfl⟩
    rw [render_of_filters identifier read, Schema.accept_of_trimmed trimmed passed]
    rfl
  count statement made := by
    rcases Schema.of_count made with ⟨_, rfl⟩
    rw [render_of_filters identifier read]
    rfl
  rows execution state same reads statement made := by
    subst same
    exact reads.effects_rows made state
  number execution state same reads statement made := by
    subst same
    exact reads.effects_count made state

/-- A body is decoded as the body of a request with another verb than `GET` is. -/
theorem filtersOf_body {context : Context} {text : String} (other : context.verb ≠ .get)
    (given : context.body = text.toUTF8.toList) (query : Option String) :
    (∃ value, Service.params context = .ok value ∧
      filtersOf query (some text) = FilterBody.filters value) ∨
    ∃ error, Json.read context.body = .error error ∧
      Service.params context = .error (FilterError.invalidJson error).toApiError ∧
      filtersOf query (some text) = .error (.invalidJson error) := by
  have own : filtersOf query (some text) = FilterBody.filtersOfBytes context.body := by
    rw [given]
    cases query <;> rfl
  rw [own, FilterBody.filtersOfBytes, Service.params]
  by_cases blank : context.body.all FilterBody.isSpace = true
  · exact Or.inl ⟨.null, by simp [blank], by simp [blank, FilterBody.filters]⟩
  · cases decoded : Json.read context.body with
    | ok value => exact Or.inl ⟨value, by simp [other, blank], by simp [blank]⟩
    | error error => exact Or.inr ⟨error, rfl, by simp [other, blank], by simp [blank]⟩

/-- What the command shows for a body, told by what becomes of that body in a request. -/
structure ExplainsBody (schema : Schema) (context : Context) (query : Option String)
    (text : String) : Prop where
  accepted : ∀ value filters, Service.params context = .ok value →
    FilterBody.filters value = .ok filters → Explains schema filters query (some text)
  refused : ∀ value error, Service.params context = .ok value →
    FilterBody.filters value = .error error →
      ∀ count, render schema.name query (some text) count = .error (filterFailure error)
  undecoded : ∀ shown, Service.params context = .error shown →
    ∃ error, Json.read context.body = .error error ∧
      shown = (FilterError.invalidJson error).toApiError ∧
      ∀ count, render schema.name query (some text) count =
        .error (filterFailure (.invalidJson error))

theorem explainsBody {context : Context} {text : String}
    (identifier : isIdentifier schema.name = true) (other : context.verb ≠ .get)
    (given : context.body = text.toUTF8.toList) (query : Option String) :
    ExplainsBody schema context query text := by
  rcases filtersOf_body other given query with
    ⟨value, decoded, own⟩ | ⟨error, malformed, undecoded, own⟩
  · constructor
    case accepted =>
      intro found filters params read
      rw [decoded] at params
      cases params
      exact explains_of_trimmed identifier (FilterBody.trimmed_of_filters read) (own.trans read)
    case refused =>
      intro found error params read
      rw [decoded] at params
      cases params
      exact render_of_error identifier (own.trans read)
    case undecoded =>
      intro shown params
      rw [decoded] at params
      cases params
  · constructor
    case undecoded =>
      intro shown params
      rw [undecoded] at params
      cases params
      exact ⟨error, malformed, rfl, render_of_error identifier own⟩
    all_goals
      intro found _ params
      rw [undecoded] at params
      cases params

/--
For a table that was looked up the command shows, for every query string and for every body, the
statement that a request makes of it, and fails with the same error where the body is refused.
-/
theorem explains {σ : Type} {database : Database σ} {name : String} {state : σ}
    (loaded : (Schema.load database name state).result = .ok schema) :
    (∀ text, Explains schema (QueryString.filters text) (some text) none) ∧
      ∀ (context : Context) (query : Option String) (text : String), context.verb ≠ .get →
        context.body = text.toUTF8.toList → ExplainsBody schema context query text := by
  obtain ⟨identifier, rfl, _⟩ := Schema.of_load loaded
  exact ⟨fun text => explains_of_trimmed identifier (QueryString.trimmed_filters text) rfl,
    fun context query text other given => explainsBody identifier other given query⟩

/-- The blanks around an order are shown as little as they are asked, and a list for a price is
refused. -/
theorem explains_products :
    render "products" (some "price%3E=10&orderBy=%20price%20") none false =
        .ok (⟨[⟨"price", .atLeast, "10", .and⟩], some "price", none, none⟩,
          ⟨"SELECT * FROM products WHERE price>=? ORDER BY price", [.string "10"]⟩) ∧
      render "products" none (some "\x7b\"price >\": []\x7d") true =
        .error (filterFailure (.unsupportedValue "price >")) := by
  let products : Schema := ⟨"products", ["id", "price"]⟩
  have loaded : (Schema.load Memory.Setup.plain.database "products"
      [("products", ⟨["id", "price"], []⟩)]).result = .ok products :=
    Result.ok_of_toOption (by decide +kernel)
  have shows := explains loaded
  let context : Context := ⟨.post, "products", .search, none, ["products", "search"], none, "",
    "\x7b\"price >\": []\x7d".toUTF8.toList, false⟩
  constructor
  · let filters : FilterSet := ⟨[⟨"price", .atLeast, "10", .and⟩], some "price", none, none⟩
    have read : QueryString.filters "price%3E=10&orderBy=%20price%20" = filters := by
      decide +kernel
    have selected : products.select filters = .ok (.select .all "products" filters) :=
      Result.ok_of_toOption (by decide +kernel)
    have explained := shows.1 "price%3E=10&orderBy=%20price%20"
    rw [read] at explained
    exact explained.select _ selected
  · have params : Service.params context = .ok (.object [("price >", .array [])]) :=
      Result.ok_of_toOption (by decide +kernel)
    exact (shows.2 context none _ (by decide) rfl).refused _ _ params rfl true

end Command

end TableApi
