import TableApi.Proofs.Endpoint.Paths
import TableApi.Proofs.Request.Change

/-!
# Requests by either path

The way of a request has two parts in its handling: it leads to an endpoint, and the rules about
segments of the path look at it.  The rest of the handling never does, so a request to an endpoint
without such rules ends in the same way by both paths of the endpoint: with the same result, the
same events and the same state.

`routes_both_ways` says where requests lead.  An endpoint is only ever reached with its own verb,
so an entry of a settings document that names another verb is never served.
-/

namespace TableApi

/-! ## What the way of a request decides -/

/-- A context with another way: other segments, and another entry. -/
def Context.rerouted (context : Context) (segments : List String) (viaApi : Bool) : Context :=
  { context with segments, viaApi }

/-- A policy without rules about segments of the path. -/
structure Policy.SegmentFree (policy : Policy) : Prop where
  userId : policy.userIdSegment = none
  userCode : policy.userCodeSegment = none
  owned : policy.ownedSegment = none

/-- A descriptor whose policy, if it has one, has no rules about segments of the path. -/
def Descriptor.SegmentFree (descriptor : Descriptor) : Prop :=
  ∀ policy, descriptor.authorization = some (.policy policy) → policy.SegmentFree

section Rerouted

variable {σ ε : Type} (context : Context) (segments : List String) (viaApi : Bool)

namespace Guard

variable (guard : Guard σ)

theorem judge_rerouted {policy : Policy} (free : policy.SegmentFree) (token : String)
    (caller : Caller) (schema : Schema) :
    (guard.judge policy token caller schema (context.rerouted segments viaApi) :
      Action σ ε Decision) = guard.judge policy token caller schema context := by
  have same : admits policy caller (context.rerouted segments viaApi) =
      admits policy caller context := by
    simp [admits, free.userId, free.userCode, segmentIs]
  simp only [judge, same, free.owned]

theorem weigh_rerouted {descriptor : Descriptor} (free : descriptor.SegmentFree)
    (token : Option String) (schema : Schema) :
    (guard.weigh descriptor token schema (context.rerouted segments viaApi) :
      Action σ ε Decision) = guard.weigh descriptor token schema context := by
  unfold weigh
  cases rules : descriptor.authorization with
  | none => rfl
  | some authorization =>
    cases authorization with
    | wildcard => rfl
    | policy policy =>
      cases token with
      | none => rfl
      | some token =>
        dsimp only
        congr 1
        funext found
        cases found with
        | error error => rfl
        | ok caller => exact guard.judge_rerouted context segments viaApi (free policy rules) _ _ _

/-- Without rules about segments the decision does not depend on the way of a request. -/
theorem evaluate_rerouted {descriptor : Descriptor} (free : descriptor.SegmentFree)
    (token : Option String) (schema : Schema) :
    (guard.evaluate descriptor token schema (context.rerouted segments viaApi) :
      Action σ ε Decision) = guard.evaluate descriptor token schema context := by
  rw [evaluate, guard.weigh_rerouted context segments viaApi free]
  rfl

end Guard

/-- No endpoint looks at the way of a request. -/
theorem Execution.run_rerouted (database : Database σ) (schema : Schema)
    (descriptor : Descriptor) (input : HookInput) :
    Execution.run ⟨database, schema, descriptor, context.rerouted segments viaApi, input⟩ =
      Execution.run ⟨database, schema, descriptor, context, input⟩ := rfl

namespace Service

/-- The entry of an endpoint of a table, if there is a usable one, has no rules about segments. -/
def SegmentFree (service : Service σ) (table : String) (endpoint : Endpoint) : Prop :=
  ∀ descriptor, service.documents.descriptor table endpoint = .ok descriptor →
    descriptor.SegmentFree

variable {service : Service σ} {context}

theorem authorize_rerouted {descriptor : Descriptor} (free : descriptor.SegmentFree)
    (schema : Schema) :
    service.authorize descriptor schema (context.rerouted segments viaApi) =
      service.authorize descriptor schema context := by
  have same := service.guard.evaluate_rerouted (ε := ApiError) context segments viaApi free
    context.token schema
  exact congrArg (· >>= fun decision => Action.ofExcept decision.toResult) same

/-- Without rules about segments the whole handling of a request does not depend on its way. -/
theorem handle_rerouted (free : service.SegmentFree context.table context.endpoint) :
    service.handle (context.rerouted segments viaApi) = service.handle context := by
  funext state
  have same : service.descriptor (context.rerouted segments viaApi) =
    service.descriptor context := rfl
  unfold handle
  rw [same]
  cases ended : (service.descriptor context state).result with
  | error error => rw [Action.bind_of_error ended, Action.bind_of_error ended]
  | ok descriptor =>
    have described := (of_descriptor ended).1
    have weighed : ∀ schema, service.authorize descriptor schema
        (context.rerouted segments viaApi) = service.authorize descriptor schema context :=
      authorize_rerouted segments viaApi (free descriptor described)
    rw [Action.bind_of_ok ended, Action.bind_of_ok ended]
    simp only [weighed, Execution.run_rerouted]
    rfl

end Service

end Rerouted

/-! ## The contexts of both paths -/

namespace Endpoint

/-- A request to an endpoint by the general entry. -/
def apiRequest (endpoint : Endpoint) (table id method : String) (query : Option String)
    (headers : Headers) (body : List UInt8) : Request :=
  ⟨method, pathOf (endpoint.apiSegments table id), query, headers, body⟩

/-- A request to an endpoint by the short path. -/
def shortRequest (endpoint : Endpoint) (table id method : String) (query : Option String)
    (headers : Headers) (body : List UInt8) : Request :=
  ⟨method, pathOf (endpoint.shortSegments table id), query, headers, body⟩

end Endpoint

theorem isSegment_of_isNumeric {id : String} (given : id ≠ "") (digits : isNumeric id = true) :
    IsSegment id :=
  ⟨given, fun slash => absurd (List.all_eq_true.1 digits _ slash) (by decide)⟩

namespace Request

variable {request : Request} {tokenHeader : String}

theorem context_of_error {error : ApiError}
    (failed : effectiveVerb request.method request.headers = .error error) :
    request.context tokenHeader = .error error := by
  simp only [context, failed]
  rfl

/-- The context that a request has on a route. -/
def contextOn (request : Request) (tokenHeader : String) (verb : Verb) (route : Route) :
    Context where
  verb
  table := route.table
  endpoint := route.endpoint
  id := route.id
  segments := segmentsOf request.path
  token := tokenIn request.headers tokenHeader
  query := request.query.getD ""
  body := request.body
  viaApi := route.viaApi

theorem context_of_found {verb : Verb} {route : Route}
    (effective : effectiveVerb request.method request.headers = .ok verb)
    (found : Route.find verb (segmentsOf request.path) = .ok route) :
    request.context tokenHeader = .ok (request.contextOn tokenHeader verb route) := by
  simp only [context, effective, bind, Except.bind, found, Result.mapError_ok]
  rfl

/-- What a context owes to the path of its request. -/
theorem fits_of_context {context : Context} (built : request.context tokenHeader = .ok context) :
    Route.Fits context.verb (segmentsOf request.path)
      ⟨context.table, context.endpoint, context.id, context.viaApi⟩ := by
  unfold Request.context at built
  obtain ⟨verb, _, rest⟩ := Result.ok_of_bind_ok built
  obtain ⟨route, found, returned⟩ := Result.ok_of_bind_ok rest
  rw [Result.mapError_eq_ok] at found
  cases returned
  exact Route.fits_of_find found

/-- The entry of a request can be told from its path alone. -/
theorem viaApi_eq {context : Context} (built : request.context tokenHeader = .ok context) :
    context.viaApi = Route.isApiPath request.path := by
  have general := (fits_of_context built).viaApi
  rw [Bool.eq_iff_iff, general, Route.isApiPath, decide_eq_true_iff]

end Request

/-- How the contexts of the two paths of an endpoint correspond: they differ in their way only. -/
structure Context.Correspond (asked : Endpoint) (name number : String)
    (general short : Context) : Prop where
  way : general.viaApi = true ∧ short.viaApi = false
  same : short = general.rerouted short.segments short.viaApi
  endpoint : general.endpoint = asked
  verb : general.verb = asked.verb
  table : general.table = name
  id : general.id = asked.idOf number

/-- A request and the same request with another path correspond on routes to one endpoint. -/
theorem Context.correspond_of_paths (table id : String) (request : Request)
    (path tokenHeader : String) (endpoint : Endpoint) :
    Context.Correspond endpoint table id
      (request.contextOn tokenHeader endpoint.verb ⟨table, endpoint, endpoint.idOf id, true⟩)
      ({ request with path }.contextOn tokenHeader endpoint.verb
        ⟨table, endpoint, endpoint.idOf id, false⟩) :=
  ⟨⟨rfl, rfl⟩, rfl, rfl, rfl, rfl, rfl⟩

variable {table id : String}

/-- Corresponding contexts are handled in the same way where the rules leave segments alone. -/
theorem Context.Correspond.handle_eq {endpoint : Endpoint} {general short : Context}
    (correspond : Context.Correspond endpoint table id general short) {σ : Type}
    {service : Service σ} (free : service.SegmentFree table endpoint) :
    service.handle short = service.handle general := by
  rw [← correspond.table, ← correspond.endpoint] at free
  rw [correspond.same]
  exact Service.handle_rerouted short.segments short.viaApi free

/--
Both paths of an endpoint lead to contexts that differ in their way only, and
to the same end in every service whose entry for the endpoint has no rules about
segments, unless the headers ask for the verb of another endpoint.  When they
ask for no verb at all, both requests fail in the same way.
-/
theorem both_paths_agree (endpoint : Endpoint) (named : IsSegment table)
    (short : table ≠ Route.entry) (given : id ≠ "") (digits : isNumeric id = true)
    (method : String) (query : Option String) (headers : Headers) (body : List UInt8)
    (tokenHeader : String)
    (keeps : ∀ verb, Request.effectiveVerb method headers = .ok verb → verb = endpoint.verb) :
    (∃ error, Request.effectiveVerb method headers = .error error ∧
      (endpoint.apiRequest table id method query headers body).context tokenHeader =
        .error error ∧
      (endpoint.shortRequest table id method query headers body).context tokenHeader =
        .error error) ∨
    ∃ one other,
      (endpoint.apiRequest table id method query headers body).context tokenHeader = .ok one ∧
      (endpoint.shortRequest table id method query headers body).context tokenHeader =
        .ok other ∧
      Context.Correspond endpoint table id one other ∧
      ∀ {σ : Type} (service : Service σ) (state : σ), service.SegmentFree table endpoint →
        service.handle other state = service.handle one state := by
  have number := isSegment_of_isNumeric given digits
  cases effective : Request.effectiveVerb method headers with
  | error error =>
    exact Or.inl ⟨error, rfl, Request.context_of_error effective,
      Request.context_of_error effective⟩
  | ok verb =>
    obtain rfl := keeps verb effective
    let route : Route := ⟨table, endpoint, endpoint.idOf id, true⟩
    let brief : Route := ⟨table, endpoint, endpoint.idOf id, false⟩
    have general : Route.find endpoint.verb
        (segmentsOf (pathOf (endpoint.apiSegments table id))) = .ok route := by
      rw [segmentsOf_pathOf (endpoint.isSegment_of_apiSegments named number)]
      exact Route.find_apiSegments endpoint table id
    have other : Route.find endpoint.verb
        (segmentsOf (pathOf (endpoint.shortSegments table id))) = .ok brief := by
      rw [segmentsOf_pathOf (endpoint.isSegment_of_shortSegments named number)]
      exact Route.find_shortSegments endpoint short number digits
    have correspond := Context.correspond_of_paths table id
      (endpoint.apiRequest table id method query headers body)
      (pathOf (endpoint.shortSegments table id)) tokenHeader endpoint
    exact Or.inr ⟨_, _, Request.context_of_found effective general,
      Request.context_of_found effective other, correspond,
      fun service state free => congrFun (correspond.handle_eq free) state⟩

/-- A service in which clerks may change notes. -/
def Service.clerks : Service Memory.Tables where
  database := Memory.Setup.plain.database
  tokens := .ofKnown [("ink", ⟨7, "clerk", ""⟩)]
  documents := ⟨"modules", Files.empty.write "modules/notes/assets/api.json"
    (some ("\x7b\"Update\":\x7b\"request_type\":\"PUT\",\"authorization\":" ++
      "\x7b\"roles\":[\"clerk\"]\x7d\x7d\x7d").toUTF8.toList)⟩
  hooks := .empty
  bypassToken := none
  audit := false

/-- The headers of a clerk who asks for a change with another method. -/
def clerkHeaders : Headers :=
  ⟨[(Request.overrideHeader, "PUT"), ("token", "ink")]⟩

/-- A clerk changes a note in the same way by both paths. -/
theorem both_paths_agree_clerk :
    ∃ one other,
      (Endpoint.update.apiRequest "notes" "007" "POST" none clerkHeaders []).context "token" =
        .ok one ∧
      (Endpoint.update.shortRequest "notes" "007" "POST" none clerkHeaders []).context "token" =
        .ok other ∧
      Context.Correspond .update "notes" "007" one other ∧
      Service.clerks.handle other [("notes", ⟨["id", "text"], []⟩)] =
        Service.clerks.handle one [("notes", ⟨["id", "text"], []⟩)] := by
  have put : Request.effectiveVerb "POST" clerkHeaders = .ok .put := rfl
  have described : Service.clerks.documents.descriptor "notes" .update =
      .ok ⟨.put, some "\x7bid\x7d", some (.policy ⟨["clerk"], [], none, none, none⟩), none, none,
        false⟩ :=
    Result.ok_of_toOption (by decide +kernel)
  have free : Service.clerks.SegmentFree "notes" .update := by
    intro descriptor found policy rules
    rw [described] at found
    cases found
    cases rules
    exact ⟨rfl, rfl, rfl⟩
  have named : IsSegment "notes" := ⟨by decide, by decide⟩
  have short : "notes" ≠ Route.entry := by decide
  have given : "007" ≠ "" := by decide
  have digits : isNumeric "007" = true := by decide
  rcases both_paths_agree .update named short given digits "POST" none clerkHeaders [] "token"
      (fun verb asked => (Except.ok.inj (put.symm.trans asked)).symm) with
    ⟨error, failed, _⟩ | ⟨one, other, built, builtOther, correspond, same⟩
  · cases put.symm.trans failed
  · exact ⟨one, other, built, builtOther, correspond, same Service.clerks _ free⟩

/-- Headers that ask for the verb of another endpoint part the paths: where the general entry
refuses to remove anything by the action that adds a row, the short path removes all rows. -/
theorem both_paths_part :
    (Endpoint.create.apiRequest "notes" "1" "POST" none ⟨[(Request.overrideHeader, "DELETE")]⟩
      []).context "token" = .error (.badRequest "Invalid request type DELETE for /api/create") ∧
    (Endpoint.create.shortRequest "notes" "1" "POST" none ⟨[(Request.overrideHeader, "DELETE")]⟩
      []).context "token" =
        .ok ⟨.delete, "notes", .destroy, none, ["notes"], none, "", [], false⟩ :=
  ⟨rfl, rfl⟩

/-! ## Where requests lead -/

/--
A route has the verb it was found for, the general entry exactly if the path
starts with it, and the table of the path.  Both paths of every endpoint lead
back to it, whatever slashes are to spare.  So an entry of a settings document
with another verb than its endpoint is never served: a request that comes to it
fails before anything is asked.
-/
theorem routes_both_ways :
    (∀ (verb : Verb) (segments : List String) (route : Route),
      Route.find verb segments = .ok route → route.Fits verb segments) ∧
    (∀ (endpoint : Endpoint) (table id : String) (spaced : List (Nat × String)) (tail : Nat),
      IsSegment table → id ≠ "" → isNumeric id = true →
        (spaced.map Prod.snd = endpoint.apiSegments table id →
          Route.find endpoint.verb (segmentsOf (slashed spaced tail)) =
            .ok ⟨table, endpoint, endpoint.idOf id, true⟩) ∧
        (spaced.map Prod.snd = endpoint.shortSegments table id → table ≠ Route.entry →
          Route.find endpoint.verb (segmentsOf (slashed spaced tail)) =
            .ok ⟨table, endpoint, endpoint.idOf id, false⟩)) ∧
    ∀ {σ : Type} (service : Service σ) (request : Request) (tokenHeader : String)
      (context : Context) (descriptor : Descriptor) (state : σ),
        request.context tokenHeader = .ok context →
        service.documents.descriptor context.table context.endpoint = .ok descriptor →
        descriptor.verb ≠ context.endpoint.verb →
          service.handle context state =
            ⟨.error (.badRequest (Service.wrongVerb context descriptor.verb)), [], state⟩ := by
  refine ⟨fun verb segments route => Route.fits_of_find, ?_, ?_⟩
  · intro endpoint table id spaced tail named given digits
    have number := isSegment_of_isNumeric given digits
    have reads : ∀ segments : List String, (∀ segment ∈ segments, IsSegment segment) →
        spaced.map Prod.snd = segments → segmentsOf (slashed spaced tail) = segments := by
      rintro segments each rfl
      exact segmentsOf_slashed (fun entry member => each _ (List.mem_map_of_mem member)) tail
    constructor
    · intro general
      rw [reads _ (endpoint.isSegment_of_apiSegments named number) general]
      exact Route.find_apiSegments endpoint table id
    · intro brief short
      rw [reads _ (endpoint.isSegment_of_shortSegments named number) brief]
      exact Route.find_shortSegments endpoint short number digits
  · intro σ service request tokenHeader context descriptor state built described other
    rw [Request.endpoint_verb built] at other
    exact service.handle_of_wrongVerb context state described other

/-- Slashes to spare do not lead astray. -/
theorem routes_both_ways_of_spare_slashes :
    Route.find .get (segmentsOf "///api/get//notes/007//") =
        .ok ⟨"notes", .findOne, some "007", true⟩ ∧
      Route.find .get (segmentsOf "//notes/007///") =
        .ok ⟨"notes", .findOne, some "007", false⟩ := by
  have named : IsSegment "notes" := ⟨by decide, by decide⟩
  constructor
  · exact (routes_both_ways.2.1 .findOne "notes" "007"
      [(2, "api"), (0, "get"), (1, "notes"), (0, "007")] 2 named (by decide) (by decide)).1
      (by decide)
  · exact (routes_both_ways.2.1 .findOne "notes" "007" [(1, "notes"), (0, "007")] 3 named
      (by decide) (by decide)).2 (by decide) (by decide)

end TableApi
