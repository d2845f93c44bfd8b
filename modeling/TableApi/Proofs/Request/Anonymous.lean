import Mathlib.Data.List.TakeWhile
import TableApi.Proofs.Endpoint.Descriptor
import TableApi.Proofs.Endpoint.Lookup
import TableApi.Proofs.Request.Change

/-!
# Requests without a token

A request that presents no token goes past the decision only where the entry of its endpoint
supplies the text `*` for the authorization.  Every other entry turns it away: with 412 when the
endpoint is not activated, with 401 when there is a policy, whatever its rules are, and with 500
when the entry cannot be read.  In none of these cases is a hook called or a statement sent by the
endpoint, and the bypass token plays no part.
-/

namespace TableApi

open TableApi.Action

/-! ## No token -/

/-- There is no usable token in a header: it is missing, it is no text, or it is blank. -/
inductive Headers.PresentsNoToken (headers : Headers) (name : String) : Prop
  | missing (absent : headers.get? name = none)
  | notText {value : String} (given : headers.get? name = some value)
      (unreadable : Headers.isText value = false)
  | blank {value : String} (given : headers.get? name = some value)
      (blank : ∀ character ∈ value.toList, Text.isBlank character = true)

theorem Text.trim_of_blank {text : List Char}
    (blank : ∀ character ∈ text, isBlank character = true) : trim text = [] := by
  have front : trimStart text = [] := List.dropWhile_eq_nil_iff.2 blank
  rw [trim, front]
  rfl

theorem Request.tokenIn_eq_none {headers : Headers} {name : String}
    (tokenless : headers.PresentsNoToken name) : tokenIn headers name = none := by
  cases tokenless with
  | missing absent => simp [tokenIn, absent]
  | notText given unreadable => simp [tokenIn, given, Option.filter, unreadable]
  | @blank value given blank =>
    have trimmed : Text.trimmed value = "" := by
      rw [Text.trimmed, Text.trim_of_blank blank]
    cases readable : Headers.isText value <;>
      simp [tokenIn, given, Option.filter, readable, trimmed]

/-- A request whose header holds no token has none in its context. -/
theorem Request.token_eq_none {request : Request} {tokenHeader : String} {context : Context}
    (built : request.context tokenHeader = .ok context)
    (tokenless : request.headers.PresentsNoToken tokenHeader) : context.token = none := by
  rw [token_of_context built]
  exact tokenIn_eq_none tokenless

/-! ## The decision without a token -/

/-- What is decided about a request without a token, by the authorization alone. -/
def Authorization.withoutToken : Option Authorization → Decision
  | none => .denied .notActivated
  | some .wildcard => .allowed none
  | some (.policy _) => .denied .missingToken

theorem Guard.evaluate_without_token {σ ε : Type} (guard : Guard σ) (descriptor : Descriptor)
    (schema : Schema) (context : Context) (state : σ) :
    ∃ entries : List LogEntry, guard.evaluate (ε := ε) descriptor none schema context state =
      ⟨.ok (Authorization.withoutToken descriptor.authorization), entries.map Event.log,
        state⟩ := by
  have weighed : guard.weigh (ε := ε) descriptor none schema context state =
      ⟨.ok (Authorization.withoutToken descriptor.authorization), [], state⟩ := by
    cases ruled : descriptor.authorization with
    | none => simp [weigh, ruled, Authorization.withoutToken]
    | some authorization =>
      cases authorization <;> simp [weigh, ruled, Authorization.withoutToken]
  have decided : (guard.weigh (ε := ε) descriptor none schema context state).result =
      .ok (Authorization.withoutToken descriptor.authorization) := by rw [weighed]
  refine ⟨[guard.entryOf (Authorization.withoutToken descriptor.authorization) none context], ?_⟩
  rw [evaluate_of_weigh decided, weighed]
  rfl

namespace Service

variable {σ : Type} {service : Service σ} {context : Context} {state : σ}

/-- A request has been let past the decision: it has come to the reading of its body. -/
def PassesAuthorization (service : Service σ) (context : Context) (state : σ) : Prop :=
  ∃ report ∈ (service.pipeline context).reports state, report.stage = .body

theorem passesAuthorization_iff :
    service.PassesAuthorization context state ↔ ∃ descriptor schema token,
      service.documents.descriptor context.table context.endpoint = .ok descriptor ∧
      descriptor.verb = context.verb ∧ (service.schema context state).result = .ok schema ∧
      (service.authorize descriptor schema context (service.schema context state).state).result =
        .ok token := by
  constructor
  · rintro ⟨report, member, body⟩
    have other : ∀ stage, stage ≠ .body → report.stage ≠ stage :=
      fun stage apart same => apart (same.symm.trans body)
    rcases Pipeline.mem_reports_step member (other _ (by decide)) with ⟨descriptor, found, member⟩
    rcases of_described found with ⟨described, equal⟩
    rw [equal] at member
    rcases Pipeline.mem_reports_step member (other _ (by decide)) with ⟨_, agreed, member⟩
    rcases of_verbChecked agreed with ⟨verb, equal⟩
    rw [equal] at member
    rcases Pipeline.mem_reports_step member (other _ (by decide)) with ⟨schema, gated, member⟩
    rcases Pipeline.mem_reports_step member (other _ (by decide)) with ⟨token, allowed, _⟩
    exact ⟨descriptor, schema, token, described, verb, gated, allowed⟩
  · rintro ⟨descriptor, schema, token, described, verb, gated, allowed⟩
    have found : service.described context = pure descriptor := by
      simp [Service.described, described]
    have agreed : verbChecked context descriptor = (pure () : Action σ ApiError Unit) := by
      simp [verbChecked, verb]
    rcases Pipeline.exists_report_of_step Stage.body (Action.ofExcept (params context))
      (fun params => .step .before (service.prepare descriptor
        ⟨token, schema.name, context.endpoint.name, params, context.query⟩) fun input =>
      .step .endpoint
        (Execution.run ⟨service.database, schema, descriptor, context, input⟩) fun body =>
      .step .after (service.conclude descriptor ⟨body, 200, input.token⟩) fun output =>
      .done output)
      (service.authorize descriptor schema context (service.schema context state).state).state with
      ⟨report, member, body⟩
    refine ⟨report, ?_, body⟩
    unfold pipeline
    rw [found]
    refine Pipeline.mem_reports_of_ok rfl ?_
    rw [agreed]
    refine Pipeline.mem_reports_of_ok rfl ?_
    refine Pipeline.mem_reports_of_ok gated ?_
    exact Pipeline.mem_reports_of_ok allowed member

/-- Without a token the authorization alone decides, and only the log is written. -/
theorem authorize_without_token (service : Service σ) (tokenless : context.token = none)
    (descriptor : Descriptor) (schema : Schema) (state : σ) :
    ∃ entries : List LogEntry, service.authorize descriptor schema context state =
      ⟨(Authorization.withoutToken descriptor.authorization).toResult, entries.map Event.log,
        state⟩ := by
  rcases service.guard.evaluate_without_token (ε := ApiError) descriptor schema context state with
    ⟨entries, evaluated⟩
  refine ⟨entries, ?_⟩
  have decided : (service.guard.evaluate (ε := ApiError) descriptor none schema context
      state).result = .ok (Authorization.withoutToken descriptor.authorization) := by
    rw [evaluated]
  simp only [authorize, tokenless]
  rw [Action.bind_of_ok decided, evaluated]
  simp

/-! ## From the entry to the answer -/

/-- A request ends with an error of this status, and this is all that it has asked for. -/
structure TurnsAway (status : Nat) (asked : List Event) (outcome : Outcome σ ApiError HookOutput) :
    Prop where
  failed : ∃ error, outcome.result = .error error ∧ error.kind.status = status
  asked : effects outcome.events = asked

/-- What the gate of a table asks the database for. -/
def gateCalls (table : String) : List Event :=
  [.database .listTables, .database (.describeTable table)]

/-- How a request without a token ends, told by the entry of its endpoint. -/
structure FailsClosed (service : Service σ) (context : Context) (state : σ) (entry : Json) :
    Prop where
  passes : service.PassesAuthorization context state ↔
    (∃ descriptor, Descriptor.ofJson entry = .ok descriptor) ∧
      ∃ text, Descriptor.supplied entry = some (.string text) ∧ Text.trimmed text = "*"
  inactive : Descriptor.OthersFit entry →
    (Descriptor.supplied entry = none ∨ Descriptor.supplied entry = some .null) →
      TurnsAway 412 (gateCalls context.table) (service.handle context state)
  denied : Descriptor.OthersFit entry →
    ∀ value, Descriptor.supplied entry = some value → Policy.Shaped value →
      TurnsAway 401 (gateCalls context.table) (service.handle context state)
  invalid : ∀ value, Descriptor.supplied entry = some value → Descriptor.Unreadable value →
    TurnsAway 500 [] (service.handle context state)
  undecoded : ∀ fault, Descriptor.ofJson entry = .error fault →
    TurnsAway 500 [] (service.handle context state)

/-- An entry that is no descriptor ends a request before anything is asked. -/
theorem turnsAway_of_badEntry {path name : String} {fault : DescriptorFault}
    (undescribed : service.documents.descriptor context.table context.endpoint =
      .error (.badEntry path name fault)) :
    TurnsAway 500 [] (service.handle context state) := by
  rcases service.handle_of_undescribed context state undescribed with ⟨_, quiet, _⟩
  have raised : (service.descriptor context state).result =
      .error (.internal (DocumentError.badEntry path name fault).message) := by
    simp only [Service.descriptor, undescribed]
    rfl
  have ended : (service.handle context state).result =
      .error (.internal (DocumentError.badEntry path name fault).message) := by
    simp only [handle]
    rw [Action.bind_of_error raised]
  exact ⟨⟨_, ended, rfl⟩, quiet⟩

/-- A denial without a token comes right behind the gate of the table. -/
theorem turnsAway_of_denied_without_token {descriptor : Descriptor} {schema : Schema}
    {denial : Denial} (tokenless : context.token = none)
    (described : service.documents.descriptor context.table context.endpoint = .ok descriptor)
    (verb : descriptor.verb = context.verb)
    (gated : (service.schema context state).result = .ok schema)
    (refused : Authorization.withoutToken descriptor.authorization = .denied denial) :
    TurnsAway denial.status (gateCalls context.table) (service.handle context state) := by
  have denied : (service.guard.evaluate (ε := ApiError) descriptor context.token schema context
      (service.schema context state).state).result = .ok (.denied denial) := by
    rcases service.guard.evaluate_without_token (ε := ApiError) descriptor schema context
      (service.schema context state).state with ⟨entries, evaluated⟩
    rw [tokenless, evaluated, refused]
  rcases service.authorize_without_token tokenless descriptor schema
    (service.schema context state).state with ⟨entries, authorized⟩
  have status : denial.toApiError.kind.status = denial.status := by
    cases denial <;> decide
  rw [service.handle_of_denied context described verb gated denied]
  refine ⟨⟨_, rfl, status⟩, ?_⟩
  rw [effects_append, authorized, effects_map_log, List.append_nil, effects_schema,
    Schema.effects_of_load (service.loaded_of_schema context gated)]
  rfl

/-- Of the authorizations only the wildcard lets a request without a token go on. -/
theorem withoutToken_toResult {authorization : Option Authorization} {token : Option String}
    (allowed : (Authorization.withoutToken authorization).toResult = .ok token) :
    authorization = some .wildcard := by
  cases authorization with
  | none => cases allowed
  | some authorization =>
    cases authorization with
    | wildcard => rfl
    | policy policy => cases allowed

/-- A request without a token that the gate lets through, and the entry of its endpoint. -/
structure Anonymous (service : Service σ) (context : Context) (state : σ) (entries : Fields)
    (entry : Json) (schema : Schema) : Prop where
  token : context.token = none
  document : service.documents.document context.table = .ok entries
  found : Documents.entryOf? entries context.endpoint = some entry
  verb : ∀ descriptor, Descriptor.ofJson entry = .ok descriptor → descriptor.verb = context.verb
  gated : (service.schema context state).result = .ok schema

namespace Anonymous

variable {entries : Fields} {entry : Json} {schema : Schema} {descriptor : Descriptor}

theorem tidy (anonymous : Anonymous service context state entries entry schema) : entry.Tidy :=
  Documents.tidy_of_entryOf? anonymous.document anonymous.found

theorem described (anonymous : Anonymous service context state entries entry schema)
    (decoded : Descriptor.ofJson entry = .ok descriptor) :
    service.documents.descriptor context.table context.endpoint =
      .ok (Documents.complete context.endpoint descriptor) := by
  rw [Documents.descriptor_of_entryOf? anonymous.document anonymous.found, Documents.readEntry,
    decoded]
  rfl

theorem undescribed (anonymous : Anonymous service context state entries entry schema)
    {fault : DescriptorFault} (undecoded : Descriptor.ofJson entry = .error fault) :
    service.documents.descriptor context.table context.endpoint =
      .error (.badEntry (service.documents.documentPath context.table) context.endpoint.name
        fault) := by
  rw [Documents.descriptor_of_entryOf? anonymous.document anonymous.found, Documents.readEntry,
    undecoded]
  rfl

/-- Only the text `*` in an entry that can be read lets such a request pass. -/
theorem passes_iff (anonymous : Anonymous service context state entries entry schema) :
    service.PassesAuthorization context state ↔
      (∃ descriptor, Descriptor.ofJson entry = .ok descriptor) ∧
        ∃ text, Descriptor.supplied entry = some (.string text) ∧ Text.trimmed text = "*" := by
  rw [passesAuthorization_iff]
  constructor
  · rintro ⟨completed, schema, token, described, _, _, allowed⟩
    rcases service.authorize_without_token anonymous.token completed schema
      (service.schema context state).state with ⟨_, authorized⟩
    rw [authorized] at allowed
    have wildcard := withoutToken_toResult allowed
    cases decoded : Descriptor.ofJson entry with
    | error fault =>
      rw [anonymous.undescribed decoded] at described
      cases described
    | ok descriptor =>
      rw [anonymous.described decoded] at described
      cases described
      exact ⟨⟨descriptor, rfl⟩,
        (Descriptor.authorization_eq_wildcard anonymous.tidy decoded).1 wildcard⟩
  · rintro ⟨⟨descriptor, decoded⟩, star⟩
    have wildcard := (Descriptor.authorization_eq_wildcard anonymous.tidy decoded).2 star
    rcases service.authorize_without_token anonymous.token
      (Documents.complete context.endpoint descriptor) schema
      (service.schema context state).state with ⟨_, authorized⟩
    refine ⟨_, schema, none, anonymous.described decoded, anonymous.verb descriptor decoded,
      anonymous.gated, ?_⟩
    rw [authorized]
    simp [Documents.complete, wildcard, Authorization.withoutToken, Decision.toResult]

theorem turnsAway_of_fault (anonymous : Anonymous service context state entries entry schema)
    {fault : DescriptorFault} (undecoded : Descriptor.ofJson entry = .error fault) :
    TurnsAway 500 [] (service.handle context state) :=
  turnsAway_of_badEntry (anonymous.undescribed undecoded)

/-- An authorization that is not the wildcard denies such a request. -/
theorem turnsAway_of_denied (anonymous : Anonymous service context state entries entry schema)
    (fit : Descriptor.OthersFit entry) {authorization : Option Authorization} {denial : Denial}
    (supplied : Descriptor.authorizationOf ((Descriptor.supplied entry).getD .null) =
      .ok authorization)
    (refused : Authorization.withoutToken authorization = .denied denial) :
    TurnsAway denial.status (gateCalls context.table) (service.handle context state) := by
  rcases Descriptor.ofJson_of_othersFit anonymous.tidy fit supplied with ⟨descriptor, decoded⟩
  have same := Descriptor.authorization_of_ofJson anonymous.tidy decoded
  rw [supplied] at same
  cases same
  have agrees : (Documents.complete context.endpoint descriptor).verb = context.verb :=
    anonymous.verb descriptor decoded
  exact turnsAway_of_denied_without_token anonymous.token (anonymous.described decoded) agrees
    anonymous.gated refused

end Anonymous

/-- A request without a token is let past its decision by an open endpoint only. -/
theorem handle_failsClosed {request : Request} {tokenHeader : String} {entries : Fields}
    {entry : Json} {schema : Schema} (built : request.context tokenHeader = .ok context)
    (tokenless : request.headers.PresentsNoToken tokenHeader)
    (document : service.documents.document context.table = .ok entries)
    (found : Documents.entryOf? entries context.endpoint = some entry)
    (verb : ∀ descriptor, Descriptor.ofJson entry = .ok descriptor →
      descriptor.verb = context.verb)
    (gated : (service.schema context state).result = .ok schema) :
    FailsClosed service context state entry := by
  have anonymous : Anonymous service context state entries entry schema :=
    ⟨Request.token_eq_none built tokenless, document, found, verb, gated⟩
  constructor
  case passes => exact anonymous.passes_iff
  case inactive =>
    intro fit absent
    have nothing : (Descriptor.supplied entry).getD .null = .null := by
      rcases absent with absent | absent <;> rw [absent] <;> rfl
    have decoded := Descriptor.authorizationOf_null
    rw [← nothing] at decoded
    exact anonymous.turnsAway_of_denied fit decoded
      (rfl : Authorization.withoutToken none = .denied .notActivated)
  case denied =>
    intro fit value supplied shaped
    rcases Descriptor.authorizationOf_of_shaped shaped with ⟨policy, decoded⟩
    have given : (Descriptor.supplied entry).getD .null = value := by rw [supplied]; rfl
    rw [← given] at decoded
    exact anonymous.turnsAway_of_denied fit decoded
      (rfl : Authorization.withoutToken (some (.policy policy)) = .denied .missingToken)
  case invalid =>
    intro value supplied unreadable
    rcases Descriptor.authorizationOf_of_unreadable unreadable with ⟨fault, undecoded⟩
    cases decoded : Descriptor.ofJson entry with
    | error other => exact anonymous.turnsAway_of_fault decoded
    | ok descriptor =>
      have same := Descriptor.authorization_of_ofJson anonymous.tidy decoded
      rw [supplied, Option.getD_some, undecoded] at same
      cases same
  case undecoded => exact fun fault undecoded => anonymous.turnsAway_of_fault undecoded

/-- An entry whose policy has a single key, and that one is no rule. -/
def misspelledEntry : Json :=
  .object [("request_type", .string "GET"),
    ("authorization", .object [("role", .string "admin")])]

/-- A service whose settings misspell the only rule of an endpoint. -/
def misspelledService : Service Memory.Tables where
  database := Memory.Setup.plain.database
  tokens := .ofKnown []
  documents := ⟨"modules", Files.empty.write "modules/notes/assets/api.json"
    (some ("\x7b\"Get\":\x7b\"request_type\":\"GET\",\"authorization\":" ++
      "\x7b\"role\":\"admin\"\x7d\x7d\x7d").toUTF8.toList)⟩
  hooks := .empty
  bypassToken := some "letmein"
  audit := false

/-- Its request holds a blank in the place of the token. -/
def blankRequest : Request :=
  ⟨"GET", "/api/get/notes", none, ⟨[("token", " ")]⟩, []⟩

def blankContext : Context :=
  ⟨.get, "notes", .get, none, ["api", "get", "notes"], none, "", [], true⟩

theorem handle_failsClosed_misspelled :
    TurnsAway 401 (gateCalls "notes")
      (misspelledService.handle blankContext [("notes", ⟨["id"], []⟩)]) := by
  have document : misspelledService.documents.document blankContext.table =
      .ok [("Get", misspelledEntry)] := Result.ok_of_toOption (by decide +kernel)
  have blank : ∀ character ∈ " ".toList, Text.isBlank character = true :=
    List.all_eq_true.1 rfl
  have decoded : Descriptor.ofJson misspelledEntry =
      .ok ⟨.get, none, some (.policy .empty), none, none, false⟩ :=
    Result.ok_of_toOption (by decide +kernel)
  have verb : ∀ descriptor, Descriptor.ofJson misspelledEntry = .ok descriptor →
      descriptor.verb = blankContext.verb := by
    intro descriptor read
    rw [decoded] at read
    cases read
    rfl
  have fit : Descriptor.OthersFit misspelledEntry :=
    ⟨⟨.get, none, none, none, none, false⟩, Result.ok_of_toOption (by decide +kernel)⟩
  have shaped : Policy.Shaped (.object [("role", .string "admin")]) :=
    Policy.ofJson?_eq_some.1 ⟨.empty, by decide +kernel⟩
  have gated : (misspelledService.schema blankContext [("notes", ⟨["id"], []⟩)]).result =
      .ok ⟨"notes", ["id"]⟩ := Result.ok_of_toOption (by decide +kernel)
  have built : blankRequest.context "token" = .ok blankContext := rfl
  have closed := handle_failsClosed built (.blank rfl blank) document rfl verb gated
  exact closed.denied fit _ rfl shaped

end Service

end TableApi
