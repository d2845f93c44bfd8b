import TableApi.Proofs.Endpoint.Route
import TableApi.Proofs.Request.Discretion
import TableApi.Server.Answer

/-!
# What the log tells of tokens

Nothing of a token is logged but its fingerprint.  Two tokens of one fingerprint that the token
store and the bypass token do not tell apart therefore leave the same log, as far as the hooks keep
to that: what they hand back must not depend on the token, the token that they hand back apart.
That one shows in the log where it cannot be echoed, as one more entry at the end.

A token is a secret of its own header only.  A server that reads it from the header that names
another verb logs it when it is no verb.
-/

namespace TableApi

open TableApi.Action

variable {σ ε : Type}

/-! ## Two requests with tokens -/

/-- Two requests that may differ in the values of one header only. -/
structure Request.SameBut (name : String) (first second : Request) : Prop where
  method : first.method = second.method
  path : first.path = second.path
  query : first.query = second.query
  body : first.body = second.body
  headers : ∀ other, Headers.lowered other ≠ Headers.lowered name →
    first.headers.get? other = second.headers.get? other

/-- Where the token is not read from the header that names another verb, requests that differ in it
alone are led to the same endpoint. -/
theorem Request.SameBut.context_eq {name : String} {first second : Request}
    (same : SameBut name first second)
    (apart : Headers.lowered name ≠ Headers.lowered overrideHeader) :
    second.context name =
      (first.context name).map (·.presenting (tokenIn second.headers name)) := by
  have verbs : effectiveVerb second.method second.headers =
      effectiveVerb first.method first.headers := by
    rw [effectiveVerb, effectiveVerb, same.method, same.headers overrideHeader apart.symm]
  unfold context
  rw [verbs, ← same.path, ← same.query, ← same.body]
  cases effectiveVerb first.method first.headers with
  | error error => rfl
  | ok verb =>
    cases found : Route.find verb (segmentsOf first.path) with
    | error error =>
      simp only [bind, Except.bind, found]
      rfl
    | ok route =>
      simp only [bind, Except.bind, found]
      rfl

namespace Server

variable {server : Server σ} {States : σ → σ → Prop}
  {Tokens : Option String → Option String → Prop} {token other : String}

/-! ## The log of a request -/

/-- Whether nothing keeps a token that is handed back from being echoed. -/
def echoes (tokenHeader : String) (token : Option String) : Bool :=
  token.all fun text => Headers.isName tokenHeader && Headers.isSendable text

/-- The entry about a token that could not be echoed. -/
def unechoed (tokenHeader : String) : LogEntry :=
  .plain .warn ("Token could not be echoed in header " ++ tokenHeader)

theorem unechoed_eq (output : HookOutput) (tokenHeader : String) :
    Response.unechoed output tokenHeader =
      if echoes tokenHeader output.token then [] else [unechoed tokenHeader] := by
  rw [Response.unechoed, echoes]
  cases output.token with
  | none => rfl
  | some text => rfl

/-- What is logged of a request that leads to an endpoint. -/
def resolved (request : Request) (context : Context) : LogEntry :=
  .plain .debug
    ("Resolved " ++ context.verb.text ++ " " ++ request.path ++ " via " ++ wayOf context)

/-- What is logged of the end of a request. -/
def ending (tokenHeader : String) : Except ApiError HookOutput → List LogEntry
  | .ok output => Response.unechoed output tokenHeader
  | .error error =>
      [.plain .info (toString error.kind.status ++ " " ++ error.kind.code ++ ": " ++ error.message)]

theorem entries_dispatch {request : Request} {context : Context}
    (built : request.context server.configuration.api.tokenHeader = .ok context) (state : σ) :
    (server.dispatch request state : Outcome σ ε Response).entries =
      resolved request context :: (server.service.handle context state).entries ++
        ending server.configuration.api.tokenHeader
          (server.service.handle context state).result := by
  rw [dispatch, built]
  dsimp only
  rw [bind_of_ok rfl, bind_of_ok rfl]
  cases ended : (server.service.handle context state).result with
  | error error =>
    simp only [log_apply, attempt_apply, ended]
    rw [bind_of_ok rfl]
    simp [Outcome.entries, resolved, ending, Event.entry?]
  | ok output =>
    simp only [log_apply, attempt_apply, ended]
    rw [bind_of_ok rfl]
    simp [Outcome.entries, resolved, ending, Event.entry?, List.filterMap_map, Function.comp_def]

/-- A request that leads to no endpoint leaves one entry, which says why. -/
theorem entries_dispatch_of_error {request : Request} {error : ApiError}
    (astray : request.context server.configuration.api.tokenHeader = .error error) (state : σ) :
    (server.dispatch request state : Outcome σ ε Response).entries =
      [.plain .debug
        ("No endpoint for " ++ request.method ++ " " ++ request.path ++ ": " ++
          error.message)] := by
  rw [dispatch, astray]
  rfl

/-- Two logs that are equal, or of which one has this entry more at its end. -/
def UpToLast (entry : LogEntry) (first second : List LogEntry) : Prop :=
  first = second ∨ first = second ++ [entry] ∨ second = first ++ [entry]

theorem UpToLast.append {entry : LogEntry} {first second : List LogEntry}
    (ends : UpToLast entry first second) (start : List LogEntry) :
    UpToLast entry (start ++ first) (start ++ second) := by
  rcases ends with same | same | same
  · exact Or.inl (by rw [same])
  · exact Or.inr (Or.inl (by rw [same, List.append_assoc]))
  · exact Or.inr (Or.inr (by rw [same, List.append_assoc]))

/-- Two ends that differ in the token that is handed back differ by the entry about it only. -/
theorem ending_upToLast (tokenHeader : String) {first second : Except ApiError HookOutput}
    (ends : Result.Alike (· = ·) (HookOutput.Alike Tokens) first second) :
    UpToLast (unechoed tokenHeader) (ending tokenHeader first) (ending tokenHeader second) ∧
      ((∀ held handed, Tokens held handed →
        echoes tokenHeader held = echoes tokenHeader handed) →
          ending tokenHeader first = ending tokenHeader second) := by
  cases ends with
  | error same =>
    rw [same]
    exact ⟨Or.inl rfl, fun _ => rfl⟩
  | @ok output handed outputs =>
    simp only [ending, unechoed_eq]
    refine ⟨?_, fun both => by rw [both _ _ outputs.token]⟩
    cases echoes tokenHeader output.token <;> cases echoes tokenHeader handed.token <;>
      simp [UpToLast]

/-- Two requests that present two tokens and are otherwise the same, for a server that cannot tell
the tokens apart and whose hooks are discreet. -/
structure DifferInToken (server : Server σ) (States : σ → σ → Prop)
    (Tokens : Option String → Option String → Prop) (token other : String)
    (first second : Request) : Prop where
  overlooks : server.database.Overlooks States
  discreet : server.hooks.Discreet Tokens
  confuses : server.service.Confuses States token other
  same : first.SameBut server.configuration.api.tokenHeader second
  presented : Request.tokenIn first.headers server.configuration.api.tokenHeader = some token
  exchanged : Request.tokenIn second.headers server.configuration.api.tokenHeader = some other
  kept : Tokens (some token) (some other)

/--
Two requests that differ in a presented token only leave the same log, unless the
token is read from the header that names another verb.  Where a hook hands back a
token that cannot be echoed, in one run but not in the other, that is the last
entry of that run and the only one by which the logs differ.
-/
theorem dispatch_entries {first second : Request}
    (differ : server.DifferInToken States Tokens token other first second)
    (apart : Headers.lowered server.configuration.api.tokenHeader ≠
      Headers.lowered Request.overrideHeader)
    {state partner : σ} (related : States state partner) :
    UpToLast (unechoed server.configuration.api.tokenHeader)
        (server.dispatch first state : Outcome σ ε Response).entries
        (server.dispatch second partner : Outcome σ ε Response).entries ∧
      ((∀ held handed, Tokens held handed →
        echoes server.configuration.api.tokenHeader held =
          echoes server.configuration.api.tokenHeader handed) →
        (server.dispatch first state : Outcome σ ε Response).entries =
          (server.dispatch second partner : Outcome σ ε Response).entries) := by
  have contexts := differ.same.context_eq apart
  cases built : first.context server.configuration.api.tokenHeader with
  | error error =>
    rw [built] at contexts
    rw [entries_dispatch_of_error built, entries_dispatch_of_error contexts, differ.same.method,
      differ.same.path]
    exact ⟨Or.inl rfl, fun _ => rfl⟩
  | ok context =>
    rw [built, differ.exchanged] at contexts
    have alike := Service.handle_presenting differ.overlooks differ.discreet differ.confuses
      differ.kept ((Request.token_of_context built).trans differ.presented) related
    have logs : (server.service.handle context state).entries =
      (server.service.handle (context.presenting (some other)) partner).entries := alike.events
    have starts : resolved second (context.presenting (some other)) = resolved first context := by
      rw [resolved, resolved, differ.same.path]
      rfl
    have ends := ending_upToLast server.configuration.api.tokenHeader alike.result
    rw [entries_dispatch built, entries_dispatch contexts, starts, ← logs]
    exact ⟨ends.1.append _, fun both => by rw [ends.2 both]⟩

/-- The notes of administrators in a dialogue with a database server, with a hook in front of
them. -/
def confidential (hook : Hook) (tokenHeader : String) : Server Session where
  database := Session.database ⟨true, 0⟩
  tokens := .ofDatabase (Session.database ⟨true, 0⟩) 0
  documents := ⟨"modules", Files.empty.write "modules/notes/assets/api.json"
    (some ("\x7b\"Get\":\x7b\"request_type\":\"GET\"," ++
      "\"authorization\":\x7b\"roles\":\"admin\"\x7d," ++
      "\"beforeHook\":\"notes/mark\"\x7d\x7d").toUTF8.toList)⟩
  hooks := HookRegistry.empty.register "notes/mark" hook
  configuration :=
    { Configuration.production with api := { Configuration.production.api with tokenHeader } }

/-- A request to the notes with a single header. -/
def notesWith (method header value : String) : Request :=
  ⟨method, "/notes", none, ⟨[(header, value)]⟩, []⟩

/-- The answers of a server that knows one note, and an administrator behind any token. -/
def administration : List ServerAnswer :=
  [.rows [("Tables", .ofName "VARCHAR")] [[.bytes "notes".toUTF8.toList]],
    .rows [("Field", .ofName "VARCHAR")] [[.bytes "id".toUTF8.toList]],
    .rows [("expiry_date", .ofName "BIGINT"), ("user_level", .ofName "VARCHAR")]
      [[.integer 1, .bytes "admin".toUTF8.toList]],
    .rows [("id", .ofName "BIGINT")] [[.integer 1]]]

theorem get?_notesWith (method header value name : String) :
    (notesWith method header value).headers.get? name =
      if Headers.lowered header = Headers.lowered name then some value else none := by
  simp [notesWith, Headers.get?, List.find?_singleton, apply_ite]

theorem notesWith_sameBut (method header value other : String) :
    (notesWith method header value).SameBut header (notesWith method header other) where
  method := rfl
  path := rfl
  query := rfl
  body := rfl
  headers name apart := by
    rw [get?_notesWith, get?_notesWith, if_neg apart.symm, if_neg apart.symm]

/-- Two tokens with one fingerprint, presented to the notes. -/
theorem confidential_differInToken {hook : Hook} (discreet : Hook.Discreet Tokens hook)
    (kept : Tokens (some "guest-2986724") (some "guest-16998891")) (method tokenHeader : String) :
    (confidential hook tokenHeader).DifferInToken Session.Abreast Tokens "guest-2986724"
      "guest-16998891" (notesWith method tokenHeader "guest-2986724")
      (notesWith method tokenHeader "guest-16998891") where
  overlooks := Session.database_overlooks _
  discreet := HookRegistry.discreet_empty.register discreet "notes/mark"
  confuses := ⟨Session.tokens_confuse _ _ _ _, by decide +kernel, iff_of_false nofun nofun⟩
  same := notesWith_sameBut method tokenHeader _ _
  presented := by
    show Request.tokenIn (notesWith method tokenHeader _).headers tokenHeader = _
    rw [Request.tokenIn, get?_notesWith, if_pos rfl]
    decide +kernel
  exchanged := by
    show Request.tokenIn (notesWith method tokenHeader _).headers tokenHeader = _
    rw [Request.tokenIn, get?_notesWith, if_pos rfl]
    decide +kernel
  kept := kept

/-- Of an administrator the fingerprint is logged, so two tokens with one fingerprint leave the same
log. -/
theorem dispatch_entries_notes :
    ((confidential (.ofSteps [.setQuery ""]) "trongateToken").dispatch
        (notesWith "GET" "trongateToken" "guest-2986724") (.ofAnswers administration 0) :
      Outcome Session Empty Response).entries =
      ((confidential (.ofSteps [.setQuery ""]) "trongateToken").dispatch
        (notesWith "GET" "trongateToken" "guest-16998891")
        ⟨administration, [.ofSql ⟨"SELECT 1", []⟩], 0⟩ :
      Outcome Session Empty Response).entries ∧
    ((confidential (.ofSteps [.setQuery ""]) "trongateToken").dispatch
        (notesWith "GET" "trongateToken" "guest-2986724") (.ofAnswers administration 0) :
      Outcome Session Empty Response).entries.contains
        ⟨.info, "Allowed Get on notes", [("token", "f0a1cc220e41")]⟩ = true := by
  have discreet : Hook.Discreet (fun held handed =>
      echoes "trongateToken" held = echoes "trongateToken" handed) (.ofSteps [.setQuery ""]) := by
    apply Hook.discreet_ofSteps
    exact fun _ => rfl
  have differ := confidential_differInToken discreet (by decide +kernel) "GET" "trongateToken"
  have abreast : (Session.ofAnswers administration 0).Abreast
      ⟨administration, [.ofSql ⟨"SELECT 1", []⟩], 0⟩ :=
    ⟨rfl, rfl⟩
  exact ⟨(dispatch_entries differ (by decide) abreast).2 fun _ _ same => same,
    by decide +kernel⟩

/-- A hook that hands back, in place of a certain token, one that cannot be echoed. -/
def betraying : Hook
  | .input data =>
      .ok (.input { data with
        token := if data.token = some "guest-2986724" then some "a\nb" else data.token })
  | .output data => .ok (.output data)

theorem betraying_discreet : Hook.Discreet (fun _ _ => True) betraying := by
  intro payload token _
  cases payload with
  | input data => exact .ok (.input ⟨rfl, rfl, trivial⟩)
  | output data => exact .ok (.output ⟨rfl, rfl, trivial⟩)

/--
A token that is read from the header that names another verb is logged as a verb
that there is not, and a token that a hook hands back shows where it cannot be
echoed.
-/
theorem dispatch_betrays_token :
    ((confidential (.ofSteps []) Request.overrideHeader).DifferInToken Session.Abreast
        (fun _ _ => True) "guest-2986724" "guest-16998891"
        (notesWith "POST" Request.overrideHeader "guest-2986724")
        (notesWith "POST" Request.overrideHeader "guest-16998891") ∧
      ((confidential (.ofSteps []) Request.overrideHeader).dispatch
          (notesWith "POST" Request.overrideHeader "guest-2986724")
          (.ofAnswers administration 0) : Outcome Session Empty Response).entries ≠
        ((confidential (.ofSteps []) Request.overrideHeader).dispatch
          (notesWith "POST" Request.overrideHeader "guest-16998891")
          (.ofAnswers administration 0) : Outcome Session Empty Response).entries) ∧
    ((confidential betraying "trongateToken").DifferInToken Session.Abreast
        (fun _ _ => True) "guest-2986724" "guest-16998891"
        (notesWith "GET" "trongateToken" "guest-2986724")
        (notesWith "GET" "trongateToken" "guest-16998891") ∧
      ((confidential betraying "trongateToken").dispatch
          (notesWith "GET" "trongateToken" "guest-2986724")
          (.ofAnswers administration 0) : Outcome Session Empty Response).entries ≠
        ((confidential betraying "trongateToken").dispatch
          (notesWith "GET" "trongateToken" "guest-16998891")
          (.ofAnswers administration 0) : Outcome Session Empty Response).entries) := by
  have script : Hook.Discreet (fun _ _ => True) (.ofSteps []) :=
    Hook.discreet_ofSteps (fun _ => trivial) []
  refine ⟨⟨confidential_differInToken script trivial _ _, by decide +kernel⟩,
    ⟨confidential_differInToken betraying_discreet trivial _ _, fun same => ?_⟩⟩
  -- The logs are of different lengths, which is less to compute than the logs are.
  exact absurd (congrArg List.length same) (by decide +kernel)

end Server

end TableApi
