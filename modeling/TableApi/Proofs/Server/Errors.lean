import TableApi.Proofs.Request.Routing
import TableApi.Server.Answer

/-!
# Answers to requests that fail

A request fails in one of two places: it leads nowhere, or its handling ends with an error, whether
of its settings document, its table, its caller, its body, a hook or its endpoint.  The first place
knows the path of the request only, and the second its route, but they agree on the entry by which
the request came.  So an error is answered in one shape wherever it was raised.
-/

namespace TableApi

/-! ## The shape of an error -/

/-- The body that tells of a missing thing by the general entry. -/
def ApiError.missing (message : Json) : Json :=
  .object [("error", .string "NOT_FOUND"), ("message", message)]

/-- What the answer to an error looks like, by whether its request came by the general entry and
whether messages are shown. -/
structure ApiError.Shape (error : ApiError) (general : Prop) (shown : Bool) (response : Response) :
    Prop where
  status : response.status = error.kind.status
  /-- A missing thing that was asked for by the general entry is an object, and nothing else is. -/
  object_iff : (∃ status message, response = .json status (missing message)) ↔
    error.kind.status = 404 ∧ general
  object : error.kind.status = 404 → general →
    response = .json 404 (missing (if shown then .string error.message else .null))
  /-- Every other error is its bare message, or nothing at all. -/
  plain : ¬(error.kind.status = 404 ∧ general) →
    response =
      if shown then .plain error.kind.status error.message else .empty error.kind.status

theorem ErrorKind.status_eq_iff (kind : ErrorKind) : kind.status = 404 ↔ kind = .notFound := by
  cases kind <;> decide

namespace Response

/-- Plain text and no body at all are told from an object by the type of the body. -/
theorem plain_ne_json (status other : Nat) (text : String) (value : Json) :
    plain status text ≠ json other value := by
  intro same
  have types : Headers.none.set contentType "text/plain; charset=utf-8" ≠
    Headers.none.set contentType "application/json" := by decide
  exact types (congrArg Response.headers same)

theorem empty_ne_json (status other : Nat) (value : Json) : empty status ≠ json other value := by
  intro same
  have types : Headers.none ≠ Headers.none.set contentType "application/json" := by decide
  exact types (congrArg Response.headers same)

end Response

/-- An error is answered in its shape. -/
theorem ApiError.respondRouted_shape (error : ApiError) (viaApi shown : Bool) :
    error.Shape (viaApi = true) shown (error.respondRouted viaApi shown) := by
  by_cases missed : viaApi = true ∧ error.kind = .notFound
  · have answered : error.respondRouted viaApi shown =
        .json 404 (missing (if shown then .string error.message else .null)) := by
      rw [respondRouted, if_pos missed, missed.2]
      rfl
    have status : error.kind.status = 404 := error.kind.status_eq_iff.2 missed.2
    rw [answered]
    constructor
    · exact status.symm
    · exact ⟨fun _ => ⟨status, missed.1⟩, fun _ => ⟨404, _, rfl⟩⟩
    · exact fun _ _ => rfl
    · exact fun otherwise => absurd ⟨status, missed.1⟩ otherwise
  · have answered : error.respondRouted viaApi shown =
        if shown then .plain error.kind.status error.message else .empty error.kind.status := by
      rw [respondRouted, if_neg missed, respond]
    have otherwise : ¬(error.kind.status = 404 ∧ viaApi = true) := fun both =>
      missed ⟨both.2, error.kind.status_eq_iff.1 both.1⟩
    rw [answered]
    constructor
    · cases shown <;> rfl
    · refine ⟨?_, fun both => absurd both otherwise⟩
      rintro ⟨status, message, same⟩
      cases shown with
      | false => exact absurd same (Response.empty_ne_json _ _ _)
      | true => exact absurd same (Response.plain_ne_json _ _ _ _)
    · exact fun status general => absurd ⟨status, general⟩ otherwise
    · exact fun _ => rfl

/-! ## Requests that fail -/

namespace Server

variable {σ ε : Type}

/-- The error of a request that fails. -/
inductive Raises (server : Server σ) (request : Request) (state : σ) (error : ApiError) : Prop
  /-- The request leads nowhere. -/
  | astray (failed : request.context server.configuration.api.tokenHeader = .error error)
  /-- A stage of its handling fails. -/
  | handling {context : Context}
      (built : request.context server.configuration.api.tokenHeader = .ok context)
      (failed : (server.service.handle context state).result = .error error)

/--
A request that fails is answered in the shape of its error: as an object for a
missing thing below the general entry, and otherwise with the message or nothing.
Whether the request came by the general entry is read off its path, wherever it
failed.
-/
theorem dispatch_of_raises {server : Server σ} {request : Request} {state : σ} {error : ApiError}
    (raises : server.Raises request state error) :
    ∃ response, (server.dispatch request state : Outcome σ ε Response).result = .ok response ∧
      error.Shape ((segmentsOf request.path).head? = some "api")
        server.configuration.isDevelopment response := by
  have shape := error.respondRouted_shape (Route.isApiPath request.path)
    server.configuration.isDevelopment
  rw [Route.isApiPath, decide_eq_true_eq] at shape
  refine ⟨_, ?_, shape⟩
  unfold dispatch
  cases raises with
  | astray failed =>
    simp only [failed]
    rfl
  | @handling context built failed =>
    simp only [built]
    rw [Action.bind_of_ok rfl, Action.bind_of_ok rfl]
    simp only [Action.log_apply, Action.attempt_apply, failed, Request.viaApi_eq built]
    rfl

/-- A server without any settings document. -/
def bare : Server Memory.Tables where
  database := Memory.Setup.plain.database
  tokens := .ofKnown []
  documents := ⟨"modules", Files.empty⟩
  hooks := .empty
  configuration := .development

/-- A table without settings is missing in either shape. -/
theorem dispatch_of_raises_ghosts :
    (bare.dispatch ⟨"GET", "//api/get/ghosts", none, ⟨[]⟩, []⟩ [] :
        Outcome Memory.Tables Empty Response).result =
      .ok (.json 404 (ApiError.missing (.string "No endpoint settings for 'ghosts'"))) ∧
    (bare.dispatch ⟨"GET", "/ghosts", none, ⟨[]⟩, []⟩ [] :
        Outcome Memory.Tables Empty Response).result =
      .ok (.plain 404 "No endpoint settings for 'ghosts'") := by
  have general : bare.Raises ⟨"GET", "//api/get/ghosts", none, ⟨[]⟩, []⟩ []
      (.notFound "No endpoint settings for 'ghosts'") := .handling rfl rfl
  have short : bare.Raises ⟨"GET", "/ghosts", none, ⟨[]⟩, []⟩ []
      (.notFound "No endpoint settings for 'ghosts'") := .handling rfl rfl
  constructor
  · rcases dispatch_of_raises (ε := Empty) general with ⟨response, answered, shape⟩
    rw [answered, shape.object rfl (by decide)]
    rfl
  · rcases dispatch_of_raises (ε := Empty) short with ⟨response, answered, shape⟩
    rw [answered, shape.plain (by decide)]
    rfl

end Server

end TableApi
