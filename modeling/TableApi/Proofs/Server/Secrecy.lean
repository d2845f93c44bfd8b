import TableApi.Proofs.Request.Exchange
import TableApi.Server.Answer

/-!
# What answers tell of a failing database

Outside development the message of an error is no part of an answer, so errors of one kind are
answered alike.  What a database says when it fails reaches a client by such a message only, and
therefore not at all: over two databases that answer alike, every request gets the same status and
the same body.

The one exception is the answer about the health of the database.  It is no error of a request, and
it holds what the database said wherever the server runs.
-/

namespace TableApi

open TableApi.Action Result

variable {σ τ ε δ : Type} {States : σ → τ → Prop}

/-- Where messages are not shown, errors of one kind are answered alike. -/
theorem ApiError.SameKind.respondRouted_eq {error other : ApiError} (same : error.SameKind other)
    (viaApi : Bool) : error.respondRouted viaApi false = other.respondRouted viaApi false := by
  have kinds : error.kind = other.kind := same
  simp [respondRouted, respond, kinds]

namespace Server

/-- A server over another database and token store. -/
def onto (server : Server σ) (database : Database τ) (tokens : TokenStore τ) : Server τ :=
  ⟨database, tokens, server.documents, server.hooks, server.configuration⟩

@[simp]
theorem onto_configuration (server : Server σ) (database : Database τ) (tokens : TokenStore τ) :
    (server.onto database tokens).configuration = server.configuration := rfl

@[simp]
theorem onto_service (server : Server σ) (database : Database τ) (tokens : TokenStore τ) :
    (server.onto database tokens).service = server.service.onto database tokens := rfl

/-! ## Answers as they are sent -/

@[simp]
theorem withDefault_status (name value : String) (response : Response) :
    (withDefault name value response).status = response.status := by
  unfold withDefault
  split
  · rfl
  · rfl

@[simp]
theorem withDefault_body (name value : String) (response : Response) :
    (withDefault name value response).body = response.body := by
  unfold withDefault
  split
  · rfl
  · rfl

@[simp]
theorem finish_status (request : Request) (response : Response) :
    (finish request response).status = response.status := by
  unfold finish
  dsimp only
  split <;> split <;> simp

/-- Only the answer to a request for the headers of an own path loses its body. -/
theorem finish_body (request : Request) (response : Response) :
    (finish request response).body =
      if ownPaths.contains request.path && request.method = "HEAD" then "" else response.body := by
  unfold finish
  dsimp only
  split <;> split <;> simp

@[simp]
theorem state_status (configuration : Configuration) (request : Request) (response : Response) :
    (Origin.state configuration request response).status = response.status := rfl

@[simp]
theorem state_body (configuration : Configuration) (request : Request) (response : Response) :
    (Origin.state configuration request response).body = response.body := rfl

/-! ## Requests for the health -/

/-- A request for the health of the database that is not too long. -/
structure AsksHealth (server : Server σ) (request : Request) : Prop where
  path : request.path = "/health"
  method : request.method ∈ ownMethods
  fits : ¬(announcedLength request).any fun length =>
    server.configuration.api.largestBody < length

variable {server : Server σ} {request : Request}

/-- A request for the health is answered what the sign of life says. -/
theorem answer_of_asksHealth (asks : server.AsksHealth request) {state : σ}
    {sign : Except DatabaseError Unit} (pinged : (server.database.ping state).result = sign) :
    (server.answer request state : Outcome σ ε Response).result =
      .ok (finish request (Origin.state server.configuration request (healthAnswer sign))) := by
  have asked : request.method ≠ "OPTIONS" := by
    intro options
    have own := asks.method
    rw [options] at own
    exact absurd own (by decide)
  have healthy : (server.answerLimited request : Action σ ε Response) = server.health := by
    rw [answerLimited, if_neg asks.fits, answerWithin, if_pos, answerOwn, if_pos, if_pos asks.path]
    · exact List.contains_iff_mem.2 asks.method
    · rw [asks.path]
      decide
  rw [answer, if_neg asked, healthy, ← pinged]
  rfl

/-! ## Every other request -/

section Exchange

variable {database : Database τ} {tokens : TokenStore τ} {Errors : ε → δ → Prop}
  (databases : server.database.Alike States database)
  (stores : server.tokens.Alike States tokens)
  (hidden : server.configuration.isDevelopment = false)

include databases stores hidden

/-- Outside development the dispatcher answers alike over databases that do. -/
theorem dispatch_alike (request : Request) :
    Alike (.sameEffects States) Errors (· = ·) (server.dispatch request)
      ((server.onto database tokens).dispatch request) := by
  rw [dispatch, dispatch, onto_configuration, onto_service, hidden]
  cases request.context server.configuration.api.tokenHeader with
  | error error => exact (alike_log _ _).bind_same fun _ => alike_pure rfl
  | ok context =>
    apply (alike_log _ _).bind_same
    intro _
    have handled : Agree States (server.service.handle context)
        ((server.service.onto database tokens).handle context) :=
      Service.handle_agree databases stores context
    apply handled.attempt.bind
    intro ended other results
    cases results with
    | ok same =>
      cases same
      exact (alike_emit_map_log _ _).bind_same fun _ => alike_pure rfl
    | error kinds =>
      exact (alike_log _ _).bind_same fun _ =>
        alike_pure (ApiError.SameKind.respondRouted_eq kinds context.viaApi)

/-- Outside development an answer to anything but a request for the health is the same one. -/
theorem answer_alike (elsewhere : ¬server.AsksHealth request) :
    Alike (.sameEffects States) Errors (· = ·) (server.answer request)
      ((server.onto database tokens).answer request) := by
  have limited : Alike (.sameEffects States) Errors (· = ·) (server.answerLimited request)
      ((server.onto database tokens).answerLimited request) := by
    rw [answerLimited, answerLimited, onto_configuration]
    split
    · exact alike_pure rfl
    rename_i fits
    rw [answerWithin, answerWithin, onto_configuration]
    split
    · rw [answerOwn, answerOwn]
      split
      · rename_i method
        split
        -- This is the only branch whose answer holds a message, and it asks for the health.
        · rename_i path
          exact absurd ⟨path, List.contains_iff_mem.1 method, fits⟩ elsewhere
        · exact alike_pure rfl
      · exact alike_pure rfl
    split
    · exact alike_pure rfl
    · exact dispatch_alike databases stores hidden request
  rw [answer, answer, onto_configuration]
  split
  · exact (alike_pure rfl).bind_same fun _ => alike_pure rfl
  · exact limited.bind_same fun _ => alike_pure rfl

end Exchange

/-- What a database said is told in an answer only where the health was asked for. -/
theorem answer_of_alike (server : Server σ) {database : Database τ} {tokens : TokenStore τ}
    (databases : server.database.Alike States database)
    (stores : server.tokens.Alike States tokens)
    (hidden : server.configuration.isDevelopment = false) (request : Request) {state : σ}
    {other : τ} (related : States state other) :
    ∃ first second,
      (server.answer request state : Outcome σ ε Response).result = .ok first ∧
      ((server.onto database tokens).answer request other : Outcome τ δ Response).result =
        .ok second ∧
      first.status = second.status ∧
      (first.body = second.body ∨
        server.AsksHealth request ∧ request.method = "GET" ∧
          ∃ error partner, (server.database.ping state).result = .error error ∧
            (database.ping other).result = .error partner ∧
            first.body = (healthAnswer (.error error)).body ∧
            second.body = (healthAnswer (.error partner)).body) := by
  by_cases asks : server.AsksHealth request
  · have others : (server.onto database tokens).AsksHealth request :=
      ⟨asks.path, asks.method, asks.fits⟩
    rcases (databases.ping related).result.split with
      ⟨_, _, _, alive, living⟩ | ⟨error, partner, _, failed, failing⟩
    · exact ⟨_, _, answer_of_asksHealth asks alive, answer_of_asksHealth others living, rfl,
        Or.inl rfl⟩
    refine ⟨_, _, answer_of_asksHealth asks failed, answer_of_asksHealth others failing, ?_, ?_⟩
    · simp [healthAnswer, Response.json]
    have reads : request.method = "GET" ∨ request.method = "HEAD" := by
      simpa [ownMethods] using asks.method
    rcases reads with get | head
    -- Without a body there is nothing to tell, so only `GET` gets the message.
    · refine Or.inr ⟨asks, get, error, partner, failed, failing, ?_, ?_⟩
      · simp [finish_body, get]
      · simp [finish_body, get]
    · left
      simp [finish_body, head, asks.path, ownPaths]
  · have answered : Outcome.Alike (.sameEffects States) (fun (_ : ε) (_ : δ) => False) (· = ·)
        (server.answer request state) ((server.onto database tokens).answer request other) :=
      answer_alike databases stores hidden asks related
    rcases answered.result.split with ⟨first, _, rfl, gave, answered⟩ | ⟨_, _, impossible, _⟩
    · exact ⟨first, first, gave, answered, rfl, Or.inl rfl⟩
    · exact impossible.elim

/-- A production server over a database in memory, where anyone may read the notes. -/
def library (setup : Memory.Setup) : Server Memory.Tables where
  database := setup.database
  tokens := .ofDatabase setup.database 0
  documents := ⟨"modules", Files.empty.write "modules/notes/assets/api.json"
    (some "\x7b\"Get\":\x7b\"request_type\":\"GET\",\"authorization\":\"*\"\x7d\x7d".toUTF8.toList)⟩
  hooks := .empty
  configuration := .production

/-- A database in memory whose queries and whose signs of life fail. -/
def broken : Memory.Setup :=
  ⟨[], [("SELECT", "Disk sda1 is full")], some "No route to 10.0.0.7"⟩

theorem answer_of_alike_notes :
    ∃ first second,
      ((library broken).answer ⟨"GET", "/notes", none, ⟨[]⟩, []⟩ [("notes", ⟨["id"], []⟩)] :
        Outcome Memory.Tables Empty Response).result = .ok first ∧
      ((library (broken.reworded fun _ => "")).answer ⟨"GET", "/notes", none, ⟨[]⟩, []⟩
        [("notes", ⟨["id"], []⟩)] : Outcome Memory.Tables Empty Response).result = .ok second ∧
      (first.status, first.body) = (400, "") ∧ (second.status, second.body) = (400, "") := by
  have databases := broken.alike_reworded fun _ => ""
  have stores := TokenStore.alike_ofDatabase databases 0
  have failed : (((library broken).answer ⟨"GET", "/notes", none, ⟨[]⟩, []⟩
      [("notes", ⟨["id"], []⟩)] : Outcome Memory.Tables Empty Response).result.toOption.map
        fun response => (response.status, response.body)) = some (400, "") := by
    decide +kernel
  rcases answer_of_alike (ε := Empty) (δ := Empty) (library broken) databases stores rfl
      ⟨"GET", "/notes", none, ⟨[]⟩, []⟩
      (rfl : [("notes", ⟨["id"], []⟩)] = [("notes", ⟨["id"], []⟩)]) with
    ⟨first, second, gave, answered, statuses, bodies | ⟨asks, _⟩⟩
  · rw [gave] at failed
    have shown : (first.status, first.body) = (400, "") := Option.some.inj failed
    exact ⟨first, second, gave, answered, shown, by rw [← statuses, ← bodies, shown]⟩
  · exact absurd asks.path (by decide)

/-- Even in production the answer about the health says what the database said. -/
theorem answer_tells_health :
    (library broken).configuration.isDevelopment = false ∧
    (library broken).database.Alike (· = ·) (library (broken.reworded fun _ => "")).database ∧
    (library broken).tokens.Alike (· = ·) (library (broken.reworded fun _ => "")).tokens ∧
    ∃ first second : Response,
      ((library broken).answer ⟨"GET", "/health", none, ⟨[]⟩, []⟩ [] :
        Outcome Memory.Tables Empty Response).result = .ok first ∧
      ((library (broken.reworded fun _ => "")).answer ⟨"GET", "/health", none, ⟨[]⟩, []⟩ [] :
        Outcome Memory.Tables Empty Response).result = .ok second ∧
      first.body ≠ second.body := by
  have databases := broken.alike_reworded fun _ => ""
  have stores := TokenStore.alike_ofDatabase databases 0
  refine ⟨rfl, databases, stores, _, _, rfl, rfl, ?_⟩
  decide +kernel

end Server

end TableApi
