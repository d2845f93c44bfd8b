import TableApi.Proofs.Server.Secrecy

/-!
# The origins that may read answers

Which origin may read an answer is said by one header.  No answer holds it before the rule about
origins is stated, whatever became of the request, and nothing that is done to an answer afterwards
touches it.  So the header is there just when the origin of the request is listed, and holds this
origin.

Two settings stand outside of the rule.  A list of origins that names none, which every text without
a usable entry is, opens the answers to all.  And a token is echoed in a header of any name that the
configuration gives, even in the one of the rule, where it stays unless the rule replaces it.
-/

namespace TableApi

open TableApi.Action

/-! ## Headers -/

namespace Headers

variable {headers : Headers} {name other value text : String}

/-- A value is held under a name, in whatever case the name is written. -/
def Holds (headers : Headers) (name value : String) : Prop :=
  ∃ entry ∈ headers.entries, lowered entry.1 = lowered name ∧ entry.2 = value

instance (headers : Headers) (name value : String) : Decidable (headers.Holds name value) :=
  inferInstanceAs (Decidable (∃ entry ∈ headers.entries, _))

@[simp]
theorem not_holds_none : ¬none.Holds name value := by
  simp [Holds, none]

/-- A header that is set holds the value that it is set to. -/
theorem holds_set_self : (headers.set name text).Holds name value ↔ value = text := by
  simp only [Holds, set, List.mem_append, List.mem_filter, List.mem_singleton]
  constructor
  · rintro ⟨entry, ⟨_, differ⟩ | rfl, same, rfl⟩
    · simp [same] at differ
    · rfl
  · rintro rfl
    exact ⟨(name, value), Or.inr rfl, rfl, rfl⟩

/-- A header that is set leaves those of other names alone. -/
theorem holds_set_of_ne (apart : lowered other ≠ lowered name) :
    (headers.set other text).Holds name value ↔ headers.Holds name value := by
  simp only [Holds, set, List.mem_append, List.mem_filter, List.mem_singleton]
  constructor
  · rintro ⟨entry, ⟨member, _⟩ | rfl, same, held⟩
    · exact ⟨entry, member, same, held⟩
    · exact absurd same apart
  · rintro ⟨entry, member, same, held⟩
    exact ⟨entry, Or.inl ⟨member, by simpa [same] using Ne.symm apart⟩, same, held⟩

theorem holds_append_of_ne (apart : lowered other ≠ lowered name) :
    (headers.append other text).Holds name value ↔ headers.Holds name value := by
  simp only [Holds, append, List.mem_append, List.mem_singleton]
  constructor
  · rintro ⟨entry, member | rfl, same, held⟩
    · exact ⟨entry, member, same, held⟩
    · exact absurd same apart
  · rintro ⟨entry, member, same, held⟩
    exact ⟨entry, Or.inl member, same, held⟩

/-- Several headers that are set leave those of other names alone. -/
theorem holds_setAll_of_ne {entries : List (String × String)}
    (apart : ∀ entry ∈ entries, lowered entry.1 ≠ lowered name) :
    (entries.foldl (fun headers (other, text) => headers.set other text) headers).Holds name value ↔
      headers.Holds name value := by
  induction entries generalizing headers with
  | nil => rfl
  | cons entry entries step =>
    rw [List.forall_mem_cons] at apart
    rw [List.foldl_cons, step apart.2]
    exact holds_set_of_ne apart.1

end Headers

/-! ## Answers before the rule -/

/-- An answer that says nothing about which origin may read it. -/
def Response.Silent (response : Response) : Prop :=
  ∀ value, ¬response.headers.Holds Origin.header value

namespace Response

theorem silent_empty (status : Nat) : (empty status).Silent :=
  fun _ => Headers.not_holds_none

theorem silent_plain (status : Nat) (text : String) : (plain status text).Silent := by
  intro value
  rw [plain, Headers.holds_set_of_ne (by decide)]
  exact Headers.not_holds_none

theorem silent_json (status : Nat) (value : Json) : (json status value).Silent := by
  intro text
  rw [json, Headers.holds_set_of_ne (by decide)]
  exact Headers.not_holds_none

/-- The answer with a token is silent when the token goes under another name. -/
theorem silent_ofOutput (output : HookOutput) {tokenHeader : String}
    (apart : Headers.lowered tokenHeader ≠ Headers.lowered Origin.header) :
    (ofOutput output tokenHeader).Silent := by
  have bare := silent_json (statusOf output.code) output.body
  unfold ofOutput
  dsimp only
  split
  · split
    · intro value
      rw [Headers.holds_set_of_ne apart]
      exact bare value
    · exact bare
  · exact bare

end Response

theorem ApiError.silent_respondRouted (error : ApiError) (viaApi shown : Bool) :
    (error.respondRouted viaApi shown).Silent := by
  unfold respondRouted respond
  split
  · exact Response.silent_json _ _
  · split
    · exact Response.silent_plain _ _
    · exact Response.silent_empty _

namespace Server

variable {σ ε : Type} {server : Server σ}

theorem silent_healthAnswer (sign : Except DatabaseError Unit) : (healthAnswer sign).Silent := by
  cases sign with
  | ok alive => exact Response.silent_json _ _
  | error error => exact Response.silent_json _ _

section Apart

variable (apart : Headers.lowered server.configuration.api.tokenHeader ≠
  Headers.lowered Origin.header)

include apart

/-- The dispatcher always answers, and its answer is silent. -/
theorem dispatch_yields (request : Request) :
    Yields Response.Silent (server.dispatch request : Action σ ε Response) := by
  unfold dispatch
  dsimp only
  split
  · exact (yields_emit _).bind fun _ _ => yields_pure (ApiError.silent_respondRouted _ _ _)
  · refine (yields_emit _).bind fun _ _ => (yields_attempt _).bind fun ended _ => ?_
    split
    · exact (yields_emit _).bind fun _ _ => yields_pure (Response.silent_ofOutput _ apart)
    · exact (yields_emit _).bind fun _ _ => yields_pure (ApiError.silent_respondRouted _ _ _)

/-- Every request gets an answer, which is silent until the rule is stated. -/
theorem answerLimited_yields (request : Request) :
    Yields Response.Silent (server.answerLimited request : Action σ ε Response) := by
  unfold answerLimited
  split
  · exact yields_pure (Response.silent_plain _ _)
  unfold answerWithin
  split
  · unfold answerOwn
    split
    · split
      · exact (yields_attempt _).bind fun sign _ => yields_pure (silent_healthAnswer sign)
      · exact yields_pure (Response.silent_json _ _)
    · exact yields_pure (Response.silent_empty _)
  split
  · exact yields_pure (Response.silent_plain _ _)
  · exact dispatch_yields apart request

end Apart

end Server

/-! ## The rule -/

/-- A silent answer says, once the rule is stated, which origin it allows and nothing else. -/
theorem Origin.holds_state {response : Response} (silent : response.Silent)
    (configuration : Configuration) (request : Request) (value : String) :
    (state configuration request response).headers.Holds header value ↔
      allowed configuration request = some value := by
  have others : ∀ entry ∈ (if request.method = "OPTIONS" then permissions configuration
      else exposure configuration), Headers.lowered entry.1 ≠ Headers.lowered header := by
    intro entry member
    split at member
    · simp only [permissions, List.mem_cons, List.not_mem_nil, or_false] at member
      rcases member with rfl | rfl
      · exact (by decide : Headers.lowered "access-control-allow-methods" ≠ Headers.lowered header)
      · decide
    · unfold exposure at member
      split at member
      · rw [List.mem_singleton.1 member]
        decide
      · simp at member
  have ruled : (state configuration request response).headers.Holds header value ↔
      (((allowed configuration request).toList.map fun origin => (header, origin)).foldl
        (fun headers (name, value) => headers.set name value) response.headers).Holds
          header value := by
    rw [state, Headers.holds_append_of_ne (by decide), stated, List.foldl_append]
    exact Headers.holds_setAll_of_ne others
  rw [ruled]
  cases allowed configuration request with
  | none => simpa using silent value
  | some origin =>
    rw [Option.toList_some, List.map_singleton, List.foldl_cons, List.foldl_nil,
      Headers.holds_set_self, Option.some_inj, eq_comm]

namespace Server

theorem holds_withDefault_of_ne {name other text value : String}
    (apart : Headers.lowered other ≠ Headers.lowered name) (response : Response) :
    (withDefault other text response).headers.Holds name value ↔
      response.headers.Holds name value := by
  unfold withDefault
  split
  · rfl
  · exact Headers.holds_set_of_ne apart

/-- What is done to an answer before it is sent leaves the rule as it was stated. -/
theorem holds_finish (request : Request) (response : Response) (value : String) :
    (finish request response).headers.Holds Origin.header value ↔
      response.headers.Holds Origin.header value := by
  have length : ∀ text other, (withDefault "content-length" text other).headers.Holds
      Origin.header value ↔ other.headers.Holds Origin.header value :=
    fun text => holds_withDefault_of_ne (by decide)
  have allow : ∀ text other, (withDefault "allow" text other).headers.Holds
      Origin.header value ↔ other.headers.Holds Origin.header value :=
    fun text => holds_withDefault_of_ne (by decide)
  unfold finish
  dsimp only
  split <;> split <;> simp only [length, allow]

/-- An answer says which origin the rule allows, and always comes. -/
theorem answer_yields {σ ε : Type} {server : Server σ}
    (apart : Headers.lowered server.configuration.api.tokenHeader ≠
      Headers.lowered Origin.header) (request : Request) :
    Yields (fun response => ∀ value, response.headers.Holds Origin.header value ↔
        Origin.allowed server.configuration request = some value)
      (server.answer request : Action σ ε Response) := by
  have sent : ∀ response : Response, response.Silent →
      Yields (fun response => ∀ value, response.headers.Holds Origin.header value ↔
          Origin.allowed server.configuration request = some value)
        (pure (finish request (Origin.state server.configuration request response)) :
          Action σ ε Response) := by
    intro response silent
    refine yields_pure fun value => ?_
    rw [holds_finish, Origin.holds_state silent]
  unfold answer
  split
  · exact (yields_pure (Response.silent_empty 200)).bind sent
  · exact (answerLimited_yields apart request).bind sent

end Server

/-! ## The list of origins -/

/--
The origins that the variables of a process list: those of the preset, or the
entries between the commas of a text, without blanks around them and unless
they are blank.
-/
def Configuration.Lists (scope : Variables) (origin : String) : Prop :=
  match scope.get? "SECURITY_CORS_ORIGINS" with
  | none => origin ∈ (preset (.ofVariable (scope.get? "APP_ENV"))).security.origins
  | some text => origin ≠ "" ∧
      ∃ entry ∈ Text.splitAtChar ',' text.toList, String.ofList (Text.trim entry) = origin

theorem Configuration.mem_origins_iff (scope : Variables) (origin : String) :
    origin ∈ (ofVariables scope).security.origins ↔ Lists scope origin := by
  unfold ofVariables withVariables securityWith Lists
  cases scope.get? "SECURITY_CORS_ORIGINS" with
  | none => rfl
  | some text => simp [listOf, and_comm]

/-! ## Answers outside development -/

/-- Outside development there are origins without a text that lists them, and not all are. -/
theorem Configuration.lists_of_unset {scope : Variables}
    (unset : scope.get? "SECURITY_CORS_ORIGINS" = none)
    (outside : Environment.ofVariable (scope.get? "APP_ENV") ≠ .development) :
    (∃ origin, Lists scope origin) ∧ ¬Lists scope "*" := by
  simp only [Lists, unset]
  cases environment : Environment.ofVariable (scope.get? "APP_ENV") with
  | development => exact absurd environment outside
  | staging => exact ⟨⟨"https://staging.example.com", by decide⟩, by decide⟩
  | production => exact ⟨⟨"https://app.example.com", by decide⟩, by decide⟩

/--
Outside development an answer may be read by the origin of its request when this
origin is listed, and by no other; it is never open to all.  A text that
replaces the list has to name an origin, and may not name all of them, and the
header of the token must not be the one that says which origin is allowed.
-/
theorem Server.answer_allows_listed {σ ε : Type} {server : Server σ} {scope : Variables}
    (configured : server.configuration = .ofVariables scope)
    (outside : Environment.ofVariable (scope.get? "APP_ENV") ≠ .development)
    (usable : ∀ text, scope.get? "SECURITY_CORS_ORIGINS" = some text →
      ∃ origin, Configuration.Lists scope origin)
    (closed : ∀ text, scope.get? "SECURITY_CORS_ORIGINS" = some text →
      ¬Configuration.Lists scope "*")
    (apart : Headers.lowered server.configuration.api.tokenHeader ≠
      Headers.lowered Origin.header) (request : Request) (state : σ) :
    ∃ response, (server.answer request state : Outcome σ ε Response).result = .ok response ∧
      (∀ value, response.headers.Holds Origin.header value ↔
        request.headers.get? "origin" = some value ∧ Configuration.Lists scope value ∧
          Headers.isSendable value = true) ∧
      ¬response.headers.Holds Origin.header "*" := by
  have lists : (∃ origin, Configuration.Lists scope origin) ∧ ¬Configuration.Lists scope "*" := by
    cases given : scope.get? "SECURITY_CORS_ORIGINS" with
    | none => exact Configuration.lists_of_unset given outside
    | some text => exact ⟨usable text given, closed text given⟩
  rcases lists with ⟨⟨origin, listed⟩, notAll⟩
  rw [← Configuration.mem_origins_iff, ← configured] at listed
  have guarded : Origin.isOpen server.configuration = false := by
    simpa [Origin.isOpen] using List.ne_nil_of_mem listed
  rcases answer_yields (ε := ε) apart request state with ⟨response, answered, holds⟩
  have allows : ∀ value, response.headers.Holds Origin.header value ↔
      request.headers.get? "origin" = some value ∧ Configuration.Lists scope value ∧
        Headers.isSendable value = true := by
    intro value
    rw [holds, Origin.allowed, guarded, ← Configuration.mem_origins_iff, ← configured]
    simp [Option.filter_eq_some_iff, List.mem_filter]
  exact ⟨response, answered, allows, fun all => notAll ((allows "*").1 all).2.1⟩

namespace Server

/-- The open notes over a database in memory, with the configuration that some variables give. -/
def libraryUnder (scope : Variables) : Server Memory.Tables :=
  { library Memory.Setup.plain with configuration := .ofVariables scope }

/-- The notes as a program with an origin asks for them. -/
def notesFor (origin : String) (headers : List (String × String)) : Request :=
  ⟨"GET", "/notes", none, ⟨("origin", origin) :: headers⟩, []⟩

theorem exists_of_any {σ ε : Type} {outcome : Outcome σ ε Response} {name value : String}
    (holds : (outcome.result.toOption.any fun response =>
      decide (response.headers.Holds name value)) = true) :
    ∃ response, outcome.result = .ok response ∧ response.headers.Holds name value := by
  rcases (Option.any_eq_true _ _).1 holds with ⟨response, gave, held⟩
  exact ⟨response, Result.ok_of_toOption gave, of_decide_eq_true held⟩

/-- In staging an entry between blank ones is listed, and the origin of the preset is not. -/
theorem answer_allows_listed_staging :
    (∃ response, ((libraryUnder [("APP_ENV", "stage"),
        ("SECURITY_CORS_ORIGINS", " , https://a.example,")]).answer
          (notesFor "https://a.example" []) [("notes", ⟨["id"], []⟩)] :
        Outcome Memory.Tables Empty Response).result = .ok response ∧
      response.headers.Holds Origin.header "https://a.example") ∧
    ∃ response, ((libraryUnder [("APP_ENV", "stage"),
        ("SECURITY_CORS_ORIGINS", " , https://a.example,")]).answer
          (notesFor "https://staging.example.com" []) [("notes", ⟨["id"], []⟩)] :
        Outcome Memory.Tables Empty Response).result = .ok response ∧
      ∀ value, ¬response.headers.Holds Origin.header value := by
  have lists : ∀ origin, Configuration.Lists [("APP_ENV", "stage"),
      ("SECURITY_CORS_ORIGINS", " , https://a.example,")] origin ↔
        origin = "https://a.example" := by
    intro origin
    rw [← Configuration.mem_origins_iff]
    have entries : (Configuration.ofVariables [("APP_ENV", "stage"),
        ("SECURITY_CORS_ORIGINS", " , https://a.example,")]).security.origins =
          ["https://a.example"] := by
      decide +kernel
    rw [entries, List.mem_singleton]
  have answered := fun request => @answer_allows_listed Memory.Tables Empty
    (libraryUnder [("APP_ENV", "stage"), ("SECURITY_CORS_ORIGINS", " , https://a.example,")]) _ rfl
    (by decide) (fun _ _ => ⟨_, (lists _).2 rfl⟩)
    (fun _ _ all => absurd ((lists _).1 all) (by decide)) (by decide) request
    [("notes", ⟨["id"], []⟩)]
  constructor
  · rcases answered (notesFor "https://a.example" []) with ⟨response, gave, allows, _⟩
    exact ⟨response, gave, (allows _).2 ⟨rfl, (lists _).2 rfl, by decide⟩⟩
  · rcases answered (notesFor "https://staging.example.com" []) with ⟨response, gave, allows, _⟩
    refine ⟨response, gave, fun value holds => ?_⟩
    rcases (allows value).1 holds with ⟨asked, listed, _⟩
    rw [(lists value).1 listed] at asked
    exact absurd asked (by decide)

/--
A text without an entry opens the answers of a production server to all, and so
does a token that is echoed in the header of the rule.
-/
theorem answer_allows_unlisted :
    Environment.ofVariable (some "production") ≠ .development ∧
    (¬Configuration.Lists [("APP_ENV", "production"), ("SECURITY_CORS_ORIGINS", " , ")] "*" ∧
      ∃ response, ((libraryUnder [("APP_ENV", "production"),
          ("SECURITY_CORS_ORIGINS", " , ")]).answer (notesFor "https://evil.example" [])
            [("notes", ⟨["id"], []⟩)] : Outcome Memory.Tables Empty Response).result =
              .ok response ∧
        response.headers.Holds Origin.header "*") ∧
    (¬Configuration.Lists [("APP_ENV", "production"), ("API_TOKEN_HEADER", Origin.header)] "*" ∧
      ∃ response, ((libraryUnder [("APP_ENV", "production"),
          ("API_TOKEN_HEADER", Origin.header)]).answer
            (notesFor "https://evil.example" [(Origin.header, "*")])
            [("notes", ⟨["id"], []⟩)] : Outcome Memory.Tables Empty Response).result =
              .ok response ∧
        response.headers.Holds Origin.header "*") := by
  have unlisted : ∀ scope, "*" ∉ (Configuration.ofVariables scope).security.origins →
      ¬Configuration.Lists scope "*" := by
    intro scope absent listed
    exact absent ((Configuration.mem_origins_iff scope "*").2 listed)
  refine ⟨by decide, ⟨unlisted _ (by decide +kernel), ?_⟩, ⟨unlisted _ (by decide +kernel), ?_⟩⟩
  · exact exists_of_any (by decide +kernel)
  · exact exists_of_any (by decide +kernel)

end Server

end TableApi
