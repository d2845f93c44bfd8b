import TableApi.Access.Decision
import TableApi.Proofs.Database.Steady
import TableApi.Proofs.Table.Query

/-!
# The decision about a caller

The rules of a policy are written as a ladder of early returns.  Here they are read as what they
mean: `Guard.Admits` has one constructor for each rule, `Guard.Grants` one for each way in which a
request may go on, and neither knows of an order.  The ladder decides exactly these.

A decision is always reached: a token store that does not answer, a misconfigured rule and a failed
look-up turn the caller away, and nothing fails.
-/

namespace TableApi.Guard

variable {σ ε : Type}

/-- What the client sent as a segment of the path; the first one has number one. -/
theorem segment?_eq_some {context : Context} {number : Nat} {segment : String} :
    context.segment? number = some segment ↔
      ∃ index, number = index + 1 ∧ context.segments[index]? = some segment := by
  cases number with
  | zero => simp [Context.segment?]
  | succ index => simp [Context.segment?]

/-! ## The rules -/

/-- A segment of a path that came by the general entry is this text. -/
def Presents (context : Context) (number : Nat) (text : String) : Prop :=
  context.viaApi = true ∧
    ∃ index, number = index + 1 ∧ context.segments[index]? = some text

/-- The query of the ownership rule. -/
def ownershipQuery (table column value : String) : Sql :=
  ⟨"SELECT * FROM " ++ table ++ " WHERE " ++ column ++ "=?", [.string value]⟩

/-- The rules that admit a caller, each by itself. -/
inductive Admits (database : Database σ) (policy : Policy) (caller : Caller) (schema : Schema)
    (context : Context) (state : σ) : Prop
  | role (listed : caller.userLevel ∈ policy.roles)
  | userId {entry : String} (listed : entry ∈ policy.userIds)
      (reads : Text.integer? entry.toList = some caller.userId)
  | idSegment {number : Nat} (ruled : policy.userIdSegment = some number)
      (presented : Presents context number (toString caller.userId))
  | codeSegment {number : Nat} (ruled : policy.userCodeSegment = some number)
      (filled : caller.userCode ≠ "") (presented : Presents context number caller.userCode)
  | owner {column value : String} {number : Nat} {row : Row} {rows : List Row}
      (ruled : policy.ownedSegment = some ⟨column, number⟩)
      (presented : Presents context number value) (known : column ∈ schema.columns)
      (found : (database.fetchAll (ownershipQuery schema.name column value) state).result =
        .ok (row :: rows))
      (named : caller.userId ≠ 0)
      (owns : Json.toInteger (Fields.get? row "trongate_user_id") = caller.userId)

/-- The ways in which a request may go on. -/
inductive Grants (guard : Guard σ) (descriptor : Descriptor) (token : Option String)
    (schema : Schema) (context : Context) (state : σ) : Prop
  | wildcard (anyone : descriptor.authorization = some .wildcard)
  | bypass {policy : Policy} {presented : String} {error : TokenError}
      (ruled : descriptor.authorization = some (.policy policy)) (given : token = some presented)
      (unresolved : (guard.tokens.lookup presented state).reply.result = .error error)
      (configured : guard.bypassToken = some presented)
  | caller {policy : Policy} {presented : String} {caller : Caller}
      (ruled : descriptor.authorization = some (.policy policy)) (given : token = some presented)
      (resolved : (guard.tokens.lookup presented state).reply.result = .ok caller)
      (admitted : Admits guard.database policy caller schema context
        (guard.tokens.lookup presented state).reply.state)

/--
A decision agrees with a condition: it lets the token go on where the condition
holds, and turns the request away with this status where it does not.
-/
inductive Agrees (condition : Prop) (token : Option String) (status : Nat) : Decision → Prop
  | allowed (holds : condition) : Agrees condition token status (.allowed token)
  | denied {denial : Denial} (fails : ¬condition) (known : denial.status = status) :
      Agrees condition token status (.denied denial)

theorem Agrees.congr {first second : Prop} {token : Option String} {status : Nat}
    {decision : Decision} (same : first ↔ second) (agrees : Agrees first token status decision) :
    Agrees second token status decision := by
  cases agrees with
  | allowed holds => exact Agrees.allowed (same.1 holds)
  | denied fails known => exact Agrees.denied (fun holds => fails (same.2 holds)) known

/-! ## The ladder -/

theorem toString_ne_empty (value : Int) : toString value ≠ "" := by
  cases value with
  | ofNat value => exact Nat.repr_ne_empty
  | negSucc value =>
    have text : toString (Int.negSucc value) = "-" ++ Nat.repr (value + 1) := rfl
    rw [text]
    simp

theorem segmentIs_iff {context : Context} {number : Option Nat} {expected : String} :
    segmentIs context number expected = true ↔
      ∃ index, number = some (index + 1) ∧ expected ≠ "" ∧
        context.segments[index]? = some expected := by
  cases number with
  | none => simp [segmentIs]
  | some number =>
    cases number with
    | zero => simp [segmentIs, Context.segment?]
    | succ index =>
      cases found : context.segments[index]? with
      | none => simp [segmentIs, Context.segment?, found]
      | some segment => simp [segmentIs, Context.segment?, found]

/-- The rules that need no record are the first four. -/
theorem admits_iff {policy : Policy} {caller : Caller} {context : Context} :
    admits policy caller context = true ↔
      caller.userLevel ∈ policy.roles ∨
      (∃ entry ∈ policy.userIds, Text.integer? entry.toList = some caller.userId) ∨
      (∃ number, policy.userIdSegment = some number ∧
        Presents context number (toString caller.userId)) ∨
      ∃ number, policy.userCodeSegment = some number ∧ caller.userCode ≠ "" ∧
        Presents context number caller.userCode := by
  simp only [admits, Bool.or_eq_true, Bool.and_eq_true, List.contains_iff_mem, List.any_eq_true,
    beq_iff_eq, segmentIs_iff, or_assoc]
  constructor
  · rintro (role | listed | ⟨api, ⟨index, ruled, _, found⟩ | ⟨index, ruled, filled, found⟩⟩)
    · exact Or.inl role
    · exact Or.inr (Or.inl listed)
    · exact Or.inr (Or.inr (Or.inl ⟨index + 1, ruled, api, index, rfl, found⟩))
    · exact Or.inr (Or.inr (Or.inr ⟨index + 1, ruled, filled, api, index, rfl, found⟩))
  · rintro (role | listed | ⟨_, ruled, api, index, rfl, found⟩ |
      ⟨_, ruled, filled, api, index, rfl, found⟩)
    · exact Or.inl role
    · exact Or.inr (Or.inl listed)
    · exact Or.inr (Or.inr ⟨api, Or.inl ⟨index, ruled, toString_ne_empty _, found⟩⟩)
    · exact Or.inr (Or.inr ⟨api, Or.inr ⟨index, ruled, filled, found⟩⟩)

variable {policy : Policy} {caller : Caller} {schema : Schema} {context : Context} {state : σ}

theorem Admits.of_admits {database : Database σ} (passes : admits policy caller context = true) :
    Admits database policy caller schema context state := by
  rcases admits_iff.1 passes with role | ⟨_, listed, reads⟩ | ⟨_, ruled, presented⟩ |
    ⟨_, ruled, filled, presented⟩
  · exact Admits.role role
  · exact Admits.userId listed reads
  · exact Admits.idSegment ruled presented
  · exact Admits.codeSegment ruled filled presented

/-- The condition of the ownership rule. -/
def Owns (database : Database σ) (policy : Policy) (caller : Caller) (schema : Schema)
    (context : Context) (state : σ) : Prop :=
  ∃ column number value row rows, policy.ownedSegment = some ⟨column, number⟩ ∧
    Presents context number value ∧ column ∈ schema.columns ∧
    (database.fetchAll (ownershipQuery schema.name column value) state).result =
      .ok (row :: rows) ∧
    caller.userId ≠ 0 ∧ Json.toInteger (Fields.get? row "trongate_user_id") = caller.userId

/-- A caller that the first four rules do not admit is admitted by the ownership rule or not at
all. -/
theorem admits_iff_owns {database : Database σ} (refused : admits policy caller context = false) :
    Admits database policy caller schema context state ↔
      Owns database policy caller schema context state := by
  have fails : ¬admits policy caller context = true := by simp [refused]
  constructor
  · intro admitted
    cases admitted with
    | role listed => exact absurd (admits_iff.2 (Or.inl listed)) fails
    | userId listed reads => exact absurd (admits_iff.2 (Or.inr (Or.inl ⟨_, listed, reads⟩))) fails
    | idSegment ruled presented =>
      exact absurd (admits_iff.2 (Or.inr (Or.inr (Or.inl ⟨_, ruled, presented⟩)))) fails
    | codeSegment ruled filled presented =>
      exact absurd (admits_iff.2 (Or.inr (Or.inr (Or.inr ⟨_, ruled, filled, presented⟩)))) fails
    | owner ruled presented known found named owns =>
      exact ⟨_, _, _, _, _, ruled, presented, known, found, named, owns⟩
  · rintro ⟨column, number, value, row, rows, ruled, presented, known, found, named, owns⟩
    exact Admits.owner ruled presented known found named owns

theorem ownsFirst_iff {rows : List Row} :
    ownsFirst caller rows = true ↔ ∃ row others, rows = row :: others ∧ caller.userId ≠ 0 ∧
      Json.toInteger (Fields.get? row "trongate_user_id") = caller.userId := by
  cases rows with
  | nil => simp [ownsFirst]
  | cons row others =>
    simp only [ownsFirst, ownerColumn, Bool.and_eq_true, bne_iff_ne, beq_iff_eq, List.cons.injEq]
    constructor
    · rintro ⟨named, owns⟩
      exact ⟨row, others, ⟨rfl, rfl⟩, owns ▸ named, owns⟩
    · rintro ⟨_, _, ⟨rfl, rfl⟩, named, owns⟩
      exact ⟨owns ▸ named, owns⟩

/-- For a request by the general entry the ownership rule needs a segment, a column and a row. -/
theorem owns_iff {database : Database σ} {owned : OwnedSegment}
    (ruled : policy.ownedSegment = some owned) (api : context.viaApi = true) :
    Owns database policy caller schema context state ↔
      ∃ value rows, context.segment? owned.segment = some value ∧ owned.column ∈ schema.columns ∧
        (database.fetchAll (ownershipQuery schema.name owned.column value) state).result =
          .ok rows ∧
        ownsFirst caller rows = true := by
  constructor
  · rintro ⟨column, number, value, row, rows, same, presented, known, found, named, owns⟩
    rw [ruled] at same
    cases same
    refine ⟨value, row :: rows, segment?_eq_some.2 presented.2, known, found, ?_⟩
    exact ownsFirst_iff.2 ⟨row, rows, rfl, named, owns⟩
  · rintro ⟨value, rows, presented, known, found, first⟩
    rcases ownsFirst_iff.1 first with ⟨row, others, rfl, named, owns⟩
    exact ⟨owned.column, owned.segment, value, row, others, ruled,
      ⟨api, segment?_eq_some.1 presented⟩, known, found, named, owns⟩

/-- A rule that leads to no record asks nothing and admits nobody. -/
theorem owns_of_nothing (database : Database σ) {owned : OwnedSegment} (caller : Caller)
    (state : σ)
    (nothing : ∀ value, context.segment? owned.segment = some value →
      owned.column ∉ schema.columns) :
    ∃ entries : List LogEntry, owns (ε := ε) database owned caller schema context state =
      ⟨.ok false, entries.map Event.log, state⟩ := by
  cases presented : context.segment? owned.segment with
  | none => exact ⟨[], by simp [owns, presented]⟩
  | some value =>
    have unknown := Schema.selectByColumn_of_unknown value (nothing value presented)
    let error : SchemaError := .unknownColumns [owned.column]
    refine ⟨[.plain .warn
      ("Ownership rule on " ++ schema.name ++ " is misconfigured: " ++ error.message)], ?_⟩
    simp only [owns, presented, unknown]
    rfl

/-- A rule that leads to a record asks for it once; a failure finds no record. -/
theorem owns_of_record (database : Database σ) {owned : OwnedSegment} (caller : Caller)
    (state : σ) {value : String} (presented : context.segment? owned.segment = some value)
    (known : owned.column ∈ schema.columns) :
    ∃ entries : List LogEntry, owns (ε := ε) database owned caller schema context state =
      ⟨.ok (match (database.fetchAll
            (ownershipQuery schema.name owned.column value) state).result with
          | .ok rows => ownsFirst caller rows
          | .error _ => false),
        .database (.fetchAll (ownershipQuery schema.name owned.column value)) ::
          entries.map Event.log,
        (database.fetchAll (ownershipQuery schema.name owned.column value) state).state⟩ := by
  have sent : (Statement.find schema.name owned.column (.string value)).toSql =
      ownershipQuery schema.name owned.column value := Statement.toSql_find _ _ _
  simp only [owns, presented, Schema.selectByColumn_of_known value known, sent]
  generalize ownershipQuery schema.name owned.column value = query
  cases answered : (database.fetchAll query state).result with
  | error error =>
    have attempted : ((database.rows query).attempt (δ := ε) state).result =
        .ok (.error error) := by
      simp [Database.rows, answered]
    refine ⟨(database.fetchAll query state).entries ++
      [.plain .error ("Ownership lookup failed: " ++ error.message)], ?_⟩
    rw [Action.bind_of_ok attempted]
    simp [Action.bind_of_ok, Database.rows]
  | ok rows =>
    have attempted : ((database.rows query).attempt (δ := ε) state).result =
        .ok (.ok rows) := by
      simp [Database.rows, answered]
    refine ⟨(database.fetchAll query state).entries, ?_⟩
    rw [Action.bind_of_ok attempted]
    simp [Database.rows]

/-- The look-up of the ownership rule says whether the rule admits the caller. -/
theorem owns_result (database : Database σ) {owned : OwnedSegment} (caller : Caller)
    (schema : Schema) (state : σ) (ruled : policy.ownedSegment = some owned)
    (api : context.viaApi = true) :
    ∃ found, (owns (ε := ε) database owned caller schema context state).result = .ok found ∧
      (found = true ↔ Owns database policy caller schema context state) := by
  rw [owns_iff ruled api]
  by_cases record : ∃ value, context.segment? owned.segment = some value ∧
      owned.column ∈ schema.columns
  · rcases record with ⟨value, presented, known⟩
    rcases owns_of_record (ε := ε) database caller state presented known with ⟨entries, equal⟩
    refine ⟨_, by rw [equal], ?_⟩
    cases answered :
      (database.fetchAll (ownershipQuery schema.name owned.column value) state).result with
    | error error => simp [presented, answered]
    | ok rows => simp [presented, known, answered]
  · have nothing : ∀ value, context.segment? owned.segment = some value →
        owned.column ∉ schema.columns :=
      fun value presented known => record ⟨value, presented, known⟩
    rcases owns_of_nothing (ε := ε) database caller state nothing with ⟨entries, equal⟩
    refine ⟨false, by rw [equal], ?_⟩
    constructor
    · intro impossible
      cases impossible
    · rintro ⟨value, _, presented, known, _⟩
      exact absurd known (nothing value presented)

/-- The rules of a policy admit the caller of a presented token, or turn it away. -/
theorem judge_agrees (guard : Guard σ) (policy : Policy) (token : String) (caller : Caller)
    (schema : Schema) (context : Context) (state : σ) :
    ∃ decision, (guard.judge (ε := ε) policy token caller schema context state).result =
        .ok decision ∧
      Agrees (Admits guard.database policy caller schema context state) (some token) 401
        decision := by
  cases passes : admits policy caller context with
  | true =>
    refine ⟨.allowed (some token), by simp [judge, passes], ?_⟩
    exact Agrees.allowed (Admits.of_admits passes)
  | false =>
    cases ruled : policy.ownedSegment with
    | none =>
      refine ⟨.denied .notAuthorized, by simp [judge, passes, ruled], Agrees.denied ?_ rfl⟩
      rw [admits_iff_owns passes]
      rintro ⟨_, _, _, _, _, named, _⟩
      rw [ruled] at named
      cases named
    | some owned =>
      cases api : context.viaApi with
      | false =>
        refine ⟨.denied .notAuthorized, by simp [judge, passes, ruled, api], Agrees.denied ?_ rfl⟩
        rw [admits_iff_owns passes]
        rintro ⟨_, _, _, _, _, _, ⟨entry, _⟩, _⟩
        rw [api] at entry
        cases entry
      | true =>
        rcases owns_result (ε := ε) guard.database caller schema state ruled api with
          ⟨found, result, holds⟩
        rw [← admits_iff_owns passes] at holds
        cases found with
        | false =>
          refine ⟨.denied .notOwner, ?_, Agrees.denied (by simpa using holds) rfl⟩
          simp [judge, passes, ruled, api, Action.bind_of_ok result]
        | true =>
          refine ⟨.allowed (some token), ?_, Agrees.allowed (by simpa using holds)⟩
          simp [judge, passes, ruled, api, Action.bind_of_ok result]

/-- A token without a caller is accepted when it is the bypass token. -/
theorem reject_agrees (guard : Guard σ) (token : String) (context : Context) (error : TokenError)
    (state : σ) :
    ∃ decision, (guard.reject (ε := ε) token context error state).result = .ok decision ∧
      Agrees (guard.bypassToken = some token) (some token) 401 decision := by
  by_cases bypass : guard.bypassToken = some token
  · refine ⟨.allowed (some token), ?_, Agrees.allowed bypass⟩
    simp only [reject, bypass]
    rfl
  · refine ⟨.denied .invalidToken, ?_, Agrees.denied bypass rfl⟩
    simp only [reject, bypass]
    rfl

section Grants

variable {guard : Guard σ} {descriptor : Descriptor} {presented : String}

/-- Under a policy a token without a caller needs to be the bypass token. -/
theorem grants_iff_bypass {error : TokenError}
    (ruled : descriptor.authorization = some (.policy policy))
    (unresolved : (guard.tokens.lookup presented state).reply.result = .error error) :
    Grants guard descriptor (some presented) schema context state ↔
      guard.bypassToken = some presented := by
  constructor
  · intro granted
    cases granted with
    | wildcard anyone => simp [ruled] at anyone
    | bypass _ given _ configured => rw [configured, given]
    | caller _ given resolved _ =>
      rw [← Option.some.inj given, unresolved] at resolved
      cases resolved
  · intro configured
    exact Grants.bypass ruled rfl unresolved configured

/-- Under a policy a token with a caller needs a rule that admits the caller. -/
theorem grants_iff_admits (ruled : descriptor.authorization = some (.policy policy))
    (resolved : (guard.tokens.lookup presented state).reply.result = .ok caller) :
    Grants guard descriptor (some presented) schema context state ↔
      Admits guard.database policy caller schema context
        (guard.tokens.lookup presented state).reply.state := by
  constructor
  · intro granted
    cases granted with
    | wildcard anyone => simp [ruled] at anyone
    | bypass _ given unresolved _ =>
      rw [← Option.some.inj given, resolved] at unresolved
      cases unresolved
    | caller again given found admitted =>
      rw [← Option.some.inj given] at found admitted
      rw [ruled] at again
      rw [resolved] at found
      cases again
      cases found
      exact admitted
  · intro admitted
    exact Grants.caller ruled rfl resolved admitted

/-- Under a policy a token without a caller is weighed by itself. -/
theorem weigh_of_unresolved {error : TokenError}
    (ruled : descriptor.authorization = some (.policy policy))
    (unresolved : (guard.tokens.lookup presented state).reply.result = .error error) :
    guard.weigh (ε := ε) descriptor (some presented) schema context state =
      let next := guard.reject (ε := ε) presented context error
        (guard.tokens.resolve presented state).state
      ⟨next.result, (guard.tokens.resolve presented state).events ++ next.events, next.state⟩ := by
  have attempted : ((guard.tokens.resolve presented).attempt (δ := ε) state).result =
      .ok (.error error) := by
    simp [TokenStore.resolve, unresolved]
  simp only [weigh, ruled, Action.bind_of_ok attempted]
  rfl

/-- Under a policy a token with a caller is judged by the rules. -/
theorem weigh_of_resolved (ruled : descriptor.authorization = some (.policy policy))
    (resolved : (guard.tokens.lookup presented state).reply.result = .ok caller) :
    guard.weigh (ε := ε) descriptor (some presented) schema context state =
      let next := guard.judge (ε := ε) policy presented caller schema context
        (guard.tokens.resolve presented state).state
      ⟨next.result, (guard.tokens.resolve presented state).events ++ next.events, next.state⟩ := by
  have attempted : ((guard.tokens.resolve presented).attempt (δ := ε) state).result =
      .ok (.ok caller) := by
    simp [TokenStore.resolve, resolved]
  simp only [weigh, ruled, Action.bind_of_ok attempted]
  rfl

end Grants

/-- Who may go on, before the decision is logged. -/
theorem weigh_agrees (guard : Guard σ) (descriptor : Descriptor) (token : Option String)
    (schema : Schema) (context : Context) (state : σ) :
    ∃ decision, (guard.weigh (ε := ε) descriptor token schema context state).result =
        .ok decision ∧
      Agrees (Grants guard descriptor token schema context state) token
        (if descriptor.authorization = none then 412 else 401) decision := by
  cases ruled : descriptor.authorization with
  | none =>
    refine ⟨.denied .notActivated, by simp [weigh, ruled], Agrees.denied ?_ rfl⟩
    intro granted
    cases granted <;> simp_all
  | some authorization =>
    cases authorization with
    | wildcard =>
      exact ⟨.allowed token, by simp [weigh, ruled], Agrees.allowed (Grants.wildcard ruled)⟩
    | policy policy =>
      cases token with
      | none =>
        refine ⟨.denied .missingToken, by simp [weigh, ruled], Agrees.denied ?_ rfl⟩
        intro granted
        cases granted <;> simp_all
      | some presented =>
        cases answered : (guard.tokens.lookup presented state).reply.result with
        | error error =>
          rcases reject_agrees (ε := ε) guard presented context error
            (guard.tokens.lookup presented state).reply.state with ⟨decision, result, agrees⟩
          refine ⟨decision, ?_, agrees.congr (grants_iff_bypass ruled answered).symm⟩
          rw [weigh_of_unresolved ruled answered]
          exact result
        | ok caller =>
          rcases judge_agrees (ε := ε) guard policy presented caller schema context
            (guard.tokens.lookup presented state).reply.state with ⟨decision, result, agrees⟩
          refine ⟨decision, ?_, agrees.congr (grants_iff_admits ruled answered).symm⟩
          rw [weigh_of_resolved ruled answered]
          exact result

/-- Logging a decision does not change it. -/
theorem evaluate_of_weigh {guard : Guard σ} {descriptor : Descriptor} {token : Option String}
    {decision : Decision}
    (weighed : (guard.weigh (ε := ε) descriptor token schema context state).result =
      .ok decision) :
    guard.evaluate (ε := ε) descriptor token schema context state =
      ⟨.ok decision,
        (guard.weigh (ε := ε) descriptor token schema context state).events ++
          [.log (guard.entryOf decision token context)],
        (guard.weigh (ε := ε) descriptor token schema context state).state⟩ := by
  simp only [evaluate]
  rw [Action.bind_of_ok weighed]
  rfl

/-! ## The decision -/

/--
A request may go on exactly when it is granted, and then with the token that was
presented; every other request is turned away, with status 412 when the endpoint
is not activated and with status 401 when it is.
-/
theorem evaluate_decides (guard : Guard σ) (descriptor : Descriptor) (token : Option String)
    (schema : Schema) (context : Context) (state : σ) :
    (∀ accepted,
      (guard.evaluate (ε := ε) descriptor token schema context state).result =
          .ok (.allowed accepted) ↔
        accepted = token ∧ Grants guard descriptor token schema context state) ∧
    (¬Grants guard descriptor token schema context state →
      ∃ denial,
        (guard.evaluate (ε := ε) descriptor token schema context state).result =
          .ok (.denied denial) ∧
        (descriptor.authorization = none → denial.status = 412) ∧
        (descriptor.authorization ≠ none → denial.status = 401)) := by
  rcases weigh_agrees (ε := ε) guard descriptor token schema context state with
    ⟨decision, weighed, agrees⟩
  rw [evaluate_of_weigh weighed]
  cases agrees with
  | allowed holds =>
    constructor
    · intro accepted
      constructor
      · intro same
        cases same
        exact ⟨rfl, holds⟩
      · rintro ⟨rfl, _⟩
        rfl
    · intro refused
      exact absurd holds refused
  | denied fails known =>
    constructor
    · intro accepted
      constructor
      · intro same
        cases same
      · rintro ⟨_, holds⟩
        exact absurd holds fails
    · intro _
      refine ⟨_, rfl, ?_, ?_⟩
      · intro inactive
        rw [known, if_pos inactive]
      · intro active
        rw [known, if_neg active]

/-! ## What deciding asks -/

/--
What deciding may ask, and the state that the answers leave: nothing, who is
behind the presented token, or that and then the record of the ownership rule.
-/
inductive Inquires (guard : Guard σ) (descriptor : Descriptor) (token : Option String)
    (schema : Schema) (context : Context) (state : σ) : List Event → σ → Prop
  | nothing : Inquires guard descriptor token schema context state [] state
  | token {policy : Policy} {presented : String}
      (ruled : descriptor.authorization = some (.policy policy)) (given : token = some presented) :
      Inquires guard descriptor token schema context state
        [.lookup presented (guard.tokens.lookup presented state).queries]
        (guard.tokens.lookup presented state).reply.state
  | owner {policy : Policy} {presented column value : String} {number : Nat}
      (ruled : descriptor.authorization = some (.policy policy)) (given : token = some presented)
      (owned : policy.ownedSegment = some ⟨column, number⟩)
      (segment : Presents context number value) (known : column ∈ schema.columns) :
      Inquires guard descriptor token schema context state
        [.lookup presented (guard.tokens.lookup presented state).queries,
          .database (.fetchAll (ownershipQuery schema.name column value))]
        (guard.database.fetchAll (ownershipQuery schema.name column value)
          (guard.tokens.lookup presented state).reply.state).state

/-- What the ownership rule asks the database. -/
theorem owns_asks (database : Database σ) (owned : OwnedSegment) (caller : Caller)
    (schema : Schema) (context : Context) (state : σ) :
    let outcome := owns (ε := ε) database owned caller schema context state
    (effects outcome.events = [] ∧ outcome.state = state) ∨
      ∃ value, context.segment? owned.segment = some value ∧ owned.column ∈ schema.columns ∧
        effects outcome.events =
          [.database (.fetchAll (ownershipQuery schema.name owned.column value))] ∧
        outcome.state =
          (database.fetchAll (ownershipQuery schema.name owned.column value) state).state := by
  by_cases record : ∃ value, context.segment? owned.segment = some value ∧
      owned.column ∈ schema.columns
  · rcases record with ⟨value, presented, known⟩
    rcases owns_of_record (ε := ε) database caller state presented known with ⟨entries, equal⟩
    refine Or.inr ⟨value, presented, known, ?_, ?_⟩
    · rw [equal]
      simp [Event.isEffect]
    · rw [equal]
  · have nothing : ∀ value, context.segment? owned.segment = some value →
        owned.column ∉ schema.columns :=
      fun value presented known => record ⟨value, presented, known⟩
    rcases owns_of_nothing (ε := ε) database caller state nothing with ⟨entries, equal⟩
    refine Or.inl ⟨?_, ?_⟩
    · rw [equal]
      simp
    · rw [equal]

theorem reject_asks (guard : Guard σ) (token : String) (context : Context) (error : TokenError)
    (state : σ) :
    let outcome := guard.reject (ε := ε) token context error state
    effects outcome.events = [] ∧ outcome.state = state := by
  unfold reject
  split <;> simp [Action.bind_of_ok, Event.isEffect]

/-- Judging a caller asks at most for the record of the ownership rule. -/
theorem judge_asks (guard : Guard σ) (policy : Policy) (token : String) (caller : Caller)
    (schema : Schema) (context : Context) (state : σ) :
    let outcome := guard.judge (ε := ε) policy token caller schema context state
    (effects outcome.events = [] ∧ outcome.state = state) ∨
      ∃ column number value, policy.ownedSegment = some ⟨column, number⟩ ∧
        Presents context number value ∧ column ∈ schema.columns ∧
        effects outcome.events =
          [.database (.fetchAll (ownershipQuery schema.name column value))] ∧
        outcome.state =
          (guard.database.fetchAll (ownershipQuery schema.name column value) state).state := by
  cases passes : admits policy caller context with
  | true => simp [judge, passes]
  | false =>
    cases ruled : policy.ownedSegment with
    | none => simp [judge, passes, ruled]
    | some owned =>
      cases api : context.viaApi with
      | false => simp [judge, passes, ruled, api]
      | true =>
        rcases owns_result (ε := ε) guard.database caller schema state ruled api with
          ⟨found, result, _⟩
        have events : effects (guard.judge (ε := ε) policy token caller schema context
            state).events =
            effects (owns (ε := ε) guard.database owned caller schema context state).events := by
          cases found <;> simp [judge, passes, ruled, api, Action.bind_of_ok result]
        have after : (guard.judge (ε := ε) policy token caller schema context state).state =
            (owns (ε := ε) guard.database owned caller schema context state).state := by
          cases found <;> simp [judge, passes, ruled, api, Action.bind_of_ok result]
        dsimp only
        rw [events, after]
        rcases owns_asks (ε := ε) guard.database owned caller schema context state with
          none | ⟨value, presented, known, asked⟩
        · exact Or.inl none
        · exact Or.inr ⟨owned.column, owned.segment, value, rfl,
            ⟨api, segment?_eq_some.1 presented⟩, known, asked⟩

theorem effects_resolve (tokens : TokenStore σ) (token : String) (state : σ) :
    effects (tokens.resolve token state).events =
      [.lookup token (tokens.lookup token state).queries] := by
  simp [TokenStore.resolve, Event.isEffect]

/-- Deciding asks nothing but what `Inquires` lists. -/
theorem evaluate_inquires (guard : Guard σ) (descriptor : Descriptor) (token : Option String)
    (schema : Schema) (context : Context) (state : σ) :
    let outcome := guard.evaluate (ε := ε) descriptor token schema context state
    Inquires guard descriptor token schema context state (effects outcome.events)
      outcome.state := by
  rcases weigh_agrees (ε := ε) guard descriptor token schema context state with
    ⟨decision, weighed, _⟩
  have logged : effects [Event.log (guard.entryOf decision token context)] = [] := rfl
  dsimp only
  rw [evaluate_of_weigh weighed]
  dsimp only
  rw [effects_append, logged, List.append_nil]
  cases ruled : descriptor.authorization with
  | none =>
    simp only [weigh, ruled]
    exact Inquires.nothing
  | some authorization =>
    cases authorization with
    | wildcard =>
      simp only [weigh, ruled]
      exact Inquires.nothing
    | policy policy =>
      cases token with
      | none =>
        simp only [weigh, ruled]
        exact Inquires.nothing
      | some presented =>
        cases answered : (guard.tokens.lookup presented state).reply.result with
        | error error =>
          rw [weigh_of_unresolved ruled answered]
          rcases reject_asks (ε := ε) guard presented context error
            (guard.tokens.resolve presented state).state with ⟨quiet, same⟩
          simp only [effects_append, effects_resolve, quiet, same]
          exact Inquires.token ruled rfl
        | ok caller =>
          rw [weigh_of_resolved ruled answered]
          rcases judge_asks (ε := ε) guard policy presented caller schema context
            (guard.tokens.resolve presented state).state with
            ⟨none, same⟩ | ⟨column, number, value, owned, segment, known, asked, same⟩
          · simp only [effects_append, effects_resolve, none, same]
            exact Inquires.token ruled rfl
          · simp only [effects_append, effects_resolve, asked, same]
            exact Inquires.owner ruled rfl owned segment known

/-- Deciding changes nothing. -/
theorem Inquires.executed_eq_nil {guard : Guard σ} {descriptor : Descriptor}
    {token : Option String} {events : List Event} {after : σ}
    (inquires : Inquires guard descriptor token schema context state events after) :
    executed events = [] := by
  cases inquires <;> rfl

/-- Over a steady database only the token store may leave another state behind. -/
theorem Inquires.state_cases {guard : Guard σ} {descriptor : Descriptor} {token : Option String}
    {events : List Event} {after : σ} (steady : guard.database.Steady)
    (inquires : Inquires guard descriptor token schema context state events after) :
    after = state ∨ ∃ presented, token = some presented ∧
      after = (guard.tokens.lookup presented state).reply.state := by
  cases inquires with
  | nothing => exact Or.inl rfl
  | token _ given => exact Or.inr ⟨_, given, rfl⟩
  | owner _ given => exact Or.inr ⟨_, given, steady.fetchAll _ _⟩

end TableApi.Guard
