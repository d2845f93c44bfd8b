import TableApi.Effect.Action

/-!
# Runs of actions

An action is opened by what its first part returned: `bind_cases` gives the two ways in which a
sequence can end, and every later fact about a sequence is read off them.  Actions are a lawful
monad, so that a sequence may be cut wherever a proof needs it.

A `Law` is a statement about a run, made of the state before it, its events and the state after
it, that holds of no run at all and goes on to hold when one run follows another.  An action obeys
a law as soon as its parts do.
-/

namespace TableApi

/-! ## Effects -/

/-- Whether an event reached further than the log. -/
def Event.isEffect : Event → Bool
  | .log _ => false
  | _ => true

/-- The events that reached further than the log. -/
def effects (events : List Event) : List Event :=
  events.filter Event.isEffect

@[simp]
theorem effects_nil : effects [] = [] := rfl

@[simp]
theorem effects_append (first second : List Event) :
    effects (first ++ second) = effects first ++ effects second := by
  simp [effects]

@[simp]
theorem effects_cons (event : Event) (events : List Event) :
    effects (event :: events) =
      if event.isEffect then event :: effects events else effects events := by
  simp [effects, List.filter_cons]

@[simp]
theorem effects_map_log (entries : List LogEntry) : effects (entries.map Event.log) = [] := by
  induction entries with
  | nil => rfl
  | cons entry entries step => simpa [Event.isEffect] using step

theorem mem_effects {event : Event} {events : List Event} :
    event ∈ effects events ↔ event ∈ events ∧ event.isEffect = true := by
  simp [effects]

/-- Events that reach further than the log may be counted among the effects. -/
theorem countP_effects {condition : Event → Bool}
    (reaches : ∀ event, condition event = true → event.isEffect = true) (events : List Event) :
    (effects events).countP condition = events.countP condition := by
  rw [effects, List.countP_filter]
  apply List.countP_congr
  intro event _
  simpa using reaches event

namespace Action

variable {σ ε δ α β : Type}

/-! ## Sequences -/

/--
A sequence ends with the failure of its first action, or as its second action
ends when it takes over.
-/
theorem bind_cases (action : Action σ ε α) (next : α → Action σ ε β) (state : σ) :
    (∃ error, (action state).result = .error error ∧
      (action >>= next) state =
        ⟨.error error, (action state).events, (action state).state⟩) ∨
    (∃ value, (action state).result = .ok value ∧
      (action >>= next) state =
        ⟨(next value (action state).state).result,
          (action state).events ++ (next value (action state).state).events,
          (next value (action state).state).state⟩) := by
  cases ended : (action state).result with
  | error error => exact Or.inl ⟨error, rfl, bind_of_error ended⟩
  | ok value => exact Or.inr ⟨value, rfl, bind_of_ok ended⟩

/-- A sequence succeeds only when both of its actions do. -/
theorem ok_of_bind_ok {action : Action σ ε α} {next : α → Action σ ε β} {state : σ} {result : β}
    (success : ((action >>= next) state).result = .ok result) :
    ∃ value, (action state).result = .ok value ∧
      (next value (action state).state).result = .ok result := by
  rcases bind_cases action next state with ⟨error, _, equal⟩ | ⟨value, first, equal⟩
  · rw [equal] at success
    simp at success
  · rw [equal] at success
    exact ⟨value, first, success⟩

/-- An action that goes on to return a value fails only by itself. -/
theorem error_of_bind_pure {action : Action σ ε α} {value : α → β} {state : σ} {error : ε}
    (failure : ((action >>= fun found => pure (value found)) state).result = .error error) :
    (action state).result = .error error := by
  rcases bind_cases action (fun found => pure (value found)) state with
    ⟨cause, failed, equal⟩ | ⟨found, _, equal⟩
  · rw [equal] at failure
    rw [failed]
    simpa using failure
  · rw [equal] at failure
    cases failure

/-- An event of a sequence is one of its first action, or of its second when that one ran. -/
theorem mem_events_bind {action : Action σ ε α} {next : α → Action σ ε β} {state : σ}
    {event : Event} (member : event ∈ ((action >>= next) state).events) :
    event ∈ (action state).events ∨ ∃ value, (action state).result = .ok value ∧
      event ∈ (next value (action state).state).events := by
  rcases bind_cases action next state with ⟨error, _, equal⟩ | ⟨value, gave, equal⟩
  · rw [equal] at member
    exact Or.inl member
  · rw [equal] at member
    rcases List.mem_append.1 member with first | second
    · exact Or.inl first
    · exact Or.inr ⟨value, gave, second⟩

/-- The effects of a sequence are those of its first action when the second one has none. -/
theorem effects_bind_of_quiet {action : Action σ ε α} {next : α → Action σ ε β} {state : σ}
    (quiet : ∀ value after, effects (next value after).events = []) :
    effects ((action >>= next) state).events = effects (action state).events := by
  rcases bind_cases action next state with ⟨error, _, equal⟩ | ⟨value, _, equal⟩
  · rw [equal]
  · rw [equal, effects_append, quiet, List.append_nil]

private theorem map_identity (action : Action σ ε α) : id <$> action = action := by
  funext state
  show Action.bind action (fun value => Action.pure value) state = action state
  simp only [Action.bind, Action.pure]
  cases action state with
  | mk result events after => cases result <;> simp

private theorem bind_of_pure (value : α) (next : α → Action σ ε β) :
    (pure value >>= next) = next value := by
  funext state
  show Action.bind (Action.pure value) next state = next value state
  simp [Action.bind, Action.pure]

private theorem bind_of_bind {γ : Type} (action : Action σ ε α) (second : α → Action σ ε β)
    (third : β → Action σ ε γ) :
    action >>= second >>= third = action >>= fun value => second value >>= third := by
  funext state
  show Action.bind (Action.bind action second) third state =
    Action.bind action (fun value => Action.bind (second value) third) state
  simp only [Action.bind]
  cases (action state).result with
  | error error => rfl
  | ok value =>
    simp only
    cases (second value (action state).state).result <;> simp

/-- Sequences of actions may be cut anywhere. -/
instance : LawfulMonad (Action σ ε) :=
  LawfulMonad.mk' (Action σ ε) map_identity bind_of_pure bind_of_bind

@[simp]
theorem fail_apply (error : ε) (state : σ) :
    (fail error : Action σ ε α) state = ⟨.error error, [], state⟩ := rfl

@[simp]
theorem ofExcept_apply (result : Except ε α) (state : σ) :
    (ofExcept result : Action σ ε α) state = ⟨result, [], state⟩ := rfl

@[simp]
theorem emit_apply (events : List Event) (state : σ) :
    (emit events : Action σ ε Unit) state = ⟨.ok (), events, state⟩ := rfl

@[simp]
theorem log_apply (entry : LogEntry) (state : σ) :
    (log entry : Action σ ε Unit) state = ⟨.ok (), [.log entry], state⟩ := rfl

@[simp]
theorem call_apply (event : Event) (reply : σ → Reply σ ε α) (state : σ) :
    call event reply state =
      ⟨(reply state).result, event :: (reply state).entries.map Event.log,
        (reply state).state⟩ := rfl

@[simp]
theorem attempt_apply (action : Action σ ε α) (state : σ) :
    (action.attempt : Action σ δ (Except ε α)) state =
      ⟨.ok (action state).result, (action state).events, (action state).state⟩ := rfl

theorem rescue_of_ok {action : Action σ ε α} {recover : ε → Action σ δ α} {state : σ} {value : α}
    (success : (action state).result = .ok value) :
    action.rescue recover state = ⟨.ok value, (action state).events, (action state).state⟩ := by
  simp [rescue, success]

theorem rescue_of_error {action : Action σ ε α} {recover : ε → Action σ δ α} {state : σ}
    {error : ε} (failure : (action state).result = .error error) :
    action.rescue recover state =
      ⟨(recover error (action state).state).result,
        (action state).events ++ (recover error (action state).state).events,
        (recover error (action state).state).state⟩ := by
  simp [rescue, failure]

/-! ## Laws of runs -/

/-- What may be said of a run from the state before it, its events and the state after it. -/
structure Law (σ : Type) where
  Holds : σ → List Event → σ → Prop
  nothing : ∀ state, Holds state [] state
  sequence : ∀ {before middle after first second},
    Holds before first middle → Holds middle second after → Holds before (first ++ second) after

/-- Every run of an action obeys a law. -/
def Obeys (law : Law σ) (action : Action σ ε α) : Prop :=
  ∀ state, law.Holds state (action state).events (action state).state

variable {law : Law σ}

theorem obeys_pure (value : α) : Obeys law (pure value : Action σ ε α) :=
  law.nothing

theorem obeys_fail (error : ε) : Obeys law (fail error : Action σ ε α) :=
  law.nothing

theorem obeys_ofExcept (result : Except ε α) : Obeys law (ofExcept result : Action σ ε α) :=
  law.nothing

theorem obeys_emit {events : List Event} (holds : ∀ state, law.Holds state events state) :
    Obeys law (emit events : Action σ ε Unit) :=
  holds

/-- The second action of a sequence need obey only for values that the first one returns. -/
theorem Obeys.bind {action : Action σ ε α} {next : α → Action σ ε β}
    (first : Obeys law action)
    (second : ∀ value, (∃ state, (action state).result = .ok value) → Obeys law (next value)) :
    Obeys law (action >>= next) := by
  intro state
  rcases bind_cases action next state with ⟨error, _, equal⟩ | ⟨value, gave, equal⟩
  · rw [equal]
    exact first state
  · rw [equal]
    exact law.sequence (first state) (second value ⟨state, gave⟩ _)

theorem Obeys.rescue {action : Action σ ε α} {recover : ε → Action σ δ α}
    (first : Obeys law action) (second : ∀ error, Obeys law (recover error)) :
    Obeys law (action.rescue recover) := by
  intro state
  cases ended : (action state).result with
  | ok value =>
    rw [rescue_of_ok ended]
    exact first state
  | error error =>
    rw [rescue_of_error ended]
    exact law.sequence (first state) (second error _)

theorem Obeys.attempt {action : Action σ ε α} (obeys : Obeys law action) :
    Obeys law (action.attempt : Action σ δ (Except ε α)) :=
  obeys

namespace Law

/-- Every event satisfies a condition. -/
def everyEvent (condition : Event → Prop) : Law σ where
  Holds _ events _ := ∀ event ∈ events, condition event
  nothing := by simp
  sequence := by
    intro _ _ _ first second left right event member
    rcases List.mem_append.1 member with early | late
    · exact left event early
    · exact right event late

end Law

/-- Every event of every run of an action satisfies a condition. -/
def Emits (condition : Event → Prop) (action : Action σ ε α) : Prop :=
  Obeys (Law.everyEvent condition) action

/-! ## Declining -/

/-- An action that writes to the log at most, and fails. -/
def Declines (action : Action σ ε α) : Prop :=
  ∀ state, ∃ (error : ε) (entries : List LogEntry),
    action state = ⟨.error error, entries.map Event.log, state⟩

theorem declines_fail (error : ε) : Declines (fail error : Action σ ε α) := by
  intro state
  exact ⟨error, [], rfl⟩

theorem declines_log_fail (entry : LogEntry) (error : ε) :
    Declines (do log entry; fail error : Action σ ε α) := by
  intro state
  exact ⟨error, [entry], rfl⟩

/-- Declining obeys a law that lets an action write to the log. -/
theorem Declines.obeys {action : Action σ ε α} (declines : Declines action)
    (logs : ∀ (entries : List LogEntry) state, law.Holds state (entries.map Event.log) state) :
    Obeys law action := by
  intro state
  rcases declines state with ⟨error, entries, equal⟩
  rw [equal]
  exact logs entries state

theorem Declines.effects_eq_nil {action : Action σ ε α} (declines : Declines action)
    (state : σ) : effects (action state).events = [] := by
  rcases declines state with ⟨error, entries, equal⟩
  rw [equal]
  exact effects_map_log entries

/-- An action that otherwise declines succeeds only by itself. -/
theorem ok_of_rescue_ok {action : Action σ ε α} {recover : ε → Action σ δ α} {state : σ}
    {value : α} (declines : ∀ error, Declines (recover error))
    (success : (action.rescue recover state).result = .ok value) :
    (action state).result = .ok value := by
  cases ended : (action state).result with
  | ok found =>
    rw [rescue_of_ok ended] at success
    simpa using success
  | error error =>
    rw [rescue_of_error ended] at success
    rcases declines error (action state).state with ⟨shown, entries, equal⟩
    rw [equal] at success
    cases success

/-- The effects of an action that otherwise declines are its own. -/
theorem effects_rescue {action : Action σ ε α} {recover : ε → Action σ δ α}
    (declines : ∀ error, Declines (recover error)) (state : σ) :
    effects (action.rescue recover state).events = effects (action state).events := by
  cases ended : (action state).result with
  | ok value => rw [rescue_of_ok ended]
  | error error =>
    rw [rescue_of_error ended, effects_append, (declines error).effects_eq_nil, List.append_nil]

/-! ## Values that are always returned -/

/-- Whatever the state, an action returns a value that satisfies a condition. -/
def Yields (condition : α → Prop) (action : Action σ ε α) : Prop :=
  ∀ state, ∃ value, (action state).result = .ok value ∧ condition value

theorem yields_pure {condition : α → Prop} {value : α} (holds : condition value) :
    Yields condition (pure value : Action σ ε α) :=
  fun _ => ⟨value, rfl, holds⟩

theorem yields_emit (events : List Event) :
    Yields (fun _ => True) (emit events : Action σ ε Unit) :=
  fun _ => ⟨(), rfl, trivial⟩

theorem yields_attempt (action : Action σ ε α) :
    Yields (fun _ => True) (action.attempt : Action σ δ (Except ε α)) :=
  fun state => ⟨(action state).result, rfl, trivial⟩

theorem Yields.bind {condition : α → Prop} {rest : β → Prop} {action : Action σ ε α}
    {next : α → Action σ ε β} (first : Yields condition action)
    (second : ∀ value, condition value → Yields rest (next value)) :
    Yields rest (action >>= next) := by
  intro state
  rcases first state with ⟨value, gave, holds⟩
  rcases second value holds (action state).state with ⟨result, returned, satisfied⟩
  exact ⟨result, by rw [bind_of_ok gave, returned], satisfied⟩

end Action

end TableApi
