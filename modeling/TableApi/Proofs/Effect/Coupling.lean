import TableApi.Proofs.Effect.Action

/-!
# Two runs side by side

Some properties speak of two runs at once: exchange something that a client must not notice, and
what is to be seen of the run stays the same.  A `Coupling` says what is compared of two runs, the
states around them and the events between, and `Action.Alike` that two actions started in coupled
states end alike.  The combinators of actions keep that, so two actions are alike as soon as their
parts are.
-/

namespace TableApi

/-! ## Results -/

/-- Two results of one kind: two values, or two errors. -/
inductive Result.Alike {ε δ α β : Type} (Errors : ε → δ → Prop) (Values : α → β → Prop) :
    Except ε α → Except δ β → Prop
  | ok {value : α} {other : β} (values : Values value other) :
      Alike Errors Values (.ok value) (.ok other)
  | error {cause : ε} {other : δ} (errors : Errors cause other) :
      Alike Errors Values (.error cause) (.error other)

namespace Result

variable {ε δ α β : Type}

/-- Any two errors: nothing is compared of them. -/
def AnyErrors (_ : ε) (_ : δ) : Prop :=
  True

/-- Alike results taken apart, also where they are the results of runs. -/
theorem Alike.split {Errors : ε → δ → Prop} {Values : α → β → Prop} {first : Except ε α}
    {second : Except δ β} (alike : Alike Errors Values first second) :
    (∃ value other, Values value other ∧ first = .ok value ∧ second = .ok other) ∨
      ∃ error other, Errors error other ∧ first = .error error ∧ second = .error other := by
  cases alike with
  | ok values => exact Or.inl ⟨_, _, values, rfl, rfl⟩
  | error errors => exact Or.inr ⟨_, _, errors, rfl, rfl⟩

/-- Alike results are so for whatever follows from what is compared of them. -/
theorem Alike.mono {Errors Faults : ε → δ → Prop} {Values Others : α → β → Prop}
    {first : Except ε α} {second : Except δ β} (alike : Alike Errors Values first second)
    (errors : ∀ error other, Errors error other → Faults error other)
    (values : ∀ value other, Values value other → Others value other) :
    Alike Faults Others first second := by
  cases alike with
  | ok same => exact .ok (values _ _ same)
  | error same => exact .error (errors _ _ same)

/-- A result is like itself where errors and values are. -/
theorem Alike.refl {Errors : ε → ε → Prop} {Values : α → α → Prop}
    (errors : ∀ error, Errors error error) (values : ∀ value, Values value value)
    (result : Except ε α) : Alike Errors Values result result := by
  cases result with
  | error error => exact .error (errors error)
  | ok value => exact .ok (values value)

end Result

open Result (AnyErrors)

/-! ## Outcomes -/

/-- What is compared of two runs. -/
structure Coupling (σ τ : Type) where
  States : σ → τ → Prop
  Events : List Event → List Event → Prop
  nothing : Events [] []
  sequence : ∀ {first second third fourth},
    Events first second → Events third fourth → Events (first ++ third) (second ++ fourth)

namespace Coupling

variable {σ τ : Type}

/-- Two runs have the same effects, whatever they log. -/
def sameEffects (States : σ → τ → Prop) : Coupling σ τ where
  States := States
  Events first second := effects first = effects second
  nothing := rfl
  sequence early late := by rw [effects_append, effects_append, early, late]

/-- Two runs make the same entries in the log, whatever else they do. -/
def sameEntries (States : σ → τ → Prop) : Coupling σ τ where
  States := States
  Events first second := first.filterMap Event.entry? = second.filterMap Event.entry?
  nothing := rfl
  sequence early late := by rw [List.filterMap_append, List.filterMap_append, early, late]

end Coupling

/-- Two outcomes whose results, events and states are coupled. -/
structure Outcome.Alike {σ τ ε δ α β : Type} (coupling : Coupling σ τ) (Errors : ε → δ → Prop)
    (Values : α → β → Prop) (first : Outcome σ ε α) (second : Outcome τ δ β) : Prop where
  result : Result.Alike Errors Values first.result second.result
  events : coupling.Events first.events second.events
  states : coupling.States first.state second.state

/-! ## Actions -/

namespace Action

variable {σ τ ε δ ζ η α β γ κ : Type}

/-- Two actions that end alike whenever they start in coupled states. -/
def Alike (coupling : Coupling σ τ) (Errors : ε → δ → Prop) (Values : α → β → Prop)
    (first : Action σ ε α) (second : Action τ δ β) : Prop :=
  ∀ ⦃state other⦄, coupling.States state other →
    Outcome.Alike coupling Errors Values (first state) (second other)

section Combinators

variable {coupling : Coupling σ τ} {Errors : ε → δ → Prop} {Values : α → β → Prop}

/-- Two actions that leave the state alone and cause nothing. -/
theorem alike_ofExcept {result : Except ε α} {other : Except δ β}
    (results : Result.Alike Errors Values result other) :
    Alike coupling Errors Values (ofExcept result) (ofExcept other) := fun _ _ related =>
  ⟨results, coupling.nothing, related⟩

theorem alike_pure {value : α} {other : β} (values : Values value other) :
    Alike coupling Errors Values (pure value) (pure other) :=
  alike_ofExcept (.ok values)

theorem alike_fail {error : ε} {other : δ} (errors : Errors error other) :
    Alike coupling Errors Values (fail error) (fail other) :=
  alike_ofExcept (.error errors)

theorem alike_emit {events other : List Event} (same : coupling.Events events other) :
    Alike coupling Errors (· = ·) (emit events) (emit other) := fun _ _ related =>
  ⟨.ok rfl, same, related⟩

theorem Alike.mono {Faults : ε → δ → Prop} {Others : α → β → Prop} {first : Action σ ε α}
    {second : Action τ δ β} (alike : Alike coupling Errors Values first second)
    (errors : ∀ error other, Errors error other → Faults error other)
    (values : ∀ value other, Values value other → Others value other) :
    Alike coupling Faults Others first second := fun _ _ related =>
  let ⟨results, events, states⟩ := alike related
  ⟨results.mono errors values, events, states⟩

/-- The second actions of two sequences need be alike only on values that are. -/
theorem Alike.bind {Others : γ → κ → Prop} {first : Action σ ε α} {second : Action τ δ β}
    {next : α → Action σ ε γ} {other : β → Action τ δ κ}
    (alike : Alike coupling Errors Values first second)
    (follow : ∀ value partner, Values value partner →
      Alike coupling Errors Others (next value) (other partner)) :
    Alike coupling Errors Others (first >>= next) (second >>= other) := by
  intro state partner related
  rcases alike related with ⟨results, events, states⟩
  rcases results.split with
    ⟨value, answer, values, ended, answered⟩ | ⟨error, answer, errors, ended, answered⟩
  · rw [bind_of_ok ended, bind_of_ok answered]
    rcases follow value answer values states with ⟨results, later, states⟩
    exact ⟨results, coupling.sequence events later, states⟩
  · rw [bind_of_error ended, bind_of_error answered]
    exact ⟨.error errors, events, states⟩

/-- The second actions of two sequences whose first ones return the same values. -/
theorem Alike.bind_same {first : Action σ ε α} {second : Action τ δ α} {Others : γ → κ → Prop}
    {next : α → Action σ ε γ} {other : α → Action τ δ κ}
    (alike : Alike coupling Errors (· = ·) first second)
    (follow : ∀ value, Alike coupling Errors Others (next value) (other value)) :
    Alike coupling Errors Others (first >>= next) (second >>= other) :=
  alike.bind fun value _ same => same ▸ follow value

/-- Two actions that go on alike from errors that are alike. -/
theorem Alike.rescue {Causes : ζ → η → Prop} {first : Action σ ζ α} {second : Action τ η β}
    {recover : ζ → Action σ ε α} {other : η → Action τ δ β}
    (alike : Alike coupling Causes Values first second)
    (follow : ∀ error partner, Causes error partner →
      Alike coupling Errors Values (recover error) (other partner)) :
    Alike coupling Errors Values (first.rescue recover) (second.rescue other) := by
  intro state partner related
  rcases alike related with ⟨results, events, states⟩
  rcases results.split with
    ⟨value, answer, values, ended, answered⟩ | ⟨error, answer, errors, ended, answered⟩
  · rw [rescue_of_ok ended, rescue_of_ok answered]
    exact ⟨.ok values, events, states⟩
  · rw [rescue_of_error ended, rescue_of_error answered]
    rcases follow error answer errors states with ⟨results, later, states⟩
    exact ⟨results, coupling.sequence events later, states⟩

/-- What was a result, value or error, is a value now. -/
theorem Alike.attempt {Causes : ζ → η → Prop} {first : Action σ ζ α} {second : Action τ η β}
    (alike : Alike coupling Causes Values first second) :
    Alike coupling Errors (Result.Alike Causes Values) first.attempt second.attempt := by
  intro state other related
  rcases alike related with ⟨results, events, states⟩
  exact ⟨.ok results, events, states⟩

end Combinators

section Effects

variable {States : σ → τ → Prop} {Errors : ε → δ → Prop}

/-- Entries of the log are not compared. -/
theorem alike_emit_map_log (entries others : List LogEntry) :
    Alike (.sameEffects States) Errors (· = ·) (emit (entries.map Event.log))
      (emit (others.map Event.log)) :=
  alike_emit ((effects_map_log entries).trans (effects_map_log others).symm)

theorem alike_log (entry other : LogEntry) :
    Alike (.sameEffects States) Errors (· = ·) (log entry) (log other) :=
  alike_emit_map_log [entry] [other]

end Effects

end Action

end TableApi
