import TableApi.Proofs.Effect.Action

/-!
# Actions in stages

A `Pipeline` is an action cut at named stages, each of which may use the value of the one before.
Its `reports` say stage by stage what a run did, and end where the run ended.

The two readings agree: the events of a run are those of its reports in order, and a run fails
exactly with the failure of its last report.  A pipeline that is `Staged` runs through a list of
stages from the front, and each stage keeps to the effects that it is allowed.
-/

namespace TableApi

/-- An action cut at stages with names in `κ`. -/
inductive Pipeline (κ σ ε α : Type) : Type 1 where
  | done (value : α)
  | step {β : Type} (stage : κ) (action : Action σ ε β) (next : β → Pipeline κ σ ε α)

/-- What one stage of a run did, and the error with which it failed. -/
structure Report (κ ε : Type) where
  stage : κ
  events : List Event
  failure? : Option ε

namespace Pipeline

variable {κ σ ε α : Type}

/-- The action that a pipeline is. -/
def run : Pipeline κ σ ε α → Action σ ε α
  | done value => pure value
  | step _ action next => do
      let value ← action
      run (next value)

/-- What the stages of a run did, up to the one that failed. -/
def reports : Pipeline κ σ ε α → σ → List (Report κ ε)
  | done _, _ => []
  | step stage action next, state =>
      match (action state).result with
      | .error error => [⟨stage, (action state).events, some error⟩]
      | .ok value => ⟨stage, (action state).events, none⟩ :: reports (next value) (action state).state

/-! ## Reports and runs -/

/-- The events of a run are those of its stages in order. -/
theorem events_run (pipeline : Pipeline κ σ ε α) (state : σ) :
    (pipeline.run state).events = (pipeline.reports state).flatMap Report.events := by
  induction pipeline generalizing state with
  | done value => rfl
  | step stage action next step =>
    simp only [run, reports]
    rcases Action.bind_cases action (fun value => run (next value)) state with
      ⟨error, failed, equal⟩ | ⟨value, gave, equal⟩
    · simp [equal, failed]
    · simp [equal, gave, step]

/-- A run fails with the failure of its last stage, and otherwise no stage failed. -/
theorem result_run (pipeline : Pipeline κ σ ε α) (state : σ) :
    ((∃ value, (pipeline.run state).result = .ok value) ∧
      ∀ report ∈ pipeline.reports state, report.failure? = none) ∨
    ∃ error earlier last, (pipeline.run state).result = .error error ∧
      pipeline.reports state = earlier ++ [last] ∧ last.failure? = some error ∧
      ∀ report ∈ earlier, report.failure? = none := by
  induction pipeline generalizing state with
  | done value => exact Or.inl ⟨⟨value, rfl⟩, by simp [reports]⟩
  | step stage action next step =>
    simp only [run, reports]
    rcases Action.bind_cases action (fun value => run (next value)) state with
      ⟨error, failed, equal⟩ | ⟨value, gave, equal⟩
    · simp only [equal, failed]
      exact Or.inr ⟨error, [], _, rfl, rfl, rfl, by simp⟩
    · simp only [equal, gave]
      rcases step value (action state).state with
        ⟨succeeded, none⟩ | ⟨error, earlier, last, failed, split, cause, none⟩
      · refine Or.inl ⟨succeeded, ?_⟩
        intro report member
        rcases List.mem_cons.1 member with rfl | later
        · rfl
        · exact none report later
      · refine Or.inr ⟨error, _ :: earlier, last, failed, by rw [split]; rfl, cause, ?_⟩
        intro report member
        rcases List.mem_cons.1 member with rfl | later
        · rfl
        · exact none report later

/-- A report behind the one of the first stage is there only when that stage succeeded. -/
theorem mem_reports_step {β : Type} {stage : κ} {action : Action σ ε β}
    {next : β → Pipeline κ σ ε α} {state : σ} {report : Report κ ε}
    (member : report ∈ (step stage action next).reports state) (other : report.stage ≠ stage) :
    ∃ value, (action state).result = .ok value ∧
      report ∈ (next value).reports (action state).state := by
  cases ended : (action state).result with
  | error error =>
    simp only [reports, ended] at member
    rw [List.mem_singleton.1 member] at other
    exact absurd rfl other
  | ok value =>
    simp only [reports, ended] at member
    rcases List.mem_cons.1 member with rfl | later
    · exact absurd rfl other
    · exact ⟨value, rfl, later⟩

/-- A stage that succeeds hands on to the reports behind it. -/
theorem mem_reports_of_ok {β : Type} {stage : κ} {action : Action σ ε β}
    {next : β → Pipeline κ σ ε α} {state : σ} {value : β} {report : Report κ ε}
    (success : (action state).result = .ok value)
    (later : report ∈ (next value).reports (action state).state) :
    report ∈ (step stage action next).reports state := by
  simp only [reports, success]
  exact List.mem_cons_of_mem _ later

theorem exists_report_of_step {β : Type} (stage : κ) (action : Action σ ε β)
    (next : β → Pipeline κ σ ε α) (state : σ) :
    ∃ report ∈ (step stage action next).reports state, report.stage = stage := by
  cases ended : (action state).result with
  | error error => exact ⟨_, by simp only [reports, ended]; exact List.mem_cons_self, rfl⟩
  | ok value => exact ⟨_, by simp only [reports, ended]; exact List.mem_cons_self, rfl⟩

/-- What happens at most once in one stage and never in another happens at most once in a run. -/
theorem countP_flatMap_le {condition : Event → Bool} {stage : κ} {reports : List (Report κ ε)}
    (once : (reports.map Report.stage).Nodup)
    (own : ∀ report ∈ reports, report.events.countP condition ≤ 1)
    (others : ∀ report ∈ reports, report.stage ≠ stage → report.events.countP condition = 0) :
    (reports.flatMap Report.events).countP condition ≤ 1 := by
  induction reports with
  | nil => simp
  | cons report reports step =>
    rw [List.flatMap_cons, List.countP_append]
    rw [List.map_cons, List.nodup_cons] at once
    by_cases same : report.stage = stage
    · have later : (reports.flatMap Report.events).countP condition = 0 := by
        rw [List.countP_eq_zero]
        intro event member
        rcases List.mem_flatMap.1 member with ⟨other, inside, emitted⟩
        have differs : other.stage ≠ stage := by
          intro equal
          exact once.1 (List.mem_map.2 ⟨other, inside, by rw [equal, same]⟩)
        exact List.countP_eq_zero.1 (others other (List.mem_cons_of_mem _ inside) differs) event
          emitted
      have first := own report List.mem_cons_self
      omega
    · have first := others report List.mem_cons_self same
      have rest := step once.2
        (fun other inside => own other (List.mem_cons_of_mem _ inside))
        (fun other inside => others other (List.mem_cons_of_mem _ inside))
      omega

/-! ## Stages in order -/

/--
A pipeline runs through a list of stages from the front, and each of them has
no effects but those it is allowed.
-/
inductive Staged (allows : κ → List Event → Prop) : List κ → Pipeline κ σ ε α → Prop
  | done {value : α} : Staged allows [] (.done value)
  | step {β : Type} {stage : κ} {stages : List κ} {action : Action σ ε β}
      {next : β → Pipeline κ σ ε α}
      (allowed : ∀ state, allows stage (effects (action state).events))
      (rest : ∀ value, (∃ state, (action state).result = .ok value) →
        Staged allows stages (next value)) :
      Staged allows (stage :: stages) (.step stage action next)

variable {allows : κ → List Event → Prop} {stages : List κ} {pipeline : Pipeline κ σ ε α}

/-- The stages of a run are a prefix of the stages of its pipeline, each with allowed effects. -/
theorem Staged.reports (staged : Staged allows stages pipeline) (state : σ) :
    (pipeline.reports state).map Report.stage <+: stages ∧
      ∀ report ∈ pipeline.reports state, allows report.stage (effects report.events) := by
  induction staged generalizing state with
  | done => simp [Pipeline.reports]
  | @step β stage stages action next allowed _ step =>
    cases ended : (action state).result with
    | error error =>
      simp only [Pipeline.reports, ended]
      constructor
      · simp
      · intro report member
        rw [List.mem_singleton.1 member]
        exact allowed state
    | ok value =>
      rcases step value ⟨state, ended⟩ (action state).state with ⟨order, each⟩
      simp only [Pipeline.reports, ended]
      constructor
      · simpa using order
      · intro report member
        rcases List.mem_cons.1 member with rfl | later
        · exact allowed state
        · exact each report later

/-- A run that succeeds has gone through all stages. -/
theorem Staged.complete (staged : Staged allows stages pipeline) {state : σ}
    (none : ∀ report ∈ pipeline.reports state, report.failure? = none) :
    (pipeline.reports state).map Report.stage = stages := by
  induction staged generalizing state with
  | done => simp [Pipeline.reports]
  | @step β stage stages action next allowed _ step =>
    cases ended : (action state).result with
    | error error =>
      simp only [Pipeline.reports, ended] at none
      have impossible := none _ (List.mem_singleton_self _)
      cases impossible
    | ok value =>
      simp only [Pipeline.reports, ended] at none ⊢
      rw [List.map_cons, step value ⟨state, ended⟩ fun report member =>
        none report (List.mem_cons_of_mem _ member)]

end Pipeline

end TableApi
