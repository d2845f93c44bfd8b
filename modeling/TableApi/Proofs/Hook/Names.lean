import Mathlib.Data.List.Induction
import TableApi.Hook.Registry
import TableApi.Proofs.Effect.Action
import TableApi.Proofs.Named
import TableApi.Proofs.Text.Blank

/-!
# Names of hooks

A registry is made by registering one hook after the other.  Whatever is asked about a name is then
answered by the hook of the last registration whose name has the same normal form, and a name
without such a registration is unknown.  The normal forms are listed once each and in order.

The normal form of a name need not be one of its own: the blanks are taken away before the slashes
are, so blanks that lay inside slashes stay.  Exactly the forms without a blank at either end are
their own normal forms, and these stand for the hooks that are held under them.
-/

namespace TableApi.HookRegistry

variable {registry : HookRegistry} {name other listed : String} {hook : Hook}

/-! ## Normal forms -/

theorem toList_normalize (name : String) :
    (normalize name).toList =
      (Text.strip (· == '/') (Text.trim name.toList)).map Char.toLower := by
  simp [normalize, Text.strip]

/-- No other character becomes a slash in lower case. -/
theorem slash_toLower (character : Char) : (character.toLower == '/') = (character == '/') := by
  have code : ∀ slash : Char, slash = '/' → slash.val.toNat = 47 := by
    rintro _ rfl
    rfl
  rcases Text.toLower_cases character with same | ⟨upper, _, low⟩
  · rw [same]
  · have lowered : character.toLower ≠ '/' := fun slash => by
      have := code _ slash
      omega
    have given : character ≠ '/' := fun slash => by
      have := code _ slash
      omega
    rw [beq_eq_false_iff_ne.2 lowered, beq_eq_false_iff_ne.2 given]

/-- A normal form is its own exactly if it neither starts nor ends with a blank. -/
theorem normalize_normalize_iff (name : String) :
    normalize (normalize name) = normalize name ↔
      Text.trim (normalize name).toList = (normalize name).toList := by
  have again : (normalize (normalize name)).toList =
      (Text.strip (· == '/') (Text.trim (normalize name).toList)).map Char.toLower :=
    toList_normalize _
  constructor
  · intro fixed
    rw [fixed] at again
    have lengths := congrArg List.length again
    rw [List.length_map] at lengths
    have trimmed := Text.strip_sublist Text.isBlank (normalize name).toList
    have stripped := Text.strip_sublist (· == '/') (Text.trim (normalize name).toList)
    have longer := stripped.length_le
    rw [← lengths] at longer
    exact trimmed.eq_of_length (Nat.le_antisymm trimmed.length_le longer)
  · intro trimmed
    have lowered : (Char.toLower ∘ Char.toLower) = Char.toLower := funext Text.toLower_toLower
    rw [← String.toList_inj, again, trimmed, toList_normalize name, Text.strip_map slash_toLower,
      Text.strip_strip, List.map_map, lowered]

/-! ## Registering -/

/-- The registry after hooks have been registered one after the other. -/
def registered (registrations : List (String × Hook)) : HookRegistry :=
  registrations.foldl (fun registry entry => registry.register entry.1 entry.2) empty

/-- The hook of the last registration whose name has the normal form of a name. -/
def latest? (registrations : List (String × Hook)) (name : String) : Option Hook :=
  (registrations.reverse.find? fun entry => normalize entry.1 = normalize name).map Prod.snd

theorem registered_concat (registrations : List (String × Hook)) (entry : String × Hook) :
    registered (registrations ++ [entry]) =
      (registered registrations).register entry.1 entry.2 := by
  rw [registered, List.foldl_append]
  rfl

/-- A registration replaces the hook of every name with the same normal form, and no other. -/
theorem find?_register (registry : HookRegistry) (name other : String) (hook : Hook) :
    (registry.register name hook).find? other =
      if normalize other = normalize name then some hook else registry.find? other :=
  Named.get?_put registry.hooks (normalize name) (normalize other) hook

theorem mem_names_register : listed ∈ (registry.register name hook).names ↔
    listed = normalize name ∨ listed ∈ registry.names :=
  Named.mem_names_put

theorem find?_registered (registrations : List (String × Hook)) (name : String) :
    (registered registrations).find? name = latest? registrations name := by
  induction registrations using List.reverseRecOn with
  | nil => rfl
  | append_singleton registrations entry step =>
    rw [registered_concat, find?_register, step, latest?, latest?, List.reverse_append,
      List.reverse_singleton, List.singleton_append, List.find?_cons]
    by_cases same : normalize name = normalize entry.1
    · simp [same]
    · simp [same, Ne.symm same]

theorem mem_names_registered (registrations : List (String × Hook)) :
    listed ∈ (registered registrations).names ↔
      ∃ entry ∈ registrations, normalize entry.1 = listed := by
  induction registrations using List.reverseRecOn with
  | nil => simp [registered, empty, names]
  | append_singleton registrations entry step =>
    rw [registered_concat, mem_names_register, step]
    simp [or_comm, eq_comm]

theorem ordered_registered (registrations : List (String × Hook)) :
    (registered registrations).hooks.Ordered := by
  induction registrations using List.reverseRecOn with
  | nil => exact List.Pairwise.nil
  | append_singleton registrations entry step =>
    rw [registered_concat]
    exact step.put (normalize entry.1) entry.2

/-! ## Asking for a hook -/

/-- The data of a request in what the hook of a name handed back. -/
def inputOf (name : String) : HookPayload → Except HookError HookInput
  | .input data => .ok data
  | .output _ => .error (.mismatch name "input" "output")

/-- The data of an answer in what the hook of a name handed back. -/
def outputOf (name : String) : HookPayload → Except HookError HookOutput
  | .output data => .ok data
  | .input _ => .error (.mismatch name "output" "input")

/-- How asking for a hook by a name ends.  Without a hook the name is unknown as it was given;
otherwise the hook is called once, and what it hands back is received. -/
def outcomeOf {σ α : Type} (found : Option Hook) (name : String) (payload : HookPayload)
    (receive : HookPayload → Except HookError α) (state : σ) : Outcome σ HookError α :=
  match found with
  | none => ⟨.error (.unknown name), [], state⟩
  | some hook =>
      ⟨hook payload >>= receive,
        [.log (.plain .debug
          ("Invoking hook " ++ name ++ " with " ++ payload.kind ++ " payload")),
          .hook name payload],
        state⟩

/-- A name stands for a hook or for none, whatever is asked about it. -/
structure Resolves (registry : HookRegistry) (name : String) (found : Option Hook) : Prop where
  contains : registry.contains name = found.isSome
  before : ∀ {σ : Type} (data : HookInput) (state : σ),
    registry.before name data state = outcomeOf found name (.input data) (inputOf name) state
  after : ∀ {σ : Type} (data : HookOutput) (state : σ),
    registry.after name data state = outcomeOf found name (.output data) (outputOf name) state

section Asking

variable {σ : Type} (registry : HookRegistry) (name : String)

/-- What is made of a payload that was handed back is part of how asking for a hook ends. -/
theorem invoke_bind {α : Type} {payload : HookPayload}
    {next : HookPayload → Action σ HookError α} {receive : HookPayload → Except HookError α}
    (received : ∀ given state, next given state = ⟨receive given, [], state⟩) (state : σ) :
    (registry.invoke name payload >>= next) state =
      outcomeOf (registry.find? name) name payload receive state := by
  rw [invoke]
  cases found : registry.find? name with
  | none => rfl
  | some hook =>
    simp only [bind_assoc]
    rw [Action.bind_of_ok rfl, Action.bind_of_ok rfl]
    cases called : hook payload with
    | error error =>
      rw [Action.bind_of_error rfl, outcomeOf, called]
      rfl
    | ok given =>
      rw [Action.bind_of_ok rfl, received, outcomeOf, called]
      rfl

theorem resolves_find? : registry.Resolves name (registry.find? name) where
  contains := rfl
  before data state := by
    apply registry.invoke_bind name
    rintro (given | given) state <;> rfl
  after data state := by
    apply registry.invoke_bind name
    rintro (given | given) state <;> rfl

end Asking

/-- A form that is its own normal form stands for the hook that is held under it. -/
theorem resolves_of_trimmed {registrations : List (String × Hook)}
    (member : listed ∈ (registered registrations).names)
    (trimmed : Text.trim listed.toList = listed.toList) :
    ∃ hook, (registered registrations).hooks.get? listed = some hook ∧
      (registered registrations).Resolves listed (some hook) := by
  obtain ⟨hook, held⟩ := Named.mem_names_iff.1 member
  obtain ⟨entry, _, formed⟩ := (mem_names_registered registrations).1 member
  have fixed : normalize listed = listed := by
    rw [← formed, normalize_normalize_iff, formed]
    exact trimmed
  refine ⟨hook, held, ?_⟩
  have found : (registered registrations).find? listed = some hook := by
    rw [find?, fixed]
    exact held
  exact found ▸ (registered registrations).resolves_find? listed

/-! ## The names of a registry -/

/--
After any registrations a name stands for the hook of the last one whose name has its normal form,
and is otherwise unknown as it was given.  The normal forms are listed once each and in order.
Those without a blank at either end, which are exactly the ones that are their own normal forms,
stand for the hooks that are held under them.
-/
theorem names_resolve (registrations : List (String × Hook)) :
    (∀ name, (registered registrations).Resolves name (latest? registrations name)) ∧
      (registered registrations).names.Pairwise (· < ·) ∧
      (∀ listed, listed ∈ (registered registrations).names ↔
        ∃ entry ∈ registrations, normalize entry.1 = listed) ∧
      ∀ listed ∈ (registered registrations).names,
        (normalize listed = listed ↔ Text.trim listed.toList = listed.toList) ∧
        (Text.trim listed.toList = listed.toList →
          ∃ hook, (registered registrations).hooks.get? listed = some hook ∧
            (registered registrations).Resolves listed (some hook)) := by
  refine ⟨fun name => ?_, ordered_registered registrations,
    fun listed => mem_names_registered registrations, fun listed member => ⟨?_, ?_⟩⟩
  · rw [← find?_registered]
    exact (registered registrations).resolves_find? name
  · obtain ⟨entry, _, formed⟩ := (mem_names_registered registrations).1 member
    rw [← formed]
    exact normalize_normalize_iff entry.1
  · exact resolves_of_trimmed member

/-- Of two hooks with one normal form the later one is held, under a form that is listed and
found. -/
theorem names_resolve_stamp :
    let registrations : List (String × Hook) :=
      [("/Tasks/_stamp/", .ok), (" tasks/_STAMP ", fun _ => .error (.rejected "closed"))]
    (registered registrations).names = ["tasks/_stamp"] ∧
      ∃ hook, (registered registrations).hooks.get? "tasks/_stamp" = some hook ∧
        (registered registrations).Resolves "tasks/_stamp" (some hook) := by
  intro registrations
  have names : (registered registrations).names = ["tasks/_stamp"] := by decide +kernel
  have member : "tasks/_stamp" ∈ (registered registrations).names := by simp [names]
  exact ⟨names, ((names_resolve registrations).2.2.2 _ member).2 (by decide +kernel)⟩

/-- A blank that lay inside a slash stays in front of the normal form, and no hook is found under
the form that is listed. -/
theorem names_hides_blank :
    let registry := registered [("/ a", .ok)]
    registry.names = [" a"] ∧ registry.contains " a" = false := by
  decide +kernel

end TableApi.HookRegistry
