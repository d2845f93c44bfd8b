import TableApi.Hook.Registry
import TableApi.Json.Reader
import TableApi.Proofs.Effect.Result
import TableApi.Proofs.Json.Fields

/-!
# Values whose keys stand once

The objects of a document keep one value for each key, so no key of a value that was read stands
twice, however deep the object lies.  Such a value is `Tidy`.  A hook is a function on values of
this kind: it hands back a tidy payload when it is given one.
-/

namespace TableApi

/-- No key of an object in a value stands twice. -/
inductive Json.Tidy : Json → Prop
  | null : Tidy .null
  | bool (value : Bool) : Tidy (.bool value)
  | number (value : Number) : Tidy (.number value)
  | string (value : String) : Tidy (.string value)
  | array {items : List Json} (each : ∀ item ∈ items, Tidy item) : Tidy (.array items)
  | object {fields : Fields} (distinct : (Fields.keys fields).Nodup)
      (each : ∀ entry ∈ fields, Tidy entry.2) : Tidy (.object fields)

namespace Fields

variable {fields : Fields} {key : String} {value : Json}

theorem nodup_keys_set (distinct : fields.keys.Nodup) : (set fields key value).keys.Nodup := by
  induction fields with
  | nil => simp [set]
  | cons entry fields step =>
    rw [keys_cons, List.nodup_cons] at distinct
    simp only [set]
    split
    · rename_i here
      rw [keys_cons, List.nodup_cons, ← here]
      exact distinct
    · rename_i other
      rw [keys_cons, List.nodup_cons, mem_keys_set]
      refine ⟨?_, step distinct.2⟩
      rintro (same | inside)
      · exact other same
      · exact distinct.1 inside

theorem mem_set {entry : String × Json} (member : entry ∈ set fields key value) :
    entry = (key, value) ∨ entry ∈ fields := by
  induction fields with
  | nil => exact Or.inl (by simpa [set] using member)
  | cons first fields step =>
    simp only [set] at member
    split at member
    · rcases List.mem_cons.1 member with same | later
      · exact Or.inl same
      · exact Or.inr (List.mem_cons_of_mem _ later)
    · rcases List.mem_cons.1 member with rfl | later
      · exact Or.inr List.mem_cons_self
      · rcases step later with same | inside
        · exact Or.inl same
        · exact Or.inr (List.mem_cons_of_mem _ inside)

end Fields

namespace Json

/-! ## What is read -/

/-- A field of a tidy object may be set to a tidy value. -/
theorem Tidy.set {fields : Fields} {value : Json} (tidy : Tidy (.object fields)) (key : String)
    (held : Tidy value) : Tidy (.object (Fields.set fields key value)) := by
  cases tidy with
  | object distinct each =>
    refine Tidy.object (Fields.nodup_keys_set distinct) ?_
    intro entry member
    rcases Fields.mem_set member with rfl | inside
    · exact held
    · exact each entry inside

theorem Tidy.nodup_keys {fields : Fields} (tidy : Tidy (.object fields)) : fields.keys.Nodup := by
  cases tidy with
  | object distinct _ => exact distinct

theorem readWord_eq {value found : Json} {word bytes rest : List UInt8}
    (read : readWord value word bytes = .ok (found, rest)) : found = value := by
  induction word generalizing bytes with
  | nil =>
    simp only [readWord, Except.ok.injEq, Prod.mk.injEq] at read
    exact read.1.symm
  | cons expected word step =>
    cases bytes with
    | nil => simp [readWord, failBefore] at read
    | cons byte bytes =>
      simp only [readWord] at read
      split at read
      · exact step read
      · simp [failBefore] at read

theorem of_map_ok {ε α β : Type} {result : Except ε α} {convert : α → β} {value : β}
    (mapped : result.map convert = .ok value) :
    ∃ found, result = .ok found ∧ convert found = value := by
  cases result with
  | error error => simp [Except.map] at mapped
  | ok found => exact ⟨found, rfl, Except.ok.inj mapped⟩

/-- With this fuel the three readers of values give tidy ones. -/
structure TidyReaders (fuel : Nat) : Prop where
  value : ∀ {depth bytes value rest}, readValue fuel depth bytes = .ok (value, rest) → Tidy value
  items : ∀ {depth first bytes items rest},
    readItems fuel depth first bytes = .ok (items, rest) → Tidy (.array items)
  entries : ∀ {depth first fields bytes found rest}, Tidy (.object fields) →
    readEntries fuel depth first fields bytes = .ok (found, rest) → Tidy (.object found)

namespace TidyReaders

variable {fuel depth : Nat} {bytes rest : List UInt8}

theorem readValue_succ (readers : TidyReaders fuel) {value : Json}
    (read : readValue (fuel + 1) depth bytes = .ok (value, rest)) : Tidy value := by
  simp only [readValue] at read
  split at read
  · simp [failAt] at read
  · split at read
    · rw [readWord_eq read]
      exact Tidy.null
    split at read
    · rw [readWord_eq read]
      exact Tidy.bool true
    split at read
    · rw [readWord_eq read]
      exact Tidy.bool false
    split at read
    · rcases of_map_ok read with ⟨⟨number, after⟩, _, same⟩
      cases same
      exact Tidy.number number
    split at read
    · rcases of_map_ok read with ⟨⟨number, after⟩, _, same⟩
      cases same
      exact Tidy.number number
    split at read
    · rcases of_map_ok read with ⟨⟨text, after⟩, _, same⟩
      cases same
      exact Tidy.string text
    split at read
    · split at read
      · simp [failAt] at read
      · rcases of_map_ok read with ⟨⟨items, after⟩, found, same⟩
        cases same
        exact readers.items found
    split at read
    · split at read
      · simp [failAt] at read
      · rcases of_map_ok read with ⟨⟨fields, after⟩, found, same⟩
        cases same
        exact readers.entries (Tidy.object (by simp) (by simp)) found
    · simp [failAt] at read

theorem readItems_succ (readers : TidyReaders fuel) {first : Bool} {items : List Json}
    (read : readItems (fuel + 1) depth first bytes = .ok (items, rest)) : Tidy (.array items) := by
  simp only [readItems] at read
  split at read
  · simp at read
  · cases read
    exact Tidy.array (by simp)
  · split at read
    · simp at read
    · rename_i item after itemRead
      rcases of_map_ok read with ⟨⟨others, final⟩, found, same⟩
      cases same
      have tidyOthers := readers.items found
      cases tidyOthers with
      | array each => exact Tidy.array (List.forall_mem_cons.2 ⟨readers.value itemRead, each⟩)

theorem readEntries_succ (readers : TidyReaders fuel) {first : Bool} {fields found : Fields}
    (tidy : Tidy (.object fields))
    (read : readEntries (fuel + 1) depth first fields bytes = .ok (found, rest)) :
    Tidy (.object found) := by
  simp only [readEntries] at read
  split at read
  · simp at read
  · cases read
    exact tidy
  · split at read
    · simp at read
    · split at read
      · simp at read
      · rename_i valueRead
        exact readers.entries (tidy.set _ (readers.value valueRead)) read

end TidyReaders

/-- The three readers of values go together, by induction on the fuel that they share. -/
theorem tidyReaders (fuel : Nat) : TidyReaders fuel := by
  induction fuel with
  | zero =>
    constructor
    · intro depth bytes value rest read
      simp [readValue, failAt] at read
    · intro depth first bytes items rest read
      simp [readItems, failAt] at read
    · intro depth first fields bytes found rest _ read
      simp [readEntries, failAt] at read
  | succ fuel step =>
    constructor
    · exact step.readValue_succ
    · exact step.readItems_succ
    · exact step.readEntries_succ

theorem eq_of_readEnd {α : Type} {value found : α} {rest : List UInt8}
    (ended : readEnd value rest = .ok found) : found = value := by
  simp only [readEnd] at ended
  split at ended
  · exact (Except.ok.inj ended).symm
  · simp [failAt] at ended

/-- A document that is read holds a tidy value. -/
theorem tidy_of_read {document : List UInt8} {value : Json} (found : read document = .ok value) :
    Tidy value := by
  have inner := Result.mapError_eq_ok.1 found
  rcases Result.ok_of_bind_ok inner with ⟨⟨held, rest⟩, valueRead, ended⟩
  rw [eq_of_readEnd ended]
  exact (tidyReaders _).value valueRead

/-- A document that is read as an object holds tidy values under distinct keys. -/
theorem tidy_of_readObject {document : List UInt8} {fields : Fields}
    (found : readObject document = .ok fields) : Tidy (.object fields) := by
  have inner := Result.mapError_eq_ok.1 found
  split at inner
  · simp [failBefore] at inner
  · rcases Result.ok_of_bind_ok inner with ⟨⟨held, rest⟩, valueRead, ended⟩
    have tidy := (tidyReaders _).value valueRead
    cases held with
    | object own =>
      rw [eq_of_readEnd ended]
      exact tidy
    | _ => simp [failBefore] at ended

end Json

/-! ## Hooks -/

/-- The value in a payload is tidy. -/
def HookPayload.Tidy : HookPayload → Prop
  | .input data => data.params.Tidy
  | .output data => data.body.Tidy

/-- A hook hands back a tidy payload when it is given one. -/
def Hook.Tidy (hook : Hook) : Prop :=
  ∀ payload given, payload.Tidy → hook payload = .ok given → given.Tidy

/-- Every hook of a registry keeps payloads tidy. -/
def HookRegistry.Tidy (registry : HookRegistry) : Prop :=
  ∀ name hook, registry.find? name = some hook → hook.Tidy

theorem HookRegistry.tidy_empty : HookRegistry.empty.Tidy := by
  intro name hook found
  simp [HookRegistry.find?, HookRegistry.empty, Named.get?] at found

end TableApi
