import TableApi.Proofs.Database.Interpretation
import TableApi.Proofs.Json.Tidy
import TableApi.Proofs.Request.Change

/-!
# Requests to stored tables

Over a database in memory the gate hands on a table that is stored under the name of the request,
with its columns.  The record that an endpoint reads has no key twice, as long as the hooks hand
back values of this kind.  What is around the endpoint only reads, so the state that it leaves is
the one that the request leaves.
-/

namespace TableApi

open TableApi.Action

/-- The characters of an identifier are plain. -/
theorem isPlain_of_isIdentifier {name : String} (identifier : isIdentifier name = true) :
    IsPlain name := by
  simp only [isIdentifier, Bool.and_eq_true, List.all_eq_true] at identifier
  exact identifier.2

namespace Service

variable {service : Service Memory.Tables} {context : Context} {tables : Memory.Tables}
  {setup : Memory.Setup}

/-- A table that passes the gate is stored under a plain name. -/
theorem stored_of_schema {schema : Schema} (inMemory : service.database = setup.database)
    (gated : (service.schema context tables).result = .ok schema) :
    IsPlain context.table ∧ ∃ table, Named.get? tables context.table = some table ∧
      schema = table.schema context.table := by
  rcases Schema.of_load (service.loaded_of_schema context gated) with ⟨identifier, named, _, given⟩
  refine ⟨isPlain_of_isIdentifier identifier, ?_⟩
  rw [inMemory] at given
  have described : setup.describeTable tables context.table = .ok schema.columns := given
  simp only [Memory.Setup.describeTable, Memory.Setup.unlessFault] at described
  split at described
  · cases described
  · simp only [Memory.tableOf] at described
    split at described
    · rename_i table stored
      refine ⟨table, stored, ?_⟩
      obtain ⟨name, columns⟩ := schema
      cases named
      cases described
      rfl
    · cases described

end Service

namespace Service

variable {σ : Type} {service : Service σ} {context : Context} {state : σ}

/-- A request that comes to its endpoint leaves what the endpoint leaves. -/
theorem state_of_ready {execution : Execution σ} (steady : service.database.Steady)
    (readOnly : service.tokens.ReadOnly)
    (readied : (service.ready context state).result = .ok execution) :
    (service.handle context state).state = (execution.run state).state := by
  have same := ((ready_reads steady readOnly : (service.ready context).Reads) state).1
  rw [handle_eq_ready, bind_of_ok readied, same]
  rcases bind_cases execution.run (fun body =>
      service.conclude execution.descriptor ⟨body, 200, execution.input.token⟩) state with
    ⟨error, _, ended⟩ | ⟨body, _, ended⟩
  · rw [ended]
  · rw [ended]
    exact (conclude_reads _ _ _).1

/-! ## Tidy records -/

theorem tidy_of_params {value : Json} (decoded : params context = .ok value) : value.Tidy := by
  unfold params at decoded
  split at decoded
  · cases decoded
    exact Json.Tidy.null
  · exact Json.tidy_of_read (Result.mapError_eq_ok.1 decoded)

theorem tidy_of_prepare {descriptor : Descriptor} {data input : HookInput}
    (tidy : service.hooks.Tidy) (given : data.params.Tidy)
    (prepared : (service.prepare descriptor data state).result = .ok input) :
    input.params.Tidy := by
  cases called : descriptor.beforeHook with
  | none =>
    simp only [prepare, called] at prepared
    cases prepared
    exact given
  | some name =>
    simp only [prepare, called] at prepared
    rcases ok_of_bind_ok (ok_of_rescue_ok HookError.raise_declines prepared) with
      ⟨payload, invoked, returned⟩
    cases found : service.hooks.find? name with
    | none =>
      simp only [HookRegistry.invoke, found] at invoked
      cases invoked
    | some hook =>
      simp only [HookRegistry.invoke, found] at invoked
      rcases ok_of_bind_ok invoked with ⟨_, _, rest⟩
      rcases ok_of_bind_ok rest with ⟨_, _, answered⟩
      have kept := tidy name hook found (.input data) payload given answered
      cases payload with
      | input back =>
        cases returned
        exact kept
      | output back => cases returned

/-- The data of a request that came to its endpoint are tidy. -/
theorem Cleared.tidy {execution : Execution σ} (cleared : Cleared service context state execution)
    (tidy : service.hooks.Tidy) : execution.input.params.Tidy := by
  rcases cleared.prepared with ⟨_, _, _, _, decoded, prepared⟩
  exact tidy_of_prepare tidy (tidy_of_params decoded) prepared

end Service

namespace Execution

variable {σ : Type} {execution : Execution σ}

/-- The record of a request is its object. -/
theorem params_of_record {posted : Fields} (read : execution.record = .ok posted) :
    execution.input.params = .object posted := by
  unfold record at read
  split at read
  · rename_i entry entries params
    cases read
    exact params
  · cases read
  · cases read
  · cases read

/-- The records of a request are the objects of its array. -/
theorem items_of_objectsFrom {index : Nat} {items : List Json} {posted : List Fields}
    (read : objectsFrom index items = .ok posted) : items = posted.map Json.object := by
  induction items generalizing index posted with
  | nil =>
    cases read
    rfl
  | cons item items step =>
    unfold objectsFrom at read
    split at read
    · rename_i empty
      cases empty
    · rename_i entry entries others same
      cases same
      rcases Json.of_map_ok read with ⟨later, rest, rfl⟩
      rw [List.map_cons, ← step rest]
    · cases read

theorem params_of_records {params : Json} {posted : List Fields}
    (read : records params = .ok posted) : params = .array (posted.map Json.object) := by
  unfold records at read
  split at read
  · cases read
  · rename_i items filled
    rcases Result.ok_of_bind_ok read with ⟨found, objects, rest⟩
    rw [items_of_objectsFrom objects]
    cases found with
    | nil =>
      cases rest
      rfl
    | cons first others =>
      rcases Result.ok_of_bind_ok rest with ⟨_, _, returned⟩
      cases returned
      rfl
  · cases read

end Execution

end TableApi
