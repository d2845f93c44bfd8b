import TableApi.Endpoint.Summary
import TableApi.Proofs.Endpoint.Lookup
import TableApi.Proofs.Request.Handling
import TableApi.Proofs.Request.Routing

/-!
# What a summary says about a verb

A summary tells an operator whether the verb of an entry is the standard one.  That is so exactly if
there is a request for the table that leads to an endpoint which can use the entry, with the verb
that the entry asks for; and nothing is told about an entry that no endpoint can use.

The entry under the other name of the search endpoint is the exception: its verb is always reported
as the standard one, although the search endpoint is reached by `POST` only.
-/

namespace TableApi

open TableApi.Documents

namespace Endpoint

theorem ofName?_eq_some {name : String} {endpoint : Endpoint} :
    ofName? name = some endpoint ↔ name = endpoint.name := by
  constructor
  · intro found
    have same := List.find?_some found
    exact (of_decide_eq_true same).symm
  · rintro rfl
    exact ofName?_name endpoint

/-- The other name of the search endpoint is none of the names. -/
theorem name_ne_searchAlias (endpoint : Endpoint) : endpoint.name ≠ searchAlias := by
  cases endpoint <;> decide

end Endpoint

namespace Documents

variable {documents : Documents} {table name : String} {endpoint : Endpoint} {entries : Fields}

/-- Looking for the entry of an endpoint can end at an entry under this name. -/
def CanUse (endpoint : Endpoint) (name : String) : Prop :=
  ∀ entry, entryOf? [(name, entry)] endpoint = some entry

theorem canUse_iff :
    CanUse endpoint name ↔ name = endpoint.name ∨ endpoint = .search ∧ name = searchAlias := by
  by_cases own : name = endpoint.name
  · simp [CanUse, entryOf?, Fields.get?_cons, own]
  · by_cases other : endpoint = .search ∧ name = searchAlias
    · obtain ⟨rfl, rfl⟩ := other
      simp [CanUse, entryOf?, Fields.get?_cons, own]
    · have unused : entryOf? [(name, .null)] endpoint = none := by
        simp only [entryOf?, Fields.get?_cons, own, Fields.get?_nil, if_false]
        split
        · rename_i search
          rw [if_neg fun same => other ⟨search, same⟩]
        · rfl
      simp only [own, other, or_self, iff_false]
      intro canUse
      rw [canUse .null] at unused
      cases unused

/-- The name of an endpoint is of use to that endpoint alone. -/
theorem canUse_name {other : Endpoint} : CanUse other endpoint.name ↔ other = endpoint := by
  rw [canUse_iff]
  constructor
  · rintro (same | ⟨_, same⟩)
    · have found := Endpoint.ofName?_name other
      rw [← same, Endpoint.ofName?_name] at found
      exact (Option.some.inj found).symm
    · exact absurd same endpoint.name_ne_searchAlias
  · rintro rfl
    exact Or.inl rfl

theorem canUse_searchAlias : CanUse endpoint searchAlias ↔ endpoint = .search := by
  rw [canUse_iff]
  simp [endpoint.name_ne_searchAlias.symm]

theorem isSegment_of_document (document : documents.document table = .ok entries) :
    IsSegment table := by
  have named : isTableName table = true := by
    cases refused : isTableName table with
    | true => rfl
    | false => simp [Documents.document, refused] at document
  simp only [isTableName, Bool.and_eq_true, Bool.not_eq_true', String.isEmpty_eq_false_iff,
    List.all_eq_true] at named
  exact ⟨named.1, fun slash => absurd (named.2 _ slash) (by decide)⟩

end Documents

namespace Summary

variable {table tokenHeader name : String} {descriptor : Descriptor} {request : Request}
  {endpoint : Endpoint}

/-- A request for a table leads to an endpoint that can use the entry under this name, with the verb
that the entry asks for. -/
def Serves (tokenHeader table name : String) (descriptor : Descriptor) (request : Request) : Prop :=
  ∃ context, request.context tokenHeader = .ok context ∧ context.table = table ∧
    CanUse context.endpoint name ∧ descriptor.verb = context.verb

/-- A request that is no more than a method and a path. -/
def bare (method path : String) : Request :=
  ⟨method, path, none, ⟨[]⟩, []⟩

/-- A request leads to endpoints with its own verb only. -/
theorem verb_of_serves (serves : Serves tokenHeader table name descriptor request) :
    ∃ endpoint, CanUse endpoint name ∧ endpoint.verb = descriptor.verb := by
  rcases serves with ⟨context, built, _, canUse, verb⟩
  exact ⟨context.endpoint, canUse, (Request.endpoint_verb built).trans verb.symm⟩

/-- The method and the path of an endpoint lead to it. -/
theorem serves_bare (named : IsSegment table) (canUse : CanUse endpoint name)
    (verb : endpoint.verb = descriptor.verb) :
    Serves tokenHeader table name descriptor
      (bare endpoint.verb.text (pathOf (endpoint.apiSegments table "1"))) := by
  have number : IsSegment "1" := ⟨by decide, by decide⟩
  have effective : Request.effectiveVerb endpoint.verb.text ⟨[]⟩ = .ok endpoint.verb := by
    cases endpoint.verb <;> rfl
  have found := Route.find_apiSegments endpoint table "1"
  rw [← segmentsOf_pathOf (endpoint.isSegment_of_apiSegments named number)] at found
  exact ⟨_, Request.context_of_found effective found, rfl, canUse, verb.symm⟩

/-- A method and a path can serve an entry exactly if an endpoint that can use it has its verb. -/
theorem exists_serves_iff (named : IsSegment table) (tokenHeader name : String)
    (descriptor : Descriptor) :
    (∃ method path, Serves tokenHeader table name descriptor (bare method path)) ↔
      ∃ endpoint, CanUse endpoint name ∧ endpoint.verb = descriptor.verb := by
  constructor
  · rintro ⟨method, path, serves⟩
    exact verb_of_serves serves
  · rintro ⟨endpoint, canUse, verb⟩
    exact ⟨_, _, serves_bare named canUse verb⟩

/-- No request serves an entry where no method and path alone do. -/
theorem forall_not_serves_iff (named : IsSegment table) (tokenHeader name : String)
    (descriptor : Descriptor) :
    (∀ request, ¬Serves tokenHeader table name descriptor request) ↔
      ¬∃ endpoint, CanUse endpoint name ∧ endpoint.verb = descriptor.verb := by
  constructor
  · rintro none ⟨endpoint, canUse, verb⟩
    exact none _ (serves_bare named canUse verb)
  · intro none request serves
    exact none (verb_of_serves serves)

/-- How the report about the verb of an entry goes with the requests that it can serve. -/
structure TellsVerb {σ : Type} (service : Service σ) (tokenHeader table : String)
    (entries : Fields) (name : String) (descriptor : Descriptor) : Prop where
  standard : (ofEntry name descriptor).standardVerb = some true ↔
    (∃ method path, Serves tokenHeader table name descriptor (bare method path)) ∨
      name = searchAlias
  differs : (ofEntry name descriptor).standardVerb = some false ↔
    (∃ endpoint, CanUse endpoint name) ∧
      (∀ request, ¬Serves tokenHeader table name descriptor request) ∧ name ≠ searchAlias
  untold : (ofEntry name descriptor).standardVerb = none ↔ ∀ endpoint, ¬CanUse endpoint name
  /-- Under the other name of the search endpoint only `POST` can be served. -/
  otherName : name = searchAlias →
    ((∃ method path, Serves tokenHeader table name descriptor (bare method path)) ↔
      descriptor.verb = .post)
  /-- An endpoint that uses the entry, there being none under its own name, refuses the requests
  whose verb is not the one of the entry, and no others. -/
  checked : ∀ context, context.table = table → CanUse context.endpoint name →
    (name = context.endpoint.name ∨ context.endpoint.name ∉ entries.keys) →
      service.descriptor context =
        if descriptor.verb = context.verb then pure (complete context.endpoint descriptor)
        else Action.fail (.badRequest (Service.wrongVerb context descriptor.verb))

section Telling

variable {σ : Type} {service : Service σ} {entries : Fields} {entry : Json}

/-- What a summary says about a verb is decided by the name of the entry. -/
theorem standardVerb_cases (name : String) (descriptor : Descriptor) :
    (∃ endpoint : Endpoint, name = endpoint.name ∧
      (ofEntry name descriptor).standardVerb =
        some (decide (endpoint.verb = descriptor.verb))) ∨
    (name = searchAlias ∧ (ofEntry name descriptor).standardVerb = some true) ∨
    ((∀ endpoint, ¬CanUse endpoint name) ∧ (ofEntry name descriptor).standardVerb = none) := by
  cases found : Endpoint.ofName? name with
  | some endpoint =>
    exact Or.inl ⟨endpoint, Endpoint.ofName?_eq_some.1 found, by simp [ofEntry, found]⟩
  | none =>
    by_cases other : name = searchAlias
    · refine Or.inr (Or.inl ⟨other, ?_⟩)
      simp only [ofEntry, found, if_pos other]
    · refine Or.inr (Or.inr ⟨?_, by simp only [ofEntry, found, if_neg other]⟩)
      intro endpoint canUse
      rcases canUse_iff.1 canUse with own | ⟨_, same⟩
      · rw [Endpoint.ofName?_eq_some.2 own] at found
        cases found
      · exact other same

/-- An entry is looked at by every endpoint that can use it and has none of its own. -/
theorem entryOf?_of_canUse (distinct : entries.keys.Nodup) (member : (name, entry) ∈ entries)
    (canUse : CanUse endpoint name)
    (first : name = endpoint.name ∨ endpoint.name ∉ entries.keys) :
    entryOf? entries endpoint = some entry := by
  have held : Fields.get? entries name = some entry := Fields.get?_of_mem distinct member
  rcases canUse_iff.1 canUse with own | ⟨search, other⟩
  · rw [entryOf?, ← own, held]
  · rcases first with own | absent
    · rw [entryOf?, ← own, held]
    · rw [entryOf?, Fields.get?_eq_none_iff.2 absent]
      simp only [search, if_true, ← other, held]

/--
A summary says that the verb of an entry is the standard one exactly if a method and a path can be
sent that the entry serves, or the entry has the other name of the search endpoint; that it is not
exactly if the entry is of use but serves no request; and nothing exactly if it is of no use.
-/
theorem tellsVerb (tokenHeader : String) (document : service.documents.document table = .ok entries)
    (member : (name, entry) ∈ entries) (decoded : Descriptor.ofJson entry = .ok descriptor) :
    TellsVerb service tokenHeader table entries name descriptor := by
  have served := exists_serves_iff (isSegment_of_document document) tokenHeader name descriptor
  have unserved :=
    forall_not_serves_iff (isSegment_of_document document) tokenHeader name descriptor
  have checked : ∀ context, context.table = table → CanUse context.endpoint name →
      (name = context.endpoint.name ∨ context.endpoint.name ∉ entries.keys) →
        service.descriptor context =
          if descriptor.verb = context.verb then pure (complete context.endpoint descriptor)
          else Action.fail (.badRequest (Service.wrongVerb context descriptor.verb)) := by
    rintro context rfl canUse first
    have found := entryOf?_of_canUse (nodup_of_document document) member canUse first
    rw [Service.descriptor, descriptor_of_entryOf? document found, readEntry, decoded]
    rfl
  rcases standardVerb_cases name descriptor with ⟨endpoint, rfl, told⟩ | ⟨rfl, told⟩ | ⟨unused, told⟩
  case inl =>
    have other := endpoint.name_ne_searchAlias
    constructor
    case checked => exact checked
    all_goals simp [told, served, unserved, canUse_name, other]
  case inr.inl =>
    constructor
    case checked => exact checked
    all_goals simp [told, served, unserved, canUse_searchAlias, Endpoint.verb, @eq_comm Verb .post]
  case inr.inr =>
    have other : name ≠ searchAlias := by
      rintro rfl
      exact unused .search (canUse_searchAlias.2 rfl)
    constructor
    case checked => exact checked
    all_goals simp [told, served, unserved, unused, other]

end Telling

/-- A service with the other name of the search endpoint in a document, and the verb `GET` there. -/
def aliasService : Service Memory.Tables where
  database := Memory.Setup.plain.database
  tokens := .ofKnown []
  documents := ⟨"modules", Files.empty.write "modules/notes/assets/api.json"
    (some ("\x7b\"Count\":\x7b\"request_type\":\"GET\"\x7d," ++
      "\"Get By Post\":\x7b\"request_type\":\"GET\"\x7d\x7d").toUTF8.toList)⟩
  hooks := .empty
  bypassToken := none
  audit := false

/-- An entry that asks for the verb `GET` and for nothing else. -/
def readingEntry : Json :=
  .object [("request_type", .string "GET")]

/-- What such an entry asks for. -/
def reading : Descriptor :=
  ⟨.get, none, none, none, none, false⟩

theorem document_of_aliasService : aliasService.documents.document "notes" =
    .ok [("Count", readingEntry), (searchAlias, readingEntry)] :=
  Result.ok_of_toOption (by decide +kernel)

theorem ofJson_readingEntry : Descriptor.ofJson readingEntry = .ok reading :=
  Result.ok_of_toOption (by decide +kernel)

theorem tellsVerb_count : (ofEntry "Count" reading).standardVerb = some true ∧
    ∃ method path, Serves "token" "notes" "Count" reading (bare method path) := by
  have tells := tellsVerb "token" document_of_aliasService List.mem_cons_self ofJson_readingEntry
  have told : (ofEntry "Count" reading).standardVerb = some true := by decide
  exact ⟨told, (tells.standard.1 told).resolve_right (by decide)⟩

/-- No request leads to the search endpoint by `GET`, and still `GET` is reported as its verb. -/
theorem standardVerb_of_alias :
    aliasService.documents.load "notes" = .ok [("Count", reading), (searchAlias, reading)] ∧
      (ofEntry searchAlias reading).standardVerb = some true ∧
      ∀ request, ¬Serves "token" "notes" searchAlias reading request := by
  have named : IsSegment "notes" := ⟨by decide, by decide⟩
  refine ⟨Result.ok_of_toOption (by decide +kernel), by decide, ?_⟩
  rw [forall_not_serves_iff named]
  simp [canUse_searchAlias, Endpoint.verb, reading]

end Summary

end TableApi
