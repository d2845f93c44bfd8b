import TableApi.Proofs.Endpoint.Route
import TableApi.Proofs.Text.Blank
import TableApi.Proofs.Text.Cutting

/-!
# The two paths of an endpoint

Every endpoint can be asked for in two ways: by the general entry, and by the short path that starts
with the table.  `Endpoint.apiSegments` and `Endpoint.shortSegments` are the segments of these paths
with a table and an id in the places of their marks, and `slashed` writes segments as a path, with
as many slashes as one likes.

Both lead back to the endpoint, the table and the id: `find_apiSegments` reads the action off the
table of actions, and `find_shortSegments` finds the identifier of the endpoint again, because a
number and nothing else stands where the identifier has the mark of an id.  The segments of a short
path are joined and parted once more on the way, and all come back (`segmentsOf_joined`).
-/

namespace TableApi

/-! ## Paths with slashes to spare -/

/-- Segments as the text of a path: each behind one slash and some more, and slashes at the end. -/
def slashes : List (Nat × String) → Nat → List Char
  | [], tail => List.replicate tail '/'
  | (more, segment) :: others, tail =>
      '/' :: List.replicate more '/' ++ segment.toList ++ slashes others tail

/-- Segments as a path with slashes to spare. -/
def slashed (segments : List (Nat × String)) (tail : Nat) : String :=
  .ofList (slashes segments tail)

/-- Segments as a path without slashes to spare. -/
def pathOf (segments : List String) : String :=
  slashed (segments.map fun segment => (0, segment)) 0

/-- What may stand between two slashes of a path: a text that is not empty and has no slash. -/
structure IsSegment (segment : String) : Prop where
  filled : segment ≠ ""
  whole : '/' ∉ segment.toList

/-- The pieces between the slashes of a text that are not empty. -/
private def pieces (text : List Char) : List (List Char) :=
  (Text.splitAtChar '/' text).filter fun piece => !piece.isEmpty

private theorem pieces_slash (text : List Char) : pieces ('/' :: text) = pieces text := by
  simp [pieces, Text.splitAtChar]

private theorem pieces_replicate (count : Nat) (text : List Char) :
    pieces (List.replicate count '/' ++ text) = pieces text := by
  induction count with
  | zero => rfl
  | succ count step => rw [List.replicate_succ, List.cons_append, pieces_slash, step]

private theorem pieces_append {piece : List Char} (filled : piece ≠ []) (whole : '/' ∉ piece)
    (rest : List Char) : pieces (piece ++ '/' :: rest) = piece :: pieces rest := by
  simp [pieces, Text.splitAtChar_append whole, filled]

private theorem pieces_singleton {piece : List Char} (filled : piece ≠ []) (whole : '/' ∉ piece) :
    pieces piece = [piece] := by
  simp [pieces, Text.splitAtChar_of_not_mem whole, filled]

/-- What follows a segment of a path is nothing, or starts with a slash. -/
private theorem slashes_cases (segments : List (Nat × String)) (tail : Nat) :
    slashes segments tail = [] ∨ ∃ rest, slashes segments tail = '/' :: rest := by
  cases segments with
  | nil =>
    cases tail with
    | zero => exact Or.inl rfl
    | succ tail => exact Or.inr ⟨_, rfl⟩
  | cons first others => exact Or.inr ⟨_, rfl⟩

private theorem pieces_slashes {segments : List (Nat × String)}
    (each : ∀ entry ∈ segments, IsSegment entry.2) (tail : Nat) :
    pieces (slashes segments tail) = segments.map fun entry => entry.2.toList := by
  induction segments with
  | nil => simpa [slashes, pieces, Text.splitAtChar] using pieces_replicate tail []
  | cons first others step =>
    rcases first with ⟨more, segment⟩
    have here : IsSegment segment := each (more, segment) List.mem_cons_self
    have filled : segment.toList ≠ [] := by simpa using here.filled
    have later := step fun entry member => each entry (List.mem_cons_of_mem _ member)
    rw [slashes, List.cons_append, List.cons_append, pieces_slash, List.append_assoc,
      pieces_replicate, List.map_cons]
    rcases slashes_cases others tail with none | ⟨rest, starts⟩
    · rw [none] at later ⊢
      rw [List.append_nil, pieces_singleton filled here.whole, ← later]
      rfl
    · rw [starts, pieces_slash] at later
      rw [starts, pieces_append filled here.whole, later]

/-- The segments of a path do not depend on slashes to spare. -/
theorem segmentsOf_slashed {segments : List (Nat × String)}
    (each : ∀ entry ∈ segments, IsSegment entry.2) (tail : Nat) :
    segmentsOf (slashed segments tail) = segments.map Prod.snd := by
  have read : segmentsOf (slashed segments tail) =
      (pieces (slashes segments tail)).map String.ofList := by
    simp [segmentsOf, slashed, pieces]
  rw [read, pieces_slashes each, List.map_map]
  exact List.map_congr_left fun entry _ => String.ofList_toList

theorem segmentsOf_pathOf {segments : List String} (each : ∀ segment ∈ segments, IsSegment segment) :
    segmentsOf (pathOf segments) = segments := by
  rw [pathOf, segmentsOf_slashed (by simpa using each), List.map_map]
  exact List.map_id segments

/-! ## The segments of a path in parts -/

/-- A slash parts the segments before it from those behind it. -/
theorem segmentsOf_append (first second : List Char) :
    segmentsOf (.ofList (first ++ '/' :: second)) =
      segmentsOf (.ofList first) ++ segmentsOf (.ofList second) := by
  simp [segmentsOf, Text.splitAtChar_eq_splitWhen, Text.splitWhen_append]

theorem segmentsOf_empty : segmentsOf (.ofList []) = [] := by
  decide

/-- A text without a slash is one segment, or none if it is empty. -/
theorem segmentsOf_of_not_mem {segment : String} (whole : '/' ∉ segment.toList) :
    segmentsOf segment = if segment = "" then [] else [segment] := by
  rw [segmentsOf, Text.splitAtChar_of_not_mem whole]
  by_cases empty : segment = "" <;> simp [empty]

/-- The segments of a path are texts that may stand between its slashes. -/
theorem isSegment_of_segmentsOf (path : String) :
    ∀ segment ∈ segmentsOf path, IsSegment segment := by
  intro segment member
  rcases List.mem_map.1 member with ⟨piece, inside, rfl⟩
  rcases List.mem_filter.1 inside with ⟨cut, filled⟩
  constructor
  · intro empty
    simp [String.ofList_eq_empty_iff.1 empty] at filled
  · rw [String.toList_ofList]
    exact Text.not_mem_of_mem_splitAtChar cut

theorem flatMap_segmentsOf {segments : List String}
    (each : ∀ segment ∈ segments, IsSegment segment) : segments.flatMap segmentsOf = segments := by
  induction segments with
  | nil => rfl
  | cons segment segments step =>
    rw [List.forall_mem_cons] at each
    rw [List.flatMap_cons, segmentsOf_of_not_mem each.1.whole, if_neg each.1.filled, step each.2]
    rfl

/-- The segments of joined texts are the segments of each text in turn. -/
theorem segmentsOf_intercalate (texts : List String) :
    segmentsOf (String.intercalate "/" texts) = texts.flatMap segmentsOf := by
  induction texts with
  | nil => decide
  | cons text texts step =>
    cases texts with
    | nil => simp
    | cons other others =>
      have joined : String.intercalate "/" (text :: other :: others) =
          .ofList (text.toList ++ '/' :: (String.intercalate "/" (other :: others)).toList) := by
        apply String.toList_injective
        simp [String.intercalate_cons_cons]
      rw [joined, segmentsOf_append, String.ofList_toList, String.ofList_toList, step,
        ← List.flatMap_cons]

/-- To write texts as a path and take its segments gives the same texts. -/
theorem segmentsOf_joined {segments : List String}
    (each : ∀ segment ∈ segments, IsSegment segment) :
    segmentsOf (String.intercalate "/" segments) = segments := by
  rw [segmentsOf_intercalate, flatMap_segmentsOf each]

/-- A joined path is normalized segment by segment. -/
theorem normalizePath_joined {segments : List String}
    (each : ∀ segment ∈ segments, IsSegment segment) :
    normalizePath (String.intercalate "/" segments) =
      String.intercalate "/" (normalizeSegments segments) := by
  rw [normalizePath, segmentsOf_joined each]

theorem isSegment_of_normalizeSegments {segments : List String}
    (each : ∀ segment ∈ segments, IsSegment segment) :
    ∀ segment ∈ normalizeSegments segments, IsSegment segment := by
  intro segment member
  rcases List.mem_map.1 member with ⟨part, inside, rfl⟩
  split
  · exact ⟨by decide, by decide⟩
  · exact each part inside

theorem segmentsOf_normalizePath_joined {segments : List String}
    (each : ∀ segment ∈ segments, IsSegment segment) :
    segmentsOf (normalizePath (String.intercalate "/" segments)) = normalizeSegments segments := by
  rw [normalizePath_joined each, segmentsOf_joined (isSegment_of_normalizeSegments each)]

/-! ## The segments of both paths -/

namespace Endpoint

/-- The segments of the path by the general entry. -/
def apiSegments (endpoint : Endpoint) (table id : String) : List String :=
  (segmentsOf endpoint.apiPath).map fun segment =>
    if segment = "<table>" then table else if segment = "<id>" then id else segment

/-- The segments of the short path. -/
def shortSegments (endpoint : Endpoint) (table id : String) : List String :=
  table :: (segmentsOf endpoint.identifier).map fun segment =>
    if segment = "\x7bid\x7d" then id else segment

/-- The id that a path of an endpoint holds, if the endpoint addresses a record. -/
def idOf (endpoint : Endpoint) (id : String) : Option String :=
  if endpoint.addressesRecord then some id else none

theorem segmentsOf_identifier (endpoint : Endpoint) :
    segmentsOf endpoint.identifier = endpoint.identifierSegments := by
  cases endpoint <;> decide

theorem isSegment_of_identifier (endpoint : Endpoint) :
    ∀ segment ∈ endpoint.identifierSegments, IsSegment segment := by
  rw [← segmentsOf_identifier]
  exact isSegment_of_segmentsOf endpoint.identifier

/-- No part of an identifier is a number. -/
theorem not_isNumeric_of_identifier (endpoint : Endpoint) :
    ∀ segment ∈ endpoint.identifierSegments, isNumeric segment = false := by
  cases endpoint <;> decide

/-- The endpoints that address a record are those with the mark of an id in their identifier. -/
theorem mark_mem_iff (endpoint : Endpoint) :
    "\x7bid\x7d" ∈ endpoint.identifierSegments ↔ endpoint.addressesRecord = true := by
  cases endpoint <;> decide

/-- Verb and identifier tell the endpoints apart. -/
theorem resolve?_identifier (endpoint : Endpoint) :
    resolve? endpoint.verb endpoint.identifier = some endpoint := by
  cases endpoint <;> decide

theorem shortSegments_eq (endpoint : Endpoint) (table id : String) :
    endpoint.shortSegments table id = table :: endpoint.identifierSegments.map fun segment =>
      if segment = "\x7bid\x7d" then id else segment := by
  rw [shortSegments, segmentsOf_identifier]

end Endpoint

namespace Route

/-- Every endpoint has an action of the general entry, and the path of the endpoint names it. -/
theorem exists_action (endpoint : Endpoint) :
    ∃ action ∈ actions, action.endpoint = endpoint ∧ action.verb = endpoint.verb ∧
      action.withId = endpoint.addressesRecord ∧
      segmentsOf endpoint.apiPath =
        entry :: action.name :: "<table>" ::
          if endpoint.addressesRecord then ["<id>"] else [] := by
  cases endpoint <;> decide

theorem name_of_action : ∀ action ∈ actions,
    String.ofList (action.name.toList.map Char.toLower) = action.name ∧
      action.name ≠ "<table>" ∧ action.name ≠ "<id>" ∧
      action.name ≠ "" ∧ '/' ∉ action.name.toList := by
  decide

/-- Name, verb and presence of an id tell the actions apart. -/
theorem find?_action : ∀ action ∈ actions,
    actions.find? (fun known => known.name = action.name && known.verb = action.verb &&
      known.withId = action.withId) = some action := by
  decide

end Route

namespace Endpoint

/-- The path by the general entry names an action, the table, and the id if there is one. -/
theorem apiSegments_eq (endpoint : Endpoint) (table id : String) :
    ∃ action ∈ Route.actions, action.endpoint = endpoint ∧ action.verb = endpoint.verb ∧
      action.withId = endpoint.addressesRecord ∧
      endpoint.apiSegments table id =
        Route.entry :: action.name :: table :: (endpoint.idOf id).toList := by
  rcases Route.exists_action endpoint with ⟨action, listed, leads, verb, withId, path⟩
  rcases Route.name_of_action action listed with ⟨_, notTable, notId, _⟩
  refine ⟨action, listed, leads, verb, withId, ?_⟩
  have entry : Route.entry ≠ "<table>" ∧ Route.entry ≠ "<id>" := by decide
  simp only [apiSegments, path, idOf, List.map_cons, entry, notTable, notId, if_false, if_true]
  cases endpoint.addressesRecord <;> simp

variable {table id : String}

theorem isSegment_of_apiSegments (endpoint : Endpoint) (named : IsSegment table)
    (given : IsSegment id) : ∀ segment ∈ endpoint.apiSegments table id, IsSegment segment := by
  rcases endpoint.apiSegments_eq table id with ⟨action, listed, _, _, _, equal⟩
  rcases Route.name_of_action action listed with ⟨_, _, _, filled, whole⟩
  rw [equal]
  intro segment member
  rcases List.mem_cons.1 member with rfl | member
  · exact ⟨by decide, by decide⟩
  rcases List.mem_cons.1 member with rfl | member
  · exact ⟨filled, whole⟩
  rcases List.mem_cons.1 member with rfl | member
  · exact named
  unfold idOf at member
  split at member
  · rw [List.mem_singleton.1 member]
    exact given
  · cases member

/-- With an id in the place of its mark an identifier keeps its segments apart. -/
theorem isSegment_of_identifier_with (endpoint : Endpoint) (given : IsSegment id) :
    ∀ segment ∈ endpoint.identifierSegments.map (fun segment =>
      if segment = "\x7bid\x7d" then id else segment), IsSegment segment := by
  intro segment member
  rcases List.mem_map.1 member with ⟨part, inside, rfl⟩
  split
  · exact given
  · exact endpoint.isSegment_of_identifier part inside

theorem isSegment_of_shortSegments (endpoint : Endpoint) (named : IsSegment table)
    (given : IsSegment id) : ∀ segment ∈ endpoint.shortSegments table id, IsSegment segment := by
  rw [shortSegments_eq, List.forall_mem_cons]
  exact ⟨named, endpoint.isSegment_of_identifier_with given⟩

end Endpoint

/-! ## Where both paths lead -/

namespace Route

/-- A listed action with an id exactly if it takes one leads to its endpoint. -/
theorem ofAction_of_listed {action : Action} (listed : action ∈ actions) (table : String)
    {id : Option String} (withId : id.isSome = action.withId) :
    ofAction action.verb (action.name :: table :: id.toList) =
      .ok ⟨table, action.endpoint, id, true⟩ := by
  have same : id.toList.head? = id := by cases id <;> rfl
  simp only [ofAction, same, (name_of_action action listed).1, withId, find?_action action listed]

/-- The path by the general entry leads to its endpoint. -/
theorem find_apiSegments (endpoint : Endpoint) (table id : String) :
    find endpoint.verb (endpoint.apiSegments table id) =
      .ok ⟨table, endpoint, endpoint.idOf id, true⟩ := by
  rcases endpoint.apiSegments_eq table id with ⟨action, listed, leads, verb, withId, equal⟩
  have matching : (endpoint.idOf id).isSome = action.withId := by
    rw [withId, Endpoint.idOf]
    cases endpoint.addressesRecord <;> rfl
  rw [equal, find, if_pos rfl, ← verb, ofAction_of_listed listed table matching, leads]

variable {id : String}

/-- The identifier of an endpoint comes back when its id is a number. -/
theorem normalizeSegments_of_identifier (endpoint : Endpoint) (digits : isNumeric id = true) :
    normalizeSegments (endpoint.identifierSegments.map fun segment =>
      if segment = "\x7bid\x7d" then id else segment) = endpoint.identifierSegments := by
  rw [normalizeSegments, List.map_map]
  refine (List.map_congr_left fun segment member => ?_).trans (List.map_id _)
  rw [Function.comp_apply]
  by_cases mark : segment = "\x7bid\x7d"
  · rw [if_pos mark, if_pos digits, mark, id_eq]
  · rw [if_neg mark, endpoint.not_isNumeric_of_identifier segment member]
    rfl

/-- The first number behind the table is the id of an endpoint that addresses a record. -/
theorem find?_isNumeric_of_identifier (endpoint : Endpoint) (digits : isNumeric id = true) :
    (endpoint.identifierSegments.map fun segment =>
      if segment = "\x7bid\x7d" then id else segment).find? isNumeric = endpoint.idOf id := by
  have numbers : ∀ segment ∈ endpoint.identifierSegments,
      (isNumeric (if segment = "\x7bid\x7d" then id else segment) = true ↔
        segment = "\x7bid\x7d") := by
    intro segment member
    by_cases mark : segment = "\x7bid\x7d"
    · simp [mark, digits]
    · simp [mark, endpoint.not_isNumeric_of_identifier segment member]
  rw [List.find?_map, Endpoint.idOf]
  cases found : endpoint.identifierSegments.find?
      (isNumeric ∘ fun segment => if segment = "\x7bid\x7d" then id else segment) with
  | some segment =>
    have member := List.mem_of_find?_eq_some found
    have numeric := List.find?_some found
    have mark := (numbers segment member).1 numeric
    rw [if_pos (endpoint.mark_mem_iff.1 (mark ▸ member)), Option.map_some, if_pos mark]
  | none =>
    have unmarked : "\x7bid\x7d" ∉ endpoint.identifierSegments := fun member =>
      List.find?_eq_none.1 found _ member ((numbers _ member).2 rfl)
    rw [if_neg fun addresses => unmarked (endpoint.mark_mem_iff.2 addresses)]
    rfl

/-- The short path leads to its endpoint. -/
theorem find_shortSegments (endpoint : Endpoint) {table : String} (short : table ≠ entry)
    (given : IsSegment id) (digits : isNumeric id = true) :
    find endpoint.verb (endpoint.shortSegments table id) =
      .ok ⟨table, endpoint, endpoint.idOf id, false⟩ := by
  have resolved : Endpoint.resolve? endpoint.verb
      (String.intercalate "/" endpoint.identifierSegments) = some endpoint :=
    endpoint.resolve?_identifier
  rw [endpoint.shortSegments_eq, find, if_neg short, ofTable,
    normalizePath_joined (endpoint.isSegment_of_identifier_with given),
    normalizeSegments_of_identifier endpoint digits, resolved]
  simp only [find?_isNumeric_of_identifier endpoint digits]

/-! ## What a route says of its path -/

/-- What a route owes to the verb and the segments it was found for. -/
structure Fits (verb : Verb) (segments : List String) (route : Route) : Prop where
  verb : route.endpoint.verb = verb
  viaApi : route.viaApi = true ↔ segments.head? = some entry
  /-- The table is the third segment behind the general entry, and the first one otherwise. -/
  table : segments[if segments.head? = some entry then 2 else 0]? = some route.table

theorem fits_of_find {verb : Verb} {segments : List String} {route : Route}
    (found : find verb segments = .ok route) : route.Fits verb segments := by
  have agrees := find_verb found
  unfold find at found
  split at found
  · cases found
  · rename_i first rest
    split at found
    · rename_i general
      unfold ofAction at found
      split at found
      · dsimp only at found
        split at found
        · cases found
          exact ⟨agrees, by simp [general], by simp [general]⟩
        · split at found <;> cases found
      · cases found
    · rename_i short
      unfold ofTable at found
      split at found
      · cases found
        exact ⟨agrees, by simp [short], by simp [short]⟩
      · cases found

end Route

end TableApi
