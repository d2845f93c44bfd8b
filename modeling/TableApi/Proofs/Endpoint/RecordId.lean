import Mathlib.Data.List.Induction
import TableApi.Proofs.Endpoint.Paths

/-!
# The id of a route

A route to an endpoint that addresses a record carries an id, and a route to another endpoint
carries none, with one exception: the short path takes the mark `{id}` itself for an id when it
looks for the endpoint, and does not when it looks for the id.  `id_isSome_iff` says this of every
route, and `find_identifierSegments` that every endpoint that addresses a record can be found
without an id in this way.

The way there is a lemma about paths.  Slashes at the ends of a path change none of its segments, so
the identifier that a short path resolves to has the segments of that path
(`identifierSegments_of_resolve?`).  Then the marks on both sides can be counted.
-/

namespace TableApi

/-! ## The identifier of a path -/

theorem segmentsOf_dropWhile (text : List Char) :
    segmentsOf (.ofList (text.dropWhile (· == '/'))) = segmentsOf (.ofList text) := by
  induction text with
  | nil => rfl
  | cons character rest step =>
    by_cases slash : character = '/'
    · have parted := segmentsOf_append [] rest
      rw [segmentsOf_empty, List.nil_append, List.nil_append] at parted
      rw [List.dropWhile_cons_of_pos (by simpa using slash), step, slash, parted]
    · rw [List.dropWhile_cons_of_neg (by simpa using slash)]

theorem segmentsOf_dropWhileEnd (text : List Char) :
    segmentsOf (.ofList (Text.dropWhileEnd (· == '/') text)) = segmentsOf (.ofList text) := by
  induction text using List.reverseRecOn with
  | nil => rfl
  | append_singleton text character step =>
    unfold Text.dropWhileEnd at step ⊢
    rw [List.reverse_append, List.reverse_singleton, List.singleton_append]
    by_cases slash : character = '/'
    · have parted := segmentsOf_append text []
      rw [segmentsOf_empty, List.append_nil] at parted
      rw [List.dropWhile_cons_of_pos (by simpa using slash), step, slash, parted]
    · rw [List.dropWhile_cons_of_neg (by simpa using slash), List.reverse_cons,
        List.reverse_reverse]

/-! ## The marks of ids -/

namespace Endpoint

/-- The identifier that a path resolves to has the segments of the path. -/
theorem identifierSegments_of_resolve? {verb : Verb} {path : String} {endpoint : Endpoint}
    (resolved : resolve? verb path = some endpoint) :
    endpoint.identifierSegments = segmentsOf path := by
  have matched := List.find?_some resolved
  simp only [Bool.and_eq_true, decide_eq_true_eq] at matched
  calc endpoint.identifierSegments
      = segmentsOf (.ofList endpoint.identifier.toList) := by
        rw [String.ofList_toList, segmentsOf_identifier]
    _ = segmentsOf (.ofList path.toList) := by
        rw [matched.2, segmentsOf_dropWhileEnd, segmentsOf_dropWhile]
    _ = segmentsOf path := by rw [String.ofList_toList]

/-- The text of an identifier holds the mark of an id if the endpoint addresses a record. -/
theorem mark_infix_iff (endpoint : Endpoint) :
    "\x7bid\x7d".toList <:+: endpoint.identifier.toList ↔ endpoint.addressesRecord = true := by
  cases endpoint <;> decide +kernel

/-- An identifier has one mark of an id at most. -/
theorem count_mark (endpoint : Endpoint) :
    endpoint.identifierSegments.count "\x7bid\x7d" = endpoint.addressesRecord.toNat := by
  cases endpoint <;> decide

end Endpoint

/-- The marks among normalized segments are the numbers and the marks that were there before. -/
theorem count_mark_normalizeSegments (segments : List String) :
    (normalizeSegments segments).count "\x7bid\x7d" =
      segments.countP isNumeric + segments.count "\x7bid\x7d" := by
  induction segments with
  | nil => rfl
  | cons segment segments step =>
    rw [normalizeSegments, List.map_cons, ← normalizeSegments]
    by_cases numeric : isNumeric segment = true
    · have unmarked : segment ≠ "\x7bid\x7d" := by
        rintro rfl
        exact absurd numeric (by decide)
      rw [if_pos numeric, List.count_cons_self, step, List.countP_cons_of_pos numeric,
        List.count_cons_of_ne unmarked]
      omega
    · rw [if_neg numeric, List.count_cons, step, List.countP_cons_of_neg numeric, List.count_cons]
      omega

namespace Route

/-! ## Routes with an id -/

theorem withId_of_actions : ∀ action ∈ actions,
    action.withId = action.endpoint.addressesRecord := by
  decide

/-- By the general entry an endpoint gets an id exactly if it addresses a record. -/
theorem id_isSome_of_ofAction {verb : Verb} {segments : List String} {route : Route}
    (found : ofAction verb segments = .ok route) :
    route.viaApi = true ∧ route.id.isSome = route.endpoint.addressesRecord := by
  unfold ofAction at found
  split at found
  · dsimp only at found
    split at found
    · rename_i action table rest _ _ known chosen
      have matched := List.find?_some chosen
      have listed := List.mem_of_find?_eq_some chosen
      cases found
      simp only [Bool.and_eq_true, decide_eq_true_eq] at matched
      exact ⟨rfl, matched.2.symm.trans (withId_of_actions known listed)⟩
    · split at found <;> cases found
  · cases found

/-- By the short path an endpoint gets an id if it addresses a record and no mark of an id stands in
the path already. -/
theorem id_isSome_of_ofTable {verb : Verb} {table : String} {rest : List String} {route : Route}
    (each : ∀ segment ∈ rest, IsSegment segment) (found : ofTable verb table rest = .ok route) :
    route.viaApi = false ∧ route.id = rest.find? isNumeric ∧
      (route.id.isSome = true ↔ route.endpoint.addressesRecord = true ∧
        "\x7bid\x7d" ∉ rest) := by
  unfold ofTable at found
  split at found
  · rename_i endpoint resolved
    cases found
    have marks := endpoint.count_mark
    rw [Endpoint.identifierSegments_of_resolve? resolved, segmentsOf_normalizePath_joined each,
      count_mark_normalizeSegments] at marks
    refine ⟨rfl, rfl, ?_⟩
    rw [List.find?_isSome, ← List.countP_pos_iff, ← List.count_eq_zero]
    cases addresses : endpoint.addressesRecord
    · have none : rest.countP isNumeric = 0 := by
        rw [addresses, Bool.toNat_false] at marks
        omega
      simp [none]
    · rw [addresses, Bool.toNat_true] at marks
      simp only [true_and]
      omega
  · cases found

/-- A route carries an id exactly if the identifier of its endpoint has the mark of one, unless it
was found by a short path that holds the mark itself; and the id of a short path is a number. -/
theorem id_isSome_iff {verb : Verb} {segments : List String} {route : Route}
    (each : ∀ segment ∈ segments, IsSegment segment) (found : find verb segments = .ok route) :
    (route.id.isSome = true ↔
      "\x7bid\x7d".toList <:+: route.endpoint.identifier.toList ∧
        (route.viaApi = false → "\x7bid\x7d" ∉ segments.tail)) ∧
    (route.viaApi = false → ∀ id, route.id = some id →
      id ≠ "" ∧ ∀ character ∈ id.toList, character.isDigit = true) := by
  rw [Endpoint.mark_infix_iff]
  unfold find at found
  split at found
  · cases found
  · rename_i first rest
    rw [List.forall_mem_cons] at each
    split at found
    · rcases id_isSome_of_ofAction found with ⟨general, exactly⟩
      simp [general, exactly]
    · rcases id_isSome_of_ofTable each.2 found with ⟨short, number, exactly⟩
      constructor
      · simpa [short] using exactly
      · intro _ id carried
        have chosen : rest.find? isNumeric = some id := number.symm.trans carried
        have numeric := List.find?_some chosen
        constructor
        · exact (each.2 id (List.mem_of_find?_eq_some chosen)).filled
        · simpa [isNumeric] using numeric

/-- Slashes to spare make no difference to the id. -/
theorem id_isSome_iff_exists :
    ∃ route, find .get (segmentsOf "/notes//7/exists/") = .ok route ∧ route.id = some "7" ∧
      "\x7bid\x7d".toList <:+: route.endpoint.identifier.toList := by
  have found : find .get (segmentsOf "/notes//7/exists/") =
      .ok ⟨"notes", .exists, some "7", false⟩ := Result.ok_of_toOption (by decide +kernel)
  have carried := (id_isSome_iff (isSegment_of_segmentsOf _) found).1.1 rfl
  exact ⟨_, found, rfl, carried.1⟩

/-- The identifier of an endpoint behind a table leads to the endpoint, without an id. -/
theorem find_identifierSegments (endpoint : Endpoint) {table : String} (short : table ≠ entry) :
    find endpoint.verb (table :: endpoint.identifierSegments) =
      .ok ⟨table, endpoint, none, false⟩ := by
  have letters := endpoint.not_isNumeric_of_identifier
  have joined := normalizePath_joined endpoint.isSegment_of_identifier
  have normal : normalizeSegments endpoint.identifierSegments = endpoint.identifierSegments := by
    refine (List.map_congr_left fun segment member => ?_).trans (List.map_id _)
    rw [if_neg (by simp [letters segment member]), id_eq]
  have resolved : Endpoint.resolve? endpoint.verb
      (String.intercalate "/" endpoint.identifierSegments) = some endpoint :=
    endpoint.resolve?_identifier
  have unnumbered : endpoint.identifierSegments.find? isNumeric = none := by
    simpa [List.find?_eq_none] using letters
  simp only [find, if_neg short, ofTable, joined, normal, resolved, unnumbered]

/-- A path that ends in the mark of an id leads to an endpoint that addresses a record, and the route
carries no id. -/
theorem find_without_id :
    segmentsOf "/tasks/\x7bid\x7d" = ["tasks", "\x7bid\x7d"] ∧
      find .get ["tasks", "\x7bid\x7d"] = .ok ⟨"tasks", .findOne, none, false⟩ ∧
      "\x7bid\x7d".toList <:+: Endpoint.findOne.identifier.toList := by
  exact ⟨by decide, Result.ok_of_toOption (by decide +kernel), by decide⟩

end Route

end TableApi
