import TableApi.Proofs.Effect.Result
import TableApi.Request.Context

/-!
# Where a request leads

A route never leads to an endpoint with another verb than the one it was looked up with.  A request
whose method is `GET` keeps that verb whatever its headers say, so it leads to an endpoint that
reads.
-/

namespace TableApi

namespace Route

theorem verb_of_actions : ∀ action ∈ actions, action.endpoint.verb = action.verb := by
  decide

theorem ofAction_verb {verb : Verb} {segments : List String} {route : Route}
    (found : ofAction verb segments = .ok route) : route.endpoint.verb = verb := by
  unfold ofAction at found
  split at found
  · dsimp only at found
    split at found
    · rename_i action table rest _ _ known chosen
      have matched := List.find?_some chosen
      have listed := List.mem_of_find?_eq_some chosen
      cases found
      rw [verb_of_actions known listed]
      simp only [Bool.and_eq_true, decide_eq_true_eq] at matched
      exact matched.1.2
    · split at found <;> cases found
  · cases found

theorem ofTable_verb {verb : Verb} {table : String} {rest : List String} {route : Route}
    (found : ofTable verb table rest = .ok route) : route.endpoint.verb = verb := by
  unfold ofTable at found
  split at found
  · rename_i endpoint resolved
    have matched := List.find?_some resolved
    cases found
    simp only [Bool.and_eq_true, decide_eq_true_eq] at matched
    exact matched.1
  · cases found

/-- The endpoint of a route has the verb that the route was looked up with. -/
theorem find_verb {verb : Verb} {segments : List String} {route : Route}
    (found : Route.find verb segments = .ok route) : route.endpoint.verb = verb := by
  unfold Route.find at found
  split at found
  · cases found
  · split at found
    · exact ofAction_verb found
    · exact ofTable_verb found

/-- A route of the general entry has the segment behind the table as its id. -/
theorem id_of_viaApi {verb : Verb} {segments : List String} {route : Route}
    (found : Route.find verb segments = .ok route) (general : route.viaApi = true) :
    route.id = segments[3]? := by
  unfold Route.find at found
  split at found
  · cases found
  · split at found
    · unfold ofAction at found
      split at found
      · rename_i action table rest
        dsimp only at found
        split at found
        · cases found
          cases rest <;> rfl
        · split at found <;> cases found
      · cases found
    · unfold ofTable at found
      split at found
      · cases found
        cases general
      · cases found

end Route

namespace Request

/-- A request leads to an endpoint with its own verb. -/
theorem endpoint_verb {request : Request} {tokenHeader : String} {context : Context}
    (built : request.context tokenHeader = .ok context) :
    context.endpoint.verb = context.verb := by
  unfold Request.context at built
  obtain ⟨verb, _, rest⟩ := Result.ok_of_bind_ok built
  obtain ⟨route, found, returned⟩ := Result.ok_of_bind_ok rest
  rw [Result.mapError_eq_ok] at found
  cases returned
  exact Route.find_verb found

/-- A request with the method `GET` leads to an endpoint with that verb, whatever its headers. -/
theorem endpoint_verb_of_get {request : Request} {tokenHeader : String} {context : Context}
    (method : request.method = "GET") (built : request.context tokenHeader = .ok context) :
    context.endpoint.verb = .get := by
  unfold Request.context at built
  obtain ⟨verb, effective, rest⟩ := Result.ok_of_bind_ok built
  have get : verb = .get := by
    have read : effectiveVerb request.method request.headers = .ok .get := by
      rw [method]
      rfl
    rw [read] at effective
    exact (Except.ok.inj effective).symm
  obtain ⟨route, found, returned⟩ := Result.ok_of_bind_ok rest
  rw [Result.mapError_eq_ok] at found
  cases returned
  rw [← get]
  exact Route.find_verb found

/-- The id of a request by the general entry is the fourth segment of its path. -/
theorem id_of_viaApi {request : Request} {tokenHeader : String} {context : Context}
    (built : request.context tokenHeader = .ok context) (general : context.viaApi = true) :
    context.id = context.segments[3]? := by
  unfold Request.context at built
  obtain ⟨verb, _, rest⟩ := Result.ok_of_bind_ok built
  obtain ⟨route, found, returned⟩ := Result.ok_of_bind_ok rest
  rw [Result.mapError_eq_ok] at found
  cases returned
  exact Route.id_of_viaApi found general

/-- The token of a request is the one in the header for it, wherever the request leads. -/
theorem token_of_context {request : Request} {tokenHeader : String} {context : Context}
    (built : request.context tokenHeader = .ok context) :
    context.token = tokenIn request.headers tokenHeader := by
  unfold Request.context at built
  obtain ⟨verb, _, rest⟩ := Result.ok_of_bind_ok built
  obtain ⟨route, _, returned⟩ := Result.ok_of_bind_ok rest
  cases returned
  rfl

end Request

end TableApi
