import TableApi.Hook.Payload

/-!
# Scripted hooks

A scripted hook is a list of steps that are run on the payload in order.  A step that does not suit
the kind of the payload leaves it as it is; a failing step ends the script.
-/

namespace TableApi

/-- A step of a scripted hook. -/
inductive HookStep where
  | fail (error : HookError)
  /-- Replaces the payload by an empty one of the other kind. -/
  | swap
  | setToken (token : Option String)
  | setParams (value : Json)
  | setParam (key : String) (value : Json)
  | setQuery (text : String)
  | setTable (name : String)
  | setBody (value : Json)
  /-- Puts the body under a key of a new object. -/
  | wrap (key : String)
  | setCode (code : Nat)
  | keep
deriving DecidableEq, Repr

namespace HookStep

/-- The payload of the other kind that holds nothing. -/
def swapped : HookPayload → HookPayload
  | .input _ => .output ⟨.null, 200, none⟩
  | .output _ => .input ⟨none, "", "", .null, ""⟩

/-- Sets a key of an object, and leaves other values as they are. -/
def withKey (key : String) (value : Json) : Json → Json
  | .object fields => .object (Fields.set fields key value)
  | other => other

/-- Runs one step on the data of a request. -/
def runInput (step : HookStep) (data : HookInput) : HookInput :=
  match step with
  | setToken token => { data with token }
  | setParams value => { data with params := value }
  | setParam key value => { data with params := withKey key value data.params }
  | setQuery text => { data with query := text }
  | setTable name => { data with table := name }
  | _ => data

/-- Runs one step on the data of an answer. -/
def runOutput (step : HookStep) (data : HookOutput) : HookOutput :=
  match step with
  | setToken token => { data with token }
  | setBody value => { data with body := value }
  | wrap key => { data with body := .object [(key, data.body)] }
  | setCode code => { data with code }
  | _ => data

/-- Runs one step. -/
def run (step : HookStep) (payload : HookPayload) : Except HookError HookPayload :=
  match step, payload with
  | fail error, _ => .error error
  | swap, payload => .ok (swapped payload)
  | step, .input data => .ok (.input (step.runInput data))
  | step, .output data => .ok (.output (step.runOutput data))

end HookStep

/-- The hook that runs these steps; no steps hand the payload on as it is. -/
def Hook.ofSteps (steps : List HookStep) : Hook :=
  fun payload => steps.foldlM (fun payload step => step.run payload) payload

end TableApi
