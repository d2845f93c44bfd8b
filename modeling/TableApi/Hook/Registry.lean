import TableApi.Effect.Action
import TableApi.Named
import TableApi.Text.Quoted

/-!
# Hooks under their names

Descriptors name hooks, and a registry holds the hooks under the normal forms of their names:
without blanks and then slashes around them, and in lower case.  The last hook that is registered
under a normal form is the one that is called.
-/

namespace TableApi

/-- The hooks under the normal forms of their names. -/
structure HookRegistry where
  hooks : Named Hook

namespace HookRegistry

/-- The normal form of the name of a hook. -/
def normalize (name : String) : String :=
  let bare := Text.trim name.toList
  let inner := Text.dropWhileEnd (· == '/') (bare.dropWhile (· == '/'))
  .ofList (inner.map Char.toLower)

def empty : HookRegistry :=
  ⟨[]⟩

def register (registry : HookRegistry) (name : String) (hook : Hook) : HookRegistry :=
  ⟨registry.hooks.put (normalize name) hook⟩

def find? (registry : HookRegistry) (name : String) : Option Hook :=
  registry.hooks.get? (normalize name)

def contains (registry : HookRegistry) (name : String) : Bool :=
  (registry.find? name).isSome

/-- The normal forms under which hooks are registered, in order. -/
def names (registry : HookRegistry) : List String :=
  registry.hooks.names

def text (registry : HookRegistry) : String :=
  "HookRegistry \x7b hooks: [" ++
    String.intercalate ", " (registry.names.map Text.quoted) ++ "] \x7d"

variable {σ : Type}

/-- Calls the hook that a name stands for. -/
def invoke (registry : HookRegistry) (name : String) (payload : HookPayload) :
    Action σ HookError HookPayload :=
  match registry.find? name with
  | none => Action.fail (.unknown name)
  | some hook => do
      Action.log (.plain .debug
        ("Invoking hook " ++ name ++ " with " ++ payload.kind ++ " payload"))
      Action.emit [.hook name payload]
      Action.ofExcept (hook payload)

def before (registry : HookRegistry) (name : String) (data : HookInput) :
    Action σ HookError HookInput := do
  match ← registry.invoke name (.input data) with
  | .input data => return data
  | .output _ => Action.fail (.mismatch name "input" "output")

def after (registry : HookRegistry) (name : String) (data : HookOutput) :
    Action σ HookError HookOutput := do
  match ← registry.invoke name (.output data) with
  | .output data => return data
  | .input _ => Action.fail (.mismatch name "output" "input")

end HookRegistry

end TableApi
