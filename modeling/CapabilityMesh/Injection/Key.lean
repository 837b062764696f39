/-
Keys of wrapped functions, and keys of the values that their dependencies
receive.
-/
import CapabilityMesh.Text.Quoted

namespace CapabilityMesh

/-- The identity of a wrapped function: its name, and a number that no other
function of the injector has. -/
structure FunctionKey where
  name : String
  id : Nat
deriving Repr, DecidableEq

namespace FunctionKey

/-- Keys are ordered by name, then by number. -/
def precedes (a b : FunctionKey) : Bool :=
  a.name < b.name || (a.name == b.name && a.id < b.id)

def render (key : FunctionKey) : String :=
  key.name ++ "#" ++ toString key.id

def describe (key : FunctionKey) : String :=
  "FunctionKey \x7b name: " ++ Text.quoted key.name ++ ", id: " ++ toString key.id ++ " \x7d"

end FunctionKey

/-- What a value is stored under. -/
inductive DependencyKey where
  /-- The value of a capability for every function. -/
  | shared (capability : String)
  /-- The value of a capability for the functions of one name. -/
  | own (function capability : String)
deriving Repr, DecidableEq

namespace DependencyKey

def capability : DependencyKey → String
  | shared capability => capability
  | own _ capability => capability

def isOwnOf (function : String) : DependencyKey → Bool
  | shared _ => false
  | own f _ => f == function

/-- Shared keys come first; then keys are ordered by their texts. -/
def precedes : DependencyKey → DependencyKey → Bool
  | shared a, shared b => a < b
  | shared _, own _ _ => true
  | own _ _, shared _ => false
  | own f a, own g b => f < g || (f == g && a < b)

/-- The key as log lines show it. -/
def describe : DependencyKey → String
  | shared capability => "Capability(" ++ Text.quoted capability ++ ")"
  | own function capability =>
      "Scoped \x7b function: " ++ Text.quoted function
        ++ ", capability: " ++ Text.quoted capability ++ " \x7d"

end DependencyKey

end CapabilityMesh
