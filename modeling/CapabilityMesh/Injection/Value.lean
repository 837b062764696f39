/-
Values that a dependency can receive.
-/
import CapabilityMesh.Injection.Key
import CapabilityMesh.Registry.Provider

namespace CapabilityMesh

/-- How a wrapped function is called. -/
inductive CallMode where
  /-- The call returns its result. -/
  | blocking
  /-- The call returns at once; its result is waited for. -/
  | awaitable
deriving Repr, DecidableEq

namespace CallMode

def label : CallMode → String
  | blocking => "Blocking"
  | awaitable => "Awaitable"

end CallMode

/-- A capability served by a wrapped function of the same process.  It keeps the
function's code in memory; it does not keep the function wrapped. -/
structure LocalCapability where
  /-- The capability that was asked for. -/
  capability : String
  key : FunctionKey
  mode : CallMode
deriving Repr, DecidableEq

namespace LocalCapability

def render (l : LocalCapability) : String :=
  l.capability ++ " -> local " ++ l.key.render

/-- The capability with its fields, and whether its function is still
wrapped. -/
def describe (l : LocalCapability) (isLive : Bool) : String :=
  "LocalCapability \x7b capability: " ++ Text.quoted l.capability
    ++ ", function: " ++ l.key.describe ++ ", mode: " ++ l.mode.label
    ++ ", live: " ++ toString isLive ++ " \x7d"

end LocalCapability

/-- A value for a dependency. -/
inductive Value where
  /-- A text of the application's own. -/
  | text (text : String)
  /-- A number of the application's own. -/
  | number (number : Int)
  /-- A function of another agent. -/
  | remote (provider : RemoteCapability)
  /-- A function of this process. -/
  | inProcess (provider : LocalCapability)
deriving Repr, DecidableEq

namespace Value

def target? : Value → Option FunctionKey
  | inProcess l => some l.key
  | _ => none

end Value

end CapabilityMesh
