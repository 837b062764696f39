/-
Providers: functions of other agents that serve a capability, and the bindings
that say which provider serves which dependency.
-/

namespace CapabilityMesh

/-- A capability served by a function of some agent. -/
structure RemoteCapability where
  /-- The capability that was asked for. -/
  capability : String
  agentId : String
  endpoint : String
  /-- The function of the serving agent that implements the capability. -/
  function : String
deriving Repr, DecidableEq

namespace RemoteCapability

/-- The text that shows a provider. -/
def render (r : RemoteCapability) : String :=
  r.capability ++ " -> " ++ r.agentId ++ "::" ++ r.function ++ " @ " ++ r.endpoint

end RemoteCapability

/-- The dependency of one function on one capability. -/
structure BindingSlot where
  function : String
  capability : String
deriving Repr, DecidableEq

namespace BindingSlot

def precedes (a b : BindingSlot) : Bool :=
  a.function < b.function || (a.function == b.function && a.capability < b.capability)

end BindingSlot

/-- Bindings in the order of their slots, one for each slot; a slot that is
bound to nothing is unresolved. -/
abbrev Bindings := List (BindingSlot × Option RemoteCapability)

namespace Bindings

def insert : Bindings → BindingSlot → Option RemoteCapability → Bindings
  | [], slot, value => [(slot, value)]
  | first :: rest, slot, value =>
      if slot.precedes first.1 then (slot, value) :: first :: rest
      else if slot = first.1 then (slot, value) :: rest
      else first :: insert rest slot value

/-- What a slot is bound to; `none` if the bindings do not have it. -/
def get? (b : Bindings) (slot : BindingSlot) : Option (Option RemoteCapability) :=
  List.lookup slot b

end Bindings

end CapabilityMesh
