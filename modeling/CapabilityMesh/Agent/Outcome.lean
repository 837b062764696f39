/-
What comes out of a registration or of a heartbeat.
-/
import CapabilityMesh.Registry.Probe
import CapabilityMesh.Text.Quoted

namespace CapabilityMesh

/-- The outcome of a registration or of a heartbeat. -/
inductive TickOutcome where
  /-- Another cycle was still at work. -/
  | inFlight
  /-- The agent never calls the registry. -/
  | disabled
  /-- The probe reported no change. -/
  | unchanged
  /-- The registry's bindings are in force; `changed` tells whether they had to
  be applied. -/
  | reconciled (changed : Bool)
  /-- The registry was not reached, or failed. -/
  | degraded (status : HeartbeatStatus) (failures : Nat) (dropped : Bool)
  /-- The registry broke the protocol. -/
  | contractViolation (message : String)
deriving Repr, DecidableEq

namespace TickOutcome

/-- Whether the registry confirmed its bindings. -/
def isReconciled : TickOutcome → Bool
  | reconciled _ => true
  | _ => false

/-- The outcome as log lines show it. -/
def describe : TickOutcome → String
  | inFlight => "InFlight"
  | disabled => "Disabled"
  | unchanged => "Unchanged"
  | reconciled changed =>
      "Reconciled \x7b bindings_changed: " ++ toString changed ++ " \x7d"
  | degraded status failures dropped =>
      "Degraded \x7b status: " ++ status.label ++ ", consecutive_failures: "
        ++ toString failures ++ ", dropped_to_standalone: " ++ toString dropped ++ " \x7d"
  | contractViolation message =>
      "ContractViolation \x7b message: " ++ Text.quoted message ++ " \x7d"

end TickOutcome

end CapabilityMesh
