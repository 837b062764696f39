/-
What can go wrong between an agent and the registry.
-/
import CapabilityMesh.Config.Error
import CapabilityMesh.Json.Fault

namespace CapabilityMesh

/-- A failure of a call to the registry, or of preparing one. -/
inductive MeshError where
  /-- No connection, or none in time. -/
  | transport (reason : String)
  /-- The registry was reached and failed. -/
  | registry (status : Nat) (reason : String)
  /-- The registry answered, and did not accept. -/
  | rejected (reason : String)
  /-- A status code that the protocol does not have. -/
  | unexpectedStatus (status : Nat)
  /-- An answer that is malformed or contradicts itself. -/
  | contractViolation (reason : String)
  /-- A value that is no JSON of the expected shape. -/
  | json (fault : Json.Fault)
  | invalidConfig (reason : String)
  | config (error : ConfigError)
deriving Repr, DecidableEq

namespace MeshError

/-- The wording of a failure. -/
def message : MeshError → String
  | transport reason => "Transport error: " ++ reason
  | registry status reason =>
      "Registry error (HTTP " ++ toString status ++ "): " ++ reason
  | rejected reason => "Registry rejected request: " ++ reason
  | unexpectedStatus status => "Unexpected status code from registry: " ++ toString status
  | contractViolation reason => "Registry contract violation: " ++ reason
  | json fault => "JSON error: " ++ fault.message
  | invalidConfig reason => "Invalid configuration: " ++ reason
  | config error => error.message

/-- Whether the next heartbeat may do better. -/
def isRetryable : MeshError → Bool
  | transport _ | registry _ _ | rejected _ => true
  | _ => false

/-- Whether the registry broke the protocol, so that trying again is no use. -/
def isContractViolation : MeshError → Bool
  | unexpectedStatus _ | contractViolation _ => true
  | _ => false

end MeshError

end CapabilityMesh
