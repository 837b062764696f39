/-
Probes: the cheap heartbeat whose answer is a status code alone.
-/
import CapabilityMesh.Registry.Failure

namespace CapabilityMesh

/-- What a probe brings back. -/
inductive ProbeReply where
  | status (code : Nat)
  | failed (reason : String)
deriving Repr, DecidableEq

/-- What a probe says about the agent's standing. -/
inductive HeartbeatStatus where
  /-- Nothing changed since the last reconciliation. -/
  | noChanges
  /-- A provider that the agent depends on changed. -/
  | topologyChanged
  /-- The registry has no record of the agent. -/
  | agentUnknown
  /-- The registry was reached and is overloaded. -/
  | registryError
  /-- The registry was not reached. -/
  | networkError
deriving Repr, DecidableEq

/-- What a heartbeat does next. -/
inductive HeartbeatAction where
  | skip
  | fullHeartbeat
  | retry
deriving Repr, DecidableEq

namespace HeartbeatStatus

def ofCode : Nat → Except MeshError HeartbeatStatus
  | 200 => .ok noChanges
  | 202 => .ok topologyChanged
  | 410 => .ok agentUnknown
  | 503 => .ok registryError
  | code => .error (.unexpectedStatus code)

def classify : ProbeReply → Except MeshError HeartbeatStatus
  | .status code => ofCode code
  | .failed _ => .ok networkError

/-- Whether everything has to be declared again. -/
def needsFullHeartbeat : HeartbeatStatus → Bool
  | topologyChanged | agentUnknown => true
  | _ => false

def waitsForRegistry : HeartbeatStatus → Bool
  | registryError | networkError => true
  | _ => false

def isSettled : HeartbeatStatus → Bool
  | noChanges => true
  | _ => false

def action (s : HeartbeatStatus) : HeartbeatAction :=
  if s.needsFullHeartbeat then .fullHeartbeat
  else if s.waitsForRegistry then .retry
  else .skip

def name : HeartbeatStatus → String
  | noChanges => "no_changes"
  | topologyChanged => "topology_changed"
  | agentUnknown => "agent_unknown"
  | registryError => "registry_error"
  | networkError => "network_error"

/-- The name of a standing as outcomes show it. -/
def label : HeartbeatStatus → String
  | noChanges => "NoChanges"
  | topologyChanged => "TopologyChanged"
  | agentUnknown => "AgentUnknown"
  | registryError => "RegistryError"
  | networkError => "NetworkError"

end HeartbeatStatus

end CapabilityMesh
