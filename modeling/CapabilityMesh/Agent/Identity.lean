/-
Who an agent says it is, and how it keeps in touch with the registry.
-/
import CapabilityMesh.Config.Settings

namespace CapabilityMesh

/-- What an agent announces about itself. -/
structure AgentIdentity where
  agentId : String
  name : String
  version : String := "1.0.0"
  agentNamespace : String := "default"
  endpoint : String
deriving Repr, DecidableEq

namespace AgentIdentity

/-- An id made from a name and a suffix that is drawn afresh for each agent. -/
def generateId (name suffix : String) : String :=
  name ++ "-" ++ suffix

/-- The identity that settings give.  The id is made from the name unless the
settings have one. -/
def ofSettings (s : Settings) (suffix : String) : AgentIdentity where
  agentId := s.agent.id.getD (generateId s.agent.name suffix)
  name := s.agent.name
  version := s.agent.version
  agentNamespace := s.agent.agentNamespace
  endpoint := s.announcedEndpoint

end AgentIdentity

/-- How an agent keeps in touch with the registry; times in milliseconds. -/
structure HeartbeatPolicy where
  interval : Nat := 5000
  /-- Failures in a row before a registered agent goes on alone. -/
  missedThreshold : Nat := 4
  /-- Never call the registry. -/
  standalone : Bool := false
  /-- How long a shutdown waits for what is under way. -/
  shutdownGrace : Nat := 2000
  deregisterOnShutdown : Bool := true
deriving Repr, DecidableEq

namespace HeartbeatPolicy

def ofSettings (s : HeartbeatSettings) : HeartbeatPolicy where
  interval := s.intervalSecs.toNat * 1000
  missedThreshold := s.missedThreshold.toNat
  standalone := s.standalone
  shutdownGrace := s.shutdownGraceMs.toNat
  deregisterOnShutdown := s.deregisterOnShutdown

end HeartbeatPolicy

end CapabilityMesh
