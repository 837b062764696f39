/-
The settings of an agent, one field for each key, and the keys' view of them.
-/
import CapabilityMesh.Config.Key

namespace CapabilityMesh

/-- How the registry is reached. -/
structure RegistrySettings where
  url : String := "http://localhost:8000"
  /-- The time that registrations and full heartbeats may take. -/
  requestTimeoutMs : UInt64 := 30000
  /-- The time that a probe may take. -/
  probeTimeoutMs : UInt64 := 5000
deriving Repr, DecidableEq

/-- Who the agent says it is. -/
structure AgentSettings where
  name : String := "mesh-agent"
  /-- The agent's id; made from its name when absent. -/
  id : Option String := none
  agentNamespace : String := "default"
  version : String := "1.0.0"
  httpHost : String := "localhost"
  httpPort : UInt16 := 8080
  endpoint : Option String := none
deriving Repr, DecidableEq

/-- How the heartbeat behaves. -/
structure HeartbeatSettings where
  intervalSecs : UInt64 := 5
  /-- Failures in a row before a registered agent works on its own. -/
  missedThreshold : UInt32 := 4
  /-- Never call the registry. -/
  standalone : Bool := false
  shutdownGraceMs : UInt64 := 2000
  deregisterOnShutdown : Bool := true
deriving Repr, DecidableEq

/-- What is logged, and in which form. -/
structure LogSettings where
  level : String := "info"
  json : Bool := false
deriving Repr, DecidableEq

/-- All settings of an agent. -/
structure Settings where
  registry : RegistrySettings := {}
  agent : AgentSettings := {}
  heartbeat : HeartbeatSettings := {}
  logging : LogSettings := {}
deriving Repr, DecidableEq

namespace Text

/-- Read a number that a 64-bit field can hold. -/
def readUInt64? (s : String) : Option UInt64 :=
  (readNumber UInt64.size s).toOption.map Nat.toUInt64

/-- Read a number that a 32-bit field can hold. -/
def readUInt32? (s : String) : Option UInt32 :=
  (readNumber UInt32.size s).toOption.map Nat.toUInt32

/-- Read a number that a 16-bit field can hold. -/
def readUInt16? (s : String) : Option UInt16 :=
  (readNumber UInt16.size s).toOption.map Nat.toUInt16

end Text

namespace Settings

/-- The endpoint that the agent announces: its own if it has one, else the host
and port it listens on. -/
def announcedEndpoint (s : Settings) : String :=
  match s.agent.endpoint with
  | some endpoint =>
      if endpoint.isEmpty then listening else endpoint
  | none => listening
where
  /-- The place where the agent listens. -/
  listening : String :=
    "http://" ++ s.agent.httpHost ++ ":" ++ toString s.agent.httpPort.toNat

def get? (s : Settings) : ConfigKey → Option String
  | .registryUrl => some s.registry.url
  | .requestTimeoutMs => some (toString s.registry.requestTimeoutMs.toNat)
  | .probeTimeoutMs => some (toString s.registry.probeTimeoutMs.toNat)
  | .agentName => some s.agent.name
  | .agentId => s.agent.id
  | .agentNamespace => some s.agent.agentNamespace
  | .agentVersion => some s.agent.version
  | .httpHost => some s.agent.httpHost
  | .httpPort => some (toString s.agent.httpPort.toNat)
  | .endpoint => s.agent.endpoint
  | .healthInterval => some (toString s.heartbeat.intervalSecs.toNat)
  | .missedThreshold => some (toString s.heartbeat.missedThreshold.toNat)
  | .standalone => some (toString s.heartbeat.standalone)
  | .shutdownGraceMs => some (toString s.heartbeat.shutdownGraceMs.toNat)
  | .deregisterOnShutdown => some (toString s.heartbeat.deregisterOnShutdown)
  | .logLevel => some s.logging.level
  | .logJson => some (toString s.logging.json)

/-- Store the typed reading of a text in a key's field.  A text that the field
cannot hold leaves it as it is. -/
def set (s : Settings) (key : ConfigKey) (text : String) : Settings :=
  match key with
  | .registryUrl => { s with registry.url := text }
  | .requestTimeoutMs =>
      match Text.readUInt64? text with
      | some n => { s with registry.requestTimeoutMs := n }
      | none => s
  | .probeTimeoutMs =>
      match Text.readUInt64? text with
      | some n => { s with registry.probeTimeoutMs := n }
      | none => s
  | .agentName => { s with agent.name := text }
  | .agentId => { s with agent.id := some text }
  | .agentNamespace => { s with agent.agentNamespace := text }
  | .agentVersion => { s with agent.version := text }
  | .httpHost => { s with agent.httpHost := text }
  | .httpPort =>
      match Text.readUInt16? text with
      | some n => { s with agent.httpPort := n }
      | none => s
  | .endpoint => { s with agent.endpoint := some text }
  | .healthInterval =>
      match Text.readUInt64? text with
      | some n => { s with heartbeat.intervalSecs := n }
      | none => s
  | .missedThreshold =>
      match Text.readUInt32? text with
      | some n => { s with heartbeat.missedThreshold := n }
      | none => s
  | .standalone =>
      match readBool? text with
      | some b => { s with heartbeat.standalone := b }
      | none => s
  | .shutdownGraceMs =>
      match Text.readUInt64? text with
      | some n => { s with heartbeat.shutdownGraceMs := n }
      | none => s
  | .deregisterOnShutdown =>
      match readBool? text with
      | some b => { s with heartbeat.deregisterOnShutdown := b }
      | none => s
  | .logLevel => { s with logging.level := text }
  | .logJson =>
      match readBool? text with
      | some b => { s with logging.json := b }
      | none => s

end Settings

end CapabilityMesh
