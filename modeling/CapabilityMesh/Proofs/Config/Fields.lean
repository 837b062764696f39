/-
Settings as a table of fields, one for each key.  To store text for a key changes the
field of that key alone, and what the lower layers offer for a key depends on the field of
that key alone.
-/
import CapabilityMesh.Config.Layer
import CapabilityMesh.Proofs.Text.Number

namespace CapabilityMesh

/-- What a field of settings holds. -/
inductive FieldValue where
  | text (content : String)
  | word64 (n : UInt64)
  | word32 (n : UInt32)
  | word16 (n : UInt16)
  | truth (b : Bool)
deriving Repr, DecidableEq

namespace FieldValue

def shown : FieldValue → String
  | text content => content
  | word64 n => toString n.toNat
  | word32 n => toString n.toNat
  | word16 n => toString n.toNat
  | truth b => toString b

end FieldValue

namespace ConfigKey

/-- The value that a key's field can hold of a text. -/
def reading? (key : ConfigKey) (text : String) : Option FieldValue :=
  match key with
  | registryUrl | agentName | agentId | agentNamespace | agentVersion | httpHost | endpoint
  | logLevel => some (.text text)
  | requestTimeoutMs | probeTimeoutMs | healthInterval | shutdownGraceMs =>
      (Text.readUInt64? text).map .word64
  | missedThreshold => (Text.readUInt32? text).map .word32
  | httpPort => (Text.readUInt16? text).map .word16
  | standalone | deregisterOnShutdown | logJson => (readBool? text).map .truth

end ConfigKey

namespace Settings

/-- The value of a key's field; two fields may be empty. -/
def field? (s : Settings) : ConfigKey → Option FieldValue
  | .registryUrl => some (.text s.registry.url)
  | .requestTimeoutMs => some (.word64 s.registry.requestTimeoutMs)
  | .probeTimeoutMs => some (.word64 s.registry.probeTimeoutMs)
  | .agentName => some (.text s.agent.name)
  | .agentId => s.agent.id.map .text
  | .agentNamespace => some (.text s.agent.agentNamespace)
  | .agentVersion => some (.text s.agent.version)
  | .httpHost => some (.text s.agent.httpHost)
  | .httpPort => some (.word16 s.agent.httpPort)
  | .endpoint => s.agent.endpoint.map .text
  | .healthInterval => some (.word64 s.heartbeat.intervalSecs)
  | .missedThreshold => some (.word32 s.heartbeat.missedThreshold)
  | .standalone => some (.truth s.heartbeat.standalone)
  | .shutdownGraceMs => some (.word64 s.heartbeat.shutdownGraceMs)
  | .deregisterOnShutdown => some (.truth s.heartbeat.deregisterOnShutdown)
  | .logLevel => some (.text s.logging.level)
  | .logJson => some (.truth s.logging.json)

theorem get?_eq (s : Settings) (key : ConfigKey) :
    s.get? key = (s.field? key).map FieldValue.shown := by
  cases key with
  | agentId =>
      rw [get?, field?]
      cases s.agent.id <;> rfl
  | endpoint =>
      rw [get?, field?]
      cases s.agent.endpoint <;> rfl
  | _ => rfl

/-- The field of a key holds what can be read from the text stored for it, and its old
value where nothing can be. -/
theorem field?_set_self (s : Settings) (key : ConfigKey) (text : String) :
    (s.set key text).field? key = (key.reading? text).or (s.field? key) := by
  cases key with
  | requestTimeoutMs | probeTimeoutMs | healthInterval | shutdownGraceMs =>
      rw [set, ConfigKey.reading?]
      cases Text.readUInt64? text <;> rfl
  | missedThreshold =>
      rw [set, ConfigKey.reading?]
      cases Text.readUInt32? text <;> rfl
  | httpPort =>
      rw [set, ConfigKey.reading?]
      cases Text.readUInt16? text <;> rfl
  | standalone | deregisterOnShutdown | logJson =>
      rw [set, ConfigKey.reading?]
      cases readBool? text <;> rfl
  | _ => rfl

theorem field?_set_of_ne (s : Settings) {key other : ConfigKey} (hne : other ≠ key)
    (text : String) : (s.set key text).field? other = s.field? other := by
  cases key with
  | requestTimeoutMs | probeTimeoutMs | healthInterval | shutdownGraceMs =>
      rw [set]
      cases Text.readUInt64? text with
      | none => rfl
      | some n => cases other <;> first | rfl | exact absurd rfl hne
  | missedThreshold =>
      rw [set]
      cases Text.readUInt32? text with
      | none => rfl
      | some n => cases other <;> first | rfl | exact absurd rfl hne
  | httpPort =>
      rw [set]
      cases Text.readUInt16? text with
      | none => rfl
      | some n => cases other <;> first | rfl | exact absurd rfl hne
  | standalone | deregisterOnShutdown | logJson =>
      rw [set]
      cases readBool? text with
      | none => rfl
      | some b => cases other <;> first | rfl | exact absurd rfl hne
  | _ => cases other <;> first | rfl | exact absurd rfl hne

end Settings

end CapabilityMesh
