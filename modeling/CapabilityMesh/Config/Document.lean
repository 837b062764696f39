/-
Settings as a TOML document writes them.  Whatever it leaves out keeps its
built-in value, and what no setting is named for is passed over.
-/
import CapabilityMesh.Config.Settings
import CapabilityMesh.Toml.Document

namespace CapabilityMesh

namespace Toml

namespace Item

/-- The fields of a section.  A table gives them by name, an array by position,
and a date or a time gives none. -/
def fields? (names : List String) : Item → Option Entries
  | inline entries => some entries
  | table _ entries => some entries
  | array items => some (names.zip items)
  | tables rows => some (names.zip (rows.map inline))
  | moment => some []
  | _ => none

def text? : Item → Option String
  | text value => some value
  | _ => none

/-- A field that holds yes or no. -/
def boolean? : Item → Option Bool
  | boolean value => some value
  | _ => none

def number? (bound : Nat) : Item → Option Nat
  | integer value => if 0 ≤ value ∧ value < bound then some value.toNat else none
  | _ => none

end Item

namespace Entries

/-- A field, or the given value where there is none.  A field that does not read
as it should makes the document unfit. -/
def read? {α : Type} (entries : Entries) (name : String) (read : Item → Option α)
    (fallback : α) : Option α :=
  match entries.get? name with
  | some item => read item
  | none => some fallback

def text? (entries : Entries) (name fallback : String) : Option String :=
  entries.read? name Item.text? fallback

/-- A field that holds text or is left out. -/
def textOrNone? (entries : Entries) (name : String) : Option (Option String) :=
  entries.read? name (fun item => item.text?.map some) none

/-- A field that holds yes or no. -/
def boolean? (entries : Entries) (name : String) (fallback : Bool) : Option Bool :=
  entries.read? name Item.boolean? fallback

/-- A field that holds a number of 64 bits. -/
def word? (entries : Entries) (name : String) (fallback : UInt64) : Option UInt64 :=
  entries.read? name (fun item => (item.number? UInt64.size).map Nat.toUInt64) fallback

end Entries

end Toml

namespace RegistrySettings

/-- The names of the section's fields, in their order. -/
def fieldNames : List String := ["url", "request_timeout_ms", "probe_timeout_ms"]

/-- Read the section. -/
def ofItem? (item : Toml.Item) : Option RegistrySettings := do
  let fields ← item.fields? fieldNames
  let builtin : RegistrySettings := {}
  let url ← fields.text? "url" builtin.url
  let requestTimeoutMs ← fields.word? "request_timeout_ms" builtin.requestTimeoutMs
  let probeTimeoutMs ← fields.word? "probe_timeout_ms" builtin.probeTimeoutMs
  some ⟨url, requestTimeoutMs, probeTimeoutMs⟩

end RegistrySettings

namespace AgentSettings

/-- The names of the section's fields, in their order. -/
def fieldNames : List String :=
  ["name", "id", "namespace", "version", "http_host", "http_port", "endpoint"]

/-- Read the section. -/
def ofItem? (item : Toml.Item) : Option AgentSettings := do
  let fields ← item.fields? fieldNames
  let builtin : AgentSettings := {}
  let name ← fields.text? "name" builtin.name
  let id ← fields.textOrNone? "id"
  let agentNamespace ← fields.text? "namespace" builtin.agentNamespace
  let version ← fields.text? "version" builtin.version
  let httpHost ← fields.text? "http_host" builtin.httpHost
  let httpPort ← fields.read? "http_port"
    (fun item => (item.number? UInt16.size).map Nat.toUInt16) builtin.httpPort
  let endpoint ← fields.textOrNone? "endpoint"
  some ⟨name, id, agentNamespace, version, httpHost, httpPort, endpoint⟩

end AgentSettings

namespace HeartbeatSettings

/-- The names of the section's fields, in their order. -/
def fieldNames : List String :=
  ["interval_secs", "missed_threshold", "standalone", "shutdown_grace_ms",
    "deregister_on_shutdown"]

/-- Read the section. -/
def ofItem? (item : Toml.Item) : Option HeartbeatSettings := do
  let fields ← item.fields? fieldNames
  let builtin : HeartbeatSettings := {}
  let intervalSecs ← fields.word? "interval_secs" builtin.intervalSecs
  let missedThreshold ← fields.read? "missed_threshold"
    (fun item => (item.number? UInt32.size).map Nat.toUInt32) builtin.missedThreshold
  let standalone ← fields.boolean? "standalone" builtin.standalone
  let shutdownGraceMs ← fields.word? "shutdown_grace_ms" builtin.shutdownGraceMs
  let deregisterOnShutdown ←
    fields.boolean? "deregister_on_shutdown" builtin.deregisterOnShutdown
  some ⟨intervalSecs, missedThreshold, standalone, shutdownGraceMs, deregisterOnShutdown⟩

end HeartbeatSettings

namespace LogSettings

/-- The names of the section's fields, in their order. -/
def fieldNames : List String := ["level", "json"]

/-- Read the section. -/
def ofItem? (item : Toml.Item) : Option LogSettings := do
  let fields ← item.fields? fieldNames
  let builtin : LogSettings := {}
  let level ← fields.text? "level" builtin.level
  let json ← fields.boolean? "json" builtin.json
  some ⟨level, json⟩

end LogSettings

namespace Settings

def ofEntries? (entries : Toml.Entries) : Option Settings := do
  let registry ← entries.read? "registry" RegistrySettings.ofItem? {}
  let agent ← entries.read? "agent" AgentSettings.ofItem? {}
  let heartbeat ← entries.read? "heartbeat" HeartbeatSettings.ofItem? {}
  let logging ← entries.read? "logging" LogSettings.ofItem? {}
  some ⟨registry, agent, heartbeat, logging⟩

def ofToml? (text : String) : Option Settings :=
  (Toml.parse text).bind ofEntries?

end Settings

end CapabilityMesh
