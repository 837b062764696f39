/-
Setting keys: their names, where their values may come from, and which texts
they accept.
-/
import CapabilityMesh.Text.Blank
import CapabilityMesh.Text.Case
import CapabilityMesh.Text.Number
import CapabilityMesh.Url.Reader

namespace CapabilityMesh

/-- The settings that the environment and override maps can give. -/
inductive ConfigKey where
  | registryUrl
  | requestTimeoutMs
  | probeTimeoutMs
  | agentName
  | agentId
  | agentNamespace
  | agentVersion
  | httpHost
  | httpPort
  | endpoint
  | healthInterval
  | missedThreshold
  | standalone
  | shutdownGraceMs
  | deregisterOnShutdown
  | logLevel
  | logJson
deriving Repr, DecidableEq

/-- The shape of the values that a key accepts. -/
inductive ValueKind where
  | text
  | url
  | port
  | positive
  | boolean
deriving Repr, DecidableEq

/-- Why a key refuses a text. -/
inductive Refusal where
  | empty
  | unsupportedScheme (scheme : String)
  | noUrl (fault : UrlFault)
  | noPort (fault : NumberFault)
  | zero
  | noNumber (fault : NumberFault)
  | noBoolean (text : String)
deriving Repr, DecidableEq

namespace Refusal

def message : Refusal → String
  | empty => "empty value"
  | unsupportedScheme scheme => s!"unsupported scheme '{scheme}'"
  | noUrl fault => "not a URL: " ++ fault.message
  | noPort fault => "not a port: " ++ fault.message
  | zero => "must be greater than zero"
  | noNumber fault => "not an unsigned integer: " ++ fault.message
  | noBoolean text => s!"not a boolean: '{text}'"

end Refusal

def readBool? (raw : String) : Option Bool :=
  match Text.lower (Text.trim raw) with
  | "true" | "1" | "yes" | "on" => some true
  | "false" | "0" | "no" | "off" => some false
  | _ => none

namespace ConfigKey

/-- Every key, in the order in which settings are resolved. -/
def all : List ConfigKey :=
  [registryUrl, requestTimeoutMs, probeTimeoutMs, agentName, agentId,
    agentNamespace, agentVersion, httpHost, httpPort, endpoint, healthInterval,
    missedThreshold, standalone, shutdownGraceMs, deregisterOnShutdown,
    logLevel, logJson]

/-- The environment variable consulted for a key. -/
def envVar : ConfigKey → String
  | registryUrl => "MESH_REGISTRY_URL"
  | requestTimeoutMs => "MESH_REQUEST_TIMEOUT_MS"
  | probeTimeoutMs => "MESH_PROBE_TIMEOUT_MS"
  | agentName => "MESH_AGENT_NAME"
  | agentId => "MESH_AGENT_ID"
  | agentNamespace => "MESH_NAMESPACE"
  | agentVersion => "MESH_AGENT_VERSION"
  | httpHost => "MESH_HTTP_HOST"
  | httpPort => "MESH_HTTP_PORT"
  | endpoint => "MESH_ENDPOINT"
  | healthInterval => "MESH_HEALTH_INTERVAL"
  | missedThreshold => "MESH_MISSED_THRESHOLD"
  | standalone => "MESH_STANDALONE"
  | shutdownGraceMs => "MESH_SHUTDOWN_GRACE_MS"
  | deregisterOnShutdown => "MESH_DEREGISTER_ON_SHUTDOWN"
  | logLevel => "MESH_LOG_LEVEL"
  | logJson => "MESH_LOG_JSON"

def name : ConfigKey → String
  | registryUrl => "registry_url"
  | requestTimeoutMs => "request_timeout_ms"
  | probeTimeoutMs => "probe_timeout_ms"
  | agentName => "agent_name"
  | agentId => "agent_id"
  | agentNamespace => "namespace"
  | agentVersion => "agent_version"
  | httpHost => "http_host"
  | httpPort => "http_port"
  | endpoint => "endpoint"
  | healthInterval => "health_interval"
  | missedThreshold => "missed_threshold"
  | standalone => "standalone"
  | shutdownGraceMs => "shutdown_grace_ms"
  | deregisterOnShutdown => "deregister_on_shutdown"
  | logLevel => "log_level"
  | logJson => "log_json"

/-- The key that a name stands for, whatever the case of its letters. -/
def ofName? (name : String) : Option ConfigKey :=
  all.find? fun key => key.name == Text.lower name

/-- The built-in value of a key; two keys have none. -/
def builtin? : ConfigKey → Option String
  | registryUrl => some "http://localhost:8000"
  | requestTimeoutMs => some "30000"
  | probeTimeoutMs => some "5000"
  | agentName => some "mesh-agent"
  | agentId => none
  | agentNamespace => some "default"
  | agentVersion => some "1.0.0"
  | httpHost => some "localhost"
  | httpPort => some "8080"
  | endpoint => none
  | healthInterval => some "5"
  | missedThreshold => some "4"
  | standalone => some "false"
  | shutdownGraceMs => some "2000"
  | deregisterOnShutdown => some "true"
  | logLevel => some "info"
  | logJson => some "false"

def kind : ConfigKey → ValueKind
  | registryUrl | endpoint => .url
  | httpPort => .port
  | requestTimeoutMs | probeTimeoutMs | healthInterval | missedThreshold
  | shutdownGraceMs => .positive
  | standalone | deregisterOnShutdown | logJson => .boolean
  | agentName | agentId | agentNamespace | agentVersion | httpHost | logLevel => .text

/-- Whether a key's values may hold credentials, so that logs show them
redacted. -/
def isSensitive (key : ConfigKey) : Bool :=
  key.kind == .url

end ConfigKey

namespace ValueKind

/-- Check a trimmed text that is not empty. -/
def check (kind : ValueKind) (text : String) : Except Refusal Unit :=
  match kind with
  | .text => .ok ()
  | .url =>
      match Url.parse text with
      | .ok u => if u.isWeb then .ok () else .error (.unsupportedScheme u.scheme)
      | .error fault => .error (.noUrl fault)
  | .port =>
      match Text.readNumber UInt16.size text with
      | .ok _ => .ok ()
      | .error fault => .error (.noPort fault)
  | .positive =>
      match Text.readNumber UInt64.size text with
      | .ok 0 => .error .zero
      | .ok _ => .ok ()
      | .error fault => .error (.noNumber fault)
  | .boolean =>
      match readBool? text with
      | some _ => .ok ()
      | none => .error (.noBoolean text)

end ValueKind

namespace ConfigKey

/-- Check that a key accepts a text; outer blanks do not count. -/
def check (key : ConfigKey) (raw : String) : Except Refusal Unit :=
  let text := Text.trim raw
  if text.isEmpty then .error .empty else key.kind.check text

end ConfigKey

namespace Url

/-- A URL with its credentials and its path hidden.  Scheme, host, port, query
and fragment stay. -/
def redact (u : Url) : Url :=
  let u :=
    if u.username.isEmpty && u.password.isEmpty then u
    else { u with username := "***", password := "***" }
  match u.path with
  | .opaqueText "" => u
  | .opaqueText _ => { u with path := .opaqueText "%2F***" }
  | .segments [] => u
  | .segments [""] => u
  | .segments ("" :: _ :: _) =>
      { u with path := .segments (if u.host.isNone then [".", "***"] else ["***"]) }
  | .segments _ => { u with path := .segments ["***"] }

end Url

/-- A value as logs may show it. -/
def ConfigKey.redact (key : ConfigKey) (value : String) : String :=
  if key.isSensitive then
    match Url.parse value with
    | .ok u => u.redact.render
    | .error _ => "[REDACTED]"
  else value

end CapabilityMesh
