/-
Checks of settings as a whole, made after every layer has been applied.  All
problems are reported, not only the first.
-/
import CapabilityMesh.Config.Error
import CapabilityMesh.Config.Settings

namespace CapabilityMesh

/-- A problem of settings as a whole. -/
inductive SettingsFault where
  | missing (field : String)
  | badUrl (field value reason : String)
  | badValue (field reason : String)
deriving Repr, DecidableEq

namespace SettingsFault

/-- The wording of a problem. -/
def message : SettingsFault → String
  | missing field => "Missing required configuration: " ++ field
  | badUrl field value reason => s!"Invalid URL for {field} ('{value}'): {reason}"
  | badValue field reason => s!"Invalid configuration value for {field}: {reason}"

end SettingsFault

namespace Settings

/-- Problems of a field that has to hold a web address. -/
def urlFaults (field value : String) : List SettingsFault :=
  match Url.parse value with
  | .ok u =>
      if u.isWeb then []
      else [.badUrl field value s!"scheme must be http or https, got '{u.scheme}'"]
  | .error fault => [.badUrl field value fault.message]

/-- Problems of a field that may not be blank. -/
def blankFaults (field value : String) : List SettingsFault :=
  if Text.isBlankText value then [.missing field] else []

def zeroFaults (field : String) (value : Nat) : List SettingsFault :=
  if value = 0 then [.badValue field "must be greater than 0"] else []

/-- Problems of the agent's own id. -/
def idFaults (id : Option String) : List SettingsFault :=
  match id with
  | some id =>
      if Text.isBlankText id then [.badValue "agent.id" "must not be empty when set"]
      else []
  | none => []

def portFaults (port : UInt16) : List SettingsFault :=
  if port = 0 then [.badValue "agent.http_port" "must be between 1 and 65535"] else []

def levelNames : List String := ["trace", "debug", "info", "warn", "error"]

def levelFaults (level : String) : List SettingsFault :=
  if levelNames.contains (Text.lower level) then []
  else [.badValue "logging.level" ("must be one of: " ++ ", ".intercalate levelNames)]

/-- All problems of settings, in the order in which they are reported. -/
def faults (s : Settings) : List SettingsFault :=
  urlFaults "registry.url" s.registry.url
    ++ (match s.agent.endpoint with
        | some endpoint => urlFaults "agent.endpoint" endpoint
        | none => [])
    ++ blankFaults "agent.name" s.agent.name
    ++ blankFaults "agent.namespace" s.agent.agentNamespace
    ++ blankFaults "agent.version" s.agent.version
    ++ blankFaults "agent.http_host" s.agent.httpHost
    ++ idFaults s.agent.id
    ++ zeroFaults "heartbeat.interval_secs" s.heartbeat.intervalSecs.toNat
    ++ zeroFaults "heartbeat.missed_threshold" s.heartbeat.missedThreshold.toNat
    ++ zeroFaults "registry.request_timeout_ms" s.registry.requestTimeoutMs.toNat
    ++ zeroFaults "registry.probe_timeout_ms" s.registry.probeTimeoutMs.toNat
    ++ portFaults s.agent.httpPort
    ++ levelFaults s.logging.level

end Settings

namespace Settings

def check (s : Settings) : Except ConfigError Unit :=
  match s.faults with
  | [] => .ok ()
  | problems =>
      .error (.invalidSettings ("Configuration validation failed:\n"
        ++ "\n".intercalate (problems.map fun p => "  - " ++ p.message)))

end Settings

end CapabilityMesh
