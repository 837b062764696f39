/-
Layers of settings.  For each key the first valid value wins among the
environment, the override map, the value that the settings already hold, and
the built-in value.  A value that is not valid is skipped with a warning.
-/
import CapabilityMesh.Config.Settings
import CapabilityMesh.Log.Entry

namespace CapabilityMesh

/-- The environment variables of a process. -/
abbrev Environment := String → Option String

/-- Settings that the program gives by name, each name once. -/
abbrev Overrides := List (String × String)

/-- The layer that a value came from. -/
inductive ValueSource where
  | environment
  | programmatic
  | fallback
deriving Repr, DecidableEq

namespace ValueSource

/-- The layer as log lines name it. -/
def label : ValueSource → String
  | environment => "Environment"
  | programmatic => "Programmatic"
  | fallback => "Default"

end ValueSource

/-- A value that a layer may offer for a key. -/
structure Candidate where
  source : ValueSource
  value : Option String
deriving Repr, DecidableEq

namespace ConfigKey

/-- The first valid candidate, trimmed, and the lines logged on the way. -/
def firstValid (key : ConfigKey) : List Candidate → Option String × Log
  | [] => (none, [])
  | ⟨_, none⟩ :: rest => key.firstValid rest
  | ⟨source, some value⟩ :: rest =>
      match key.check value with
      | .ok _ =>
          (some (Text.trim value),
            [.debug s!"[CONFIG] '{key.name}' resolved from {source.label}: {key.redact value}"])
      | .error refusal =>
          let (result, log) := key.firstValid rest
          (result,
            .warn (s!"[CONFIG] Ignoring invalid {source.label} value for '{key.name}' "
              ++ s!"({refusal.message}), falling back") :: log)

/-- The value of one key alone: environment, then a given value, then the
built-in one. -/
def resolve (key : ConfigKey) (env : Environment) (given : Option String) :
    Option String × Log :=
  key.firstValid
    [⟨.environment, env key.envVar⟩, ⟨.programmatic, given⟩, ⟨.fallback, key.builtin?⟩]

end ConfigKey

namespace Overrides

def get? (overrides : Overrides) (name : String) : Option String :=
  List.lookup name overrides

/-- The lines about names that no key has. -/
def unknownNames (overrides : Overrides) : Log :=
  (overrides.filter fun entry => (ConfigKey.ofName? entry.1).isNone).map fun entry =>
    .debug s!"[CONFIG] Ignoring unknown override '{entry.1}'"

end Overrides

namespace Settings

/-- What the layers offer for a key, highest first. -/
def candidates (s : Settings) (env : Environment) (overrides : Overrides)
    (key : ConfigKey) : List Candidate :=
  [⟨.environment, env key.envVar⟩, ⟨.programmatic, overrides.get? key.name⟩,
    ⟨.fallback, s.get? key⟩, ⟨.fallback, key.builtin?⟩]

def resolveKey (env : Environment) (overrides : Overrides)
    (s : Settings) (key : ConfigKey) : Settings × Log :=
  match key.firstValid (s.candidates env overrides key) with
  | (some text, log) => (s.set key text, log)
  | (none, log) => (s, log)

def resolveKeys (env : Environment) (overrides : Overrides) :
    List ConfigKey → Settings → Settings × Log
  | [], s => (s, [])
  | key :: keys, s =>
      let (s, log) := s.resolveKey env overrides key
      let (s, more) := resolveKeys env overrides keys s
      (s, log ++ more)

def applyOverrides (s : Settings) (env : Environment) (overrides : Overrides) :
    Settings × Log :=
  let (s, log) := resolveKeys env overrides ConfigKey.all s
  (s, overrides.unknownNames ++ log)

end Settings

end CapabilityMesh
