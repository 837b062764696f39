/-
Reasons why settings cannot be had.
-/

namespace CapabilityMesh

/-- Why settings cannot be had. -/
inductive ConfigError where
  | fileNotFound (reason : String)
  | unreadable (reason : String)
  | badToml (reason : String)
  | invalidSettings (problems : String)
  | invalidValue (key reason : String)
deriving Repr, DecidableEq

namespace ConfigError

def message : ConfigError → String
  | fileNotFound reason => "Config file not found: " ++ reason
  | unreadable reason => "Failed to read config file: " ++ reason
  | badToml reason => "Invalid TOML syntax: " ++ reason
  | invalidSettings problems => "Validation failed: " ++ problems
  | invalidValue key reason => s!"Invalid configuration value for {key}: {reason}"

end ConfigError

end CapabilityMesh
