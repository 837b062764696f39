/-
Tools: functions that an agent offers to the mesh, and the capabilities that
they need from it.
-/
import CapabilityMesh.Tool.Tags

namespace CapabilityMesh

/-- A capability that a function needs. -/
structure Dependency where
  capability : String
  /-- A bound on the provider's version, such as `>=1.2`. -/
  version : Option String := none
  tags : Tags := []
  /-- The parameter that receives the capability. -/
  parameter : String
  /-- Whether its absence is expected. -/
  isOptional : Bool := false
deriving Repr, DecidableEq

namespace Dependency

/-- A required dependency whose parameter has the capability's name. -/
def on (capability : String) : Dependency :=
  { capability := capability, parameter := capability }

/-- Bound the provider's version. -/
def withVersion (d : Dependency) (version : String) : Dependency :=
  { d with version := some version }

/-- Ask for a label. -/
def withTag (d : Dependency) (tag : String) : Dependency :=
  { d with tags := d.tags.insert tag }

/-- Ask for several labels. -/
def withTags (d : Dependency) (tags : List String) : Dependency :=
  { d with tags := d.tags.insertAll tags }

def forParameter (d : Dependency) (parameter : String) : Dependency :=
  { d with parameter := parameter }

/-- Expect that the capability may be absent. -/
def optional (d : Dependency) : Dependency :=
  { d with isOptional := true }

end Dependency

/-- A function with the capability that it provides and those that it needs. -/
structure Tool where
  function : String
  capability : String
  version : String := "1.0.0"
  tags : Tags := []
  /-- What the function needs, in the order of declaration. -/
  dependencies : List Dependency := []
deriving Repr, DecidableEq

namespace Tool

def named (function : String) : Tool :=
  { function := function, capability := function }

def provides (t : Tool) (capability : String) : Tool :=
  { t with capability := capability }

def withVersion (t : Tool) (version : String) : Tool :=
  { t with version := version }

/-- Add a label. -/
def withTag (t : Tool) (tag : String) : Tool :=
  { t with tags := t.tags.insert tag }

/-- Add a dependency behind those declared before. -/
def dependsOn (t : Tool) (d : Dependency) : Tool :=
  { t with dependencies := t.dependencies ++ [d] }

end Tool

end CapabilityMesh
