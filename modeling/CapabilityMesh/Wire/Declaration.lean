/-
What an agent tells the registry about itself and its tools.
-/
import CapabilityMesh.Json.Record
import CapabilityMesh.Tool.Basic
import CapabilityMesh.Wire.Timestamp

namespace CapabilityMesh

/-- A dependency as the registry is told of it. -/
structure DependencyDeclaration where
  capability : String
  tags : List String := []
  version : Option String := none
deriving Repr, DecidableEq

/-- A tool as the registry is told of it. -/
structure ToolDeclaration where
  function : String
  capability : String
  version : String
  tags : List String := []
  dependencies : List DependencyDeclaration := []
deriving Repr, DecidableEq

/-- An agent as the registry is told of it. -/
structure AgentMetadata where
  name : String
  version : String
  agentNamespace : String
  endpoint : String
  tools : List ToolDeclaration
deriving Repr, DecidableEq

/-- The body of a registration and of a full heartbeat. -/
structure RegistrationRequest where
  agentId : String
  timestamp : Timestamp
  metadata : AgentMetadata
deriving Repr, DecidableEq

def Dependency.declare (d : Dependency) : DependencyDeclaration :=
  { capability := d.capability, tags := d.tags, version := d.version }

def Tool.declare (t : Tool) : ToolDeclaration :=
  { function := t.function, capability := t.capability, version := t.version
    tags := t.tags, dependencies := t.dependencies.map Dependency.declare }

open Json

namespace DependencyDeclaration

/-- A dependency that is being read. -/
structure Draft where
  capability : Option String := none
  tags : Option (List String) := none
  version : Option (Option String) := none

def shape : Record Draft DependencyDeclaration where
  typeName := "DependencyDeclaration"
  fields := [
    .of "capability" true Draft.capability (fun d v => { d with capability := v }) readText,
    .of "tags" false Draft.tags (fun d v => { d with tags := v }) (readList readText),
    .of "version" false Draft.version (fun d v => { d with version := v })
      (readOptional readText)]
  blank := {}
  build d := do
    return ⟨← need "capability" d.capability, d.tags.getD [], d.version.getD none⟩

def write (d : DependencyDeclaration) : List Char :=
  writeObject ([("capability", writeString d.capability),
      ("tags", writeList writeString d.tags)]
    ++ optionalField "version" writeString d.version)

end DependencyDeclaration

namespace ToolDeclaration

/-- A tool that is being read. -/
structure Draft where
  function : Option String := none
  capability : Option String := none
  version : Option String := none
  tags : Option (List String) := none
  dependencies : Option (List DependencyDeclaration) := none

def shape : Record Draft ToolDeclaration where
  typeName := "ToolDeclaration"
  fields := [
    .of "function_name" true Draft.function (fun d v => { d with function := v }) readText,
    .of "capability" true Draft.capability (fun d v => { d with capability := v }) readText,
    .of "version" true Draft.version (fun d v => { d with version := v }) readText,
    .of "tags" false Draft.tags (fun d v => { d with tags := v }) (readList readText),
    .of "dependencies" false Draft.dependencies (fun d v => { d with dependencies := v })
      (readList DependencyDeclaration.shape.read)]
  blank := {}
  build d := do
    return ⟨← need "function_name" d.function, ← need "capability" d.capability,
      ← need "version" d.version, d.tags.getD [], d.dependencies.getD []⟩

def write (t : ToolDeclaration) : List Char :=
  writeObject [("function_name", writeString t.function),
    ("capability", writeString t.capability), ("version", writeString t.version),
    ("tags", writeList writeString t.tags),
    ("dependencies", writeList DependencyDeclaration.write t.dependencies)]

end ToolDeclaration

namespace AgentMetadata

/-- An agent that is being read. -/
structure Draft where
  name : Option String := none
  version : Option String := none
  agentNamespace : Option String := none
  endpoint : Option String := none
  tools : Option (List ToolDeclaration) := none

def shape : Record Draft AgentMetadata where
  typeName := "AgentMetadata"
  fields := [
    .of "name" true Draft.name (fun d v => { d with name := v }) readText,
    .of "version" true Draft.version (fun d v => { d with version := v }) readText,
    .of "namespace" true Draft.agentNamespace (fun d v => { d with agentNamespace := v })
      readText,
    .of "endpoint" true Draft.endpoint (fun d v => { d with endpoint := v }) readText,
    .of "tools" true Draft.tools (fun d v => { d with tools := v })
      (readList ToolDeclaration.shape.read)]
  blank := {}
  build d := do
    return ⟨← need "name" d.name, ← need "version" d.version,
      ← need "namespace" d.agentNamespace, ← need "endpoint" d.endpoint,
      ← need "tools" d.tools⟩

def write (m : AgentMetadata) : List Char :=
  writeObject [("name", writeString m.name), ("version", writeString m.version),
    ("namespace", writeString m.agentNamespace), ("endpoint", writeString m.endpoint),
    ("tools", writeList ToolDeclaration.write m.tools)]

def toJson (m : AgentMetadata) : String :=
  String.ofList m.write

end AgentMetadata

def Timestamp.read : Reader Timestamp
  | cs =>
      match readTextAs "an RFC 3339 formatted date and time string" cs with
      | .error fault => .error fault
      | .ok (text, rest) =>
          match Timestamp.parse text with
          | .ok t => .ok (t, rest)
          | .error fault => .error (.badTimestamp fault.message)

namespace RegistrationRequest

/-- A request that is being read. -/
structure Draft where
  agentId : Option String := none
  timestamp : Option Timestamp := none
  metadata : Option AgentMetadata := none

def shape : Record Draft RegistrationRequest where
  typeName := "RegistrationRequest"
  fields := [
    .of "agent_id" true Draft.agentId (fun d v => { d with agentId := v }) readText,
    .of "timestamp" true Draft.timestamp (fun d v => { d with timestamp := v })
      Timestamp.read,
    .of "metadata" true Draft.metadata (fun d v => { d with metadata := v })
      AgentMetadata.shape.read]
  blank := {}
  build d := do
    return ⟨← need "agent_id" d.agentId, ← need "timestamp" d.timestamp,
      ← need "metadata" d.metadata⟩

def write (r : RegistrationRequest) : List Char :=
  writeObject [("agent_id", writeString r.agentId),
    ("timestamp", writeString r.timestamp.render), ("metadata", r.metadata.write)]

def toJson (r : RegistrationRequest) : String :=
  String.ofList r.write

def ofJson (s : String) : Except Fault RegistrationRequest :=
  readWhole? shape.read s

end RegistrationRequest

end CapabilityMesh
