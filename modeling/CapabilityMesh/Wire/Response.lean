/-
What the registry answers to a registration and to a full heartbeat.
-/
import CapabilityMesh.Json.Record
import CapabilityMesh.Registry.Failure
import CapabilityMesh.Registry.Provider

namespace CapabilityMesh

/-- Whether the registry found a provider. -/
inductive Resolution where
  | resolved
  | unresolved
deriving Repr, DecidableEq

/-- Where a resolved capability is served. -/
structure ProviderInfo where
  agentId : String
  endpoint : String
  function : String
deriving Repr, DecidableEq

/-- The registry's answer for one dependency. -/
structure ResolvedDependency where
  capability : String
  status : Resolution
  provider : Option ProviderInfo := none
deriving Repr, DecidableEq

/-- The registry's answer for one function. -/
structure FunctionResolution where
  function : String
  capability : Option String := none
  dependencies : List ResolvedDependency := []
deriving Repr, DecidableEq

/-- The registry's answer. -/
structure RegistrationResponse where
  status : String
  message : Option String := none
  functions : List FunctionResolution := []
deriving Repr, DecidableEq

open Json

namespace Resolution

def name : Resolution → String
  | resolved => "resolved"
  | unresolved => "unresolved"

def ofName (name : String) : Except Fault Resolution :=
  match name with
  | "resolved" => .ok resolved
  | "unresolved" => .ok unresolved
  | _ => .error (.unknownVariant name "\x60resolved\x60 or \x60unresolved\x60")

/-- Read a resolution: its name, or an object with null under its name. -/
def read : Reader Resolution
  | cs =>
      match skipSpace cs with
      | [] => .error .endInValue
      | '"' :: rest => do
          let (name, rest) ← readStringTail rest
          return (← ofName name, rest)
      | '\x7b' :: rest => do
          let (name, rest) ← readTextAs "variant identifier" rest
          let value ← ofName name
          let rest ← readColon rest
          match skipSpace rest with
          | 'n' :: rest =>
              let rest ← readIdent ['u', 'l', 'l'] rest
              match skipSpace rest with
              | '\x7d' :: rest => .ok (value, rest)
              | [] => .error .endInObject
              | _ => .error .expectedValue
          | rest => .error (wrongTypeAt "unit" rest)
      | _ => .error .expectedValue

end Resolution

namespace ProviderInfo

/-- A provider that is being read. -/
structure Draft where
  agentId : Option String := none
  endpoint : Option String := none
  function : Option String := none

def shape : Record Draft ProviderInfo where
  typeName := "ToolInfo"
  fields := [
    .of "agent_id" true Draft.agentId (fun d v => { d with agentId := v }) readText,
    .of "endpoint" true Draft.endpoint (fun d v => { d with endpoint := v }) readText,
    .of "function_name" true Draft.function (fun d v => { d with function := v }) readText]
  blank := {}
  build d := do
    return ⟨← need "agent_id" d.agentId, ← need "endpoint" d.endpoint,
      ← need "function_name" d.function⟩

def write (p : ProviderInfo) : List Char :=
  writeObject [("agent_id", writeString p.agentId), ("endpoint", writeString p.endpoint),
    ("function_name", writeString p.function)]

end ProviderInfo

namespace ResolvedDependency

/-- An answer for a dependency that is being read. -/
structure Draft where
  capability : Option String := none
  status : Option Resolution := none
  provider : Option (Option ProviderInfo) := none

def shape : Record Draft ResolvedDependency where
  typeName := "ResolvedDependency"
  fields := [
    .of "capability" true Draft.capability (fun d v => { d with capability := v }) readText,
    .of "status" true Draft.status (fun d v => { d with status := v }) Resolution.read,
    .of "mcp_tool_info" false Draft.provider (fun d v => { d with provider := v })
      (readOptional ProviderInfo.shape.read)]
  blank := {}
  build d := do
    return ⟨← need "capability" d.capability, ← need "status" d.status,
      d.provider.getD none⟩

def write (d : ResolvedDependency) : List Char :=
  writeObject ([("capability", writeString d.capability),
      ("status", writeString d.status.name)]
    ++ optionalField "mcp_tool_info" ProviderInfo.write d.provider)

end ResolvedDependency

namespace FunctionResolution

/-- An answer for a function that is being read. -/
structure Draft where
  function : Option String := none
  capability : Option (Option String) := none
  dependencies : Option (List ResolvedDependency) := none

def shape : Record Draft FunctionResolution where
  typeName := "FunctionResolution"
  fields := [
    .of "function_name" true Draft.function (fun d v => { d with function := v }) readText,
    .of "capability" false Draft.capability (fun d v => { d with capability := v })
      (readOptional readText),
    .of "dependencies" false Draft.dependencies (fun d v => { d with dependencies := v })
      (readList ResolvedDependency.shape.read)]
  blank := {}
  build d := do
    return ⟨← need "function_name" d.function, d.capability.getD none,
      d.dependencies.getD []⟩

def write (f : FunctionResolution) : List Char :=
  writeObject ([("function_name", writeString f.function)]
    ++ optionalField "capability" writeString f.capability
    ++ [("dependencies", writeList ResolvedDependency.write f.dependencies)])

end FunctionResolution

namespace RegistrationResponse

/-- An answer that is being read. -/
structure Draft where
  status : Option String := none
  message : Option (Option String) := none
  functions : Option (List FunctionResolution) := none

def shape : Record Draft RegistrationResponse where
  typeName := "RegistrationResponse"
  fields := [
    .of "status" true Draft.status (fun d v => { d with status := v }) readText,
    .of "message" false Draft.message (fun d v => { d with message := v })
      (readOptional readText),
    .of "dependencies_resolved" false Draft.functions (fun d v => { d with functions := v })
      (readList FunctionResolution.shape.read)]
  blank := {}
  build d := do
    return ⟨← need "status" d.status, d.message.getD none, d.functions.getD []⟩

def write (r : RegistrationResponse) : List Char :=
  writeObject ([("status", writeString r.status)]
    ++ optionalField "message" writeString r.message
    ++ [("dependencies_resolved", writeList FunctionResolution.write r.functions)])

def toJson (r : RegistrationResponse) : String :=
  String.ofList r.write

/-- Read an answer from its JSON text. -/
def ofJson (s : String) : Except Fault RegistrationResponse :=
  readWhole? shape.read s

def isSuccess (r : RegistrationResponse) : Bool :=
  r.status == "success"

def bindingOf (function : String) (d : ResolvedDependency) :
    Except MeshError (Option RemoteCapability) :=
  match d.status, d.provider with
  | .resolved, some p =>
      .ok (some ⟨d.capability, p.agentId, p.endpoint, p.function⟩)
  | .resolved, none =>
      .error (.contractViolation
        s!"'{d.capability}' of '{function}' marked resolved without mcp_tool_info")
  | .unresolved, _ => .ok none

/-- Add the bindings of a function's dependencies, in order of appearance. -/
def bindFunction (function : String) (b : Bindings) :
    List ResolvedDependency → Except MeshError Bindings
  | [] => .ok b
  | d :: ds =>
      match bindingOf function d with
      | .error e => .error e
      | .ok value => bindFunction function (b.insert ⟨function, d.capability⟩ value) ds

/-- Add the bindings of functions, in order of appearance. -/
def bindFunctions (b : Bindings) : List FunctionResolution → Except MeshError Bindings
  | [] => .ok b
  | f :: fs =>
      match bindFunction f.function b f.dependencies with
      | .error e => .error e
      | .ok b => bindFunctions b fs

def bindings (r : RegistrationResponse) : Except MeshError Bindings :=
  bindFunctions [] r.functions

def parse (body : String) : Except MeshError RegistrationResponse :=
  match ofJson body with
  | .error fault =>
      .error (.contractViolation ("malformed registry response: " ++ fault.message))
  | .ok r =>
      if r.isSuccess then .ok r
      else .error (.rejected (r.message.getD s!"status '{r.status}'"))

end RegistrationResponse

end CapabilityMesh
