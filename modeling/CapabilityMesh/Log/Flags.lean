/-
Debug flags: which components of the program log in detail, as arguments and
an environment variable ask for it.
-/
import CapabilityMesh.Text.Blank
import CapabilityMesh.Text.Split
import CapabilityMesh.Tool.Tags
import CapabilityMesh.Log.Entry

namespace CapabilityMesh

/-- The components that log in detail, in ascending order. -/
structure DebugFlags where
  enabled : Tags := []
deriving Repr, DecidableEq

namespace DebugFlags

/-- The components that the program is made of. -/
def known : List String := ["meshcore", "mesh-agent", "mesh-config"]

/-- The environment variable that asks for detail. -/
def envVar : String := "MESH_DEBUG"

/-- The name under which a component's log lines are filed. -/
def target (component : String) : String :=
  String.ofList (component.toList.map fun c => if c = '-' then '_' else c)

def enable (flags : DebugFlags) (component : String) : DebugFlags :=
  ⟨flags.enabled.insert component⟩

/-- Ask for the detail of every known component. -/
def enableAll (flags : DebugFlags) : DebugFlags :=
  known.foldl enable flags

/-- Read one argument; those of other kinds are passed over. -/
def readArgument (flags : DebugFlags) (argument : String) : DebugFlags :=
  if argument = "--debug-all" then flags.enableAll
  else
    match Text.behind? "--debug-".toList argument.toList with
    | some component => flags.enable (String.ofList component)
    | none => flags

def ofArguments (arguments : List String) : DebugFlags :=
  arguments.foldl readArgument {}

/-- Add what a text asks for: `all`, or names with commas between them. -/
def merge (flags : DebugFlags) (value : String) : DebugFlags :=
  if Text.trim value = "all" then flags.enableAll
  else
    (Text.splitOn ',' value.toList).foldl (fun flags part =>
      let component := Text.strip Text.isBlank part
      if component.isEmpty then flags else flags.enable (String.ofList component)) flags

def ofProcess (arguments : List String) (value : Option String) : DebugFlags :=
  match value with
  | some value => (ofArguments arguments).merge value
  | none => ofArguments arguments

def isEnabled (flags : DebugFlags) (component : String) : Bool :=
  flags.enabled.contains component

/-- Whether any component logs in detail. -/
def any (flags : DebugFlags) : Bool :=
  !flags.enabled.isEmpty

def levelOf (flags : DebugFlags) (component : String) : LogLevel :=
  if flags.isEnabled component then .debug else .info

/-- The filter text: a directive for each component in detail, then the base
level. -/
def filterText (flags : DebugFlags) (base : String) : String :=
  ",".intercalate (flags.enabled.map (fun c => target c ++ "=debug") ++ [base])

def help : String :=
  "Debug Flags:\n"
    ++ "  --debug-all                    Enable debug logging for all crates\n"
    ++ "  --debug-\x7bcrate-name\x7d          Enable debug logging for specific crate\n"
    ++ "\nAvailable crates:\n  " ++ ", ".intercalate known
    ++ "\n\nEnvironment Variable:\n"
    ++ "  " ++ envVar ++ "=\x7bcrate-name\x7d[,\x7bcrate-name\x7d]  "
    ++ "Enable debug for crates (comma-separated)\n"
    ++ "  " ++ envVar ++ "=all                              "
    ++ "Enable debug for all crates\n"
    ++ "\nExamples:\n  --debug-mesh-agent\n  " ++ envVar ++ "=mesh-agent,mesh-config\n"

end DebugFlags

end CapabilityMesh
