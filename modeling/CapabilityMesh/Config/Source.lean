/-
Where settings come from: the file that holds them, how it is found, and how its
settings and the other layers make the settings of an agent.
-/
import CapabilityMesh.Config.Check
import CapabilityMesh.Config.Document
import CapabilityMesh.Config.Layer
import CapabilityMesh.Files.Tree

namespace CapabilityMesh

/-- A file of settings. -/
inductive ConfigFile where
  /-- The file that a path names. -/
  | named (path : String)
  /-- The file of the usual name in a folder. -/
  | inFolder (folder : FilePath)
deriving Repr, DecidableEq

namespace ConfigFile

def usualName : String := "mesh_configuration.toml"

/-- The variable that may name the file. -/
def pathVar : String := "MESH_CONFIG_PATH"

/-- The file's path: as it was given, or from the root of the tree. -/
def path : ConfigFile → String
  | named path => path
  | inFolder folder => "/".intercalate (folder ++ [usualName])

def searched (folder : FilePath) : List FilePath :=
  (List.range (min 3 folder.length + 1)).map fun up => folder.take (folder.length - up)

/-- Find the file: the one that the environment names, else the nearest of the
usual name in the folders to search. -/
def find (tree : FileTree) (folder : FilePath) (env : Environment) :
    Except ConfigError (Option ConfigFile) :=
  match env pathVar with
  | some path =>
      if tree.hasPath folder path then .ok (some (named path))
      else .error (.fileNotFound s!"Config file specified by {pathVar} not found: {path}")
  | none =>
      .ok (((searched folder).find? fun f =>
        (tree.node? (f ++ [usualName])).isSome).map inFolder)

def read (tree : FileTree) (folder : FilePath) : ConfigFile → Except FileFault String
  | named path => (tree.follow folder path).bind FileNode.text
  | inFolder place =>
      match tree.node? (place ++ [usualName]) with
      | some node => node.text
      | none => .error .missing

def settings (tree : FileTree) (folder : FilePath) (file : ConfigFile) :
    Except ConfigError Settings :=
  match file.read tree folder with
  | .error fault => .error (.unreadable fault.message)
  | .ok text =>
      match Settings.ofToml? text with
      | some s => .ok s
      | none => .error (.badToml "the document does not hold settings")

end ConfigFile

namespace Settings

/-- Put the upper layers on settings and check the result. -/
def finish (s : Settings) (env : Environment) (overrides : Overrides) :
    Except ConfigError Settings × Log :=
  let (s, log) := s.applyOverrides env overrides
  (s.check.map fun _ => s, log)

/-- The settings of an agent: those of a file, if there is one, below the other
layers.  A given path is used as it is; without one the file is searched. -/
def load (tree : FileTree) (folder : FilePath) (given : Option String)
    (env : Environment) (overrides : Overrides) :
    Except ConfigError Settings × Log :=
  let file : Except ConfigError (Option ConfigFile) :=
    match given with
    | some path => .ok (some (.named path))
    | none => ConfigFile.find tree folder env
  match file with
  | .error e => (.error e, [])
  | .ok none =>
      let (result, log) := finish {} env overrides
      (result,
        .debug s!"[CONFIG] No {ConfigFile.usualName} found, using built-in defaults" :: log)
  | .ok (some file) =>
      let head := LogEntry.info ("[CONFIG] Loading configuration from " ++ file.path)
      match file.settings tree folder with
      | .error e => (.error e, [head])
      | .ok s =>
          let (result, log) := s.finish env overrides
          (result, head :: log)

end Settings

end CapabilityMesh
