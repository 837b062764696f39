/-
A tree of files and folders, and how paths lead to them.  Nothing is known of
what lies above the root of the tree, except that there are folders.
-/
import CapabilityMesh.Text.Split
import CapabilityMesh.Text.Utf8

namespace CapabilityMesh

/-- The names of the folders from the root down to a place, and its own. -/
abbrev FilePath := List String

/-- Files with their bytes, and folders.  Whatever lies above a file or a folder
is a folder as well. -/
structure FileTree where
  files : List (FilePath × List UInt8) := []
  folders : List FilePath := []
deriving Repr, DecidableEq

/-- What a path leads to. -/
inductive FileNode where
  | file (bytes : List UInt8)
  | folder
deriving Repr, DecidableEq

/-- Why a path cannot be followed, or its file not be read. -/
inductive FileFault where
  | missing
  | notFolder
  | isFolder
  | nameTooLong
  | zeroChar
  | notText
deriving Repr, DecidableEq

namespace FileFault

def message : FileFault → String
  | missing => "No such file or directory (os error 2)"
  | notFolder => "Not a directory (os error 20)"
  | isFolder => "Is a directory (os error 21)"
  | nameTooLong => "File name too long (os error 36)"
  | zeroChar => "file name contained an unexpected NUL byte"
  | notText => "stream did not contain valid UTF-8"

end FileFault

/-- A place that a walk through folders has reached. -/
inductive FilePlace where
  /-- A place of the tree. -/
  | within (path : FilePath)
  /-- A folder above the tree's root. -/
  | above
deriving Repr, DecidableEq

namespace FileTree

def node? (tree : FileTree) (path : FilePath) : Option FileNode :=
  match tree.files.lookup path with
  | some bytes => some (.file bytes)
  | none =>
      if path.isEmpty || tree.folders.any path.isPrefixOf
          || tree.files.any fun entry => path.isPrefixOf entry.1 then
        some .folder
      else none

def nodeAt? (tree : FileTree) : FilePlace → Option FileNode
  | .within path => tree.node? path
  | .above => some .folder

def longestName : Nat := 255

/-- Follow names from one place to the next.  Only a folder can be passed. -/
def walk (tree : FileTree) (place : FilePlace) : List String → Except FileFault FilePlace
  | [] => .ok place
  | name :: names =>
      match tree.nodeAt? place with
      | none => .error .missing
      | some (.file _) => .error .notFolder
      | some .folder =>
          if name.isEmpty || name == "." then tree.walk place names
          else if name == ".." then
            tree.walk (match place with
              | .within (last :: path) => .within ((last :: path).dropLast)
              | _ => .above) names
          else if longestName < name.utf8ByteSize then .error .nameTooLong
          else
            match place with
            | .within path => tree.walk (.within (path ++ [name])) names
            | .above => .error .missing

def follow (tree : FileTree) (folder : FilePath) (path : String) :
    Except FileFault FileNode := do
  if path.isEmpty then .error .missing
  if path.contains '\x00' then .error .zeroChar
  let start : FilePlace := if path.startsWith "/" then .above else .within folder
  let names := (Text.splitOn '/' path.toList).map String.ofList
  match tree.nodeAt? (← tree.walk start names) with
  | some node => .ok node
  | none => .error .missing

def hasPath (tree : FileTree) (folder : FilePath) (path : String) : Bool :=
  (tree.follow folder path).toBool

end FileTree

def FileNode.text : FileNode → Except FileFault String
  | file bytes =>
      match Text.ofUtf8? bytes with
      | some text => .ok text
      | none => .error .notText
  | folder => .error .isFolder

end CapabilityMesh
