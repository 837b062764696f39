/-
Reading TOML documents.
-/
import CapabilityMesh.Toml.Scalar

namespace CapabilityMesh

namespace Toml

def isBareKeyChar (c : Char) : Bool :=
  c.isAlphanum || c == '-' || c == '_'

def readSimpleKey : List Char → Option (String × List Char)
  | '"' :: rest =>
      (readBasic (rest.length + 1) rest).map fun (s, rest) => (String.ofList s, rest)
  | '\'' :: rest => (readLiteral rest).map fun (s, rest) => (String.ofList s, rest)
  | cs =>
      match cs.takeWhile isBareKeyChar with
      | [] => none
      | key => some (String.ofList key, cs.dropWhile isBareKeyChar)

/-- How deeply values may nest, and how many parts a key may not reach. -/
def depthLimit : Nat := 80

/-- Parts of a key with dots between them.  Each part reads at least one
character, so the length of the text is enough fuel. -/
def readKeyParts : Nat → List Char → Option (List String × List Char)
  | 0, _ => none
  | fuel + 1, cs => do
      let (part, rest) ← readSimpleKey (skipWs cs)
      match skipWs rest with
      | '.' :: rest => do
          let (parts, rest) ← readKeyParts fuel rest
          some (part :: parts, rest)
      | rest => some ([part], rest)

/-- A key: a part, or several with dots between them. -/
def readKey (cs : List Char) : Option (List String × List Char) :=
  (readKeyParts (cs.length + 1) cs).filter fun (parts, _) => parts.length < depthLimit

def skipComment (cs : List Char) : Option (List Char) :=
  match cs with
  | '#' :: rest =>
      match rest.dropWhile isPlain with
      | [] => some []
      | '\n' :: rest => some ('\n' :: rest)
      | '\r' :: '\n' :: rest => some ('\r' :: '\n' :: rest)
      | _ => none
  | rest => some rest

/-- Drop blanks, comments and line breaks. -/
def skipLines : Nat → List Char → Option (List Char)
  | 0, cs => some cs
  | fuel + 1, cs => do
      let rest ← skipComment (skipWs cs)
      match behindNewline? rest with
      | some rest => skipLines fuel rest
      | none => some rest

/-- Drop the end of a line: blanks, a comment, and the line break. -/
def endLine (cs : List Char) : Option (List Char) := do
  match ← skipComment (skipWs cs) with
  | [] => some []
  | rest => behindNewline? rest

mutual

def readValue (depth : Nat) (cs : List Char) : Option (Item × List Char) :=
  match depth with
  | 0 => none
  | depth + 1 =>
      match cs with
      | '"' :: _ | '\'' :: _ => (readString cs).map fun (s, rest) => (.text s, rest)
      | '[' :: rest =>
          if depth = 0 then none
          else
            (readArray depth (rest.length + 1) rest).map fun (items, rest) =>
              (.array items, rest)
      | '\x7b' :: rest =>
          if depth = 0 then none
          else
            match skipWs rest with
            | '\x7d' :: rest => some (.inline [], rest)
            | rest =>
                (readInline depth (rest.length + 1) [] rest).map fun (entries, rest) =>
                  (.inline entries, rest)
      | cs =>
          let (token, rest) := takeToken cs
          (itemOfToken token).map fun item => (item, rest)
  termination_by (depth, 0)

def readArray (depth fuel : Nat) (cs : List Char) : Option (List Item × List Char) :=
  match fuel with
  | 0 => none
  | fuel + 1 => do
      match ← skipLines (cs.length + 1) cs with
      | ']' :: rest => some ([], rest)
      | cs => do
          let (item, rest) ← readValue depth cs
          match ← skipLines (rest.length + 1) rest with
          | ',' :: rest => do
              let (items, rest) ← readArray depth fuel rest
              some (item :: items, rest)
          | ']' :: rest => some ([item], rest)
          | _ => none
  termination_by (depth, fuel + 1)

def readInline (depth fuel : Nat) (entries : Entries) (cs : List Char) :
    Option (Entries × List Char) :=
  match fuel with
  | 0 => none
  | fuel + 1 => do
      let (key, rest) ← readKey cs
      match rest with
      | '=' :: rest => do
          let (item, rest) ← readValue depth (skipWs rest)
          let last ← key.getLast?
          let entries ← Entries.add? last item key.dropLast true entries
          match skipWs rest with
          | ',' :: rest => readInline depth fuel entries rest
          | '\x7d' :: rest => some (entries, rest)
          | _ => none
      | _ => none
  termination_by (depth, fuel + 1)

end

/-- Read a header behind its brackets, up to its end. -/
def readHeader (close cs : List Char) : Option (List String × List Char) := do
  let (key, rest) ← readKey cs
  let rest ← Text.behind? close rest
  some (key, ← endLine rest)

/-- Read one line of a document: a header, an entry, or nothing.  `path` is the
header above; tables of a list are reached through their last member. -/
def readLine (path : List String) (root : Entries) (cs : List Char) :
    Option (List String × Entries × List Char) :=
  match skipWs cs with
  | '[' :: '[' :: rest => do
      let (key, rest) ← readHeader [']', ']'] rest
      let last ← key.getLast?
      let root ← root.modify? (Entries.openRow? last) key.dropLast
      some (key, root, rest)
  | '[' :: rest => do
      let (key, rest) ← readHeader [']'] rest
      let last ← key.getLast?
      let root ← root.modify? (Entries.openTable? last) key.dropLast
      some (key, root, rest)
  | [] => some (path, root, [])
  | '#' :: rest => do some (path, root, ← endLine ('#' :: rest))
  | cs =>
      match behindNewline? cs with
      | some rest => some (path, root, rest)
      | none => do
          let (key, rest) ← readKey cs
          match rest with
          | '=' :: rest => do
              let (item, rest) ← readValue depthLimit (skipWs rest)
              let rest ← endLine rest
              let last ← key.getLast?
              let root ← root.modify? (Entries.add? last item key.dropLast true) path
              some (path, root, rest)
          | _ => none

/-- Read lines until the text ends.  Each reads at least one character, so the
length of the text is enough fuel. -/
def readDocument : Nat → List String → Entries → List Char → Option Entries
  | 0, _, root, cs => if cs.isEmpty then some root else none
  | fuel + 1, path, root, cs =>
      if cs.isEmpty then some root
      else do
        let (path, root, rest) ← readLine path root cs
        readDocument fuel path root rest

/-- The entries of a document; a byte order mark may stand at its head. -/
def parse (s : String) : Option Entries :=
  let cs := match s.toList with
    | '\uFEFF' :: rest => rest
    | cs => cs
  readDocument (cs.length + 1) [] [] cs

end Toml

end CapabilityMesh
