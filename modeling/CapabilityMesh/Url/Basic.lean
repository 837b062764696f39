/-
URLs and their text.
-/
import CapabilityMesh.Url.Host

namespace CapabilityMesh

namespace Url

/-- A path: segments behind slashes, or one text that no slash divides. -/
inductive Path where
  | opaqueText (text : String)
  | segments (names : List String)
deriving Repr, DecidableEq

def Path.render : Path → String
  | .opaqueText text => text
  | .segments names => String.join (names.map ("/" ++ ·))

end Url

/-- A URL.  Its parts are held encoded, so that its text is their
concatenation. -/
structure Url where
  scheme : String
  username : String := ""
  password : String := ""
  host : Option Url.Host := none
  port : Option Nat := none
  path : Url.Path
  query : Option String := none
  fragment : Option String := none
deriving Repr, DecidableEq

namespace Url

/-- Schemes whose URLs always have a host and a path. -/
def isSpecialScheme (scheme : String) : Bool :=
  ["http", "https", "ws", "wss", "ftp", "file"].contains scheme

def defaultPort? (scheme : String) : Option Nat :=
  match scheme with
  | "http" | "ws" => some 80
  | "https" | "wss" => some 443
  | "ftp" => some 21
  | _ => none

/-- User name and password as they stand before the host. -/
def credentials (u : Url) : String :=
  if u.username.isEmpty && u.password.isEmpty then ""
  else if u.password.isEmpty then u.username ++ "@"
  else u.username ++ ":" ++ u.password ++ "@"

/-- Everything between the scheme and the path.  Without a host, a path that
begins with an empty segment is kept apart by a dot. -/
def authority (u : Url) : String :=
  match u.host, u.path with
  | some host, _ =>
      "//" ++ u.credentials ++ host.render
        ++ (u.port.map fun p => ":" ++ toString p).getD ""
  | none, .segments ("" :: _ :: _) => "/."
  | none, _ => ""

/-- The path with its query, as a request names its target. -/
def target (u : Url) : String :=
  u.path.render ++ (u.query.map ("?" ++ ·)).getD ""

def render (u : Url) : String :=
  u.scheme ++ ":" ++ u.authority ++ u.target
    ++ (u.fragment.map ("#" ++ ·)).getD ""

/-- Whether the scheme is one of the two that registries speak. -/
def isWeb (u : Url) : Bool :=
  u.scheme == "http" || u.scheme == "https"

end Url

end CapabilityMesh
