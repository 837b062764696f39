/-
Reading URLs.  A text is first freed of outer controls and blanks and of tabs
and line breaks anywhere; then scheme, authority, path, query and fragment are
taken from the left.
-/
import CapabilityMesh.Text.Blank
import CapabilityMesh.Url.Basic

namespace CapabilityMesh

namespace Url

/-- The characters of a text that count: outer controls and blanks, and tabs
and line breaks anywhere, do not. -/
def significant (s : String) : List Char :=
  (Text.strip (fun c => c.toNat ≤ 0x20) s.toList).filter
    fun c => !(c == '\t' || c == '\n' || c == '\r')

def readScheme? (cs : List Char) : Option (String × List Char) :=
  match cs with
  | [] => none
  | c :: _ =>
      let isSchemeChar (c : Char) : Bool :=
        c.isAlphanum || c == '+' || c == '-' || c == '.'
      match c.isAlpha, cs.dropWhile isSchemeChar with
      | true, ':' :: rest =>
          some (String.ofList ((cs.takeWhile isSchemeChar).map Text.lowerAscii), rest)
      | _, _ => none

def isSlash (special : Bool) (c : Char) : Bool :=
  c == '/' || (special && c == '\\')

def isPathEnd (c : Char) : Bool :=
  c == '?' || c == '#'

/-- The two letters `c:` or `c|` that name a drive. -/
def isDrive (cs : List Char) : Bool :=
  match cs with
  | [a, b] => a.isAlpha && (b == ':' || b == '|')
  | _ => false

/-- A segment that stands for the folder itself. -/
def isSingleDot (segment : String) : Bool :=
  [".", "%2e"].contains (Text.lower segment)

/-- A segment that stands for the folder above. -/
def isDoubleDot (segment : String) : Bool :=
  ["..", ".%2e", "%2e.", "%2e%2e"].contains (Text.lower segment)

/-- A path without its last segment; a drive stays. -/
def shorten (file : Bool) (names : List String) : List String :=
  match names with
  | [drive] => if file && isDrive drive.toList then names else []
  | _ => names.dropLast

/-- Add one segment to a path.  `last` says that no slash follows it. -/
def addSegment (file last : Bool) (names : List String) (raw : List Char) :
    List String :=
  let segment := String.ofList (encode inPathSet raw)
  if isDoubleDot segment then
    let names := shorten file names
    if last then names ++ [""] else names
  else if isSingleDot segment then
    if last then names ++ [""] else names
  else if file && names.isEmpty && isDrive raw then
    [String.ofList [raw.headD 'C', ':']]
  else names ++ [segment]

/-- Add the segments of a text that slashes divide.  `pending` holds the
characters of the segment being read, latest first. -/
def addSegments (special file : Bool) :
    List String → List Char → List Char → List String
  | names, pending, [] => addSegment file true names pending.reverse
  | names, pending, c :: cs =>
      if isSlash special c then
        addSegments special file (addSegment file false names pending.reverse) [] cs
      else addSegments special file names (c :: pending) cs

def withFragment (u : Url) (cs : List Char) : Url :=
  { u with fragment := some (String.ofList (encode inFragmentSet cs)) }

def withQuery (u : Url) (cs : List Char) : Url :=
  let set := inQuerySet (isSpecialScheme u.scheme)
  { u with query := some (String.ofList (encode set cs)) }

def readTail (u : Url) (cs : List Char) : Url :=
  match cs with
  | '?' :: rest =>
      let u := u.withQuery (rest.takeWhile (· != '#'))
      match rest.dropWhile (· != '#') with
      | _ :: fragment => u.withFragment fragment
      | [] => u
  | '#' :: fragment => u.withFragment fragment
  | _ => u

/-- Read a path that continues the given segments, then query and fragment. -/
def readPath (u : Url) (names : List String) (cs : List Char) : Url :=
  let special := isSpecialScheme u.scheme
  let names := addSegments special (u.scheme == "file") names []
    (cs.takeWhile fun c => !isPathEnd c)
  readTail { u with path := .segments names } (cs.dropWhile fun c => !isPathEnd c)

def readRootedPath (u : Url) (cs : List Char) : Url :=
  let special := isSpecialScheme u.scheme
  match cs with
  | [] => if special then readPath u [] [] else u
  | c :: rest =>
      if isSlash special c then readPath u [] rest
      else if isPathEnd c && !special then readTail u cs
      else readPath u [] cs

def splitLast? (sep : Char) (cs : List Char) : Option (List Char × List Char) :=
  match cs.reverse.dropWhile (· != sep) with
  | [] => none
  | _ :: front => some (front.reverse, (cs.reverse.takeWhile (· != sep)).reverse)

/-- Split a host from the colon of its port.  Colons between square brackets
belong to the host. -/
def splitHost : Bool → List Char → List Char × List Char
  | _, [] => ([], [])
  | inside, c :: cs =>
      if c = ':' && !inside then ([], c :: cs)
      else
        let inside := if c = '[' then true else if c = ']' then false else inside
        let (host, rest) := splitHost inside cs
        (c :: host, rest)

/-- Read the digits of a port; the text behind them has to start a path. -/
def readPort (value : Nat) (seen : Bool) :
    List Char → Except UrlFault (Option Nat × List Char)
  | [] => .ok (if seen then some value else none, [])
  | c :: cs =>
      match Text.digit? c with
      | some d =>
          let next := value * 10 + d
          if next ≤ 65535 then readPort next true cs else .error .badPort
      | none =>
          if ['/', '\\', '?', '#'].contains c then
            .ok (if seen then some value else none, c :: cs)
          else .error .badPort

/-- User name and password of the text before the last at sign. -/
def readCredentials (u : Url) (cs : List Char) : Url :=
  { u with
    username := String.ofList (encode inUserInfoSet (cs.takeWhile (· != ':')))
    password :=
      String.ofList (encode inUserInfoSet ((cs.dropWhile (· != ':')).drop 1)) }

def readHost (u : Url) (cs : List Char) : Except UrlFault (Url × List Char) := do
  let special := isSpecialScheme u.scheme
  let (name, rest) := splitHost false cs
  if special && name.isEmpty then .error .emptyHost
  let host ← if special then Host.read name else Host.readOpaque name
  match rest with
  | ':' :: digits =>
      if host.isEmpty then .error .emptyHost
      let (port, rest) ← readPort 0 false digits
      let port := if port = defaultPort? u.scheme then none else port
      .ok ({ u with host := some host, port := port }, rest)
  | _ => .ok ({ u with host := some host }, rest)

/-- Read everything behind the two slashes that announce an authority. -/
def readAuthority (scheme : String) (cs : List Char) : Except UrlFault Url := do
  let special := isSpecialScheme scheme
  let isEnd (c : Char) : Bool := isSlash special c || isPathEnd c
  let authority := cs.takeWhile fun c => !isEnd c
  let rest := cs.dropWhile fun c => !isEnd c
  let u : Url := { scheme := scheme, path := .segments [] }
  let (u, host) ←
    match splitLast? '@' authority with
    | none => .ok (u, authority)
    | some ([], host) =>
        if host.isEmpty && !rest.isEmpty then .error .emptyHost else .ok (u, host)
    | some (info, host) => .ok (readCredentials u info, host)
  let (u, more) ← readHost u host
  if !u.credentials.isEmpty && (u.host.all Host.isEmpty) then .error .emptyHost
  .ok (readRootedPath u (more ++ rest))

/-- Read the host of a file.  A drive is no host, and `localhost` is none. -/
def readFileHost (cs : List Char) : Except UrlFault Url := do
  let isEnd (c : Char) : Bool := isSlash true c || isPathEnd c
  let name := cs.takeWhile fun c => !isEnd c
  let bare : Url :=
    { scheme := "file", host := some (.opaqueName ""), path := .segments [] }
  if name.isEmpty || isDrive name then .ok (readPath bare [] cs)
  else
    let rest := cs.dropWhile fun c => !isEnd c
    let host ← Host.read name
    if host = .domain "localhost" then .ok (readPath bare [] rest)
    else
      let u := readRootedPath { bare with host := some host } rest
      match u.path with
      | .segments (first :: _) =>
          if isDrive first.toList then .ok { u with host := bare.host } else .ok u
      | _ => .ok u

def trimFilePath (u : Url) : Url :=
  match u.path with
  | .segments names =>
      match names.dropWhile String.isEmpty with
      | [] => { u with path := .segments [""] }
      | names => { u with path := .segments names }
  | .opaqueText _ => u

def readFile (cs : List Char) : Except UrlFault Url := do
  let bare : Url :=
    { scheme := "file", host := some (.opaqueName ""), path := .segments [] }
  match cs with
  | a :: b :: rest =>
      if isSlash true a && isSlash true b then return trimFilePath (← readFileHost rest)
      else if isSlash true a then .ok (trimFilePath (readPath bare [] (b :: rest)))
      else .ok (trimFilePath (readPath bare [] cs))
  | [a] =>
      if isSlash true a then .ok (trimFilePath (readPath bare [] []))
      else .ok (trimFilePath (readPath bare [] cs))
  | [] => .ok (trimFilePath (readPath bare [] []))

def readBehindScheme (scheme : String) (cs : List Char) : Except UrlFault Url :=
  if scheme = "file" then readFile cs
  else if isSpecialScheme scheme then
    readAuthority scheme (cs.dropWhile (isSlash true))
  else
    let bare : Url := { scheme := scheme, path := .segments [] }
    match cs with
    | '/' :: '/' :: rest => readAuthority scheme rest
    | '/' :: rest => .ok (readPath bare [] rest)
    | cs =>
        let text := encode inControlSet (cs.takeWhile fun c => !isPathEnd c)
        .ok (readTail { bare with path := .opaqueText (String.ofList text) }
          (cs.dropWhile fun c => !isPathEnd c))

def parse (s : String) : Except UrlFault Url :=
  match readScheme? (significant s) with
  | some (scheme, rest) => readBehindScheme scheme rest
  | none => .error .relativeWithoutBase

def Path.names : Path → List String
  | .opaqueText _ => []
  | .segments names => names

def readRelative (base : Url) (cs : List Char) : Except UrlFault Url :=
  let base := { base with fragment := none }
  match cs with
  | [] => .ok base
  | '?' :: _ => .ok (readTail { base with query := none } cs)
  | '#' :: _ => .ok (readTail base cs)
  | c :: rest =>
      let bare := { base with query := none }
      if isSlash true c then
        match c :: rest with
        | '/' :: '/' :: rest => readAuthority base.scheme rest
        | _ =>
            if rest.head?.any (isSlash true) then
              readAuthority base.scheme (rest.dropWhile (isSlash true))
            else .ok (readPath bare [] rest)
      else .ok (readPath bare base.path.names.dropLast cs)

/-- Read a reference that a URL of a special scheme may complete. -/
def join (base : Url) (s : String) : Except UrlFault Url :=
  let cs := significant s
  match readScheme? cs with
  | some (scheme, rest) =>
      if scheme = base.scheme && (rest.takeWhile (isSlash true)).length < 2 then
        readRelative base rest
      else readBehindScheme scheme rest
  | none => readRelative base cs

end Url

end CapabilityMesh
