/-
Skipping a value that nobody asks for.  Open containers are held in a list, so
a skipped value may nest as deeply as it likes.
-/
import CapabilityMesh.Json.Number
import CapabilityMesh.Json.Text

namespace CapabilityMesh

namespace Json

def readIdent : List Char → List Char → Except Fault (List Char)
  | [], cs => .ok cs
  | _ :: _, [] => .error .endInValue
  | e :: es, c :: cs => if c = e then readIdent es cs else .error .expectedIdent

/-- A container that is still open. -/
inductive Frame where
  | list
  | object
deriving Repr, DecidableEq

/-- What is expected next while a value is skipped. -/
inductive Skip where
  /-- A value. -/
  | value
  /-- The first part of a container, or its end. -/
  | first
  /-- A comma, or the end of a container. -/
  | next

/-- Skip a key and its colon, if the container has keys. -/
def skipKey (frame : Frame) (cs : List Char) : Except Fault (List Char) :=
  match frame with
  | .list => .ok cs
  | .object =>
      match skipSpace cs with
      | '"' :: rest =>
          match skipStringTail (rest.length + 1) rest with
          | .error fault => .error fault
          | .ok rest =>
              match skipSpace rest with
              | ':' :: rest => .ok rest
              | [] => .error .endInObject
              | _ => .error .expectedColon
      | [] => .error .endInObject
      | _ => .error .keyNotString

/-- Skip a literal or a string or a number, or say which container opens. -/
def skipScalar (cs : List Char) : Except Fault (Option Frame × List Char) :=
  match cs with
  | [] => .error .endInValue
  | 'n' :: rest => do return (none, ← readIdent ['u', 'l', 'l'] rest)
  | 't' :: rest => do return (none, ← readIdent ['r', 'u', 'e'] rest)
  | 'f' :: rest => do return (none, ← readIdent ['a', 'l', 's', 'e'] rest)
  | '-' :: rest => do return (none, ← skipNumber rest)
  | '"' :: rest => do return (none, ← skipStringTail (rest.length + 1) rest)
  | '[' :: rest => .ok (some .list, rest)
  | '\x7b' :: rest => .ok (some .object, rest)
  | c :: rest =>
      if isDigit c then do return (none, ← skipNumber (c :: rest))
      else .error .expectedValue

/-- Skip values until no container is open.  Every second step reads at least
one character, so twice the length of the text is enough fuel. -/
def skipFrom : Nat → Skip → List Frame → List Char → Except Fault (List Char)
  | 0, _, _, _ => .error .endInValue
  | fuel + 1, .value, frames, cs =>
      match skipScalar (skipSpace cs) with
      | .error fault => .error fault
      | .ok (some frame, rest) => skipFrom fuel .first (frame :: frames) rest
      | .ok (none, rest) => skipFrom fuel .next frames rest
  | _ + 1, .first, [], cs => .ok cs
  | fuel + 1, .first, frame :: frames, cs =>
      match frame, skipSpace cs with
      | .list, [] => .error .endInList
      | .object, [] => .error .endInObject
      | .list, ']' :: rest => skipFrom fuel .next frames rest
      | .object, '\x7d' :: rest => skipFrom fuel .next frames rest
      | frame, rest =>
          match skipKey frame rest with
          | .error fault => .error fault
          | .ok rest => skipFrom fuel .value (frame :: frames) rest
  | _ + 1, .next, [], cs => .ok cs
  | fuel + 1, .next, frame :: frames, cs =>
      match frame, skipSpace cs with
      | .list, [] => .error .endInList
      | .object, [] => .error .endInObject
      | .list, ']' :: rest => skipFrom fuel .next frames rest
      | .object, '\x7d' :: rest => skipFrom fuel .next frames rest
      | frame, ',' :: rest =>
          match skipKey frame rest with
          | .error fault => .error fault
          | .ok rest => skipFrom fuel .value (frame :: frames) rest
      | .list, _ => .error .expectedListEnd
      | .object, _ => .error .expectedObjectEnd

def skipValue (cs : List Char) : Except Fault (List Char) :=
  skipFrom (2 * cs.length + 2) .value [] cs

end Json

end CapabilityMesh
