/-
The punctuation of lists and objects: whether another part follows, and how a
container closes.
-/
import CapabilityMesh.Json.Skip

namespace CapabilityMesh

namespace Json

/-- Whether another element of a list follows.  The text from that element on,
or from the closing bracket on, is returned. -/
def nextElement (first : Bool) : Reader Bool
  | cs =>
      match skipSpace cs with
      | [] => .error .endInList
      | ']' :: rest => .ok (false, ']' :: rest)
      | c :: rest =>
          if first then .ok (true, c :: rest)
          else if c = ',' then
            match skipSpace rest with
            | [] => .error .endInValue
            | ']' :: _ => .error .trailingComma
            | rest => .ok (true, rest)
          else .error .expectedListEnd

/-- Whether another key of an object follows.  The text behind its opening
quote, or from the closing brace on, is returned. -/
def nextKey (first : Bool) : Reader Bool
  | cs =>
      match skipSpace cs with
      | [] => .error .endInObject
      | '\x7d' :: rest => .ok (false, '\x7d' :: rest)
      | c :: rest =>
          if first then
            if c = '"' then .ok (true, rest) else .error .keyNotString
          else if c = ',' then
            match skipSpace rest with
            | [] => .error .endInValue
            | '"' :: rest => .ok (true, rest)
            | '\x7d' :: _ => .error .trailingComma
            | _ => .error .keyNotString
          else .error .expectedObjectEnd

def readColon (cs : List Char) : Except Fault (List Char) :=
  match skipSpace cs with
  | ':' :: rest => .ok rest
  | [] => .error .endInObject
  | _ => .error .expectedColon

/-- The end of a list whose elements have been read. -/
def closeList (cs : List Char) : Except Fault (List Char) :=
  match skipSpace cs with
  | ']' :: rest => .ok rest
  | ',' :: rest =>
      match skipSpace rest with
      | ']' :: _ => .error .trailingComma
      | _ => .error .trailingCharacters
  | [] => .error .endInList
  | _ => .error .trailingCharacters

/-- The end of an object whose keys have been read. -/
def closeObject (cs : List Char) : Except Fault (List Char) :=
  match skipSpace cs with
  | '\x7d' :: rest => .ok rest
  | ',' :: _ => .error .trailingComma
  | [] => .error .endInObject
  | _ => .error .trailingCharacters

/-- The fault of a value of the wrong type.  A value that is broken itself is
reported as broken. -/
def wrongTypeAt (expected : String) (cs : List Char) : Fault :=
  let wrong (found : Found) : Fault := .wrongType found expected
  let literal (letters : List Char) (found : Found) (rest : List Char) : Fault :=
    match readIdent letters rest with
    | .ok _ => wrong found
    | .error fault => fault
  let number (positive : Bool) (rest : List Char) : Fault :=
    match readNumber positive rest with
    | .ok (n, _) => wrong n.found
    | .error fault => fault
  match cs with
  | [] => .endInValue
  | 'n' :: rest => literal ['u', 'l', 'l'] .null rest
  | 't' :: rest => literal ['r', 'u', 'e'] (.boolean true) rest
  | 'f' :: rest => literal ['a', 'l', 's', 'e'] (.boolean false) rest
  | '-' :: rest => number false rest
  | '"' :: rest =>
      match readStringTail rest with
      | .ok (s, _) => wrong (.string s)
      | .error fault => fault
  | '[' :: _ => wrong .sequence
  | '\x7b' :: _ => wrong .map
  | c :: rest => if isDigit c then number true (c :: rest) else .expectedValue

/-- Read a text that one value and nothing else fills. -/
def readWhole? (read : Reader α) (s : String) : Except Fault α :=
  match read s.toList with
  | .error fault => .error fault
  | .ok (value, rest) =>
      match skipSpace rest with
      | [] => .ok value
      | _ => .error .trailingCharacters

end Json

end CapabilityMesh
