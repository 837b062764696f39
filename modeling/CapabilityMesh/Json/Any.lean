/-
Checking that a text is some JSON value, of any type.
-/
import CapabilityMesh.Json.Container

namespace CapabilityMesh

namespace Json

/-- Check the elements of a list.  Each reads at least one character, so the
length of the text is enough fuel. -/
def checkElements (check : List Char → Except Fault (List Char)) :
    Nat → Bool → List Char → Except Fault (List Char)
  | 0, _, _ => .error .endInList
  | fuel + 1, first, cs => do
      let (more, cs) ← nextElement first cs
      if more then checkElements check fuel false (← check cs) else closeList cs

def checkFields (check : List Char → Except Fault (List Char)) :
    Nat → Bool → List Char → Except Fault (List Char)
  | 0, _, _ => .error .endInObject
  | fuel + 1, first, cs => do
      let (more, cs) ← nextKey first cs
      if more then
        let (_, cs) ← readStringTail cs
        checkFields check fuel false (← check (← readColon cs))
      else closeObject cs

/-- Check one value.  `depth` counts the containers that may still open, the
last of which is one too many. -/
def checkValue (depth : Nat) (cs : List Char) : Except Fault (List Char) :=
  match depth with
  | 0 => .error .tooDeep
  | depth + 1 =>
      match skipSpace cs with
      | [] => .error .endInValue
      | 'n' :: rest => readIdent ['u', 'l', 'l'] rest
      | 't' :: rest => readIdent ['r', 'u', 'e'] rest
      | 'f' :: rest => readIdent ['a', 'l', 's', 'e'] rest
      | '-' :: rest => do return (← readNumber false rest).2
      | '"' :: rest => do return (← readStringTail rest).2
      | '[' :: rest =>
          if depth = 0 then .error .tooDeep
          else checkElements (checkValue depth) (rest.length + 1) true rest
      | '\x7b' :: rest =>
          if depth = 0 then .error .tooDeep
          else checkFields (checkValue depth) (rest.length + 1) true rest
      | c :: rest =>
          if isDigit c then do return (← readNumber true (c :: rest)).2
          else .error .expectedValue

/-- What is wrong with a text that should be a JSON value, if anything. -/
def faultOf? (s : String) : Option Fault :=
  match readWhole? (fun cs => (checkValue 128 cs).map fun rest => ((), rest)) s with
  | .ok _ => none
  | .error fault => some fault

end Json

end CapabilityMesh
