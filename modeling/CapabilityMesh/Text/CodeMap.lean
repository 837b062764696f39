/-
Maps from code points to short sequences of code points.  A long map is written
as one text: entries apart by blanks, each `first-last:target` for a range that is
shifted as a whole, or `point:target,target`, all in hexadecimal.
-/
import CapabilityMesh.Text.Number

namespace CapabilityMesh

namespace Text

/-- A range of code points and what its first one stands for.  In a range of more
than one, the targets move along with the point. -/
structure CodeRun where
  first : Nat
  last : Nat
  target : List Nat
deriving Repr, DecidableEq

/-- A map from code points to sequences of code points. -/
abbrev CodeMap := List CodeRun

namespace CodeMap

/-- The sequence that a code point stands for. -/
def get? (map : CodeMap) (n : Nat) : Option (List Nat) :=
  (map.find? fun run => decide (run.first ≤ n ∧ n ≤ run.last)).map fun run =>
    run.target.map (· + (n - run.first))

/-- The state of reading a map: the entries read, the last one first, the numbers
of the entry under way, the last one first, and whether it has a dash. -/
structure Reading where
  runs : CodeMap := []
  numbers : List Nat := []
  hasDash : Bool := false
  value : Option Nat := none

namespace Reading

def endNumber (r : Reading) : Reading :=
  match r.value with
  | some n => { r with numbers := n :: r.numbers, value := none }
  | none => r

def endEntry (r : Reading) : Reading :=
  let r := r.endNumber
  match r.hasDash, r.numbers.reverse with
  | true, first :: last :: target => { runs := ⟨first, last, target⟩ :: r.runs }
  | false, point :: target => { runs := ⟨point, point, target⟩ :: r.runs }
  | _, _ => { runs := r.runs }

def step (r : Reading) (c : Char) : Reading :=
  match hexDigit? c with
  | some d => { r with value := some (r.value.getD 0 * 16 + d) }
  | none =>
      if c = '-' then { r.endNumber with hasDash := true }
      else if c = ':' ∨ c = ',' then r.endNumber
      else r.endEntry

end Reading

def ofText (s : String) : CodeMap :=
  (s.toList.foldl Reading.step {}).endEntry.runs.reverse

end CodeMap

end Text

end CapabilityMesh
