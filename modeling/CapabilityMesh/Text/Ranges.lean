/-
Sets of code points as lists of closed ranges.  A long set is written as one
text: ranges apart by blanks, each `first-last` or a single code point, all
in hexadecimal.
-/
import CapabilityMesh.Text.Number

namespace CapabilityMesh

namespace Text

/-- Closed ranges of code points. -/
abbrev Ranges := List (Nat × Nat)

namespace Ranges

/-- Whether a code point lies in one of the ranges. -/
def contains (ranges : Ranges) (n : Nat) : Bool :=
  ranges.any fun range => decide (range.1 ≤ n ∧ n ≤ range.2)

/-- The ranges of a text.  `first` is the start of the range being read once
its dash has been seen, `value` the number being read. -/
def scan : List Char → Option Nat → Option Nat → Ranges
  | [], first, value => finish first value
  | c :: cs, first, value =>
      match hexDigit? c with
      | some d => scan cs first (some (value.getD 0 * 16 + d))
      | none =>
          if c = '-' then scan cs value none
          else finish first value ++ scan cs none none
where
  /-- The range that ends with the number just read. -/
  finish : Option Nat → Option Nat → Ranges
    | some a, some b => [(a, b)]
    | none, some b => [(b, b)]
    | _, none => []

def ofText (s : String) : Ranges :=
  scan s.toList none none

end Ranges

end Text

end CapabilityMesh
