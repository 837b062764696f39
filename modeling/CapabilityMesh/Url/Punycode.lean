/-
Texts of any script in ASCII letters and digits.  The ASCII characters come
first; the others follow as the distances between them, in the order of their
code points, each distance as a number of base 36 whose last digit can be told
from the others.
-/

namespace CapabilityMesh

namespace Url

namespace Punycode

def digitChar (d : Nat) : Char :=
  if d < 26 then Char.ofNat ('a'.toNat + d) else Char.ofNat ('0'.toNat + (d - 26))

def digitValue? (c : Char) : Option Nat :=
  if 'a' ≤ c ∧ c ≤ 'z' then some (c.toNat - 'a'.toNat)
  else if 'A' ≤ c ∧ c ≤ 'Z' then some (c.toNat - 'A'.toNat)
  else if '0' ≤ c ∧ c ≤ '9' then some (c.toNat - '0'.toNat + 26)
  else none

/-- From which value on the digit at a place is not the last one. -/
def threshold (place bias : Nat) : Nat :=
  if place ≤ bias then 1 else min (place - bias) 26

/-- Divide a distance until it is small, and count the places. -/
def shrink (delta places : Nat) : Nat × Nat :=
  if 455 < delta then shrink (delta / 35) (places + 36) else (delta, places)
  termination_by delta
  decreasing_by omega

/-- How large the next distance is expected to be. -/
def adapt (delta count : Nat) (isFirst : Bool) : Nat :=
  let delta := if isFirst then delta / 700 else delta / 2
  let (delta, places) := shrink (delta + delta / count) 0
  places + 36 * delta / (delta + 38)

/-- The digits of a distance.  Every digit makes it smaller, so that the distance
is enough fuel. -/
def digits (bias : Nat) : Nat → Nat → Nat → List Char
  | 0, _, value => [digitChar value]
  | fuel + 1, place, value =>
      let t := threshold place bias
      if value < t then [digitChar value]
      else
        digitChar (t + (value - t) % (36 - t))
          :: digits bias fuel (place + 36) ((value - t) / (36 - t))

/-- The state of writing: what was written, the distance since, the number of
characters written, and what is expected next. -/
structure Writing where
  written : List Char := []
  delta : Nat := 0
  count : Nat
  bias : Nat := 72

/-- Pass a character of the text on the way to the code point `n`. -/
def pass (first n : Nat) (w : Writing) (c : Char) : Writing :=
  if c.toNat < n then { w with delta := w.delta + 1 }
  else if c.toNat = n then
    { written := w.written ++ digits w.bias (w.delta + 1) 36 w.delta
      delta := 0
      count := w.count + 1
      bias := adapt w.delta (w.count + 1) (w.count == first) }
  else w

def writePoints (cs : List Char) (first : Nat) : Nat → List Nat → Writing → Writing
  | _, [], w => w
  | next, n :: ns, w =>
      let w := { w with delta := w.delta + (n - next) * (w.count + 1) }
      let w := cs.foldl (pass first n) w
      writePoints cs first (n + 1) ns { w with delta := w.delta + 1 }

def isBasic (c : Char) : Bool :=
  c.toNat < 0x80

/-- Write a text. -/
def encode (cs : List Char) : List Char :=
  let basic := cs.filter isBasic
  let points := ((cs.filter fun c => !isBasic c).map Char.toNat).mergeSort.eraseDups
  let front := if basic.isEmpty then [] else basic ++ ['-']
  front ++ (writePoints cs basic.length 0x80 points { count := basic.length }).written

def readDistance (bias : Nat) : Nat → Nat → Nat → List Char → Option (Nat × List Char)
  | _, _, _, [] => none
  | place, weight, value, c :: cs => do
      let d ← digitValue? c
      let value := value + d * weight
      let t := threshold place bias
      if d < t then some (value, cs)
      else readDistance bias (place + 36) (weight * (36 - t)) value cs

/-- Read distances and put the characters in their places.  Each reads at least
one digit, so that the length of the text is enough fuel. -/
def readPoints : Nat → List Char → Nat → Nat → Nat → Bool → List Char → Option (List Char)
  | 0, out, _, _, _, _, _ => some out
  | _ + 1, out, _, _, _, _, [] => some out
  | fuel + 1, out, n, position, bias, isFirst, c :: cs => do
      let (delta, rest) ← readDistance bias 36 1 0 (c :: cs)
      let count := out.length + 1
      let place := position + delta
      let n := n + place / count
      if n < 0xD800 ∨ (0xDFFF < n ∧ n < 0x110000) then
        let out := out.insertIdx (place % count) (Char.ofNat n)
        readPoints fuel out n (place % count + 1) (adapt delta count isFirst) false rest
      else none

/-- Read a text. -/
def decode? (cs : List Char) : Option (List Char) :=
  let back := cs.reverse
  let tail := (back.takeWhile (· ≠ '-')).reverse
  let isValid := cs.all isBasic
  match (back.dropWhile (· ≠ '-')).reverse.dropLast with
  | [] => if isValid && !cs.contains '-' then readPoints cs.length [] 0x80 0 72 true cs else none
  | front => if isValid then readPoints tail.length front 0x80 0 72 true tail else none

end Punycode

end Url

end CapabilityMesh
