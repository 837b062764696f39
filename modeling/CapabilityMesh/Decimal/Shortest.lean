/-
The fewest decimal digits that read back to a binary number.  A double is
m * 2^q; every real between its two halfway neighbours reads back to it.  For
one digit, two digits, and so on, the two decimals nearest to the value are
tested against that interval in exact arithmetic.
-/

namespace CapabilityMesh

namespace Decimal

/-- A positive number `digits * 10 ^ exponent`. -/
structure Shortest where
  digits : Nat
  exponent : Int
deriving Repr, DecidableEq

/-- Compare `a * 10^e` with `b * 2^q` after clearing denominators. -/
def scaledPair (a : Nat) (e : Int) (b : Nat) (q : Int) : Nat × Nat :=
  (a * Nat.pow 10 e.toNat * Nat.pow 2 (-q).toNat,
    b * Nat.pow 2 q.toNat * Nat.pow 10 (-e).toNat)

/-- Whether `a * 10^e` reads back to `m * 2^q`.  All sides are doubled twice, so
that the halfway points are whole: below a power of two the lower neighbour is
only half as far away. -/
def readsBack (m : Nat) (q : Int) (a : Nat) (e : Int) : Bool :=
  let even := m % 2 == 0
  let low := if m = 0x10000000000000 && q > -1074 then 4 * m - 1 else 4 * m - 2
  let high := 4 * m + 2
  let (x, lo) := scaledPair (4 * a) e low q
  let (y, hi) := scaledPair (4 * a) e high q
  if even then lo ≤ x && y ≤ hi else lo < x && y < hi

/-- The whole part of `m * 2^q / 10^e`. -/
def floorAt (m : Nat) (q e : Int) : Nat :=
  (m * Nat.pow 2 q.toNat * Nat.pow 10 (-e).toNat)
    / (Nat.pow 2 (-q).toNat * Nat.pow 10 e.toNat)

/-- Whether the upper of two neighbours on the grid `10^e` is the nearer one; a
tie goes to the even digit. -/
def upperIsNearer (m : Nat) (q e : Int) (a : Nat) : Bool :=
  let (x, y) := scaledPair (2 * a + 1) e (2 * m) q
  x < y || (x == y && a % 2 == 1)

/-- Search the grids from coarse to fine. -/
def search (m : Nat) (q : Int) : Nat → Int → Shortest
  | 0, e => ⟨floorAt m q e, e⟩
  | fuel + 1, e =>
      let a := floorAt m q e
      let down := 0 < a && readsBack m q a e
      let up := readsBack m q (a + 1) e
      if down && up then
        if upperIsNearer m q e a then ⟨a + 1, e⟩ else ⟨a, e⟩
      else if down then ⟨a, e⟩
      else if up then ⟨a + 1, e⟩
      else search m q fuel (e - 1)

/-- Digits without zeros at their end. -/
def stripZeros : Nat → Shortest → Shortest
  | 0, s => s
  | fuel + 1, s =>
      if s.digits ≠ 0 ∧ s.digits % 10 = 0 then
        stripZeros fuel ⟨s.digits / 10, s.exponent + 1⟩
      else s

/-- The shortest digits of `m * 2^q`. -/
def shortest (m : Nat) (q : Int) : Shortest :=
  let whole := m * Nat.pow 2 q.toNat / Nat.pow 2 (-q).toNat
  let start : Int := if whole = 0 then 0 else (toString whole).length
  stripZeros 400 (search m q 400 start)

end Decimal

end CapabilityMesh
