/-
The composed form of text: characters and marks that can be put together are put
together, and the marks that stay are in the order of their classes.
-/
import CapabilityMesh.Text.CanonicalTable

namespace CapabilityMesh

namespace Text

/-- The class of a mark; zero for all other characters. -/
def markClass (n : Nat) : Nat :=
  if n < 0x300 then 0
  else
    match markClasses.find? fun entry => entry.2.contains n with
    | some entry => entry.1
    | none => 0

/-- Korean syllables are put together by rule: where they begin, and where their
leading, middle and closing parts begin. -/
structure SyllableBlock where
  syllable : Nat := 0xAC00
  leading : Nat := 0x1100
  middle : Nat := 0x1161
  /-- One less than the first closing part. -/
  closing : Nat := 0x11A7
  leadingCount : Nat := 19
  middleCount : Nat := 21
  closingCount : Nat := 28

namespace SyllableBlock

def split? (b : SyllableBlock) (n : Nat) : Option (List Nat) :=
  let perLeading := b.middleCount * b.closingCount
  if n < b.syllable ∨ b.syllable + b.leadingCount * perLeading ≤ n then none
  else
    let index := n - b.syllable
    let front := [b.leading + index / perLeading,
      b.middle + index % perLeading / b.closingCount]
    match index % b.closingCount with
    | 0 => some front
    | closing => some (front ++ [b.closing + closing])

/-- Put a leading and a middle part together, or a syllable without a closing
part and such a part. -/
def join? (b : SyllableBlock) (x y : Nat) : Option Nat :=
  let perLeading := b.middleCount * b.closingCount
  if b.leading ≤ x ∧ x < b.leading + b.leadingCount
      ∧ b.middle ≤ y ∧ y < b.middle + b.middleCount then
    some (b.syllable + (x - b.leading) * perLeading + (y - b.middle) * b.closingCount)
  else if b.syllable ≤ x ∧ x < b.syllable + b.leadingCount * perLeading
      ∧ (x - b.syllable) % b.closingCount = 0
      ∧ b.closing < y ∧ y < b.closing + b.closingCount then
    some (x + (y - b.closing))
  else none

end SyllableBlock

/-- How deeply a character can be put together from others. -/
def compositionDepth : Nat := 4

def takeApart : Nat → Nat → List Nat
  | 0, n => [n]
  | depth + 1, n =>
      match SyllableBlock.split? {} n with
      | some parts => parts
      | none =>
          match decompositions.get? n with
          | some parts => parts.flatMap (takeApart depth)
          | none => [n]

/-- Take characters apart; those that nothing is known of stay. -/
def decompose (ns : List Nat) : List Nat :=
  ns.flatMap fun n => if n < 0xC0 then [n] else takeApart compositionDepth n

/-- Put a mark in its place among marks before a character. -/
def insertMark (n : Nat) : List Nat → List Nat
  | [] => [n]
  | m :: ms =>
      if markClass m = 0 ∨ markClass n ≤ markClass m then n :: m :: ms
      else m :: insertMark n ms

/-- Put marks in the order of their classes.  Marks of one class keep their
order, and no mark leaves its character. -/
def orderMarks (ns : List Nat) : List Nat :=
  ns.foldr (fun n rest => if markClass n = 0 then n :: rest else insertMark n rest) []

/-- Put two characters together. -/
def join? (x y : Nat) : Option Nat :=
  match SyllableBlock.join? {} x y with
  | some n => some n
  | none =>
      (decompositions.find? fun run =>
        run.target == [x, y] && !decomposedForever.contains run.first).map CodeRun.first

/-- Put characters together.  `base` is the last character that marks can still
join, `marks` what follows it; a mark cannot pass one of its own class. -/
def composeFrom (base : Nat) (marks : List Nat) : List Nat → List Nat
  | [] => base :: marks
  | n :: ns =>
      let isFree := match marks.getLast? with
        | none => true
        | some m => markClass m < markClass n
      match if isFree then join? base n else none with
      | some joined => composeFrom joined marks ns
      | none =>
          if markClass n = 0 then base :: marks ++ composeFrom n [] ns
          else composeFrom base (marks ++ [n]) ns

/-- Put characters together that were taken apart.  Marks without a character
stay as they are. -/
def compose : List Nat → List Nat
  | [] => []
  | n :: ns => if markClass n = 0 then composeFrom n [] ns else n :: compose ns

def canonical (cs : List Char) : List Char :=
  if cs.all fun c => c.toNat < 0xC0 then cs
  else (compose (orderMarks (decompose (cs.map Char.toNat)))).map Char.ofNat

end Text

end CapabilityMesh
