/-
Numeric hosts: four-byte addresses in their many notations and sixteen-byte
addresses between square brackets.
-/
import CapabilityMesh.Text.Number
import CapabilityMesh.Text.Split

namespace CapabilityMesh

namespace Url

/-- Read digits of a base; `none` if one does not belong to it. -/
def readBase (base : Nat) : Nat → List Char → Option Nat
  | value, [] => some value
  | value, c :: cs =>
      match Text.hexDigit? c with
      | some d => if d < base then readBase base (value * base + d) cs else none
      | none => none

/-- One number of a four-byte address: hexadecimal behind `0x`, octal behind a
leading zero, decimal otherwise. -/
def readAddressPart : List Char → Option Nat
  | [] => none
  | '0' :: 'x' :: cs => readBase 16 0 cs
  | '0' :: 'X' :: cs => readBase 16 0 cs
  | '0' :: c :: cs => readBase 8 0 (c :: cs)
  | cs => readBase 10 0 cs

/-- The parts of a host without the empty one that a last dot leaves. -/
def addressParts (host : List Char) : List (List Char) :=
  let parts := Text.splitOn '.' host
  if parts.getLast? = some [] then parts.dropLast else parts

/-- Whether the last part of a host is a number, so that the host has to be a
four-byte address. -/
def endsInNumber (host : List Char) : Bool :=
  match (addressParts host).getLast? with
  | none => false
  | some last =>
      (!last.isEmpty && last.all fun c => (Text.digit? c).isSome)
        || (readAddressPart last).isSome

/-- Put the leading bytes of a four-byte address before its last number. -/
def placeBytes : Nat → List Nat → Nat
  | _, [] => 0
  | weight, b :: bs => b * weight + placeBytes (weight / 256) bs

/-- The value of a four-byte address.  The last number fills all bytes that the
numbers before it leave. -/
def readAddress4 (host : List Char) : Option Nat := do
  let parts := addressParts host
  if 4 < parts.length then none
  let numbers ← parts.mapM readAddressPart
  let last ← numbers.getLast?
  let leading := numbers.dropLast
  if leading.any (fun n => 255 < n) then none
  if Nat.pow 256 (4 - leading.length) ≤ last then none
  some (placeBytes 0x1000000 leading + last)

/-- A four-byte address with its bytes in decimal. -/
def showAddress4 (n : Nat) : String :=
  ".".intercalate
    [toString (n / 0x1000000), toString (n / 0x10000 % 256),
      toString (n / 256 % 256), toString (n % 256)]

/-- What has been read of a sixteen-byte address: the pieces in front of the
gap and, once it was seen, those behind it, latest first. -/
structure Pieces where
  front : List Nat
  back : Option (List Nat)
deriving Repr

namespace Pieces

/-- How many of the eight places are taken.  A gap takes at least one. -/
def count (p : Pieces) : Nat :=
  match p.back with
  | none => p.front.length
  | some back => p.front.length + 1 + back.length

def push (p : Pieces) (n : Nat) : Pieces :=
  match p.back with
  | none => { p with front := n :: p.front }
  | some back => { p with back := some (n :: back) }

/-- Mark the gap, which may stand once. -/
def gap? (p : Pieces) : Option Pieces :=
  match p.back with
  | none => some { p with back := some [] }
  | some _ => none

/-- The eight pieces, the gap filled with zeros. -/
def finish? (p : Pieces) : Option (List Nat) :=
  match p.back with
  | none => if p.front.length = 8 then some p.front.reverse else none
  | some back =>
      some (p.front.reverse ++ List.replicate (8 - p.front.length - back.length) 0
        ++ back.reverse)

end Pieces

/-- Up to `limit` hexadecimal digits: value, how many, what follows. -/
def takeHex : Nat → Nat → Nat → List Char → Nat × Nat × List Char
  | 0, value, count, cs => (value, count, cs)
  | _ + 1, value, count, [] => (value, count, [])
  | limit + 1, value, count, c :: cs =>
      match Text.hexDigit? c with
      | some d => takeHex limit (value * 16 + d) (count + 1) cs
      | none => (value, count, c :: cs)

/-- One decimal byte without a leading zero. -/
def readByte (cs : List Char) : Option Nat :=
  match cs with
  | [] => none
  | ['0'] => some 0
  | '0' :: _ => none
  | cs => do
      let n ← readBase 10 0 cs
      if n ≤ 255 then some n else none

/-- The two pieces of a four-byte address at the end of a longer one. -/
def readTail4 (cs : List Char) : Option (Nat × Nat) :=
  match Text.splitOn '.' cs with
  | [a, b, c, d] => do
      let a ← readByte a
      let b ← readByte b
      let c ← readByte c
      let d ← readByte d
      some (a * 256 + b, c * 256 + d)
  | _ => none

/-- Read pieces until the text ends.  Each step reads at least one character,
so the length of the text bounds the number of steps. -/
def readPieces : Nat → Pieces → List Char → Option Pieces
  | _, p, [] => some p
  | 0, _, _ :: _ => none
  | fuel + 1, p, c :: cs =>
      if p.count = 8 then none
      else if c = ':' then (p.gap?).bind fun q => readPieces fuel q cs
      else
        match takeHex 4 0 0 (c :: cs) with
        | (_, _, '.' :: _) =>
            if 6 < p.count then none
            else (readTail4 (c :: cs)).map fun (x, y) => (p.push x).push y
        | (_, _, [':']) => none
        | (value, _ + 1, ':' :: rest) => readPieces fuel (p.push value) rest
        | (value, _ + 1, []) => some (p.push value)
        | _ => none

/-- The eight pieces of a sixteen-byte address. -/
def readAddress6 (cs : List Char) : Option (List Nat) :=
  match cs with
  | ':' :: ':' :: rest =>
      (readPieces rest.length ⟨[], some []⟩ rest).bind Pieces.finish?
  | ':' :: _ => none
  | cs => (readPieces cs.length ⟨[], none⟩ cs).bind Pieces.finish?

def zeroRun (pieces : List Nat) : Nat :=
  (pieces.takeWhile (· == 0)).length

def longestZeroRun : Nat → List Nat → Nat × Nat
  | _, [] => (0, 0)
  | start, piece :: pieces =>
      let here := zeroRun (piece :: pieces)
      let later := longestZeroRun (start + 1) pieces
      if later.2 ≤ here then (start, here) else later

/-- Pieces in hexadecimal with colons between them. -/
def joinPieces (pieces : List Nat) : String :=
  ":".intercalate (pieces.map Text.hex)

/-- A sixteen-byte address, its longest run of two or more zeros left out. -/
def showAddress6 (pieces : List Nat) : String :=
  let (start, length) := longestZeroRun 0 pieces
  if 2 ≤ length then
    joinPieces (pieces.take start) ++ "::" ++ joinPieces (pieces.drop (start + length))
  else joinPieces pieces

end Url

end CapabilityMesh
