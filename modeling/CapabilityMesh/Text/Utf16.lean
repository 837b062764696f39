/-
Bytes of text in two-byte units.  A character outside the basic plane takes two units; a
unit of such a pair without the other one is a fault, and so is what is left at the end.
-/

namespace CapabilityMesh

namespace Text

/-- The units of bytes; a last byte without its second is none. -/
def utf16Units (isBigEndian : Bool) : List UInt8 → List (Option Nat)
  | [] => []
  | [_] => [none]
  | first :: second :: rest =>
      let unit :=
        if isBigEndian then first.toNat * 256 + second.toNat
        else second.toNat * 256 + first.toNat
      some unit :: utf16Units isBigEndian rest

def isLeadingUnit (unit : Nat) : Bool :=
  0xD800 ≤ unit && unit < 0xDC00

def isTrailingUnit (unit : Nat) : Bool :=
  0xDC00 ≤ unit && unit < 0xE000

/-- The characters and faults of units, in order.  A unit that was to be the second of a
pair, and is not, is read again. -/
def scanUtf16 : List (Option Nat) → List (Option Char)
  | [] => []
  | none :: _ => [none]
  | [some unit] =>
      if isLeadingUnit unit || isTrailingUnit unit then [none] else [some (Char.ofNat unit)]
  | some unit :: next :: rest =>
      if isLeadingUnit unit then
        match next with
        | none => [none]
        | some trailing =>
            if isTrailingUnit trailing then
              some (Char.ofNat (0x10000 + (unit - 0xD800) * 0x400 + (trailing - 0xDC00)))
                :: scanUtf16 rest
            else none :: scanUtf16 (next :: rest)
      else if isTrailingUnit unit then none :: scanUtf16 (next :: rest)
      else some (Char.ofNat unit) :: scanUtf16 (next :: rest)

def ofUtf16Lossy (isBigEndian : Bool) (bytes : List UInt8) : String :=
  String.ofList ((scanUtf16 (utf16Units isBigEndian bytes)).map fun found => found.getD '\uFFFD')

end Text

end CapabilityMesh
