/-
The text of a body.  A mark at the head of the bytes tells their encoding.  Bytes without
one are in the encoding that the answer names, and in UTF-8 if it names none that is known.
-/
import CapabilityMesh.Text.Utf16
import CapabilityMesh.Text.Utf8

namespace CapabilityMesh

/-- How bytes are read as text.  There is a text for all bytes: faults have a character of
their own. -/
abbrev Encoding := List UInt8 → String

namespace Encoding

def utf8 : Encoding := Text.ofUtf8Lossy

def utf16 (isBigEndian : Bool) : Encoding := Text.ofUtf16Lossy isBigEndian

/-- The encoding that a mark at the head of bytes tells, with the bytes behind the mark. -/
def ofMark? : List UInt8 → Option (Encoding × List UInt8)
  | 0xEF :: 0xBB :: 0xBF :: rest => some (utf8, rest)
  | 0xFF :: 0xFE :: rest => some (utf16 false, rest)
  | 0xFE :: 0xFF :: rest => some (utf16 true, rest)
  | _ => none

/-- The text of bytes that are in an encoding unless a mark tells another one. -/
def sniff (named : Encoding) (bytes : List UInt8) : String :=
  match ofMark? bytes with
  | some (marked, rest) => marked rest
  | none => named bytes

end Encoding

end CapabilityMesh
