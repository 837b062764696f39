/-
Percent encoding.  A set of characters says what has to be encoded in one part
of a URL; each larger part of the grammar adds a few characters to a smaller
one.
-/
import CapabilityMesh.Text.Number
import CapabilityMesh.Text.Utf8

namespace CapabilityMesh

namespace Url

/-- Controls and everything outside ASCII. -/
def inControlSet (c : Char) : Bool :=
  c.toNat < 0x20 || 0x7E < c.toNat

def inFragmentSet (c : Char) : Bool :=
  inControlSet c || [' ', '"', '<', '>', '\x60'].contains c

/-- What a query encodes.  Under a special scheme the single quote joins. -/
def inQuerySet (special : Bool) (c : Char) : Bool :=
  inControlSet c || [' ', '"', '#', '<', '>'].contains c
    || (special && c == '\'')

def inPathSet (c : Char) : Bool :=
  inFragmentSet c || ['#', '?', '\x7b', '\x7d'].contains c

/-- What a user name or a password encodes. -/
def inUserInfoSet (c : Char) : Bool :=
  inPathSet c
    || ['/', ':', ';', '=', '@', '[', '\\', ']', '^', '|'].contains c

def escapeByte (b : UInt8) : List Char :=
  '%' :: Text.hexByte b.toNat

def encodeChar (set : Char → Bool) (c : Char) : List Char :=
  if set c then (Text.utf8OfChar c).flatMap escapeByte else [c]

def encode (set : Char → Bool) (cs : List Char) : List Char :=
  cs.flatMap (encodeChar set)

/-- The bytes of a text, an escape read as the byte that it writes.  A percent
sign without two digits behind it stands for itself. -/
def decodeBytes : List Char → List UInt8
  | [] => []
  | '%' :: a :: b :: cs =>
      match Text.hexDigit? a, Text.hexDigit? b with
      | some x, some y => (x * 16 + y).toUInt8 :: decodeBytes cs
      | _, _ => 0x25 :: decodeBytes (a :: b :: cs)
  | c :: cs => Text.utf8OfChar c ++ decodeBytes cs

end Url

end CapabilityMesh
