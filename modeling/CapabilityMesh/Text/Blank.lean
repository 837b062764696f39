/-
Blank characters and text without its outer blanks.  A blank is a character
of the standard white-space class; setting values and paths are compared and
stored after their outer blanks are gone.
-/

namespace CapabilityMesh

namespace Text

/-- The characters of the standard's white-space class. -/
def isBlank (c : Char) : Bool :=
  let n := c.toNat
  (9 ≤ n && n ≤ 13) || n == 0x20 || n == 0x85 || n == 0xA0 || n == 0x1680
    || (0x2000 ≤ n && n ≤ 0x200A) || n == 0x2028 || n == 0x2029
    || n == 0x202F || n == 0x205F || n == 0x3000

def dropEnd (p : Char → Bool) (cs : List Char) : List Char :=
  (cs.reverse.dropWhile p).reverse

/-- A list of characters without the members of a class at both ends. -/
def strip (p : Char → Bool) (cs : List Char) : List Char :=
  dropEnd p (cs.dropWhile p)

/-- Text without its outer blanks. -/
def trim (s : String) : String :=
  String.ofList (strip isBlank s.toList)

def isBlankText (s : String) : Bool :=
  s.toList.all isBlank

end Text

end CapabilityMesh
