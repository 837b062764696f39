/-
Letter case as far as comparisons with words of small ASCII letters need it.
-/

namespace CapabilityMesh

namespace Text

/-- The small letter of a capital ASCII letter; any other character is kept. -/
def lowerAscii (c : Char) : Char :=
  if 'A' ≤ c ∧ c ≤ 'Z' then Char.ofNat (c.toNat + 32) else c

/-- The small form of a character whose small form is one ASCII character.
Besides the capital letters these are the Kelvin sign alone; every other
character is kept, and so keeps differing from every word of small ASCII
letters. -/
def lowerChar (c : Char) : Char :=
  if c.toNat = 0x212A then 'k' else lowerAscii c

/-- Text with each character replaced by its small form. -/
def lower (s : String) : String :=
  String.ofList (s.toList.map lowerChar)

end Text

end CapabilityMesh
