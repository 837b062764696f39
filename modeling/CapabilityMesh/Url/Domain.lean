/-
Names of hosts in their ASCII form.  A name may be written in any script; its
characters are first brought into a common form, and every label that is not
ASCII then is encoded.
-/
import CapabilityMesh.Text.Blank
import CapabilityMesh.Text.Canonical
import CapabilityMesh.Text.Case
import CapabilityMesh.Text.Direction
import CapabilityMesh.Text.Joining
import CapabilityMesh.Text.Mark
import CapabilityMesh.Text.Split
import CapabilityMesh.Url.DomainTable
import CapabilityMesh.Url.Punycode

namespace CapabilityMesh

namespace Url

def isForbiddenInDomain (c : Char) : Bool :=
  c.toNat ≤ 0x20 || c.toNat == 0x7F
    || ['%', '#', '/', ':', '<', '>', '?', '@', '[', '\\', ']', '^', '|'].contains c

/-- What a character of a domain stands for; some may not appear.  A blank does not: it
is refused itself or stands for a space, which no domain holds. -/
def foldCharacter? (c : Char) : Option (List Char) :=
  if c.toNat < 0x80 then some [Text.lowerAscii c]
  else if Text.isBlank c || refusedInDomain.contains c.toNat then none
  else if ignoredInDomain.contains c.toNat then some []
  else
    match replacedInDomain.get? c.toNat with
    | some targets => some (targets.map Char.ofNat)
    | none => some [c]

/-- Whether a character may stand in a label that was encoded by its writer:
nothing else stands for it. -/
def isPlainInDomain (c : Char) : Bool :=
  foldCharacter? c == some [c]

/-- A joiner without a look, which some scripts need. -/
def nonJoiner : Char := '\u200C'

def joiner : Char := '\u200D'

/-- Whether a mark silences the vowel of a consonant. -/
def isSilencer (c : Char) : Bool :=
  Text.markClass c.toNat == 9

/-- Whether the characters before a sign, nearest first, join what follows. -/
def joinsForward (before : List Char) : Bool :=
  match before.dropWhile fun c => Text.Joining.of c == .transparent with
  | c :: _ => [Text.Joining.left, .dual].contains (Text.Joining.of c)
  | [] => false

def joinsBackward (behind : List Char) : Bool :=
  match behind.dropWhile fun c => Text.Joining.of c == .transparent with
  | c :: _ => [Text.Joining.right, .dual].contains (Text.Joining.of c)
  | [] => false

/-- Whether the joiners of a label stand where scripts need them.  `before` holds
the characters passed, the nearest first. -/
def joinersOk (before : List Char) : List Char → Bool
  | [] => true
  | c :: cs =>
      let isSilenced := (before.head?.map isSilencer).getD false
      let isOk :=
        if c = joiner then isSilenced
        else if c = nonJoiner then isSilenced || (joinsForward before && joinsBackward cs)
        else true
      isOk && joinersOk (c :: before) cs

def directionOk (label : List Char) : Bool :=
  let ds := label.map Text.Direction.of
  let last? := ds.reverse.find? (· ≠ .mark)
  let neutrals : List Text.Direction :=
    [.europeanNumber, .numberSign, .numberSeparator, .numberEnd, .neutral, .boundary, .mark]
  let ends (allowed : List Text.Direction) : Bool :=
    match last? with
    | some d => allowed.contains d
    | none => false
  match ds with
  | [] => true
  | .leftToRight :: _ =>
      ds.all (fun d => d == .leftToRight || neutrals.contains d)
        && ends [.leftToRight, .europeanNumber]
  | .rightToLeft :: _ | .arabicLetter :: _ =>
      let own : List Text.Direction := [.rightToLeft, .arabicLetter, .arabicNumber]
      ds.all (fun d => own.contains d || neutrals.contains d)
        && ends (.europeanNumber :: own)
        && !(ds.contains .europeanNumber && ds.contains .arabicNumber)
  | _ => false

def hasRightToLeft (label : List Char) : Bool :=
  label.any fun c =>
    [Text.Direction.rightToLeft, .arabicLetter, .arabicNumber].contains (Text.Direction.of c)

def encodedHead : List Char := "xn--".toList

/-- The characters of a label.  One that is encoded has to hold a character that
needs it, in its common form. -/
def labelCharacters? (label : List Char) : Option (List Char) :=
  match Text.behind? encodedHead label with
  | none => some label
  | some code => do
      let cs ← Punycode.decode? code
      if cs.all Punycode.isBasic then none
      else if !cs.all isPlainInDomain || Text.canonical cs ≠ cs
          || encodedHead.isPrefixOf cs then
        none
      else some cs

/-- Whether a label may be part of a domain that has characters of both
directions or not. -/
def labelOk (isMixed : Bool) (label : List Char) : Bool :=
  !label.any isForbiddenInDomain && !(label.head?.map Text.isMark).getD false
    && joinersOk [] label && (!isMixed || directionOk label)

def labelToAscii (label : List Char) : List Char :=
  if label.all Punycode.isBasic then label else encodedHead ++ Punycode.encode label

def domainToAscii? (cs : List Char) : Option (List Char) := do
  let folded ← cs.mapM foldCharacter?
  let labels ← (Text.splitOn '.' (Text.canonical folded.flatten)).mapM labelCharacters?
  let isMixed := labels.any hasRightToLeft
  if labels.all (labelOk isMixed) then
    some (['.'].intercalate (labels.map labelToAscii))
  else none

end Url

end CapabilityMesh
