/-
JSON strings: reading them, skipping them and writing them.
-/
import CapabilityMesh.Json.Fault
import CapabilityMesh.Text.Utf8

namespace CapabilityMesh

namespace Json

/-- The four digits of an escaped code unit.  A text with fewer than four bytes
left has ended. -/
def readHex4 : Reader Nat
  | cs =>
      if (Text.utf8 (cs.take 4)).length < 4 then .error .endInString
      else
        match cs with
        | a :: b :: c :: d :: rest =>
            match Text.hexDigit? a, Text.hexDigit? b, Text.hexDigit? c, Text.hexDigit? d with
            | some a, some b, some c, some d =>
                .ok (a * 4096 + b * 256 + c * 16 + d, rest)
            | _, _, _, _ => .error .badEscape
        | _ => .error .badEscape

def shortEscape? : Char → Option Char
  | '"' => some '"'
  | '\\' => some '\\'
  | '/' => some '/'
  | 'b' => some '\x08'
  | 'f' => some '\x0c'
  | 'n' => some '\n'
  | 'r' => some '\r'
  | 't' => some '\t'
  | _ => none

/-- The second half of a pair of surrogates. -/
def readLowSurrogate (high : Nat) : Reader Char
  | [] => .error .endInString
  | '\\' :: [] => .error .endInString
  | '\\' :: 'u' :: cs =>
      match readHex4 cs with
      | .error fault => .error fault
      | .ok (low, rest) =>
          if 0xDC00 ≤ low ∧ low ≤ 0xDFFF then
            .ok (Char.ofNat ((high - 0xD800) * 0x400 + (low - 0xDC00) + 0x10000), rest)
          else .error .loneSurrogate
  | _ => .error .endOfHexEscape

/-- What stands behind a backslash. -/
def readEscape : Reader Char
  | [] => .error .endInString
  | 'u' :: cs =>
      match readHex4 cs with
      | .error fault => .error fault
      | .ok (n, rest) =>
          if 0xDC00 ≤ n ∧ n ≤ 0xDFFF then .error .loneSurrogate
          else if 0xD800 ≤ n ∧ n ≤ 0xDBFF then readLowSurrogate n rest
          else .ok (Char.ofNat n, rest)
  | c :: cs =>
      match shortEscape? c with
      | some e => .ok (e, cs)
      | none => .error .badEscape

/-- The characters of a string behind its opening quote.  Every step reads at
least one character, so the length of the text is enough fuel. -/
def readChars : Nat → Reader (List Char)
  | 0, _ => .error .endInString
  | _ + 1, [] => .error .endInString
  | _ + 1, '"' :: rest => .ok ([], rest)
  | fuel + 1, '\\' :: cs =>
      match readEscape cs with
      | .error fault => .error fault
      | .ok (c, rest) =>
          match readChars fuel rest with
          | .error fault => .error fault
          | .ok (more, rest) => .ok (c :: more, rest)
  | fuel + 1, c :: cs =>
      if c.toNat < 0x20 then .error .controlCharacter
      else
        match readChars fuel cs with
        | .error fault => .error fault
        | .ok (more, rest) => .ok (c :: more, rest)

/-- A string behind its opening quote. -/
def readStringTail : Reader String
  | cs =>
      match readChars (cs.length + 1) cs with
      | .error fault => .error fault
      | .ok (chars, rest) => .ok (String.ofList chars, rest)

/-- Skip a string behind its opening quote.  Surrogates need no partner here,
since no text is made of them. -/
def skipStringTail : Nat → List Char → Except Fault (List Char)
  | 0, _ => .error .endInString
  | _ + 1, [] => .error .endInString
  | _ + 1, '"' :: rest => .ok rest
  | _ + 1, ['\\'] => .error .endInString
  | fuel + 1, '\\' :: 'u' :: cs =>
      match readHex4 cs with
      | .error fault => .error fault
      | .ok (_, rest) => skipStringTail fuel rest
  | fuel + 1, '\\' :: c :: cs =>
      match shortEscape? c with
      | some _ => skipStringTail fuel cs
      | none => .error .badEscape
  | fuel + 1, c :: cs =>
      if c.toNat < 0x20 then .error .controlCharacter else skipStringTail fuel cs

def writeChar (c : Char) : List Char :=
  match c with
  | '"' => ['\\', '"']
  | '\\' => ['\\', '\\']
  | '\x08' => ['\\', 'b']
  | '\x0c' => ['\\', 'f']
  | '\n' => ['\\', 'n']
  | '\r' => ['\\', 'r']
  | '\t' => ['\\', 't']
  | c =>
      if c.toNat < 0x20 then
        ['\\', 'u', '0', '0', Text.hexChar (c.toNat / 16), Text.hexChar (c.toNat % 16)]
      else [c]

def writeString (s : String) : List Char :=
  '"' :: s.toList.flatMap writeChar ++ ['"']

end Json

end CapabilityMesh
