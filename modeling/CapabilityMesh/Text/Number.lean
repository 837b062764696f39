/-
Unsigned decimal numbers written in ASCII digits.  Reading goes from left to
right and stops at the first fault, so a number that is already too large is
reported before a bad character that stands behind it.
-/

namespace CapabilityMesh

/-- Why a text is no number below a given limit. -/
inductive NumberFault where
  | empty
  | badDigit
  | tooLarge
deriving Repr, DecidableEq

namespace NumberFault

def message : NumberFault → String
  | empty => "cannot parse integer from empty string"
  | badDigit => "invalid digit found in string"
  | tooLarge => "number too large to fit in target type"

end NumberFault

namespace Text

def digit? (c : Char) : Option Nat :=
  if '0' ≤ c ∧ c ≤ '9' then some (c.toNat - '0'.toNat) else none

/-- The value of an ASCII hexadecimal digit, small or capital. -/
def hexDigit? (c : Char) : Option Nat :=
  if '0' ≤ c ∧ c ≤ '9' then some (c.toNat - '0'.toNat)
  else if 'a' ≤ c ∧ c ≤ 'f' then some (c.toNat - 'a'.toNat + 10)
  else if 'A' ≤ c ∧ c ≤ 'F' then some (c.toNat - 'A'.toNat + 10)
  else none

/-- Read the remaining digits behind a number that is below the limit. -/
def readDigits (limit : Nat) : Nat → List Char → Except NumberFault Nat
  | value, [] => .ok value
  | value, c :: cs =>
      match digit? c with
      | none => .error .badDigit
      | some d =>
          let next := value * 10 + d
          if next < limit then readDigits limit next cs else .error .tooLarge

/-- Read a number below `limit`.  One plus sign may stand before the digits. -/
def readNumber (limit : Nat) (s : String) : Except NumberFault Nat :=
  match s.toList with
  | [] => .error .empty
  | ['+'] => .error .badDigit
  | '+' :: cs => readDigits limit 0 cs
  | cs => readDigits limit 0 cs

/-- The digit that stands for a number below sixteen. -/
def hexChar (n : Nat) : Char :=
  if n < 10 then Char.ofNat ('0'.toNat + n) else Char.ofNat ('a'.toNat + (n - 10))

/-- A number in small hexadecimal digits without leading zeros. -/
def hex (n : Nat) : String :=
  String.ofList (Nat.toDigits 16 n)

/-- The two hexadecimal digits of a number below 256, as capitals. -/
def hexByte (n : Nat) : List Char :=
  [(hexChar (n / 16)).toUpper, (hexChar (n % 16)).toUpper]

end Text

end CapabilityMesh
