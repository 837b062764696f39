/-
Points in time and their text.  Written forms are strict; reading also takes
single digits, blanks between parts, a blank or a small letter for the `T`, and
signed years of any length.
-/
import CapabilityMesh.Text.Blank
import CapabilityMesh.Text.Number
import CapabilityMesh.Wire.Calendar

namespace CapabilityMesh

/-- A point in time: seconds since 1970 and a part of a second in nanoseconds.
Inside a leap second the part reaches past one second. -/
structure Timestamp where
  second : Int
  nano : Nat
deriving Repr, DecidableEq

/-- Why a text is no point in time. -/
inductive TimestampFault where
  | outOfRange
  | invalid
  | tooShort
  | tooLong
deriving Repr, DecidableEq

namespace TimestampFault

def message : TimestampFault → String
  | outOfRange => "input is out of range"
  | invalid => "input contains invalid characters"
  | tooShort => "premature end of input"
  | tooLong => "trailing input"

end TimestampFault

namespace Timestamp

/-- Reading one part of a point in time from the left of a text. -/
abbrev Part (α : Type) := List Char → Except TimestampFault (α × List Char)

/-- A text without the blanks at its head. -/
def skipBlanks (cs : List Char) : List Char :=
  cs.dropWhile Text.isBlank

/-- Read at most `width` digits of a number of which `seen` have been read. -/
def readDigits : Nat → Nat → Nat → Part Nat
  | 0, _, value, cs => .ok (value, cs)
  | _ + 1, seen, value, [] => if seen = 0 then .error .tooShort else .ok (value, [])
  | width + 1, seen, value, c :: cs =>
      match Text.digit? c with
      | some d =>
          if value * 10 + d < 0x8000000000000000 then readDigits width (seen + 1) (value * 10 + d) cs
          else .error .outOfRange
      | none => if seen = 0 then .error .invalid else .ok (value, c :: cs)

/-- Read a number of at most `width` digits between two bounds. -/
def readField (width low high : Nat) : Part Nat
  | cs => do
      let (n, rest) ← readDigits width 0 0 (skipBlanks cs)
      if low ≤ n ∧ n ≤ high then .ok (n, rest) else .error .outOfRange

/-- Read a year.  With a sign it may have any number of digits. -/
def readYear : Part Int
  | cs => do
      let bounded (year : Int) (rest : List Char) :
          Except TimestampFault (Int × List Char) :=
        if -0x80000000 ≤ year ∧ year < 0x80000000 then .ok (year, rest)
        else .error .outOfRange
      match skipBlanks cs with
      | '-' :: digits =>
          let (n, rest) ← readDigits digits.length.succ 0 0 digits
          bounded (-(n : Int)) rest
      | '+' :: digits =>
          let (n, rest) ← readDigits digits.length.succ 0 0 digits
          bounded n rest
      | digits =>
          let (n, rest) ← readDigits 4 0 0 digits
          bounded n rest

def skipMark (mark : Char) (cs : List Char) : Except TimestampFault (List Char) :=
  match skipBlanks cs with
  | [] => .error .tooShort
  | c :: rest => if c = mark then .ok rest else .error .invalid

/-- Read a part of a second; digits past nanoseconds are dropped. -/
def readFraction : Part Nat
  | '.' :: cs => do
      let (n, rest) ← readDigits 9 0 0 cs
      let width := cs.length - rest.length
      .ok (n * Nat.pow 10 (9 - width), rest.dropWhile fun c => (Text.digit? c).isSome)
  | cs => .ok (0, cs)

def readPair : Part (Nat × Nat)
  | [] => .error .tooShort
  | [c] => if c.toNat < 0x80 then .error .tooShort else .error .invalid
  | a :: b :: rest =>
      match Text.digit? a, Text.digit? b with
      | some x, some y => .ok ((x, y), rest)
      | _, _ => .error .invalid

def readOffset : Part Int
  | cs =>
      match cs with
      | 'Z' :: rest | 'z' :: rest => .ok (0, rest)
      | '+' :: rest => behindSign 1 rest
      | '-' :: rest => behindSign (-1) rest
      | [] => .error .tooShort
      | a :: b :: c :: rest =>
          if a = '\u2212' then behindSign (-1) (b :: c :: rest)
          else if a.toUpper = 'U' ∧ b.toUpper = 'T' ∧ c.toUpper = 'C' then .ok (0, rest)
          else .error .invalid
      | a :: rest => if a = '\u2212' then behindSign (-1) rest else .error .invalid
where
  /-- Hours and minutes behind the sign. -/
  behindSign (sign : Int) (cs : List Char) : Except TimestampFault (Int × List Char) := do
    let ((h1, h2), rest) ← readPair cs
    let ((m1, m2), rest) ←
      readPair (rest.dropWhile fun c => c == ':' || Text.isBlank c)
    if 6 ≤ m1 then .error .outOfRange
    else .ok (sign * ((h1 * 10 + h2) * 3600 + (m1 * 10 + m2) * 60), rest)

def yearInRange (year : Int) : Bool :=
  -262143 ≤ year && year ≤ 262142

def skipDayEnd : List Char → Except TimestampFault (List Char)
  | 'T' :: rest | 't' :: rest | ' ' :: rest => .ok rest
  | [] => .error .tooShort
  | _ => .error .invalid

/-- The point in time of a day and a time of day, at a distance from universal time.  The
second behind the last of a minute is part of that one. -/
def ofParts (date : Date) (hour minute second nano : Nat) (offset : Int) :
    Except TimestampFault Timestamp :=
  if !(date.isValid && yearInRange date.year) then .error .outOfRange
  else if ¬(-86400 < offset ∧ offset < 86400) then .error .outOfRange
  else
    let (second, nano) := if second = 60 then (59, nano + 1000000000) else (second, nano)
    .ok ⟨date.toDays * 86400 + hour * 3600 + minute * 60 + second - offset, nano⟩

def parse (s : String) : Except TimestampFault Timestamp := do
  let (year, cs) ← readYear s.toList
  let cs ← skipMark '-' cs
  let (month, cs) ← readField 2 1 12 cs
  let cs ← skipMark '-' cs
  let (day, cs) ← readField 2 1 31 cs
  let cs ← skipDayEnd cs
  let (hour, cs) ← readField 2 0 23 cs
  let cs ← skipMark ':' cs
  let (minute, cs) ← readField 2 0 59 cs
  let cs ← skipMark ':' cs
  let (second, cs) ← readField 2 0 60 cs
  let (nano, cs) ← readFraction cs
  let (offset, cs) ← readOffset (skipBlanks cs)
  if (skipBlanks cs).isEmpty then ofParts ⟨year, month, day⟩ hour minute second nano offset
  else .error .tooLong

/-- A number with leading zeros. -/
def padded (width n : Nat) : String :=
  let digits := toString n
  String.ofList (List.replicate (width - digits.length) '0') ++ digits

/-- A year: four digits, or a sign and at least four. -/
def showYear (year : Int) : String :=
  if 0 ≤ year ∧ year ≤ 9999 then padded 4 year.toNat
  else (if year < 0 then "-" else "+") ++ padded 4 year.natAbs

/-- A part of a second with three, six or nine digits, or none at all. -/
def showFraction (nano : Nat) : String :=
  if nano = 0 then ""
  else if nano % 1000000 = 0 then "." ++ padded 3 (nano / 1000000)
  else if nano % 1000 = 0 then "." ++ padded 6 (nano / 1000)
  else "." ++ padded 9 nano

def render (t : Timestamp) : String :=
  let date := Date.ofDays (t.second / 86400)
  let ofDay := (t.second % 86400).toNat
  let (leap, nano) := if 1000000000 ≤ t.nano then (1, t.nano - 1000000000) else (0, t.nano)
  showYear date.year ++ "-" ++ padded 2 date.month ++ "-" ++ padded 2 date.day ++ "T"
    ++ padded 2 (ofDay / 3600) ++ ":" ++ padded 2 (ofDay / 60 % 60) ++ ":"
    ++ padded 2 (ofDay % 60 + leap) ++ showFraction nano ++ "Z"

end Timestamp

end CapabilityMesh
