/-
JSON numbers.  A whole number of 64 bits stays a whole number; any other
becomes a double, which takes the significant digits that fit and scales them
by a power of ten.
-/
import CapabilityMesh.Decimal.Shortest
import CapabilityMesh.Json.Fault

namespace CapabilityMesh

namespace Json

/-- A number as it was read. -/
inductive Number where
  | whole (value : Int)
  | double (value : Float)

/-- The layout of a positive double: plain notation for small exponents,
otherwise one digit before the point and an exponent. -/
def layOut (s : Decimal.Shortest) : String :=
  let digits := toString s.digits
  let length : Int := digits.length
  let point := length + s.exponent
  if 0 ≤ s.exponent ∧ point ≤ 16 then
    digits ++ String.ofList (List.replicate s.exponent.toNat '0') ++ ".0"
  else if 0 < point ∧ point ≤ 16 then
    String.ofList (digits.toList.take point.toNat) ++ "."
      ++ String.ofList (digits.toList.drop point.toNat)
  else if -5 < point ∧ point ≤ 0 then
    "0." ++ String.ofList (List.replicate (-point).toNat '0') ++ digits
  else
    let exponent := toString (point - 1)
    if digits.length = 1 then digits ++ "e" ++ exponent
    else
      String.ofList (digits.toList.take 1) ++ "."
        ++ String.ofList (digits.toList.drop 1) ++ "e" ++ exponent

def showDouble (x : Float) : String :=
  let bits := x.toBits.toNat
  let sign := if 0x8000000000000000 ≤ bits then "-" else ""
  let exponent : Nat := bits / 0x10000000000000 % 0x800
  let fraction : Nat := bits % 0x10000000000000
  if exponent = 0 ∧ fraction = 0 then sign ++ "0.0"
  else if exponent = 0 then sign ++ layOut (Decimal.shortest fraction (-1074))
  else
    sign ++ layOut (Decimal.shortest (fraction + 0x10000000000000) ((exponent : Int) - 1075))

namespace Number

def found : Number → Found
  | whole value => .integer value
  | double value => .float (showDouble value)

end Number

def isDigit (c : Char) : Bool :=
  '0' ≤ c && c ≤ '9'

def digitValue (c : Char) : Nat :=
  c.toNat - '0'.toNat

/-- Scale a significand by a power of ten, as far as doubles go.  Very small
numbers are scaled in steps. -/
def scale (positive : Bool) (significand : Nat) (exponent : Int) : Except Fault Float :=
  let signed (x : Float) : Float := if positive then x else -x
  let base := Float.ofNat significand
  if significand = 0 then .ok (signed base)
  else if 308 < exponent then .error .numberOutOfRange
  else if 0 ≤ exponent then
    let x := base * Float.ofScientific 1 false exponent.toNat
    if x.isInf then .error .numberOutOfRange else .ok (signed x)
  else .ok (signed (shrink 10 base (-exponent).toNat))
where
  /-- Divide by a power of ten, at most 308 places at a time. -/
  shrink : Nat → Float → Nat → Float
    | 0, x, _ => x * 0.0
    | steps + 1, x, places =>
        if places ≤ 308 then x / Float.ofScientific 1 false places
        else shrink steps (x / 1e308) (places - 308)

/-- The digits of an exponent.  One that no 32-bit number holds makes the number
too large or nothing. -/
def readExponentDigits (negative : Bool) (zero : Bool) :
    Nat → List Char → Except Fault (Int × List Char)
  | value, [] => .ok (if negative then -value else value, [])
  | value, c :: cs =>
      if isDigit c then
        let next := value * 10 + digitValue c
        if 0x80000000 ≤ next then
          if zero || negative then
            .ok (-0x80000000, cs.dropWhile isDigit)
          else .error .numberOutOfRange
        else readExponentDigits negative zero next cs
      else .ok (if negative then -value else value, c :: cs)

def readExponent (positive : Bool) (significand : Nat) (shift : Int) : Reader Number
  | cs =>
      let (negative, cs) :=
        match cs with
        | '+' :: rest => (false, rest)
        | '-' :: rest => (true, rest)
        | rest => (false, rest)
      match cs with
      | [] => .error .endInValue
      | c :: _ =>
          if isDigit c then do
            let (exponent, rest) ← readExponentDigits negative (significand == 0) 0 cs
            let x ← scale positive significand (shift + exponent)
            .ok (.double x, rest)
          else .error .badNumber

/-- The digits behind the point.  Digits that no longer fit are dropped. -/
def readFraction (full : Bool) : Nat → Int → List Char → Nat × Int × List Char
  | significand, shift, [] => (significand, shift, [])
  | significand, shift, c :: cs =>
      if isDigit c then
        let next := significand * 10 + digitValue c
        if full || UInt64.size ≤ next then readFraction true significand shift cs
        else readFraction false next (shift - 1) cs
      else (significand, shift, c :: cs)

def readDouble (positive : Bool) (significand : Nat) (shift : Int) : Reader Number
  | '.' :: cs =>
      match cs with
      | [] => .error .endInValue
      | c :: _ =>
          if isDigit c then
            match readFraction false significand shift cs with
            | (significand, shift, 'e' :: rest) => readExponent positive significand shift rest
            | (significand, shift, 'E' :: rest) => readExponent positive significand shift rest
            | (significand, shift, rest) => do
                let x ← scale positive significand shift
                .ok (.double x, rest)
          else .error .badNumber
  | 'e' :: cs => readExponent positive significand shift cs
  | 'E' :: cs => readExponent positive significand shift cs
  | cs => do
      let x ← scale positive significand shift
      .ok (.double x, cs)

/-- What follows the whole part of a number whose digits fit. -/
def readRest (positive : Bool) (significand : Nat) : Reader Number
  | cs =>
      match cs with
      | '.' :: _ | 'e' :: _ | 'E' :: _ => readDouble positive significand 0 cs
      | _ =>
          if positive then .ok (.whole significand, cs)
          else if significand = 0 ∨ 0x8000000000000000 < significand then
            .ok (.double (-(Float.ofNat significand)), cs)
          else .ok (.whole (-(significand : Int)), cs)

/-- The digits of the whole part.  Digits past 64 bits only move the point. -/
def readWhole (positive : Bool) : Nat → List Char → Except Fault (Number × List Char)
  | significand, [] => readRest positive significand []
  | significand, c :: cs =>
      if isDigit c then
        let next := significand * 10 + digitValue c
        if UInt64.size ≤ next then
          let more := (c :: cs).takeWhile isDigit
          readDouble positive significand more.length ((c :: cs).dropWhile isDigit)
        else readWhole positive next cs
      else readRest positive significand (c :: cs)

def readNumber (positive : Bool) : Reader Number
  | [] => .error .endInValue
  | '0' :: cs =>
      match cs with
      | c :: _ => if isDigit c then .error .badNumber else readRest positive 0 cs
      | [] => readRest positive 0 []
  | c :: cs =>
      if isDigit c then readWhole positive (digitValue c) cs else .error .badNumber

def skipExponent (cs : List Char) : Except Fault (List Char) :=
  let digits :=
    match cs with
    | '+' :: rest => rest
    | '-' :: rest => rest
    | rest => rest
  match digits with
  | c :: rest => if isDigit c then .ok (rest.dropWhile isDigit) else .error .badNumber
  | [] => .error .badNumber

/-- Skip what follows the whole part of a number. -/
def skipFraction : List Char → Except Fault (List Char)
  | '.' :: c :: cs =>
      if isDigit c then
        match cs.dropWhile isDigit with
        | 'e' :: rest => skipExponent rest
        | 'E' :: rest => skipExponent rest
        | rest => .ok rest
      else .error .badNumber
  | ['.'] => .error .badNumber
  | 'e' :: rest => skipExponent rest
  | 'E' :: rest => skipExponent rest
  | cs => .ok cs

/-- Skip a number behind its sign, whatever its size. -/
def skipNumber : List Char → Except Fault (List Char)
  | '0' :: c :: cs => if isDigit c then .error .badNumber else skipFraction (c :: cs)
  | c :: cs => if isDigit c then skipFraction (cs.dropWhile isDigit) else .error .badNumber
  | [] => .error .badNumber

end Json

end CapabilityMesh
