/-
TOML strings, numbers, dates and times.
-/
import CapabilityMesh.Text.Number
import CapabilityMesh.Text.Split
import CapabilityMesh.Toml.Item
import CapabilityMesh.Wire.Calendar

namespace CapabilityMesh

namespace Toml

/-- Blanks inside a line. -/
def isWs (c : Char) : Bool :=
  c == ' ' || c == '\t'

/-- Text without the blanks at its head. -/
def skipWs (cs : List Char) : List Char :=
  cs.dropWhile isWs

/-- Characters that may stand in comments and in literal strings. -/
def isPlain (c : Char) : Bool :=
  c == '\t' || (0x20 ≤ c.toNat && c.toNat != 0x7F)

/-- What stands behind a line break. -/
def behindNewline? : List Char → Option (List Char)
  | '\n' :: rest => some rest
  | '\r' :: '\n' :: rest => some rest
  | _ => none

def readHexDigits : Nat → Nat → List Char → Option (Nat × List Char)
  | 0, value, cs => some (value, cs)
  | _ + 1, _, [] => none
  | count + 1, value, c :: cs =>
      (Text.hexDigit? c).bind fun d => readHexDigits count (value * 16 + d) cs

/-- The character of a code point, if it has one. -/
def charOf? (n : Nat) : Option Char :=
  if n < 0xD800 ∨ (0xDFFF < n ∧ n < 0x110000) then some (Char.ofNat n) else none

/-- What stands behind a backslash. -/
def readEscape : List Char → Option (Char × List Char)
  | 'b' :: rest => some ('\x08', rest)
  | 't' :: rest => some ('\t', rest)
  | 'n' :: rest => some ('\n', rest)
  | 'f' :: rest => some ('\x0c', rest)
  | 'r' :: rest => some ('\r', rest)
  | '"' :: rest => some ('"', rest)
  | '\\' :: rest => some ('\\', rest)
  | 'u' :: rest => do
      let (n, rest) ← readHexDigits 4 0 rest
      return (← charOf? n, rest)
  | 'U' :: rest => do
      let (n, rest) ← readHexDigits 8 0 rest
      return (← charOf? n, rest)
  | _ => none

/-- A string of one line behind its double quote. -/
def readBasic : Nat → List Char → Option (List Char × List Char)
  | 0, _ => none
  | _ + 1, [] => none
  | _ + 1, '"' :: rest => some ([], rest)
  | fuel + 1, '\\' :: cs => do
      let (c, rest) ← readEscape cs
      let (more, rest) ← readBasic fuel rest
      some (c :: more, rest)
  | fuel + 1, c :: cs =>
      if isPlain c then (readBasic fuel cs).map fun (more, rest) => (c :: more, rest)
      else none

/-- A literal string of one line behind its single quote. -/
def readLiteral : List Char → Option (List Char × List Char)
  | [] => none
  | '\'' :: rest => some ([], rest)
  | c :: cs =>
      if isPlain c then (readLiteral cs).map fun (more, rest) => (c :: more, rest)
      else none

/-- What stands behind a backslash that ends its line: line breaks and blanks are
dropped up to the next other character. -/
def behindLineEnd? (cs : List Char) : Option (List Char) :=
  (behindNewline? (skipWs cs)).map fun rest => dropBreaks (rest.length + 1) rest
where
  /-- Drop blanks and line breaks. -/
  dropBreaks : Nat → List Char → List Char
    | 0, cs => cs
    | fuel + 1, cs =>
        match behindNewline? (skipWs cs) with
        | some rest => dropBreaks fuel rest
        | none => skipWs cs

/-- The end of a string of several lines: three quotes, before which up to two
may belong to the string. -/
def closing? (quote : Char) (cs : List Char) : Option (List Char × List Char) :=
  let run := (cs.takeWhile (· == quote)).length
  if run < 3 then none
  else
    let inside := min (run - 3) 2
    some (List.replicate inside quote, cs.drop (inside + 3))

def readLines (quote : Char) : Nat → List Char → Option (List Char × List Char)
  | 0, _ => none
  | _ + 1, [] => none
  | fuel + 1, c :: cs =>
      match closing? quote (c :: cs) with
      | some found => some found
      | none =>
          if c = '\\' ∧ quote = '"' then
            match behindLineEnd? cs with
            | some rest => readLines quote fuel rest
            | none => do
                let (c, rest) ← readEscape cs
                let (more, rest) ← readLines quote fuel rest
                some (c :: more, rest)
          else
            match behindNewline? (c :: cs) with
            | some rest =>
                (readLines quote fuel rest).map fun (more, rest) => ('\n' :: more, rest)
            | none =>
                if isPlain c then
                  (readLines quote fuel cs).map fun (more, rest) => (c :: more, rest)
                else none

/-- A string of several lines; a line break at its head does not count. -/
def readLinesHead (quote : Char) (cs : List Char) : Option (List Char × List Char) :=
  let body := (behindNewline? cs).getD cs
  readLines quote (body.length + 1) body

def readString : List Char → Option (String × List Char)
  | '"' :: '"' :: '"' :: rest =>
      (readLinesHead '"' rest).map fun (s, rest) => (String.ofList s, rest)
  | '\'' :: '\'' :: '\'' :: rest =>
      (readLinesHead '\'' rest).map fun (s, rest) => (String.ofList s, rest)
  | '"' :: rest =>
      (readBasic (rest.length + 1) rest).map fun (s, rest) => (String.ofList s, rest)
  | '\'' :: rest => (readLiteral rest).map fun (s, rest) => (String.ofList s, rest)
  | _ => none

/-- Digits of a base; single underscores may stand between two of them. -/
def digits? (base : Nat) (cs : List Char) : Option (List Nat) :=
  let parts := Text.splitOn '_' cs
  if parts.any List.isEmpty then none
  else
    parts.flatten.mapM fun c =>
      (Text.hexDigit? c).bind fun d => if d < base then some d else none

def valueOf (base : Nat) (digits : List Nat) : Nat :=
  digits.foldl (fun value d => value * base + d) 0

def splitSign : List Char → Bool × List Char
  | '-' :: rest => (true, rest)
  | '+' :: rest => (false, rest)
  | rest => (false, rest)

/-- Decimal digits without a zero at their head. -/
def wholeDigits? (cs : List Char) : Option (List Nat) :=
  match cs with
  | '0' :: _ :: _ => none
  | _ => digits? 10 cs

/-- A whole number of 64 bits. -/
def readInteger (token : List Char) : Option Int :=
  let bounded (n : Int) : Option Int :=
    if -0x8000000000000000 ≤ n ∧ n < 0x8000000000000000 then some n else none
  match token with
  | '0' :: 'x' :: rest => (digits? 16 rest).bind fun ds => bounded (valueOf 16 ds)
  | '0' :: 'o' :: rest => (digits? 8 rest).bind fun ds => bounded (valueOf 8 ds)
  | '0' :: 'b' :: rest => (digits? 2 rest).bind fun ds => bounded (valueOf 2 ds)
  | _ =>
      let (negative, rest) := splitSign token
      (wholeDigits? rest).bind fun ds =>
        bounded (if negative then -(valueOf 10 ds : Int) else valueOf 10 ds)

/-- Whether `digits * 10^exponent` is too large for a double. -/
def overflows (digits : List Nat) (exponent : Int) : Bool :=
  let value := valueOf 10 digits
  let places := ((toString value).length : Int) + exponent
  if value = 0 || places < 308 then false
  else if 310 < places then true
  else (Nat.pow 2 1024 - Nat.pow 2 970) * Nat.pow 10 (-exponent).toNat
      ≤ value * Nat.pow 10 exponent.toNat

/-- Whether a token is a number with a fraction or an exponent, or one of the
special ones. -/
def isFloat (token : List Char) : Bool :=
  let (negative, rest) := splitSign token
  if rest = "inf".toList ∨ rest = "nan".toList then true
  else
    let isMark (c : Char) : Bool := c == 'e' || c == 'E'
    let front := rest.takeWhile fun c => !isMark c
    let back := rest.dropWhile fun c => !isMark c
    let exponent? : Option Int :=
      match back with
      | [] => some 0
      | _ :: exponent =>
          let (negative, ds) := splitSign exponent
          (digits? 10 ds).map fun ds =>
            if negative then -(valueOf 10 ds : Int) else valueOf 10 ds
    match Text.splitOn '.' front, exponent? with
    | [whole], some exponent =>
        match wholeDigits? whole with
        | some ds => !back.isEmpty && (negative || !overflows ds exponent)
        | none => false
    | [whole, fraction], some exponent =>
        match wholeDigits? whole, digits? 10 fraction with
        | some ds, some fs =>
            negative || !overflows (ds ++ fs) (exponent - fs.length)
        | _, _ => false
    | _, _ => false

def twoDigits? (bound : Nat) : List Char → Option Nat
  | [a, b] => do
      let n := (← Text.digit? a) * 10 + (← Text.digit? b)
      if n ≤ bound then some n else none
  | _ => none

/-- Whether a text is a day of the calendar. -/
def isDate (cs : List Char) : Bool :=
  match Text.splitOn '-' cs with
  | [year, month, day] =>
      match year.mapM Text.digit?, twoDigits? 12 month, twoDigits? 31 day with
      | some ds, some month, some day =>
          ds.length == 4 && Date.isValid ⟨valueOf 10 ds, month, day⟩
      | _, _, _ => false
  | _ => false

/-- Whether a text is a time of day; its seconds may have a fraction. -/
def isTime (cs : List Char) : Bool :=
  match Text.splitOn ':' cs with
  | [hour, minute, second] =>
      let fractionOk :=
        match Text.splitOn '.' second with
        | [_] => true
        | [_, fraction] =>
            !fraction.isEmpty && fraction.all fun c => (Text.digit? c).isSome
        | _ => false
      (twoDigits? 23 hour).isSome && (twoDigits? 59 minute).isSome
        && (twoDigits? 60 (second.takeWhile (· != '.'))).isSome && fractionOk
  | _ => false

/-- Whether a text is a time of day, perhaps with its distance from universal
time. -/
def isOffsetTime (cs : List Char) : Bool :=
  let isMark (c : Char) : Bool := c == 'Z' || c == 'z' || c == '+' || c == '-'
  let time := cs.takeWhile fun c => !isMark c
  isTime time &&
    match cs.dropWhile fun c => !isMark c with
    | [] => true
    | ['Z'] | ['z'] => true
    | sign :: offset =>
        (sign == '+' || sign == '-') &&
          match Text.splitOn ':' offset with
          | [hour, minute] =>
              (twoDigits? 23 hour).isSome && (twoDigits? 59 minute).isSome
          | _ => false

def isDateTime (token : List Char) : Bool :=
  isTime token || isDate token ||
    (isDate (token.take 10) &&
      match token.drop 10 with
      | mark :: time => (mark == 'T' || mark == 't' || mark == ' ') && isOffsetTime time
      | [] => false)

/-- Characters of numbers, dates and words. -/
def isTokenChar (c : Char) : Bool :=
  c.isAlphanum || c == '+' || c == '-' || c == '_' || c == '.' || c == ':'

/-- Take a token.  A blank may join a date and a time. -/
def takeToken (cs : List Char) : List Char × List Char :=
  let token := cs.takeWhile isTokenChar
  let rest := cs.dropWhile isTokenChar
  match rest with
  | ' ' :: c :: more =>
      if isDate token && (Text.digit? c).isSome then
        (token ++ ' ' :: (c :: more).takeWhile isTokenChar,
          (c :: more).dropWhile isTokenChar)
      else (token, rest)
  | _ => (token, rest)

def itemOfToken (token : List Char) : Option Item :=
  if token = "true".toList then some (.boolean true)
  else if token = "false".toList then some (.boolean false)
  else if isDateTime token then some .moment
  else if isFloat token then some .fraction
  else (readInteger token).map .integer

end Toml

end CapabilityMesh
