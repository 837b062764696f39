/-
Bytes of text.  A byte sequence is read one character at a time; where no
character starts, the longest run of bytes that could have begun one is a
single fault.
-/

namespace CapabilityMesh

namespace Text

def isContinuation (b : UInt8) : Bool :=
  0x80 ≤ b && b ≤ 0xBF

/-- The second bytes that may follow a lead byte: too long forms, surrogates
and code points past the last plane are left out. -/
def secondByteOk (lead second : UInt8) : Bool :=
  if lead = 0xE0 then 0xA0 ≤ second && second ≤ 0xBF
  else if lead = 0xED then 0x80 ≤ second && second ≤ 0x9F
  else if lead = 0xF0 then 0x90 ≤ second && second ≤ 0xBF
  else if lead = 0xF4 then 0x80 ≤ second && second ≤ 0x8F
  else isContinuation second

/-- The low six bits of a byte. -/
def payload (b : UInt8) : Nat :=
  b.toNat % 64

/-- What stands at the head of a byte sequence: a character or a fault, and the
number of further bytes that belong to it. -/
def headUtf8 (b : UInt8) (rest : List UInt8) : Option Char × Nat :=
  let n := b.toNat
  if n < 0x80 then (some (Char.ofNat n), 0)
  else if n < 0xC2 then (none, 0)
  else if n < 0xE0 then
    match rest with
    | b1 :: _ =>
        if isContinuation b1 then
          (some (Char.ofNat ((n - 0xC0) * 64 + payload b1)), 1)
        else (none, 0)
    | [] => (none, 0)
  else if n < 0xF0 then
    match rest with
    | b1 :: more =>
        if secondByteOk b b1 then
          match more with
          | b2 :: _ =>
              if isContinuation b2 then
                (some (Char.ofNat
                  ((n - 0xE0) * 4096 + payload b1 * 64 + payload b2)), 2)
              else (none, 1)
          | [] => (none, 1)
        else (none, 0)
    | [] => (none, 0)
  else if n < 0xF5 then
    match rest with
    | b1 :: more =>
        if secondByteOk b b1 then
          match more with
          | b2 :: more2 =>
              if isContinuation b2 then
                match more2 with
                | b3 :: _ =>
                    if isContinuation b3 then
                      (some (Char.ofNat ((n - 0xF0) * 262144 + payload b1 * 4096
                        + payload b2 * 64 + payload b3)), 3)
                    else (none, 2)
                | [] => (none, 2)
              else (none, 1)
          | [] => (none, 1)
        else (none, 0)
    | [] => (none, 0)
  else (none, 0)

/-- The characters and faults of a byte sequence, in order. -/
def scanUtf8 : List UInt8 → List (Option Char)
  | [] => []
  | b :: rest =>
      let (found, more) := headUtf8 b rest
      found :: scanUtf8 (rest.drop more)
  termination_by bytes => bytes.length
  decreasing_by simp only [List.length_drop, List.length_cons]; omega

/-- The text that a byte sequence writes, if it has no fault. -/
def ofUtf8? (bytes : List UInt8) : Option String :=
  (scanUtf8 bytes).mapM id |>.map String.ofList

/-- The text of a byte sequence with the replacement character for each
fault. -/
def ofUtf8Lossy (bytes : List UInt8) : String :=
  String.ofList ((scanUtf8 bytes).map fun found => found.getD '\uFFFD')

def utf8OfChar (c : Char) : List UInt8 :=
  let n := c.toNat
  if n < 0x80 then [n.toUInt8]
  else if n < 0x800 then [(0xC0 + n / 64).toUInt8, (0x80 + n % 64).toUInt8]
  else if n < 0x10000 then
    [(0xE0 + n / 4096).toUInt8, (0x80 + n / 64 % 64).toUInt8,
      (0x80 + n % 64).toUInt8]
  else
    [(0xF0 + n / 262144).toUInt8, (0x80 + n / 4096 % 64).toUInt8,
      (0x80 + n / 64 % 64).toUInt8, (0x80 + n % 64).toUInt8]

def utf8 (cs : List Char) : List UInt8 :=
  cs.flatMap utf8OfChar

end Text

end CapabilityMesh
