/-
Directives of a filter of log lines.  A directive names a level, or a target, or
a span in square brackets, and gives a target or a span a level behind an equals
sign.  A span may ask for a field and its value in braces.
-/
import CapabilityMesh.Text.Blank
import CapabilityMesh.Text.Case
import CapabilityMesh.Text.Letter
import CapabilityMesh.Text.Number
import CapabilityMesh.Text.Split

namespace CapabilityMesh

/-- Why a text is no directive. -/
inductive DirectiveFault where
  | malformed
  /-- One of its parts would begin or end inside a character. -/
  | torn
deriving Repr, DecidableEq

namespace LogDirective

/-- Whether a text names a level: a word in any case, or a digit up to five. -/
def isLevel (cs : List Char) : Bool :=
  ["", "error", "warn", "info", "debug", "trace", "off"].contains
      (String.ofList (cs.map Text.lowerAscii))
    || (match Text.readNumber UInt64.size (String.ofList cs) with
        | .ok n => n ≤ 5
        | .error _ => false)

def opensTarget (c : Char) : Bool :=
  c = '-' || c = ':' || c = '_' || Text.isLetterOrNumeral c

/-- Where in a directive the reading stands.  A part that is being read is known
by the place of its first byte. -/
inductive State where
  | start
  | name
  | span (first : Nat)
  | field (first : Nat)
  | afterFields
  | afterSpan
  | level (first : Nat)
deriving Repr, DecidableEq

def part (cs : List Char) (first last : Nat) : Except DirectiveFault (List Char) :=
  match Text.slice? first last cs with
  | some read => .ok read
  | none => .error .torn

section Reading

-- What may stand as the value of a field: truth values, numbers and patterns.
variable (isValue : List Char → Bool)

/-- Whether a text asks for a field, and perhaps behind an equals sign for its
value. -/
def isField (cs : List Char) : Bool :=
  !cs.isEmpty &&
    match Text.splitOn '=' cs with
    | _ :: value :: _ => isValue value
    | _ => true

def step (cs : List Char) (place : Nat) : State → Char → Except DirectiveFault State
  | .start, c =>
      if c = '[' then .ok (.span (place + 1))
      else if opensTarget c then .ok .name
      else .error .malformed
  | .name, c =>
      if c = '=' then (part cs 0 place).map fun _ => .level (place + 1)
      else if c = '[' then (part cs 0 place).map fun _ => .span (place + 1)
      else .ok .name
  | .span first, c =>
      if c = ']' then (part cs first place).map fun _ => .afterSpan
      else if c = '\x7b' then (part cs first place).map fun _ => .field (place + 1)
      else .ok (.span first)
  | .field first, c =>
      if c = '\x7d' then do
        let field ← part cs first place
        if isField isValue field then .ok .afterFields else .error .malformed
      else .ok (.field first)
  | .afterFields, c => if c = ']' then .ok .afterSpan else .error .malformed
  | .afterSpan, c => if c = '=' then .ok (.level (place + 1)) else .error .malformed
  | .level first, _ => .ok (.level first)

def run (cs : List Char) : Nat → State → List Char → Except DirectiveFault State
  | _, state, [] => .ok state
  | place, state, c :: rest => do
      let next ← step isValue cs place state c
      run cs (place + c.utf8Size) next rest

/-- Read a directive.  Outer blanks are passed over, but its parts are cut from
the text as if there were none before it. -/
def read (cs : List Char) : Except DirectiveFault Unit := do
  match ← run isValue cs 0 .start (Text.strip Text.isBlank cs) with
  | .name | .afterSpan => .ok ()
  | .level first =>
      let level ← part cs first (Text.byteSize cs)
      if isLevel level then .ok () else .error .malformed
  | _ => .error .malformed

end Reading

end LogDirective

end CapabilityMesh
