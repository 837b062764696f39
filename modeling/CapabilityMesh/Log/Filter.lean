/-
Filters of log lines.  A filter is a list of directives with commas between them.
-/
import CapabilityMesh.Log.Directive
import CapabilityMesh.Log.Flags

namespace CapabilityMesh

/-- How log lines are written. -/
inductive LogFormat where
  | text
  | json
deriving Repr, DecidableEq

/-- What is logged, how, and for how long it is kept. -/
structure LogPolicy where
  level : String := "info"
  format : LogFormat := .text
  folder : Option String := none
  /-- Folders of runs that are older are removed. -/
  retentionDays : Nat := 30
  /-- At most this many folders of runs are kept. -/
  retentionRuns : Nat := 10
deriving Repr, DecidableEq

namespace LogPolicy

def console (level : String) (json : Bool) : LogPolicy :=
  { level := level, format := if json then .json else .text }

end LogPolicy

/-- Why there is no filter. -/
inductive LogFilterFault where
  | invalid (directives : String)
  /-- The reading broke off inside a character. -/
  | torn
deriving Repr, DecidableEq

namespace LogFilterFault

def message? : LogFilterFault → Option String
  | invalid directives => some ("Invalid log filter directives: " ++ directives)
  | torn => none

end LogFilterFault

namespace LogFilter

section Reading

-- What may stand as the value of a field: truth values, numbers and patterns.
variable (isValue : List Char → Bool)

/-- Read directives up to the first fault.  Empty ones are passed over. -/
def readAll : List (List Char) → Except DirectiveFault Unit
  | [] => .ok ()
  | cs :: more => do
      if cs.isEmpty then .ok () else LogDirective.read isValue cs
      readAll more

def build (policy : LogPolicy) (flags : DebugFlags) : Except LogFilterFault String :=
  let text := flags.filterText policy.level
  match readAll isValue (Text.splitOn ',' text.toList) with
  | .ok () => .ok text
  | .error .malformed => .error (.invalid text)
  | .error .torn => .error .torn

/-- Start logging to the console.  The result says whether this filter is now in
use; one that was started before stays. -/
def start (policy : LogPolicy) (flags : DebugFlags) (alreadyStarted : Bool) :
    Except LogFilterFault Bool :=
  (build isValue policy flags).map fun _ => !alreadyStarted

end Reading

end LogFilter

end CapabilityMesh
