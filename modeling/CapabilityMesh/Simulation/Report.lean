/-
Scripted functions.  They do nothing but report what they were called with, and
they may call the functions that their dependencies name.
-/
import CapabilityMesh.Injection.Binding

namespace CapabilityMesh

namespace Simulation

/-- The argument of a call. -/
inductive Argument where
  | text (text : String)
  | number (number : Int)
deriving Repr, DecidableEq

namespace Argument

/-- The argument as a text; a number gives an empty one. -/
def asText : Argument → String
  | text s => s
  | number _ => ""

/-- The argument as a number; a text gives zero. -/
def asNumber : Argument → Int
  | text _ => 0
  | number n => n

end Argument

/-- A value as it looked at some moment. -/
inductive ShownValue where
  | text (text : String)
  | number (number : Int)
  | remote (provider : RemoteCapability)
  | inProcess (provider : LocalCapability) (isLive : Bool)
deriving Repr, DecidableEq

def showValue (h : Heap) : Value → ShownValue
  | .text s => .text s
  | .number n => .number n
  | .remote r => .remote r
  | .inProcess l => .inProcess l (h.isLive l)

def showDependencies (h : Heap) (d : Dependencies) : List (String × Option ShownValue) :=
  d.map fun (parameter, value) => (parameter, value.map (showValue h))

/-- What a function found under one name. -/
structure Finding where
  name : String
  value : Option ShownValue
  isResolved : Bool
  text : Option String
deriving Repr, DecidableEq

/-- What a function does besides reporting. -/
structure Behaviour where
  /-- Names that it looks up among its dependencies. -/
  looksUp : List String := []
  /-- Whether it calls the functions that its dependencies name. -/
  calls : Bool := false
deriving Repr, DecidableEq

/-- What a call brings back. -/
inductive Report where
  /-- The chain of calls is long enough. -/
  | tooDeep
  /-- The function is gone, or made for other calls. -/
  | unfit
  | result (function : String) (argument : Argument)
      (dependencies : List (String × Option ShownValue))
      (findings : List Finding) (calls : Option (List (String × Report)))
deriving Repr

/-- What a function finds under the names that it looks up. -/
def findings (h : Heap) (b : Behaviour) (d : Dependencies) : List Finding :=
  b.looksUp.map fun name =>
    ⟨name, (d.get? name).map (showValue h), d.isResolved name, d.text? name⟩

/-- The functions of this process among dependencies, each with its parameter. -/
def localDependencies (d : Dependencies) : List (String × LocalCapability) :=
  d.filterMap fun (parameter, value) =>
    match value with
    | some (.inProcess l) => some (parameter, l)
    | _ => none

def chainLimit : Nat := 3

/-- How many more calls a chain may have.  Every call adds a mark to the end of
the text that it hands on. -/
def callsLeft (text : String) : Nat :=
  chainLimit - (text.toList.reverse.takeWhile (· == '\'')).length

def handOn (text : String) : String :=
  text ++ "'"

/-- What the functions of an application do besides reporting. -/
abbrev Behaviours := List (FunctionKey × Behaviour)

namespace Behaviours

def of (behaviours : Behaviours) (key : FunctionKey) : Behaviour :=
  (List.lookup key behaviours).getD {}

end Behaviours

/-- What a blocking function that takes a text brings back.  It calls only
functions of its own kind. -/
def reportText (h : Heap) (behaviours : Behaviours) (code : FunctionCode)
    (d : Dependencies) (text : String) (left : Nat) : Report :=
  let b := behaviours.of code.key
  let calls :=
    if b.calls then
      some ((localDependencies d).map fun (parameter, l) =>
        (parameter,
          match left with
          | 0 => .tooDeep
          | left + 1 =>
              if h.fits l .blocking .text then
                match h.code? l.key with
                | some inner =>
                    reportText h behaviours inner (h.dependencies inner []) (handOn text) left
                | none => .unfit
              else .unfit))
    else none
  .result code.key.name (.text text) (showDependencies h d) (findings h b d) calls
  termination_by left

/-- What a function that takes a number brings back.  It calls no others. -/
def reportNumber (h : Heap) (behaviours : Behaviours) (code : FunctionCode)
    (d : Dependencies) (number : Int) : Report :=
  let b := behaviours.of code.key
  .result code.key.name (.number number) (showDependencies h d) (findings h b d)
    (if b.calls then some [] else none)

/-- What a blocking function brings back.  A script's argument is a text or a number,
and a function of another kind does not take it. -/
def reportBlocking (h : Heap) (behaviours : Behaviours) (code : FunctionCode)
    (d : Dependencies) (argument : Argument) : Report :=
  match code.takes with
  | .text =>
      reportText h behaviours code d argument.asText (callsLeft argument.asText)
  | .number => reportNumber h behaviours code d argument.asNumber
  | .other _ _ => .unfit

end Simulation

end CapabilityMesh
