/-
Who holds what.  An application holds handles to wrapped functions, and values;
functions hold the handles that their code needs; the injector's table holds
values; and values of this process hold the code of their functions.

A function stays wrapped as long as a handle to it is held.  Its code stays in
memory as long as the injector has the function in its books, or a handle or a
value holds it.  What nobody holds any more goes at once, and lets go of what it
held itself.  `Heap.settle` follows such a chain to its end.
-/
import CapabilityMesh.Injection.Call
import CapabilityMesh.Injection.Injector
import CapabilityMesh.Log.Entry

namespace CapabilityMesh

/-- What a function takes as its argument, and what it gives back.  A function of one
kind does not serve a call of another kind. -/
inductive ArgumentKind where
  /-- It takes a text and gives a report. -/
  | text
  /-- It takes a number and gives a report. -/
  | number
  /-- Its types are the application's own, known by their names. -/
  | other (argument result : String)
deriving Repr, DecidableEq

/-- The code of a wrapped function. -/
structure FunctionCode where
  key : FunctionKey
  tool : Tool
  mode : CallMode
  takes : ArgumentKind
  /-- The handles that the code holds. -/
  owned : List FunctionKey
deriving Repr, DecidableEq

namespace FunctionCode

def describe (code : FunctionCode) : String :=
  code.mode.label ++ "Injectable \x7b key: " ++ code.key.describe ++ " \x7d"

end FunctionCode

/-- Something that its holder has just let go, and that may have to be taken
apart. -/
inductive Loose where
  /-- A handle to a function. -/
  | handle (key : FunctionKey)
  /-- A hold on a function's code. -/
  | code (key : FunctionKey)
  | value (value : Value)
  /-- The end of a function's release, after so many values of its own went.
  While they go, the table may be locked. -/
  | released (key : FunctionKey) (count : Nat) (isLocked : Bool)
deriving Repr, DecidableEq

/-- The injector with everything that holds or is held. -/
structure Heap where
  injector : Injector := {}
  /-- Whether the application or one of its agents still has the injector. -/
  isHeld : Bool := true
  /-- The code in memory. -/
  codes : List FunctionCode := []
  /-- Handles that the application holds, one entry for each hold. -/
  handles : List FunctionKey := []
  /-- Values that the application holds, one entry for each hold. -/
  values : List Value := []
  /-- What was let go and is not yet taken apart, first things first. -/
  loose : List Loose := []
  /-- How many releases are at work on a locked table. -/
  locks : Nat := 0
  /-- Whether a release had to wait for a table that it had locked itself, which
  never ends. -/
  isStuck : Bool := false
  /-- The lines logged so far, the latest first. -/
  logged : List LogEntry := []
deriving Repr, DecidableEq

namespace Heap

/-- The lines logged so far. -/
def log (h : Heap) : Log :=
  h.logged.reverse

def note (h : Heap) (entry : LogEntry) : Heap :=
  { h with logged := entry :: h.logged }

def hasHandle (h : Heap) (key : FunctionKey) : Bool :=
  h.handles.contains key || h.codes.any (fun code => code.owned.contains key)
    || h.loose.contains (.handle key)

def hasAnyHandle (h : Heap) : Bool :=
  !h.handles.isEmpty || h.codes.any (fun code => !code.owned.isEmpty)
    || h.loose.any fun
      | .handle _ => true
      | _ => false

def isHeldByValue (h : Heap) (key : FunctionKey) : Bool :=
  h.values.any (fun value => value.target? == some key)
    || h.injector.table.any (fun entry => entry.2.target? == some key)
    || h.loose.any fun
      | .value value => value.target? == some key
      | _ => false

def isCodeHeld (h : Heap) (key : FunctionKey) : Bool :=
  (h.injector.find? key).isSome || h.hasHandle key || h.isHeldByValue key
    || h.loose.contains (.code key)

def code? (h : Heap) (key : FunctionKey) : Option FunctionCode :=
  h.codes.find? fun code => code.key = key

/-- Release a function to which the last handle went.  Its books are closed, and
if no other function of its name is wrapped, the values of that name go too,
while the table is locked. -/
def release (h : Heap) (f : TrackedFunction) : Heap :=
  let injector := h.injector.forget f
  if injector.isWrapped f.key.name then
    { h with
      injector := injector
      loose := .released f.key 0 false :: .code f.key :: h.loose }
  else
    let gone := injector.table.ownOf f.key.name
    { h with
      injector := { injector with table := injector.table.eraseOwn f.key.name }
      loose := gone.map .value ++ .released f.key gone.length true :: .code f.key :: h.loose
      locks := h.locks + 1
      isStuck := h.isStuck || h.locks ≠ 0 }

/-- Close what hangs on the last handle to a function: its entry in the books of
an injector that is still held.  The table of an injector that is gone goes with
the last handle of all. -/
def closeFunction (h : Heap) (key : FunctionKey) : Heap :=
  if h.isHeld then
    match h.injector.find? key with
    | some f => h.release f
    | none => h
  else if h.hasAnyHandle then h
  else
    { h with
      injector := { h.injector with table := [] }
      loose := h.injector.table.map (fun entry => .value entry.2) ++ h.loose }

/-- Take the code of a function apart if nothing holds it.  The handles that it
held are let go in their order. -/
def closeCode (h : Heap) (key : FunctionKey) : Heap :=
  match h.code? key with
  | some code =>
      if h.isCodeHeld key then h
      else
        { h with
          codes := h.codes.filter fun c => c.key ≠ key
          loose := code.owned.map .handle ++ h.loose }
  | none => h

def takeApart (h : Heap) : Loose → Heap
  | .handle key =>
      let h := { h with loose := .code key :: h.loose }
      if h.hasHandle key then h else h.closeFunction key
  | .code key => h.closeCode key
  | .value value =>
      match value.target? with
      | some key => h.closeCode key
      | none => h
  | .released key count isLocked =>
      { h with locks := if isLocked then h.locks - 1 else h.locks }.note
        (.debug s!"[INJECT] Released {key.render} ({count} scoped bindings dropped)")

/-- How much work a loose thing may make. -/
def looseWeight : Loose → Nat
  | .handle _ => 2
  | .code _ => 1
  | .value _ => 1
  | .released _ _ _ => 1

/-- How much work letting go may make.  It gets less with every thing that is
taken apart. -/
def weight (h : Heap) : Nat :=
  h.loose.foldr (fun thing n => looseWeight thing + n) 0
    + 2 * h.injector.functions.length + h.injector.table.length
    + h.codes.foldr (fun code n => 2 * code.owned.length + n) 0

/-- Take loose things apart, at most so many. -/
def settleSteps : Nat → Heap → Heap
  | 0, h => h
  | steps + 1, h =>
      match h.loose with
      | [] => h
      | first :: rest => settleSteps steps ({ h with loose := rest }.takeApart first)

/-- Take loose things apart until there are none. -/
def settle (h : Heap) : Heap :=
  settleSteps h.weight h

def letGo (h : Heap) (things : List Loose) : Heap :=
  { h with loose := things ++ h.loose }.settle

def holdHandle (h : Heap) (key : FunctionKey) : Heap :=
  { h with handles := key :: h.handles }

/-- Let one hold on a handle go. -/
def dropHandle (h : Heap) (key : FunctionKey) : Heap :=
  if h.handles.contains key then
    { h with handles := h.handles.erase key }.letGo [.handle key]
  else h

def holdValue (h : Heap) (value : Value) : Heap :=
  { h with values := value :: h.values }

def holdValues (h : Heap) (values : List Value) : Heap :=
  { h with values := values ++ h.values }

/-- Let one hold on a value go. -/
def dropValue (h : Heap) (value : Value) : Heap :=
  if h.values.contains value then
    { h with values := h.values.erase value }.letGo [.value value]
  else h

/-- Let several values go, in their order. -/
def dropValues (h : Heap) (values : List Value) : Heap :=
  values.foldl dropValue h

/-- Give the injector up.  Its books are closed without a word, and its table
stays only for those who hold a handle. -/
def dropInjector (h : Heap) : Heap :=
  if h.isHeld then
    let codes := h.injector.functions.map fun f => Loose.code f.key
    let h := { h with
      isHeld := false
      injector := { h.injector with functions := [], dependents := [] } }
    if h.hasAnyHandle then h.letGo codes
    else
      let values := h.injector.table.map fun entry => Loose.value entry.2
      { h with injector := { h.injector with table := [] } }.letGo (values ++ codes)
  else h

end Heap

end CapabilityMesh
