/-
Calls of awaitable functions.  Such a function may wait at a gate, and it may
wait for the functions that it calls itself.  As long as it does, it holds its
handle and its dependencies.
-/
import CapabilityMesh.Simulation.State

namespace CapabilityMesh

namespace Simulation

namespace World

def openFrame (w : World) (code : FunctionCode) (text : String)
    (overrides : CallOverrides) : World × Frame :=
  let d := w.heap.dependencies code overrides
  ({ w with heap := (w.heap.holdHandle code.key).holdValues d.values },
    { code, text, dependencies := d })

/-- Let go of what a call holds: first its dependencies, then its handle. -/
def closeFrame (w : World) (frame : Frame) : World :=
  { w with
    heap := (w.heap.dropValues frame.dependencies.values).dropHandle frame.code.key }

/-- What a call brings back once everything is done. -/
def frameReport (w : World) (frame : Frame) : Report :=
  .result frame.code.key.name (.text frame.text) frame.shown frame.findings
    (if (w.behaviours.of frame.code.key).calls then some frame.done else none)

def passGate (w : World) (frame : Frame) : Frame :=
  let b := w.behaviours.of frame.code.key
  { frame with
    isRunning := true
    shown := showDependencies w.heap frame.dependencies
    findings := Simulation.findings w.heap b frame.dependencies
    todo := if b.calls then localDependencies frame.dependencies else [] }

/-- Make the next call of a function.  Blocking functions answer at once; for an
awaitable one a new frame is opened. -/
def callNext (w : World) (frame : Frame) (parameter : String) (l : LocalCapability) :
    World × List Frame :=
  let answer (report : Report) : Frame :=
    { frame with done := frame.done ++ [(parameter, report)] }
  match callsLeft frame.text, w.heap.code? l.key with
  | 0, _ => (w, [answer .tooDeep])
  | _, none => (w, [answer .unfit])
  | left + 1, some inner =>
      if w.heap.fits l .blocking .text then
        (w, [answer (reportText w.heap w.behaviours inner
          (w.heap.dependencies inner []) (handOn frame.text) left)])
      else if w.heap.fits l .awaitable .text then
        let (w, called) := w.openFrame inner (handOn frame.text) []
        (w, [called, { frame with done := frame.done ++ [(parameter, .unfit)] }])
      else (w, [answer .unfit])

def handBack (report : Report) : List Frame → List Frame
  | [] => []
  | frame :: frames =>
      match frame.done.getLast? with
      | some (parameter, _) =>
          { frame with done := frame.done.dropLast ++ [(parameter, report)] } :: frames
      | none => frame :: frames

def stepCall (w : World) : List Frame → Option (World × Work)
  | [] => none
  | frame :: frames =>
      if !frame.isRunning then
        if w.isClosed ("fn:" ++ frame.code.key.name) then none
        else some (w, .call (w.passGate frame :: frames))
      else
        match frame.todo with
        | (parameter, l) :: todo =>
            let (w, called) := w.callNext { frame with todo := todo } parameter l
            some (w, .call (called ++ frames))
        | [] =>
            let report := w.frameReport frame
            let w := w.closeFrame frame
            if frames.isEmpty then some (w, .finished (.report report))
            else some (w, .call (handBack report frames))

def cancelCall (w : World) (frames : List Frame) : World :=
  frames.foldl closeFrame w

end World

end Simulation

end CapabilityMesh
