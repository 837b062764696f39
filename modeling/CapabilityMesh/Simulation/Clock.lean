/-
The clock.  Every task runs until it waits; only then the clock moves on to the
next time at which a task has something to do.
-/
import CapabilityMesh.Simulation.Calls
import CapabilityMesh.Simulation.Loops

namespace CapabilityMesh

namespace Simulation

namespace World

def stepTask (w : World) (task : Task) : Option World :=
  match task.work with
  | .operation agent stage => do
      let slot ← w.slot? agent
      let (w, progress) ← w.stepOperation slot task.id stage
      some (w.putWork task.id (match progress with
        | .waits stage => .operation agent stage
        | .ends result => .finished result))
  | .loop agent isStopping stage => do
      let slot ← w.slot? agent
      let (w, stage) ← w.stepLoop slot task.id isStopping stage
      some (w.putWork task.id (.loop agent isStopping stage))
  | .call frames => do
      let (w, work) ← w.stepCall frames
      some (w.putWork task.id work)
  | .finished _ => none

/-- More steps than any script takes at one moment. -/
def patience : Nat := 0x10000000000

/-- Run tasks until all of them wait, at most so many steps. -/
def settleSteps : Nat → World → World
  | 0, w => w
  | steps + 1, w =>
      match w.tasks.findSome? w.stepTask with
      | some w => settleSteps steps w
      | none => w

/-- Run tasks until all of them wait. -/
def settle (w : World) : World :=
  settleSteps patience w

/-- When an operation has something to do next. -/
def stageDue : AgentStage → Option Nat
  | .queued => none
  | .calling call => if call.isLost then none else call.due

def taskDue (task : Task) : Option Nat :=
  match task.work with
  | .operation _ stage => stageDue stage
  | .loop _ _ (.registering stage) => stageDue stage
  | .loop _ _ (.ticking _ stage) => stageDue stage
  | .loop _ _ (.idle due) => some due
  | _ => none

/-- The next time at which a task has something to do. -/
def nextDue? (w : World) : Option Nat :=
  (w.tasks.filterMap taskDue).filter (fun due => w.now < due) |>.min?

/-- Let time pass up to a limit, or until something is true.  `steps` bounds the
number of stops on the way. -/
def passSteps (limit : Nat) (isDone : World → Bool) : Nat → World → World
  | 0, w => { w with now := limit }
  | steps + 1, w =>
      let w := w.settle
      if isDone w then w
      else
        match w.nextDue? with
        | some due =>
            if due ≤ limit then passSteps limit isDone steps { w with now := due }
            else { w with now := limit }
        | none => { w with now := limit }

/-- Let time pass up to a limit, or until something is true.  The clock moves by
a millisecond at least with every stop, so that there are not more stops than
milliseconds. -/
def pass (w : World) (limit : Nat) (isDone : World → Bool) : World :=
  passSteps limit isDone (limit - w.now + 1) w

def sleep (w : World) (milliseconds : Nat) : World :=
  (w.pass (w.now + milliseconds) fun _ => false).settle

def result? (w : World) (task : Nat) : Option StepResult :=
  match w.task? task with
  | some ⟨_, .finished result⟩ => some result
  | _ => none

/-- Break a task off and forget it. -/
def cancel (w : World) (id : Nat) : World :=
  match w.task? id with
  | none => w
  | some task =>
      let w := match task.work with
        | .operation agent stage =>
            match w.slot? agent with
            | some slot => w.cancelOperation slot id stage
            | none => w
        | .loop agent _ stage =>
            match w.slot? agent with
            | some slot => w.cancelLoop slot id stage
            | none => w
        | .call frames => w.cancelCall frames
        | .finished _ => w
      w.eraseTask id

/-- How long a step waits for a task, in milliseconds: one day. -/
def day : Nat := 86400000

/-- Wait for a task, but not longer than a day.  A task that takes longer is
broken off. -/
def await (w : World) (task : Nat) : World × StepResult :=
  let w := w.pass (w.now + day) fun w => (w.result? task).isSome
  match w.result? task with
  | some result => (w.eraseTask task, result)
  | none => (w.cancel task, .word "hang")

end World

end Simulation

end CapabilityMesh
