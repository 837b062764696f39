/-
Starting and stopping the loops of agents.
-/
import CapabilityMesh.Simulation.Clock

namespace CapabilityMesh

namespace Simulation

namespace World

def askToStop (w : World) (loop : Nat) : World :=
  match w.task? loop with
  | some ⟨_, .loop agent _ stage⟩ => w.putWork loop (.loop agent true stage)
  | _ => w

/-- Let go of the loop of an agent, which stops when it is idle next. -/
def dropLoop (w : World) (slot : AgentSlot) : World :=
  match slot.loop with
  | some loop => (w.putSlot { slot with loop := none }).askToStop loop
  | none => w

def startLoop (w : World) (slot : AgentSlot) : World :=
  let w := w.dropLoop slot
  let (w, loop) := w.addTask (.loop slot.id false .starting)
  w.putSlot { slot with loop := some loop }

/-- Whether a loop has ended, and if so, whether it did so by itself. -/
def loopEnd? (w : World) (loop : Nat) : Option Bool :=
  match w.task? loop with
  | some ⟨_, .loop _ _ (.ended isClean)⟩ => some isClean
  | _ => none

/-- Wait for a loop to end, for less than so many milliseconds.  A loop that ends
at the last of them is late. -/
def awaitLoop (w : World) (loop grace : Nat) : World :=
  if (w.loopEnd? loop).isSome then w
  else if grace = 0 then w
  else
    let limit := w.now + grace
    let w := w.pass (limit - 1) fun w => (w.loopEnd? loop).isSome
    if (w.loopEnd? loop).isSome then w else { w with now := limit }

/-- Wait until a loop has ended, and break it off if that takes too long. -/
def stopLoop (w : World) (loop grace : Nat) : World :=
  let w := (w.askToStop loop).awaitLoop loop grace
  match w.loopEnd? loop with
  | some true => (w.note (.debug "[HEARTBEAT] Loop exited cleanly")).eraseTask loop
  | some false =>
      (w.note (.warn ("[HEARTBEAT] Loop ended abnormally: "
        ++ "task 1 panicked with message \"\x60period\x60 must be non-zero.\""))).eraseTask loop
  | none =>
      (w.note (.warn (s!"[HEARTBEAT] Loop did not stop within {Text.span grace}, "
        ++ "aborting in-flight cycle"))).cancel loop

def beginTask (w : World) (agent : Nat) (start : World → Nat → World × Progress) :
    World × Nat :=
  let (w, task) := w.addTask (.finished .nothing)
  let (w, progress) := start w task
  (w.putWork task (match progress with
    | .waits stage => .operation agent stage
    | .ends result => .finished result), task)

/-- Take leave of the registry, but wait no longer than so many
milliseconds. -/
def leave (w : World) (slot : AgentSlot) (grace : Nat) : World :=
  let (w, task) := w.beginTask slot.id fun w _ => w.beginDeregister slot
  let w := w.pass (w.now + grace) fun w => (w.result? task).isSome
  if (w.result? task).isSome then w.eraseTask task
  else
    (w.cancel task).note (.warn (s!"[REGISTRY] Deregistration of "
      ++ s!"{slot.agent.identity.agentId} did not finish within {Text.span grace}"))

def shutDown (w : World) (slot : AgentSlot) (loop : Nat) : World :=
  let grace := slot.agent.policy.shutdownGrace
  let w := (w.putSlot { slot with loop := none }).stopLoop loop grace
  match w.slot? slot.id with
  | some slot => w.leave slot grace
  | none => w

end World

end Simulation

end CapabilityMesh
