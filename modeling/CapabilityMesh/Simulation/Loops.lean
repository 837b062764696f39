/-
The loops of agents: they register once and then send a heartbeat at every
tick, until they are stopped.
-/
import CapabilityMesh.Agent.Ticker
import CapabilityMesh.Simulation.Operations
import CapabilityMesh.Text.Span

namespace CapabilityMesh

namespace Simulation

namespace World

def note (w : World) (entry : LogEntry) : World :=
  { w with heap := w.heap.note entry }

/-- Where a loop stands after its registration.  Without a period between ticks
it fails. -/
def afterRegistration (w : World) (slot : AgentSlot) : LoopStage :=
  if slot.agent.policy.standalone then .parked
  else if slot.agent.policy.interval = 0 then .ended false
  else .idle (w.now + slot.agent.policy.interval)

def loopRegistered (w : World) (slot : AgentSlot) : Progress → LoopStage
  | .waits stage => .registering stage
  | .ends _ => w.afterRegistration slot

/-- Where a loop stands when its tick has come so far.  The outcome of a tick is
logged. -/
def loopTicked (w : World) (due : Nat) : Progress → World × LoopStage
  | .waits stage => (w, .ticking due stage)
  | .ends (.outcome outcome) =>
      (w.note (.debug ("[HEARTBEAT] Tick outcome: " ++ outcome.describe)), .idle due)
  | .ends _ => (w, .idle due)

def stepLoop (w : World) (slot : AgentSlot) (task : Nat) (isStopping : Bool) :
    LoopStage → Option (World × LoopStage)
  | .starting =>
      let w := w.note (.info (s!"[HEARTBEAT] Starting for agent "
        ++ s!"{slot.agent.identity.agentId} (interval {Text.span slot.agent.policy.interval})"))
      let (w, progress) := w.beginRegister slot task
      some (w, w.loopRegistered slot progress)
  | .registering stage =>
      (w.stepOperation slot task stage).map fun (w, progress) =>
        (w, w.loopRegistered slot progress)
  | .idle due =>
      if isStopping then
        some (w.note (.debug
            s!"[HEARTBEAT] Loop stopped for agent {slot.agent.identity.agentId}"),
          .ended true)
      else if w.now < due then none
      else
        let (w, progress) := w.beginTick slot task
        some (w.loopTicked (Ticker.next slot.agent.policy.interval due w.now) progress)
  | .ticking due stage =>
      (w.stepOperation slot task stage).map fun (w, progress) => w.loopTicked due progress
  | .parked => if isStopping then some (w, .ended true) else none
  | .ended _ => none

/-- Break a loop off, wherever it stands. -/
def cancelLoop (w : World) (slot : AgentSlot) (task : Nat) : LoopStage → World
  | .registering stage => w.cancelOperation slot task stage
  | .ticking _ stage => w.cancelOperation slot task stage
  | _ => w

end World

end Simulation

end CapabilityMesh
