/-
The operations of agents, step by step between their calls of the registry.
-/
import CapabilityMesh.Simulation.State

namespace CapabilityMesh

namespace Simulation

/-- What an operation comes to: it waits, or it has its result. -/
inductive Progress where
  | waits (stage : AgentStage)
  | ends (result : StepResult)

namespace World

def endTurn (w : World) (slot : AgentSlot) (task : Nat) : World :=
  w.putSlot { slot with turns := slot.turns.erase task }

/-- Make a call of the registry.  The call takes its answer when it comes in. -/
def callRegistry (w : World) (slot : AgentSlot) (metadata : Option AgentMetadata)
    (delay : Nat) (isLost : Bool) (awaited : Awaited) : World × Progress :=
  let w := (w.putSlot slot).record slot
    (.arrived slot.agent.identity.agentId metadata) awaited.kind
  (w, .waits (.calling { arrived := w.now, delay, isLost, awaited }))

def follow (w : World) (slot : AgentSlot) (task : Nat) : AgentMove → World × Progress
  | .register request =>
      let p := slot.answers.registers.headD Answers.accepted
      let slot := { slot with
        answers.registers := slot.answers.registers.tail }
      w.callRegistry slot (some request.metadata) p.delay p.isLost (.registration p.answer)
  | .heartbeat request force =>
      let p := slot.answers.heartbeats.headD Answers.accepted
      let slot := { slot with
        answers.heartbeats := slot.answers.heartbeats.tail }
      w.callRegistry slot (some request.metadata) p.delay p.isLost
        (.heartbeat force p.answer)
  | .probe =>
      let p := slot.answers.probes.headD { answer := .status 200 }
      let slot := { slot with
        answers.probes := slot.answers.probes.tail }
      w.callRegistry slot none p.delay p.isLost (.probe p.answer)
  | .ended outcome => (w.endTurn slot task, .ends (.outcome outcome))

def register (w : World) (slot : AgentSlot) (task : Nat) : World × Progress :=
  let (agent, heap, move) := slot.agent.beginRegister w.heap w.timestamp
  { w with heap := heap }.follow { slot with agent := agent } task move

/-- Begin to register.  Cycles run one at a time, in the order in which they
began; a standalone agent runs none. -/
def beginRegister (w : World) (slot : AgentSlot) (task : Nat) : World × Progress :=
  if slot.agent.policy.standalone then w.register slot task
  else
    let slot := { slot with turns := slot.turns ++ [task] }
    if slot.turns.head? = some task then w.register slot task
    else (w.putSlot slot, .waits .queued)

def beginTick (w : World) (slot : AgentSlot) (task : Nat) : World × Progress :=
  let (agent, heap, move) := slot.agent.beginTick w.heap (!slot.turns.isEmpty)
  let turns := match move with
    | .ended _ => slot.turns
    | _ => slot.turns ++ [task]
  { w with heap := heap }.follow { slot with agent := agent, turns := turns } task move

/-- Begin to take leave of the registry. -/
def beginDeregister (w : World) (slot : AgentSlot) : World × Progress :=
  if slot.agent.wantsToDeregister then
    let p := slot.answers.unregisters.headD { answer := .ok () }
    let slot := { slot with
      answers.unregisters := slot.answers.unregisters.tail }
    w.callRegistry slot none p.delay p.isLost (.farewell p.answer)
  else (w, .ends (.word "done"))

/-- Go on with an answer. -/
def receive (w : World) (slot : AgentSlot) (task : Nat) (call : OpenCall) :
    World × Progress :=
  let w := if call.arrived < w.now then w.record slot .answered call.awaited.kind else w
  match call.awaited with
  | .farewell answer =>
      let (agent, heap) := slot.agent.afterUnregister w.heap answer
      ({ w with heap := heap }.putSlot { slot with agent := agent }, .ends (.word "done"))
  | .registration answer =>
      let (agent, heap, move) := slot.agent.afterRegister w.heap w.timestamp answer
      { w with heap := heap }.follow { slot with agent := agent } task move
  | .probe reply =>
      let (agent, heap, move) := slot.agent.afterProbe w.heap w.timestamp reply
      { w with heap := heap }.follow { slot with agent := agent } task move
  | .heartbeat force answer =>
      let (agent, heap, move) := slot.agent.afterHeartbeat w.heap w.timestamp force answer
      { w with heap := heap }.follow { slot with agent := agent } task move

def stepOperation (w : World) (slot : AgentSlot) (task : Nat) :
    AgentStage → Option (World × Progress)
  | .queued => if slot.turns.head? = some task then some (w.register slot task) else none
  | .calling call =>
      match call.due with
      | none =>
          if w.isClosed call.awaited.kind.name then none
          else some (w, .waits (.calling { call with due := some (w.now + call.delay) }))
      | some due =>
          if call.isLost || w.now < due then none else some (w.receive slot task call)

/-- Break an operation off.  A call under way is given up, and the turn goes to
the next. -/
def cancelOperation (w : World) (slot : AgentSlot) (task : Nat) : AgentStage → World
  | .queued => w.endTurn slot task
  | .calling call => (w.record slot .cancelled call.awaited.kind).endTurn slot task

end World

end Simulation

end CapabilityMesh
