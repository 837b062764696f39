/-
The state of a simulated application: what it holds by name, its agents, and the
tasks that are under way, on a clock that moves only when every task waits.
-/
import CapabilityMesh.Simulation.Script

namespace CapabilityMesh

namespace Simulation

/-- The answer that a call will get, and what the agent does with it. -/
inductive Awaited where
  | registration (answer : Declared)
  | probe (reply : ProbeReply)
  | heartbeat (force : Bool) (answer : Declared)
  | farewell (answer : Except MeshError Unit)

namespace Awaited

def kind : Awaited → CallKind
  | registration _ => .register
  | probe _ => .probe
  | heartbeat _ _ => .heartbeat
  | farewell _ => .unregister

end Awaited

/-- A call that the registry has not answered yet. -/
structure OpenCall where
  /-- When the call came in. -/
  arrived : Nat
  delay : Nat
  isLost : Bool
  /-- When the answer is due; not known before the gate of such calls was
  open. -/
  due : Option Nat := none
  awaited : Awaited

/-- Where an agent's operation stands. -/
inductive AgentStage where
  /-- A registration that waits until earlier cycles are over. -/
  | queued
  | calling (call : OpenCall)

/-- Where an agent's loop stands. -/
inductive LoopStage where
  | starting
  | registering (stage : AgentStage)
  /-- The loop waits for its next tick. -/
  | idle (due : Nat)
  /-- A tick is at work; the time of the next one is set. -/
  | ticking (due : Nat) (stage : AgentStage)
  /-- The loop of a standalone agent waits to be stopped. -/
  | parked
  | ended (isClean : Bool)

/-- A call of an awaitable function that is under way. -/
structure Frame where
  code : FunctionCode
  text : String
  dependencies : Dependencies
  /-- Whether the function passed its gate. -/
  isRunning : Bool := false
  /-- What the dependencies looked like behind the gate. -/
  shown : List (String × Option ShownValue) := []
  findings : List Finding := []
  /-- The calls that it still has to make. -/
  todo : List (String × LocalCapability) := []
  /-- What its calls brought back. -/
  done : List (String × Report) := []

/-- What a task is doing. -/
inductive Work where
  | operation (agent : Nat) (stage : AgentStage)
  | loop (agent : Nat) (isStopping : Bool) (stage : LoopStage)
  /-- A call of a function; the innermost call comes first. -/
  | call (frames : List Frame)
  | finished (result : StepResult)

/-- A task. -/
structure Task where
  id : Nat
  work : Work

/-- An agent with what belongs to it. -/
structure AgentSlot where
  id : Nat
  name : String
  agent : Agent
  /-- Whether the application holds the agent. -/
  isHeld : Bool := true
  /-- The loop that the application holds. -/
  loop : Option Nat := none
  /-- What the registry will answer. -/
  answers : Answers
  /-- The tasks whose turn it is to run a cycle, the one at work first. -/
  turns : List Nat := []

/-- The state of a simulated application. -/
structure World where
  heap : Heap := {}
  /-- Whether the application itself holds the injector. -/
  hasInjector : Bool := true
  /-- The clock, in milliseconds. -/
  now : Nat := 0
  /-- The gates that are closed. -/
  gates : List String := []
  /-- Every agent that was ever created. -/
  slots : List AgentSlot := []
  /-- The current agent of each name. -/
  agents : List (String × Nat) := []
  tasks : List Task := []
  /-- The tasks that have a name. -/
  jobs : List (String × Nat) := []
  handles : List (String × FunctionKey) := []
  saved : List (String × Value) := []
  behaviours : Behaviours := []
  /-- Events since the last step, the latest first. -/
  events : List Event := []
  /-- The payloads that were shown, each once. -/
  payloads : List String := []
  /-- The number of the next agent or task. -/
  nextId : Nat := 0

namespace World

def setNamed {α : Type} (entries : List (String × α)) (name : String) (value : α) :
    List (String × α) :=
  entries.filter (fun entry => entry.1 ≠ name) ++ [(name, value)]

def eraseNamed {α : Type} (entries : List (String × α)) (name : String) :
    List (String × α) :=
  entries.filter fun entry => entry.1 ≠ name

def timestamp (w : World) : Timestamp :=
  ⟨w.now / 1000, w.now % 1000 * 1000000⟩

def slot? (w : World) (id : Nat) : Option AgentSlot :=
  w.slots.find? fun slot => slot.id == id

def slotNamed? (w : World) (name : String) : Option AgentSlot :=
  (w.agents.lookup name).bind w.slot?

def putSlot (w : World) (slot : AgentSlot) : World :=
  { w with slots := w.slots.map fun s => if s.id == slot.id then slot else s }

def task? (w : World) (id : Nat) : Option Task :=
  w.tasks.find? fun task => task.id == id

/-- Store what a task is doing. -/
def putWork (w : World) (id : Nat) (work : Work) : World :=
  { w with tasks := w.tasks.map fun t => if t.id == id then ⟨id, work⟩ else t }

def eraseTask (w : World) (id : Nat) : World :=
  { w with tasks := w.tasks.filter fun task => task.id != id }

def addTask (w : World) (work : Work) : World × Nat :=
  ({ w with tasks := w.tasks ++ [⟨w.nextId, work⟩], nextId := w.nextId + 1 }, w.nextId)

def isClosed (w : World) (gate : String) : Bool :=
  w.gates.contains gate

def record (w : World) (slot : AgentSlot) (kind : EventKind) (call : CallKind) : World :=
  { w with events := ⟨w.now, slot.name, kind, call⟩ :: w.events }

def worksFor (id : Nat) (task : Task) : Bool :=
  match task.work with
  | .operation agent _ => agent == id
  | .loop _ _ (.ended _) => false
  | .loop agent _ _ => agent == id
  | _ => false

def isAgentHeld (w : World) (slot : AgentSlot) : Bool :=
  slot.isHeld || slot.loop.isSome || w.tasks.any (worksFor slot.id)

/-- Give the injector up once neither the application nor an agent has it. -/
def releaseInjector (w : World) : World :=
  if w.hasInjector || w.slots.any w.isAgentHeld then w
  else { w with heap := w.heap.dropInjector }

end World

end Simulation

end CapabilityMesh
