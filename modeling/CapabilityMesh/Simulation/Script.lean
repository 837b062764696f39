/-
Scripts: the steps of an application that wraps and calls functions, stores
values and runs agents, together with the answers that its registry will give.
-/
import CapabilityMesh.Agent.Cycle
import CapabilityMesh.Simulation.Report

namespace CapabilityMesh

namespace Simulation

/-- The calls that an agent makes. -/
inductive CallKind where
  | register
  | heartbeat
  | probe
  | unregister
deriving Repr, DecidableEq

namespace CallKind

def name : CallKind → String
  | register => "register"
  | heartbeat => "heartbeat"
  | probe => "probe"
  | unregister => "unregister"

end CallKind

/-- An answer that the registry will give. -/
structure Prepared (α : Type) where
  /-- The milliseconds that it takes. -/
  delay : Nat := 0
  /-- Whether it never comes. -/
  isLost : Bool := false
  answer : α

/-- An answer to a registration or to a full heartbeat. -/
abbrev Declared := Except MeshError RegistrationResponse

/-- The answers that the registry will give, for each kind of call in the order
of the calls. -/
structure Answers where
  registers : List (Prepared Declared) := []
  heartbeats : List (Prepared Declared) := []
  probes : List (Prepared ProbeReply) := []
  unregisters : List (Prepared (Except MeshError Unit)) := []

namespace Answers

/-- Append answers to those that were prepared before. -/
def add (a b : Answers) : Answers where
  registers := a.registers ++ b.registers
  heartbeats := a.heartbeats ++ b.heartbeats
  probes := a.probes ++ b.probes
  unregisters := a.unregisters ++ b.unregisters

def accepted : Prepared Declared :=
  { answer := .ok { status := "success" } }

end Answers

/-- A value as a script writes it. -/
inductive ScriptValue where
  | given (value : Value)
  /-- A value that an earlier step saved under a name. -/
  | saved (name : String)
deriving Repr, DecidableEq

/-- The overrides of a call as a script writes them, in the order in which they
are set. -/
abbrev ScriptOverrides := List (String × Option ScriptValue)

/-- What a step does with an agent. -/
inductive AgentAction where
  | register
  | tick
  | deregister
  | build
  | changed
  | unresolved
  | look
  /-- Do nothing but prepare answers. -/
  | prepare
  /-- Let go of the agent. -/
  | drop
  /-- Start its loop. -/
  | start
  | isFinished
  | shutdown
  /-- Let go of its loop. -/
  | dropLoop
  | beginRegister (task : String)
  | beginTick (task : String)
  | beginDeregister (task : String)
deriving Repr, DecidableEq

/-- A step of a script. -/
inductive Step where
  | wrap (handle : String) (tool : Tool) (mode : CallMode) (takes : ArgumentKind)
      (behaviour : Behaviour) (owned : List String)
  | clone (handle copy : String)
  | drop (handle : String)
  | call (handle : String) (argument : Argument) (overrides : ScriptOverrides)
  | resolve (handle : String) (overrides : ScriptOverrides)
  | inspect (handle : String)
  | register (capability : String) (value : ScriptValue)
  | unregister (capability : String)
  | registerFor (function capability : String) (value : ScriptValue)
  | unregisterFor (function capability : String)
  | get (capability : String)
  | lookUp (function capability : String)
  | dependents (capability : String)
  | tools
  | describe
  | store (key : DependencyKey) (value : ScriptValue)
  | take (key : DependencyKey)
  | look (key : DependencyKey)
  | clearOwn (function : String)
  | keys
  | findLocal (capability function : String) (name : Option String)
  | showSaved (name : String)
  | dropSaved (name : String)
  | callSaved (name : String) (argument : Argument) (mode : CallMode)
      (takes : ArgumentKind) (overrides : ScriptOverrides)
  | dropInjector
  | create (name : String) (identity : AgentIdentity) (policy : HeartbeatPolicy)
      (answers : Answers)
  /-- An action on an agent, after answers were prepared for it. -/
  | onAgent (name : String) (answers : Answers) (action : AgentAction)
  | beginCall (handle : String) (argument : Argument) (overrides : ScriptOverrides)
      (task : String)
  | poll (task : String)
  | cancel (task : String)
  | closeGate (name : String)
  | openGate (name : String)
  | sleep (milliseconds : Nat)

/-- What a step answers. -/
inductive StepResult where
  | nothing
  | flag (value : Bool)
  | count (value : Nat)
  /-- A word that stands for itself. -/
  | word (text : String)
  | key (key : FunctionKey)
  | report (report : Report)
  | value (value : Option ShownValue)
  | names (names : List String)
  | resolved (dependencies : List (String × Option ShownValue)) (isPlain : Bool)
  | function (code : FunctionCode)
  | tools (tools : List Tool)
  | entry (capability : String) (value : Option ShownValue)
  | keys (keys : List DependencyKey)
  | agent (identity : AgentIdentity) (policy : HeartbeatPolicy) (functions : Nat)
  | outcome (outcome : TickOutcome)
  | request (request : RegistrationRequest)
  /-- The state of the agent, which the step shows in any case. -/
  | itself
  | slots (slots : List BindingSlot)
  | done (result : StepResult)

/-- What happened to a call of the registry. -/
inductive EventKind where
  /-- The call came in.  A declaration carries the agent's metadata. -/
  | arrived (agentId : String) (metadata : Option AgentMetadata)
  /-- The call was answered, later than it came in. -/
  | answered
  /-- The caller gave up. -/
  | cancelled
deriving Repr, DecidableEq

/-- An event at the registry. -/
structure Event where
  time : Nat
  agent : String
  kind : EventKind
  call : CallKind
deriving Repr, DecidableEq

namespace Event

/-- Whether an event is a caller's giving up. -/
def isCancelled (e : Event) : Bool :=
  e.kind == .cancelled

/-- Events go by time.  Within one millisecond those of callers who gave up come
first. -/
def notAfter (a b : Event) : Bool :=
  a.time < b.time || (a.time == b.time && (a.isCancelled || !b.isCancelled))

end Event

/-- The books of the injector in figures. -/
structure Standing where
  functions : Nat
  generation : Nat
  values : Nat
deriving Repr, DecidableEq

/-- What a step shows besides its result. -/
structure StepAnswer where
  result : StepResult
  /-- The injector, while the application has it. -/
  standing : Option Standing
  /-- Events since the last step. -/
  events : List Event
  /-- The agent that the step was about, and the place of its last payload among
  those that were shown; nothing if the application let go of it. -/
  agent : Option (Option (AgentState × Option Nat))
  time : Nat

end Simulation

end CapabilityMesh
