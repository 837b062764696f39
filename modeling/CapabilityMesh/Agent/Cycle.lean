/-
The work of an agent: to register, to keep in touch by heartbeats, and to put
the registry's bindings into force.

Each operation is cut at its calls of the registry.  What comes before a call
gives the call that is to be made, and what comes behind it is a function of the
answer.
-/
import CapabilityMesh.Agent.Identity
import CapabilityMesh.Agent.Outcome
import CapabilityMesh.Agent.State
import CapabilityMesh.Injection.Binding
import CapabilityMesh.Wire.Declaration
import CapabilityMesh.Wire.Response

namespace CapabilityMesh

/-- What an agent remembers of the bindings that are in force. -/
structure CycleMemory where
  /-- The bindings of the last reconciliation. -/
  applied : Option Bindings := none
  /-- The injector's generation that they were applied to. -/
  generation : Nat := 0
deriving Repr, DecidableEq

/-- An agent. -/
structure Agent where
  identity : AgentIdentity
  policy : HeartbeatPolicy
  state : AgentState
  memory : CycleMemory := {}
deriving Repr, DecidableEq

/-- What an agent does next: it calls the registry, or it is done. -/
inductive AgentMove where
  | register (request : RegistrationRequest)
  | probe
  /-- A full heartbeat.  With `force`, the bindings of its answer are applied
  even if they are in force already. -/
  | heartbeat (request : RegistrationRequest) (force : Bool)
  | ended (outcome : TickOutcome)
deriving Repr, DecidableEq

namespace Agent

/-- An agent that has done nothing yet. -/
def create (identity : AgentIdentity) (policy : HeartbeatPolicy) : Agent :=
  { identity, policy, state := .fresh identity.agentId }

/-- What the agent tells the registry about itself and its tools. -/
def metadata (a : Agent) (h : Heap) : AgentMetadata where
  name := a.identity.name
  version := a.identity.version
  agentNamespace := a.identity.agentNamespace
  endpoint := a.identity.endpoint
  tools := h.injector.declaredTools.map Tool.declare

/-- Whether the tools differ from those that were declared last. -/
def declarationsChanged (a : Agent) (h : Heap) : Bool :=
  a.state.lastPayload ≠ some (a.metadata h).toJson

/-- A request that declares the tools, which the agent remembers. -/
def buildRequest (a : Agent) (h : Heap) (now : Timestamp) :
    Agent × Heap × RegistrationRequest :=
  let metadata := a.metadata h
  let payload := metadata.toJson
  let request : RegistrationRequest := ⟨a.identity.agentId, now, metadata⟩
  match a.state.lastPayload with
  | none => ({ a with state.lastPayload := some payload }, h, request)
  | some last =>
      if last = payload then (a, h, request)
      else
        ({ a with state.lastPayload := some payload },
          h.note (.info (s!"[REGISTRY] Declared capabilities changed for {a.identity.agentId} "
            ++ s!"({metadata.tools.length} tools)")),
          request)

/-- A value for a dependency that the registry bound.  The agent's own functions
are called directly; there is no value if such a function is not wrapped. -/
def bindingValue (a : Agent) (h : Heap) (r : RemoteCapability) : Heap × Option Value :=
  if r.agentId = a.identity.agentId then
    match h.injector.localCapability? r.capability r.function with
    | some l =>
        (h.note (.warn (s!"[REGISTRY] Self-dependency: '{r.capability}' is served by "
          ++ s!"local function '{r.function}', calling it directly")),
          some (.inProcess l))
    | none =>
        (h.note (.error (s!"[REGISTRY] Self-dependency '{r.capability}' names "
          ++ s!"local function '{r.function}', which is not wrapped")),
          none)
  else (h, some (.remote r))

/-- How many dependencies were given a value, and how many were cleared. -/
structure BindingCount where
  resolved : Nat := 0
  cleared : Nat := 0
deriving Repr, DecidableEq

def applySlot (a : Agent) (b : Bindings) (slot : BindingSlot) (h : Heap)
    (count : BindingCount) : Heap × BindingCount :=
  let (h, value) :=
    match b.get? slot with
    | some (some r) => a.bindingValue h r
    | _ => (h, none)
  match value with
  | some value =>
      (h.registerFor slot.function slot.capability value,
        { count with resolved := count.resolved + 1 })
  | none =>
      let (h, found) := h.unregisterFor slot.function slot.capability
      (h, if found then { count with cleared := count.cleared + 1 } else count)

def slotsOf (tools : List Tool) : List BindingSlot :=
  tools.flatMap fun t => t.dependencies.map fun d => ⟨t.function, d.capability⟩

/-- Put the bindings of slots into force, one after the other. -/
def applySlots (a : Agent) (b : Bindings) :
    List BindingSlot → Heap → BindingCount → Heap × BindingCount
  | [], h, count => (h, count)
  | slot :: slots, h, count =>
      let (h, count) := a.applySlot b slot h count
      a.applySlots b slots h count

/-- Put bindings into force: every dependency of the wrapped functions gets its
value, or is cleared if the bindings give it none. -/
def applyBindings (a : Agent) (b : Bindings) (h : Heap) : Heap :=
  let tools := h.injector.declaredTools
  let (h, count) := a.applySlots b (slotsOf tools) h {}
  let strange := (b.map Prod.fst).filter fun slot =>
    !tools.any fun t => t.function == slot.function
  let h := strange.foldl
    (fun h slot => h.note (.debug
      s!"[REGISTRY] Ignoring binding for undeclared function '{slot.function}'")) h
  h.note (.info (s!"[REGISTRY] Applied bindings for {a.identity.agentId}: "
    ++ s!"{count.resolved} resolved, {count.cleared} cleared"))

def fail (a : Agent) (h : Heap) (status : HeartbeatStatus) (reason : String) :
    Agent × Heap × TickOutcome :=
  let (state, dropped) := a.state.recordFailure a.policy.missedThreshold
  let a := { a with state := state }
  let outcome := TickOutcome.degraded status state.failures dropped
  if dropped then
    ({ a with memory.applied := none },
      h.note (.warn (s!"[HEARTBEAT] {state.failures} consecutive failures, "
        ++ s!"agent {a.identity.agentId} is now standalone")),
      outcome)
  else
    (a,
      h.note (.warn (s!"[HEARTBEAT] {status.name} for {a.identity.agentId} "
        ++ s!"({state.failures} consecutive failures): {reason}")),
      outcome)

/-- Take note of an error.  One that may pass counts as a failure; any other is
the registry's fault and changes nothing. -/
def onError (a : Agent) (h : Heap) (e : MeshError) : Agent × Heap × TickOutcome :=
  if e.isRetryable then
    let status := match e with
      | .transport _ => HeartbeatStatus.networkError
      | _ => HeartbeatStatus.registryError
    a.fail h status e.message
  else
    (a,
      h.note (.error (s!"[REGISTRY] Contract violation talking to registry for "
        ++ s!"{a.identity.agentId}: {e.message}")),
      .contractViolation e.message)

/-- The required dependencies of the wrapped functions that have no value. -/
def unresolvedRequired (h : Heap) : List BindingSlot :=
  h.injector.declaredTools.flatMap fun t =>
    (t.dependencies.filter fun d =>
      !d.isOptional && (h.injector.resolve t.function d.capability).isNone).map
        fun d => ⟨t.function, d.capability⟩

def reconcile (a : Agent) (h : Heap) (now : Timestamp) (response : RegistrationResponse)
    (force : Bool) : Agent × Heap × TickOutcome :=
  match response.bindings with
  | .error e => a.onError h e
  | .ok b =>
      let generation := h.injector.generation
      let changed :=
        force || a.memory.applied ≠ some b || a.memory.generation ≠ generation
      let h := if changed then a.applyBindings b h else h
      let wasConnected := a.state.isConnected
      let a := { a with
        memory := ⟨some b, generation⟩
        state := a.state.recordSuccess now }
      let h :=
        if wasConnected then h
        else h.note (.info s!"[REGISTRY] Agent {a.identity.agentId} registered")
      let names := (unresolvedRequired h).map fun slot =>
        slot.function ++ "." ++ slot.capability
      let h :=
        if names.isEmpty then h
        else h.note (.warn (s!"[REGISTRY] {names.length} required dependencies unresolved: "
          ++ ", ".intercalate names))
      (a, h, .reconciled changed)

/-- Put the known bindings into force again if functions were wrapped or released
since. -/
def refreshBindings (a : Agent) (h : Heap) : Agent × Heap :=
  let generation := h.injector.generation
  if a.memory.generation = generation then (a, h)
  else
    let h := match a.memory.applied with
      | some b =>
          a.applyBindings b (h.note (.debug
            "[HEARTBEAT] Wrapped functions changed, re-applying known bindings"))
      | none => h
    ({ a with memory.generation := generation }, h)

/-- Begin to register.  A standalone agent is done at once. -/
def beginRegister (a : Agent) (h : Heap) (now : Timestamp) : Agent × Heap × AgentMove :=
  if a.policy.standalone then
    ({ a with state := a.state.enterStandalone },
      h.note (.info (s!"[REGISTRY] Standalone mode: agent {a.identity.agentId} "
        ++ "will not contact the registry")),
      .ended .disabled)
  else
    let (a, h, request) := a.buildRequest h now
    (a,
      h.note (.info (s!"[REGISTRY] Registering agent {a.identity.agentId} "
        ++ s!"with {request.metadata.tools.length} tools")),
      .register request)

/-- Go on with the answer to a registration.  After a first attempt that failed
the agent works on its own. -/
def afterRegister (a : Agent) (h : Heap) (now : Timestamp)
    (answer : Except MeshError RegistrationResponse) : Agent × Heap × AgentMove :=
  let (a, h, outcome) := match answer with
    | .ok response => a.reconcile h now response true
    | .error e => a.onError h e
  let a :=
    if a.state.phase = .unregistered then { a with state := a.state.enterStandalone } else a
  let h :=
    if outcome.isReconciled then h
    else h.note (.warn (s!"[REGISTRY] Registration of {a.identity.agentId} failed, "
      ++ "serving standalone until the registry answers"))
  (a, h, .ended outcome)

/-- Begin a heartbeat, unless a cycle is at work. -/
def beginTick (a : Agent) (h : Heap) (isBusy : Bool) : Agent × Heap × AgentMove :=
  if a.policy.standalone then (a, h, .ended .disabled)
  else if isBusy then
    (a, h.note (.debug "[HEARTBEAT] Previous cycle still running, skipping tick"),
      .ended .inFlight)
  else (a, h, .probe)

/-- Declare everything again. -/
def fullHeartbeat (a : Agent) (h : Heap) (now : Timestamp) (status : HeartbeatStatus) :
    Agent × Heap × AgentMove :=
  let force := status == .agentUnknown
  let h :=
    if force then
      h.note (.info (s!"[HEARTBEAT] Registry does not know agent {a.identity.agentId}, "
        ++ "re-declaring"))
    else h
  let (a, h, request) := a.buildRequest h now
  (a, h, .heartbeat request force)

/-- Why a probe is to be tried again. -/
def probeReason : ProbeReply → String
  | .failed reason => reason
  | .status code => "HTTP " ++ toString code

def afterProbe (a : Agent) (h : Heap) (now : Timestamp) (reply : ProbeReply) :
    Agent × Heap × AgentMove :=
  match HeartbeatStatus.classify reply with
  | .error e =>
      let (a, h, outcome) := a.onError h e
      (a, h, .ended outcome)
  | .ok status =>
      let h := h.note (.debug
        s!"[HEARTBEAT] Fast heartbeat for {a.identity.agentId}: {status.name}")
      match status.action with
      | .skip =>
          if a.memory.applied.isNone then a.fullHeartbeat h now status
          else if a.declarationsChanged h then
            a.fullHeartbeat
              (h.note (.info (s!"[HEARTBEAT] Declared tools of {a.identity.agentId} "
                ++ "changed, re-declaring")))
              now status
          else
            let (a, h) := a.refreshBindings h
            ({ a with state := a.state.recordSuccess now }, h, .ended .unchanged)
      | .fullHeartbeat => a.fullHeartbeat h now status
      | .retry =>
          let (a, h, outcome) := a.fail h status (probeReason reply)
          (a, h, .ended outcome)

def afterHeartbeat (a : Agent) (h : Heap) (now : Timestamp) (force : Bool)
    (answer : Except MeshError RegistrationResponse) : Agent × Heap × AgentMove :=
  let (a, h, outcome) := match answer with
    | .ok response => a.reconcile h now response force
    | .error e => a.onError h e
  (a, h, .ended outcome)

/-- Whether the agent takes its leave of the registry. -/
def wantsToDeregister (a : Agent) : Bool :=
  !a.policy.standalone && a.policy.deregisterOnShutdown

def afterUnregister (a : Agent) (h : Heap) (answer : Except MeshError Unit) : Agent × Heap :=
  let line := match answer with
    | .ok _ => LogEntry.info s!"[REGISTRY] Agent {a.identity.agentId} deregistered"
    | .error e =>
        .warn s!"[REGISTRY] Failed to deregister {a.identity.agentId}: {e.message}"
  ({ a with state.phase := .unregistered }, h.note line)

end Agent

end CapabilityMesh
