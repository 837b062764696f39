/-
Runs of one agent on its injector, together with what happened on the way.

An agent's calls of the registry take time.  An event is something that happens at
one moment: the application does a deed or begins an operation, or the registry's
reply to the call that is open arrives.  `step` says what an event does, and
`Turn` lists all that it can do; properties of whole runs follow by `run_induction`.
-/
import CapabilityMesh.Proofs.Agent.History
import CapabilityMesh.Proofs.Agent.Moves
import CapabilityMesh.Proofs.Injection.Application

namespace CapabilityMesh

/-- Something that happens to an agent at one moment. -/
inductive AgentEvent where
  | deed (d : Deed)
  /-- The application has a request built that it does not send. -/
  | build (now : Timestamp)
  /-- A registration begins. -/
  | register (now : Timestamp)
  /-- A heartbeat begins. -/
  | tick
  /-- The reply to a probe arrives. -/
  | probed (now : Timestamp) (reply : ProbeReply)
  /-- The answer to a registration or to a full heartbeat arrives. -/
  | answered (now : Timestamp) (answer : Except MeshError RegistrationResponse)
  /-- The operation that waits for the registry is broken off. -/
  | abandoned
  /-- A farewell is answered. -/
  | farewell (answer : Except MeshError Unit)

/-- An agent and the heap that it works on, with the call that is open. -/
structure AgentRun where
  agent : Agent
  heap : Heap := {}
  call : Option AgentMove := none
  history : History := []

namespace AgentRun

def start (identity : AgentIdentity) (policy : HeartbeatPolicy) : AgentRun :=
  { agent := .create identity policy }

/-- Go on as an operation of the agent says. -/
def follow (r : AgentRun) (consulted : Option Consultation) :
    Agent × Heap × AgentMove → AgentRun
  | (agent, heap, .ended outcome) =>
      { r with agent, heap, history := .ended outcome consulted :: r.history }
  | (agent, heap, .probe) => { r with agent, heap, call := some .probe }
  | (agent, heap, .register request) =>
      { agent, heap
        call := some (.register request)
        history := .built request.metadata :: r.history }
  | (agent, heap, .heartbeat request force) =>
      { agent, heap
        call := some (.heartbeat request force)
        history := .built request.metadata :: r.history }

/-- What an event does.  A registration waits until no call is open; an event that
does not fit changes nothing. -/
def step (r : AgentRun) : AgentEvent → AgentRun
  | .deed d => { r with heap := d.perform r.heap }
  | .build now =>
      let (agent, heap, request) := r.agent.buildRequest r.heap now
      { r with agent, heap, history := .built request.metadata :: r.history }
  | .register now =>
      if r.call.isSome then r else r.follow none (r.agent.beginRegister r.heap now)
  | .tick => r.follow none (r.agent.beginTick r.heap r.call.isSome)
  | .probed now reply =>
      match r.call with
      | some .probe =>
          { r with call := none }.follow none (r.agent.afterProbe r.heap now reply)
      | _ => r
  | .answered now answer =>
      match r.call with
      | some (.register request) =>
          { r with call := none }.follow (some ⟨request.metadata, answer⟩)
            (r.agent.afterRegister r.heap now answer)
      | some (.heartbeat request force) =>
          { r with call := none }.follow (some ⟨request.metadata, answer⟩)
            (r.agent.afterHeartbeat r.heap now force answer)
      | _ => r
  | .abandoned => { r with call := none }
  | .farewell answer =>
      if r.agent.wantsToDeregister then
        let (agent, heap) := r.agent.afterUnregister r.heap answer
        { r with agent, heap, history := .left r.agent.state.phase :: r.history }
      else r

/-- The run of a new agent through events, in their order. -/
def run (identity : AgentIdentity) (policy : HeartbeatPolicy)
    (events : List AgentEvent) : AgentRun :=
  events.foldl step (start identity policy)

theorem run_append (identity : AgentIdentity) (policy : HeartbeatPolicy)
    (events : List AgentEvent) (e : AgentEvent) :
    run identity policy (events ++ [e]) = (run identity policy events).step e := by
  rw [run, run, List.foldl_append, List.foldl_cons, List.foldl_nil]

/-- An agent that runs are shown with. -/
def sampleIdentity : AgentIdentity where
  agentId := "m-1"
  name := "m"
  endpoint := "http://m"

def sampleTime : Timestamp := ⟨0, 0⟩

/-- An answer that binds nothing. -/
def sampleAnswer : Except MeshError RegistrationResponse :=
  .ok { status := "success" }

/-- Whether a run got from one state to the next by the end of a registration or of
a heartbeat, with an outcome. -/
def Ended (r next : AgentRun) (outcome : TickOutcome) : Prop :=
  ∃ consulted : Option Consultation,
    next.history = .ended outcome consulted :: r.history

theorem Ended.unique {r next : AgentRun} {outcome other : TickOutcome}
    (houtcome : Ended r next outcome) (hother : Ended r next other) :
    outcome = other := by
  obtain ⟨consulted, hhistory⟩ := houtcome
  obtain ⟨consulted', hhistory'⟩ := hother
  rw [hhistory] at hhistory'
  simp only [List.cons.injEq, Milestone.ended.injEq] at hhistory'
  exact hhistory'.1.1

/-- Everything that an event can do to a run. -/
inductive Turn (r : AgentRun) : AgentEvent → AgentRun → Prop where
  | still (e : AgentEvent) : Turn r e r
  | deed (d : Deed) : Turn r (.deed d) { r with heap := d.perform r.heap }
  | built {now : Timestamp} {later : Heap} (hlater : later.Alike r.heap) :
      Turn r (.build now)
        { r with
          agent := r.agent.declaring r.heap
          heap := later
          history := .built (r.agent.metadata r.heap) :: r.history }
  | probing (hpolicy : r.agent.policy.standalone = false) :
      Turn r .tick { r with call := some .probe }
  | declared {e : AgentEvent} {call : AgentMove} {request : RegistrationRequest}
      {later : Heap}
      (hopen : r.agent.policy.standalone = false ∨ r.call = some .probe)
      (hrequest : call.request? = some request)
      (hmetadata : request.metadata = r.agent.metadata r.heap)
      (hlater : later.Alike r.heap) :
      Turn r e
        { agent := r.agent.declaring r.heap
          heap := later
          call := some call
          history := .built request.metadata :: r.history }
  | inFlight {later : Heap} (hlater : later.Alike r.heap) :
      Turn r .tick
        { r with heap := later, history := .ended .inFlight none :: r.history }
  | disabled {e : AgentEvent} {state : AgentState} {later : Heap}
      (hpolicy : r.agent.policy.standalone = true)
      (hstate : state = r.agent.state ∨ state = r.agent.state.enterStandalone)
      (hlater : later.Alike r.heap) :
      Turn r e
        { r with
          agent := { r.agent with state := state }
          heap := later
          history := .ended .disabled none :: r.history }
  | unchanged {now : Timestamp} {b : Bindings} {later : Heap}
      (hcall : r.call = some .probe)
      (happlied : r.agent.memory.applied = some b)
      (hsame : r.agent.declarationsChanged r.heap = false)
      (hlater : r.agent.Rebinds b
        (decide (r.agent.memory.generation ≠ r.heap.injector.generation)) r.heap later) :
      Turn r (.probed now (.status 200))
        { agent := r.agent.refreshed r.heap now
          heap := later
          call := none
          history := .ended .unchanged none :: r.history }
  | reconciled {now : Timestamp} {answer : Except MeshError RegistrationResponse}
      {call : AgentMove} {request : RegistrationRequest} {b : Bindings} {force : Bool}
      {later : Heap}
      (hcall : r.call = some call) (hrequest : call.request? = some request)
      (hb : Agent.bindingsOf answer = .ok b)
      (hlater : r.agent.Rebinds b (r.agent.mustApply r.heap b force) r.heap later) :
      Turn r (.answered now answer)
        { agent := r.agent.reconciled r.heap now b
          heap := later
          call := none
          history := .ended (.reconciled (r.agent.mustApply r.heap b force))
            (some ⟨request.metadata, answer⟩) :: r.history }
  | degraded {e : AgentEvent} {status : HeartbeatStatus}
      {consulted : Option Consultation} {later : Heap} (hcall : r.call.isSome = true)
      (hlater : later.Alike r.heap) :
      Turn r e
        { agent := r.agent.failed
          heap := later
          call := none
          history :=
            .ended (.degraded status r.agent.failed.state.failures r.agent.drops)
              consulted :: r.history }
  | violated {e : AgentEvent} {message : String} {consulted : Option Consultation}
      {agent : Agent} {later : Heap} (hcall : r.call.isSome = true)
      (hagent : agent = r.agent ∨ agent = r.agent.settledAlone)
      (hlater : later.Alike r.heap) :
      Turn r e
        { agent := agent
          heap := later
          call := none
          history := .ended (.contractViolation message) consulted :: r.history }
  | abandoned : Turn r .abandoned { r with call := none }
  | left {answer : Except MeshError Unit} {later : Heap}
      (hlater : later.Alike r.heap) :
      Turn r (.farewell answer)
        { r with
          agent := { r.agent with state.phase := .unregistered }
          heap := later
          history := .left r.agent.state.phase :: r.history }

theorem register_turn (r : AgentRun) (now : Timestamp) :
    Turn r (.register now) (r.step (.register now)) := by
  rw [step]
  split
  · exact .still _
  · cases hpolicy : r.agent.policy.standalone with
    | true =>
        rw [Agent.beginRegister, if_pos hpolicy]
        exact .disabled hpolicy (Or.inr rfl) (Heap.note_alike _ _)
    | false =>
        obtain ⟨later, hlater, heq⟩ := r.agent.beginRegister_spec r.heap now hpolicy
        rw [heq]
        exact .declared (Or.inl hpolicy) rfl rfl hlater

theorem tick_turn (r : AgentRun) : Turn r .tick (r.step .tick) := by
  rw [step, Agent.beginTick]
  split
  · rename_i hpolicy
    exact .disabled hpolicy (Or.inl rfl) (Heap.Alike.refl _)
  · rename_i hpolicy
    split
    · exact .inFlight (Heap.note_alike _ _)
    · exact .probing (by simpa using hpolicy)

theorem probed_turn (r : AgentRun) (now : Timestamp) (reply : ProbeReply) :
    Turn r (.probed now reply) (r.step (.probed now reply)) := by
  rw [step]
  split
  · rename_i hcall
    rcases r.agent.afterProbe_spec r.heap now reply with
      ⟨later, hlater, ⟨status, heq⟩ | ⟨message, heq⟩⟩ | ⟨later, force, hlater, heq⟩ |
        ⟨b, later, rfl, happlied, hsame, hlater, heq⟩
    · rw [heq]
      exact .degraded (by simp [hcall]) hlater
    · rw [heq]
      exact .violated (by simp [hcall]) (Or.inl rfl) hlater
    · rw [heq]
      exact .declared (Or.inr hcall) rfl rfl hlater
    · rw [heq]
      exact .unchanged hcall happlied hsame hlater
  · exact .still _

/-- The answer to a declaration, as far as it does not depend on the operation that
waits for it. -/
theorem heartbeat_turn (r : AgentRun) (now : Timestamp) {call : AgentMove}
    {request : RegistrationRequest} (hcall : r.call = some call)
    (hrequest : call.request? = some request) (force : Bool)
    (answer : Except MeshError RegistrationResponse) {later : Heap} {agent : Agent}
    (hlater : later.Alike (r.agent.afterHeartbeat r.heap now force answer).2.1)
    (hagent : agent = (r.agent.afterHeartbeat r.heap now force answer).1 ∨
      agent = (r.agent.afterHeartbeat r.heap now force answer).1.settledAlone) :
    Turn r (.answered now answer)
      ({ r with call := none }.follow (some ⟨request.metadata, answer⟩)
        (agent, later, (r.agent.afterHeartbeat r.heap now force answer).2.2)) := by
  cases hb : Agent.bindingsOf answer with
  | ok b =>
      obtain ⟨applied, ⟨first, hfirst, happlied⟩, heq⟩ :=
        r.agent.afterHeartbeat_ok r.heap now force hb
      rw [heq] at hlater hagent ⊢
      rw [Agent.reconciled_settledAlone, or_self] at hagent
      subst hagent
      exact .reconciled hcall hrequest hb ⟨first, hfirst, hlater.trans happlied⟩
  | error e =>
      have herror := r.agent.afterHeartbeat_error r.heap now force hb
      obtain ⟨after, hafter, ⟨status, heq⟩ | heq⟩ := r.agent.onError_spec r.heap e
      · rw [herror, heq] at hlater hagent ⊢
        rw [Agent.failed_settledAlone, or_self] at hagent
        subst hagent
        exact .degraded (by simp [hcall]) (hlater.trans hafter)
      · rw [herror, heq] at hlater hagent ⊢
        exact .violated (by simp [hcall]) hagent (hlater.trans hafter)

theorem answered_turn (r : AgentRun) (now : Timestamp)
    (answer : Except MeshError RegistrationResponse) :
    Turn r (.answered now answer) (r.step (.answered now answer)) := by
  rw [step]
  split
  · rename_i request hcall
    obtain ⟨later, hlater, heq⟩ := r.agent.afterRegister_eq r.heap now answer
    rw [heq]
    exact heartbeat_turn r now hcall rfl true answer hlater (Or.inr rfl)
  · rename_i request force hcall
    exact heartbeat_turn r now hcall rfl force answer (Heap.Alike.refl _) (Or.inl rfl)
  · exact .still _

/-- An event does one of the things listed. -/
theorem step_turn (r : AgentRun) (e : AgentEvent) : Turn r e (r.step e) := by
  cases e with
  | deed d => exact .deed d
  | build now =>
      obtain ⟨later, hlater, heq⟩ := r.agent.buildRequest_spec (Heap.Alike.refl r.heap) now
      rw [step, heq]
      exact .built hlater
  | register now => exact register_turn r now
  | tick => exact tick_turn r
  | probed now reply => exact probed_turn r now reply
  | answered now answer => exact answered_turn r now answer
  | abandoned => exact .abandoned
  | farewell answer =>
      rw [step]
      split
      · exact .left (Heap.note_alike _ _)
      · exact .still _

/-- What holds at the start and is kept by every turn that an event of the run can
take holds at the end of the run. -/
theorem run_induction {P : AgentRun → Prop} {identity : AgentIdentity}
    {policy : HeartbeatPolicy} {events : List AgentEvent}
    (hstart : P (start identity policy))
    (hturn : ∀ (r : AgentRun) (e : AgentEvent) (next : AgentRun),
      e ∈ events → Turn r e next → P r → P next) :
    P (run identity policy events) := by
  rw [run]
  generalize start identity policy = r at hstart
  induction events generalizing r with
  | nil => exact hstart
  | cons first rest ih =>
      rw [List.foldl_cons]
      apply ih
      · intro r e next he
        exact hturn r e next (List.mem_cons_of_mem first he)
      · exact hturn r first (r.step first) List.mem_cons_self (step_turn r first) hstart

theorem Turn.policy_eq {r next : AgentRun} {e : AgentEvent} (hturn : Turn r e next) :
    next.agent.policy = r.agent.policy := by
  cases hturn with
  | violated _ hagent =>
      rcases hagent with rfl | rfl
      · rfl
      · exact r.agent.settledAlone_policy
  | _ => rfl

theorem Turn.identity_eq {r next : AgentRun} {e : AgentEvent} (hturn : Turn r e next) :
    next.agent.identity = r.agent.identity := by
  cases hturn with
  | violated _ hagent =>
      rcases hagent with rfl | rfl
      · rfl
      · exact r.agent.settledAlone_identity
  | _ => rfl

theorem run_policy (identity : AgentIdentity) (policy : HeartbeatPolicy)
    (events : List AgentEvent) :
    (run identity policy events).agent.policy = policy :=
  run_induction (P := fun r => r.agent.policy = policy) rfl
    fun _ _ _ _ hturn hpolicy => hturn.policy_eq.trans hpolicy

theorem run_identity (identity : AgentIdentity) (policy : HeartbeatPolicy)
    (events : List AgentEvent) :
    (run identity policy events).agent.identity = identity :=
  run_induction (P := fun r => r.agent.identity = identity) rfl
    fun _ _ _ _ hturn hidentity => hturn.identity_eq.trans hidentity

/-- A heartbeat ends without any change only where a probe reports no change to an agent
that knows its bindings and has nothing new to declare. -/
theorem Turn.unchanged_only {r next : AgentRun} {e : AgentEvent} (hturn : Turn r e next)
    (hended : Ended r next .unchanged) :
    r.agent.memory.applied.isSome = true ∧
      r.agent.declarationsChanged r.heap = false := by
  obtain ⟨consulted, hhistory⟩ := hended
  cases hturn with
  | unchanged hcall happlied hsame hlater => exact ⟨by simp [happlied], hsame⟩
  | _ => simp at hhistory

/-- Where a probe reports no change to an agent that knows its bindings and has nothing
new to declare, the heartbeat ends without any change and the agent is registered. -/
theorem step_unchanged {r : AgentRun} (now : Timestamp) (hcall : r.call = some .probe)
    (happlied : r.agent.memory.applied.isSome = true)
    (hsame : r.agent.declarationsChanged r.heap = false) :
    (r.step (.probed now (.status 200))).agent.state.phase = .registered ∧
      Ended r (r.step (.probed now (.status 200))) .unchanged := by
  obtain ⟨b, hb⟩ := Option.isSome_iff_exists.mp happlied
  obtain ⟨later, -, heq⟩ := r.agent.afterProbe_unchanged r.heap now hb hsame
  simp only [step, hcall, heq]
  exact ⟨rfl, none, rfl⟩

end AgentRun

end CapabilityMesh
