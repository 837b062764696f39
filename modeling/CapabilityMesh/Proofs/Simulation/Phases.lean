/-
How the operations of an agent change the phase that it is in.  A registration that is
over leaves no agent unregistered, nor does anything else that a cycle does; a farewell
that is over leaves it unregistered, with whatever answer.
-/
import CapabilityMesh.Proofs.Simulation.Farewell

namespace CapabilityMesh

namespace Agent

theorem afterHeartbeat_phase_ne (a : Agent) (h : Heap) (now : Timestamp) (force : Bool)
    (answer : Except MeshError RegistrationResponse)
    (hphase : a.state.phase ≠ .unregistered) :
    (a.afterHeartbeat h now force answer).1.state.phase ≠ .unregistered := by
  cases hb : bindingsOf answer with
  | ok b =>
      obtain ⟨later, -, heq⟩ := a.afterHeartbeat_ok h now force hb
      rw [heq]
      simp [reconciled, AgentState.recordSuccess]
  | error e =>
      rw [a.afterHeartbeat_error h now force hb]
      obtain ⟨later, -, ⟨status, heq⟩ | heq⟩ := a.onError_spec h e
      · rw [heq]
        exact a.failed_phase_ne
      · rw [heq]
        exact hphase

theorem afterRegister_phase_ne (a : Agent) (h : Heap) (now : Timestamp)
    (answer : Except MeshError RegistrationResponse) :
    (a.afterRegister h now answer).1.state.phase ≠ .unregistered := by
  obtain ⟨later, -, heq⟩ := a.afterRegister_eq h now answer
  rw [heq, settledAlone]
  split
  · simp [AgentState.enterStandalone]
  · assumption

theorem afterProbe_phase_ne (a : Agent) (h : Heap) (now : Timestamp) (reply : ProbeReply)
    (hphase : a.state.phase ≠ .unregistered) :
    (a.afterProbe h now reply).1.state.phase ≠ .unregistered := by
  rcases a.afterProbe_spec h now reply with
    ⟨later, -, ⟨status, heq⟩ | ⟨message, heq⟩⟩ | ⟨later, force, -, heq⟩ |
      ⟨b, later, -, -, -, -, heq⟩
  · rw [heq]
    exact a.failed_phase_ne
  · rw [heq]
    exact hphase
  · rw [heq]
    exact hphase
  · rw [heq]
    simp [refreshed, AgentState.recordSuccess]

theorem beginTick_same (a : Agent) (h : Heap) (isBusy : Bool) :
    (a.beginTick h isBusy).1 = a := by
  simp only [beginTick]
  split
  · rfl
  · split <;> rfl

end Agent

namespace Simulation

namespace LoopStage

/-- Whether the first registration of a loop is still to come or under way. -/
def isRegistering : LoopStage → Bool
  | starting | registering _ => true
  | idle _ | ticking _ _ | parked | ended _ => false

end LoopStage

def AgentStage.isRegistration (stage : AgentStage) : Bool :=
  stage.kind?.all (· == .register)

namespace World

/-- What an operation of an agent does to an application: the tasks stay, and the agent is
the only one that changes.  It keeps its policy, and gets to a phase of some sort. -/
structure Serves (w : World) (slot : AgentSlot) (next : World) (sort : AgentPhase → Prop) :
    Prop where
  tasks : next.tasks = w.tasks
  slots : ∃ later : AgentSlot, next.slots = (w.putSlot later).slots ∧
    later.id = slot.id ∧ later.agent.policy = slot.agent.policy ∧
    sort later.agent.state.phase

section Operations

variable {w : World} {slot : AgentSlot} {task : Nat}

theorem Serves.of_same {next : World} (htasks : next.tasks = w.tasks)
    (hslots : next.slots = (w.putSlot slot).slots) {sort : AgentPhase → Prop}
    (hsort : sort slot.agent.state.phase) : Serves w slot next sort :=
  ⟨htasks, slot, hslots, rfl, rfl, hsort⟩

theorem Serves.imp {next : World} {sort other : AgentPhase → Prop}
    (h : Serves w slot next sort) (himp : ∀ phase, sort phase → other phase) :
    Serves w slot next other := by
  obtain ⟨later, hslots, hid, hpolicy, hsort⟩ := h.slots
  exact ⟨h.tasks, later, hslots, hid, hpolicy, himp _ hsort⟩

theorem follow_serves {before : World} {heap : Heap} {later : AgentSlot} {move : AgentMove}
    (hslots : before.slots = w.slots) (htasks : before.tasks = w.tasks)
    (hid : later.id = slot.id) (hpolicy : later.agent.policy = slot.agent.policy)
    {sort : AgentPhase → Prop} (hsort : sort later.agent.state.phase) :
    Serves w slot ({ before with heap := heap }.follow later task move).1 sort := by
  have hput : ∀ last : AgentSlot, (before.putSlot last).slots = (w.putSlot last).slots := by
    intro last
    rw [putSlot, putSlot, hslots]
  cases move with
  | register request => exact ⟨htasks, _, hput _, hid, hpolicy, hsort⟩
  | heartbeat request force => exact ⟨htasks, _, hput _, hid, hpolicy, hsort⟩
  | probe => exact ⟨htasks, _, hput _, hid, hpolicy, hsort⟩
  | ended outcome => exact ⟨htasks, _, hput _, hid, hpolicy, hsort⟩

variable (w task) in
/-- To register, an agent calls the registry, and stays in its phase until the answer. -/
theorem register_serves (hcalls : slot.agent.policy.standalone = false)
    (later : AgentSlot) (hid : later.id = slot.id) (hagent : later.agent = slot.agent) :
    Serves w slot (w.register later task).1 (· = slot.agent.state.phase) ∧
      ∃ stage, (w.register later task).2 = .waits stage ∧ stage.isRegistration = true := by
  obtain ⟨heap, -, heq⟩ := slot.agent.beginRegister_spec w.heap w.timestamp hcalls
  rw [← hagent] at heq
  simp only [register, heq]
  constructor
  · apply follow_serves
    · rfl
    · rfl
    · exact hid
    · rw [hagent]
      rfl
    · rw [hagent]
      rfl
  · exact ⟨_, rfl, rfl⟩

variable (w task) in
theorem beginRegister_serves (hcalls : slot.agent.policy.standalone = false) :
    Serves w slot (w.beginRegister slot task).1 (· = slot.agent.state.phase) ∧
      ∃ stage, (w.beginRegister slot task).2 = .waits stage ∧
        stage.isRegistration = true := by
  rw [beginRegister, if_neg (by simp [hcalls])]
  simp only
  split
  · exact register_serves _ task hcalls _ rfl rfl
  · exact ⟨⟨rfl, _, rfl, rfl, rfl, rfl⟩, _, rfl, rfl⟩

theorem beginTick_serves {sort : AgentPhase → Prop} (hsort : sort slot.agent.state.phase) :
    Serves w slot (w.beginTick slot task).1 sort := by
  have hsame := slot.agent.beginTick_same w.heap (!slot.turns.isEmpty)
  simp only [beginTick, hsame]
  apply follow_serves
  · rfl
  · rfl
  · rfl
  · rfl
  · exact hsort

/-- What the registry's answer is recorded by leaves agents and tasks alone. -/
theorem record_if_late (w : World) (slot : AgentSlot) (call : OpenCall) :
    let recorded := if call.arrived < w.now then w.record slot .answered call.awaited.kind
      else w
    recorded.slots = w.slots ∧ recorded.tasks = w.tasks := by
  simp only
  split
  · exact ⟨rfl, rfl⟩
  · exact ⟨rfl, rfl⟩

variable (w slot task) in
theorem receive_registration {call : OpenCall} (hkind : call.awaited.kind = .register) :
    Serves w slot (w.receive slot task call).1 (· ≠ .unregistered) ∧
      ∃ result, (w.receive slot task call).2 = .ends result := by
  obtain ⟨hslots, htasks⟩ := record_if_late w slot call
  simp only [receive]
  generalize (if call.arrived < w.now then w.record slot .answered call.awaited.kind
    else w) = recorded at hslots htasks ⊢
  cases hawaited : call.awaited with
  | registration answer =>
      obtain ⟨hpolicy, outcome, hended⟩ :=
        slot.agent.afterRegister_ends recorded.heap recorded.timestamp answer
      have hphase :=
        slot.agent.afterRegister_phase_ne recorded.heap recorded.timestamp answer
      simp only [hended]
      refine ⟨?_, _, rfl⟩
      apply follow_serves hslots htasks
      · rfl
      · exact hpolicy
      · exact hphase
  | probe reply | heartbeat force answer | farewell answer =>
      rw [hawaited] at hkind
      cases hkind

variable (w slot task) in
/-- No answer that a cycle waits for makes an agent unregistered. -/
theorem receive_serves {call : OpenCall} (hkind : call.awaited.kind ≠ .unregister)
    (hphase : slot.agent.state.phase ≠ .unregistered) :
    Serves w slot (w.receive slot task call).1 (· ≠ .unregistered) := by
  cases hawaited : call.awaited with
  | registration answer =>
      exact (receive_registration w slot task (by rw [hawaited]; rfl)).1
  | probe reply =>
      obtain ⟨hslots, htasks⟩ := record_if_late w slot call
      simp only [receive]
      generalize (if call.arrived < w.now then w.record slot .answered call.awaited.kind
        else w) = recorded at hslots htasks ⊢
      simp only [hawaited]
      apply follow_serves hslots htasks
      · rfl
      · exact slot.agent.afterProbe_policy _ _ _
      · exact slot.agent.afterProbe_phase_ne _ _ _ hphase
  | heartbeat force answer =>
      obtain ⟨hslots, htasks⟩ := record_if_late w slot call
      simp only [receive]
      generalize (if call.arrived < w.now then w.record slot .answered call.awaited.kind
        else w) = recorded at hslots htasks ⊢
      simp only [hawaited]
      apply follow_serves hslots htasks
      · rfl
      · exact (slot.agent.afterHeartbeat_ends _ _ _ _).1
      · exact slot.agent.afterHeartbeat_phase_ne _ _ _ _ hphase
  | farewell answer =>
      rw [hawaited] at hkind
      exact absurd rfl hkind

variable (w slot task) in
/-- The answer to a farewell ends it, and the agent is unregistered. -/
theorem receive_unregisters {call : OpenCall} (hkind : call.awaited.kind = .unregister) :
    Serves w slot (w.receive slot task call).1 (· = .unregistered) ∧
      ∃ result, (w.receive slot task call).2 = .ends result := by
  obtain ⟨hslots, htasks⟩ := record_if_late w slot call
  simp only [receive]
  generalize (if call.arrived < w.now then w.record slot .answered call.awaited.kind
    else w) = recorded at hslots htasks ⊢
  cases hawaited : call.awaited with
  | farewell answer =>
      refine ⟨⟨htasks, { slot with
        agent := (slot.agent.afterUnregister recorded.heap answer).1 }, ?_, rfl, rfl, rfl⟩,
        _, rfl⟩
      simp only [putSlot, hslots]
  | registration answer | probe reply | heartbeat force answer =>
      rw [hawaited] at hkind
      cases hkind

theorem afterRegistration_isRegistering (w : World) (slot : AgentSlot) :
    (w.afterRegistration slot).isRegistering = false := by
  rw [afterRegistration]
  split
  · rfl
  · split <;> rfl

theorem loopTicked_isRegistering (w : World) (due : Nat) (progress : Progress) :
    (w.loopTicked due progress).2.isRegistering = false := by
  rw [loopTicked.eq_def]
  split <;> rfl

theorem Serves.ticked {next : World} {sort : AgentPhase → Prop}
    (h : Serves w slot next sort) (due : Nat) (progress : Progress) :
    Serves w slot (next.loopTicked due progress).1 sort := by
  rw [loopTicked.eq_def]
  split <;> exact ⟨h.tasks, h.slots⟩

/-- In its first registration, a loop leaves its agent unregistered until the answer is
there, and waits for nothing else. -/
theorem stepLoop_registering {asked : Bool} {stage later : LoopStage} {next : World}
    (hcalls : slot.agent.policy.standalone = false)
    (hself : (w.putSlot slot).slots = w.slots) (hfirst : stage.isRegistering = true)
    (hwaits : stage.stage?.all AgentStage.isRegistration = true)
    (hphase : slot.agent.state.phase = .unregistered)
    (hstep : w.stepLoop slot task asked stage = some (next, later)) :
    Serves w slot next (fun phase => phase = .unregistered ↔ later.isRegistering = true) ∧
      (later.isRegistering = true →
        later.stage?.all AgentStage.isRegistration = true) := by
  have hwaiting : ∀ {after : World} {stage : AgentStage},
      Serves w slot after (· = slot.agent.state.phase) →
      Serves w slot after fun phase =>
        phase = .unregistered ↔ (LoopStage.registering stage).isRegistering = true :=
    fun hserves => hserves.imp fun phase heq => by simp [heq, hphase, LoopStage.isRegistering]
  cases loopStep_of_some hstep with
  | begins entry hnext =>
      obtain ⟨hserves, stage, hprogress, hregistration⟩ :=
        beginRegister_serves (w.note entry) task hcalls
      rw [hnext] at hserves hprogress
      obtain rfl := hprogress
      exact ⟨hwaiting ⟨hserves.tasks, hserves.slots⟩, fun _ => hregistration⟩
  | @registers stage _ progress hoperation =>
      cases operationStep_of_some hoperation with
      | registers _ hnext =>
          obtain ⟨hserves, stage, hprogress, hregistration⟩ :=
            register_serves w task hcalls slot rfl rfl
          rw [hnext] at hserves hprogress
          obtain rfl : progress = .waits stage := hprogress
          exact ⟨hwaiting hserves, fun _ => hregistration⟩
      | @waits call later hawaited =>
          refine ⟨hwaiting (.of_same rfl hself.symm rfl), fun _ => ?_⟩
          show (AgentStage.calling later).isRegistration = true
          rw [AgentStage.isRegistration, AgentStage.kind?, hawaited]
          exact hwaits
      | @receives call _ _ hnext =>
          have hkind : call.awaited.kind = .register := by
            simpa [LoopStage.stage?, AgentStage.isRegistration, AgentStage.kind?] using hwaits
          obtain ⟨hserves, result, hprogress⟩ := receive_registration w slot task hkind
          rw [hnext] at hserves hprogress
          obtain rfl : progress = .ends result := hprogress
          have hover := afterRegistration_isRegistering next slot
          refine ⟨hserves.imp fun phase hne => ?_, fun hagain => ?_⟩
          · simp [loopRegistered, hover, hne]
          · rw [loopRegistered, hover] at hagain
            cases hagain
  | ticks | works | stops | leaves => cases hfirst

/-- Behind its first registration, a loop leaves no agent unregistered. -/
theorem stepLoop_serves {asked : Bool} {stage later : LoopStage} {next : World}
    (hcalls : slot.agent.policy.standalone = false)
    (hself : (w.putSlot slot).slots = w.slots) (hfirst : stage.isRegistering = false)
    (hcycle : stage.stage?.all AgentStage.isInCycle = true)
    (hphase : slot.agent.state.phase ≠ .unregistered)
    (hstep : w.stepLoop slot task asked stage = some (next, later)) :
    Serves w slot next (· ≠ .unregistered) ∧ later.isRegistering = false := by
  have hstays : ∀ {after : World}, after.tasks = w.tasks → after.slots = w.slots →
      Serves w slot after (· ≠ .unregistered) := fun htasks hslots =>
    ⟨htasks, slot, hslots.trans hself.symm, rfl, rfl, hphase⟩
  have hticked : ∀ {after : World} {due : Nat} {progress : Progress},
      Serves w slot after (· ≠ .unregistered) →
      after.loopTicked due progress = (next, later) →
      Serves w slot next (· ≠ .unregistered) ∧ later.isRegistering = false := by
    intro after due progress hserves heq
    have hlater := loopTicked_isRegistering after due progress
    have hnext := hserves.ticked due progress
    rw [heq] at hlater hnext
    exact ⟨hnext, hlater⟩
  cases loopStep_of_some hstep with
  | ticks _ _ hafter hnext =>
      have hbegun : Serves w slot (w.beginTick slot task).1 (· ≠ .unregistered) :=
        beginTick_serves hphase
      rw [hafter] at hbegun
      exact hticked hbegun hnext
  | works hoperation hnext =>
      cases operationStep_of_some hoperation with
      | registers _ hregister =>
          have hserves := (register_serves w task hcalls slot rfl rfl).1
          rw [hregister] at hserves
          exact hticked (hserves.imp fun phase hsame => hsame ▸ hphase) hnext
      | waits => exact hticked (hstays rfl rfl) hnext
      | @receives call _ _ hreceive =>
          have hkind : call.awaited.kind ≠ .unregister := by
            simpa [LoopStage.stage?, AgentStage.isInCycle, AgentStage.kind?] using hcycle
          have hserves := receive_serves w slot task hkind hphase
          rw [hreceive] at hserves
          exact hticked hserves hnext
  | stops entry => exact ⟨hstays rfl rfl, rfl⟩
  | leaves => exact ⟨hstays rfl rfl, rfl⟩
  | begins | registers => cases hfirst

/-- To take leave, an agent calls the registry, and stays in its phase until the answer. -/
theorem beginDeregister_serves (hwants : slot.agent.wantsToDeregister = true) :
    Serves w slot (w.beginDeregister slot).1 (· = slot.agent.state.phase) ∧
      ∃ call, (w.beginDeregister slot).2 = .waits (.calling call) ∧
        call.awaited.kind = .unregister := by
  rw [beginDeregister, if_pos hwants]
  exact ⟨⟨rfl, _, rfl, rfl, rfl, rfl⟩, _, rfl, rfl⟩

/-- An operation that is broken off leaves its agent as it is. -/
theorem cancelOperation_serves (id : Nat) (stage : AgentStage) :
    Serves w slot (w.cancelOperation slot id stage) (· = slot.agent.state.phase) := by
  cases stage with
  | queued => exact ⟨rfl, _, rfl, rfl, rfl, rfl⟩
  | calling call => exact ⟨rfl, _, rfl, rfl, rfl, rfl⟩

end Operations

end World

end Simulation

end CapabilityMesh
