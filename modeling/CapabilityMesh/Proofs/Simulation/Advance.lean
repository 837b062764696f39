/-
What the operations of an agent change in an application: the slot of the agent with its
turns, and what the registry hears.  Other agents and tasks are left alone.
-/
import Mathlib.Data.List.Nodup
import CapabilityMesh.Proofs.Agent.Moves
import CapabilityMesh.Proofs.Simulation.Steps
import CapabilityMesh.Simulation.Shutdown

namespace CapabilityMesh

namespace Agent

theorem beginRegister_policy (a : Agent) (h : Heap) (now : Timestamp) :
    (a.beginRegister h now).1.policy = a.policy := by
  cases hpolicy : a.policy.standalone with
  | true => rw [beginRegister, if_pos hpolicy]
  | false =>
      obtain ⟨later, -, heq⟩ := a.beginRegister_spec h now hpolicy
      rw [heq, declaring]

theorem afterProbe_policy (a : Agent) (h : Heap) (now : Timestamp) (reply : ProbeReply) :
    (a.afterProbe h now reply).1.policy = a.policy := by
  rcases a.afterProbe_spec h now reply with
    ⟨later, -, ⟨status, heq⟩ | ⟨message, heq⟩⟩ | ⟨later, force, -, heq⟩ |
      ⟨b, later, -, -, -, -, heq⟩
  all_goals exact congrArg (fun result => result.1.policy) heq

/-- The answer to a full heartbeat ends it, and the agent keeps its policy. -/
theorem afterHeartbeat_ends (a : Agent) (h : Heap) (now : Timestamp) (force : Bool)
    (answer : Except MeshError RegistrationResponse) :
    (a.afterHeartbeat h now force answer).1.policy = a.policy ∧
      ∃ outcome, (a.afterHeartbeat h now force answer).2.2 = .ended outcome := by
  cases hb : bindingsOf answer with
  | ok b =>
      obtain ⟨later, -, heq⟩ := a.afterHeartbeat_ok h now force hb
      rw [heq]
      exact ⟨rfl, _, rfl⟩
  | error e =>
      rw [a.afterHeartbeat_error h now force hb]
      obtain ⟨later, -, ⟨status, heq⟩ | heq⟩ := a.onError_spec h e
      · rw [heq]
        exact ⟨rfl, _, rfl⟩
      · rw [heq]
        exact ⟨rfl, _, rfl⟩

theorem afterRegister_ends (a : Agent) (h : Heap) (now : Timestamp)
    (answer : Except MeshError RegistrationResponse) :
    (a.afterRegister h now answer).1.policy = a.policy ∧
      ∃ outcome, (a.afterRegister h now answer).2.2 = .ended outcome := by
  obtain ⟨later, -, heq⟩ := a.afterRegister_eq h now answer
  obtain ⟨hpolicy, hended⟩ := a.afterHeartbeat_ends h now true answer
  rw [heq]
  exact ⟨(settledAlone_policy _).trans hpolicy, hended⟩

end Agent

namespace Simulation

namespace AgentStage

def kind? : AgentStage → Option CallKind
  | queued => none
  | calling call => some call.awaited.kind

/-- Whether a stage is one of a cycle.  A farewell takes no turn. -/
def isInCycle (stage : AgentStage) : Bool :=
  stage.kind? != some .unregister

def callsInCycle (stage : AgentStage) : Bool :=
  stage.kind?.isSome && stage.isInCycle

end AgentStage

/-- Where the operation of a loop stands, if one is under way. -/
def LoopStage.stage? : LoopStage → Option AgentStage
  | registering stage | ticking _ stage => some stage
  | starting | idle _ | parked | ended _ => none

/-- Where an operation waits, if it does. -/
def Progress.stage? : Progress → Option AgentStage
  | .waits stage => some stage
  | .ends _ => none

def Event.isArrival (e : Event) : Bool :=
  match e.kind with
  | .arrived _ _ => true
  | _ => false

/-- The turns of an agent after a task began a cycle, went on with one, or ended one:
`was` and `is` tell whether the task was in a cycle before, and is in one now. -/
def turnsAfter (turns : List Nat) (task : Nat) (was is : Bool) : List Nat :=
  match was, is with
  | false, true => turns ++ [task]
  | true, false => turns.erase task
  | _, _ => turns

namespace World

/-- What the operation of a task may change when it gets to a stage, or to its end. -/
structure Advances (w : World) (slot : AgentSlot) (task : Nat) (was : Bool) (next : World)
    (stage : Option AgentStage) : Prop where
  tasks : next.tasks = w.tasks
  nextId : next.nextId = w.nextId
  slots : ∃ later : AgentSlot, next.slots = (w.putSlot later).slots ∧
    later.id = slot.id ∧ later.name = slot.name ∧
    later.agent.policy = slot.agent.policy ∧
    later.turns = turnsAfter slot.turns task was (stage.any AgentStage.isInCycle) ∧
    (stage.any AgentStage.callsInCycle = true → later.turns.head? = some task)
  /-- A call that comes in is one of this agent, and the one that the operation waits
  for. -/
  events : ∃ added : List Event, next.events = added ++ w.events ∧
    ∀ e ∈ added, e.agent = slot.name ∧
      (e.isArrival = true → stage.bind AgentStage.kind? = some e.call)
  /-- An agent that is not to call the registry never waits. -/
  policy : stage.isSome = true → slot.agent.policy.standalone = false

theorem Advances.of_heap {w next : World} {slot : AgentSlot} {task : Nat} {was : Bool}
    {stage : Option AgentStage} (heap : Heap)
    (h : Advances { w with heap := heap } slot task was next stage) :
    Advances w slot task was next stage :=
  ⟨h.tasks, h.nextId, h.slots, h.events, h.policy⟩

/-- An event that is not the arrival of a call may come first. -/
theorem Advances.of_event {w next : World} {slot : AgentSlot} {task : Nat} {was : Bool}
    {stage : Option AgentStage} {e : Event}
    (h : Advances { w with events := e :: w.events } slot task was next stage)
    (hagent : e.agent = slot.name) (harrival : e.isArrival = false) :
    Advances w slot task was next stage where
  tasks := h.tasks
  nextId := h.nextId
  slots := h.slots
  events := by
    obtain ⟨added, heq, hadded⟩ := h.events
    refine ⟨added ++ [e], by rw [heq, List.append_assoc]; rfl, ?_⟩
    intro other hother
    rcases List.mem_append.mp hother with hother | hother
    · exact hadded other hother
    · rw [List.mem_singleton.mp hother]
      refine ⟨hagent, ?_⟩
      rw [harrival]
      simp
  policy := h.policy

/-- How the stage of a task agrees with the turns of its agent: a task in a cycle has a
turn, and it is the task's turn if its call is under way. -/
structure Placed (slot : AgentSlot) (task : Nat) (stage : Option AgentStage) : Prop where
  turn : task ∈ slot.turns ↔ stage.any AgentStage.isInCycle = true
  first : stage.any AgentStage.callsInCycle = true → slot.turns.head? = some task
  policy : stage.isSome = true → slot.agent.policy.standalone = false

/-- To put an agent in its place changes nothing if it stands there already. -/
theorem putSlot_self {w : World} {slot : AgentSlot} (hslot : slot ∈ w.slots)
    (hids : (w.slots.map AgentSlot.id).Nodup) : w.putSlot slot = w := by
  have hslots : (w.slots.map fun s => if s.id == slot.id then slot else s) = w.slots := by
    apply (List.map_congr_left ?_).trans (List.map_id w.slots)
    intro other hother
    by_cases hsame : other.id = slot.id
    · rw [if_pos (by simpa using hsame)]
      exact (List.inj_on_of_nodup_map hids hother hslot hsame).symm
    · rw [if_neg (by simpa using hsame)]
      rfl
  rw [putSlot, hslots]

theorem callRegistry_advances {w : World} {slot later : AgentSlot} {task : Nat} {was : Bool}
    (metadata : Option AgentMetadata) (delay : Nat) (isLost : Bool) (awaited : Awaited)
    (hid : later.id = slot.id) (hname : later.name = slot.name)
    (hpolicy : later.agent.policy = slot.agent.policy)
    (hcalls : slot.agent.policy.standalone = false)
    (hturns : later.turns =
      turnsAfter slot.turns task was (awaited.kind != .unregister))
    (hfirst : awaited.kind ≠ .unregister → later.turns.head? = some task) :
    Advances w slot task was (w.callRegistry later metadata delay isLost awaited).1
      (w.callRegistry later metadata delay isLost awaited).2.stage? where
  tasks := rfl
  nextId := rfl
  slots := by
    refine ⟨later, rfl, hid, hname, hpolicy, ?_, ?_⟩
    · rw [hturns]
      cases awaited <;> rfl
    · intro hcall
      apply hfirst
      simpa [callRegistry, Progress.stage?, AgentStage.callsInCycle, AgentStage.isInCycle,
        AgentStage.kind?] using hcall
  events := by
    refine ⟨[⟨w.now, later.name, .arrived later.agent.identity.agentId metadata,
      awaited.kind⟩], rfl, ?_⟩
    intro e he
    rw [List.mem_singleton.mp he]
    exact ⟨hname, fun _ => rfl⟩
  policy := fun _ => hcalls

/-- The end of an operation gives the turn back. -/
theorem putSlot_advances {w next : World} {slot : AgentSlot} (later : AgentSlot)
    {task : Nat} {was : Bool}
    (htasks : next.tasks = w.tasks) (hnextId : next.nextId = w.nextId)
    (hslots : next.slots = (w.putSlot later).slots)
    (hevents : ∃ added : List Event, next.events = added ++ w.events ∧
      ∀ e ∈ added, e.agent = slot.name ∧ e.isArrival = false)
    (hid : later.id = slot.id) (hname : later.name = slot.name)
    (hpolicy : later.agent.policy = slot.agent.policy)
    (hturns : later.turns = turnsAfter slot.turns task was false) :
    Advances w slot task was next none where
  tasks := htasks
  nextId := hnextId
  slots := ⟨later, hslots, hid, hname, hpolicy, hturns, by simp⟩
  events := by
    obtain ⟨added, heq, hadded⟩ := hevents
    refine ⟨added, heq, ?_⟩
    intro e he
    obtain ⟨hagent, harrival⟩ := hadded e he
    refine ⟨hagent, ?_⟩
    rw [harrival]
    simp
  policy := by simp

/-- An agent does what it has to do next: if its cycle is over, the task's turn is, too;
if it makes a call, it is the task's turn. -/
theorem follow_advances (w : World) (heap : Heap) {slot : AgentSlot} (later : AgentSlot)
    {task : Nat} {was : Bool} (move : AgentMove) (hid : later.id = slot.id)
    (hname : later.name = slot.name) (hpolicy : later.agent.policy = slot.agent.policy)
    (hended : (∃ outcome, move = .ended outcome) →
      later.turns.erase task = turnsAfter slot.turns task was false)
    (hcalls : (∀ outcome, move ≠ .ended outcome) →
      slot.agent.policy.standalone = false ∧
        later.turns = turnsAfter slot.turns task was true ∧
        later.turns.head? = some task) :
    Advances w slot task was ({ w with heap := heap }.follow later task move).1
      ({ w with heap := heap }.follow later task move).2.stage? := by
  apply Advances.of_heap heap
  cases move with
  | ended outcome =>
      exact putSlot_advances _ rfl rfl rfl ⟨[], rfl, by simp⟩ hid hname hpolicy
        (hended ⟨outcome, rfl⟩)
  | register request =>
      obtain ⟨hstandalone, hturns, hfirst⟩ := hcalls (by simp)
      exact callRegistry_advances _ _ _ _ hid hname hpolicy hstandalone hturns
        fun _ => hfirst
  | heartbeat request force =>
      obtain ⟨hstandalone, hturns, hfirst⟩ := hcalls (by simp)
      exact callRegistry_advances _ _ _ _ hid hname hpolicy hstandalone hturns
        fun _ => hfirst
  | probe =>
      obtain ⟨hstandalone, hturns, hfirst⟩ := hcalls (by simp)
      exact callRegistry_advances _ _ _ _ hid hname hpolicy hstandalone hturns
        fun _ => hfirst

section Operations

variable (w : World) {slot : AgentSlot} {task : Nat}

/-- To register, a task needs the turn, unless the agent does not call the registry. -/
theorem register_advances (later : AgentSlot) {was : Bool} (hid : later.id = slot.id)
    (hname : later.name = slot.name) (hpolicy : later.agent.policy = slot.agent.policy)
    (hended : later.turns.erase task = turnsAfter slot.turns task was false)
    (hcalls : slot.agent.policy.standalone = false →
      later.turns = turnsAfter slot.turns task was true ∧
        later.turns.head? = some task) :
    Advances w slot task was (w.register later task).1
      (w.register later task).2.stage? := by
  have hkept := later.agent.beginRegister_policy w.heap w.timestamp
  refine follow_advances w (later.agent.beginRegister w.heap w.timestamp).2.1
    { later with agent := (later.agent.beginRegister w.heap w.timestamp).1 }
    (later.agent.beginRegister w.heap w.timestamp).2.2 hid hname (hkept.trans hpolicy)
    (fun _ => hended) ?_
  intro hcall
  cases hstandalone : slot.agent.policy.standalone with
  | true =>
      rw [← hpolicy] at hstandalone
      rw [Agent.beginRegister, if_pos hstandalone] at hcall
      exact absurd rfl (hcall .disabled)
  | false => exact ⟨rfl, hcalls hstandalone⟩

theorem beginRegister_advances (hout : task ∉ slot.turns) :
    Advances w slot task false (w.beginRegister slot task).1
      (w.beginRegister slot task).2.stage? := by
  simp only [beginRegister]
  split
  · rename_i hstandalone
    refine register_advances w slot rfl rfl rfl (List.erase_of_not_mem hout) ?_
    intro hcalls
    rw [hstandalone] at hcalls
    cases hcalls
  · rename_i hstandalone
    have hpolicy : slot.agent.policy.standalone = false := by simpa using hstandalone
    split
    · rename_i hfirst
      refine register_advances w { slot with turns := slot.turns ++ [task] } rfl rfl rfl ?_
        fun _ => ⟨rfl, hfirst⟩
      show (slot.turns ++ [task]).erase task = slot.turns
      rw [List.erase_append_right _ hout, List.erase_cons_head, List.append_nil]
    · exact {
        tasks := rfl
        nextId := rfl
        slots := ⟨_, rfl, rfl, rfl, rfl, rfl, fun hcall => by cases hcall⟩
        events := ⟨[], rfl, by simp⟩
        policy := fun _ => hpolicy }

theorem beginTick_advances (hout : task ∉ slot.turns) :
    Advances w slot task false (w.beginTick slot task).1
      (w.beginTick slot task).2.stage? := by
  have hended : slot.turns.erase task = turnsAfter slot.turns task false false :=
    List.erase_of_not_mem hout
  simp only [beginTick, Agent.beginTick]
  split
  · exact follow_advances w _ slot _ rfl rfl rfl (fun _ => hended)
      fun hcall => absurd rfl (hcall .disabled)
  · rename_i hstandalone
    split
    · exact follow_advances w _ slot _ rfl rfl rfl (fun _ => hended)
        fun hcall => absurd rfl (hcall .inFlight)
    · rename_i hfree
      have hnone : slot.turns = [] := by simpa using hfree
      refine follow_advances w _ { slot with turns := slot.turns ++ [task] } _ rfl rfl rfl
        ?_ ?_
      · rintro ⟨outcome, hmove⟩
        cases hmove
      · intro _
        refine ⟨by simpa using hstandalone, rfl, ?_⟩
        rw [hnone]
        rfl

theorem idle_advances (hslot : slot ∈ w.slots) (hids : (w.slots.map AgentSlot.id).Nodup)
    (heap : Heap) : Advances w slot task false { w with heap := heap } none :=
  putSlot_advances slot rfl rfl (congrArg World.slots (putSlot_self hslot hids)).symm
    ⟨[], rfl, by simp⟩ rfl rfl rfl rfl

theorem beginDeregister_advances (hslot : slot ∈ w.slots)
    (hids : (w.slots.map AgentSlot.id).Nodup) :
    Advances w slot task false (w.beginDeregister slot).1
      (w.beginDeregister slot).2.stage? := by
  rw [beginDeregister]
  split
  · rename_i hwants
    have hpolicy : slot.agent.policy.standalone = false := by
      simp only [Agent.wantsToDeregister, Bool.and_eq_true, Bool.not_eq_true'] at hwants
      exact hwants.1
    exact callRegistry_advances _ _ _ _ rfl rfl rfl hpolicy rfl
      fun hcycle => absurd rfl hcycle
  · exact idle_advances w hslot hids w.heap

theorem turnsAfter_same (turns : List Nat) (task : Nat) (was : Bool) :
    turnsAfter turns task was was = turns := by
  cases was
  · rfl
  · rfl

/-- An answer arrives.  It ends a registration, a full heartbeat and a farewell; a probe
may lead to a full heartbeat. -/
theorem receive_advances {call : OpenCall} (hplaced : Placed slot task (some (.calling call))) :
    Advances w slot task (AgentStage.calling call).isInCycle
      (w.receive slot task call).1 (w.receive slot task call).2.stage? := by
  have hanswered : ∀ (w' : World), w' = w ∨ w' = w.record slot .answered call.awaited.kind →
      ∀ {was : Bool} {next : World} {stage : Option AgentStage},
        Advances w' slot task was next stage → Advances w slot task was next stage := by
    rintro w' (rfl | rfl) was next stage h
    · exact h
    · exact h.of_event rfl rfl
  have hchoice : (if call.arrived < w.now then w.record slot .answered call.awaited.kind
      else w) = w ∨ (if call.arrived < w.now then w.record slot .answered call.awaited.kind
      else w) = w.record slot .answered call.awaited.kind := by
    split
    · exact Or.inr rfl
    · exact Or.inl rfl
  simp only [receive]
  generalize (if call.arrived < w.now then w.record slot .answered call.awaited.kind
    else w) = w' at hchoice ⊢
  apply hanswered w' hchoice
  have hfirst := hplaced.first
  have hpolicy := hplaced.policy rfl
  simp only [AgentStage.isInCycle, AgentStage.kind?, AgentStage.callsInCycle,
    Option.any_some] at hfirst ⊢
  generalize call.awaited = awaited at hfirst ⊢
  cases awaited with
  | farewell answer =>
      exact putSlot_advances
        { slot with agent := (slot.agent.afterUnregister w'.heap answer).1 } rfl rfl rfl
        ⟨[], rfl, by simp⟩ rfl rfl rfl rfl
  | registration answer =>
      obtain ⟨hkept, houtcome⟩ :=
        slot.agent.afterRegister_ends w'.heap w'.timestamp answer
      obtain ⟨outcome, hended⟩ := houtcome
      exact follow_advances w' _ { slot with
          agent := (slot.agent.afterRegister w'.heap w'.timestamp answer).1 }
        (slot.agent.afterRegister w'.heap w'.timestamp answer).2.2 rfl rfl hkept
        (fun _ => rfl) fun hcall => absurd hended (hcall outcome)
  | probe reply =>
      exact follow_advances w' _ { slot with
          agent := (slot.agent.afterProbe w'.heap w'.timestamp reply).1 }
        (slot.agent.afterProbe w'.heap w'.timestamp reply).2.2 rfl rfl
        (slot.agent.afterProbe_policy w'.heap w'.timestamp reply) (fun _ => rfl)
        fun _ => ⟨hpolicy, rfl, hfirst rfl⟩
  | heartbeat force answer =>
      obtain ⟨hkept, houtcome⟩ :=
        slot.agent.afterHeartbeat_ends w'.heap w'.timestamp force answer
      obtain ⟨outcome, hended⟩ := houtcome
      exact follow_advances w' _ { slot with
          agent := (slot.agent.afterHeartbeat w'.heap w'.timestamp force answer).1 }
        (slot.agent.afterHeartbeat w'.heap w'.timestamp force answer).2.2 rfl rfl hkept
        (fun _ => rfl) fun hcall => absurd hended (hcall outcome)

theorem stepOperation_advances {stage : AgentStage} {next : World} {progress : Progress}
    (hslot : slot ∈ w.slots) (hids : (w.slots.map AgentSlot.id).Nodup)
    (hplaced : Placed slot task (some stage))
    (hstep : w.stepOperation slot task stage = some (next, progress)) :
    Advances w slot task stage.isInCycle next progress.stage? := by
  cases operationStep_of_some hstep with
  | registers hfirst hnext =>
      have hregister : Advances w slot task true (w.register slot task).1
          (w.register slot task).2.stage? :=
        register_advances w slot rfl rfl rfl rfl fun _ => ⟨rfl, hfirst⟩
      rw [hnext] at hregister
      exact hregister
  | @waits call later hawaited =>
      have hkind : (AgentStage.calling later).kind? = (AgentStage.calling call).kind? := by
        rw [AgentStage.kind?, AgentStage.kind?, hawaited]
      have hcycle : (AgentStage.calling later).isInCycle =
          (AgentStage.calling call).isInCycle := by
        rw [AgentStage.isInCycle, hkind, AgentStage.isInCycle]
      have hcalls : (AgentStage.calling later).callsInCycle =
          (AgentStage.calling call).callsInCycle := by
        rw [AgentStage.callsInCycle, hkind, hcycle, AgentStage.callsInCycle]
      have hfirst := hplaced.first
      rw [Option.any_some, ← hcalls] at hfirst
      rw [← hcycle]
      exact {
        tasks := rfl
        nextId := rfl
        slots := ⟨slot, (congrArg World.slots (putSlot_self hslot hids)).symm, rfl, rfl, rfl,
          (turnsAfter_same _ _ _).symm, hfirst⟩
        events := ⟨[], rfl, by simp⟩
        policy := fun _ => hplaced.policy rfl }
  | receives hnext =>
      have hreceived := receive_advances w hplaced
      rw [hnext] at hreceived
      exact hreceived

/-- An operation that is broken off gives its turn back, if it has one. -/
theorem cancelOperation_advances {stage : AgentStage}
    (hplaced : Placed slot task (some stage)) :
    Advances w slot task stage.isInCycle (w.cancelOperation slot task stage) none := by
  have hturns : slot.turns.erase task =
      turnsAfter slot.turns task stage.isInCycle false := by
    cases hcycle : stage.isInCycle with
    | true => rfl
    | false =>
        apply List.erase_of_not_mem
        rw [hplaced.turn, Option.any_some, hcycle]
        simp
  cases stage with
  | queued => exact putSlot_advances _ rfl rfl rfl ⟨[], rfl, by simp⟩ rfl rfl rfl hturns
  | calling call =>
      exact putSlot_advances _ rfl rfl rfl
        ⟨[⟨w.now, slot.name, .cancelled, call.awaited.kind⟩], rfl,
          by simp [Event.isArrival]⟩ rfl rfl rfl hturns

/-- A line that is logged makes no difference. -/
theorem Advances.note {next : World} {was : Bool} {stage : Option AgentStage}
    (h : Advances w slot task was next stage) (entry : LogEntry) :
    Advances w slot task was (next.note entry) stage :=
  ⟨h.tasks, h.nextId, h.slots, h.events, h.policy⟩

theorem loopRegistered_stage? (progress : Progress) :
    (w.loopRegistered slot progress).stage? = progress.stage? := by
  cases progress with
  | waits stage => rfl
  | ends result =>
      simp only [loopRegistered, afterRegistration]
      split
      · rfl
      · split
        · rfl
        · rfl

theorem loopTicked_advances {next : World} {was : Bool} {progress : Progress}
    (h : Advances w slot task was next progress.stage?) (due : Nat) :
    Advances w slot task was (next.loopTicked due progress).1
      (next.loopTicked due progress).2.stage? := by
  unfold loopTicked
  split
  · exact h
  · exact h.note w _
  · exact h

theorem stepLoop_advances {isStopping : Bool} {stage later : LoopStage} {next : World}
    (hslot : slot ∈ w.slots) (hids : (w.slots.map AgentSlot.id).Nodup)
    (hplaced : Placed slot task stage.stage?)
    (hstep : w.stepLoop slot task isStopping stage = some (next, later)) :
    Advances w slot task (stage.stage?.any AgentStage.isInCycle) next later.stage? := by
  have hout : stage.stage? = none → task ∉ slot.turns := by
    intro hnone
    rw [hplaced.turn, hnone]
    simp
  cases loopStep_of_some hstep with
  | begins entry hnext =>
      have hbegun := beginRegister_advances (w.note entry) (hout rfl)
      rw [hnext] at hbegun
      rw [loopRegistered_stage?]
      exact hbegun.of_heap
  | registers hoperation =>
      rw [loopRegistered_stage?]
      exact stepOperation_advances w hslot hids hplaced hoperation
  | @ticks due after next progress later hgoes hdue hafter hnext =>
      have hbegun := beginTick_advances w (hout rfl)
      rw [hafter] at hbegun
      have hticked := loopTicked_advances w hbegun
        (Ticker.next slot.agent.policy.interval due after.now)
      rw [hnext] at hticked
      exact hticked
  | @works due stage after next progress later hoperation hnext =>
      have hticked := loopTicked_advances w
        (stepOperation_advances w hslot hids hplaced hoperation) due
      rw [hnext] at hticked
      exact hticked
  | stops entry => exact idle_advances w hslot hids _
  | leaves => exact idle_advances w hslot hids w.heap

/-- A loop that is broken off gives its turn back, if it has one. -/
theorem cancelLoop_advances {stage : LoopStage} (hslot : slot ∈ w.slots)
    (hids : (w.slots.map AgentSlot.id).Nodup) (hplaced : Placed slot task stage.stage?) :
    Advances w slot task (stage.stage?.any AgentStage.isInCycle)
      (w.cancelLoop slot task stage) none := by
  cases stage with
  | registering stage => exact cancelOperation_advances w hplaced
  | ticking due stage => exact cancelOperation_advances w hplaced
  | starting | idle | parked | ended => exact idle_advances w hslot hids w.heap

end Operations

end World

end Simulation

end CapabilityMesh
