/-
The life of an agent whose loop is started once and shut down once.  The farewell is the
last thing that the registry hears of it, whenever the shutdown comes, wherever the loop
stands then, and however long the registry takes for its answers.
-/
import CapabilityMesh.Proofs.Agent.Run
import CapabilityMesh.Proofs.Simulation.Schedule

namespace CapabilityMesh

namespace Simulation

def Event.isFarewell (e : Event) : Bool :=
  e.isArrival && e.call == .unregister

/-- How far an agent's loop has come. -/
inductive ServiceStage where
  | running
  /-- The loop was asked to stop. -/
  | stopping
  /-- The loop is gone, and a task takes leave of the registry. -/
  | leaving (task : Nat)
  | gone
deriving Repr, DecidableEq

/-- An application that runs the loop of one agent. -/
structure Service where
  world : World
  agent : Nat
  loop : Nat
  stage : ServiceStage := .running

/-- What may happen to a service next. -/
inductive ServiceMove where
  | goOn (choice : Choice)
  /-- The shutdown begins. -/
  | shutDown
  /-- The loop is waited for no longer: it has ended, or it is broken off. -/
  | cease
  /-- The farewell is waited for no longer. -/
  | quit

namespace Service

/-- An agent is created, and its loop is started. -/
def start (name : String) (identity : AgentIdentity) (policy : HeartbeatPolicy)
    (answers : Answers) : Service where
  world := World.after [.create name identity policy answers, .start 0]
  agent := 0
  loop := 1

/-- What comes of a move.  One that does not fit changes nothing. -/
def step (s : Service) : ServiceMove → Service
  | .goOn choice =>
      if choice.isSurrounding then { s with world := s.world.choose choice } else s
  | .shutDown =>
      match s.stage with
      | .running => { s with world := s.world.choose (.stop s.agent), stage := .stopping }
      | _ => s
  | .cease =>
      match s.stage with
      | .stopping =>
          { s with
            world := (s.world.choose (.cancel s.loop)).choose (.deregister s.agent)
            stage := .leaving (s.world.choose (.cancel s.loop)).nextId }
      | _ => s
  | .quit =>
      match s.stage with
      | .leaving task => { s with world := s.world.choose (.cancel task), stage := .gone }
      | _ => s

def run (name : String) (identity : AgentIdentity) (policy : HeartbeatPolicy)
    (answers : Answers) (moves : List ServiceMove) : Service :=
  moves.foldl step (start name identity policy answers)

end Service

section Cycles

theorem follow_inCycle (w : World) (slot : AgentSlot) (task : Nat) (move : AgentMove) :
    (w.follow slot task move).2.stage?.all AgentStage.isInCycle = true := by
  cases move <;> rfl

variable {w : World} {slot : AgentSlot} {task : Nat}

theorem register_inCycle : (w.register slot task).2.stage?.all AgentStage.isInCycle = true :=
  follow_inCycle _ _ _ _

theorem beginRegister_inCycle :
    (w.beginRegister slot task).2.stage?.all AgentStage.isInCycle = true := by
  simp only [World.beginRegister]
  split
  · exact register_inCycle
  · split
    · exact register_inCycle
    · rfl

theorem beginTick_inCycle :
    (w.beginTick slot task).2.stage?.all AgentStage.isInCycle = true :=
  follow_inCycle _ _ _ _

variable (w slot task) in
/-- What follows an answer is part of the cycle that its call was. -/
theorem receive_inCycle {call : OpenCall}
    (hcycle : (AgentStage.calling call).isInCycle = true) :
    (w.receive slot task call).2.stage?.all AgentStage.isInCycle = true := by
  simp only [World.receive]
  split
  · rename_i answer hawaited
    rw [AgentStage.isInCycle, AgentStage.kind?, hawaited] at hcycle
    cases hcycle
  · exact follow_inCycle _ _ _ _
  · exact follow_inCycle _ _ _ _
  · exact follow_inCycle _ _ _ _

theorem stepOperation_inCycle {stage : AgentStage} (hcycle : stage.isInCycle = true)
    {next : World} {progress : Progress}
    (hstep : w.stepOperation slot task stage = some (next, progress)) :
    progress.stage?.all AgentStage.isInCycle = true := by
  cases World.operationStep_of_some hstep with
  | registers _ hnext =>
      have hregister : (w.register slot task).2.stage?.all AgentStage.isInCycle = true :=
        register_inCycle
      rw [hnext] at hregister
      exact hregister
  | @waits call later hawaited =>
      show (AgentStage.calling later).isInCycle = true
      rw [AgentStage.isInCycle, AgentStage.kind?, hawaited]
      exact hcycle
  | receives hnext =>
      have hreceived := receive_inCycle w slot task hcycle
      rw [hnext] at hreceived
      exact hreceived

theorem stepLoop_inCycle {isStopping : Bool} {stage later : LoopStage} {next : World}
    (hcycle : stage.stage?.all AgentStage.isInCycle = true)
    (hstep : w.stepLoop slot task isStopping stage = some (next, later)) :
    later.stage?.all AgentStage.isInCycle = true := by
  have hticked : ∀ (after : World) (due : Nat) (progress : Progress),
      after.loopTicked due progress = (next, later) → later.stage? = progress.stage? := by
    intro after due progress heq
    unfold World.loopTicked at heq
    split at heq
    all_goals
      obtain ⟨-, rfl⟩ := Prod.mk.inj heq
      rfl
  cases World.loopStep_of_some hstep with
  | begins entry hnext =>
      have hbegun : ((w.note entry).beginRegister slot task).2.stage?.all
          AgentStage.isInCycle = true := beginRegister_inCycle
      rw [hnext] at hbegun
      rw [World.loopRegistered_stage?]
      exact hbegun
  | registers hoperation =>
      rw [World.loopRegistered_stage?]
      exact stepOperation_inCycle hcycle hoperation
  | ticks _ _ hafter hnext =>
      have hbegun : (w.beginTick slot task).2.stage?.all AgentStage.isInCycle = true :=
        beginTick_inCycle
      rw [hafter] at hbegun
      rw [hticked _ _ _ hnext]
      exact hbegun
  | works hoperation hnext =>
      rw [hticked _ _ _ hnext]
      exact stepOperation_inCycle hcycle hoperation
  | stops entry => rfl
  | leaves => rfl

end Cycles

namespace World

/-- Nothing is begun between two states: no call comes in, and no agent becomes
registered. -/
structure Subsides (w next : World) : Prop where
  slots : ∀ slot ∈ next.slots, ∃ old ∈ w.slots, old.id = slot.id ∧
    slot.agent.policy = old.agent.policy ∧
    (slot.agent.state.phase = .registered → old.agent.state.phase = .registered)
  events : ∃ added : List Event, next.events = added ++ w.events ∧
    ∀ e ∈ added, e.isArrival = false

theorem Subsides.refl (w : World) : Subsides w w where
  slots := fun slot hslot => ⟨slot, hslot, rfl, rfl, id⟩
  events := ⟨[], rfl, by simp⟩

/-- An agent's slot may change as long as the agent is not registered thereby. -/
theorem putSlot_subsides {w next : World} {slot : AgentSlot} (later : AgentSlot)
    (hslot : slot ∈ w.slots)
    (hid : later.id = slot.id) (hpolicy : later.agent.policy = slot.agent.policy)
    (hphase : later.agent.state.phase = .registered → slot.agent.state.phase = .registered)
    (hslots : next.slots = (w.putSlot later).slots)
    (hevents : ∃ added : List Event, next.events = added ++ w.events ∧
      ∀ e ∈ added, e.isArrival = false) : Subsides w next where
  slots := by
    intro other hother
    rw [hslots] at hother
    rcases (mem_putSlot hslot hid).mp hother with rfl | ⟨hmem, -⟩
    · exact ⟨slot, hslot, hid.symm, hpolicy, hphase⟩
    · exact ⟨other, hmem, rfl, rfl, id⟩
  events := hevents

theorem cancelOperation_subsides {w : World} {slot : AgentSlot} (hslot : slot ∈ w.slots)
    (task : Nat) (stage : AgentStage) :
    Subsides w (w.cancelOperation slot task stage) := by
  cases stage with
  | queued =>
      exact putSlot_subsides { slot with turns := slot.turns.erase task } hslot rfl rfl id rfl
        ⟨[], rfl, by simp⟩
  | calling call =>
      exact putSlot_subsides { slot with turns := slot.turns.erase task } hslot rfl rfl id rfl
        ⟨[⟨w.now, slot.name, .cancelled, call.awaited.kind⟩], rfl, by simp [Event.isArrival]⟩

theorem cancelLoop_subsides {w : World} {slot : AgentSlot} (hslot : slot ∈ w.slots)
    (task : Nat) (stage : LoopStage) : Subsides w (w.cancelLoop slot task stage) := by
  cases stage with
  | registering stage => exact cancelOperation_subsides hslot task stage
  | ticking due stage => exact cancelOperation_subsides hslot task stage
  | starting | idle | parked | ended => exact .refl w

/-- To break a task off begins nothing. -/
theorem cancel_subsides (w : World) (task : Nat) : Subsides w (w.cancel task) := by
  have herased : ∀ {next : World}, Subsides w next → Subsides w (next.eraseTask task) :=
    fun hnext => ⟨hnext.slots, hnext.events⟩
  rw [cancel]
  split
  · exact .refl w
  · apply herased
    split
    · split
      · rename_i slot hslot
        exact cancelOperation_subsides (slot?_mem hslot).1 _ _
      · exact .refl w
    · split
      · rename_i slot hslot
        exact cancelLoop_subsides (slot?_mem hslot).1 _ _
      · exact .refl w
    · rename_i frames _
      obtain ⟨heap, heq⟩ := cancelCall_heap w frames
      rw [heq]
      exact ⟨(Subsides.refl w).slots, (Subsides.refl w).events⟩
    · exact .refl w

theorem receive_farewell {w : World} {slot : AgentSlot} (task : Nat) {call : OpenCall}
    {answer : Except MeshError Unit} (hslot : slot ∈ w.slots)
    (hawaited : call.awaited = .farewell answer) :
    Subsides w (w.receive slot task call).1 ∧
      (w.receive slot task call).1.tasks = w.tasks ∧
      ∃ result, (w.receive slot task call).2 = .ends result := by
  have hphase : (slot.agent.afterUnregister w.heap answer).1.state.phase = .registered →
      slot.agent.state.phase = .registered := by
    simp [Agent.afterUnregister]
  simp only [receive, hawaited]
  split
  · exact ⟨putSlot_subsides
      { slot with agent := (slot.agent.afterUnregister w.heap answer).1 } hslot rfl rfl hphase
      rfl ⟨[⟨w.now, slot.name, .answered, .unregister⟩], rfl, by simp [Event.isArrival]⟩,
      rfl, _, rfl⟩
  · exact ⟨putSlot_subsides
      { slot with agent := (slot.agent.afterUnregister w.heap answer).1 } hslot rfl rfl hphase
      rfl ⟨[], rfl, by simp⟩, rfl, _, rfl⟩

theorem stepOperation_farewell {w next : World} {slot : AgentSlot} {task : Nat}
    {call : OpenCall} {progress : Progress} (hslot : slot ∈ w.slots)
    (hfarewell : call.awaited.kind = .unregister)
    (hstep : w.stepOperation slot task (.calling call) = some (next, progress)) :
    Subsides w next ∧ next.tasks = w.tasks ∧
      ((∃ later : OpenCall, progress = .waits (.calling later) ∧
          later.awaited.kind = .unregister) ∨
        ∃ result, progress = .ends result) := by
  cases operationStep_of_some hstep with
  | @waits _ later hawaited =>
      have hlater : later.awaited.kind = .unregister := by
        rw [hawaited]
        exact hfarewell
      exact ⟨.refl w, rfl, Or.inl ⟨later, rfl, hlater⟩⟩
  | receives hnext =>
      cases hawaited : call.awaited with
      | farewell answer =>
          have hreceived := receive_farewell task hslot hawaited
          rw [hnext] at hreceived
          obtain ⟨hsubsides, htasks, hresult⟩ := hreceived
          exact ⟨hsubsides, htasks, Or.inr hresult⟩
      | registration answer | probe reply | heartbeat force answer =>
          rw [hawaited] at hfarewell
          cases hfarewell

/-- An application in which the loop of an agent is at work, if anything is, and no farewell
was sent. -/
structure Serving (p : HeartbeatPolicy) (agent loop : Nat) (w : World) : Prop where
  orderly : w.Orderly
  policy : ∀ slot ∈ w.slots, slot.agent.policy = p
  loops : ∀ t ∈ w.tasks, t.id = loop ∧ ∃ isStopping stage,
    t.work = .loop agent isStopping stage ∧
      stage.stage?.all AgentStage.isInCycle = true
  quiet : ∀ e ∈ w.events, e.isFarewell = false

/-- What was heard of an agent in the end: no farewell, or one that the policy asks for and
after which no call came in. -/
def Parted (p : HeartbeatPolicy) (events : List Event) : Prop :=
  (∀ e ∈ events, e.isFarewell = false) ∨
    (p.standalone = false ∧ p.deregisterOnShutdown = true ∧
      ∃ later e earlier, events = later ++ e :: earlier ∧ e.isFarewell = true ∧
        (∀ x ∈ later, x.isArrival = false) ∧ ∀ x ∈ earlier, x.isFarewell = false)

/-- An application in which nothing is at work but a farewell. -/
structure Left (p : HeartbeatPolicy) (w : World) : Prop where
  tasks : ∀ t ∈ w.tasks,
    (∃ agent call, t.work = .operation agent (.calling call) ∧
      call.awaited.kind = .unregister) ∨ ∃ result, t.work = .finished result
  heard : Parted p w.events

theorem isFarewell_of_not_arrival {e : Event} (he : e.isArrival = false) :
    e.isFarewell = false := by
  rw [Event.isFarewell, he, Bool.false_and]

theorem Parted.append {p : HeartbeatPolicy} {events added : List Event}
    (hparted : Parted p events) (hadded : ∀ e ∈ added, e.isArrival = false) :
    Parted p (added ++ events) := by
  rcases hparted with hnone | ⟨hcalls, hwants, later, e, earlier, rfl, he, hlater, hearlier⟩
  · left
    intro e he
    rcases List.mem_append.mp he with he | he
    · exact isFarewell_of_not_arrival (hadded e he)
    · exact hnone e he
  · refine Or.inr ⟨hcalls, hwants, added ++ later, e, earlier, by simp, he, ?_, hearlier⟩
    intro x hx
    rcases List.mem_append.mp hx with hx | hx
    · exact hadded x hx
    · exact hlater x hx

section Serving

variable {p : HeartbeatPolicy} {agent loop : Nat} {w : World}

/-- A step of the loop is no farewell, whether the loop minds that it was asked to stop or
not. -/
theorem Serving.stepLoop (hw : w.Serving p agent loop) {t : Task} (ht : t ∈ w.tasks)
    {isStopping asked : Bool} {stage later : LoopStage}
    (hwork : t.work = .loop agent isStopping stage) {slot : AgentSlot}
    (hslot : w.slot? agent = some slot) {next : World}
    (hstep : w.stepLoop slot t.id asked stage = some (next, later)) :
    (next.putWork t.id (.loop agent isStopping later)).Serving p agent loop := by
  obtain ⟨hmem, rfl⟩ := slot?_mem hslot
  obtain ⟨hid, isStopping', stage', hwork', hcycle⟩ := hw.loops t ht
  rw [hwork] at hwork'
  obtain ⟨-, rfl, rfl⟩ := Work.loop.inj hwork'
  have hadvances := hw.orderly.loop_advances hmem ht hwork hstep
  have hlater := stepLoop_inCycle hcycle hstep
  refine ⟨hw.orderly.stepLoop hmem ht hwork hstep, ?_, ?_, ?_⟩
  · obtain ⟨after, hslots, hid, -, hpolicy, -⟩ := hadvances.slots
    intro other hother
    have hthere : other ∈ (w.putSlot after).slots := by
      rw [← hslots]
      exact hother
    rcases (mem_putSlot hmem hid).mp hthere with rfl | ⟨hother, -⟩
    · exact hpolicy.trans (hw.policy slot hmem)
    · exact hw.policy other hother
  · intro other hother
    rcases (mem_putWork (hadvances.tasks ▸ ht)).mp hother with rfl | ⟨hother, -⟩
    · exact ⟨hid, isStopping, later, rfl, hlater⟩
    · rw [hadvances.tasks] at hother
      exact hw.loops other hother
  · obtain ⟨added, hevents, hadded⟩ := hadvances.events
    intro e he
    have hwhere : e ∈ added ∨ e ∈ w.events := by
      rw [← List.mem_append, ← hevents]
      exact he
    rcases hwhere with he | he
    · rw [Bool.eq_false_iff]
      intro hfarewell
      simp only [Event.isFarewell, Bool.and_eq_true, beq_iff_eq] at hfarewell
      have hcall := (hadded e he).2 hfarewell.1
      obtain ⟨stage, hstage, hkind⟩ := Option.bind_eq_some_iff.mp hcall
      rw [hstage, Option.all_some, AgentStage.isInCycle, hkind, hfarewell.2] at hlater
      cases hlater
    · exact hw.quiet e he

theorem Serving.putSlot (hw : w.Serving p agent loop) {slot later : AgentSlot}
    (hslot : slot ∈ w.slots) (hsame : outline later = outline slot)
    (hagent : later.agent = slot.agent) : (w.putSlot later).Serving p agent loop where
  orderly := hw.orderly.putSlot hslot hsame
  policy := by
    intro other hother
    rcases (mem_putSlot hslot (Prod.mk.inj hsame).1).mp hother with rfl | ⟨hother, -⟩
    · rw [hagent]
      exact hw.policy slot hslot
    · exact hw.policy other hother
  loops := hw.loops
  quiet := hw.quiet

theorem Serving.askToStop (hw : w.Serving p agent loop) (task : Nat) :
    (w.askToStop task).Serving p agent loop := by
  have horderly := hw.orderly.askToStop task
  rw [World.askToStop] at horderly ⊢
  split at horderly
  · rename_i id other isStopping stage ht
    obtain ⟨hmem, rfl⟩ := task?_mem ht
    obtain ⟨hid, isStopping', stage', hwork, hcycle⟩ := hw.loops _ hmem
    obtain ⟨rfl, rfl, rfl⟩ := Work.loop.inj hwork
    refine ⟨horderly, hw.policy, ?_, hw.quiet⟩
    intro t hold
    rcases (mem_putWork hmem).mp hold with rfl | ⟨hold, -⟩
    · exact ⟨hid, true, stage, rfl, hcycle⟩
    · exact hw.loops t hold
  · exact hw

/-- As long as no farewell was sent, what is around the agent changes nothing about that. -/
theorem Serving.choose (hw : w.Serving p agent loop) {choice : Choice}
    (hchoice : choice.isSurrounding = true) : (w.choose choice).Serving p agent loop := by
  cases choice with
  | around heap gates now =>
      exact ⟨hw.orderly.choose (.around heap gates now), hw.policy, hw.loops, hw.quiet⟩
  | prepare other answers =>
      exact withSlot_keeps hw fun slot hslot _ => hw.putSlot hslot rfl rfl
  | proceed task =>
      apply proceed_keeps hw
      intro t next ht hstep
      obtain ⟨hmem, -⟩ := task?_mem ht
      obtain ⟨-, isStopping, stage, hwork, -⟩ := hw.loops t hmem
      obtain ⟨slot, after, later, hslot, hloop, rfl⟩ := stepTask_loop hwork hstep
      exact hw.stepLoop hmem hwork hslot hloop
  | proceedUnasked task =>
      apply proceedUnasked_keeps hw
      intro other stage slot next later ht hslot hloop
      obtain ⟨hmem, -⟩ := task?_mem ht
      obtain ⟨-, isStopping, stage', hwork, -⟩ := hw.loops _ hmem
      obtain ⟨rfl, rfl, rfl⟩ := Work.loop.inj hwork
      exact hw.stepLoop hmem rfl hslot hloop
  | call | create | build | register | tick | deregister | start | stop | cancel | forget =>
      cases hchoice

theorem Serving.stop (hw : w.Serving p agent loop) :
    (w.choose (.stop agent)).Serving p agent loop := by
  apply withSlot_keeps hw
  intro slot hslot _
  rw [dropLoop]
  split
  · have hput : (w.putSlot { slot with loop := none }).Serving p agent loop :=
      hw.putSlot hslot rfl rfl
    exact hput.askToStop _
  · exact hw

/-- Once the loop is gone, a farewell is sent if the policy asks for one. -/
theorem Serving.leave (hw : w.Serving p agent loop) :
    ((w.choose (.cancel loop)).choose (.deregister agent)).Left p := by
  have hsubsides := cancel_subsides w loop
  have htasks : (w.cancel loop).tasks = [] := by
    rw [List.eq_nil_iff_forall_not_mem]
    intro t ht
    obtain ⟨hmem, hne⟩ := mem_tasks_cancel ht
    exact hne (hw.loops t hmem).1
  have hquiet : ∀ e ∈ (w.cancel loop).events, e.isFarewell = false := by
    obtain ⟨added, heq, hadded⟩ := hsubsides.events
    rw [heq]
    intro e he
    rcases List.mem_append.mp he with he | he
    · exact isFarewell_of_not_arrival (hadded e he)
    · exact hw.quiet e he
  show ((w.cancel loop).choose (.deregister agent)).Left p
  apply withSlot_keeps ⟨by rw [htasks]; simp, Or.inl hquiet⟩
  intro slot hslot _
  have hpolicy : slot.agent.policy = p := by
    obtain ⟨old, hold, -, hsame, -⟩ := hsubsides.slots slot hslot
    rw [hsame]
    exact hw.policy old hold
  simp only [beginTask, addTask, beginDeregister]
  split
  · rename_i hwants
    rw [Agent.wantsToDeregister, hpolicy, Bool.and_eq_true, Bool.not_eq_true'] at hwants
    refine ⟨?_, Or.inr ⟨hwants.1, hwants.2, [], _, _, rfl, rfl, by simp, hquiet⟩⟩
    intro t ht
    simp only [callRegistry, putWork, World.record, World.putSlot, htasks, List.nil_append,
      List.map_cons, List.map_nil, beq_self_eq_true, if_true, List.mem_singleton] at ht
    rw [ht]
    exact Or.inl ⟨_, _, rfl, rfl⟩
  · refine ⟨?_, Or.inl hquiet⟩
    intro t ht
    simp only [putWork, htasks, List.nil_append, List.map_cons, List.map_nil,
      beq_self_eq_true, if_true, List.mem_singleton] at ht
    rw [ht]
    exact Or.inr ⟨_, rfl⟩

end Serving

/-- Nothing is begun any more once the loop is gone, whether the farewell is waited for or
broken off. -/
theorem Left.choose {p : HeartbeatPolicy} {w : World} (hw : w.Left p) {choice : Choice}
    (hchoice : choice.isSurrounding = true ∨ ∃ task, choice = .cancel task) :
    (w.choose choice).Left p ∧ Subsides w (w.choose choice) := by
  have hsame : w.Left p ∧ Subsides w w := ⟨hw, .refl w⟩
  have hheard : ∀ {next : World}, Subsides w next → Parted p next.events := by
    intro next hsubsides
    obtain ⟨added, heq, hadded⟩ := hsubsides.events
    rw [heq]
    exact hw.heard.append hadded
  cases choice with
  | around heap gates now =>
      exact ⟨⟨hw.tasks, hw.heard⟩, ⟨(Subsides.refl w).slots, (Subsides.refl w).events⟩⟩
  | prepare agent answers =>
      apply withSlot_keeps (P := fun next => next.Left p ∧ Subsides w next) hsame
      intro slot hslot _
      exact ⟨⟨hw.tasks, hw.heard⟩,
        putSlot_subsides { slot with answers := slot.answers.add answers } hslot rfl rfl id rfl
          ⟨[], rfl, by simp⟩⟩
  | proceed task =>
      apply proceed_keeps (P := fun next => next.Left p ∧ Subsides w next) hsame
      intro t next ht hstep
      obtain ⟨hmem, -⟩ := task?_mem ht
      rcases hw.tasks t hmem with ⟨agent, call, hwork, hfarewell⟩ | ⟨result, hwork⟩
      · obtain ⟨slot, after, progress, hslot, hoperation, rfl⟩ :=
          stepTask_operation hwork hstep
        obtain ⟨hsubsides, htasks, hprogress⟩ :=
          stepOperation_farewell (slot?_mem hslot).1 hfarewell hoperation
        have hafter : Parted p after.events := hheard hsubsides
        refine ⟨⟨?_, hafter⟩, ⟨hsubsides.slots, hsubsides.events⟩⟩
        intro u hu
        rcases (mem_putWork (htasks ▸ hmem)).mp hu with rfl | ⟨hu, -⟩
        · rcases hprogress with ⟨later, rfl, hlater⟩ | ⟨result, rfl⟩
          · exact Or.inl ⟨agent, later, rfl, hlater⟩
          · exact Or.inr ⟨result, rfl⟩
        · rw [htasks] at hu
          exact hw.tasks u hu
      · simp [stepTask, hwork] at hstep
  | proceedUnasked task =>
      apply proceedUnasked_keeps (P := fun next => next.Left p ∧ Subsides w next) hsame
      intro agent stage slot next later ht _ _
      rcases hw.tasks _ (task?_mem ht).1 with ⟨other, call, hwork, -⟩ | ⟨result, hwork⟩
      · cases hwork
      · cases hwork
  | cancel task =>
      have hsubsides := cancel_subsides w task
      exact ⟨⟨fun t ht => hw.tasks t (mem_tasks_cancel ht).1, hheard hsubsides⟩, hsubsides⟩
  | call | create | build | register | tick | deregister | start | stop | forget =>
      rcases hchoice with hchoice | ⟨task, hchoice⟩
      · cases hchoice
      · cases hchoice

end World

namespace Service

def isGone (s : Service) : Bool :=
  match s.stage with
  | .running | .stopping => false
  | .leaving _ | .gone => true

/-- What holds of a service before its loop is gone, and after. -/
def Sound (p : HeartbeatPolicy) (s : Service) : Prop :=
  if s.isGone then s.world.Left p else s.world.Serving p s.agent s.loop

section Sound

variable {p : HeartbeatPolicy} {s : Service}

theorem Sound.serving (hs : s.Sound p) (hthere : s.isGone = false) :
    s.world.Serving p s.agent s.loop := by
  rwa [Sound, if_neg (by simp [hthere])] at hs

theorem Sound.left (hs : s.Sound p) (hgone : s.isGone = true) : s.world.Left p := by
  rwa [Sound, if_pos hgone] at hs

/-- A move around the agent keeps a service sound, and once the loop is gone nothing is begun
by it. -/
theorem Sound.goOn (hs : s.Sound p) {choice : Choice}
    (hchoice : choice.isSurrounding = true) :
    ({ s with world := s.world.choose choice } : Service).Sound p ∧
      (s.isGone = true → World.Subsides s.world (s.world.choose choice)) := by
  have hstage : ({ s with world := s.world.choose choice } : Service).isGone = s.isGone := rfl
  cases hgone : s.isGone with
  | true =>
      obtain ⟨hleft, hsubsides⟩ := (hs.left hgone).choose (Or.inl hchoice)
      refine ⟨?_, fun _ => hsubsides⟩
      rw [Sound, if_pos (hstage.trans hgone)]
      exact hleft
  | false =>
      refine ⟨?_, fun hother => by cases hother⟩
      rw [Sound, if_neg (by simp [hstage, hgone])]
      exact (hs.serving hgone).choose hchoice

/-- Every move keeps a service sound, and once the loop is gone nothing is begun any
more. -/
theorem Sound.step (hs : s.Sound p) (move : ServiceMove) :
    (s.step move).Sound p ∧
      (s.isGone = true → World.Subsides s.world (s.step move).world) := by
  have hsame : s.Sound p ∧ (s.isGone = true → World.Subsides s.world s.world) :=
    ⟨hs, fun _ => .refl s.world⟩
  obtain ⟨world, agent, loop, stage⟩ := s
  cases move with
  | goOn choice =>
      rw [Service.step]
      split
      · rename_i hchoice
        exact hs.goOn hchoice
      · exact hsame
  | shutDown =>
      cases stage with
      | running => exact ⟨(hs.serving rfl).stop, fun hgone => by cases hgone⟩
      | stopping | leaving | gone => exact hsame
  | cease =>
      cases stage with
      | stopping => exact ⟨(hs.serving rfl).leave, fun hgone => by cases hgone⟩
      | running | leaving | gone => exact hsame
  | quit =>
      cases stage with
      | leaving task =>
          obtain ⟨hleft, hsubsides⟩ := (hs.left rfl).choose (Or.inr ⟨task, rfl⟩)
          exact ⟨hleft, fun _ => hsubsides⟩
      | running | stopping | gone => exact hsame

theorem Sound.parted (hs : s.Sound p) : World.Parted p s.world.events := by
  cases hgone : s.isGone with
  | true => exact (hs.left hgone).heard
  | false => exact Or.inl (hs.serving hgone).quiet

end Sound

theorem start_sound (name : String) (identity : AgentIdentity) (p : HeartbeatPolicy)
    (answers : Answers) : (start name identity p answers).Sound p := by
  show (start name identity p answers).world.Serving p 0 1
  refine ⟨World.after_orderly _, ?_, ?_, ?_⟩
  · intro slot hslot
    obtain rfl := List.mem_singleton.mp hslot
    rfl
  · intro t ht
    obtain rfl := List.mem_singleton.mp ht
    exact ⟨rfl, false, .starting, rfl, rfl⟩
  · intro e he
    cases he

theorem run_sound (name : String) (identity : AgentIdentity) (p : HeartbeatPolicy)
    (answers : Answers) (moves : List ServiceMove) :
    (run name identity p answers moves).Sound p := by
  rw [run]
  have hs := start_sound name identity p answers
  generalize start name identity p answers = s at hs
  induction moves generalizing s with
  | nil => exact hs
  | cons move moves ih => exact ih (s.step move) (hs.step move).1

end Service

/-- There is one farewell at most, the policy asks for it, and no call came in after it. -/
theorem World.Parted.last {p : HeartbeatPolicy} {events : List Event}
    (hparted : Parted p events) :
    events.countP Event.isFarewell ≤ 1 ∧
      ∀ later e earlier, events = later ++ e :: earlier → e.isFarewell = true →
        p.standalone = false ∧ p.deregisterOnShutdown = true ∧
          ∀ x ∈ later, x.isArrival = false := by
  rcases hparted with hnone | ⟨hcalls, hwants, later, e, earlier, rfl, he, hlater, hearlier⟩
  · constructor
    · rw [List.countP_eq_zero.mpr fun e he => by simp [hnone e he]]
      exact Nat.zero_le 1
    · rintro later e earlier rfl he
      rw [hnone e (List.mem_append_right later List.mem_cons_self)] at he
      cases he
  · have hbefore : ∀ x ∈ later, x.isFarewell = false :=
      fun x hx => isFarewell_of_not_arrival (hlater x hx)
    constructor
    · rw [List.countP_append, List.countP_cons,
        List.countP_eq_zero.mpr fun x hx => by simp [hbefore x hx],
        List.countP_eq_zero.mpr fun x hx => by simp [hearlier x hx], he]
      exact Nat.le_refl 1
    · intro later' e' earlier' heq he'
      refine ⟨hcalls, hwants, ?_⟩
      -- Another place of a farewell would be among events that are none.
      rcases List.append_eq_append_iff.mp heq with ⟨rest, rfl, hrest⟩ | ⟨rest, rfl, hrest⟩
      · cases rest with
        | nil => simpa using hlater
        | cons first rest =>
            obtain ⟨-, rfl⟩ := List.cons.inj hrest
            rw [hearlier e' (by simp)] at he'
            cases he'
      · intro x hx
        exact hlater x (List.mem_append_left rest hx)

namespace Service

/-- In every life of a service: one farewell is sent at most, only if the policy asks for
it, and no call comes in after it; and once it was sent, no move makes an agent
registered. -/
theorem farewell_is_last_word (name : String) (identity : AgentIdentity)
    (p : HeartbeatPolicy) (answers : Answers) (moves : List ServiceMove) :
    let s := run name identity p answers moves
    s.world.events.countP Event.isFarewell ≤ 1 ∧
      (∀ later e earlier, s.world.events = later ++ e :: earlier → e.isFarewell = true →
        p.standalone = false ∧ p.deregisterOnShutdown = true ∧
          ∀ x ∈ later, x.isArrival = false) ∧
      ((∃ e ∈ s.world.events, e.isFarewell = true) →
        ∀ move, ∀ slot ∈ (s.step move).world.slots,
          slot.agent.state.phase = .registered →
            ∃ old ∈ s.world.slots, old.id = slot.id ∧
              old.agent.state.phase = .registered) := by
  intro s
  have hs : s.Sound p := run_sound name identity p answers moves
  obtain ⟨hcount, hlast⟩ := hs.parted.last
  refine ⟨hcount, hlast, ?_⟩
  rintro ⟨e, he, hfarewell⟩ move slot hslot hphase
  have hgone : s.isGone = true := by
    cases hgone : s.isGone with
    | true => rfl
    | false =>
        rw [(hs.serving hgone).quiet e he] at hfarewell
        cases hfarewell
  obtain ⟨old, hold, hid, -, hbefore⟩ := ((hs.step move).2 hgone).slots slot hslot
  exact ⟨old, hold, hid, hbefore hphase⟩

/-- A loop is broken off while its registration waits for an answer; the farewell, which is
never answered, comes after all that. -/
example :
    ((run "m" AgentRun.sampleIdentity {} {}
      [.goOn (.proceed 1), .shutDown, .cease, .quit]).world.events.map
        fun e => (e.isArrival, e.call)) =
      [(false, .unregister), (true, .unregister), (false, .register), (true, .register)] := by
  decide +kernel

end Service

end Simulation

end CapabilityMesh
