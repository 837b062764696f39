/-
How an agent stands with the registry while its service lives, and when it is gone.  An
agent is unregistered until its first registration is over, and again once its farewell
is; a farewell that is not waited for leaves it as it was.
-/
import CapabilityMesh.Proofs.Simulation.Phases

namespace CapabilityMesh

namespace Simulation

namespace World

section Single

variable {w : World} {slot : AgentSlot}

theorem slot?_single (hslots : w.slots = [slot]) (agent : Nat) :
    w.slot? agent = if slot.id = agent then some slot else none := by
  rw [slot?, hslots, List.find?_singleton]
  simp

theorem eq_of_slot? (hslots : w.slots = [slot]) {agent : Nat} {found : AgentSlot}
    (hfound : w.slot? agent = some found) : found = slot :=
  List.mem_singleton.mp (hslots ▸ (slot?_mem hfound).1)

theorem putSlot_single (hslots : w.slots = [slot]) {later : AgentSlot}
    (hid : later.id = slot.id) : (w.putSlot later).slots = [later] := by
  simp [putSlot, hslots, hid]

theorem task?_single {t : Task} (htasks : w.tasks = [t]) (id : Nat) :
    w.task? id = if t.id = id then some t else none := by
  rw [task?, htasks, List.find?_singleton]
  simp

theorem eq_of_task? {t found : Task} (htasks : w.tasks = [t]) {task : Nat}
    (hfound : w.task? task = some found) : found = t :=
  List.mem_singleton.mp (htasks ▸ (task?_mem hfound).1)

theorem putWork_single {t : Task} (htasks : w.tasks = [t]) (work : Work) :
    (w.putWork t.id work).tasks = [⟨t.id, work⟩] := by
  simp [putWork, htasks]

theorem Serves.single {next : World} {sort : AgentPhase → Prop}
    (h : Serves w slot next sort) (hslots : w.slots = [slot]) :
    ∃ later : AgentSlot, next.slots = [later] ∧ later.id = slot.id ∧
      later.agent.policy = slot.agent.policy ∧ sort later.agent.state.phase := by
  obtain ⟨later, heq, hid, hpolicy, hsort⟩ := h.slots
  exact ⟨later, heq.trans (putSlot_single hslots hid), hid, hpolicy, hsort⟩

/-- A loop that is broken off leaves its agent as it is. -/
theorem cancelLoop_serves (hslots : w.slots = [slot]) (id : Nat) (stage : LoopStage) :
    Serves w slot (w.cancelLoop slot id stage) (· = slot.agent.state.phase) := by
  have hself : (w.putSlot slot).slots = w.slots :=
    (putSlot_single hslots rfl).trans hslots.symm
  cases stage with
  | registering stage => exact cancelOperation_serves id stage
  | ticking due stage => exact cancelOperation_serves id stage
  | starting | idle | parked | ended => exact .of_same rfl hself.symm rfl

/-- To break a task off leaves the agent as it is. -/
theorem cancel_single (hslots : w.slots = [slot]) (task : Nat) :
    ∃ later : AgentSlot, (w.cancel task).slots = [later] ∧ later.id = slot.id ∧
      later.agent.policy = slot.agent.policy ∧
      later.agent.state.phase = slot.agent.state.phase := by
  have hsame : ∃ later : AgentSlot, w.slots = [later] ∧ later.id = slot.id ∧
      later.agent.policy = slot.agent.policy ∧
      later.agent.state.phase = slot.agent.state.phase := ⟨slot, hslots, rfl, rfl, rfl⟩
  rw [cancel]
  split
  · exact hsame
  · simp only
    split
    · split
      · rename_i found hslot
        obtain rfl := eq_of_slot? hslots hslot
        exact (cancelOperation_serves _ _).single hslots
      · exact hsame
    · split
      · rename_i found hslot
        obtain rfl := eq_of_slot? hslots hslot
        exact (cancelLoop_serves hslots _ _).single hslots
      · exact hsame
    · rename_i frames _
      obtain ⟨heap, heq⟩ := cancelCall_heap w frames
      rw [heq]
      exact hsame
    · exact hsame

end Single

/-- An application with one agent, whose loop is the one task.  The agent is unregistered
as long as the first registration of the loop is not over, and no longer. -/
structure Employed (p : HeartbeatPolicy) (w : World) (slot : AgentSlot) (loop : Nat)
    (stage : LoopStage) : Prop where
  slots : w.slots = [slot]
  tasks : ∃ isStopping, w.tasks = [⟨loop, .loop slot.id isStopping stage⟩]
  policy : slot.agent.policy = p
  inCycle : stage.stage?.all AgentStage.isInCycle = true
  registers : stage.isRegistering = true →
    stage.stage?.all AgentStage.isRegistration = true
  phase : slot.agent.state.phase = .unregistered ↔ stage.isRegistering = true

section Employed

variable {p : HeartbeatPolicy} {w : World} {slot : AgentSlot} {loop : Nat}
  {stage : LoopStage}

theorem Employed.stepLoop (hw : Employed p w slot loop stage)
    (hcalls : p.standalone = false) {asked : Bool} {later : LoopStage} {next : World}
    (hstep : w.stepLoop slot loop asked stage = some (next, later)) (isStopping : Bool) :
    ∃ after : AgentSlot, after.id = slot.id ∧
      Employed p (next.putWork loop (.loop slot.id isStopping later)) after loop later := by
  have hpolicy : slot.agent.policy.standalone = false := by rw [hw.policy, hcalls]
  have hself : (w.putSlot slot).slots = w.slots :=
    (putSlot_single hw.slots rfl).trans hw.slots.symm
  have hcycle := stepLoop_inCycle hw.inCycle hstep
  obtain ⟨hserves, hregisters⟩ :
      Serves w slot next
          (fun phase => phase = .unregistered ↔ later.isRegistering = true) ∧
        (later.isRegistering = true →
          later.stage?.all AgentStage.isRegistration = true) := by
    cases hfirst : stage.isRegistering with
    | true =>
        exact stepLoop_registering hpolicy hself hfirst (hw.registers hfirst)
          (hw.phase.mpr hfirst) hstep
    | false =>
        have hphase : slot.agent.state.phase ≠ .unregistered := by
          intro heq
          rw [hw.phase, hfirst] at heq
          cases heq
        obtain ⟨hserves, hlater⟩ :=
          stepLoop_serves hpolicy hself hfirst hw.inCycle hphase hstep
        refine ⟨hserves.imp fun phase hne => by simp [hne, hlater], fun hagain => ?_⟩
        rw [hlater] at hagain
        cases hagain
  obtain ⟨after, hslots, hid, hkept, hphase⟩ := hserves.single hw.slots
  obtain ⟨wasStopping, htasks⟩ := hw.tasks
  refine ⟨after, hid, hslots, ⟨isStopping, ?_⟩, hkept.trans hw.policy, hcycle, hregisters,
    hphase⟩
  rw [hid]
  exact putWork_single (hserves.tasks.trans htasks) _

theorem Employed.choose (hw : Employed p w slot loop stage) (hcalls : p.standalone = false)
    {choice : Choice} (hchoice : choice.isSurrounding = true) :
    ∃ (after : AgentSlot) (later : LoopStage), after.id = slot.id ∧
      Employed p (w.choose choice) after loop later := by
  have hsame : ∃ (after : AgentSlot) (later : LoopStage), after.id = slot.id ∧
      Employed p w after loop later := ⟨slot, stage, rfl, hw⟩
  obtain ⟨isStopping, htasks⟩ := hw.tasks
  cases choice with
  | around heap gates now =>
      exact ⟨slot, stage, rfl, hw.slots, hw.tasks, hw.policy, hw.inCycle, hw.registers,
        hw.phase⟩
  | prepare agent answers =>
      apply withSlot_keeps (P := fun next => ∃ (after : AgentSlot) (later : LoopStage),
        after.id = slot.id ∧ Employed p next after loop later) hsame
      intro found hfound _
      obtain rfl : found = slot := List.mem_singleton.mp (hw.slots ▸ hfound)
      exact ⟨{ found with answers := found.answers.add answers }, stage, rfl,
        putSlot_single hw.slots rfl, hw.tasks, hw.policy, hw.inCycle, hw.registers, hw.phase⟩
  | proceed task =>
      apply proceed_keeps (P := fun next => ∃ (after : AgentSlot) (later : LoopStage),
        after.id = slot.id ∧ Employed p next after loop later) hsame
      intro t next ht hstep
      obtain rfl := eq_of_task? htasks ht
      obtain ⟨found, after, later, hfound, hloop, rfl⟩ := stepTask_loop rfl hstep
      obtain rfl := eq_of_slot? hw.slots hfound
      obtain ⟨last, hid, hlast⟩ := hw.stepLoop hcalls hloop isStopping
      exact ⟨last, later, hid, hlast⟩
  | proceedUnasked task =>
      apply proceedUnasked_keeps (P := fun next => ∃ (after : AgentSlot) (later : LoopStage),
        after.id = slot.id ∧ Employed p next after loop later) hsame
      intro agent found other next later ht hfound hloop
      obtain ⟨rfl, hwork⟩ := Task.mk.inj (eq_of_task? htasks ht)
      obtain ⟨rfl, rfl, rfl⟩ := Work.loop.inj hwork
      obtain rfl := eq_of_slot? hw.slots hfound
      obtain ⟨last, hid, hlast⟩ := hw.stepLoop hcalls hloop true
      exact ⟨last, later, hid, hlast⟩
  | call | create | build | register | tick | deregister | start | stop | cancel | forget =>
      cases hchoice

/-- To ask the loop to stop keeps the agent employed, where it stands. -/
theorem Employed.stop (hw : Employed p w slot loop stage) :
    ∃ after : AgentSlot, after.id = slot.id ∧
      Employed p (w.choose (.stop slot.id)) after loop stage := by
  obtain ⟨isStopping, htasks⟩ := hw.tasks
  rw [World.choose, withSlot, slot?_single hw.slots, if_pos rfl]
  simp only [dropLoop]
  split
  · rename_i other _
    have hput : Employed p (w.putSlot { slot with loop := none })
        { slot with loop := none } loop stage :=
      ⟨putSlot_single hw.slots rfl, hw.tasks, hw.policy, hw.inCycle, hw.registers, hw.phase⟩
    refine ⟨{ slot with loop := none }, rfl, ?_⟩
    have hthere : (w.putSlot { slot with loop := none }).tasks =
        [⟨loop, .loop slot.id isStopping stage⟩] := htasks
    rw [askToStop]
    split
    · rename_i id agent wasStopping found hfound
      obtain rfl : id = other := (task?_mem hfound).2
      obtain ⟨rfl, hwork⟩ := Task.mk.inj (eq_of_task? hthere hfound)
      obtain ⟨rfl, rfl, rfl⟩ := Work.loop.inj hwork
      exact ⟨hput.slots, ⟨true, putWork_single hthere _⟩, hput.policy, hput.inCycle,
        hput.registers, hput.phase⟩
    · exact hput
  · exact ⟨slot, rfl, hw⟩

end Employed

/-- The farewell of an agent that was in some phase before: as long as it waits for an
answer, the agent stays in that phase, and once it is over, the agent is unregistered. -/
inductive Parting (w : World) (slot : AgentSlot) (task : Nat) (before : AgentPhase) : Prop
  | waiting (call : OpenCall) (hslots : w.slots = [slot])
      (htasks : w.tasks = [⟨task, .operation slot.id (.calling call)⟩])
      (hkind : call.awaited.kind = .unregister)
      (hphase : slot.agent.state.phase = before)
  | answered (result : StepResult) (hslots : w.slots = [slot])
      (htasks : w.tasks = [⟨task, .finished result⟩])
      (hphase : slot.agent.state.phase = .unregistered)

section Parting

variable {w : World} {slot : AgentSlot} {task : Nat} {before : AgentPhase}

theorem Parting.slots (hw : Parting w slot task before) : w.slots = [slot] := by
  cases hw with
  | waiting call hslots => exact hslots
  | answered result hslots => exact hslots

/-- A farewell that is waited for goes on waiting, or its answer comes in. -/
theorem stepOperation_parting {call : OpenCall} (hslots : w.slots = [slot])
    (htasks : w.tasks = [⟨task, .operation slot.id (.calling call)⟩])
    (hkind : call.awaited.kind = .unregister) (hphase : slot.agent.state.phase = before)
    (after : World) (progress : Progress) :
    w.stepOperation slot task (.calling call) = some (after, progress) →
      ∃ last : AgentSlot, last.id = slot.id ∧
        Parting (after.putWork task (match progress with
          | .waits stage => .operation slot.id stage
          | .ends result => .finished result)) last task before := by
  intro hstep
  cases operationStep_of_some hstep with
  | @waits _ later hawaited =>
      refine ⟨slot, rfl, .waiting later hslots (putWork_single htasks _) ?_ hphase⟩
      rw [hawaited]
      exact hkind
  | receives hnext =>
      obtain ⟨hserves, result, hprogress⟩ := receive_unregisters w slot task hkind
      rw [hnext] at hserves hprogress
      obtain rfl : progress = .ends result := hprogress
      obtain ⟨last, hlast, hid, -, hover⟩ := hserves.single hslots
      exact ⟨last, hid,
        .answered result hlast (putWork_single (hserves.tasks.trans htasks) _) hover⟩

/-- What is around the agent lets the farewell go on. -/
theorem Parting.choose (hw : Parting w slot task before) {choice : Choice}
    (hchoice : choice.isSurrounding = true) :
    ∃ after : AgentSlot, after.id = slot.id ∧
      Parting (w.choose choice) after task before := by
  have hsame : ∃ after : AgentSlot, after.id = slot.id ∧ Parting w after task before :=
    ⟨slot, rfl, hw⟩
  cases choice with
  | around heap gates now =>
      cases hw with
      | waiting call hslots htasks hkind hphase =>
          exact ⟨slot, rfl, .waiting call hslots htasks hkind hphase⟩
      | answered result hslots htasks hphase =>
          exact ⟨slot, rfl, .answered result hslots htasks hphase⟩
  | prepare agent answers =>
      apply withSlot_keeps (P := fun next => ∃ after : AgentSlot, after.id = slot.id ∧
        Parting next after task before) hsame
      intro found hfound _
      obtain rfl : found = slot := List.mem_singleton.mp (hw.slots ▸ hfound)
      refine ⟨{ found with answers := found.answers.add answers }, rfl, ?_⟩
      cases hw with
      | waiting call hslots htasks hkind hphase =>
          exact .waiting call (putSlot_single hslots rfl) htasks hkind hphase
      | answered result hslots htasks hphase =>
          exact .answered result (putSlot_single hslots rfl) htasks hphase
  | proceed other =>
      apply proceed_keeps (P := fun next => ∃ after : AgentSlot, after.id = slot.id ∧
        Parting next after task before) hsame
      intro t next ht hstep
      cases hw with
      | waiting call hslots htasks hkind hphase =>
          obtain rfl := eq_of_task? htasks ht
          obtain ⟨found, after, progress, hfound, hoperation, rfl⟩ :=
            stepTask_operation rfl hstep
          obtain rfl := eq_of_slot? hslots hfound
          exact stepOperation_parting hslots htasks hkind hphase after progress hoperation
      | answered result hslots htasks hphase =>
          obtain rfl := eq_of_task? htasks ht
          cases hstep
  | proceedUnasked other =>
      apply proceedUnasked_keeps (P := fun next => ∃ after : AgentSlot, after.id = slot.id ∧
        Parting next after task before) hsame
      intro agent stage found next later ht _ _
      -- The one task is no loop.
      cases hw with
      | waiting call hslots htasks => cases (Task.mk.inj (eq_of_task? htasks ht)).2
      | answered result hslots htasks => cases (Task.mk.inj (eq_of_task? htasks ht)).2
  | call | create | build | register | tick | deregister | start | stop | cancel | forget =>
      cases hchoice

/-- Once its loop is gone, an agent whose policy asks for it takes leave of the registry. -/
theorem Employed.leave {p : HeartbeatPolicy} {loop : Nat} {stage : LoopStage}
    (hw : Employed p w slot loop stage) (hcalls : p.standalone = false)
    (hleaves : p.deregisterOnShutdown = true) :
    ∃ after : AgentSlot, after.id = slot.id ∧
      Parting ((w.cancel loop).choose (.deregister slot.id)) after (w.cancel loop).nextId
        slot.agent.state.phase := by
  obtain ⟨isStopping, htasks⟩ := hw.tasks
  obtain ⟨left, hslots, hid, hpolicy, hphase⟩ := cancel_single hw.slots loop
  have hnone : (w.cancel loop).tasks = [] := by
    rw [List.eq_nil_iff_forall_not_mem]
    intro t ht
    obtain ⟨hmem, hne⟩ := mem_tasks_cancel ht
    rw [htasks, List.mem_singleton] at hmem
    exact hne (by rw [hmem])
  have hwants : left.agent.wantsToDeregister = true := by
    rw [Agent.wantsToDeregister, hpolicy, hw.policy, hcalls, hleaves]
    rfl
  rw [World.choose, withSlot, slot?_single hslots, if_pos hid]
  simp only [beginTask, addTask, hnone, List.nil_append]
  obtain ⟨hserves, call, hprogress, hkind⟩ :=
    beginDeregister_serves (w := { w.cancel loop with
      tasks := [⟨(w.cancel loop).nextId, .finished .nothing⟩]
      nextId := (w.cancel loop).nextId + 1 }) hwants
  obtain ⟨last, hlast, hsame, -, hbefore⟩ := hserves.single hslots
  refine ⟨last, hsame.trans hid, .waiting call hlast ?_ hkind (hbefore.trans hphase)⟩
  rw [hprogress, hsame]
  exact putWork_single hserves.tasks _

/-- A farewell that is waited for no longer leaves the agent as it is. -/
theorem Parting.quit (hw : Parting w slot task before) :
    ∃ after : AgentSlot, (w.choose (.cancel task)).slots = [after] ∧ after.id = slot.id ∧
      after.agent.state.phase =
        if (w.result? task).isSome then .unregistered else before := by
  obtain ⟨after, hslots, hid, -, hphase⟩ := cancel_single hw.slots task
  refine ⟨after, hslots, hid, hphase.trans ?_⟩
  cases hw with
  | waiting call _ htasks _ hbefore => simp [result?, task?_single htasks, hbefore]
  | answered result _ htasks hover => simp [result?, task?_single htasks, hover]

end Parting

end World

namespace Service

def phase? (s : Service) : Option AgentPhase :=
  (s.world.slot? s.agent).map fun slot => slot.agent.state.phase

/-- Whether the first registration of a service is not over. -/
def isRegistering (s : Service) : Bool :=
  match s.world.task? s.loop with
  | some ⟨_, .loop _ _ stage⟩ => stage.isRegistering
  | _ => false

/-- Whether the farewell of a service is over, with an answer of any kind. -/
def isAnswered (s : Service) : Bool :=
  match s.stage with
  | .leaving task => (s.world.result? task).isSome
  | _ => false

/-- The service after more of what is around the agent. -/
def goOn (s : Service) (choices : List Choice) : Service :=
  choices.foldl (fun s choice => s.step (.goOn choice)) s

theorem goOn_keeps {P : World → Prop} (s : Service) (choices : List Choice)
    (hs : P s.world)
    (hkeeps : ∀ w choice, P w → choice.isSurrounding = true → P (w.choose choice)) :
    ∃ next, s.goOn choices = { s with world := next } ∧ P next := by
  induction choices generalizing s with
  | nil => exact ⟨s.world, rfl, hs⟩
  | cons choice choices ih =>
      rw [goOn, List.foldl_cons, step]
      split
      · rename_i hchoice
        exact ih { s with world := s.world.choose choice } (hkeeps _ _ hs hchoice)
      · exact ih s hs

section Tenure

variable {p : HeartbeatPolicy} {s : Service}

/-- An application in which one agent is employed by one loop. -/
def Employs (p : HeartbeatPolicy) (agent loop : Nat) (w : World) : Prop :=
  ∃ slot stage, slot.id = agent ∧ World.Employed p w slot loop stage

/-- An application in which one agent takes leave. -/
def Parts (agent task : Nat) (before : AgentPhase) (w : World) : Prop :=
  ∃ slot, slot.id = agent ∧ World.Parting w slot task before

theorem Employs.choose {agent loop : Nat} {w : World} (hw : Employs p agent loop w)
    (hcalls : p.standalone = false) {choice : Choice} (hchoice : choice.isSurrounding = true) :
    Employs p agent loop (w.choose choice) := by
  obtain ⟨slot, stage, rfl, hemployed⟩ := hw
  obtain ⟨after, later, hid, hafter⟩ := hemployed.choose hcalls hchoice
  exact ⟨after, later, hid, hafter⟩

theorem Employs.stop {agent loop : Nat} {w : World} (hw : Employs p agent loop w) :
    Employs p agent loop (w.choose (.stop agent)) := by
  obtain ⟨slot, stage, rfl, hemployed⟩ := hw
  obtain ⟨after, hid, hafter⟩ := hemployed.stop
  exact ⟨after, stage, hid, hafter⟩

theorem Parts.choose {agent task : Nat} {before : AgentPhase} {w : World}
    (hw : Parts agent task before w) {choice : Choice}
    (hchoice : choice.isSurrounding = true) : Parts agent task before (w.choose choice) := by
  obtain ⟨slot, rfl, hparting⟩ := hw
  exact hparting.choose hchoice

theorem start_employs (name : String) (identity : AgentIdentity) (p : HeartbeatPolicy)
    (answers : Answers) :
    Employs p 0 1 (start name identity p answers).world :=
  ⟨_, .starting, rfl, rfl, ⟨false, rfl⟩, rfl, rfl, fun _ => rfl, fun _ => rfl, fun _ => rfl⟩

/-- The agent of an employing application is unregistered as long as it registers for the
first time. -/
theorem Employs.phase (hs : Employs p s.agent s.loop s.world) :
    ∃ phase, s.phase? = some phase ∧
      (phase = .unregistered ↔ s.isRegistering = true) := by
  obtain ⟨slot, stage, hid, hw⟩ := hs
  obtain ⟨isStopping, htasks⟩ := hw.tasks
  refine ⟨slot.agent.state.phase, ?_, ?_⟩
  · rw [phase?, World.slot?_single hw.slots, if_pos hid]
    rfl
  · rw [isRegistering, World.task?_single htasks, if_pos rfl]
    exact hw.phase

/-- Once the loop is gone, the agent takes leave in the phase that it is in. -/
theorem Employs.cease (hs : Employs p s.agent s.loop s.world) (hstage : s.stage = .stopping)
    (hcalls : p.standalone = false) (hleaves : p.deregisterOnShutdown = true) :
    ∃ phase task world, s.phase? = some phase ∧
      s.step .cease = { s with world := world, stage := .leaving task } ∧
      Parts s.agent task phase world := by
  obtain ⟨world, agent, loop, stage⟩ := s
  obtain rfl : stage = .stopping := hstage
  obtain ⟨slot, stage, rfl, hw⟩ := hs
  obtain ⟨after, hid, hparting⟩ := hw.leave hcalls hleaves
  refine ⟨slot.agent.state.phase, _, _, ?_, rfl, after, hid, hparting⟩
  rw [phase?, World.slot?_single hw.slots, if_pos rfl]
  rfl

/-- When the farewell is waited for no longer, the agent is unregistered if it was answered,
and else in the phase that it took leave in. -/
theorem Parts.quit {task : Nat} {before : AgentPhase} (hstage : s.stage = .leaving task)
    (hs : Parts s.agent task before s.world) :
    (s.step .quit).phase? = some (if s.isAnswered then .unregistered else before) := by
  obtain ⟨world, agent, loop, stage⟩ := s
  obtain rfl : stage = .leaving task := hstage
  obtain ⟨slot, rfl, hparting⟩ := hs
  obtain ⟨after, hslots, hid, hphase⟩ := hparting.quit
  show ((world.choose (.cancel task)).slot? slot.id).map _ = _
  rw [World.slot?_single hslots, if_pos hid]
  exact congrArg some hphase

theorem asked_employs (name : String) (identity : AgentIdentity) (answers : Answers)
    (lived waited : List Choice) (hcalls : p.standalone = false) :
    let asked := (((start name identity p answers).goOn lived).step .shutDown).goOn waited
    asked.stage = .stopping ∧ Employs p asked.agent asked.loop asked.world := by
  have hkeeps : ∀ w choice, Employs p 0 1 w → choice.isSurrounding = true →
      Employs p 0 1 (w.choose choice) := fun w choice hw => hw.choose hcalls
  obtain ⟨living, hliving, hlives⟩ := goOn_keeps (start name identity p answers) lived
    (start_employs name identity p answers) hkeeps
  obtain ⟨waiting, hwaiting, hwaits⟩ :=
    goOn_keeps ⟨living.choose (.stop 0), 0, 1, .stopping⟩ waited hlives.stop hkeeps
  have hasked : ((start name identity p answers).goOn lived).step .shutDown =
      ⟨living.choose (.stop 0), 0, 1, .stopping⟩ := by
    rw [hliving]
    rfl
  simpa only [hasked, hwaiting, true_and] using hwaits

theorem Employs.gone (hs : Employs p s.agent s.loop s.world) (hstage : s.stage = .stopping)
    (hcalls : p.standalone = false) (hleaves : p.deregisterOnShutdown = true)
    (left : List Choice) :
    let parting := (s.step .cease).goOn left
    ∃ phase, s.phase? = some phase ∧
      (parting.step .quit).phase? =
        some (if parting.isAnswered then .unregistered else phase) := by
  obtain ⟨phase, task, leaving, hphase, hceased, hparts⟩ := hs.cease hstage hcalls hleaves
  obtain ⟨last, hlast, hparted⟩ :=
    goOn_keeps ({ s with world := leaving, stage := .leaving task } : Service) left hparts
      fun w choice hw => hw.choose
  refine ⟨phase, hphase, ?_⟩
  simp only [hceased, hlast]
  exact Parts.quit rfl hparted

/-- An agent whose policy asks for a farewell is unregistered after its shutdown if, and
only if, the farewell was answered or the agent had not even registered; else it stays in
the phase that it was in. -/
theorem unregistered_when_gone_iff (name : String) (identity : AgentIdentity)
    {p : HeartbeatPolicy} (answers : Answers) (lived waited left : List Choice)
    (hcalls : p.standalone = false) (hleaves : p.deregisterOnShutdown = true) :
    let asked := (((start name identity p answers).goOn lived).step .shutDown).goOn waited
    let parting := (asked.step .cease).goOn left
    let gone := parting.step .quit
    (gone.phase? = some .unregistered ↔
        parting.isAnswered = true ∨ asked.isRegistering = true) ∧
      (parting.isAnswered = false → gone.phase? = asked.phase?) := by
  intro asked parting gone
  obtain ⟨hstage, hemploys⟩ := asked_employs name identity answers lived waited hcalls
  obtain ⟨phase, hphase, hgone⟩ := hemploys.gone hstage hcalls hleaves left
  obtain ⟨same, hsame, hfirst⟩ := hemploys.phase
  obtain rfl : phase = same := Option.some.inj (hphase.symm.trans hsame)
  rw [show gone.phase? = _ from hgone, show asked.phase? = _ from hphase]
  cases hanswered : parting.isAnswered with
  | true => simp
  | false => simpa [hanswered] using hfirst

/-- The answers of a registry that accepts a registration and never answers a farewell. -/
def silentAtFarewell : Answers where
  unregisters := [{ answer := .ok (), isLost := true }]

/-- A farewell that is never answered leaves the agent registered. -/
theorem registered_after_shutdown :
    ¬ ∀ (name : String) (identity : AgentIdentity) (p : HeartbeatPolicy) (answers : Answers)
      (lived waited left : List Choice), p.standalone = false →
      p.deregisterOnShutdown = true →
      ((((((start name identity p answers).goOn lived).step .shutDown).goOn waited).step
        .cease).goOn left |>.step .quit).phase? = some .unregistered := by
  intro h
  have hrun := h "m" AgentRun.sampleIdentity {} silentAtFarewell
    [.proceed 1, .proceed 1, .proceed 1] [.proceed 1] [.proceed 2, .proceed 2] rfl rfl
  revert hrun
  decide +kernel

/-- The farewell that such a registry leaves open, after a registration that it answered. -/
theorem silent_farewell_changes_nothing :
    let asked := (((start "m" AgentRun.sampleIdentity {} silentAtFarewell).goOn
      [.proceed 1, .proceed 1, .proceed 1]).step .shutDown).goOn [.proceed 1]
    let gone := ((asked.step .cease).goOn [.proceed 2, .proceed 2]).step .quit
    asked.phase? = some .registered ∧ gone.phase? = asked.phase? :=
  ⟨by decide +kernel,
    (unregistered_when_gone_iff "m" AgentRun.sampleIdentity (p := {}) silentAtFarewell
      [.proceed 1, .proceed 1, .proceed 1] [.proceed 1] [.proceed 2, .proceed 2] rfl rfl).2
      (by decide +kernel)⟩

end Tenure

end Service

end Simulation

end CapabilityMesh
