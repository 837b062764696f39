/-
All the ways in which an application may go on.  A script runs its tasks in a fixed order;
here any task may be next, time may pass between any two steps, and a task may be broken
off wherever it waits.  Whatever is chosen, an agent's cycles run one at a time.
-/
import CapabilityMesh.Proofs.Simulation.Order
import CapabilityMesh.Simulation.Run

namespace CapabilityMesh

namespace Simulation

/-- What may happen next in an application. -/
inductive Choice where
  /-- The application works with its functions, gates open or close, and it is some time
  then. -/
  | around (heap : Heap) (gates : List String) (now : Nat)
  /-- A function is called. -/
  | call (code : FunctionCode) (argument : Argument) (overrides : ScriptOverrides)
  | create (name : String) (identity : AgentIdentity) (policy : HeartbeatPolicy)
      (answers : Answers)
  /-- The registry's next answers to an agent are settled. -/
  | prepare (agent : Nat) (answers : Answers)
  /-- A request is built that is not sent. -/
  | build (agent : Nat)
  | register (agent : Nat)
  | tick (agent : Nat)
  | deregister (agent : Nat)
  /-- The loop of an agent is started. -/
  | start (agent : Nat)
  /-- The loop of an agent is asked to stop. -/
  | stop (agent : Nat)
  | proceed (task : Nat)
  /-- A loop that was asked to stop takes one more step as if it were not. -/
  | proceedUnasked (task : Nat)
  /-- A task is broken off. -/
  | cancel (task : Nat)
  /-- A task that is over is forgotten. -/
  | forget (task : Nat)

/-- Whether a choice has nothing to do with what the application wants of its agents. -/
def Choice.isSurrounding : Choice → Bool
  | around _ _ _ | prepare _ _ | proceed _ | proceedUnasked _ => true
  | _ => false

namespace World

/-- Act on an agent, if there is one of that number. -/
def withSlot (w : World) (agent : Nat) (act : AgentSlot → World) : World :=
  match w.slot? agent with
  | some slot => act slot
  | none => w

/-- Let a task take a step, unless it has to wait. -/
def proceed (w : World) (task : Nat) : World :=
  match (w.task? task).bind w.stepTask with
  | some next => next
  | none => w

/-- Let a loop that was asked to stop take a step as if it were not: where a tick is due
as well, either may come first. -/
def proceedUnasked (w : World) (task : Nat) : World :=
  match w.task? task with
  | some ⟨_, .loop agent true stage⟩ =>
      w.withSlot agent fun slot =>
        match w.stepLoop slot task false stage with
        | some (next, later) => next.putWork task (.loop agent true later)
        | none => w
  | _ => w

def forget (w : World) (task : Nat) : World :=
  if (w.result? task).isSome || (w.loopEnd? task).isSome then w.eraseTask task else w

def choose (w : World) : Choice → World
  | .around heap gates now => { w with heap := heap, gates := gates, now := now }
  | .call code argument overrides =>
      let (w, work) := w.beginCall code argument overrides
      (w.addTask work).1
  | .create name identity policy answers => (w.create name identity policy answers).1
  | .prepare agent answers =>
      w.withSlot agent fun slot =>
        w.putSlot { slot with answers := slot.answers.add answers }
  | .build agent => w.withSlot agent fun slot => (w.actOnAgent slot .build).1
  | .register agent =>
      w.withSlot agent fun slot =>
        (w.beginTask slot.id fun w task => w.beginRegister slot task).1
  | .tick agent =>
      w.withSlot agent fun slot =>
        (w.beginTask slot.id fun w task => w.beginTick slot task).1
  | .deregister agent =>
      w.withSlot agent fun slot =>
        (w.beginTask slot.id fun w _ => w.beginDeregister slot).1
  | .start agent => w.withSlot agent w.startLoop
  | .stop agent => w.withSlot agent w.dropLoop
  | .proceed task => w.proceed task
  | .proceedUnasked task => w.proceedUnasked task
  | .cancel task => w.cancel task
  | .forget task => w.forget task

/-- The application after choices, from its beginning. -/
def after (choices : List Choice) : World :=
  choices.foldl choose {}

section Lookup

variable {w : World}

theorem slot?_mem {id : Nat} {slot : AgentSlot} (hslot : w.slot? id = some slot) :
    slot ∈ w.slots ∧ slot.id = id :=
  ⟨List.mem_of_find?_eq_some hslot, by simpa using List.find?_some hslot⟩

theorem task?_mem {id : Nat} {t : Task} (ht : w.task? id = some t) :
    t ∈ w.tasks ∧ t.id = id :=
  ⟨List.mem_of_find?_eq_some ht, by simpa using List.find?_some ht⟩

theorem slot?_none {id : Nat} (hnone : w.slot? id = none) :
    ∀ slot ∈ w.slots, slot.id ≠ id := by
  intro slot hslot
  simpa using List.find?_eq_none.mp hnone slot hslot

/-- An act on an agent keeps what every act on an agent of the application keeps. -/
theorem withSlot_keeps {P : World → Prop} {agent : Nat} {act : AgentSlot → World}
    (hw : P w) (hact : ∀ slot ∈ w.slots, slot.id = agent → P (act slot)) :
    P (w.withSlot agent act) := by
  rw [withSlot]
  split
  · rename_i slot hslot
    obtain ⟨hmem, hid⟩ := slot?_mem hslot
    exact hact slot hmem hid
  · exact hw

theorem proceed_keeps {P : World → Prop} {task : Nat} (hw : P w)
    (hstep : ∀ t next, w.task? task = some t → w.stepTask t = some next → P next) :
    P (w.proceed task) := by
  rw [proceed]
  split
  · rename_i next hnext
    obtain ⟨t, ht, hnext⟩ := Option.bind_eq_some_iff.mp hnext
    exact hstep t next ht hnext
  · exact hw

/-- A loop that proceeds as if it were not asked to stop keeps what such a step keeps. -/
theorem proceedUnasked_keeps {P : World → Prop} {task : Nat} (hw : P w)
    (hstep : ∀ agent stage slot next later,
      w.task? task = some ⟨task, .loop agent true stage⟩ → w.slot? agent = some slot →
      w.stepLoop slot task false stage = some (next, later) →
      P (next.putWork task (.loop agent true later))) :
    P (w.proceedUnasked task) := by
  rw [proceedUnasked]
  split
  · rename_i id agent stage ht
    obtain rfl : id = task := (task?_mem ht).2
    rw [withSlot]
    split
    · rename_i slot hslot
      split
      · rename_i next later hloop
        exact hstep agent stage slot next later ht hslot hloop
      · exact hw
    · exact hw
  · exact hw

end Lookup

theorem stageFor?_operation (agent other : Nat) (stage : AgentStage) :
    (Work.operation agent stage).stageFor? other =
      if other = agent then some stage else none := by
  simp only [Work.stageFor?, eq_comm]

theorem stageFor?_loop (agent other : Nat) (isStopping : Bool) (stage : LoopStage) :
    (Work.loop agent isStopping stage).stageFor? other =
      if other = agent then stage.stage? else none := by
  simp only [Work.stageFor?, eq_comm]

/-- The work of a task once its operation has come so far. -/
theorem stageFor?_progress (agent other : Nat) (progress : Progress) :
    (match progress with
      | .waits stage => Work.operation agent stage
      | .ends result => Work.finished result).stageFor? other =
      if other = agent then progress.stage? else none := by
  cases progress with
  | waits stage => exact stageFor?_operation agent other stage
  | ends result => simp [Work.stageFor?, Progress.stage?]

section Keeping

variable {w : World}

/-- What a task of an operation may be said to do before it has begun. -/
theorem stageFor?_finished (agent other : Nat) (result : StepResult) :
    (Work.finished result).stageFor? other = if other = agent then none else none := by
  rw [ite_self]
  rfl

/-- A new operation keeps the order, if it starts in accordance with it. -/
theorem Orderly.beginTask (hw : w.Orderly) {slot : AgentSlot} (hslot : slot ∈ w.slots)
    {start : World → Nat → World × Progress}
    (hstart : ∀ (begun : World) (task : Nat), begun.slots = w.slots → task ∉ slot.turns →
      Advances begun slot task false (start begun task).1
        (start begun task).2.stage?) :
    (w.beginTask slot.id start).1.Orderly := by
  have hbegun : (w.addTask (.finished .nothing)).1.Orderly := hw.addTask fun _ => rfl
  have htask : (⟨w.nextId, .finished .nothing⟩ : Task) ∈
      (w.addTask (.finished .nothing)).1.tasks :=
    List.mem_append_right _ List.mem_cons_self
  have hout : w.nextId ∉ slot.turns := by
    rw [(hbegun.placed slot hslot _ htask).turn]
    simp [Work.stageFor?]
  exact hbegun.advance hslot htask none (stageFor?_finished slot.id · .nothing)
    (hstart _ _ rfl hout) (stageFor?_progress slot.id · _)

theorem Orderly.of_same {next : World} (hw : w.Orderly) (hslots : next.slots = w.slots)
    (htasks : next.tasks = w.tasks) (hnextId : next.nextId = w.nextId)
    (hevents : next.events = w.events) : next.Orderly := by
  apply hw.of_outlines
  · rw [hslots]
  · rw [htasks]
  · exact hnextId
  · rw [hevents]
    exact fun _ he _ => he

theorem askToStop_slots (w : World) (loop : Nat) : (w.askToStop loop).slots = w.slots := by
  rw [askToStop]
  split <;> rfl

/-- A loop stands where it stood when it is asked to stop. -/
theorem Orderly.askToStop (hw : w.Orderly) (loop : Nat) : (w.askToStop loop).Orderly := by
  rw [World.askToStop]
  split
  · rename_i id agent isStopping stage ht
    obtain ⟨hmem, rfl⟩ := task?_mem ht
    exact hw.putWork hmem fun _ => rfl
  · exact hw

theorem Orderly.dropLoop (hw : w.Orderly) {slot later : AgentSlot} (hslot : slot ∈ w.slots)
    (hsame : outline later = outline slot) :
    (w.dropLoop later).Orderly ∧
      (w.dropLoop later).slots.map outline = w.slots.map outline := by
  rw [World.dropLoop]
  split
  · rename_i loop _
    have hkept : outline { later with loop := none } = outline slot := hsame
    refine ⟨(hw.putSlot hslot hkept).askToStop loop, ?_⟩
    rw [askToStop_slots]
    exact hw.outlines_putSlot hslot hkept
  · exact ⟨hw, rfl⟩

theorem Orderly.startLoop (hw : w.Orderly) {slot : AgentSlot} (hslot : slot ∈ w.slots) :
    (w.startLoop slot).Orderly := by
  obtain ⟨hdropped, hslots⟩ := hw.dropLoop hslot rfl
  have hstarting : ∀ agent, (Work.loop slot.id false .starting).stageFor? agent = none := by
    intro agent
    rw [stageFor?_loop]
    exact ite_self _
  have hadded := hdropped.addTask hstarting
  have hthere : outline slot ∈ (w.dropLoop slot).slots.map outline := by
    rw [hslots]
    exact List.mem_map_of_mem hslot
  obtain ⟨old, hold, hsame⟩ := List.mem_map.mp hthere
  have hkept : outline { slot with loop := some (w.dropLoop slot).nextId } = outline old :=
    hsame.symm
  exact hadded.putSlot hold hkept

/-- A new agent has no turns, and one that had its name keeps its own. -/
theorem Orderly.create (hw : w.Orderly) (name : String) (identity : AgentIdentity)
    (policy : HeartbeatPolicy) (answers : Answers) :
    (w.create name identity policy answers).1.Orderly := by
  rw [World.create]
  have hadd : ∀ next : World, next.Orderly →
      ({ next with
        slots := next.slots ++
          [{ id := next.nextId, name, agent := .create identity policy, answers }]
        agents := setNamed next.agents name next.nextId
        nextId := next.nextId + 1 } : World).Orderly := by
    intro next hnext
    exact hnext.addSlot rfl rfl rfl rfl rfl rfl
  apply hadd
  split
  · rename_i old hold
    obtain ⟨id, -, hslot⟩ := Option.bind_eq_some_iff.mp hold
    obtain ⟨hmem, -⟩ := slot?_mem hslot
    have hkept : outline { old with isHeld := false } = outline old := rfl
    have hput := hw.putSlot hmem hkept
    have hthere : outline old ∈ (w.putSlot { old with isHeld := false }).slots.map outline := by
      rw [hw.outlines_putSlot hmem hkept]
      exact List.mem_map_of_mem hmem
    obtain ⟨other, hother, hsame⟩ := List.mem_map.mp hthere
    exact (hput.dropLoop hother (hkept.trans hsame.symm)).1
  · exact hw

theorem stepCall_spec {frames : List Frame} {next : World} {work : Work}
    (hstep : w.stepCall frames = some (next, work)) :
    (∃ heap, next = { w with heap := heap }) ∧
      ∀ agent, work.stageFor? agent = none := by
  have hcalled : ∀ (frame : Frame) (parameter : String) (l : LocalCapability),
      ∃ heap, (w.callNext frame parameter l).1 = { w with heap := heap } := by
    intro frame parameter l
    simp only [callNext]
    split
    · exact ⟨w.heap, rfl⟩
    · exact ⟨w.heap, rfl⟩
    · split
      · exact ⟨w.heap, rfl⟩
      · split
        · exact ⟨_, rfl⟩
        · exact ⟨w.heap, rfl⟩
  unfold stepCall at hstep
  split at hstep
  · cases hstep
  · split at hstep
    · split at hstep
      · cases hstep
      · simp only [Option.some.injEq, Prod.mk.injEq] at hstep
        obtain ⟨rfl, rfl⟩ := hstep
        exact ⟨⟨w.heap, rfl⟩, fun _ => rfl⟩
    · split at hstep
      · simp only [Option.some.injEq, Prod.mk.injEq] at hstep
        obtain ⟨rfl, rfl⟩ := hstep
        exact ⟨hcalled _ _ _, fun _ => rfl⟩
      · split at hstep
        · simp only [Option.some.injEq, Prod.mk.injEq] at hstep
          obtain ⟨rfl, rfl⟩ := hstep
          exact ⟨⟨_, rfl⟩, fun _ => rfl⟩
        · simp only [Option.some.injEq, Prod.mk.injEq] at hstep
          obtain ⟨rfl, rfl⟩ := hstep
          exact ⟨⟨_, rfl⟩, fun _ => rfl⟩

theorem Orderly.beginCall (hw : w.Orderly) (code : FunctionCode) (argument : Argument)
    (overrides : ScriptOverrides) :
    ((w.beginCall code argument overrides).1.addTask
      (w.beginCall code argument overrides).2).1.Orderly := by
  simp only [World.beginCall]
  split
  · have hopened : (w.openFrame code argument.asText (w.overridesOf overrides)).1.Orderly :=
      hw.of_same rfl rfl rfl rfl
    exact hopened.addTask fun _ => rfl
  · exact hw.addTask fun _ => rfl

theorem Orderly.placed_operation (hw : w.Orderly) {slot : AgentSlot} {t : Task}
    {stage : AgentStage} (hslot : slot ∈ w.slots) (ht : t ∈ w.tasks)
    (hwork : t.work = .operation slot.id stage) : Placed slot t.id (some stage) := by
  have hplaced := hw.placed slot hslot t ht
  rw [hwork, stageFor?_operation, if_pos rfl] at hplaced
  exact hplaced

theorem Orderly.placed_loop (hw : w.Orderly) {slot : AgentSlot} {t : Task}
    {isStopping : Bool} {stage : LoopStage} (hslot : slot ∈ w.slots) (ht : t ∈ w.tasks)
    (hwork : t.work = .loop slot.id isStopping stage) : Placed slot t.id stage.stage? := by
  have hplaced := hw.placed slot hslot t ht
  rw [hwork, stageFor?_loop, if_pos rfl] at hplaced
  exact hplaced

theorem Orderly.loop_advances (hw : w.Orderly) {slot : AgentSlot} {t : Task}
    {isStopping asked : Bool} {stage later : LoopStage} {after : World}
    (hslot : slot ∈ w.slots) (ht : t ∈ w.tasks)
    (hwork : t.work = .loop slot.id isStopping stage)
    (hstep : w.stepLoop slot t.id asked stage = some (after, later)) :
    Advances w slot t.id (stage.stage?.any AgentStage.isInCycle) after later.stage? :=
  stepLoop_advances w hslot hw.slotIds (hw.placed_loop hslot ht hwork) hstep

theorem Orderly.stepLoop (hw : w.Orderly) {slot : AgentSlot} {t : Task}
    {isStopping asked : Bool} {stage later : LoopStage} {after : World}
    (hslot : slot ∈ w.slots) (ht : t ∈ w.tasks)
    (hwork : t.work = .loop slot.id isStopping stage)
    (hstep : w.stepLoop slot t.id asked stage = some (after, later)) :
    (after.putWork t.id (.loop slot.id isStopping later)).Orderly := by
  refine hw.advance hslot ht stage.stage? (fun agent => ?_)
    (hw.loop_advances hslot ht hwork hstep) (stageFor?_loop slot.id · isStopping later)
  rw [hwork]
  exact stageFor?_loop slot.id agent isStopping stage

theorem Orderly.stepTask (hw : w.Orderly) {t : Task} (ht : t ∈ w.tasks) {next : World}
    (hstep : w.stepTask t = some next) : next.Orderly := by
  obtain ⟨id, work⟩ := t
  cases work with
  | operation agent stage =>
      obtain ⟨slot, after, progress, hslot, hoperation, rfl⟩ := stepTask_operation rfl hstep
      obtain ⟨hmem, rfl⟩ := slot?_mem hslot
      exact hw.advance hmem ht (some stage) (stageFor?_operation slot.id · stage)
        (stepOperation_advances w hmem hw.slotIds (hw.placed_operation hmem ht rfl) hoperation)
        (stageFor?_progress slot.id · progress)
  | loop agent isStopping stage =>
      obtain ⟨slot, after, later, hslot, hloop, rfl⟩ := stepTask_loop rfl hstep
      obtain ⟨hmem, rfl⟩ := slot?_mem hslot
      exact hw.stepLoop hmem ht rfl hloop
  | call frames =>
      obtain ⟨after, work, hcall, rfl⟩ := stepTask_call rfl hstep
      obtain ⟨⟨heap, rfl⟩, hnone⟩ := stepCall_spec hcall
      have hafter : ({ w with heap := heap } : World).Orderly := hw.of_same rfl rfl rfl rfl
      exact hafter.putWork ht hnone
  | finished result => cases hstep

theorem Orderly.proceed (hw : w.Orderly) (task : Nat) : (w.proceed task).Orderly :=
  proceed_keeps hw fun _ _ ht hstep => hw.stepTask (task?_mem ht).1 hstep

theorem Orderly.proceedUnasked (hw : w.Orderly) (task : Nat) :
    (w.proceedUnasked task).Orderly := by
  apply proceedUnasked_keeps hw
  intro agent stage slot next later ht hslot hloop
  obtain ⟨hmem, rfl⟩ := slot?_mem hslot
  exact hw.stepLoop hmem (task?_mem ht).1 rfl hloop

/-- What a task did last makes no difference once it is forgotten. -/
theorem eraseTask_putWork (w : World) (id : Nat) (work : Work) :
    (w.putWork id work).eraseTask id = w.eraseTask id := by
  have htasks : ∀ tasks : List Task,
      (tasks.map fun t => if t.id == id then ⟨id, work⟩ else t).filter
        (fun t => t.id != id) = tasks.filter fun t => t.id != id := by
    intro tasks
    induction tasks with
    | nil => rfl
    | cons t rest ih =>
        by_cases hsame : t.id = id
        · simpa [hsame] using ih
        · simpa [hsame] using ih
  simp only [putWork, eraseTask, htasks]

/-- A task that has given its turn back may be forgotten. -/
theorem Orderly.abandon (hw : w.Orderly) {slot : AgentSlot} (hslot : slot ∈ w.slots)
    {t : Task} (ht : t ∈ w.tasks) (before : Option AgentStage)
    (hbefore : ∀ agent, t.work.stageFor? agent = if agent = slot.id then before else none)
    {next : World}
    (hadvances : Advances w slot t.id (before.any AgentStage.isInCycle) next none) :
    (next.eraseTask t.id).Orderly := by
  have hover := hw.advance hslot ht before hbefore hadvances
    (stageFor?_finished slot.id · .nothing)
  rw [← eraseTask_putWork next t.id (.finished .nothing)]
  apply hover.eraseTask
  intro other hother hsame agent _
  rcases (mem_putWork (hadvances.tasks ▸ ht)).mp hother with rfl | ⟨-, hne⟩
  · rfl
  · exact absurd hsame hne

theorem cancelCall_heap (w : World) (frames : List Frame) :
    ∃ heap, w.cancelCall frames = { w with heap := heap } := by
  induction frames generalizing w with
  | nil => exact ⟨w.heap, rfl⟩
  | cons frame frames ih =>
      obtain ⟨heap, heq⟩ := ih (w.closeFrame frame)
      exact ⟨heap, heq⟩

theorem cancelOperation_tasks (w : World) (slot : AgentSlot) (task : Nat)
    (stage : AgentStage) : (w.cancelOperation slot task stage).tasks = w.tasks := by
  cases stage with
  | queued => rfl
  | calling call => rfl

theorem cancelLoop_tasks (w : World) (slot : AgentSlot) (task : Nat) (stage : LoopStage) :
    (w.cancelLoop slot task stage).tasks = w.tasks := by
  cases stage with
  | registering stage => exact cancelOperation_tasks w slot task stage
  | ticking due stage => exact cancelOperation_tasks w slot task stage
  | starting | idle | parked | ended => rfl

/-- A task that is broken off is forgotten; the others stay. -/
theorem mem_tasks_cancel {id : Nat} {t : Task} (ht : t ∈ (w.cancel id).tasks) :
    t ∈ w.tasks ∧ t.id ≠ id := by
  have herased : ∀ next : World, next.tasks = w.tasks → t ∈ (next.eraseTask id).tasks →
      t ∈ w.tasks ∧ t.id ≠ id := by
    intro next hsame hmem
    rw [eraseTask, hsame] at hmem
    simpa using hmem
  rw [cancel] at ht
  split at ht
  · rename_i hnone
    refine ⟨ht, ?_⟩
    simpa using List.find?_eq_none.mp hnone t ht
  · rename_i u hu
    refine herased _ ?_ ht
    split
    · split
      · exact cancelOperation_tasks w _ _ _
      · rfl
    · split
      · exact cancelLoop_tasks w _ _ _
      · rfl
    · rename_i frames _
      obtain ⟨heap, heq⟩ := cancelCall_heap w frames
      rw [heq]
    · rfl

/-- A task may be broken off wherever it stands. -/
theorem Orderly.cancel (hw : w.Orderly) (task : Nat) : (w.cancel task).Orderly := by
  rw [World.cancel]
  split
  · exact hw
  · rename_i t ht
    obtain ⟨hmem, rfl⟩ := task?_mem ht
    obtain ⟨id, work⟩ := t
    have hidle : (∀ slot ∈ w.slots, work.stageFor? slot.id = none) →
        (w.eraseTask id).Orderly := by
      intro hnone
      apply hw.eraseTask
      intro other hother hsame slot hslot
      obtain rfl := List.inj_on_of_nodup_map hw.taskIds hother hmem hsame
      rw [hnone slot hslot]
      rfl
    cases work with
    | operation agent stage =>
        simp only
        split
        · rename_i slot hslot
          obtain ⟨hthere, rfl⟩ := slot?_mem hslot
          exact hw.abandon hthere hmem (some stage)
            (stageFor?_operation slot.id · stage)
            (cancelOperation_advances w (hw.placed_operation hthere hmem rfl))
        · rename_i hnone
          apply hidle
          intro slot hslot
          rw [stageFor?_operation, if_neg (slot?_none hnone slot hslot)]
    | loop agent isStopping stage =>
        simp only
        split
        · rename_i slot hslot
          obtain ⟨hthere, rfl⟩ := slot?_mem hslot
          exact hw.abandon hthere hmem stage.stage?
            (stageFor?_loop slot.id · isStopping stage)
            (cancelLoop_advances w hthere hw.slotIds (hw.placed_loop hthere hmem rfl))
        · rename_i hnone
          apply hidle
          intro slot hslot
          rw [stageFor?_loop, if_neg (slot?_none hnone slot hslot)]
    | call frames =>
        obtain ⟨heap, heq⟩ := cancelCall_heap w frames
        simp only [heq]
        have herased := hidle fun _ _ => rfl
        exact herased.of_same rfl rfl rfl rfl
    | finished result => exact hidle fun _ _ => rfl

theorem Orderly.forget (hw : w.Orderly) (task : Nat) : (w.forget task).Orderly := by
  have hover : ∀ t, w.task? task = some t →
      (∀ agent, t.work.stageFor? agent = none) → (w.eraseTask task).Orderly := by
    intro t ht hnone
    obtain ⟨hmem, rfl⟩ := task?_mem ht
    apply hw.eraseTask
    intro other hother hsame slot _
    obtain rfl := List.inj_on_of_nodup_map hw.taskIds hother hmem hsame
    rw [hnone]
    rfl
  rw [World.forget]
  split
  · rename_i hdone
    rw [Bool.or_eq_true] at hdone
    rcases hdone with hdone | hdone
    · rw [result?] at hdone
      split at hdone
      · rename_i id result ht
        exact hover _ ht fun _ => rfl
      · cases hdone
    · rw [loopEnd?] at hdone
      split at hdone
      · rename_i id agent isStopping isClean ht
        refine hover _ ht fun other => ?_
        rw [stageFor?_loop]
        exact ite_self _
      · cases hdone
  · exact hw

/-- Whatever is chosen keeps the order. -/
theorem Orderly.choose (hw : w.Orderly) (choice : Choice) : (w.choose choice).Orderly := by
  cases choice with
  | around heap gates now => exact hw.of_same rfl rfl rfl rfl
  | call code argument overrides => exact hw.beginCall code argument overrides
  | create name identity policy answers => exact hw.create name identity policy answers
  | prepare agent answers =>
      exact withSlot_keeps hw fun slot hslot _ => hw.putSlot hslot rfl
  | build agent =>
      apply withSlot_keeps hw
      intro slot hslot _
      obtain ⟨later, -, heq⟩ :=
        slot.agent.buildRequest_spec (Heap.Alike.refl w.heap) w.timestamp
      simp only [actOnAgent, heq]
      have hbuilt : ({ w with heap := later } : World).Orderly := hw.of_same rfl rfl rfl rfl
      have hkept : outline { slot with agent := slot.agent.declaring w.heap } =
          outline slot := rfl
      exact hbuilt.putSlot hslot hkept
  | register agent =>
      exact withSlot_keeps hw fun slot hslot _ =>
        hw.beginTask hslot fun begun task _ hout => beginRegister_advances begun hout
  | tick agent =>
      exact withSlot_keeps hw fun slot hslot _ =>
        hw.beginTask hslot fun begun task _ hout => beginTick_advances begun hout
  | deregister agent =>
      apply withSlot_keeps hw
      intro slot hslot _
      refine hw.beginTask hslot fun begun task hsame _ => ?_
      rw [← hsame] at hslot
      exact beginDeregister_advances begun hslot (hsame ▸ hw.slotIds)
  | start agent => exact withSlot_keeps hw fun slot hslot _ => hw.startLoop hslot
  | stop agent => exact withSlot_keeps hw fun slot hslot _ => (hw.dropLoop hslot rfl).1
  | proceed task => exact hw.proceed task
  | proceedUnasked task => exact hw.proceedUnasked task
  | cancel task => exact hw.cancel task
  | forget task => exact hw.forget task

theorem after_orderly (choices : List Choice) : (after choices).Orderly := by
  rw [after]
  generalize hw : ({} : World) = w
  have horderly : w.Orderly := hw ▸ orderly_empty
  clear hw
  induction choices generalizing w with
  | nil => exact horderly
  | cons choice choices ih => exact ih (w.choose choice) (horderly.choose choice)

end Keeping

end World

end Simulation

end CapabilityMesh
