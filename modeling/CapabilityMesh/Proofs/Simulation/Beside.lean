/-
What a choice does to a task that it lets take no step.  The task stays where it is, unless
it is broken off or forgotten; if it is a loop, it may be asked to stop.  Agents keep their
policies whatever is chosen.
-/
import CapabilityMesh.Proofs.Simulation.Schedule

namespace CapabilityMesh

namespace Simulation

/-- Whether a choice lets a task take a step. -/
def Choice.isStepOf (task : Nat) : Choice → Bool
  | .proceed other | .proceedUnasked other => other == task
  | _ => false

/-- A work that went on no further.  A loop may have been asked to stop. -/
inductive Work.Stays : Work → Work → Prop
  | same (work : Work) : Stays work work
  | asked (agent : Nat) (wasAsked : Bool) (stage : LoopStage) :
      Stays (.loop agent wasAsked stage) (.loop agent true stage)

theorem Work.Stays.trans {first second third : Work} (h : first.Stays second)
    (hnext : second.Stays third) : first.Stays third := by
  cases hnext with
  | same => exact h
  | asked agent wasAsked stage =>
      cases h with
      | same => exact .asked agent wasAsked stage
      | asked agent earlier stage => exact .asked agent earlier stage

namespace World

/-- What happened beside a task. -/
structure Beside (task : Nat) (w next : World) : Prop where
  nextId : w.nextId ≤ next.nextId
  policies : ∀ slot ∈ next.slots, slot.id < w.nextId →
    ∃ old ∈ w.slots, old.id = slot.id ∧ old.agent.policy = slot.agent.policy
  stays : task < w.nextId → ∀ t ∈ next.tasks, t.id = task →
    ∃ old ∈ w.tasks, old.id = task ∧ old.work.Stays t.work

section Beside

variable {task : Nat} {w : World}

theorem Beside.trans {mid next : World} (h : Beside task w mid)
    (hnext : Beside task mid next) : Beside task w next where
  nextId := Nat.le_trans h.nextId hnext.nextId
  policies := by
    intro slot hslot hold
    obtain ⟨between, hbetween, hid, hpolicy⟩ :=
      hnext.policies slot hslot (Nat.lt_of_lt_of_le hold h.nextId)
    obtain ⟨old, hmem, hsame, hkept⟩ := h.policies between hbetween (hid ▸ hold)
    exact ⟨old, hmem, hsame.trans hid, hkept.trans hpolicy⟩
  stays := by
    intro hold t ht hid
    obtain ⟨between, hbetween, hsame, hstays⟩ :=
      hnext.stays (Nat.lt_of_lt_of_le hold h.nextId) t ht hid
    obtain ⟨old, hmem, hthere, hstayed⟩ := h.stays hold between hbetween hsame
    exact ⟨old, hmem, hthere, hstayed.trans hstays⟩

theorem Beside.of_same {next : World} (hslots : next.slots = w.slots)
    (htasks : next.tasks = w.tasks) (hnextId : next.nextId = w.nextId) :
    Beside task w next where
  nextId := Nat.le_of_eq hnextId.symm
  policies := by
    intro slot hslot _
    exact ⟨slot, hslots ▸ hslot, rfl, rfl⟩
  stays := by
    intro _ t ht hid
    exact ⟨t, htasks ▸ ht, hid, .same t.work⟩

theorem Beside.refl : Beside task w w :=
  .of_same rfl rfl rfl

theorem beside_putSlot {slot later : AgentSlot} (hslot : slot ∈ w.slots)
    (hid : later.id = slot.id) (hpolicy : later.agent.policy = slot.agent.policy) :
    Beside task w (w.putSlot later) where
  nextId := Nat.le_refl _
  policies := by
    intro other hother _
    rcases (mem_putSlot hslot hid).mp hother with rfl | ⟨hthere, -⟩
    · exact ⟨slot, hslot, hid.symm, hpolicy.symm⟩
    · exact ⟨other, hthere, rfl, rfl⟩
  stays := fun _ t ht hsame => ⟨t, ht, hsame, .same t.work⟩

theorem beside_putWork {other : Nat} (hne : other ≠ task) (work : Work) :
    Beside task w (w.putWork other work) where
  nextId := Nat.le_refl _
  policies := fun slot hslot _ => ⟨slot, hslot, rfl, rfl⟩
  stays := by
    intro _ t ht hid
    obtain ⟨old, hold, rfl⟩ := List.mem_map.mp ht
    by_cases hsame : old.id = other
    · rw [if_pos (by simpa using hsame)] at hid
      exact absurd hid hne
    · rw [if_neg (by simpa using hsame)] at hid ⊢
      exact ⟨old, hold, hid, .same old.work⟩

/-- A task with a new number is not the one at the side. -/
theorem beside_addTask (work : Work) : Beside task w (w.addTask work).1 where
  nextId := Nat.le_succ _
  policies := fun slot hslot _ => ⟨slot, hslot, rfl, rfl⟩
  stays := by
    intro hold t ht hid
    rcases List.mem_append.mp ht with ht | ht
    · exact ⟨t, ht, hid, .same t.work⟩
    · rw [List.mem_singleton.mp ht] at hid
      exact absurd hid (Nat.ne_of_gt hold)

theorem beside_eraseTask (other : Nat) : Beside task w (w.eraseTask other) where
  nextId := Nat.le_refl _
  policies := fun slot hslot _ => ⟨slot, hslot, rfl, rfl⟩
  stays := fun _ t ht hid => ⟨t, (List.mem_filter.mp ht).1, hid, .same t.work⟩

/-- To be asked to stop leaves a loop where it stands. -/
theorem beside_askToStop (loop : Nat) : Beside task w (w.askToStop loop) := by
  rw [askToStop]
  split
  · rename_i id agent wasAsked stage hfound
    obtain ⟨hmem, hid⟩ := task?_mem hfound
    by_cases hsame : loop = task
    · refine ⟨Nat.le_refl _, fun slot hslot _ => ⟨slot, hslot, rfl, rfl⟩, ?_⟩
      intro _ t ht hthis
      subst hsame hid
      rcases (mem_putWork hmem).mp ht with rfl | ⟨-, hne⟩
      · exact ⟨_, hmem, rfl, .asked agent wasAsked stage⟩
      · exact absurd hthis hne
    · exact beside_putWork hsame _
  · exact .refl

/-- An agent whose loop is let go stays. -/
theorem beside_dropLoop {slot later : AgentSlot} (hslot : slot ∈ w.slots)
    (hid : later.id = slot.id) (hpolicy : later.agent.policy = slot.agent.policy) :
    Beside task w (w.dropLoop later) ∧ ∃ kept ∈ (w.dropLoop later).slots,
      kept.id = slot.id ∧ kept.agent.policy = slot.agent.policy := by
  rw [dropLoop]
  split
  · rename_i loop _
    have hput : Beside task w (w.putSlot { later with loop := none }) :=
      beside_putSlot hslot hid hpolicy
    have hid' : ({ later with loop := none } : AgentSlot).id = slot.id := hid
    refine ⟨hput.trans (beside_askToStop loop), { later with loop := none }, ?_, hid, hpolicy⟩
    rw [askToStop_slots]
    exact (mem_putSlot hslot hid').mpr (Or.inl rfl)
  · exact ⟨.refl, slot, hslot, rfl, rfl⟩

theorem Beside.of_advances {slot : AgentSlot} {other : Nat} {was : Bool} {next : World}
    {stage : Option AgentStage} (hslot : slot ∈ w.slots)
    (h : Advances w slot other was next stage) : Beside task w next := by
  obtain ⟨later, hslots, hid, -, hpolicy, -⟩ := h.slots
  have hput : Beside task w (w.putSlot later) := beside_putSlot hslot hid hpolicy
  exact hput.trans (.of_same hslots h.tasks h.nextId)

/-- To begin an operation changes nothing of a task that is there. -/
theorem Orderly.beginTask_beside (hw : w.Orderly) {slot : AgentSlot} (hslot : slot ∈ w.slots)
    (hold : task < w.nextId) {start : World → Nat → World × Progress}
    (hstart : ∀ (begun : World) (other : Nat), begun.slots = w.slots → other ∉ slot.turns →
      Advances begun slot other false (start begun other).1 (start begun other).2.stage?) :
    Beside task w (w.beginTask slot.id start).1 := by
  have hout : w.nextId ∉ slot.turns := by
    intro hturn
    obtain ⟨t, ht, hid⟩ := (hw.turns slot hslot).2 _ hturn
    exact Nat.lt_irrefl _ (hid ▸ (hw.tasksOld t ht).1)
  have hadded : Beside task w (w.addTask (.finished .nothing)).1 := beside_addTask _
  have hstarted : Beside task (w.addTask (.finished .nothing)).1
      (start (w.addTask (.finished .nothing)).1 w.nextId).1 :=
    .of_advances hslot (hstart _ _ rfl hout)
  exact (hadded.trans hstarted).trans (beside_putWork (Nat.ne_of_gt hold) _)

theorem beside_startLoop {slot : AgentSlot} (hslot : slot ∈ w.slots) :
    Beside task w (w.startLoop slot) := by
  obtain ⟨hdropped, kept, hkept, hid, hpolicy⟩ : Beside task w (w.dropLoop slot) ∧
      ∃ kept ∈ (w.dropLoop slot).slots,
        kept.id = slot.id ∧ kept.agent.policy = slot.agent.policy :=
    beside_dropLoop hslot rfl rfl
  have hadded : Beside task (w.dropLoop slot)
      ((w.dropLoop slot).addTask (.loop slot.id false .starting)).1 := beside_addTask _
  exact (hdropped.trans hadded).trans (beside_putSlot hkept hid.symm hpolicy.symm)

/-- A new agent changes nothing of the others, and an older one that had its name keeps its
policy. -/
theorem beside_create (name : String) (identity : AgentIdentity) (policy : HeartbeatPolicy)
    (answers : Answers) : Beside task w (w.create name identity policy answers).1 := by
  have hadd : ∀ next : World, Beside task w next → Beside task w { next with
      slots := next.slots ++
        [{ id := next.nextId, name, agent := .create identity policy, answers }]
      agents := setNamed next.agents name next.nextId
      nextId := next.nextId + 1 } := by
    intro next hnext
    refine hnext.trans ⟨Nat.le_succ _, ?_, fun _ t ht hid => ⟨t, ht, hid, .same t.work⟩⟩
    intro slot hslot hold
    rcases List.mem_append.mp hslot with hslot | hslot
    · exact ⟨slot, hslot, rfl, rfl⟩
    · rw [List.mem_singleton.mp hslot] at hold
      exact absurd hold (Nat.lt_irrefl _)
  rw [World.create]
  apply hadd
  split
  · rename_i old hfound
    obtain ⟨id, -, hslot⟩ := Option.bind_eq_some_iff.mp hfound
    obtain ⟨hmem, -⟩ := slot?_mem hslot
    have hput : Beside task w (w.putSlot { old with isHeld := false }) :=
      beside_putSlot hmem rfl rfl
    have hid : ({ old with isHeld := false } : AgentSlot).id = old.id := rfl
    have hthere := (mem_putSlot hmem hid).mpr (Or.inl rfl)
    exact hput.trans (beside_dropLoop hthere rfl rfl).1
  · exact .refl

theorem Orderly.stepLoop_beside (hw : w.Orderly) {slot : AgentSlot} {t : Task}
    {isStopping asked : Bool} {stage later : LoopStage} {after : World}
    (hslot : slot ∈ w.slots) (ht : t ∈ w.tasks)
    (hwork : t.work = .loop slot.id isStopping stage) (hne : t.id ≠ task)
    (hstep : w.stepLoop slot t.id asked stage = some (after, later)) :
    Beside task w (after.putWork t.id (.loop slot.id isStopping later)) := by
  have hadvanced : Beside task w after :=
    .of_advances hslot (hw.loop_advances hslot ht hwork hstep)
  exact hadvanced.trans (beside_putWork hne _)

theorem Orderly.stepTask_beside (hw : w.Orderly) {t : Task} (ht : t ∈ w.tasks)
    (hne : t.id ≠ task) {next : World} (hstep : w.stepTask t = some next) :
    Beside task w next := by
  obtain ⟨id, work⟩ := t
  cases work with
  | operation agent stage =>
      obtain ⟨slot, after, progress, hslot, hoperation, rfl⟩ := stepTask_operation rfl hstep
      obtain ⟨hmem, rfl⟩ := slot?_mem hslot
      have hplaced := hw.placed_operation hmem ht rfl
      have hadvanced : Beside task w after :=
        .of_advances hmem (stepOperation_advances w hmem hw.slotIds hplaced hoperation)
      exact hadvanced.trans (beside_putWork hne _)
  | loop agent isStopping stage =>
      obtain ⟨slot, after, later, hslot, hloop, rfl⟩ := stepTask_loop rfl hstep
      obtain ⟨hmem, rfl⟩ := slot?_mem hslot
      exact hw.stepLoop_beside hmem ht rfl hne hloop
  | call frames =>
      obtain ⟨after, work, hcall, rfl⟩ := stepTask_call rfl hstep
      obtain ⟨⟨heap, rfl⟩, -⟩ := stepCall_spec hcall
      have hcalled : Beside task w { w with heap := heap } := .of_same rfl rfl rfl
      exact hcalled.trans (beside_putWork hne _)
  | finished result => cases hstep

theorem beside_beginCall (code : FunctionCode) (argument : Argument)
    (overrides : ScriptOverrides) :
    Beside task w (w.beginCall code argument overrides).1 := by
  simp only [World.beginCall]
  split
  · exact .of_same rfl rfl rfl
  · exact .refl

/-- A task may be broken off wherever it stands. -/
theorem Orderly.cancel_beside (hw : w.Orderly) (other : Nat) :
    Beside task w (w.cancel other) := by
  rw [World.cancel]
  split
  · exact .refl
  · rename_i t ht
    obtain ⟨hmem, rfl⟩ := task?_mem ht
    refine Beside.trans ?_ (beside_eraseTask t.id)
    obtain ⟨id, work⟩ := t
    cases work with
    | operation agent stage =>
        simp only
        split
        · rename_i slot hslot
          obtain ⟨hthere, rfl⟩ := slot?_mem hslot
          have hplaced := hw.placed_operation hthere hmem rfl
          exact .of_advances hthere (cancelOperation_advances w hplaced)
        · exact .refl
    | loop agent isStopping stage =>
        simp only
        split
        · rename_i slot hslot
          obtain ⟨hthere, rfl⟩ := slot?_mem hslot
          have hplaced := hw.placed_loop hthere hmem rfl
          exact .of_advances hthere (cancelLoop_advances w hthere hw.slotIds hplaced)
        · exact .refl
    | call frames =>
        obtain ⟨heap, heq⟩ := cancelCall_heap w frames
        simp only [heq]
        exact .of_same rfl rfl rfl
    | finished result => exact .refl

/-- Whatever is chosen leaves a task where it is that takes no step. -/
theorem Orderly.choose_beside (hw : w.Orderly) {choice : Choice}
    (hchoice : choice.isStepOf task = false) (hold : task < w.nextId) :
    Beside task w (w.choose choice) := by
  have hact : ∀ {agent : Nat} {act : AgentSlot → World},
      (∀ slot ∈ w.slots, Beside task w (act slot)) → Beside task w (w.withSlot agent act) :=
    fun hact => withSlot_keeps .refl fun slot hslot _ => hact slot hslot
  cases choice with
  | around heap gates now => exact .of_same rfl rfl rfl
  | call code argument overrides =>
      exact (beside_beginCall code argument overrides).trans (beside_addTask _)
  | create name identity policy answers => exact beside_create name identity policy answers
  | prepare agent answers => exact hact fun slot hslot => beside_putSlot hslot rfl rfl
  | build agent =>
      apply hact
      intro slot hslot
      obtain ⟨later, -, heq⟩ :=
        slot.agent.buildRequest_spec (Heap.Alike.refl w.heap) w.timestamp
      simp only [actOnAgent, heq]
      have hbuilt : Beside task w { w with heap := later } := .of_same rfl rfl rfl
      exact hbuilt.trans (beside_putSlot hslot rfl rfl)
  | register agent =>
      exact hact fun slot hslot => hw.beginTask_beside hslot hold
        fun begun other _ hout => beginRegister_advances begun hout
  | tick agent =>
      exact hact fun slot hslot => hw.beginTask_beside hslot hold
        fun begun other _ hout => beginTick_advances begun hout
  | deregister agent =>
      apply hact
      intro slot hslot
      refine hw.beginTask_beside hslot hold fun begun other hsame _ => ?_
      rw [← hsame] at hslot
      exact beginDeregister_advances begun hslot (hsame ▸ hw.slotIds)
  | start agent => exact hact fun slot hslot => beside_startLoop hslot
  | stop agent => exact hact fun slot hslot => (beside_dropLoop hslot rfl rfl).1
  | proceed other =>
      have hne : other ≠ task := by simpa [Choice.isStepOf] using hchoice
      apply proceed_keeps .refl
      intro t next ht hstep
      obtain ⟨hmem, rfl⟩ := task?_mem ht
      exact hw.stepTask_beside hmem hne hstep
  | proceedUnasked other =>
      have hne : other ≠ task := by simpa [Choice.isStepOf] using hchoice
      apply proceedUnasked_keeps .refl
      intro agent stage slot next later ht hslot hloop
      obtain ⟨hmem, rfl⟩ := slot?_mem hslot
      exact hw.stepLoop_beside hmem (task?_mem ht).1 rfl hne hloop
  | cancel other => exact hw.cancel_beside other
  | forget other =>
      rw [World.choose, World.forget]
      split
      · exact beside_eraseTask other
      · exact .refl

end Beside

end World

end Simulation

end CapabilityMesh
