/-
The order in which cycles run.  An agent's turns list the tasks that are in one of its
cycles, each once, and only the first of them has a call under way.  Every advance of a
task keeps this order.
-/
import CapabilityMesh.Proofs.Simulation.Advance

namespace CapabilityMesh

namespace Simulation

/-- Where a task stands with the operation of an agent, if it is at work on one. -/
def Work.stageFor? (agent : Nat) : Work → Option AgentStage
  | operation other stage => if other = agent then some stage else none
  | loop other _ stage => if other = agent then stage.stage? else none
  | call _ | finished _ => none

theorem exists_mem_of_map_eq {α β : Type} {read : α → β} {xs ys : List α} {x : α}
    (hsame : xs.map read = ys.map read) (hx : x ∈ xs) : ∃ y ∈ ys, read y = read x := by
  rw [← List.mem_map, ← hsame]
  exact List.mem_map_of_mem hx

section Turns

variable {turns : List Nat} {task : Nat} {was : Bool}

theorem mem_turnsAfter (hturns : turns.Nodup) (hwas : task ∈ turns ↔ was = true) (is : Bool)
    (id : Nat) :
    id ∈ turnsAfter turns task was is ↔ if id = task then is = true else id ∈ turns := by
  by_cases hsame : id = task
  · subst hsame
    rw [if_pos rfl]
    cases was with
    | false => cases is <;> simp [turnsAfter, hwas]
    | true => cases is <;> simp [turnsAfter, hwas, hturns.mem_erase_iff]
  · rw [if_neg hsame]
    cases was with
    | false => cases is <;> simp [turnsAfter, hsame]
    | true => cases is <;> simp [turnsAfter, List.mem_erase_of_ne hsame]

theorem nodup_turnsAfter (hturns : turns.Nodup) (hwas : task ∈ turns ↔ was = true)
    (is : Bool) : (turnsAfter turns task was is).Nodup := by
  cases was with
  | false =>
      cases is with
      | false => exact hturns
      | true =>
          apply hturns.append (List.nodup_singleton task)
          intro id hid hsame
          rw [List.mem_singleton.mp hsame, hwas] at hid
          cases hid
  | true =>
      cases is with
      | false => exact hturns.erase task
      | true => exact hturns

/-- Another task stays the first one. -/
theorem head?_turnsAfter {id : Nat} (hfirst : turns.head? = some id) (hother : id ≠ task)
    (is : Bool) : (turnsAfter turns task was is).head? = some id := by
  obtain ⟨rest, rfl⟩ := List.head?_eq_some_iff.mp hfirst
  have herase : ((id :: rest).erase task).head? = some id := by
    rw [List.erase_cons_tail (by simpa using hother), List.head?_cons]
  cases was <;> cases is
  · rfl
  · rfl
  · exact herase
  · rfl

end Turns

namespace World

/-- The order of an application: numbers are given out once, turns stand for tasks, and the
stage of every task agrees with the turns of every agent.  Only agents that are to call the
registry did so. -/
structure Orderly (w : World) : Prop where
  slotIds : (w.slots.map AgentSlot.id).Nodup
  taskIds : (w.tasks.map Task.id).Nodup
  slotsOld : ∀ slot ∈ w.slots, slot.id < w.nextId
  tasksOld : ∀ t ∈ w.tasks, t.id < w.nextId ∧
    ∀ agent, w.nextId ≤ agent → t.work.stageFor? agent = none
  turns : ∀ slot ∈ w.slots, slot.turns.Nodup ∧ ∀ id ∈ slot.turns, ∃ t ∈ w.tasks, t.id = id
  placed : ∀ slot ∈ w.slots, ∀ t ∈ w.tasks,
    Placed slot t.id (t.work.stageFor? slot.id)
  heard : ∀ e ∈ w.events, e.isArrival = true →
    ∃ slot ∈ w.slots, slot.name = e.agent ∧ slot.agent.policy.standalone = false

theorem orderly_empty : ({} : World).Orderly where
  slotIds := List.nodup_nil
  taskIds := List.nodup_nil
  slotsOld := by simp
  tasksOld := by simp
  turns := by simp
  placed := by simp
  heard := by simp

section Membership

variable {w : World}

theorem mem_putSlot {later slot : AgentSlot} (hslot : slot ∈ w.slots)
    (hid : later.id = slot.id) {other : AgentSlot} :
    other ∈ (w.putSlot later).slots ↔
      other = later ∨ (other ∈ w.slots ∧ other.id ≠ slot.id) := by
  simp only [putSlot, List.mem_map]
  constructor
  · rintro ⟨old, hold, rfl⟩
    by_cases hsame : old.id = later.id
    · exact Or.inl (if_pos (by simpa using hsame))
    · rw [if_neg (by simpa using hsame)]
      exact Or.inr ⟨hold, hid ▸ hsame⟩
  · rintro (rfl | ⟨hother, hne⟩)
    · exact ⟨slot, hslot, if_pos (by simp [hid])⟩
    · exact ⟨other, hother, if_neg (by simpa [hid] using hne)⟩

theorem mem_putWork {t : Task} (ht : t ∈ w.tasks) {work : Work} {other : Task} :
    other ∈ (w.putWork t.id work).tasks ↔
      other = ⟨t.id, work⟩ ∨ (other ∈ w.tasks ∧ other.id ≠ t.id) := by
  simp only [putWork, List.mem_map]
  constructor
  · rintro ⟨old, hold, rfl⟩
    by_cases hsame : old.id = t.id
    · exact Or.inl (if_pos (by simpa using hsame))
    · rw [if_neg (by simpa using hsame)]
      exact Or.inr ⟨hold, hsame⟩
  · rintro (rfl | ⟨hother, hne⟩)
    · exact ⟨t, ht, if_pos (by simp)⟩
    · exact ⟨other, hother, if_neg (by simpa using hne)⟩

theorem map_id_putSlot (w : World) (later : AgentSlot) :
    (w.putSlot later).slots.map AgentSlot.id = w.slots.map AgentSlot.id := by
  rw [putSlot, List.map_map]
  apply List.map_congr_left
  intro slot _
  by_cases hsame : slot.id = later.id
  · simp [hsame]
  · simp [hsame]

theorem map_id_putWork (w : World) (id : Nat) (work : Work) :
    (w.putWork id work).tasks.map Task.id = w.tasks.map Task.id := by
  rw [putWork, List.map_map]
  apply List.map_congr_left
  intro t _
  by_cases hsame : t.id = id
  · simp [hsame]
  · simp [hsame]

end Membership

/-- Where a task stands still agrees with the turns of an agent after another task made an
advance. -/
theorem Placed.other {slot later : AgentSlot} {id task : Nat} {was is : Bool}
    {stage : Option AgentStage} (hplaced : Placed slot id stage) (hne : id ≠ task)
    (hnodup : slot.turns.Nodup) (hwas : task ∈ slot.turns ↔ was = true)
    (hturns : later.turns = turnsAfter slot.turns task was is)
    (hpolicy : later.agent.policy = slot.agent.policy) : Placed later id stage where
  turn := by
    rw [hturns, mem_turnsAfter hnodup hwas, if_neg hne]
    exact hplaced.turn
  first := by
    intro hcalls
    rw [hturns]
    exact head?_turnsAfter (hplaced.first hcalls) hne is
  policy := by
    rw [hpolicy]
    exact hplaced.policy

/-- What was heard after an advance comes from agents that are to call the registry. -/
theorem Orderly.advance_heard {w next : World} {slot : AgentSlot} {task : Nat} {was : Bool}
    {after : Option AgentStage} (hw : w.Orderly) (hslot : slot ∈ w.slots)
    (hadvances : Advances w slot task was next after) :
    ∀ e ∈ next.events, e.isArrival = true →
      ∃ other ∈ next.slots, other.name = e.agent ∧ other.agent.policy.standalone = false := by
  obtain ⟨later, hslots, hid, hname, hpolicy, -⟩ := hadvances.slots
  obtain ⟨added, hevents, hadded⟩ := hadvances.events
  have hlater : later ∈ next.slots := by
    rw [hslots]
    exact (mem_putSlot hslot hid).mpr (Or.inl rfl)
  intro e he harrival
  have hwhere : e ∈ added ∨ e ∈ w.events := by
    rw [← List.mem_append, ← hevents]
    exact he
  rcases hwhere with he | he
  · obtain ⟨hagent, hcall⟩ := hadded e he
    have hwaits : after.isSome = true := by
      cases after with
      | none => exact absurd (hcall harrival) (by simp)
      | some stage => rfl
    refine ⟨later, hlater, hname.trans hagent.symm, ?_⟩
    rw [hpolicy]
    exact hadvances.policy hwaits
  · obtain ⟨other, hother, hagent, hcalls⟩ := hw.heard e he harrival
    by_cases hsame : other.id = slot.id
    · obtain rfl := List.inj_on_of_nodup_map hw.slotIds hother hslot hsame
      refine ⟨later, hlater, hname.trans hagent, ?_⟩
      rw [hpolicy]
      exact hcalls
    · have hstays : other ∈ next.slots := by
        rw [hslots]
        exact (mem_putSlot hslot hid).mpr (Or.inr ⟨hother, hsame⟩)
      exact ⟨other, hstays, hagent, hcalls⟩

/-- An advance of one task keeps the order, if the task is at work for no other agent. -/
theorem Orderly.advance {w next : World} {slot : AgentSlot} {t : Task} {work : Work}
    {after : Option AgentStage} (hw : w.Orderly) (hslot : slot ∈ w.slots)
    (ht : t ∈ w.tasks) (before : Option AgentStage)
    (hbefore : ∀ agent, t.work.stageFor? agent = if agent = slot.id then before else none)
    (hadvances : Advances w slot t.id (before.any AgentStage.isInCycle) next after)
    (hafter : ∀ agent, work.stageFor? agent = if agent = slot.id then after else none) :
    (next.putWork t.id work).Orderly := by
  obtain ⟨later, hslots, hid, -, hpolicy, hturns, hfirst⟩ := hadvances.slots
  have hplaced := hw.placed slot hslot t ht
  rw [hbefore, if_pos rfl] at hplaced
  obtain ⟨hnodup, hthere⟩ := hw.turns slot hslot
  have hslotsMem : ∀ other, other ∈ (next.putWork t.id work).slots ↔
      other = later ∨ (other ∈ w.slots ∧ other.id ≠ slot.id) := by
    intro other
    rw [← mem_putSlot hslot hid, ← hslots]
    rfl
  have htasksMem : ∀ other, other ∈ (next.putWork t.id work).tasks ↔
      other = ⟨t.id, work⟩ ∨ (other ∈ w.tasks ∧ other.id ≠ t.id) := by
    intro other
    rw [← hadvances.tasks]
    exact mem_putWork (hadvances.tasks ▸ ht)
  have hids : ∀ id, (∃ old ∈ w.tasks, old.id = id) →
      ∃ other ∈ (next.putWork t.id work).tasks, other.id = id := by
    rintro id ⟨old, hold, rfl⟩
    have hsame : w.tasks.map Task.id = (next.putWork t.id work).tasks.map Task.id := by
      rw [map_id_putWork, hadvances.tasks]
    exact exists_mem_of_map_eq hsame hold
  constructor
  case slotIds =>
    rw [show (next.putWork t.id work).slots = (w.putSlot later).slots from hslots,
      map_id_putSlot]
    exact hw.slotIds
  case taskIds =>
    rw [map_id_putWork, hadvances.tasks]
    exact hw.taskIds
  case slotsOld =>
    intro other hother
    rw [show (next.putWork t.id work).nextId = w.nextId from hadvances.nextId]
    rcases (hslotsMem other).mp hother with rfl | ⟨hother, -⟩
    · rw [hid]
      exact hw.slotsOld slot hslot
    · exact hw.slotsOld other hother
  case tasksOld =>
    intro other hother
    rw [show (next.putWork t.id work).nextId = w.nextId from hadvances.nextId]
    rcases (htasksMem other).mp hother with rfl | ⟨hother, -⟩
    · refine ⟨(hw.tasksOld t ht).1, ?_⟩
      intro agent hagent
      rw [hafter, if_neg]
      rintro rfl
      exact absurd (hw.slotsOld slot hslot) (Nat.not_lt.mpr hagent)
    · exact hw.tasksOld other hother
  case turns =>
    intro other hother
    rcases (hslotsMem other).mp hother with rfl | ⟨hother, -⟩
    · rw [hturns]
      refine ⟨nodup_turnsAfter hnodup hplaced.turn _, ?_⟩
      intro id hmem
      apply hids
      rw [mem_turnsAfter hnodup hplaced.turn] at hmem
      split at hmem
      · rename_i hsame
        exact ⟨t, ht, hsame.symm⟩
      · exact hthere id hmem
    · obtain ⟨hothers, hold⟩ := hw.turns other hother
      exact ⟨hothers, fun id hmem => hids id (hold id hmem)⟩
  case placed =>
    intro other hother u hu
    rcases (hslotsMem other).mp hother with rfl | ⟨hother, hne⟩
    · rw [hid]
      rcases (htasksMem u).mp hu with rfl | ⟨hu, hne⟩
      · -- The agent and the task that advances.
        rw [hafter, if_pos rfl]
        refine ⟨?_, hfirst, ?_⟩
        · rw [hturns, mem_turnsAfter hnodup hplaced.turn, if_pos rfl]
        · rw [hpolicy]
          exact hadvances.policy
      · exact (hw.placed slot hslot u hu).other hne hnodup hplaced.turn hturns hpolicy
    · rcases (htasksMem u).mp hu with rfl | ⟨hu, -⟩
      · have ht' := hw.placed other hother t ht
        rw [hbefore, if_neg hne] at ht'
        rw [hafter, if_neg hne]
        exact ht'
      · exact hw.placed other hother u hu
  case heard =>
    have hheard := hw.advance_heard hslot hadvances
    exact hheard

/-- What the order depends on of an agent. -/
def outline (slot : AgentSlot) : Nat × String × Bool × List Nat :=
  (slot.id, slot.name, slot.agent.policy.standalone, slot.turns)

/-- What the order depends on of a task. -/
def taskOutline (t : Task) : Nat × (Nat → Option AgentStage) :=
  (t.id, fun agent => t.work.stageFor? agent)

theorem Orderly.of_outlines {w next : World} (hw : w.Orderly)
    (hslots : next.slots.map outline = w.slots.map outline)
    (htasks : next.tasks.map taskOutline = w.tasks.map taskOutline)
    (hnextId : next.nextId = w.nextId)
    (hevents : ∀ e ∈ next.events, e.isArrival = true → e ∈ w.events) : next.Orderly := by
  constructor
  case slotIds =>
    have hids := congrArg (List.map Prod.fst) hslots
    rw [List.map_map, List.map_map] at hids
    have hsame : next.slots.map AgentSlot.id = w.slots.map AgentSlot.id := hids
    rw [hsame]
    exact hw.slotIds
  case taskIds =>
    have hids := congrArg (List.map Prod.fst) htasks
    rw [List.map_map, List.map_map] at hids
    have hsame : next.tasks.map Task.id = w.tasks.map Task.id := hids
    rw [hsame]
    exact hw.taskIds
  case slotsOld =>
    intro slot hmem
    obtain ⟨old, hold, hsame⟩ := exists_mem_of_map_eq hslots hmem
    obtain ⟨hid, -⟩ := Prod.mk.inj hsame
    rw [hnextId, ← hid]
    exact hw.slotsOld old hold
  case tasksOld =>
    intro t hmem
    obtain ⟨old, hold, hsame⟩ := exists_mem_of_map_eq htasks hmem
    obtain ⟨hid, hstages⟩ := Prod.mk.inj hsame
    rw [hnextId, ← hid]
    refine ⟨(hw.tasksOld old hold).1, ?_⟩
    intro agent hagent
    rw [← congrFun hstages agent]
    exact (hw.tasksOld old hold).2 agent hagent
  case turns =>
    intro slot hmem
    obtain ⟨old, hold, hsame⟩ := exists_mem_of_map_eq hslots hmem
    simp only [outline, Prod.mk.injEq] at hsame
    obtain ⟨hnodup, hthere⟩ := hw.turns old hold
    rw [← hsame.2.2.2]
    refine ⟨hnodup, ?_⟩
    intro id hid
    obtain ⟨t, ht, rfl⟩ := hthere id hid
    obtain ⟨u, hu, hsame⟩ := exists_mem_of_map_eq htasks.symm ht
    exact ⟨u, hu, (Prod.mk.inj hsame).1⟩
  case placed =>
    intro slot hslotMem t htaskMem
    obtain ⟨old, hold, hsame⟩ := exists_mem_of_map_eq hslots hslotMem
    obtain ⟨u, hu, htaskSame⟩ := exists_mem_of_map_eq htasks htaskMem
    simp only [outline, Prod.mk.injEq] at hsame
    obtain ⟨hid, hstages⟩ := Prod.mk.inj htaskSame
    have hplaced := hw.placed old hold u hu
    have hstage : t.work.stageFor? slot.id = u.work.stageFor? old.id := by
      rw [hsame.1]
      exact (congrFun hstages slot.id).symm
    rw [hstage, ← hid]
    refine ⟨?_, ?_, ?_⟩
    · rw [← hsame.2.2.2]
      exact hplaced.turn
    · rw [← hsame.2.2.2]
      exact hplaced.first
    · rw [← hsame.2.2.1]
      exact hplaced.policy
  case heard =>
    intro e he harrival
    obtain ⟨old, hold, hname, hcalls⟩ := hw.heard e (hevents e he harrival) harrival
    obtain ⟨slot, hmem, hsame⟩ := exists_mem_of_map_eq hslots.symm hold
    simp only [outline, Prod.mk.injEq] at hsame
    exact ⟨slot, hmem, hsame.2.1.trans hname, hsame.2.2.1.trans hcalls⟩

/-- To put an agent into its place that differs in nothing that matters changes no
outline. -/
theorem Orderly.outlines_putSlot {w : World} (hw : w.Orderly) {slot later : AgentSlot}
    (hslot : slot ∈ w.slots) (hsame : outline later = outline slot) :
    (w.putSlot later).slots.map outline = w.slots.map outline := by
  rw [putSlot, List.map_map]
  apply List.map_congr_left
  intro other hother
  have hid : later.id = slot.id := (Prod.mk.inj hsame).1
  by_cases hplace : other.id = later.id
  · rw [Function.comp, if_pos (by simpa using hplace), hsame,
      List.inj_on_of_nodup_map hw.slotIds hother hslot (hplace.trans hid)]
  · rw [Function.comp, if_neg (by simpa using hplace)]

/-- To say otherwise what a task does changes no outline if its stages stay. -/
theorem Orderly.outlines_putWork {w : World} (hw : w.Orderly) {t : Task} (ht : t ∈ w.tasks)
    {work : Work} (hsame : ∀ agent, work.stageFor? agent = t.work.stageFor? agent) :
    (w.putWork t.id work).tasks.map taskOutline = w.tasks.map taskOutline := by
  rw [putWork, List.map_map]
  apply List.map_congr_left
  intro other hother
  by_cases hplace : other.id = t.id
  · obtain rfl := List.inj_on_of_nodup_map hw.taskIds hother ht hplace
    rw [Function.comp, if_pos (by simp), taskOutline, taskOutline]
    simp only [hsame]
  · rw [Function.comp, if_neg (by simpa using hplace)]

theorem Orderly.putSlot {w : World} (hw : w.Orderly) {slot later : AgentSlot}
    (hslot : slot ∈ w.slots) (hsame : outline later = outline slot) :
    (w.putSlot later).Orderly :=
  hw.of_outlines (hw.outlines_putSlot hslot hsame) rfl rfl fun _ he _ => he

theorem Orderly.putWork {w : World} (hw : w.Orderly) {t : Task} (ht : t ∈ w.tasks)
    {work : Work} (hsame : ∀ agent, work.stageFor? agent = t.work.stageFor? agent) :
    (w.putWork t.id work).Orderly :=
  hw.of_outlines rfl (hw.outlines_putWork ht hsame) rfl fun _ he _ => he

/-- A new task that works for no agent yet keeps the order. -/
theorem Orderly.addTask {w : World} (hw : w.Orderly) {work : Work}
    (hidle : ∀ agent, work.stageFor? agent = none) : (w.addTask work).1.Orderly := by
  have hnew : ∀ t ∈ w.tasks, t.id ≠ w.nextId :=
    fun t ht => Nat.ne_of_lt (hw.tasksOld t ht).1
  have hmem : ∀ t, t ∈ (w.addTask work).1.tasks ↔
      t ∈ w.tasks ∨ t = ⟨w.nextId, work⟩ := by
    intro t
    rw [World.addTask, List.mem_append, List.mem_singleton]
  constructor
  case slotIds => exact hw.slotIds
  case taskIds =>
    rw [World.addTask, List.map_append]
    apply hw.taskIds.append (List.nodup_singleton _)
    intro id hid hsame
    obtain ⟨t, ht, rfl⟩ := List.mem_map.mp hid
    exact hnew t ht (List.mem_singleton.mp hsame)
  case slotsOld =>
    intro slot hslot
    exact Nat.lt_succ_of_lt (hw.slotsOld slot hslot)
  case tasksOld =>
    intro t ht
    rcases (hmem t).mp ht with ht | rfl
    · obtain ⟨hold, hnone⟩ := hw.tasksOld t ht
      exact ⟨Nat.lt_succ_of_lt hold, fun agent hagent =>
        hnone agent (Nat.le_of_succ_le hagent)⟩
    · exact ⟨Nat.lt_succ_self _, fun agent _ => hidle agent⟩
  case turns =>
    intro slot hslot
    obtain ⟨hnodup, hthere⟩ := hw.turns slot hslot
    refine ⟨hnodup, ?_⟩
    intro id hid
    obtain ⟨t, ht, hsame⟩ := hthere id hid
    exact ⟨t, (hmem t).mpr (Or.inl ht), hsame⟩
  case placed =>
    intro slot hslot t ht
    rcases (hmem t).mp ht with ht | rfl
    · exact hw.placed slot hslot t ht
    · rw [hidle]
      refine ⟨?_, by simp, by simp⟩
      constructor
      · intro hturn
        obtain ⟨t, ht, hsame⟩ := (hw.turns slot hslot).2 _ hturn
        exact absurd hsame (hnew t ht)
      · intro hcycle
        cases hcycle
  case heard => exact hw.heard

theorem Orderly.eraseTask {w : World} (hw : w.Orderly) {id : Nat}
    (hidle : ∀ t ∈ w.tasks, t.id = id → ∀ slot ∈ w.slots,
      (t.work.stageFor? slot.id).any AgentStage.isInCycle = false) :
    (w.eraseTask id).Orderly := by
  have hmem : ∀ t, t ∈ (w.eraseTask id).tasks ↔ t ∈ w.tasks ∧ t.id ≠ id := by
    intro t
    simp [World.eraseTask]
  constructor
  case slotIds => exact hw.slotIds
  case taskIds => exact hw.taskIds.sublist (List.filter_sublist.map Task.id)
  case slotsOld => exact hw.slotsOld
  case tasksOld =>
    intro t ht
    exact hw.tasksOld t ((hmem t).mp ht).1
  case turns =>
    intro slot hslot
    obtain ⟨hnodup, hthere⟩ := hw.turns slot hslot
    refine ⟨hnodup, ?_⟩
    intro turn hturn
    obtain ⟨t, ht, rfl⟩ := hthere turn hturn
    refine ⟨t, (hmem t).mpr ⟨ht, ?_⟩, rfl⟩
    intro hsame
    have hcycle := (hw.placed slot hslot t ht).turn.mp hturn
    rw [hidle t ht hsame slot hslot] at hcycle
    cases hcycle
  case placed =>
    intro slot hslot t ht
    exact hw.placed slot hslot t ((hmem t).mp ht).1
  case heard => exact hw.heard

theorem Orderly.addSlot {w next : World} (hw : w.Orderly) {slot : AgentSlot}
    (hid : slot.id = w.nextId) (hturns : slot.turns = [])
    (hslots : next.slots = w.slots ++ [slot]) (htasks : next.tasks = w.tasks)
    (hnextId : next.nextId = w.nextId + 1) (hevents : next.events = w.events) :
    next.Orderly := by
  have hmem : ∀ other, other ∈ next.slots ↔ other ∈ w.slots ∨ other = slot := by
    intro other
    rw [hslots, List.mem_append, List.mem_singleton]
  constructor
  case slotIds =>
    rw [hslots, List.map_append]
    apply hw.slotIds.append (List.nodup_singleton _)
    intro id hused hsame
    obtain ⟨other, hother, rfl⟩ := List.mem_map.mp hused
    have hold := hw.slotsOld other hother
    rw [List.mem_singleton.mp hsame, hid] at hold
    exact Nat.lt_irrefl _ hold
  case taskIds =>
    rw [htasks]
    exact hw.taskIds
  case slotsOld =>
    intro other hother
    rw [hnextId]
    rcases (hmem other).mp hother with hother | rfl
    · exact Nat.lt_succ_of_lt (hw.slotsOld other hother)
    · rw [hid]
      exact Nat.lt_succ_self _
  case tasksOld =>
    intro t ht
    rw [htasks] at ht
    rw [hnextId]
    obtain ⟨hold, hnone⟩ := hw.tasksOld t ht
    exact ⟨Nat.lt_succ_of_lt hold, fun agent hagent =>
      hnone agent (Nat.le_of_succ_le hagent)⟩
  case turns =>
    intro other hother
    rw [htasks]
    rcases (hmem other).mp hother with hother | rfl
    · exact hw.turns other hother
    · rw [hturns]
      exact ⟨List.nodup_nil, by simp⟩
  case placed =>
    intro other hother t ht
    rw [htasks] at ht
    rcases (hmem other).mp hother with hother | rfl
    · exact hw.placed other hother t ht
    · rw [(hw.tasksOld t ht).2 _ (Nat.le_of_eq hid.symm)]
      refine ⟨?_, by simp, by simp⟩
      rw [hturns]
      simp
  case heard =>
    intro e he harrival
    rw [hevents] at he
    obtain ⟨other, hother, hheard⟩ := hw.heard e he harrival
    exact ⟨other, (hmem other).mpr (Or.inl hother), hheard⟩

end World

end Simulation

end CapabilityMesh
