/-
An agent has one call of a cycle under way at most.  A heartbeat that begins while a cycle
is at work or waits for its turn changes nothing, and one that begins when there is none is
never kept from the registry by a cycle that was broken off.
-/
import CapabilityMesh.Proofs.Agent.Run
import CapabilityMesh.Proofs.Simulation.Schedule

namespace CapabilityMesh

namespace Simulation

namespace Work

/-- Whether a task is in a cycle of an agent: at work, or waiting for its turn. -/
def isInCycle (agent : Nat) (work : Work) : Bool :=
  (work.stageFor? agent).any AgentStage.isInCycle

/-- Whether a task has a call of an agent's cycle under way. -/
def callsInCycle (agent : Nat) (work : Work) : Bool :=
  (work.stageFor? agent).any AgentStage.callsInCycle

end Work

namespace World

section Order

variable {w : World} {slot : AgentSlot}

/-- One task at most has a call under way. -/
theorem Orderly.one_call (hw : w.Orderly) (hslot : slot ∈ w.slots) :
    w.tasks.countP (fun t => t.work.callsInCycle slot.id) ≤ 1 := by
  have hfirst : ∀ t ∈ w.tasks.filter fun t => t.work.callsInCycle slot.id,
      slot.turns.head? = some t.id := by
    intro t ht
    obtain ⟨hmem, hcalls⟩ := List.mem_filter.mp ht
    exact (hw.placed slot hslot t hmem).first hcalls
  have hids : ((w.tasks.filter fun t => t.work.callsInCycle slot.id).map Task.id).Nodup :=
    hw.taskIds.sublist (List.filter_sublist.map Task.id)
  rw [List.countP_eq_length_filter]
  generalize (w.tasks.filter fun t => t.work.callsInCycle slot.id) = calling at hfirst hids
  match calling with
  | [] => exact Nat.zero_le 1
  | [_] => exact Nat.le_refl 1
  | t :: u :: rest =>
      have ht := hfirst t List.mem_cons_self
      have hu := hfirst u (List.mem_cons_of_mem t List.mem_cons_self)
      rw [ht, Option.some.injEq] at hu
      simp [hu] at hids

theorem Orderly.turns_eq_nil_iff (hw : w.Orderly) (hslot : slot ∈ w.slots) :
    slot.turns = [] ↔ ∀ t ∈ w.tasks, t.work.isInCycle slot.id = false := by
  constructor
  · intro hnone t ht
    rw [Bool.eq_false_iff]
    intro hcycle
    have hturn := (hw.placed slot hslot t ht).turn.mpr hcycle
    rw [hnone] at hturn
    cases hturn
  · intro hidle
    rw [List.eq_nil_iff_forall_not_mem]
    intro id hturn
    obtain ⟨t, ht, rfl⟩ := (hw.turns slot hslot).2 id hturn
    have hcycle := (hw.placed slot hslot t ht).turn.mp hturn
    have hout := hidle t ht
    rw [Work.isInCycle, hcycle] at hout
    cases hout

/-- A heartbeat that begins while a cycle is held is skipped, and changes nothing. -/
theorem Orderly.beginTick_held (hw : w.Orderly) (hslot : slot ∈ w.slots)
    (hheld : ∃ t ∈ w.tasks, t.work.isInCycle slot.id = true) {task : Nat}
    (hout : task ∉ slot.turns) :
    ∃ heap : Heap, heap.Alike w.heap ∧
      w.beginTick slot task = ({ w with heap := heap }, .ends (.outcome .inFlight)) := by
  obtain ⟨t, ht, hcycle⟩ := hheld
  have hturns : slot.turns ≠ [] := by
    intro hnone
    rw [(hw.turns_eq_nil_iff hslot).mp hnone t ht] at hcycle
    cases hcycle
  have hbusy : (!slot.turns.isEmpty) = true := by simpa using hturns
  have hpolicy : slot.agent.policy.standalone = false := by
    apply (hw.placed slot hslot t ht).policy
    cases hstage : t.work.stageFor? slot.id with
    | none => simp [Work.isInCycle, hstage] at hcycle
    | some stage => rfl
  let noted := w.heap.note
    (.debug "[HEARTBEAT] Previous cycle still running, skipping tick")
  have hsame : ({ w with heap := noted } : World).putSlot slot = { w with heap := noted } :=
    World.putSlot_self hslot hw.slotIds
  refine ⟨noted, Heap.note_alike w.heap _, ?_⟩
  simp only [beginTick, hbusy, Agent.beginTick, hpolicy, Bool.false_eq_true, if_false, if_true,
    follow, endTurn, List.erase_of_not_mem hout]
  exact congrArg (fun next => (next, Progress.ends (.outcome .inFlight))) hsame

/-- A heartbeat that begins while no cycle is held is not skipped. -/
theorem Orderly.beginTick_free (hw : w.Orderly) (hslot : slot ∈ w.slots)
    (hfree : ∀ t ∈ w.tasks, t.work.isInCycle slot.id = false) (task : Nat) :
    (w.beginTick slot task).2 ≠ .ends (.outcome .inFlight) := by
  have hturns := (hw.turns_eq_nil_iff hslot).mpr hfree
  simp only [beginTick, hturns, Agent.beginTick, List.isEmpty_nil, Bool.not_true,
    Bool.false_eq_true, if_false]
  split
  · simp [follow]
  · simp [follow, callRegistry]

end Order

/-- Whatever is chosen, for every agent: one call of a cycle at most is under way.  A
heartbeat that begins while a cycle is held is skipped; it calls nobody and changes nothing.
One that begins while none is held is not skipped, and neither is one that begins after the
only cycle was broken off.  An agent that is not to call the registry never waits for it,
and no call of such an agent comes in. -/
theorem single_flight (choices : List Choice) :
    (∀ slot ∈ (after choices).slots,
      (after choices).tasks.countP (fun t => t.work.callsInCycle slot.id) ≤ 1 ∧
      ((∃ t ∈ (after choices).tasks, t.work.isInCycle slot.id = true) →
        ∀ task, task ∉ slot.turns → ∃ heap : Heap, heap.Alike (after choices).heap ∧
          (after choices).beginTick slot task =
            ({ after choices with heap := heap }, .ends (.outcome .inFlight))) ∧
      ((∀ t ∈ (after choices).tasks, t.work.isInCycle slot.id = false) →
        ∀ task, ((after choices).beginTick slot task).2 ≠ .ends (.outcome .inFlight)) ∧
      (∀ id, (∀ t ∈ (after choices).tasks, t.work.isInCycle slot.id = true → t.id = id) →
        ∀ later ∈ ((after choices).cancel id).slots, later.id = slot.id →
          ∀ task, (((after choices).cancel id).beginTick later task).2 ≠
            .ends (.outcome .inFlight)) ∧
      (slot.agent.policy.standalone = true →
        ∀ t ∈ (after choices).tasks, t.work.stageFor? slot.id = none)) ∧
    ∀ e ∈ (after choices).events, e.isArrival = true →
      ∃ slot ∈ (after choices).slots,
        slot.name = e.agent ∧ slot.agent.policy.standalone = false := by
  have hw := after_orderly choices
  refine ⟨?_, hw.heard⟩
  intro slot hslot
  refine ⟨hw.one_call hslot, ?_, hw.beginTick_free hslot, ?_, ?_⟩
  · intro hheld task hout
    exact hw.beginTick_held hslot hheld hout
  · intro id honly later hlater hsame
    apply (hw.cancel id).beginTick_free hlater
    intro t ht
    obtain ⟨hmem, hne⟩ := mem_tasks_cancel ht
    rw [hsame, Bool.eq_false_iff]
    intro hcycle
    exact hne (honly t hmem hcycle)
  · intro hstandalone t ht
    cases hstage : t.work.stageFor? slot.id with
    | none => rfl
    | some stage =>
        have hcalls := (hw.placed slot hslot t ht).policy (by rw [hstage]; rfl)
        rw [hstandalone] at hcalls
        cases hcalls

/-- An agent begins a heartbeat, whose probe is not answered. -/
def probing : List Choice :=
  [.create "m" AgentRun.sampleIdentity {} {}, .tick 0]

/-- The next heartbeat is skipped. -/
theorem probing_skips_next :
    ∃ slot ∈ (after probing).slots, ∃ heap : Heap, heap.Alike (after probing).heap ∧
      (after probing).beginTick slot 2 =
        ({ after probing with heap := heap }, .ends (.outcome .inFlight)) := by
  have hslot : ∃ slot ∈ (after probing).slots, slot.id = 0 ∧ slot.turns = [1] := by
    decide +kernel
  have hheld : ∃ t ∈ (after probing).tasks, t.work.isInCycle 0 = true := by decide +kernel
  obtain ⟨slot, hmem, hid, hturns⟩ := hslot
  have hskips := ((single_flight probing).1 slot hmem).2.1
  rw [hid] at hskips
  exact ⟨slot, hmem, hskips hheld 2 (by simp [hturns])⟩

end World

end Simulation

end CapabilityMesh
