/-
How a script waits.  To wait for a task is to let tasks take steps and time pass, until the
task is over or the patience of the script is.
-/
import CapabilityMesh.Proofs.Simulation.Schedule

namespace CapabilityMesh

namespace Simulation

namespace World

/-- Whether one state comes after another by choices around the agents. -/
def Follows (w next : World) : Prop :=
  ∃ choices : List Choice, (∀ choice ∈ choices, choice.isSurrounding = true) ∧
    next = choices.foldl choose w

theorem Follows.refl (w : World) : Follows w w := ⟨[], by simp, rfl⟩

theorem Follows.trans {w mid next : World} (hfirst : Follows w mid)
    (hsecond : Follows mid next) : Follows w next := by
  obtain ⟨choices, hchoices, rfl⟩ := hfirst
  obtain ⟨more, hmore, rfl⟩ := hsecond
  refine ⟨choices ++ more, ?_, by rw [List.foldl_append]⟩
  intro choice hmem
  rcases List.mem_append.mp hmem with hmem | hmem
  · exact hchoices choice hmem
  · exact hmore choice hmem

theorem Follows.choose (w : World) {choice : Choice} (hchoice : choice.isSurrounding = true) :
    Follows w (w.choose choice) :=
  ⟨[choice], by simpa using hchoice, rfl⟩

theorem Follows.orderly {w next : World} (h : Follows w next) (hw : w.Orderly) :
    next.Orderly := by
  obtain ⟨choices, -, rfl⟩ := h
  induction choices generalizing w with
  | nil => exact hw
  | cons choice choices ih => exact ih (hw.choose choice)

/-- What is logged and what time it is are around the agents. -/
theorem follows_around (w : World) (heap : Heap) (now : Nat) :
    Follows w { w with heap := heap, now := now } := by
  have haround : (Choice.around heap w.gates now).isSurrounding = true := rfl
  exact Follows.choose w haround

theorem Orderly.task?_eq {w : World} (hw : w.Orderly) {t : Task} (ht : t ∈ w.tasks) :
    w.task? t.id = some t := by
  cases hfound : w.task? t.id with
  | none =>
      have hne := List.find?_eq_none.mp hfound t ht
      simp at hne
  | some u =>
      obtain ⟨hu, hid⟩ := task?_mem hfound
      rw [List.inj_on_of_nodup_map hw.taskIds hu ht hid]

theorem settleSteps_follows (steps : Nat) {w : World} (hw : w.Orderly) :
    Follows w (settleSteps steps w) := by
  induction steps generalizing w with
  | zero => exact .refl w
  | succ steps ih =>
      rw [settleSteps]
      split
      · rename_i next hnext
        obtain ⟨t, ht, hstep⟩ := List.exists_of_findSome?_eq_some hnext
        have hproceeds : w.choose (.proceed t.id) = next := by
          rw [World.choose, proceed, hw.task?_eq ht, Option.bind_some, hstep]
        have hfirst : Follows w next := hproceeds ▸ Follows.choose w rfl
        exact hfirst.trans (ih (hfirst.orderly hw))
      · exact .refl w

theorem passSteps_follows (limit : Nat) (isDone : World → Bool) (steps : Nat) {w : World}
    (hw : w.Orderly) : Follows w (passSteps limit isDone steps w) := by
  induction steps generalizing w with
  | zero => exact follows_around w w.heap limit
  | succ steps ih =>
      have hsettled : Follows w w.settle := settleSteps_follows patience hw
      rw [passSteps]
      split
      · exact hsettled
      · split
        · rename_i due _
          have hlater := hsettled.trans (follows_around w.settle w.settle.heap due)
          split
          · exact hlater.trans (ih (hlater.orderly hw))
          · exact hsettled.trans (follows_around w.settle w.settle.heap limit)
        · exact hsettled.trans (follows_around w.settle w.settle.heap limit)

/-- To let time pass is around the agents. -/
theorem pass_follows {w : World} (hw : w.Orderly) (limit : Nat) (isDone : World → Bool) :
    Follows w (w.pass limit isDone) :=
  passSteps_follows limit isDone _ hw

theorem awaitLoop_follows {w : World} (hw : w.Orderly) (loop grace : Nat) :
    Follows w (w.awaitLoop loop grace) := by
  simp only [awaitLoop]
  have hpassed := pass_follows hw (w.now + grace - 1) fun w => (w.loopEnd? loop).isSome
  split
  · exact .refl w
  · split
    · exact .refl w
    · split
      · exact hpassed
      · exact hpassed.trans (follows_around _ _ _)

/-- A task that is over is broken off by forgetting it. -/
theorem cancel_of_result {w : World} {task : Nat} (hover : (w.result? task).isSome = true) :
    w.cancel task = w.eraseTask task := by
  rw [result?] at hover
  split at hover
  · rename_i id result ht
    rw [cancel, ht]
  · cases hover

theorem cancel_of_loopEnd {w : World} {loop : Nat} (hover : (w.loopEnd? loop).isSome = true) :
    w.cancel loop = w.eraseTask loop := by
  rw [loopEnd?] at hover
  split at hover
  · rename_i id agent isStopping isClean ht
    simp only [cancel, ht, cancelLoop]
    split
    · rfl
    · rfl
  · cases hover

/-- A loop is waited for, and broken off if it has not ended by then. -/
theorem stopLoop_follows {w : World} (hw : w.Orderly) (loop grace : Nat) :
    ∃ waited, Follows (w.askToStop loop) waited ∧
      w.stopLoop loop grace = waited.cancel loop := by
  have hawaited := awaitLoop_follows (hw.askToStop loop) loop grace
  have hnoted : ∀ entry, Follows (w.askToStop loop)
      (((w.askToStop loop).awaitLoop loop grace).note entry) :=
    fun entry => hawaited.trans (follows_around _ _ _)
  have hcancel : ∀ (entry : LogEntry) {isClean : Bool},
      ((w.askToStop loop).awaitLoop loop grace).loopEnd? loop = some isClean →
      (((w.askToStop loop).awaitLoop loop grace).note entry).cancel loop =
        (((w.askToStop loop).awaitLoop loop grace).note entry).eraseTask loop := by
    intro entry isClean hend
    apply cancel_of_loopEnd
    have hsame : (((w.askToStop loop).awaitLoop loop grace).note entry).loopEnd? loop =
        some isClean := hend
    rw [hsame]
    rfl
  simp only [stopLoop]
  split
  · rename_i hend
    exact ⟨_, hnoted _, (hcancel _ hend).symm⟩
  · rename_i hend
    exact ⟨_, hnoted _, (hcancel _ hend).symm⟩
  · exact ⟨_, hnoted _, rfl⟩

/-- A farewell is waited for, and broken off if it is not over by then. -/
theorem leave_follows {w : World} (hw : w.Orderly) {slot : AgentSlot}
    (hslot : w.slot? slot.id = some slot) (grace : Nat) :
    ∃ waited, Follows (w.choose (.deregister slot.id)) waited ∧
      Follows (waited.cancel w.nextId) (w.leave slot grace) := by
  have hbegun : w.beginTask slot.id (fun begun _ => begun.beginDeregister slot) =
      (w.choose (.deregister slot.id), w.nextId) := by
    rw [World.choose, withSlot, hslot]
    rfl
  have hpassed := pass_follows (hw.choose (.deregister slot.id))
    ((w.choose (.deregister slot.id)).now + grace) fun later => (later.result? w.nextId).isSome
  refine ⟨_, hpassed, ?_⟩
  simp only [leave, hbegun]
  split
  · rename_i hover
    rw [cancel_of_result hover]
    exact .refl _
  · exact follows_around _ _ _

end World

end Simulation

end CapabilityMesh
