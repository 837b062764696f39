/-
The steps that tasks take.  An operation begins to register when its turn comes, waits for
its call, and goes on with the answer; a loop registers, ticks and ends.  What is proved of
every step is proved by cases on these.
-/
import CapabilityMesh.Simulation.Clock

namespace CapabilityMesh

namespace Simulation

namespace World

/-- What a step of an operation is. -/
inductive OperationStep (w : World) (slot : AgentSlot) (task : Nat) :
    AgentStage → World → Progress → Prop
  | registers {next : World} {progress : Progress} (hfirst : slot.turns.head? = some task)
      (hnext : w.register slot task = (next, progress)) :
      OperationStep w slot task .queued next progress
  /-- It is settled when the call is over. -/
  | waits {call later : OpenCall} (hawaited : later.awaited = call.awaited) :
      OperationStep w slot task (.calling call) w (.waits (.calling later))
  | receives {call : OpenCall} {next : World} {progress : Progress}
      (hnext : w.receive slot task call = (next, progress)) :
      OperationStep w slot task (.calling call) next progress

/-- What a step of a loop is.  A loop that was asked to stop ends where it would wait. -/
inductive LoopStep (w : World) (slot : AgentSlot) (task : Nat) (isStopping : Bool) :
    LoopStage → World → LoopStage → Prop
  | begins (entry : LogEntry) {next : World} {progress : Progress}
      (hnext : (w.note entry).beginRegister slot task = (next, progress)) :
      LoopStep w slot task isStopping .starting next (next.loopRegistered slot progress)
  | registers {stage : AgentStage} {next : World} {progress : Progress}
      (hoperation : w.stepOperation slot task stage = some (next, progress)) :
      LoopStep w slot task isStopping (.registering stage) next
        (next.loopRegistered slot progress)
  | ticks {due : Nat} {after next : World} {progress : Progress} {later : LoopStage}
      (hgoes : isStopping = false) (hdue : due ≤ w.now)
      (hafter : w.beginTick slot task = (after, progress))
      (hnext : after.loopTicked (Ticker.next slot.agent.policy.interval due after.now)
        progress = (next, later)) :
      LoopStep w slot task isStopping (.idle due) next later
  | works {due : Nat} {stage : AgentStage} {after next : World} {progress : Progress}
      {later : LoopStage}
      (hoperation : w.stepOperation slot task stage = some (after, progress))
      (hnext : after.loopTicked due progress = (next, later)) :
      LoopStep w slot task isStopping (.ticking due stage) next later
  | stops {due : Nat} (entry : LogEntry) (hstops : isStopping = true) :
      LoopStep w slot task isStopping (.idle due) (w.note entry) (.ended true)
  | leaves (hstops : isStopping = true) :
      LoopStep w slot task isStopping .parked w (.ended true)

section Inversion

variable {w next : World} {slot : AgentSlot} {task : Nat}

theorem operationStep_of_some {stage : AgentStage} {progress : Progress}
    (hstep : w.stepOperation slot task stage = some (next, progress)) :
    OperationStep w slot task stage next progress := by
  cases stage with
  | queued =>
      rw [stepOperation] at hstep
      split at hstep
      · rename_i hfirst
        exact .registers hfirst (Option.some.inj hstep)
      · cases hstep
  | calling call =>
      rw [stepOperation] at hstep
      split at hstep
      · split at hstep
        · cases hstep
        · obtain ⟨rfl, rfl⟩ := Prod.mk.inj (Option.some.inj hstep)
          exact .waits rfl
      · split at hstep
        · cases hstep
        · exact .receives (Option.some.inj hstep)

theorem loopStep_of_some {isStopping : Bool} {stage later : LoopStage}
    (hstep : w.stepLoop slot task isStopping stage = some (next, later)) :
    LoopStep w slot task isStopping stage next later := by
  cases stage with
  | starting =>
      obtain ⟨rfl, rfl⟩ := Prod.mk.inj (Option.some.inj hstep)
      exact .begins _ rfl
  | registering stage =>
      rw [stepLoop, Option.map_eq_some_iff] at hstep
      obtain ⟨⟨after, progress⟩, hoperation, heq⟩ := hstep
      obtain ⟨rfl, rfl⟩ := Prod.mk.inj heq
      exact .registers hoperation
  | idle due =>
      rw [stepLoop] at hstep
      split at hstep
      · rename_i hstops
        obtain ⟨rfl, rfl⟩ := Prod.mk.inj (Option.some.inj hstep)
        exact .stops _ hstops
      · rename_i hgoes
        split at hstep
        · cases hstep
        · rename_i hdue
          exact .ticks (by simpa using hgoes) (Nat.le_of_not_lt hdue) rfl
            (Option.some.inj hstep)
  | ticking due stage =>
      rw [stepLoop, Option.map_eq_some_iff] at hstep
      obtain ⟨⟨after, progress⟩, hoperation, heq⟩ := hstep
      exact .works hoperation heq
  | parked =>
      rw [stepLoop] at hstep
      split at hstep
      · rename_i hstops
        obtain ⟨rfl, rfl⟩ := Prod.mk.inj (Option.some.inj hstep)
        exact .leaves hstops
      · cases hstep
  | ended isClean => cases hstep

end Inversion

section Step

variable {w next : World} {t : Task} {agent : Nat}

theorem stepTask_operation {stage : AgentStage} (hwork : t.work = .operation agent stage)
    (hstep : w.stepTask t = some next) :
    ∃ slot after progress, w.slot? agent = some slot ∧
      w.stepOperation slot t.id stage = some (after, progress) ∧
      next = after.putWork t.id (match progress with
        | .waits stage => .operation agent stage
        | .ends result => .finished result) := by
  simp only [stepTask, hwork, Option.bind_eq_bind, Option.bind_eq_some_iff,
    Option.some.injEq] at hstep
  obtain ⟨slot, hslot, ⟨after, progress⟩, hoperation, rfl⟩ := hstep
  exact ⟨slot, after, progress, hslot, hoperation, rfl⟩

theorem stepTask_loop {isStopping : Bool} {stage : LoopStage}
    (hwork : t.work = .loop agent isStopping stage) (hstep : w.stepTask t = some next) :
    ∃ slot after later, w.slot? agent = some slot ∧
      w.stepLoop slot t.id isStopping stage = some (after, later) ∧
      next = after.putWork t.id (.loop agent isStopping later) := by
  simp only [stepTask, hwork, Option.bind_eq_bind, Option.bind_eq_some_iff,
    Option.some.injEq] at hstep
  obtain ⟨slot, hslot, ⟨after, later⟩, hloop, rfl⟩ := hstep
  exact ⟨slot, after, later, hslot, hloop, rfl⟩

theorem stepTask_call {frames : List Frame} (hwork : t.work = .call frames)
    (hstep : w.stepTask t = some next) :
    ∃ after work, w.stepCall frames = some (after, work) ∧ next = after.putWork t.id work := by
  simp only [stepTask, hwork, Option.bind_eq_bind, Option.bind_eq_some_iff,
    Option.some.injEq] at hstep
  obtain ⟨⟨after, work⟩, hcall, rfl⟩ := hstep
  exact ⟨after, work, hcall, rfl⟩

end Step

end World

end Simulation

end CapabilityMesh
