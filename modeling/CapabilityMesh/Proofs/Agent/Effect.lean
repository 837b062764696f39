/-
What an event does to the heap of a run.  A deed does what it says; bindings are put into
force where a heartbeat or a registration ends with them; and every other event leaves the
heap as it was, apart from what is logged.
-/
import CapabilityMesh.Proofs.Agent.Logging
import CapabilityMesh.Proofs.Agent.Run

namespace CapabilityMesh

namespace Agent

/-- Bindings are put into force, or nothing but lines is added. -/
theorem Rebinds.alike {a : Agent} {b : Bindings} {applies : Bool} {before after : Heap}
    (hafter : a.Rebinds b applies before after) :
    after.Alike (if applies then a.applyBindings b before else before) := by
  obtain ⟨first, hfirst, happlied⟩ := hafter
  cases applies with
  | true => exact happlied.trans (a.applyBindings_relogged b hfirst)
  | false => exact happlied.trans hfirst

end Agent

namespace AgentRun

variable {r next : AgentRun} {e : AgentEvent}

/-- Whether bindings were put into force between two states of a run: an answer brought
them and they had to be applied, or they were known and out of date. -/
def Rebound (r next : AgentRun) (b : Bindings) : Prop :=
  (∃ c : Consultation, next.history = .ended (.reconciled true) (some c) :: r.history ∧
    Agent.bindingsOf c.answer = .ok b) ∨
  (Ended r next .unchanged ∧ r.agent.memory.applied = some b ∧
    r.agent.memory.generation ≠ r.heap.injector.generation)

theorem Rebound.success {b : Bindings} (hbound : Rebound r next b) :
    ∃ m : Milestone, next.history = m :: r.history ∧ m.isSuccess = true := by
  rcases hbound with ⟨c, hhistory, -⟩ | ⟨⟨consulted, hhistory⟩, -, -⟩
  · exact ⟨_, hhistory, rfl⟩
  · exact ⟨_, hhistory, rfl⟩

theorem not_rebound_of_same (hhistory : next.history = r.history) (b : Bindings) :
    ¬ Rebound r next b := by
  intro hbound
  obtain ⟨m, hm, -⟩ := hbound.success
  exact List.cons_ne_self _ _ (hm.symm.trans hhistory)

theorem not_rebound_of_milestone {m : Milestone} (hhistory : next.history = m :: r.history)
    (hm : m.isSuccess = false) (b : Bindings) : ¬ Rebound r next b := by
  intro hbound
  obtain ⟨other, hother, hsuccess⟩ := hbound.success
  rw [hhistory] at hother
  rw [(List.cons.inj hother).1, hsuccess] at hm
  cases hm

/-- One turn puts one set of bindings into force at most. -/
theorem Rebound.unique {b other : Bindings} (hbound : Rebound r next b)
    (hother : Rebound r next other) : b = other := by
  rcases hbound with ⟨c, hhistory, hb⟩ | ⟨hended, happlied, -⟩
  · rcases hother with ⟨c', hhistory', hb'⟩ | ⟨hended', -, -⟩
    · rw [hhistory] at hhistory'
      simp only [List.cons.injEq, Milestone.ended.injEq, Option.some.injEq, true_and,
        and_true] at hhistory'
      rw [hhistory', hb'] at hb
      exact (Except.ok.inj hb).symm
    · cases Ended.unique ⟨some c, hhistory⟩ hended'
  · rcases hother with ⟨c', hhistory', -⟩ | ⟨-, happlied', -⟩
    · cases Ended.unique ⟨some c', hhistory'⟩ hended
    · rw [happlied] at happlied'
      exact Option.some.inj happlied'

/-- A turn that is no deed puts bindings into force, or leaves the heap as it was. -/
theorem Turn.heap (hturn : Turn r e next) (hdeed : ∀ d, e ≠ .deed d) :
    (∃ b, Rebound r next b ∧ next.heap.Alike (r.agent.applyBindings b r.heap)) ∨
      ((∀ b, ¬ Rebound r next b) ∧ next.heap.Alike r.heap) := by
  cases hturn with
  | still => exact Or.inr ⟨not_rebound_of_same rfl, Heap.Alike.refl _⟩
  | deed d => exact absurd rfl (hdeed d)
  | built hlater => exact Or.inr ⟨not_rebound_of_milestone rfl rfl, hlater⟩
  | probing => exact Or.inr ⟨not_rebound_of_same rfl, Heap.Alike.refl _⟩
  | declared _ _ _ hlater => exact Or.inr ⟨not_rebound_of_milestone rfl rfl, hlater⟩
  | inFlight hlater => exact Or.inr ⟨not_rebound_of_milestone rfl rfl, hlater⟩
  | disabled _ _ hlater => exact Or.inr ⟨not_rebound_of_milestone rfl rfl, hlater⟩
  | @unchanged now b later _ happlied _ hlater =>
      have halike := hlater.alike
      by_cases hcurrent : r.agent.memory.generation = r.heap.injector.generation
      · rw [if_neg (by simpa using hcurrent)] at halike
        refine Or.inr ⟨?_, halike⟩
        rintro other (⟨c, hhistory, -⟩ | ⟨-, -, hstale⟩)
        · simp at hhistory
        · exact hstale hcurrent
      · rw [if_pos (by simpa using hcurrent)] at halike
        exact Or.inl ⟨b, Or.inr ⟨⟨none, rfl⟩, happlied, hcurrent⟩, halike⟩
  | @reconciled now answer call request b force later _ _ hb hlater =>
      have halike := hlater.alike
      by_cases happlies : r.agent.mustApply r.heap b force = true
      · rw [if_pos happlies] at halike
        exact Or.inl ⟨b, Or.inl ⟨_, by rw [happlies], hb⟩, halike⟩
      · rw [if_neg happlies] at halike
        refine Or.inr ⟨?_, halike⟩
        rintro other (⟨c, hhistory, -⟩ | ⟨⟨consulted, hhistory⟩, -, -⟩)
        · simp [happlies] at hhistory
        · simp at hhistory
  | degraded _ hlater => exact Or.inr ⟨not_rebound_of_milestone rfl rfl, hlater⟩
  | violated _ _ hlater => exact Or.inr ⟨not_rebound_of_milestone rfl rfl, hlater⟩
  | abandoned => exact Or.inr ⟨not_rebound_of_same rfl, Heap.Alike.refl _⟩
  | left hlater => exact Or.inr ⟨not_rebound_of_milestone rfl rfl, hlater⟩

end AgentRun

end CapabilityMesh
