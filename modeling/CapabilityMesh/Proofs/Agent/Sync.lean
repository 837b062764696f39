/-
The bindings that an agent knows are in force.  While the injector counts no function
that was wrapped or released since, every dependency of the wrapped functions has the
value that the last reconciled answer prescribes, whichever way the agent took: the
bindings were applied, were found to be known already, or were applied again.
-/
import CapabilityMesh.Proofs.Agent.Bindings
import CapabilityMesh.Proofs.Agent.Run
import CapabilityMesh.Proofs.Injection.Chronicle

namespace CapabilityMesh

namespace Agent

/-- Bindings that are put into force, or that are left because they are in force
already, come to the same. -/
theorem Rebinds.binds {a : Agent} {b : Bindings} {applies : Bool} {before after : Heap}
    (h : a.Rebinds b applies before after) (hrest : before.AtRest)
    (hbound : applies = false → ∀ slot ∈ slotsOf before.injector.declaredTools,
      before.injector.table.get? slot.key = a.boundValue before.injector b slot) :
    after.AtRest ∧
      Binds a b (slotsOf before.injector.declaredTools) before.injector
        after.injector := by
  obtain ⟨first, hfirst, hafter⟩ := h
  have hfirstRest := hrest.of_alike hfirst
  cases applies with
  | true =>
      obtain ⟨hlast, hbinds⟩ := a.applyBindings_spec b hfirstRest
      rw [if_pos rfl] at hafter
      refine ⟨hlast.of_alike hafter, ?_⟩
      rw [hafter.injector, ← hfirst.injector]
      exact hbinds
  | false =>
      rw [if_neg (by simp)] at hafter
      refine ⟨hfirstRest.of_alike hafter, ?_⟩
      rw [hafter.injector, hfirst.injector]
      exact ⟨Or.inl ⟨rfl, rfl⟩, fun _ => hbound rfl, fun _ _ _ => rfl⟩

end Agent

namespace AgentRun

open Agent

/-- The state of a run that keeps its bindings in force. -/
structure Synced (r : AgentRun) : Prop where
  rest : r.heap.AtRest
  generation_le : r.agent.memory.generation ≤ r.heap.injector.generation
  inForce : ∀ b, r.agent.memory.applied = some b →
    r.agent.memory.generation = r.heap.injector.generation →
      ∀ slot ∈ slotsOf r.heap.injector.declaredTools,
        r.heap.injector.table.get? slot.key =
          r.agent.boundValue r.heap.injector b slot
  reconciled : ∀ b, r.agent.memory.applied = some b →
    ∃ c, r.history.lastReconciled? = some c ∧ bindingsOf c.answer = .ok b

theorem start_synced (identity : AgentIdentity) (policy : HeartbeatPolicy) :
    (start identity policy).Synced := by
  have hnone : (start identity policy).agent.memory.applied = none := rfl
  refine ⟨Heap.atRest_empty, Nat.le_refl _, ?_, ?_⟩
  · intro b hb
    rw [hnone] at hb
    cases hb
  · intro b hb
    rw [hnone] at hb
    cases hb

/-- Nothing changes where the heap only logged and the memory stays or is cleared. -/
theorem Synced.of_same {r next : AgentRun} (hr : r.Synced)
    (hheap : next.heap.Alike r.heap)
    (hidentity : next.agent.identity = r.agent.identity)
    (hgeneration : next.agent.memory.generation = r.agent.memory.generation)
    (happlied : next.agent.memory.applied = none ∨
      next.agent.memory.applied = r.agent.memory.applied)
    (hhistory : next.history = r.history ∨ ∃ m : Milestone,
      next.history = m :: r.history ∧ m.reconciled? = none) : next.Synced := by
  have hlast : next.history.lastReconciled? = r.history.lastReconciled? := by
    rcases hhistory with heq | ⟨m, heq, hnone⟩
    · rw [heq]
    · rw [heq, History.lastReconciled?_cons, hnone]
      rfl
  have hknown : ∀ b, next.agent.memory.applied = some b →
      r.agent.memory.applied = some b := by
    intro b hb
    rcases happlied with hnone | hsame
    · rw [hnone] at hb
      cases hb
    · rw [← hsame]
      exact hb
  refine ⟨hr.rest.of_alike hheap, ?_, ?_, ?_⟩
  · rw [hgeneration, hheap.injector]
    exact hr.generation_le
  · intro b hb hcurrent slot hslot
    rw [hgeneration] at hcurrent
    rw [hheap.injector] at hcurrent hslot ⊢
    rw [boundValue_identity hidentity]
    exact hr.inForce b (hknown b hb) hcurrent slot hslot
  · intro b hb
    rw [hlast]
    exact hr.reconciled b (hknown b hb)

/-- A deed that keeps to shared values may make the bindings out of date, and then the
generation tells. -/
theorem Synced.of_deed {r next : AgentRun} (hr : r.Synced) {d : Deed}
    (hshared : d.keepsToShared = true) (hagent : next.agent = r.agent)
    (hheap : next.heap = d.perform r.heap) (hhistory : next.history = r.history) :
    next.Synced := by
  have hkeeps := Deed.perform_keepsOwn hr.rest hshared
  rw [← hheap] at hkeeps
  refine ⟨?_, ?_, ?_, ?_⟩
  · rw [hheap]
    exact Deed.perform_atRest hr.rest d
  · rw [hagent]
    exact Nat.le_trans hr.generation_le hkeeps.generation_le
  · intro b hb hcurrent slot hslot
    rw [hagent] at hb hcurrent ⊢
    have hold := hr.generation_le
    have hnew := hkeeps.generation_le
    have hsame : next.heap.injector.generation = r.heap.injector.generation := by omega
    have hfunctions := hkeeps.functions hsame
    have htools : next.heap.injector.declaredTools = r.heap.injector.declaredTools := by
      simp only [Injector.declaredTools, Injector.newest, hfunctions]
    rw [htools] at hslot
    rw [r.agent.boundValue_functions hfunctions]
    have hown : next.heap.injector.table.get? slot.key =
        r.heap.injector.table.get? slot.key :=
      hkeeps.own hsame slot.function slot.capability
    rw [hown]
    exact hr.inForce b hb (by omega) slot hslot
  · intro b hb
    rw [hagent] at hb
    rw [hhistory]
    exact hr.reconciled b hb

/-- Bindings that were put into force are remembered with the generation that they were
meant for. -/
theorem Synced.of_binds {r next : AgentRun} {b : Bindings}
    (hrest : next.heap.AtRest)
    (hbinds : Binds r.agent b (slotsOf r.heap.injector.declaredTools) r.heap.injector
      next.heap.injector)
    (hidentity : next.agent.identity = r.agent.identity)
    (hmemory : next.agent.memory = ⟨some b, r.heap.injector.generation⟩)
    (hreconciled : ∃ c, next.history.lastReconciled? = some c ∧
      bindingsOf c.answer = .ok b) : next.Synced := by
  have hb : ∀ other, next.agent.memory.applied = some other → other = b := by
    intro other hother
    rw [hmemory] at hother
    exact (Option.some.inj hother).symm
  refine ⟨hrest, ?_, ?_, ?_⟩
  · rw [hmemory]
    exact hbinds.generation_le
  · intro other hother hcurrent slot hslot
    rw [hb other hother]
    rw [hmemory] at hcurrent
    have hsame : next.heap.injector.generation = r.heap.injector.generation :=
      hcurrent.symm
    have hfunctions := hbinds.functions_of_generation hsame
    have htools : next.heap.injector.declaredTools = r.heap.injector.declaredTools := by
      simp only [Injector.declaredTools, Injector.newest, hfunctions]
    rw [htools] at hslot
    rw [boundValue_identity hidentity, r.agent.boundValue_functions hfunctions]
    exact hbinds.bound hsame slot hslot
  · intro other hother
    rw [hb other hother]
    exact hreconciled

/-- A probe that reports no change makes the agent apply what it knows where that is
out of date. -/
theorem Synced.unchanged_binds {r : AgentRun} (hr : r.Synced) {b : Bindings}
    {later : Heap} (happlied : r.agent.memory.applied = some b)
    (hlater : r.agent.Rebinds b
      (decide (r.agent.memory.generation ≠ r.heap.injector.generation)) r.heap later) :
    later.AtRest ∧
      Binds r.agent b (slotsOf r.heap.injector.declaredTools) r.heap.injector
        later.injector := by
  apply hlater.binds hr.rest
  intro hcurrent
  simp only [ne_eq, decide_eq_false_iff_not, not_not] at hcurrent
  exact hr.inForce b happlied hcurrent

theorem mustApply_eq_false {a : Agent} {h : Heap} {b : Bindings} {force : Bool}
    (hskip : a.mustApply h b force = false) :
    a.memory.applied = some b ∧ a.memory.generation = h.injector.generation := by
  simp only [mustApply, ne_eq, Bool.or_eq_false_iff, decide_eq_false_iff_not, not_not]
    at hskip
  exact ⟨hskip.1.2, hskip.2⟩

/-- An answer is put into force, or found to be in force. -/
theorem Synced.reconciled_binds {r : AgentRun} (hr : r.Synced) {b : Bindings}
    {force : Bool} {later : Heap}
    (hlater : r.agent.Rebinds b (r.agent.mustApply r.heap b force) r.heap later) :
    later.AtRest ∧
      Binds r.agent b (slotsOf r.heap.injector.declaredTools) r.heap.injector
        later.injector := by
  apply hlater.binds hr.rest
  intro hskip
  obtain ⟨happlied, hcurrent⟩ := mustApply_eq_false hskip
  exact hr.inForce b happlied hcurrent

/-- Every turn keeps the bindings in force, if no deed writes a value of a function's
own. -/
theorem Turn.synced {r next : AgentRun} {e : AgentEvent} (hturn : Turn r e next)
    (hshared : ∀ d, e = .deed d → d.keepsToShared = true) (hr : r.Synced) :
    next.Synced := by
  cases hturn with
  | still => exact hr
  | deed d => exact hr.of_deed (hshared d rfl) rfl rfl rfl
  | built hlater =>
      exact hr.of_same hlater rfl rfl (Or.inr rfl) (Or.inr ⟨_, rfl, rfl⟩)
  | probing hpolicy =>
      exact hr.of_same (Heap.Alike.refl _) rfl rfl (Or.inr rfl) (Or.inl rfl)
  | declared hopen hrequest hmetadata hlater =>
      exact hr.of_same hlater rfl rfl (Or.inr rfl) (Or.inr ⟨_, rfl, rfl⟩)
  | inFlight hlater =>
      exact hr.of_same hlater rfl rfl (Or.inr rfl) (Or.inr ⟨_, rfl, rfl⟩)
  | disabled hpolicy hstate hlater =>
      exact hr.of_same hlater rfl rfl (Or.inr rfl) (Or.inr ⟨_, rfl, rfl⟩)
  | @unchanged now b later hcall happlied hsame hlater =>
      obtain ⟨hrest, hbinds⟩ := hr.unchanged_binds happlied hlater
      refine Synced.of_binds hrest hbinds rfl ?_ ?_
      · simp only [refreshed, happlied]
      · obtain ⟨c, hc, hanswer⟩ := hr.reconciled b happlied
        exact ⟨c, (History.lastReconciled?_cons _ _).trans hc, hanswer⟩
  | reconciled hcall hrequest hb hlater =>
      obtain ⟨hrest, hbinds⟩ := hr.reconciled_binds hlater
      exact Synced.of_binds hrest hbinds rfl rfl ⟨_, rfl, hb⟩
  | degraded hcall hlater =>
      exact hr.of_same hlater rfl rfl r.agent.failed_applied (Or.inr ⟨_, rfl, rfl⟩)
  | violated hcall hagent hlater =>
      rcases hagent with rfl | rfl
      · exact hr.of_same hlater rfl rfl (Or.inr rfl) (Or.inr ⟨_, rfl, rfl⟩)
      · have hmemory := r.agent.settledAlone_memory
        exact hr.of_same hlater r.agent.settledAlone_identity
          (congrArg CycleMemory.generation hmemory)
          (Or.inr (congrArg CycleMemory.applied hmemory)) (Or.inr ⟨_, rfl, rfl⟩)
  | abandoned => exact hr.of_same (Heap.Alike.refl _) rfl rfl (Or.inr rfl) (Or.inl rfl)
  | left hlater =>
      exact hr.of_same hlater rfl rfl (Or.inr rfl) (Or.inr ⟨_, rfl, rfl⟩)

theorem run_synced (identity : AgentIdentity) (policy : HeartbeatPolicy)
    {events : List AgentEvent}
    (hshared : ∀ d, AgentEvent.deed d ∈ events → d.keepsToShared = true) :
    (run identity policy events).Synced := by
  apply run_induction (start_synced identity policy)
  intro r e next he hturn hr
  apply hturn.synced _ hr
  rintro d rfl
  exact hshared d he

/-- A success during which no function was released leaves the agent with the
generation of the injector. -/
theorem Turn.success_current {r next : AgentRun} {e : AgentEvent} (hturn : Turn r e next)
    (hr : r.Synced) {outcome : TickOutcome} (hended : Ended r next outcome)
    (hsuccess : outcome = .unchanged ∨ ∃ changed, outcome = .reconciled changed)
    (hkept : next.heap.injector.functions = r.heap.injector.functions) :
    next.agent.memory.generation = next.heap.injector.generation := by
  obtain ⟨consulted, hhistory⟩ := hended
  cases hturn with
  | unchanged hcall happlied hsame hlater =>
      exact ((hr.unchanged_binds happlied hlater).2.generation_of_functions hkept).symm
  | reconciled hcall hrequest hb hlater =>
      exact ((hr.reconciled_binds hlater).2.generation_of_functions hkept).symm
  | _ =>
      rcases hsuccess with rfl | ⟨changed, rfl⟩
      · simp at hhistory
      · simp at hhistory

/-- Where a reconciliation left the bindings as they were, to apply them would have
changed nothing. -/
theorem Turn.skipped_same {r next : AgentRun} {e : AgentEvent} (hturn : Turn r e next)
    (hr : r.Synced) (hended : Ended r next (.reconciled false)) :
    ∃ b, next.agent.memory.applied = some b ∧
      SameBooks next.heap.injector (next.agent.applyBindings b next.heap).injector := by
  obtain ⟨consulted, hhistory⟩ := hended
  cases hturn with
  | @reconciled now answer call request b force later hcall hrequest hb hlater =>
      refine ⟨b, rfl, ?_⟩
      simp only [List.cons.injEq, Milestone.ended.injEq, TickOutcome.reconciled.injEq]
        at hhistory
      have hskip := hhistory.1.1
      obtain ⟨happlied, hcurrent⟩ := mustApply_eq_false hskip
      rw [hskip] at hlater
      obtain ⟨first, hfirst, hafter⟩ := hlater
      rw [if_neg (by simp)] at hafter
      have halike : later.Alike r.heap := hafter.trans hfirst
      apply applyBindings_same _ _ (hr.rest.of_alike halike)
      intro slot hslot
      rw [halike.injector] at hslot ⊢
      exact hr.inForce b happlied hcurrent slot hslot
  | _ => simp at hhistory

/-- In every run in which the application writes no value of a function's own, the
bindings that the agent knows are those of the last reconciled answer.  They are in
force for every dependency of the wrapped functions as long as the injector's
generation is the one that the agent remembers, and it is after every success that
released no function.  To skip the bindings of an answer is therefore to change
nothing. -/
theorem bindings_stay_in_force (identity : AgentIdentity) (policy : HeartbeatPolicy)
    (events : List AgentEvent)
    (hshared : ∀ d, AgentEvent.deed d ∈ events → d.keepsToShared = true) :
    let r := run identity policy events
    (∀ b, r.agent.memory.applied = some b →
      (∃ c, r.history.lastReconciled? = some c ∧ bindingsOf c.answer = .ok b) ∧
      (r.agent.memory.generation = r.heap.injector.generation →
        ∀ t ∈ r.heap.injector.declaredTools, ∀ d ∈ t.dependencies,
          r.agent.InForce b r.heap.injector ⟨t.function, d.capability⟩)) ∧
    ∀ e : AgentEvent,
      (∀ outcome : TickOutcome, Ended r (r.step e) outcome →
        (outcome = .unchanged ∨ ∃ changed, outcome = .reconciled changed) →
        (r.step e).heap.injector.functions = r.heap.injector.functions →
          (r.step e).agent.memory.generation =
            (r.step e).heap.injector.generation) ∧
      (Ended r (r.step e) (.reconciled false) →
        ∃ b, (r.step e).agent.memory.applied = some b ∧
          SameBooks (r.step e).heap.injector
            ((r.step e).agent.applyBindings b (r.step e).heap).injector) := by
  intro r
  have hr : r.Synced := run_synced identity policy hshared
  constructor
  · intro b hb
    refine ⟨hr.reconciled b hb, ?_⟩
    intro hcurrent t ht d hd
    apply inForce_of_boundValue
    apply hr.inForce b hb hcurrent
    rw [slotsOf, List.mem_flatMap]
    exact ⟨t, ht, List.mem_map.mpr ⟨d, hd, rfl⟩⟩
  · intro e
    have hturn := step_turn r e
    refine ⟨?_, hturn.skipped_same hr⟩
    intro outcome hended hsuccess hkept
    exact hturn.success_current hr hended hsuccess hkept

/-- A function that needs a date, and another one of the same agent that serves it. -/
def selfBound : List AgentEvent :=
  [.deed (.wrap (.named "today") .blocking .text []),
    .deed (.wrap ((Tool.named "greet").dependsOn (.on "date")) .blocking .text []),
    .register sampleTime,
    .answered sampleTime (.ok
      { status := "success"
        functions := [
          { function := "greet"
            dependencies := [
              { capability := "date"
                status := .resolved
                provider := some ⟨"m-1", "http://m", "today"⟩ }] }] })]

theorem self_bound_in_force :
    (∀ d, AgentEvent.deed d ∈ selfBound → d.keepsToShared = true) ∧
      ∃ b, (run sampleIdentity {} selfBound).agent.memory.applied = some b ∧
        (run sampleIdentity {} selfBound).agent.InForce b
          (run sampleIdentity {} selfBound).heap.injector ⟨"greet", "date"⟩ := by
  have hshared : ∀ d, AgentEvent.deed d ∈ selfBound → d.keepsToShared = true := by
    intro d hd
    simp only [selfBound, List.mem_cons, AgentEvent.deed.injEq, reduceCtorEq,
      List.not_mem_nil, or_false] at hd
    rcases hd with rfl | rfl
    · rfl
    · rfl
  have hcurrent : (run sampleIdentity {} selfBound).agent.memory.generation =
      (run sampleIdentity {} selfBound).heap.injector.generation := by decide +kernel
  have hknown : (run sampleIdentity {} selfBound).agent.memory.applied.isSome = true := by
    decide +kernel
  have htools : (run sampleIdentity {} selfBound).heap.injector.declaredTools =
      [(Tool.named "greet").dependsOn (.on "date"), .named "today"] := by decide +kernel
  obtain ⟨b, hb⟩ := Option.isSome_iff_exists.mp hknown
  refine ⟨hshared, b, hb, ?_⟩
  have hforce := ((bindings_stay_in_force sampleIdentity {} selfBound hshared).1 b hb).2
    hcurrent
  rw [htools] at hforce
  exact hforce _ List.mem_cons_self (.on "date") List.mem_cons_self

end AgentRun

end CapabilityMesh
