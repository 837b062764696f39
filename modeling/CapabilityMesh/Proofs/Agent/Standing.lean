/-
How an agent comes to be registered.  Its bindings are remembered for as long as it
is registered, and a farewell does not make it forget them.  After a farewell, a probe
that reports no change is therefore enough to make the agent registered again; in every
other case it takes a reconciliation.
-/
import CapabilityMesh.Proofs.Agent.Run

namespace CapabilityMesh

namespace AgentRun

/-- What an agent's phase says about its memory.  A registered agent knows its
bindings; one that is not registered knows them only if it took its leave while it
was. -/
structure Standing (r : AgentRun) : Prop where
  idle : r.agent.policy.standalone = true →
    r.call = none ∧ r.agent.state.phase ≠ .registered
  registered : r.agent.state.phase = .registered →
    r.agent.memory.applied.isSome = true ∧ r.history.leftRegistered = false
  other : r.agent.state.phase ≠ .registered →
    r.agent.memory.applied.isSome = r.history.leftRegistered

theorem start_standing (identity : AgentIdentity) (policy : HeartbeatPolicy) :
    (start identity policy).Standing := by
  have hphase : (start identity policy).agent.state.phase ≠ .registered := by
    simp [start, Agent.create, AgentState.fresh]
  exact ⟨fun _ => ⟨rfl, hphase⟩, fun hregistered => absurd hregistered hphase,
    fun _ => rfl⟩

/-- The standing does not change where phase and memory stay and no farewell was
made. -/
theorem Standing.of_same {r next : AgentRun} (hr : r.Standing)
    (hidle : next.agent.policy.standalone = true → r.agent.policy.standalone = true ∧
      (r.call = none → next.call = none))
    (hphase : next.agent.state.phase = .registered ↔
      r.agent.state.phase = .registered)
    (hmemory : next.agent.memory = r.agent.memory)
    (hhistory : next.history = r.history ∨ ∃ m : Milestone,
      next.history = m :: r.history ∧ m.isSuccess = false ∧
        m.leavesRegistered = false) :
    next.Standing := by
  have hleft : next.history.leftRegistered = r.history.leftRegistered := by
    rcases hhistory with heq | ⟨m, heq, hsuccess, hleaves⟩
    · rw [heq]
    · rw [heq, History.leftRegistered_other _ hsuccess, hleaves, Bool.false_or]
  refine ⟨?_, ?_, ?_⟩
  · intro hstandalone
    obtain ⟨hsame, hcall⟩ := hidle hstandalone
    exact ⟨hcall (hr.idle hsame).1, fun h => (hr.idle hsame).2 (hphase.mp h)⟩
  · intro hregistered
    rw [hmemory, hleft]
    exact hr.registered (hphase.mp hregistered)
  · intro hother
    rw [hmemory, hleft]
    exact hr.other fun h => hother (hphase.mpr h)

theorem Standing.of_success {r next : AgentRun} {call : AgentMove} {m : Milestone}
    (hr : r.Standing) (hcall : r.call = some call)
    (hpolicy : next.agent.policy = r.agent.policy)
    (hphase : next.agent.state.phase = .registered)
    (hmemory : next.agent.memory.applied.isSome = true) (hm : m.isSuccess = true)
    (hhistory : next.history = m :: r.history) : next.Standing := by
  refine ⟨?_, ?_, ?_⟩
  · intro hstandalone
    rw [hpolicy] at hstandalone
    rw [(hr.idle hstandalone).1] at hcall
    cases hcall
  · intro _
    exact ⟨hmemory, by rw [hhistory, History.leftRegistered_success _ hm]⟩
  · intro hother
    exact absurd hphase hother

/-- A failure that makes the agent go on alone makes it forget its bindings. -/
theorem Standing.of_failure {r next : AgentRun} {m : Milestone} (hr : r.Standing)
    (hcall : r.call.isSome = true) (hagent : next.agent = r.agent.failed)
    (hm : m.isSuccess = false) (hleaves : m.leavesRegistered = false)
    (hhistory : next.history = m :: r.history) : next.Standing := by
  have hleft : next.history.leftRegistered = r.history.leftRegistered := by
    rw [hhistory, History.leftRegistered_other _ hm, hleaves, Bool.false_or]
  have hmemory : next.agent.memory.applied =
      if r.agent.drops then none else r.agent.memory.applied := by
    rw [hagent]
    rfl
  refine ⟨?_, ?_, ?_⟩
  · intro hstandalone
    have hsame : r.agent.policy.standalone = true := by
      rw [hagent] at hstandalone
      exact hstandalone
    rw [(hr.idle hsame).1] at hcall
    cases hcall
  · intro hregistered
    rw [hagent] at hregistered
    obtain ⟨hbefore, hdrops⟩ := r.agent.failed_registered_iff.mp hregistered
    rw [hmemory, hdrops, hleft]
    exact hr.registered hbefore
  · intro hother
    rw [hmemory, hleft]
    cases hdrops : r.agent.drops with
    | true =>
        rw [(hr.registered (r.agent.drops_iff.mp hdrops).1).2]
        rfl
    | false =>
        apply hr.other
        intro hbefore
        rw [hagent] at hother
        exact hother (r.agent.failed_registered_iff.mpr ⟨hbefore, hdrops⟩)

/-- A farewell changes the phase and is remembered; the bindings stay. -/
theorem Standing.of_farewell {r next : AgentRun} (hr : r.Standing)
    (hcall : next.call = r.call)
    (hagent : next.agent = { r.agent with state.phase := .unregistered })
    (hhistory : next.history = .left r.agent.state.phase :: r.history) :
    next.Standing := by
  have hphase : next.agent.state.phase = .unregistered := by rw [hagent]
  have hmemory : next.agent.memory = r.agent.memory := by rw [hagent]
  have hpolicy : next.agent.policy = r.agent.policy := by rw [hagent]
  refine ⟨?_, ?_, ?_⟩
  · intro hstandalone
    rw [hpolicy] at hstandalone
    exact ⟨hcall.trans (hr.idle hstandalone).1, by simp [hphase]⟩
  · intro hregistered
    rw [hphase] at hregistered
    cases hregistered
  · intro _
    have hsuccess : (Milestone.left r.agent.state.phase).isSuccess = false := rfl
    rw [hmemory, hhistory, History.leftRegistered_other _ hsuccess]
    cases hbefore : r.agent.state.phase with
    | registered => exact (hr.registered hbefore).1
    | unregistered => exact hr.other (by simp [hbefore])
    | standalone => exact hr.other (by simp [hbefore])

theorem Turn.standing {r next : AgentRun} {e : AgentEvent} (hturn : Turn r e next)
    (hr : r.Standing) : next.Standing := by
  cases hturn with
  | still => exact hr
  | deed d => exact hr.of_same (fun h => ⟨h, id⟩) Iff.rfl rfl (Or.inl rfl)
  | built hlater =>
      exact hr.of_same (fun h => ⟨h, id⟩) Iff.rfl rfl (Or.inr ⟨_, rfl, rfl, rfl⟩)
  | probing hpolicy =>
      refine hr.of_same (fun h => ?_) Iff.rfl rfl (Or.inl rfl)
      rw [hpolicy] at h
      cases h
  | declared hopen hrequest hmetadata hlater =>
      refine hr.of_same (fun h => ⟨h, fun hnone => ?_⟩) Iff.rfl rfl
        (Or.inr ⟨_, rfl, rfl, rfl⟩)
      have hstandalone : r.agent.policy.standalone = true := h
      rcases hopen with hpolicy | hcall
      · rw [hstandalone] at hpolicy
        cases hpolicy
      · rw [hnone] at hcall
        cases hcall
  | inFlight hlater =>
      exact hr.of_same (fun h => ⟨h, id⟩) Iff.rfl rfl (Or.inr ⟨_, rfl, rfl, rfl⟩)
  | disabled hpolicy hstate hlater =>
      have hbefore := (hr.idle hpolicy).2
      rcases hstate with rfl | rfl
      · exact hr.of_same (fun h => ⟨h, id⟩) Iff.rfl rfl (Or.inr ⟨_, rfl, rfl, rfl⟩)
      · refine hr.of_same (fun h => ⟨h, id⟩) ?_ rfl (Or.inr ⟨_, rfl, rfl, rfl⟩)
        simp [AgentState.enterStandalone, hbefore]
  | unchanged hcall happlied hsame hlater =>
      refine hr.of_success hcall rfl rfl ?_ rfl rfl
      simp [Agent.refreshed, happlied]
  | reconciled hcall hrequest hb hlater => exact hr.of_success hcall rfl rfl rfl rfl rfl
  | degraded hcall hlater => exact hr.of_failure hcall rfl rfl rfl rfl
  | violated hcall hagent hlater =>
      rcases hagent with rfl | rfl
      · exact hr.of_same (fun h => ⟨h, fun _ => rfl⟩) Iff.rfl rfl
          (Or.inr ⟨_, rfl, rfl, rfl⟩)
      · refine hr.of_same (fun h => ⟨?_, fun _ => rfl⟩)
          r.agent.settledAlone_registered_iff r.agent.settledAlone_memory
          (Or.inr ⟨_, rfl, rfl, rfl⟩)
        simpa only [Agent.settledAlone_policy] using h
  | abandoned =>
      exact hr.of_same (fun h => ⟨h, fun _ => rfl⟩) Iff.rfl rfl (Or.inl rfl)
  | left hlater => exact hr.of_farewell rfl rfl rfl

theorem run_standing (identity : AgentIdentity) (policy : HeartbeatPolicy)
    (events : List AgentEvent) : (run identity policy events).Standing :=
  run_induction (start_standing identity policy)
    fun _ _ _ _ hturn hr => hturn.standing hr

theorem Turn.registers {r next : AgentRun} {e : AgentEvent} (hturn : Turn r e next)
    (hbefore : r.agent.state.phase ≠ .registered)
    (hafter : next.agent.state.phase = .registered) :
    (∃ changed : Bool, Ended r next (.reconciled changed)) ∨
      (∃ now, e = .probed now (.status 200)) ∧ r.call = some .probe ∧
        r.agent.memory.applied.isSome = true ∧
        r.agent.declarationsChanged r.heap = false ∧ Ended r next .unchanged := by
  cases hturn with
  | unchanged hcall happlied hsame hlater =>
      exact Or.inr ⟨⟨_, rfl⟩, hcall, by simp [happlied], hsame, ⟨none, rfl⟩⟩
  | reconciled hcall hrequest hb hlater => exact Or.inl ⟨_, ⟨_, rfl⟩⟩
  | degraded hcall hlater =>
      exact absurd (r.agent.failed_registered_iff.mp hafter).1 hbefore
  | violated hcall hagent hlater =>
      rcases hagent with rfl | rfl
      · exact absurd hafter hbefore
      · exact absurd (r.agent.settledAlone_registered_iff.mp hafter) hbefore
  | disabled hpolicy hstate hlater =>
      rcases hstate with rfl | rfl
      · exact absurd hafter hbefore
      · cases hafter
  | left hlater => cases hafter
  | _ => exact absurd hafter hbefore

/-- The one way in which an agent becomes registered without a reconciliation: it took
its leave while it was registered, there was no success since, and a probe reports no
change while there is nothing new to declare.  Otherwise it takes a reconciliation. -/
theorem registered_unreconciled_iff (identity : AgentIdentity) (policy : HeartbeatPolicy)
    (events : List AgentEvent) (e : AgentEvent) :
    let r := run identity policy events
    (r.agent.state.phase ≠ .registered ∧
      (r.step e).agent.state.phase = .registered ∧
      ¬ ∃ changed : Bool, Ended r (r.step e) (.reconciled changed)) ↔
    (r.agent.state.phase ≠ .registered ∧ r.history.leftRegistered = true ∧
      r.call = some .probe ∧ (∃ now, e = .probed now (.status 200)) ∧
      r.agent.declarationsChanged r.heap = false) := by
  intro r
  have hr : r.Standing := run_standing identity policy events
  constructor
  · rintro ⟨hbefore, hafter, hunreconciled⟩
    rcases (step_turn r e).registers hbefore hafter with
      hreconciled | ⟨hevent, hcall, happlied, hsame, -⟩
    · exact absurd hreconciled hunreconciled
    · have hleft := hr.other hbefore
      rw [happlied] at hleft
      exact ⟨hbefore, hleft.symm, hcall, hevent, hsame⟩
  · rintro ⟨hbefore, hleft, hcall, ⟨now, rfl⟩, hsame⟩
    have happlied : r.agent.memory.applied.isSome = true :=
      (hr.other hbefore).trans hleft
    obtain ⟨hafter, hended⟩ := step_unchanged now hcall happlied hsame
    refine ⟨hbefore, hafter, ?_⟩
    rintro ⟨changed, hreconciled⟩
    cases hended.unique hreconciled

/-- An agent registers, takes its leave, and probes once more. -/
def probingAfterFarewell : AgentRun :=
  run sampleIdentity {}
    [.register sampleTime, .answered sampleTime sampleAnswer, .farewell (.ok ()), .tick]

/-- A probe that reports no change makes an agent registered again that took its leave
before, without a declaration and without an answer to one. -/
theorem unchanged_registers_after_farewell :
    probingAfterFarewell.agent.state.phase = .unregistered ∧
      (probingAfterFarewell.step (.probed sampleTime (.status 200))).agent.state.phase =
        .registered ∧
      Ended probingAfterFarewell
        (probingAfterFarewell.step (.probed sampleTime (.status 200))) .unchanged ∧
      ¬ ∃ changed : Bool, Ended probingAfterFarewell
        (probingAfterFarewell.step (.probed sampleTime (.status 200)))
        (.reconciled changed) := by
  have hbefore : probingAfterFarewell.agent.state.phase = .unregistered := by
    decide +kernel
  have hcall : probingAfterFarewell.call = some .probe := by decide +kernel
  have happlied : probingAfterFarewell.agent.memory.applied.isSome = true := by
    decide +kernel
  have hsame : probingAfterFarewell.agent.declarationsChanged
      probingAfterFarewell.heap = false := by decide +kernel
  obtain ⟨hafter, hended⟩ := step_unchanged sampleTime hcall happlied hsame
  refine ⟨hbefore, hafter, hended, ?_⟩
  rintro ⟨changed, hreconciled⟩
  cases hended.unique hreconciled

end AgentRun

end CapabilityMesh
