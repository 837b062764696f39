/-
The accounts that an agent keeps of its contacts with the registry.  What its state
says about failures, successes and its standing is what a reader of the history would
say, and an outcome that reports a failure reports the same.
-/
import CapabilityMesh.Proofs.Agent.Run

namespace CapabilityMesh

namespace AgentState

theorem failureLimit_pos : 1 ≤ failureLimit := by decide

theorem min_succ_min (count limit : Nat) :
    min (min limit count + 1) limit = min limit (count + 1) := by
  omega

/-- A count that stops at its limit reaches a threshold when the true count does. -/
theorem below_threshold_iff (count : Nat) {threshold limit : Nat}
    (hthreshold : threshold ≤ limit) (hlimit : 1 ≤ limit) :
    min (min limit count + 1) limit < max threshold 1 ↔ count + 1 < max 1 threshold := by
  omega

end AgentState

namespace AgentRun

/-- The state of an agent agrees with the history of its run. -/
structure Balanced (r : AgentRun) : Prop where
  failures : r.agent.state.failures = min AgentState.failureLimit r.history.failures
  heartbeats : r.agent.state.heartbeats = r.history.successes
  registered : r.agent.state.phase = .registered ↔
    r.history.hasSuccess = true ∧ r.history.hasLeft = false ∧
      r.history.failures < max 1 r.agent.policy.missedThreshold

theorem start_balanced (identity : AgentIdentity) (policy : HeartbeatPolicy) :
    (start identity policy).Balanced := by
  refine ⟨rfl, rfl, ?_⟩
  have hhistory : (start identity policy).history.hasSuccess = false := rfl
  have hphase : (start identity policy).agent.state.phase = .unregistered := rfl
  simp [hhistory, hphase]

/-- The accounts do not change where neither the state nor the history says anything
that they are about. -/
theorem Balanced.of_same {r next : AgentRun} (hr : r.Balanced)
    (hfailures : next.agent.state.failures = r.agent.state.failures)
    (hheartbeats : next.agent.state.heartbeats = r.agent.state.heartbeats)
    (hphase : next.agent.state.phase = .registered ↔
      r.agent.state.phase = .registered)
    (hpolicy : next.agent.policy = r.agent.policy)
    (hhistory : next.history = r.history ∨ ∃ m : Milestone,
      next.history = m :: r.history ∧ m.isSuccess = false ∧ m.isFailure = false ∧
        m.isFarewell = false) :
    next.Balanced := by
  have hread : next.history.failures = r.history.failures ∧
      next.history.successes = r.history.successes ∧
      next.history.hasSuccess = r.history.hasSuccess ∧
      next.history.hasLeft = r.history.hasLeft := by
    rcases hhistory with heq | ⟨m, heq, hsuccess, hfailure, hfarewell⟩
    · simp [heq]
    · rw [heq, History.failures_other _ hsuccess hfailure,
        History.successes_other _ hsuccess, History.hasSuccess_cons,
        History.hasLeft_other _ hsuccess, hsuccess, hfarewell]
      simp
  obtain ⟨hcount, hsuccesses, hsuccess, hleft⟩ := hread
  refine ⟨?_, ?_, ?_⟩
  · rw [hfailures, hcount]
    exact hr.failures
  · rw [hheartbeats, hsuccesses]
    exact hr.heartbeats
  · rw [hphase, hsuccess, hleft, hcount, hpolicy]
    exact hr.registered

/-- A success clears the count and confirms the agent. -/
theorem Balanced.of_success {r next : AgentRun} {now : Timestamp} {m : Milestone}
    (hr : r.Balanced) (hm : m.isSuccess = true)
    (hstate : next.agent.state = r.agent.state.recordSuccess now)
    (hhistory : next.history = m :: r.history) : next.Balanced := by
  refine ⟨?_, ?_, ?_⟩
  · rw [hstate, hhistory, History.failures_success _ hm]
    rfl
  · rw [hstate, hhistory, History.successes_success _ hm, ← hr.heartbeats]
    rfl
  · rw [hstate, hhistory, History.hasSuccess_cons, History.hasLeft_success _ hm,
      History.failures_success _ hm, hm]
    have hpositive : 0 < max 1 next.agent.policy.missedThreshold := by omega
    simp [AgentState.recordSuccess, hpositive]

/-- A failure raises the count, and may be the one that makes the agent go on
alone. -/
theorem Balanced.of_failure {r next : AgentRun} {m : Milestone} (hr : r.Balanced)
    (hsuccess : m.isSuccess = false) (hfailure : m.isFailure = true)
    (hfarewell : m.isFarewell = false)
    (hthreshold : r.agent.policy.missedThreshold < UInt32.size)
    (hagent : next.agent = r.agent.failed) (hhistory : next.history = m :: r.history) :
    next.Balanced := by
  have hcount := hr.failures
  have hfailures : next.agent.state.failures =
      min (r.agent.state.failures + 1) AgentState.failureLimit := by
    rw [hagent]
    exact AgentState.recordFailure_failures _ _
  refine ⟨?_, ?_, ?_⟩
  · rw [hfailures, hhistory, History.failures_failure _ hsuccess hfailure, hcount,
      AgentState.min_succ_min]
  · rw [hhistory, History.successes_other _ hsuccess, ← hr.heartbeats, hagent]
    exact AgentState.recordFailure_heartbeats _ _
  · have hphase : next.agent.state.phase = .registered ↔ r.agent.state.phase = .registered ∧
        min (r.agent.state.failures + 1) AgentState.failureLimit <
          max r.agent.policy.missedThreshold 1 := by
      rw [hagent]
      exact AgentState.recordFailure_registered_iff _ _
    have hpolicy : next.agent.policy = r.agent.policy := by
      rw [hagent]
      rfl
    rw [hphase, hr.registered, hhistory, History.hasSuccess_cons,
      History.hasLeft_other _ hsuccess, History.failures_failure _ hsuccess hfailure,
      hsuccess, hfarewell, hpolicy, hcount, Bool.false_or, Bool.false_or]
    have hbelow := AgentState.below_threshold_iff r.history.failures
      (Nat.le_pred_of_lt hthreshold) AgentState.failureLimit_pos
    constructor
    · rintro ⟨⟨hbefore, hleft, -⟩, hlast⟩
      exact ⟨hbefore, hleft, hbelow.mp hlast⟩
    · rintro ⟨hbefore, hleft, hlast⟩
      exact ⟨⟨hbefore, hleft, Nat.lt_of_succ_lt hlast⟩, hbelow.mpr hlast⟩

/-- A farewell ends the standing and leaves the count. -/
theorem Balanced.of_farewell {r next : AgentRun} {phase : AgentPhase}
    (hr : r.Balanced) (hstate : next.agent.state =
      { r.agent.state with phase := .unregistered })
    (hhistory : next.history = .left phase :: r.history) : next.Balanced := by
  have hsuccess : (Milestone.left phase).isSuccess = false := rfl
  refine ⟨?_, ?_, ?_⟩
  · rw [hstate, hhistory, History.failures_other _ hsuccess rfl]
    exact hr.failures
  · rw [hstate, hhistory, History.successes_other _ hsuccess]
    exact hr.heartbeats
  · have hleft : (Milestone.left phase).isFarewell = true := rfl
    rw [hstate, hhistory, History.hasLeft_other _ hsuccess, hleft]
    simp

/-- Every turn keeps the accounts. -/
theorem Turn.balanced {r next : AgentRun} {e : AgentEvent} (hturn : Turn r e next)
    (hpolicy : r.agent.policy.standalone = false)
    (hthreshold : r.agent.policy.missedThreshold < UInt32.size) (hr : r.Balanced) :
    next.Balanced := by
  cases hturn with
  | still => exact hr
  | deed d => exact hr.of_same rfl rfl Iff.rfl rfl (Or.inl rfl)
  | built hlater =>
      exact hr.of_same rfl rfl Iff.rfl rfl (Or.inr ⟨_, rfl, rfl, rfl, rfl⟩)
  | probing => exact hr.of_same rfl rfl Iff.rfl rfl (Or.inl rfl)
  | declared hopen hrequest hmetadata hlater =>
      exact hr.of_same rfl rfl Iff.rfl rfl (Or.inr ⟨_, rfl, rfl, rfl, rfl⟩)
  | inFlight hlater =>
      exact hr.of_same rfl rfl Iff.rfl rfl (Or.inr ⟨_, rfl, rfl, rfl, rfl⟩)
  | disabled hstandalone hstate hlater =>
      rw [hpolicy] at hstandalone
      cases hstandalone
  | unchanged hcall happlied hsame hlater => exact hr.of_success rfl rfl rfl
  | reconciled hcall hrequest hb hlater => exact hr.of_success rfl rfl rfl
  | degraded hcall hlater => exact hr.of_failure rfl rfl rfl hthreshold rfl rfl
  | violated hcall hagent hlater =>
      rcases hagent with rfl | rfl
      · exact hr.of_same rfl rfl Iff.rfl rfl (Or.inr ⟨_, rfl, rfl, rfl, rfl⟩)
      · exact hr.of_same r.agent.settledAlone_failures r.agent.settledAlone_heartbeats
          r.agent.settledAlone_registered_iff r.agent.settledAlone_policy
          (Or.inr ⟨_, rfl, rfl, rfl, rfl⟩)
  | abandoned => exact hr.of_same rfl rfl Iff.rfl rfl (Or.inl rfl)
  | left hlater => exact hr.of_farewell rfl rfl

theorem run_balanced (identity : AgentIdentity) (policy : HeartbeatPolicy)
    (events : List AgentEvent) (hpolicy : policy.standalone = false)
    (hthreshold : policy.missedThreshold < UInt32.size) :
    (run identity policy events).Balanced := by
  refine (run_induction
    (P := fun r => r.agent.policy = policy ∧ r.Balanced)
    ⟨rfl, start_balanced identity policy⟩ ?_).2
  rintro r e next - hturn ⟨hsame, hr⟩
  refine ⟨hturn.policy_eq.trans hsame, hturn.balanced ?_ ?_ hr⟩
  · rw [hsame]
    exact hpolicy
  · rw [hsame]
    exact hthreshold

/-- What an outcome says about a failure is what became of the agent. -/
theorem Turn.degraded_report {r next : AgentRun} {e : AgentEvent}
    (hturn : Turn r e next) {status : HeartbeatStatus} {failures : Nat} {dropped : Bool}
    (hended : Ended r next (.degraded status failures dropped)) :
    failures = next.agent.state.failures ∧
      (dropped = true ↔
        r.agent.state.phase = .registered ∧ next.agent.state.phase = .standalone) := by
  obtain ⟨consulted, hhistory⟩ := hended
  cases hturn with
  | degraded hcall hlater =>
      simp only [List.cons.injEq, Milestone.ended.injEq, TickOutcome.degraded.injEq]
        at hhistory
      obtain ⟨⟨⟨-, hfailures, hdropped⟩, -⟩, -⟩ := hhistory
      refine ⟨hfailures.symm, ?_⟩
      rw [← hdropped]
      exact AgentState.recordFailure_dropped_iff _ _
  | _ => simp at hhistory

/-- A breach of the protocol is not counted at all. -/
theorem Turn.violated_same {r next : AgentRun} {e : AgentEvent} (hturn : Turn r e next)
    {message : String} (hended : Ended r next (.contractViolation message)) :
    next.agent.state.failures = r.agent.state.failures ∧
      next.agent.state.heartbeats = r.agent.state.heartbeats ∧
      (next.agent.state.phase = .registered ↔ r.agent.state.phase = .registered) := by
  obtain ⟨consulted, hhistory⟩ := hended
  cases hturn with
  | violated hcall hagent hlater =>
      rcases hagent with rfl | rfl
      · exact ⟨rfl, rfl, Iff.rfl⟩
      · exact ⟨r.agent.settledAlone_failures, r.agent.settledAlone_heartbeats,
          r.agent.settledAlone_registered_iff⟩
  | _ => simp at hhistory

/-- In every run of an agent that calls the registry, the count of failures, the
count of heartbeats and the standing are those that the history gives, a failure is
reported as it was counted, and a breach of the protocol counts for nothing. -/
theorem accounts_agree_with_history (identity : AgentIdentity)
    (policy : HeartbeatPolicy) (events : List AgentEvent)
    (hpolicy : policy.standalone = false)
    (hthreshold : policy.missedThreshold < UInt32.size) :
    let r := run identity policy events
    r.agent.state.failures = min (UInt32.size - 1) r.history.failures ∧
    r.agent.state.heartbeats = r.history.successes ∧
    (r.agent.state.phase = .registered ↔
      r.history.hasSuccess = true ∧ r.history.hasLeft = false ∧
        r.history.failures < max 1 policy.missedThreshold) ∧
    ∀ e : AgentEvent,
      (∀ (status : HeartbeatStatus) (failures : Nat) (dropped : Bool),
        Ended r (r.step e) (.degraded status failures dropped) →
          failures = min (UInt32.size - 1) (r.step e).history.failures ∧
          (dropped = true ↔ r.agent.state.phase = .registered ∧
            (r.step e).agent.state.phase = .standalone)) ∧
      ∀ message : String, Ended r (r.step e) (.contractViolation message) →
        (r.step e).agent.state.failures = r.agent.state.failures ∧
        (r.step e).history.failures = r.history.failures := by
  intro r
  have hr : r.Balanced := run_balanced identity policy events hpolicy hthreshold
  have hsame : r.agent.policy = policy := run_policy identity policy events
  refine ⟨hr.failures, hr.heartbeats, ?_, ?_⟩
  · rw [← hsame]
    exact hr.registered
  · intro e
    have hturn := step_turn r e
    have hnext : (r.step e).Balanced :=
      hturn.balanced (by rw [hsame]; exact hpolicy) (by rw [hsame]; exact hthreshold) hr
    constructor
    · intro status failures dropped hended
      obtain ⟨hfailures, hdropped⟩ := hturn.degraded_report hended
      refine ⟨?_, hdropped⟩
      rw [hfailures]
      exact hnext.failures
    · intro message hended
      refine ⟨(hturn.violated_same hended).1, ?_⟩
      obtain ⟨consulted, hhistory⟩ := hended
      rw [hhistory]
      exact History.failures_other _ rfl rfl

/-- Two failures in a row are enough to go on alone. -/
def impatientPolicy : HeartbeatPolicy :=
  { missedThreshold := 2 }

/-- An agent registers, and then the registry is out of reach twice. -/
def losingContact : List AgentEvent :=
  [.register sampleTime, .answered sampleTime sampleAnswer,
    .tick, .probed sampleTime (.failed "down"),
    .tick, .probed sampleTime (.failed "down")]

theorem accounts_of_losing_contact :
    impatientPolicy.standalone = false ∧
      impatientPolicy.missedThreshold < UInt32.size ∧
      (run sampleIdentity impatientPolicy losingContact).agent.state.failures = 2 ∧
      (run sampleIdentity impatientPolicy losingContact).agent.state.heartbeats = 1 ∧
      (run sampleIdentity impatientPolicy losingContact).agent.state.phase ≠
        .registered := by
  have hpolicy : impatientPolicy.standalone = false := rfl
  have hthreshold : impatientPolicy.missedThreshold < UInt32.size := by decide
  obtain ⟨hfailures, hheartbeats, hregistered, -⟩ := accounts_agree_with_history
    sampleIdentity impatientPolicy losingContact hpolicy hthreshold
  have hcount : (run sampleIdentity impatientPolicy losingContact).history.failures = 2 := by
    decide +kernel
  have hsuccesses :
      (run sampleIdentity impatientPolicy losingContact).history.successes = 1 := by
    decide +kernel
  refine ⟨hpolicy, hthreshold, ?_, ?_, ?_⟩
  · rw [hfailures, hcount]
    decide
  · rw [hheartbeats, hsuccesses]
  · intro hphase
    have hbelow := (hregistered.mp hphase).2.2
    rw [hcount] at hbelow
    exact absurd hbelow (by decide)

end AgentRun

end CapabilityMesh
