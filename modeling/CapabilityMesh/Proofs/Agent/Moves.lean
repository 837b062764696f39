/-
What each operation of an agent comes to, apart from the lines that it logs: the
agent that it leaves behind, the bindings that it puts into force, and the outcome
or the call that it ends with.
-/
import Mathlib.Data.List.Basic
import CapabilityMesh.Agent.Cycle

namespace CapabilityMesh

namespace Heap

/-- Heaps that differ at most in what they logged. -/
def Alike (h other : Heap) : Prop :=
  { h with logged := [] } = { other with logged := [] }

theorem Alike.refl (h : Heap) : h.Alike h := rfl

theorem Alike.trans {h i j : Heap} (hfirst : h.Alike i) (hsecond : i.Alike j) :
    h.Alike j := Eq.trans hfirst hsecond

theorem note_alike (h : Heap) (entry : LogEntry) : (h.note entry).Alike h := rfl

theorem ite_note_alike (quiet : Prop) [Decidable quiet] (h : Heap) (entry : LogEntry) :
    (if quiet then h else h.note entry).Alike h := by
  split <;> rfl

theorem Alike.injector {h other : Heap} (halike : h.Alike other) :
    h.injector = other.injector := by
  have hinjector := congrArg Heap.injector (show ({ h with logged := [] } : Heap) =
    { other with logged := [] } from halike)
  exact hinjector

end Heap

namespace AgentState

/-- One more failure raises the count, up to its limit. -/
theorem recordFailure_failures (s : AgentState) (threshold : Nat) :
    (s.recordFailure threshold).1.failures = min (s.failures + 1) failureLimit := by
  simp only [recordFailure]
  split
  · split <;> rfl
  · rfl
  · rfl

theorem recordFailure_heartbeats (s : AgentState) (threshold : Nat) :
    (s.recordFailure threshold).1.heartbeats = s.heartbeats := by
  simp only [recordFailure]
  split
  · split <;> rfl
  · rfl
  · rfl

/-- A registered agent stays so until the count reaches the threshold, and at
least one. -/
theorem recordFailure_registered_iff (s : AgentState) (threshold : Nat) :
    (s.recordFailure threshold).1.phase = .registered ↔
      s.phase = .registered ∧ min (s.failures + 1) failureLimit < max threshold 1 := by
  simp only [recordFailure]
  split
  · rename_i hphase
    split
    · rename_i hreached
      constructor
      · intro hphase
        cases hphase
      · intro hbelow
        exact absurd hbelow.2 (Nat.not_lt.mpr hreached)
    · rename_i hreached
      exact ⟨fun _ => ⟨hphase, Nat.lt_of_not_le hreached⟩, fun _ => hphase⟩
  · rename_i hphase
    simp [hphase]
  · rename_i hphase
    simp [hphase]

/-- A failure that is said to make the agent go on alone is one that moves it. -/
theorem recordFailure_dropped_iff (s : AgentState) (threshold : Nat) :
    (s.recordFailure threshold).2 = true ↔
      s.phase = .registered ∧ (s.recordFailure threshold).1.phase = .standalone := by
  simp only [recordFailure]
  split
  · rename_i hphase
    split
    · simp [hphase]
    · simp [hphase]
  · rename_i hphase
    simp [hphase]
  · rename_i hphase
    simp [hphase]

end AgentState

/-- The declaration that a call sends. -/
def AgentMove.request? : AgentMove → Option RegistrationRequest
  | register request => some request
  | heartbeat request _ => some request
  | probe | ended _ => none

namespace Agent

def declaring (a : Agent) (h : Heap) : Agent :=
  { a with state.lastPayload := some (a.metadata h).toJson }

/-- Whether one more failure makes the agent go on alone. -/
def drops (a : Agent) : Bool :=
  (a.state.recordFailure a.policy.missedThreshold).2

def failed (a : Agent) : Agent :=
  { a with
    state := (a.state.recordFailure a.policy.missedThreshold).1
    memory.applied := if a.drops then none else a.memory.applied }

/-- Whether bindings have to be applied, or are in force already. -/
def mustApply (a : Agent) (h : Heap) (b : Bindings) (force : Bool) : Bool :=
  force || a.memory.applied ≠ some b || a.memory.generation ≠ h.injector.generation

def reconciled (a : Agent) (h : Heap) (now : Timestamp) (b : Bindings) : Agent :=
  { a with
    memory := ⟨some b, h.injector.generation⟩
    state := a.state.recordSuccess now }

/-- The agent behind a heartbeat that had nothing to do. -/
def refreshed (a : Agent) (h : Heap) (now : Timestamp) : Agent :=
  { a with
    memory.generation := h.injector.generation
    state := a.state.recordSuccess now }

/-- The bindings that an answer brings, if it is an answer and they are sound. -/
def bindingsOf (answer : Except MeshError RegistrationResponse) :
    Except MeshError Bindings :=
  answer.bind RegistrationResponse.bindings

/-- A first attempt to register that failed leaves the agent on its own. -/
def settledAlone (a : Agent) : Agent :=
  if a.state.phase = .unregistered then { a with state := a.state.enterStandalone } else a

/-- Bindings are put into force, or left as they are. -/
def Rebinds (a : Agent) (b : Bindings) (applies : Bool) (before after : Heap) : Prop :=
  ∃ first : Heap, first.Alike before ∧
    after.Alike (if applies then a.applyBindings b first else first)

theorem metadata_alike (a : Agent) {h noted : Heap} (hnoted : noted.Alike h) :
    a.metadata noted = a.metadata h := by
  simp only [metadata, hnoted.injector]

theorem declarationsChanged_alike (a : Agent) {h noted : Heap} (hnoted : noted.Alike h) :
    a.declarationsChanged noted = a.declarationsChanged h := by
  simp only [declarationsChanged, metadata_alike a hnoted]

theorem buildRequest_spec (a : Agent) {h noted : Heap} (hnoted : noted.Alike h)
    (now : Timestamp) :
    ∃ later : Heap, later.Alike h ∧
      a.buildRequest noted now =
        (a.declaring h, later, ⟨a.identity.agentId, now, a.metadata h⟩) := by
  simp only [buildRequest, metadata_alike a hnoted]
  split
  · exact ⟨noted, hnoted, rfl⟩
  · rename_i last hlast
    split
    · rename_i hsame
      have hagent : a.declaring h = a := by
        rw [declaring, ← hsame, ← hlast]
      exact ⟨noted, hnoted, by rw [hagent]⟩
    · exact ⟨_, (Heap.note_alike noted _).trans hnoted, rfl⟩

theorem fail_spec (a : Agent) (h : Heap) (status : HeartbeatStatus) (reason : String) :
    ∃ later : Heap, later.Alike h ∧
      a.fail h status reason =
        (a.failed, later, .degraded status a.failed.state.failures a.drops) := by
  simp only [fail]
  cases hdrops : a.drops with
  | true =>
      have hdropped : (a.state.recordFailure a.policy.missedThreshold).2 = true := hdrops
      simp only [failed, hdrops, hdropped, if_true]
      exact ⟨_, Heap.note_alike h _, rfl⟩
  | false =>
      have hkept : (a.state.recordFailure a.policy.missedThreshold).2 = false := hdrops
      simp only [failed, hdrops, hkept, Bool.false_eq_true, if_false]
      exact ⟨_, Heap.note_alike h _, rfl⟩

theorem onError_retryable (a : Agent) (h : Heap) {e : MeshError}
    (hretry : e.isRetryable = true) :
    ∃ (status : HeartbeatStatus) (later : Heap), later.Alike h ∧
      a.onError h e =
        (a.failed, later, .degraded status a.failed.state.failures a.drops) := by
  unfold onError
  rw [if_pos hretry]
  exact ⟨_, fail_spec a h _ _⟩

theorem onError_final (a : Agent) (h : Heap) {e : MeshError}
    (hfinal : e.isRetryable = false) :
    ∃ later : Heap, later.Alike h ∧
      a.onError h e = (a, later, .contractViolation e.message) := by
  unfold onError
  rw [if_neg (by simp [hfinal])]
  exact ⟨_, Heap.note_alike h _, rfl⟩

/-- An error is a failure or the registry's fault. -/
theorem onError_spec (a : Agent) (h : Heap) (e : MeshError) :
    ∃ later : Heap, later.Alike h ∧
      ((∃ status, a.onError h e =
          (a.failed, later, .degraded status a.failed.state.failures a.drops)) ∨
        a.onError h e = (a, later, .contractViolation e.message)) := by
  cases hretry : e.isRetryable with
  | true =>
      obtain ⟨status, later, hlater, heq⟩ := onError_retryable a h hretry
      exact ⟨later, hlater, Or.inl ⟨status, heq⟩⟩
  | false =>
      obtain ⟨later, hlater, heq⟩ := onError_final a h hretry
      exact ⟨later, hlater, Or.inr heq⟩

theorem reconcile_error (a : Agent) (h : Heap) (now : Timestamp)
    (response : RegistrationResponse) {e : MeshError}
    (hbindings : response.bindings = .error e) (force : Bool) :
    a.reconcile h now response force = a.onError h e := by
  rw [reconcile, hbindings]

theorem reconcile_ok (a : Agent) (h : Heap) (now : Timestamp)
    (response : RegistrationResponse) {b : Bindings}
    (hbindings : response.bindings = .ok b) (force : Bool) :
    ∃ later : Heap, a.Rebinds b (a.mustApply h b force) h later ∧
      a.reconcile h now response force =
        (a.reconciled h now b, later, .reconciled (a.mustApply h b force)) := by
  simp only [reconcile, hbindings]
  refine ⟨_, ⟨h, Heap.Alike.refl h, ?_⟩, rfl⟩
  exact (Heap.ite_note_alike _ _ _).trans (Heap.ite_note_alike _ _ _)

theorem refreshBindings_spec (a : Agent) {h noted : Heap} (hnoted : noted.Alike h)
    {b : Bindings} (hb : a.memory.applied = some b) :
    ∃ later : Heap,
      a.Rebinds b (decide (a.memory.generation ≠ h.injector.generation)) h later ∧
      a.refreshBindings noted =
        ({ a with memory.generation := h.injector.generation }, later) := by
  simp only [refreshBindings, hb, hnoted.injector]
  split
  · rename_i hsame
    refine ⟨noted, ⟨noted, hnoted, ?_⟩, ?_⟩
    · simp only [hsame, ne_eq, not_true_eq_false, decide_false, Bool.false_eq_true,
        if_false]
      exact Heap.Alike.refl noted
    · rw [← hsame, ← hb]
  · rename_i hother
    simp only [Rebinds, ne_eq, hother, not_false_eq_true, decide_true, if_true]
    exact ⟨_, ⟨_, (Heap.note_alike noted _).trans hnoted, Heap.Alike.refl _⟩, rfl⟩

theorem fullHeartbeat_spec (a : Agent) {h noted : Heap} (hnoted : noted.Alike h)
    (now : Timestamp) (status : HeartbeatStatus) :
    ∃ (later : Heap) (force : Bool), later.Alike h ∧
      a.fullHeartbeat noted now status =
        (a.declaring h, later,
          .heartbeat ⟨a.identity.agentId, now, a.metadata h⟩ force) := by
  simp only [fullHeartbeat]
  split
  · obtain ⟨later, hlater, heq⟩ :=
      buildRequest_spec a ((Heap.note_alike noted _).trans hnoted) now
    exact ⟨later, status == .agentUnknown, hlater, by rw [heq]⟩
  · obtain ⟨later, hlater, heq⟩ := buildRequest_spec a hnoted now
    exact ⟨later, status == .agentUnknown, hlater, by rw [heq]⟩

theorem ofCode_skip {code : Nat} {status : HeartbeatStatus}
    (hstatus : HeartbeatStatus.ofCode code = .ok status) (hskip : status.action = .skip) :
    code = 200 := by
  unfold HeartbeatStatus.ofCode at hstatus
  split at hstatus
  · rfl
  · obtain rfl := Except.ok.inj hstatus
    exact absurd hskip (by decide)
  · obtain rfl := Except.ok.inj hstatus
    exact absurd hskip (by decide)
  · obtain rfl := Except.ok.inj hstatus
    exact absurd hskip (by decide)
  · exact absurd hstatus (by simp)

theorem classify_skip {reply : ProbeReply} {status : HeartbeatStatus}
    (hstatus : HeartbeatStatus.classify reply = .ok status)
    (hskip : status.action = .skip) : reply = .status 200 := by
  cases reply with
  | status code =>
      rw [HeartbeatStatus.classify] at hstatus
      rw [ofCode_skip hstatus hskip]
  | failed reason =>
      rw [HeartbeatStatus.classify] at hstatus
      obtain rfl := Except.ok.inj hstatus
      exact absurd hskip (by decide)

theorem failed_phase_ne (a : Agent) : a.failed.state.phase ≠ .unregistered := by
  simp only [failed, AgentState.recordFailure]
  split
  · split <;> simp_all
  · simp
  · simp_all

theorem settledAlone_policy (a : Agent) : a.settledAlone.policy = a.policy := by
  rw [settledAlone]
  split <;> rfl

theorem settledAlone_identity (a : Agent) : a.settledAlone.identity = a.identity := by
  rw [settledAlone]
  split <;> rfl

theorem settledAlone_memory (a : Agent) : a.settledAlone.memory = a.memory := by
  rw [settledAlone]
  split <;> rfl

theorem settledAlone_failures (a : Agent) :
    a.settledAlone.state.failures = a.state.failures := by
  rw [settledAlone]
  split <;> rfl

theorem settledAlone_heartbeats (a : Agent) :
    a.settledAlone.state.heartbeats = a.state.heartbeats := by
  rw [settledAlone]
  split <;> rfl

theorem settledAlone_lastPayload (a : Agent) :
    a.settledAlone.state.lastPayload = a.state.lastPayload := by
  rw [settledAlone]
  split <;> rfl

theorem settledAlone_registered_iff (a : Agent) :
    a.settledAlone.state.phase = .registered ↔ a.state.phase = .registered := by
  rw [settledAlone]
  split
  · rename_i hphase
    simp [AgentState.enterStandalone, hphase]
  · exact Iff.rfl

theorem drops_iff (a : Agent) : a.drops = true ↔
    a.state.phase = .registered ∧ a.failed.state.phase = .standalone :=
  AgentState.recordFailure_dropped_iff a.state a.policy.missedThreshold

/-- A failure leaves an agent registered unless it makes the agent go on alone. -/
theorem failed_registered_iff (a : Agent) :
    a.failed.state.phase = .registered ↔
      a.state.phase = .registered ∧ a.drops = false := by
  have hreached := AgentState.recordFailure_registered_iff a.state
    a.policy.missedThreshold
  have hne := a.failed_phase_ne
  constructor
  · intro hphase
    refine ⟨(hreached.mp hphase).1, ?_⟩
    cases hdrops : a.drops with
    | false => rfl
    | true =>
        rw [((drops_iff a).mp hdrops).2] at hphase
        cases hphase
  · rintro ⟨hphase, hdrops⟩
    cases hlater : a.failed.state.phase with
    | registered => rfl
    | unregistered => exact absurd hlater hne
    | standalone =>
        rw [(drops_iff a).mpr ⟨hphase, hlater⟩] at hdrops
        cases hdrops

theorem failed_lastPayload (a : Agent) :
    a.failed.state.lastPayload = a.state.lastPayload := by
  simp only [failed, AgentState.recordFailure]
  split
  · split <;> rfl
  · rfl
  · rfl

/-- Failures make an agent forget its bindings, but never know others. -/
theorem failed_applied (a : Agent) :
    a.failed.memory.applied = none ∨ a.failed.memory.applied = a.memory.applied := by
  simp only [failed]
  split
  · exact Or.inl rfl
  · exact Or.inr rfl

theorem failed_settledAlone (a : Agent) : a.failed.settledAlone = a.failed := by
  rw [settledAlone, if_neg a.failed_phase_ne]

theorem reconciled_settledAlone (a : Agent) (h : Heap) (now : Timestamp) (b : Bindings) :
    (a.reconciled h now b).settledAlone = a.reconciled h now b := by
  rw [settledAlone, if_neg (by simp [reconciled, AgentState.recordSuccess])]

theorem afterHeartbeat_ok (a : Agent) (h : Heap) (now : Timestamp) (force : Bool)
    {answer : Except MeshError RegistrationResponse} {b : Bindings}
    (hb : bindingsOf answer = .ok b) :
    ∃ later : Heap, a.Rebinds b (a.mustApply h b force) h later ∧
      a.afterHeartbeat h now force answer =
        (a.reconciled h now b, later, .ended (.reconciled (a.mustApply h b force))) := by
  cases answer with
  | error e => simp [bindingsOf, Except.bind] at hb
  | ok response =>
      obtain ⟨later, hlater, heq⟩ := reconcile_ok a h now response hb force
      refine ⟨later, hlater, ?_⟩
      simp only [afterHeartbeat, heq]

theorem afterHeartbeat_error (a : Agent) (h : Heap) (now : Timestamp) (force : Bool)
    {answer : Except MeshError RegistrationResponse} {e : MeshError}
    (he : bindingsOf answer = .error e) :
    a.afterHeartbeat h now force answer =
      ((a.onError h e).1, (a.onError h e).2.1, .ended (a.onError h e).2.2) := by
  cases answer with
  | error first =>
      obtain rfl : first = e := by simpa [bindingsOf, Except.bind] using he
      rfl
  | ok response =>
      have hreconcile := reconcile_error a h now response he force
      simp only [afterHeartbeat, hreconcile]

/-- A registration goes on like a heartbeat that applies its bindings in any case.
If it fails, the agent is left on its own. -/
theorem afterRegister_eq (a : Agent) (h : Heap) (now : Timestamp)
    (answer : Except MeshError RegistrationResponse) :
    ∃ later : Heap, later.Alike (a.afterHeartbeat h now true answer).2.1 ∧
      a.afterRegister h now answer =
        ((a.afterHeartbeat h now true answer).1.settledAlone, later,
          (a.afterHeartbeat h now true answer).2.2) := by
  cases answer with
  | error e => exact ⟨_, Heap.ite_note_alike _ _ _, rfl⟩
  | ok response => exact ⟨_, Heap.ite_note_alike _ _ _, rfl⟩

theorem beginRegister_spec (a : Agent) (h : Heap) (now : Timestamp)
    (hpolicy : a.policy.standalone = false) :
    ∃ later : Heap, later.Alike h ∧
      a.beginRegister h now =
        (a.declaring h, later, .register ⟨a.identity.agentId, now, a.metadata h⟩) := by
  obtain ⟨later, hlater, heq⟩ := buildRequest_spec a (Heap.Alike.refl h) now
  rw [beginRegister, if_neg (by simp [hpolicy]), heq]
  exact ⟨_, (Heap.note_alike later _).trans hlater, rfl⟩

/-- Where the registry reports no change, bindings are known and there is nothing new
to declare, a heartbeat is over. -/
theorem afterProbe_unchanged (a : Agent) (h : Heap) (now : Timestamp) {b : Bindings}
    (hb : a.memory.applied = some b) (hsame : a.declarationsChanged h = false) :
    ∃ later : Heap,
      a.Rebinds b (decide (a.memory.generation ≠ h.injector.generation)) h later ∧
      a.afterProbe h now (.status 200) =
        (a.refreshed h now, later, .ended .unchanged) := by
  have hstatus : HeartbeatStatus.classify (.status 200) = .ok .noChanges := rfl
  have haction : HeartbeatStatus.noChanges.action = .skip := rfl
  have hnoted := Heap.note_alike h (.debug
    s!"[HEARTBEAT] Fast heartbeat for {a.identity.agentId}: {HeartbeatStatus.noChanges.name}")
  simp only [afterProbe, hstatus]
  generalize h.note (.debug
    s!"[HEARTBEAT] Fast heartbeat for {a.identity.agentId}: {HeartbeatStatus.noChanges.name}")
    = noted at hnoted ⊢
  obtain ⟨later, hlater, heq⟩ := refreshBindings_spec a hnoted hb
  refine ⟨later, hlater, ?_⟩
  rw [haction]
  simp only [hb, Option.isNone_some, declarationsChanged_alike a hnoted, hsame, heq,
    Bool.false_eq_true, if_false]
  rw [refreshed, ← hb]

/-- What a probe's reply leads to: an error or a failure, a full heartbeat, or, if
the registry reports no change and there is nothing new to declare, the end. -/
theorem afterProbe_spec (a : Agent) (h : Heap) (now : Timestamp) (reply : ProbeReply) :
    (∃ later : Heap, later.Alike h ∧
      ((∃ status, a.afterProbe h now reply =
          (a.failed, later, .ended (.degraded status a.failed.state.failures a.drops))) ∨
        ∃ message, a.afterProbe h now reply =
          (a, later, .ended (.contractViolation message)))) ∨
    (∃ (later : Heap) (force : Bool), later.Alike h ∧
      a.afterProbe h now reply =
        (a.declaring h, later,
          .heartbeat ⟨a.identity.agentId, now, a.metadata h⟩ force)) ∨
    ∃ (b : Bindings) (later : Heap), reply = .status 200 ∧ a.memory.applied = some b ∧
      a.declarationsChanged h = false ∧
      a.Rebinds b (decide (a.memory.generation ≠ h.injector.generation)) h later ∧
      a.afterProbe h now reply = (a.refreshed h now, later, .ended .unchanged) := by
  cases hstatus : HeartbeatStatus.classify reply with
  | error e =>
      left
      obtain ⟨later, hlater, ⟨status, heq⟩ | heq⟩ := onError_spec a h e
      · exact ⟨later, hlater, Or.inl ⟨status, by simp only [afterProbe, hstatus, heq]⟩⟩
      · exact ⟨later, hlater,
          Or.inr ⟨e.message, by simp only [afterProbe, hstatus, heq]⟩⟩
  | ok status =>
      have hnoted := Heap.note_alike h (.debug
        s!"[HEARTBEAT] Fast heartbeat for {a.identity.agentId}: {status.name}")
      cases haction : status.action with
      | retry =>
          left
          obtain ⟨later, hlater, heq⟩ := fail_spec a _ status (probeReason reply)
          refine ⟨later, hlater.trans hnoted, Or.inl ⟨status, ?_⟩⟩
          simp only [afterProbe, hstatus, haction, heq]
      | fullHeartbeat =>
          right
          left
          simp only [afterProbe, hstatus, haction]
          exact fullHeartbeat_spec a hnoted now status
      | skip =>
          right
          have hreply := classify_skip hstatus haction
          cases hb : a.memory.applied with
          | none =>
              left
              simp only [afterProbe, hstatus, haction, hb]
              exact fullHeartbeat_spec a hnoted now status
          | some b =>
              cases hsame : a.declarationsChanged h with
              | true =>
                  left
                  simp only [afterProbe, hstatus, haction, hb, Option.isNone_some,
                    declarationsChanged_alike a hnoted, hsame, Bool.false_eq_true,
                    if_false, if_true]
                  exact fullHeartbeat_spec a ((Heap.note_alike _ _).trans hnoted) now
                    status
              | false =>
                  right
                  obtain ⟨later, hlater, heq⟩ := afterProbe_unchanged a h now hb hsame
                  rw [hreply]
                  exact ⟨b, later, rfl, rfl, rfl, hlater, heq⟩

end Agent

end CapabilityMesh
