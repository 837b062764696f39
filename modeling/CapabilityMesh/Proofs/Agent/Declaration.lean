/-
What an agent compares its tools with.  It is the declaration that was built last, and
not the one that was reconciled last.  A declaration that was built and lost is not
sent again, and the heartbeat says that nothing changed.
-/
import CapabilityMesh.Proofs.Agent.Run
import CapabilityMesh.Proofs.Wire.Declaration

namespace CapabilityMesh

namespace AgentRun

/-- What an agent remembers of its declarations. -/
structure Declared (r : AgentRun) : Prop where
  payload : r.agent.state.lastPayload =
    r.history.lastBuilt?.map AgentMetadata.toJson
  reconciled : r.agent.memory.applied.isSome = true →
    r.history.lastReconciled?.isSome = true

theorem start_declared (identity : AgentIdentity) (policy : HeartbeatPolicy) :
    (start identity policy).Declared := by
  refine ⟨rfl, ?_⟩
  intro happlied
  cases happlied

/-- The memory of declarations lasts where nothing is built and nothing reconciled. -/
theorem Declared.of_same {r next : AgentRun} (hr : r.Declared)
    (hpayload : next.agent.state.lastPayload = r.agent.state.lastPayload)
    (happlied : next.agent.memory.applied = none ∨
      next.agent.memory.applied = r.agent.memory.applied)
    (hhistory : next.history = r.history ∨ ∃ m : Milestone,
      next.history = m :: r.history ∧ m.built? = none ∧ m.reconciled? = none) :
    next.Declared := by
  have hread : next.history.lastBuilt? = r.history.lastBuilt? ∧
      next.history.lastReconciled? = r.history.lastReconciled? := by
    rcases hhistory with heq | ⟨m, heq, hbuilt, hreconciled⟩
    · rw [heq]
      exact ⟨rfl, rfl⟩
    · rw [heq, History.lastBuilt?_cons, History.lastReconciled?_cons, hbuilt, hreconciled]
      exact ⟨rfl, rfl⟩
  constructor
  · rw [hpayload, hread.1]
    exact hr.payload
  · intro hknown
    rw [hread.2]
    apply hr.reconciled
    rcases happlied with hnone | hsame
    · rw [hnone] at hknown
      cases hknown
    · rw [← hsame]
      exact hknown

theorem Declared.of_built {r next : AgentRun} (hr : r.Declared) {metadata : AgentMetadata}
    (hmetadata : metadata = r.agent.metadata r.heap)
    (hagent : next.agent = r.agent.declaring r.heap)
    (hhistory : next.history = .built metadata :: r.history) : next.Declared := by
  constructor
  · rw [hagent, hhistory, History.lastBuilt?_cons, hmetadata]
    rfl
  · intro hknown
    rw [hagent] at hknown
    rw [hhistory, History.lastReconciled?_cons]
    exact hr.reconciled hknown

theorem Declared.of_reconciled {r next : AgentRun} (hr : r.Declared) {m : Milestone}
    (hpayload : next.agent.state.lastPayload = r.agent.state.lastPayload)
    (hbuilt : m.built? = none) (hreconciled : m.reconciled?.isSome = true)
    (hhistory : next.history = m :: r.history) : next.Declared := by
  constructor
  · rw [hpayload, hhistory, History.lastBuilt?_cons, hbuilt]
    exact hr.payload
  · intro _
    rw [hhistory, History.lastReconciled?_cons, Option.isSome_or, hreconciled]
    rfl

theorem Turn.declared_kept {r next : AgentRun} {e : AgentEvent} (hturn : Turn r e next)
    (hr : r.Declared) : next.Declared := by
  cases hturn with
  | still => exact hr
  | deed d => exact hr.of_same rfl (Or.inr rfl) (Or.inl rfl)
  | built hlater => exact hr.of_built rfl rfl rfl
  | probing hpolicy => exact hr.of_same rfl (Or.inr rfl) (Or.inl rfl)
  | declared hopen hrequest hmetadata hlater => exact hr.of_built hmetadata rfl rfl
  | inFlight hlater => exact hr.of_same rfl (Or.inr rfl) (Or.inr ⟨_, rfl, rfl, rfl⟩)
  | disabled hpolicy hstate hlater =>
      rcases hstate with rfl | rfl
      · exact hr.of_same rfl (Or.inr rfl) (Or.inr ⟨_, rfl, rfl, rfl⟩)
      · exact hr.of_same rfl (Or.inr rfl) (Or.inr ⟨_, rfl, rfl, rfl⟩)
  | unchanged hcall happlied hsame hlater =>
      exact hr.of_same rfl (Or.inr rfl) (Or.inr ⟨_, rfl, rfl, rfl⟩)
  | reconciled hcall hrequest hb hlater =>
      exact hr.of_reconciled rfl rfl rfl rfl
  | degraded hcall hlater =>
      exact hr.of_same r.agent.failed_lastPayload r.agent.failed_applied
        (Or.inr ⟨_, rfl, rfl, rfl⟩)
  | violated hcall hagent hlater =>
      rcases hagent with rfl | rfl
      · exact hr.of_same rfl (Or.inr rfl) (Or.inr ⟨_, rfl, rfl, rfl⟩)
      · have hmemory := congrArg CycleMemory.applied r.agent.settledAlone_memory
        exact hr.of_same r.agent.settledAlone_lastPayload (Or.inr hmemory)
          (Or.inr ⟨_, rfl, rfl, rfl⟩)
  | abandoned => exact hr.of_same rfl (Or.inr rfl) (Or.inl rfl)
  | left hlater => exact hr.of_same rfl (Or.inr rfl) (Or.inr ⟨_, rfl, rfl, rfl⟩)

theorem run_declared (identity : AgentIdentity) (policy : HeartbeatPolicy)
    (events : List AgentEvent) : (run identity policy events).Declared :=
  run_induction (start_declared identity policy)
    fun _ _ _ _ hturn hr => hturn.declared_kept hr

/-- There is nothing new to declare exactly if the tools are those of the declaration
that was built last. -/
theorem Declared.unchanged_iff {r : AgentRun} (hr : r.Declared) :
    r.agent.declarationsChanged r.heap = false ↔
      r.history.lastBuilt? = some (r.agent.metadata r.heap) := by
  rw [Agent.declarationsChanged, decide_eq_false_iff_not, ne_eq, not_not, hr.payload]
  constructor
  · intro hsame
    cases hbuilt : r.history.lastBuilt? with
    | none =>
        rw [hbuilt] at hsame
        cases hsame
    | some built =>
        rw [hbuilt, Option.map_some, Option.some.injEq, AgentMetadata.toJson_inj] at hsame
        rw [hsame]
  · intro hbuilt
    rw [hbuilt, Option.map_some]

theorem metadata_eq_iff {a other : Agent} (hidentity : other.identity = a.identity)
    (h later : Heap) :
    other.metadata later = a.metadata h ↔
      later.injector.declaredTools.map Tool.declare =
        h.injector.declaredTools.map Tool.declare := by
  simp only [Agent.metadata, hidentity, AgentMetadata.mk.injEq, true_and]

/-- What a heartbeat that ends without any change says of declarations: the tools that
it looked at are those that were declared last.  If it leaves them so, they are those
that the registry reconciled last exactly if no other declaration was built since; and
if none was, exactly if the heartbeat leaves the tools as they were. -/
theorem unchanged_declares_last_built (identity : AgentIdentity)
    (policy : HeartbeatPolicy) (events : List AgentEvent) (e : AgentEvent) :
    let r := run identity policy events
    let next := r.step e
    let toolsKept := next.heap.injector.declaredTools.map Tool.declare =
      r.heap.injector.declaredTools.map Tool.declare
    Ended r next .unchanged → ∃ built c,
      r.history.lastBuilt? = some built ∧ next.history.lastReconciled? = some c ∧
        r.agent.metadata r.heap = built ∧
        (toolsKept →
          (next.agent.metadata next.heap = c.metadata ↔ built = c.metadata)) ∧
        (built = c.metadata →
          (next.agent.metadata next.heap = c.metadata ↔ toolsKept)) := by
  intro r next toolsKept hended
  have hr : r.Declared := run_declared identity policy events
  have hturn : Turn r e next := step_turn r e
  have hmetadata : next.agent.metadata next.heap = r.agent.metadata r.heap ↔ toolsKept :=
    metadata_eq_iff hturn.identity_eq r.heap next.heap
  obtain ⟨happlied, hsame⟩ := hturn.unchanged_only hended
  have hlast : next.history.lastReconciled? = r.history.lastReconciled? := by
    obtain ⟨consulted, hhistory⟩ := hended
    rw [hhistory, History.lastReconciled?_cons]
    rfl
  obtain ⟨c, hc⟩ := Option.isSome_iff_exists.mp (hr.reconciled happlied)
  refine ⟨r.agent.metadata r.heap, c, hr.unchanged_iff.mp hsame, hlast.trans hc, rfl,
    ?_, ?_⟩
  · intro hkept
    rw [hmetadata.mpr hkept]
  · intro hbuilt
    rw [← hbuilt]
    exact hmetadata

/-- An agent registers, wraps a function, and declares it. -/
def declaring : List AgentEvent :=
  [.register sampleTime, .answered sampleTime sampleAnswer,
    .deed (.wrap (.named "greet") .blocking .text []),
    .tick, .probed sampleTime (.status 200),
    .answered sampleTime sampleAnswer, .tick]

def keepingDeclaration : AgentRun :=
  run sampleIdentity {} declaring

theorem unchanged_after_kept_declaration :
    Ended keepingDeclaration (keepingDeclaration.step (.probed sampleTime (.status 200)))
        .unchanged ∧
      ∃ c,
        (keepingDeclaration.step
          (.probed sampleTime (.status 200))).history.lastReconciled? = some c ∧
        (keepingDeclaration.step (.probed sampleTime (.status 200))).agent.metadata
          (keepingDeclaration.step (.probed sampleTime (.status 200))).heap =
            c.metadata := by
  obtain ⟨hcall, happlied, hsame, hkept, hreconciled⟩ :
      keepingDeclaration.call = some .probe ∧
      keepingDeclaration.agent.memory.applied.isSome = true ∧
      keepingDeclaration.agent.declarationsChanged keepingDeclaration.heap = false ∧
      (keepingDeclaration.step
        (.probed sampleTime (.status 200))).heap.injector.declaredTools.map Tool.declare =
          keepingDeclaration.heap.injector.declaredTools.map Tool.declare ∧
      (keepingDeclaration.step
        (.probed sampleTime (.status 200))).history.lastReconciled?.map
          Consultation.metadata = keepingDeclaration.history.lastBuilt? := by
    decide +kernel
  obtain ⟨-, hended⟩ := step_unchanged sampleTime hcall happlied hsame
  have hlaw := unchanged_declares_last_built sampleIdentity {} declaring
    (.probed sampleTime (.status 200))
  rw [show run sampleIdentity {} declaring = keepingDeclaration from rfl] at hlaw
  obtain ⟨built, c, hbuilt, hc, -, hiff, -⟩ := hlaw hended
  refine ⟨hended, c, hc, (hiff hkept).mpr ?_⟩
  have hmap := congrArg (Option.map Consultation.metadata) hc
  have hsomes : some built = some c.metadata :=
    hbuilt.symm.trans (hreconciled.symm.trans hmap)
  exact Option.some.inj hsomes

/-- An agent registers, wraps a function, and fails to declare it. -/
def losingDeclaration : AgentRun :=
  run sampleIdentity {}
    [.register sampleTime, .answered sampleTime sampleAnswer,
      .deed (.wrap (.named "greet") .blocking .text []),
      .tick, .probed sampleTime (.status 200),
      .answered sampleTime (.error (.transport "down")), .tick]

/-- The heartbeat behind a declaration that was lost ends without any change, although
the registry never heard of the function. -/
theorem unchanged_after_lost_declaration :
    Ended losingDeclaration (losingDeclaration.step (.probed sampleTime (.status 200)))
        .unchanged ∧
      ∃ c,
        (losingDeclaration.step
          (.probed sampleTime (.status 200))).history.lastReconciled? = some c ∧
        (losingDeclaration.step (.probed sampleTime (.status 200))).agent.metadata
          (losingDeclaration.step (.probed sampleTime (.status 200))).heap ≠
            c.metadata := by
  obtain ⟨hcall, happlied, hsame, hdiffers⟩ :
      losingDeclaration.call = some .probe ∧
      losingDeclaration.agent.memory.applied.isSome = true ∧
      losingDeclaration.agent.declarationsChanged losingDeclaration.heap = false ∧
      (losingDeclaration.step
        (.probed sampleTime (.status 200))).history.lastReconciled?.map
          (fun c => decide ((losingDeclaration.step
            (.probed sampleTime (.status 200))).agent.metadata
              (losingDeclaration.step (.probed sampleTime (.status 200))).heap ≠
                c.metadata)) = some true := by
    decide +kernel
  obtain ⟨-, hended⟩ := step_unchanged sampleTime hcall happlied hsame
  obtain ⟨c, hc, hne⟩ := Option.map_eq_some_iff.mp hdiffers
  exact ⟨hended, c, hc, of_decide_eq_true hne⟩

end AgentRun

end CapabilityMesh
