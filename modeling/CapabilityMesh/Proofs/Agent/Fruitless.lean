/-
Registrations and heartbeats of which nothing comes: the registry is not called, or not
reached, or it breaks the protocol.  Whatever the application does while the agent waits,
such an operation has no effect on the injector, and the agent forgets its bindings only
where it goes on alone.
-/
import CapabilityMesh.Proofs.Agent.Logging
import CapabilityMesh.Proofs.Agent.Standing
import CapabilityMesh.Proofs.Wire.Bindings

namespace CapabilityMesh

namespace TickOutcome

/-- Whether nothing came of a registration or of a heartbeat. -/
def isFruitless : TickOutcome → Bool
  | inFlight | disabled | degraded _ _ _ | contractViolation _ => true
  | unchanged | reconciled _ => false

/-- Whether an outcome says that the agent goes on alone. -/
def saysDropped : TickOutcome → Bool
  | degraded _ _ dropped => dropped
  | _ => false

def leaves (outcome : TickOutcome) (memory : CycleMemory) : CycleMemory :=
  if outcome.saysDropped then { memory with applied := none } else memory

end TickOutcome

namespace RegistrationResponse

/-- An answer that marks a dependency as resolved without saying by what is unsound,
wherever that dependency stands, and to try again is no use. -/
theorem bindings_unsound {r : RegistrationResponse} {f : FunctionResolution}
    (hf : f ∈ r.functions) {d : ResolvedDependency} (hd : d ∈ f.dependencies)
    (hresolved : d.status = .resolved) (hprovider : d.provider = none) :
    ∃ e, Agent.bindingsOf (.ok r) = .error e ∧ e.isRetryable = false := by
  obtain ⟨e, herror⟩ := r.bindings_fail_iff.mpr ⟨f, hf, d, hd, hresolved, hprovider⟩
  exact ⟨e, herror, bindings_final herror⟩

end RegistrationResponse

/-- The deeds that the application does among events, in their order. -/
def deedsOf (events : List AgentEvent) : List Deed :=
  events.filterMap fun
    | .deed d => some d
    | _ => none

theorem deedsOf_append (events more : List AgentEvent) :
    deedsOf (events ++ more) = deedsOf events ++ deedsOf more := by
  rw [deedsOf, List.filterMap_append]
  rfl

/-- Deeds do the same to heaps that differ at most in their lines. -/
theorem Heap.Alike.performAll {h other : Heap} (halike : h.Alike other)
    (deeds : List Deed) :
    (deeds.foldl Deed.perform h).Alike (deeds.foldl Deed.perform other) := by
  induction deeds generalizing h other with
  | nil => exact halike
  | cons d deeds ih => exact ih (halike.perform d)

namespace AgentRun

variable {r next : AgentRun} {e : AgentEvent} {outcome : TickOutcome}

/-- The agent gets from one state to another with nothing but the application's deeds
done to the heap.  It may have declared its functions and taken its leave. -/
structure Untouched (r : AgentRun) (events : List AgentEvent) (next : AgentRun) :
    Prop where
  heap : next.heap.Alike ((deedsOf events).foldl Deed.perform r.heap)
  memory : next.agent.memory = r.agent.memory
  failures : next.agent.state.failures = r.agent.state.failures
  heartbeats : next.agent.state.heartbeats = r.agent.state.heartbeats
  lastHeartbeat : next.agent.state.lastHeartbeat = r.agent.state.lastHeartbeat
  phase : (∀ answer, AgentEvent.farewell answer ∉ events) →
    next.agent.state.phase = r.agent.state.phase

theorem Untouched.refl (r : AgentRun) : Untouched r [] r :=
  ⟨Heap.Alike.refl _, rfl, rfl, rfl, rfl, fun _ => rfl⟩

theorem Untouched.trans {mid : AgentRun} {events more : List AgentEvent}
    (hfirst : Untouched r events mid) (hsecond : Untouched mid more next) :
    Untouched r (events ++ more) next where
  heap := by
    rw [deedsOf_append, List.foldl_append]
    exact hsecond.heap.trans (hfirst.heap.performAll _)
  memory := hsecond.memory.trans hfirst.memory
  failures := hsecond.failures.trans hfirst.failures
  heartbeats := hsecond.heartbeats.trans hfirst.heartbeats
  lastHeartbeat := hsecond.lastHeartbeat.trans hfirst.lastHeartbeat
  phase := by
    intro hstays
    have hbefore := hfirst.phase fun answer hmem =>
      hstays answer (List.mem_append_left more hmem)
    have hafter := hsecond.phase fun answer hmem =>
      hstays answer (List.mem_append_right events hmem)
    exact hafter.trans hbefore

/-- As long as an operation waits for the registry, nothing else touches the agent. -/
theorem step_untouched (hpolicy : r.agent.policy.standalone = false)
    (hopen : (r.step e).call.isSome = true) : Untouched r [e] (r.step e) := by
  by_cases hdeed : ∃ d, e = .deed d
  · obtain ⟨d, rfl⟩ := hdeed
    exact ⟨Heap.Alike.refl _, rfl, rfl, rfl, rfl, fun _ => rfl⟩
  · have hnone : deedsOf [e] = [] := by
      cases e with
      | deed d => exact absurd ⟨d, rfl⟩ hdeed
      | _ => rfl
    have hturn := step_turn r e
    generalize r.step e = next at hturn hopen ⊢
    have hquiet : next.heap.Alike r.heap →
        next.heap.Alike ((deedsOf [e]).foldl Deed.perform r.heap) := by
      rw [hnone]
      exact id
    cases hturn with
    | still => exact ⟨hquiet (Heap.Alike.refl _), rfl, rfl, rfl, rfl, fun _ => rfl⟩
    | deed d => exact absurd ⟨d, rfl⟩ hdeed
    | built hlater => exact ⟨hquiet hlater, rfl, rfl, rfl, rfl, fun _ => rfl⟩
    | probing => exact ⟨hquiet (Heap.Alike.refl _), rfl, rfl, rfl, rfl, fun _ => rfl⟩
    | declared _ _ _ hlater => exact ⟨hquiet hlater, rfl, rfl, rfl, rfl, fun _ => rfl⟩
    | inFlight hlater => exact ⟨hquiet hlater, rfl, rfl, rfl, rfl, fun _ => rfl⟩
    | disabled hstandalone =>
        rw [hpolicy] at hstandalone
        cases hstandalone
    | unchanged | reconciled | degraded | violated | abandoned => cases hopen
    | @left answer later hlater =>
        refine ⟨hquiet hlater, rfl, rfl, rfl, rfl, ?_⟩
        intro hstays
        exact absurd List.mem_cons_self (hstays answer)

theorem not_ended_of_same (hhistory : next.history = r.history) : ¬ Ended r next outcome := by
  rintro ⟨consulted, hended⟩
  exact List.cons_ne_self _ _ (hended.symm.trans hhistory)

/-- A registration or a heartbeat of which nothing comes leaves the heap as it is, and the
memory as its outcome says. -/
theorem Turn.fruitless (hturn : Turn r e next) (hended : Ended r next outcome)
    (hfruitless : outcome.isFruitless = true) :
    next.heap.Alike r.heap ∧ next.agent.memory = outcome.leaves r.agent.memory := by
  cases hturn with
  | still | deed | probing | abandoned =>
      exact absurd hended (not_ended_of_same rfl)
  | built | declared | left =>
      obtain ⟨consulted, hhistory⟩ := hended
      simp at hhistory
  | inFlight hlater =>
      obtain rfl := hended.unique ⟨_, rfl⟩
      exact ⟨hlater, rfl⟩
  | disabled _ _ hlater =>
      obtain rfl := hended.unique ⟨_, rfl⟩
      exact ⟨hlater, rfl⟩
  | unchanged | reconciled =>
      obtain rfl := hended.unique ⟨_, rfl⟩
      cases hfruitless
  | degraded _ hlater =>
      obtain rfl := hended.unique ⟨_, rfl⟩
      refine ⟨hlater, ?_⟩
      cases hdrops : r.agent.drops with
      | true => simp [Agent.failed, TickOutcome.leaves, TickOutcome.saysDropped, hdrops]
      | false => simp [Agent.failed, TickOutcome.leaves, TickOutcome.saysDropped, hdrops]
  | violated _ hagent hlater =>
      obtain rfl := hended.unique ⟨_, rfl⟩
      refine ⟨hlater, ?_⟩
      rcases hagent with rfl | rfl
      · rfl
      · exact r.agent.settledAlone_memory

/-- A call stays open until the registry answers or the operation is broken off. -/
theorem step_call (hopen : r.call.isSome = true) (e : AgentEvent) :
    (r.step e).call = r.call ∨ (∃ now reply, e = .probed now reply) ∨
      (∃ now answer, e = .answered now answer) ∨ e = .abandoned := by
  cases e with
  | deed | build => exact Or.inl rfl
  | register now =>
      rw [step, if_pos hopen]
      exact Or.inl rfl
  | tick =>
      rw [step, hopen, Agent.beginTick]
      split
      · exact Or.inl rfl
      · exact Or.inl rfl
  | probed now reply => exact Or.inr (Or.inl ⟨now, reply, rfl⟩)
  | answered now answer => exact Or.inr (Or.inr (Or.inl ⟨now, answer, rfl⟩))
  | abandoned => exact Or.inr (Or.inr (Or.inr rfl))
  | farewell answer =>
      rw [step]
      split
      · exact Or.inl rfl
      · exact Or.inl rfl

/-- Whether the answer to a registration is awaited. -/
def isRegistering (r : AgentRun) : Bool :=
  match r.call with
  | some (.register _) => true
  | _ => false

/-- A heartbeat that waits for the registry does not turn into a registration. -/
theorem step_isRegistering (hopen : r.call.isSome = true)
    (hheartbeat : r.isRegistering = false) (e : AgentEvent) :
    (r.step e).isRegistering = false := by
  rcases step_call hopen e with
    hsame | ⟨now, reply, rfl⟩ | ⟨now, answer, rfl⟩ | rfl
  · rw [isRegistering, hsame]
    exact hheartbeat
  · rw [step]
    split
    · rcases r.agent.afterProbe_spec r.heap now reply with
        ⟨later, -, ⟨status, heq⟩ | ⟨message, heq⟩⟩ | ⟨later, force, -, heq⟩ |
          ⟨b, later, -, -, -, -, heq⟩
      all_goals
        rw [heq]
        rfl
    · exact hheartbeat
  · rw [step]
    split
    · rename_i request hcall
      rw [isRegistering, hcall] at hheartbeat
      cases hheartbeat
    · rfl
    · exact hheartbeat
  · rfl

/-- A heartbeat that finds the registry to break the protocol leaves the agent as it
is. -/
theorem step_violated {message : String} (hopen : r.call.isSome = true)
    (hheartbeat : r.isRegistering = false) (hclosed : (r.step e).call = none)
    (hended : Ended r (r.step e) (.contractViolation message)) :
    (r.step e).agent = r.agent := by
  rcases step_call hopen e with
    hsame | ⟨now, reply, rfl⟩ | ⟨now, answer, rfl⟩ | rfl
  · rw [← hsame, hclosed] at hopen
    cases hopen
  · rw [step] at hended ⊢
    split at hended
    · rcases r.agent.afterProbe_spec r.heap now reply with
        ⟨later, -, ⟨status, heq⟩ | ⟨broken, heq⟩⟩ | ⟨later, force, -, heq⟩ |
          ⟨b, later, -, -, -, -, heq⟩
      all_goals rw [heq] at hended ⊢
      · cases hended.unique ⟨_, rfl⟩
      · rfl
      · obtain ⟨consulted, hhistory⟩ := hended
        simp [follow] at hhistory
      · cases hended.unique ⟨_, rfl⟩
    · exact absurd hended (not_ended_of_same rfl)
  · rw [step] at hended ⊢
    split at hended
    · rename_i request hcall
      rw [isRegistering, hcall] at hheartbeat
      cases hheartbeat
    · rename_i request force hcall
      cases hb : Agent.bindingsOf answer with
      | ok b =>
          obtain ⟨later, -, heq⟩ := r.agent.afterHeartbeat_ok r.heap now force hb
          rw [heq] at hended
          cases hended.unique ⟨_, rfl⟩
      | error first =>
          have hanswer := r.agent.afterHeartbeat_error r.heap now force hb
          obtain ⟨later, -, ⟨status, heq⟩ | heq⟩ := r.agent.onError_spec r.heap first
          · rw [hanswer, heq] at hended
            cases hended.unique ⟨_, rfl⟩
          · simp only [hanswer, heq]
            rfl
    · exact absurd hended (not_ended_of_same rfl)
  · exact absurd hended (not_ended_of_same rfl)

/-- A heartbeat ends at once only where it does not call the registry. -/
theorem tick_ended (hended : Ended r (r.step .tick) outcome) :
    outcome = .disabled ∨ outcome = .inFlight := by
  rw [step, Agent.beginTick] at hended
  split at hended
  · exact Or.inl (hended.unique ⟨_, rfl⟩)
  · split at hended
    · exact Or.inr (hended.unique ⟨_, rfl⟩)
    · exact absurd hended (not_ended_of_same rfl)

/-- Events through which an operation waits for the registry, the last of which ends it
with an outcome. -/
inductive Awaits : AgentRun → List AgentEvent → TickOutcome → Prop where
  | ends {r : AgentRun} {e : AgentEvent} {outcome : TickOutcome}
      (hended : Ended r (r.step e) outcome) (hclosed : (r.step e).call = none) :
      Awaits r [e] outcome
  | waiting {r : AgentRun} {e : AgentEvent} {events : List AgentEvent}
      {outcome : TickOutcome} (hopen : (r.step e).call.isSome = true)
      (hrest : Awaits (r.step e) events outcome) : Awaits r (e :: events) outcome

/-- A registration or a heartbeat that begins with an event.  It ends at once, or calls
the registry and ends with the last of the events that follow; any others may happen
before. -/
inductive Cycle (r : AgentRun) (first : AgentEvent) : List AgentEvent → TickOutcome → Prop
    where
  | atOnce {outcome : TickOutcome} (hended : Ended r (r.step first) outcome) :
      Cycle r first [] outcome
  | called {events : List AgentEvent} {outcome : TickOutcome} (hfree : r.call = none)
      (hopen : (r.step first).call.isSome = true)
      (hrest : Awaits (r.step first) events outcome) : Cycle r first events outcome

/-- An operation that waits has touched nothing until the event that ends it. -/
theorem Awaits.untouched {events : List AgentEvent} (hawaits : Awaits r events outcome)
    (hpolicy : r.agent.policy.standalone = false) (hopen : r.call.isSome = true) :
    ∃ before last, events = before ++ [last] ∧
      Untouched r before (before.foldl step r) ∧
      (before.foldl step r).call.isSome = true ∧
      (r.isRegistering = false → (before.foldl step r).isRegistering = false) ∧
      Ended (before.foldl step r) ((before.foldl step r).step last) outcome ∧
      ((before.foldl step r).step last).call = none := by
  induction hawaits with
  | @ends r e outcome hended hclosed =>
      exact ⟨[], e, rfl, Untouched.refl r, hopen, id, hended, hclosed⟩
  | @waiting r e events outcome hnext _ ih =>
      have hsame := (step_turn r e).policy_eq
      obtain ⟨before, last, rfl, huntouched, hwaits, hkind, hended, hclosed⟩ :=
        ih (by rw [hsame, hpolicy]) hnext
      refine ⟨e :: before, last, rfl, ?_, hwaits, ?_, hended, hclosed⟩
      · exact (step_untouched hpolicy hnext).trans huntouched
      · intro hheartbeat
        exact hkind (step_isRegistering hopen hheartbeat e)

theorem Ended.deedsOf (hended : Ended r (r.step e) outcome) : deedsOf [e] = [] := by
  cases e with
  | deed d => exact absurd hended (not_ended_of_same rfl)
  | _ => rfl

/-- In a run, a call is open only if the agent is meant to call the registry. -/
theorem policy_of_open (identity : AgentIdentity) (policy : HeartbeatPolicy)
    (events : List AgentEvent)
    (hopen : (run identity policy events).call.isSome = true) :
    (run identity policy events).agent.policy.standalone = false := by
  rw [Bool.eq_false_iff]
  intro hstandalone
  rw [((run_standing identity policy events).idle hstandalone).1] at hopen
  cases hopen

/-- In every run, a registration or a heartbeat of which nothing comes leaves the injector
as the application's own deeds make it, and the memory as its outcome says: the bindings
are forgotten exactly if the agent goes on alone.  A heartbeat that finds the registry to
break the protocol leaves the accounts as they were, and the phase too unless the agent
takes its leave meanwhile. -/
theorem fruitless_cycle_keeps_bindings (identity : AgentIdentity)
    (policy : HeartbeatPolicy) (events : List AgentEvent) (first : AgentEvent)
    (rest : List AgentEvent) (outcome : TickOutcome)
    (hbegins : first = .tick ∨ ∃ now, first = .register now)
    (hcycle : Cycle (run identity policy events) first rest outcome)
    (hfruitless : outcome.isFruitless = true) :
    let r := run identity policy events
    let later := run identity policy (events ++ first :: rest)
    later.heap.injector = ((deedsOf rest).foldl Deed.perform r.heap).injector ∧
    later.agent.memory = outcome.leaves r.agent.memory ∧
    (first = .tick → (∃ message, outcome = .contractViolation message) →
      later.agent.state.failures = r.agent.state.failures ∧
      later.agent.state.heartbeats = r.agent.state.heartbeats ∧
      later.agent.state.lastHeartbeat = r.agent.state.lastHeartbeat ∧
      ((∀ answer, AgentEvent.farewell answer ∉ rest) →
        later.agent.state.phase = r.agent.state.phase)) := by
  intro r later
  have hlater : later = rest.foldl step (r.step first) := by
    simp only [later, r, run, List.foldl_append, List.foldl_cons]
  have hdeeds : ∀ more, deedsOf (first :: more) = deedsOf more := by
    intro more
    rcases hbegins with rfl | ⟨now, rfl⟩
    · rfl
    · rfl
  rw [hlater]
  cases hcycle with
  | atOnce hended =>
      obtain ⟨hheap, hmemory⟩ := (step_turn r first).fruitless hended hfruitless
      refine ⟨hheap.injector, hmemory, ?_⟩
      rintro rfl ⟨message, rfl⟩
      rcases tick_ended hended with hother | hother
      · cases hother
      · cases hother
  | called hfree hopen hawaits =>
      have hpolicy : (r.step first).agent.policy.standalone = false := by
        have hrun := run_append identity policy events first
        rw [← hrun] at hopen ⊢
        exact policy_of_open identity policy _ hopen
      have hbegun : Untouched r [first] (r.step first) := by
        apply step_untouched _ hopen
        rw [← hpolicy, (step_turn r first).policy_eq]
      obtain ⟨before, last, rfl, hwaited, hwaits, hkind, hended, hclosed⟩ :=
        hawaits.untouched hpolicy hopen
      have huntouched := hbegun.trans hwaited
      rw [List.foldl_append, List.foldl_cons, List.foldl_nil]
      generalize before.foldl step (r.step first) = mid at *
      obtain ⟨hheap, hmemory⟩ := (step_turn mid last).fruitless hended hfruitless
      refine ⟨?_, by rw [hmemory, huntouched.memory], ?_⟩
      · rw [deedsOf_append, hended.deedsOf, List.append_nil, ← hdeeds before]
        exact (hheap.trans huntouched.heap).injector
      · rintro rfl ⟨message, rfl⟩
        have hheartbeat : mid.isRegistering = false := by
          apply hkind
          rw [step, hfree, Agent.beginTick]
          split
          · rw [isRegistering, follow, hfree]
          · rfl
        rw [step_violated hwaits hheartbeat hclosed hended]
        refine ⟨huntouched.failures, huntouched.heartbeats, huntouched.lastHeartbeat, ?_⟩
        intro hstays
        apply huntouched.phase
        intro answer hmem
        rcases List.mem_cons.mp hmem with hfirst | hbefore
        · cases hfirst
        · exact hstays answer (List.mem_append_left _ hbefore)

/-- Where a probe is not the end of a heartbeat, a declaration follows. -/
theorem probed_heartbeat {now : Timestamp} {reply : ProbeReply}
    (hcall : r.call = some .probe)
    (hopen : (r.step (.probed now reply)).call.isSome = true) :
    ∃ request force,
      (r.step (.probed now reply)).call = some (.heartbeat request force) := by
  rw [step, hcall] at hopen ⊢
  rcases r.agent.afterProbe_spec r.heap now reply with
    ⟨later, -, ⟨status, heq⟩ | ⟨message, heq⟩⟩ | ⟨later, force, -, heq⟩ |
      ⟨b, later, -, -, -, -, heq⟩
  all_goals simp only [heq, follow] at hopen ⊢
  · cases hopen
  · cases hopen
  · exact ⟨_, _, rfl⟩
  · cases hopen

/-- An answer whose bindings are unsound ends a heartbeat as a breach of the protocol. -/
theorem heartbeat_unsound {request : RegistrationRequest} {force : Bool}
    {answer : Except MeshError RegistrationResponse} {fault : MeshError} (now : Timestamp)
    (hcall : r.call = some (.heartbeat request force))
    (hfault : Agent.bindingsOf answer = .error fault) (hfinal : fault.isRetryable = false) :
    Ended r (r.step (.answered now answer)) (.contractViolation fault.message) ∧
      (r.step (.answered now answer)).call = none := by
  obtain ⟨later, -, heq⟩ := r.agent.onError_final r.heap hfinal
  have hanswer := r.agent.afterHeartbeat_error r.heap now force hfault
  rw [heq] at hanswer
  rw [step, hcall]
  simp only [hanswer, follow]
  exact ⟨⟨_, rfl⟩, trivial⟩

/-- A function with two dependencies, the first of which the registry binds. -/
def halfBound : List AgentEvent :=
  [.deed (.wrap (((Tool.named "greet").dependsOn (.on "date")).dependsOn (.on "time"))
      .blocking .text []),
    .register sampleTime,
    .answered sampleTime (.ok
      { status := "success"
        functions := [
          { function := "greet"
            dependencies := [
              { capability := "date"
                status := .resolved
                provider := some ⟨"o-1", "http://o", "today"⟩ }] }] })]

/-- An answer that binds the first dependency anew, and the second one to nothing. -/
def halfBroken : RegistrationResponse :=
  { status := "success"
    functions := [
      { function := "greet"
        dependencies := [
          { capability := "date"
            status := .resolved
            provider := some ⟨"p-1", "http://p", "now"⟩ },
          { capability := "time", status := .resolved }] }] }

/-- The first dependency keeps its value. -/
theorem half_broken_answer_binds_nothing :
    ∃ message, Cycle (run sampleIdentity {} halfBound) .tick
        [.probed sampleTime (.status 202), .answered sampleTime (.ok halfBroken)]
        (.contractViolation message) ∧
      (run sampleIdentity {} (halfBound ++
          [.tick, .probed sampleTime (.status 202),
            .answered sampleTime (.ok halfBroken)])).heap.injector =
        (run sampleIdentity {} halfBound).heap.injector := by
  obtain ⟨fault, hfault, hfinal⟩ := RegistrationResponse.bindings_unsound (r := halfBroken)
    List.mem_cons_self (List.mem_cons_of_mem _ List.mem_cons_self) rfl rfl
  have hfree : (run sampleIdentity {} halfBound).call = none := by decide +kernel
  have hprobe : ((run sampleIdentity {} halfBound).step .tick).call = some .probe := by
    decide +kernel
  have hopen : (((run sampleIdentity {} halfBound).step .tick).step
      (.probed sampleTime (.status 202))).call.isSome = true := by decide +kernel
  obtain ⟨request, force, hcall⟩ := probed_heartbeat hprobe hopen
  obtain ⟨hended, hclosed⟩ := heartbeat_unsound sampleTime hcall hfault hfinal
  have hcycle : Cycle (run sampleIdentity {} halfBound) .tick
      [.probed sampleTime (.status 202), .answered sampleTime (.ok halfBroken)]
      (.contractViolation fault.message) :=
    .called hfree (by rw [hprobe]; rfl) (.waiting hopen (.ends hended hclosed))
  exact ⟨fault.message, hcycle, (fruitless_cycle_keeps_bindings sampleIdentity {} halfBound
    .tick _ _ (Or.inl rfl) hcycle rfl).1⟩

end AgentRun

end CapabilityMesh
