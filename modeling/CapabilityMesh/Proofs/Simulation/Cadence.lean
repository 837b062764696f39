/-
The cadence of a heartbeat loop.  Its ticks keep to the schedule that begins when its
registration is over: none comes before the first period has passed, and a tick that comes
late, after however long a cycle, leaves out those that it has missed.  So every period has
one probe at most.
-/
import CapabilityMesh.Proofs.Simulation.Beside
import CapabilityMesh.Proofs.Simulation.Phases

namespace CapabilityMesh

/-- After a tick that came late, the next one is the first on schedule after it. -/
theorem Ticker.next_onSchedule {period start due now n : Nat} (hperiod : tolerance < period)
    (hdue : due = start + n * period) (hlate : due ≤ now) :
    ∃ later, n < later ∧ next period due now = start + later * period ∧
      now < next period due now ∧ next period due now ≤ now + period := by
  rw [next]
  split
  · -- The periods that passed since the tick was due, and the time since the last of them.
    obtain ⟨missed, rest, hrest, hpassed⟩ :
        ∃ missed rest, rest < period ∧ now = due + missed * period + rest := by
      refine ⟨(now - due) / period, (now - due) % period, Nat.mod_lt _ (by omega), ?_⟩
      have := Nat.div_add_mod' (now - due) period
      omega
    have hmod : (now - due) % period = rest := by
      rw [show now - due = rest + missed * period by omega, Nat.add_mul_mod_self_right,
        Nat.mod_eq_of_lt hrest]
    refine ⟨n + missed + 1, by omega, ?_, ?_, ?_⟩
    · rw [hmod, Nat.add_mul, Nat.add_mul]
      omega
    · omega
    · omega
  · rename_i hpunctual
    refine ⟨n + 1, Nat.lt_succ_self n, ?_, ?_, ?_⟩
    · rw [Nat.add_mul, hdue]
      omega
    · omega
    · omega

namespace Agent

/-! An agent probes the registry at the beginning of a tick only. -/

variable (a : Agent) (h : Heap) (now : Timestamp)

theorem beginRegister_ne_probe : (a.beginRegister h now).2.2 ≠ .probe := by
  cases hpolicy : a.policy.standalone with
  | true =>
      rw [beginRegister, if_pos hpolicy]
      simp
  | false =>
      obtain ⟨later, -, heq⟩ := a.beginRegister_spec h now hpolicy
      rw [heq]
      simp

theorem afterHeartbeat_ne_probe (force : Bool)
    (answer : Except MeshError RegistrationResponse) :
    (a.afterHeartbeat h now force answer).2.2 ≠ .probe := by
  obtain ⟨-, outcome, hended⟩ := a.afterHeartbeat_ends h now force answer
  rw [hended]
  simp

theorem afterRegister_ne_probe (answer : Except MeshError RegistrationResponse) :
    (a.afterRegister h now answer).2.2 ≠ .probe := by
  obtain ⟨-, outcome, hended⟩ := a.afterRegister_ends h now answer
  rw [hended]
  simp

theorem afterProbe_ne_probe (reply : ProbeReply) :
    (a.afterProbe h now reply).2.2 ≠ .probe := by
  rcases a.afterProbe_spec h now reply with
    ⟨later, -, ⟨status, heq⟩ | ⟨message, heq⟩⟩ | ⟨later, force, -, heq⟩ |
      ⟨b, later, -, -, -, -, heq⟩
  all_goals
    rw [heq]
    simp

end Agent

namespace Simulation

/-- Whether an event is the start of a probe: its arrival at the registry. -/
def Event.isProbe (e : Event) : Bool :=
  e.isArrival && e.call == .probe

/-- When the next tick of a loop is due, if the loop has a ticker. -/
def LoopStage.due? : LoopStage → Option Nat
  | idle due | ticking due _ => some due
  | starting | registering _ | parked | ended _ => none

/-- What is seen of a loop: when its registration was over, and when its probes started,
the latest first. -/
structure Cadence where
  registered : Option Nat := none
  probes : List Nat := []
deriving Repr, DecidableEq

namespace World

def probesHeard (w : World) : Nat :=
  w.events.countP Event.isProbe

/-- Whether the registration of a loop is not over. -/
def isRegistering (w : World) (loop : Nat) : Bool :=
  match w.task? loop with
  | some ⟨_, .loop _ _ stage⟩ => stage.isRegistering
  | _ => false

end World

namespace Cadence

/-- What is seen once the registration may be over, and so many probes have started. -/
def note (seen : Cadence) (now : Nat) (isOver : Bool) (probes : Nat) : Cadence where
  registered := if isOver then some now else seen.registered
  probes := List.replicate probes now ++ seen.probes

/-- What is seen of a loop once it has taken a step. -/
def observe (seen : Cadence) (loop : Nat) (w next : World) : Cadence :=
  seen.note w.now (w.isRegistering loop && !next.isRegistering loop)
    (next.probesHeard - w.probesHeard)

/-- What is seen of a loop while choices are made.  The probes of other tasks are not its
own. -/
def watch (loop : Nat) : World → Cadence → List Choice → Cadence
  | _, seen, [] => seen
  | w, seen, choice :: choices =>
      let next := w.choose choice
      watch loop next
        (if choice.isStepOf loop then seen.observe loop w next else seen) choices

end Cadence

/-- Times that keep to a period: none comes before the first period from `start` on has
passed, and there is one at most in every period. -/
structure Paced (period start : Nat) (times : List Nat) : Prop where
  first : ∀ t ∈ times, start + period ≤ t
  apart : ∀ k, (times.filter fun t =>
    start + k * period ≤ t ∧ t < start + (k + 1) * period).length ≤ 1

theorem paced_nil (period start : Nat) : Paced period start [] :=
  ⟨by simp, by simp⟩

theorem Paced.cons {period start now n : Nat} {times : List Nat}
    (h : Paced period start times) (hfirst : 0 < n)
    (hearlier : ∀ t ∈ times, t < start + n * period) (hnow : start + n * period ≤ now) :
    Paced period start (now :: times) where
  first := by
    intro t ht
    rcases List.mem_cons.mp ht with rfl | ht
    · have := Nat.le_mul_of_pos_left period hfirst
      omega
    · exact h.first t ht
  apart := by
    intro k
    by_cases hthis : start + k * period ≤ now ∧ now < start + (k + 1) * period
    · have hk : n ≤ k := by
        by_contra hlt
        have := Nat.mul_le_mul_right period (show k + 1 ≤ n by omega)
        omega
      have hnone : times.filter (fun t =>
          start + k * period ≤ t ∧ t < start + (k + 1) * period) = [] := by
        rw [List.filter_eq_nil_iff]
        intro t ht
        have := hearlier t ht
        have := Nat.mul_le_mul_right period hk
        simp only [decide_eq_true_eq]
        omega
      rw [List.filter_cons_of_pos (by simpa using hthis), hnone]
      exact Nat.le_refl _
    · rw [List.filter_cons_of_neg (by simpa using hthis)]
      exact h.apart k

namespace World

/-- What goes on in no time and without a probe. -/
structure Quiet (w next : World) : Prop where
  now : next.now = w.now
  probesHeard : next.probesHeard = w.probesHeard

section Operations

variable {w : World} {slot : AgentSlot} {task : Nat}

variable (w slot task) in
/-- What an agent does next takes no time, and is heard as one probe at most. -/
theorem follow_heard (heap : Heap) (move : AgentMove) :
    ({ w with heap := heap }.follow slot task move).1.now = w.now ∧
      ({ w with heap := heap }.follow slot task move).1.probesHeard =
        w.probesHeard + if move = .probe then 1 else 0 := by
  cases move with
  | register request => exact ⟨rfl, rfl⟩
  | heartbeat request force => exact ⟨rfl, rfl⟩
  | probe => exact ⟨rfl, List.countP_cons_of_pos rfl⟩
  | ended outcome => exact ⟨rfl, rfl⟩

theorem follow_quiet (heap : Heap) {move : AgentMove} (hmove : move ≠ .probe) :
    Quiet w ({ w with heap := heap }.follow slot task move).1 := by
  obtain ⟨hnow, hheard⟩ := follow_heard w slot task heap move
  rw [if_neg hmove] at hheard
  exact ⟨hnow, hheard⟩

theorem register_quiet : Quiet w (w.register slot task).1 :=
  follow_quiet _ (slot.agent.beginRegister_ne_probe w.heap w.timestamp)

variable (w slot task) in
theorem beginRegister_quiet : Quiet w (w.beginRegister slot task).1 := by
  simp only [beginRegister]
  split
  · exact register_quiet
  · split
    · exact register_quiet
    · exact ⟨rfl, rfl⟩

/-- After an answer an agent may send a full heartbeat, but no probe. -/
theorem receive_quiet (call : OpenCall) : Quiet w (w.receive slot task call).1 := by
  have hrecord : ∀ kind, Quiet w (w.record slot .answered kind) := fun _ => ⟨rfl, rfl⟩
  have hlate : Quiet w (if call.arrived < w.now then
      w.record slot .answered call.awaited.kind else w) := by
    split
    · exact hrecord _
    · exact ⟨rfl, rfl⟩
  simp only [receive]
  generalize (if call.arrived < w.now then w.record slot .answered call.awaited.kind
    else w) = w' at hlate ⊢
  have hthen : ∀ {next : World}, Quiet w' next → Quiet w next := fun h =>
    ⟨h.now.trans hlate.now, h.probesHeard.trans hlate.probesHeard⟩
  apply hthen
  cases call.awaited with
  | farewell answer => exact ⟨rfl, rfl⟩
  | registration answer =>
      exact follow_quiet _ (slot.agent.afterRegister_ne_probe w'.heap w'.timestamp answer)
  | probe reply =>
      exact follow_quiet _ (slot.agent.afterProbe_ne_probe w'.heap w'.timestamp reply)
  | heartbeat force answer =>
      exact follow_quiet _
        (slot.agent.afterHeartbeat_ne_probe w'.heap w'.timestamp force answer)

/-- An operation that is under way starts no probe. -/
theorem stepOperation_quiet {stage : AgentStage} {next : World} {progress : Progress}
    (hstep : w.stepOperation slot task stage = some (next, progress)) : Quiet w next := by
  cases operationStep_of_some hstep with
  | registers _ hnext =>
      have hregister : Quiet w (w.register slot task).1 := register_quiet
      rw [hnext] at hregister
      exact hregister
  | waits => exact ⟨rfl, rfl⟩
  | @receives call _ _ hnext =>
      have hreceive : Quiet w (w.receive slot task call).1 := receive_quiet call
      rw [hnext] at hreceive
      exact hreceive

variable (w slot task) in
theorem beginTick_heard :
    (w.beginTick slot task).1.now = w.now ∧
      (w.beginTick slot task).1.probesHeard ≤ w.probesHeard + 1 := by
  have hfollow : ∀ (heap : Heap) (later : AgentSlot) (move : AgentMove),
      ({ w with heap := heap }.follow later task move).1.now = w.now ∧
        ({ w with heap := heap }.follow later task move).1.probesHeard ≤
          w.probesHeard + 1 := by
    intro heap later move
    obtain ⟨hnow, hheard⟩ := follow_heard w later task heap move
    refine ⟨hnow, hheard ▸ ?_⟩
    split <;> omega
  exact hfollow _ _ _

end Operations

/-- How a loop goes on: it registers, waits for its ticks and takes them, and ends. -/
inductive GoesOn (period : Nat) (w next : World) : LoopStage → LoopStage → Prop
  | registers {stage later : LoopStage} (hquiet : Quiet w next)
      (hstage : stage.isRegistering = true) (hlater : later.isRegistering = true) :
      GoesOn period w next stage later
  | registered {stage later : LoopStage} (hquiet : Quiet w next)
      (hstage : stage.isRegistering = true) (hlater : later.isRegistering = false)
      (hdue : ∀ due, later.due? = some due → due = w.now + period) :
      GoesOn period w next stage later
  | ticks {stage later : LoopStage} (due : Nat)
      (hheard : next.probesHeard ≤ w.probesHeard + 1)
      (hstage : stage.due? = some due) (hdue : due ≤ w.now)
      (hlater : later.due? = some (Ticker.next period due w.now)) :
      GoesOn period w next stage later
  | works {stage later : LoopStage} (due : Nat) (hquiet : Quiet w next)
      (hstage : stage.due? = some due) (hlater : later.due? = some due) :
      GoesOn period w next stage later
  | ends {stage later : LoopStage} (hquiet : Quiet w next)
      (hstage : stage.isRegistering = false) (hlater : later.isRegistering = false)
      (hdue : later.due? = none) : GoesOn period w next stage later

section Loops

variable {w : World} {slot : AgentSlot} {task period : Nat}

theorem Quiet.note {next : World} (h : Quiet w next) (entry : LogEntry) :
    Quiet w (next.note entry) :=
  ⟨h.now, h.probesHeard⟩

theorem GoesOn.of_registration {next : World} {stage : LoopStage} (hquiet : Quiet w next)
    (hstage : stage.isRegistering = true) (hperiod : slot.agent.policy.interval = period)
    (progress : Progress) :
    GoesOn period w next stage (next.loopRegistered slot progress) := by
  cases progress with
  | waits stage => exact .registers hquiet hstage rfl
  | ends result =>
      refine .registered hquiet hstage (next.afterRegistration_isRegistering slot) ?_
      intro due hdue
      rw [loopRegistered, afterRegistration] at hdue
      split at hdue
      · cases hdue
      · split at hdue
        · cases hdue
        · rw [← Option.some.inj hdue, hquiet.now, hperiod]

variable (w) in
theorem loopTicked_spec (due : Nat) (progress : Progress) :
    Quiet w (w.loopTicked due progress).1 ∧
      (w.loopTicked due progress).2.due? = some due := by
  unfold loopTicked
  split
  · exact ⟨⟨rfl, rfl⟩, rfl⟩
  · exact ⟨⟨rfl, rfl⟩, rfl⟩
  · exact ⟨⟨rfl, rfl⟩, rfl⟩

theorem stepLoop_goesOn {isStopping : Bool} {stage later : LoopStage} {next : World}
    (hperiod : slot.agent.policy.interval = period)
    (hstep : w.stepLoop slot task isStopping stage = some (next, later)) :
    GoesOn period w next stage later := by
  cases loopStep_of_some hstep with
  | begins entry hnext =>
      have hbegun := beginRegister_quiet (w.note entry) slot task
      rw [hnext] at hbegun
      have hquiet : Quiet w next := ⟨hbegun.now, hbegun.probesHeard⟩
      have hfirst : LoopStage.starting.isRegistering = true := rfl
      exact .of_registration hquiet hfirst hperiod _
  | registers hoperation =>
      exact .of_registration (stepOperation_quiet hoperation) rfl hperiod _
  | @ticks due after next progress later _ hdue hafter hnext =>
      obtain ⟨hnow, hheard⟩ := beginTick_heard w slot task
      rw [hafter] at hnow hheard
      obtain ⟨hquiet, hlater⟩ := loopTicked_spec after
        (Ticker.next slot.agent.policy.interval due after.now) progress
      rw [hnext] at hquiet hlater
      rw [hnow, hperiod] at hlater
      rw [← hquiet.probesHeard] at hheard
      exact .ticks due hheard rfl hdue hlater
  | @works due stage after next progress later hoperation hnext =>
      obtain ⟨hquiet, hlater⟩ := loopTicked_spec after due progress
      have hworked := stepOperation_quiet hoperation
      rw [hnext] at hquiet hlater
      exact .works due ⟨hquiet.now.trans hworked.now,
        hquiet.probesHeard.trans hworked.probesHeard⟩ rfl hlater
  | stops entry => exact .ends ⟨rfl, rfl⟩ rfl rfl rfl
  | leaves => exact .ends ⟨rfl, rfl⟩ rfl rfl rfl

end Loops

section Beats

variable {period agent loop : Nat} {w : World} {seen : Cadence}

/-- The probes that were seen keep to the period. -/
structure Steady (period : Nat) (seen : Cadence) : Prop where
  waits : seen.registered = none → seen.probes = []
  paced : ∀ start, seen.registered = some start → Paced period start seen.probes

/-- What was seen of a loop agrees with where it stands: nothing while it registers, and
then its next tick is due on schedule and behind all of its probes. -/
structure OnBeat (period : Nat) (seen : Cadence) (stage : LoopStage) : Prop where
  registers : stage.isRegistering = true → seen.registered = none
  due : ∀ due, stage.due? = some due → ∃ start n, seen.registered = some start ∧ 0 < n ∧
    due = start + n * period ∧ ∀ t ∈ seen.probes, t < due

theorem isRegistering_of_due? {stage : LoopStage} {due : Nat} (hdue : stage.due? = some due) :
    stage.isRegistering = false := by
  cases stage <;> first | rfl | cases hdue

theorem due?_of_isRegistering {stage : LoopStage} (hstage : stage.isRegistering = true) :
    stage.due? = none := by
  cases stage <;> first | rfl | cases hstage

theorem GoesOn.keeps {next : World} {stage later : LoopStage}
    (hgoes : GoesOn period w next stage later) (hperiod : Ticker.tolerance < period)
    (hsteady : Steady period seen) (hbeat : OnBeat period seen stage) :
    let now := seen.note w.now (stage.isRegistering && !later.isRegistering)
      (next.probesHeard - w.probesHeard)
    Steady period now ∧ OnBeat period now later := by
  have hnothing : seen.note w.now false 0 = seen := rfl
  cases hgoes with
  | registers hquiet hstage hlater =>
      rw [hquiet.probesHeard, hlater, Nat.sub_self, Bool.not_true, Bool.and_false, hnothing]
      refine ⟨hsteady, fun _ => hbeat.registers hstage, fun due hdue => ?_⟩
      rw [due?_of_isRegistering hlater] at hdue
      cases hdue
  | registered hquiet hstage hlater hdue =>
      have hnone := hsteady.waits (hbeat.registers hstage)
      rw [hquiet.probesHeard, hstage, hlater, Nat.sub_self, Cadence.note, hnone]
      refine ⟨⟨fun _ => rfl, fun start _ => paced_nil period start⟩, fun hfirst => ?_, ?_⟩
      · rw [hlater] at hfirst
        cases hfirst
      · intro due hthen
        exact ⟨w.now, 1, rfl, Nat.one_pos, by rw [Nat.one_mul]; exact hdue due hthen,
          by simp⟩
  | ticks due hheard hstage hdue hlater =>
      obtain ⟨start, n, hstart, hn, rfl, hearlier⟩ := hbeat.due due hstage
      obtain ⟨m, hnm, hnext, hbehind, -⟩ := Ticker.next_onSchedule hperiod rfl hdue
      rw [isRegistering_of_due? hstage, Bool.false_and]
      have hpaced : Paced period start
          (List.replicate (next.probesHeard - w.probesHeard) w.now ++ seen.probes) := by
        rcases Nat.le_one_iff_eq_zero_or_eq_one.mp
          (show next.probesHeard - w.probesHeard ≤ 1 by omega) with hprobes | hprobes
        · rw [hprobes]
          exact hsteady.paced start hstart
        · rw [hprobes]
          exact (hsteady.paced start hstart).cons hn hearlier hdue
      refine ⟨⟨fun hnone => ?_, fun other hother => ?_⟩, fun hfirst => ?_, ?_⟩
      · exact absurd (hstart.symm.trans hnone) (by simp)
      · obtain rfl : start = other := Option.some.inj (hstart.symm.trans hother)
        exact hpaced
      · rw [isRegistering_of_due? hlater] at hfirst
        cases hfirst
      · intro due hthen
        obtain rfl := Option.some.inj (hlater.symm.trans hthen)
        refine ⟨start, m, hstart, Nat.zero_lt_of_lt hnm, hnext, ?_⟩
        intro t ht
        rcases List.mem_append.mp ht with ht | ht
        · rw [List.eq_of_mem_replicate ht]
          exact hbehind
        · exact Nat.lt_trans (Nat.lt_of_lt_of_le (hearlier t ht) hdue) hbehind
  | works due hquiet hstage hlater =>
      rw [hquiet.probesHeard, isRegistering_of_due? hstage, Nat.sub_self, Bool.false_and,
        hnothing]
      refine ⟨hsteady, fun hfirst => ?_, fun other hother => ?_⟩
      · rw [isRegistering_of_due? hlater] at hfirst
        cases hfirst
      · rw [hlater, ← hstage] at hother
        exact hbeat.due other hother
  | ends hquiet hstage hlater hdue =>
      rw [hquiet.probesHeard, hstage, Nat.sub_self, Bool.false_and, hnothing]
      refine ⟨hsteady, fun hfirst => ?_, fun other hother => ?_⟩
      · rw [hlater] at hfirst
        cases hfirst
      · rw [hdue] at hother
        cases hother

/-- A loop of an agent whose heartbeats have a period, and what was seen of it. -/
structure Beats (period agent loop : Nat) (w : World) (seen : Cadence) : Prop where
  loopOld : loop < w.nextId
  agentOld : agent < w.nextId
  policy : ∀ slot ∈ w.slots, slot.id = agent → slot.agent.policy.interval = period
  steady : Steady period seen
  onBeat : ∀ t ∈ w.tasks, t.id = loop → ∃ isStopping stage,
    t.work = .loop agent isStopping stage ∧ OnBeat period seen stage

/-- A loop that takes no step keeps its cadence. -/
theorem Beats.of_beside {next : World} (h : Beats period agent loop w seen)
    (hnext : Beside loop w next) : Beats period agent loop next seen where
  loopOld := Nat.lt_of_lt_of_le h.loopOld hnext.nextId
  agentOld := Nat.lt_of_lt_of_le h.agentOld hnext.nextId
  policy := by
    rintro slot hslot rfl
    obtain ⟨old, hold, hid, hpolicy⟩ := hnext.policies slot hslot h.agentOld
    rw [← hpolicy]
    exact h.policy old hold hid
  steady := h.steady
  onBeat := by
    intro t ht hid
    obtain ⟨old, hold, hsame, hstays⟩ := hnext.stays h.loopOld t ht hid
    obtain ⟨wasAsked, stage, hwork, hstage⟩ := h.onBeat old hold hsame
    rw [hwork] at hstays
    generalize t.work = work at hstays ⊢
    cases hstays with
    | same => exact ⟨wasAsked, stage, rfl, hstage⟩
    | asked => exact ⟨true, stage, rfl, hstage⟩

theorem task?_putWork {id : Nat} {t : Task} (ht : w.task? id = some t) (work : Work) :
    (w.putWork id work).task? id = some ⟨id, work⟩ := by
  have hsame : ((fun u : Task => u.id == id) ∘
      fun u => if u.id == id then ⟨id, work⟩ else u) = fun u => u.id == id := by
    funext u
    by_cases hu : u.id = id
    · simp [hu]
    · simp [hu]
  obtain ⟨-, hid⟩ := task?_mem ht
  rw [task?] at ht
  rw [task?, putWork, List.find?_map, hsame, ht, Option.map_some, if_pos (by simp [hid])]

theorem Beats.stepLoop (h : Beats period agent loop w seen) (hw : w.Orderly)
    (hperiod : Ticker.tolerance < period) {slot : AgentSlot} (hslot : w.slot? agent = some slot)
    {wasAsked : Bool} {stage : LoopStage}
    (ht : w.task? loop = some ⟨loop, .loop agent wasAsked stage⟩)
    {asked isStopping : Bool} {later : LoopStage} {next : World}
    (hstep : w.stepLoop slot loop asked stage = some (next, later)) :
    Beats period agent loop (next.putWork loop (.loop agent isStopping later))
      (seen.observe loop w (next.putWork loop (.loop agent isStopping later))) := by
  obtain ⟨hmem, hid⟩ := slot?_mem hslot
  obtain ⟨hthere, -⟩ := task?_mem ht
  have hadvances := hw.loop_advances hmem hthere (by rw [hid]) hstep
  -- The agent and the others keep their policies; only the task of the loop goes on.
  have hbeside : Beside loop w next := .of_advances hmem hadvances
  have htask : (next.putWork loop (.loop agent isStopping later)).task? loop =
      some ⟨loop, .loop agent isStopping later⟩ := by
    have ht' : next.task? loop = some ⟨loop, .loop agent wasAsked stage⟩ := by
      rw [task?, hadvances.tasks]
      exact ht
    exact task?_putWork ht' _
  obtain ⟨before, found, hwork, hbeat⟩ := h.onBeat _ hthere rfl
  obtain ⟨-, rfl, rfl⟩ := Work.loop.inj hwork
  have hgoes := stepLoop_goesOn (h.policy slot hmem hid) hstep
  obtain ⟨hsteady, hlater⟩ := hgoes.keeps hperiod h.steady hbeat
  have hseen : seen.observe loop w (next.putWork loop (.loop agent isStopping later)) =
      seen.note w.now (stage.isRegistering && !later.isRegistering)
        (next.probesHeard - w.probesHeard) := by
    rw [Cadence.observe, isRegistering, isRegistering, ht, htask]
    rfl
  rw [hseen]
  constructor
  case loopOld => exact Nat.lt_of_lt_of_le h.loopOld hbeside.nextId
  case agentOld => exact Nat.lt_of_lt_of_le h.agentOld hbeside.nextId
  case policy =>
    rintro other hother rfl
    obtain ⟨old, hold, hsame, hpolicy⟩ := hbeside.policies other hother h.agentOld
    rw [← hpolicy]
    exact h.policy old hold hsame
  case steady => exact hsteady
  case onBeat =>
    intro t hthere hthis
    obtain ⟨old, hold, rfl⟩ := List.mem_map.mp hthere
    by_cases hsame : old.id = loop
    · rw [if_pos (by simpa using hsame)]
      exact ⟨isStopping, later, rfl, hlater⟩
    · rw [if_neg (by simpa using hsame)] at hthis
      exact absurd hthis hsame

theorem observe_same (seen : Cadence) (loop : Nat) (w : World) :
    seen.observe loop w w = seen := by
  rw [Cadence.observe, Nat.sub_self, Bool.and_not_self]
  rfl

theorem Beats.choose (h : Beats period agent loop w seen) (hw : w.Orderly)
    (hperiod : Ticker.tolerance < period) (choice : Choice) :
    Beats period agent loop (w.choose choice)
      (if choice.isStepOf loop then seen.observe loop w (w.choose choice) else seen) := by
  have hsame : Beats period agent loop w (seen.observe loop w w) := by
    rw [observe_same]
    exact h
  cases hchoice : choice.isStepOf loop with
  | false => exact h.of_beside (hw.choose_beside hchoice h.loopOld)
  | true =>
      rw [if_pos rfl]
      cases choice with
      | proceed task =>
          obtain rfl : task = loop := by simpa [Choice.isStepOf] using hchoice
          apply proceed_keeps (P := fun next =>
            Beats period agent task next (seen.observe task w next)) hsame
          intro t next ht hstep
          obtain ⟨hmem, rfl⟩ := task?_mem ht
          obtain ⟨isStopping, stage, hwork, -⟩ := h.onBeat t hmem rfl
          obtain ⟨slot, after, later, hslot, hloop, rfl⟩ := stepTask_loop hwork hstep
          obtain ⟨id, work⟩ := t
          obtain rfl : work = .loop agent isStopping stage := hwork
          exact h.stepLoop hw hperiod hslot ht hloop
      | proceedUnasked task =>
          obtain rfl : task = loop := by simpa [Choice.isStepOf] using hchoice
          apply proceedUnasked_keeps (P := fun next =>
            Beats period agent task next (seen.observe task w next)) hsame
          intro other stage slot next later ht hslot hloop
          obtain ⟨isStopping, found, hwork, -⟩ := h.onBeat _ (task?_mem ht).1 rfl
          obtain ⟨rfl, rfl, rfl⟩ := Work.loop.inj hwork
          exact h.stepLoop hw hperiod hslot ht hloop
      | _ => cases hchoice

theorem Beats.watch (h : Beats period agent loop w seen) (hw : w.Orderly)
    (hperiod : Ticker.tolerance < period) (choices : List Choice) :
    Steady period (Cadence.watch loop w seen choices) := by
  induction choices generalizing w seen with
  | nil => exact h.steady
  | cons choice choices ih => exact ih (h.choose hw hperiod choice) (hw.choose choice)

/-- A loop that is started has not done anything yet. -/
theorem start_beats (hw : w.Orderly) {slot : AgentSlot} (hslot : w.slot? agent = some slot) :
    Beats slot.agent.policy.interval agent w.nextId (w.choose (.start agent)) {} := by
  obtain ⟨hmem, rfl⟩ := slot?_mem hslot
  have hchoose : w.choose (.start slot.id) = w.startLoop slot := by
    rw [World.choose, withSlot, hslot]
  have hbeside : Beside slot.id w (w.startLoop slot) := beside_startLoop hmem
  have hnextId : (w.dropLoop slot).nextId = w.nextId := by
    rw [dropLoop]
    split
    · rw [askToStop]
      split <;> rfl
    · rfl
  have htask : ∀ t ∈ (w.dropLoop slot).tasks, t.id < w.nextId := by
    rw [← hnextId]
    exact fun t ht => ((hw.dropLoop hmem rfl).1.tasksOld t ht).1
  rw [hchoose]
  constructor
  case loopOld =>
    show w.nextId < (w.dropLoop slot).nextId + 1
    rw [hnextId]
    exact Nat.lt_succ_self _
  case agentOld => exact Nat.lt_of_lt_of_le (hw.slotsOld slot hmem) hbeside.nextId
  case policy =>
    intro other hother hid
    obtain ⟨old, hold, hsame, hpolicy⟩ :=
      hbeside.policies other hother (hid ▸ hw.slotsOld slot hmem)
    obtain rfl := List.inj_on_of_nodup_map hw.slotIds hold hmem (hsame.trans hid)
    rw [hpolicy]
  case steady => exact ⟨fun _ => rfl, fun start hstart => by cases hstart⟩
  case onBeat =>
    intro t ht hid
    rcases List.mem_append.mp ht with ht | ht
    · exact absurd hid (Nat.ne_of_lt (htask t ht))
    · rw [List.mem_singleton.mp ht]
      exact ⟨false, .starting, rfl, fun _ => rfl, fun due hdue => by cases hdue⟩

end Beats

/-- The loop of an agent whose heartbeats have a period of whole seconds, started at any
time and whatever is chosen then.  It starts no probe before its registration is over and
one period has passed since, and in every period from then on it starts one at most. -/
theorem loop_keeps_cadence (before later : List Choice) {agent : Nat} {slot : AgentSlot}
    {seconds : Nat} (hslot : (after before).slot? agent = some slot)
    (hinterval : slot.agent.policy.interval = seconds * 1000) (hpositive : 0 < seconds) :
    let seen := Cadence.watch (after before).nextId
      ((after before).choose (.start agent)) {} later
    (seen.registered = none → seen.probes = []) ∧
      ∀ start, seen.registered = some start →
        (∀ t ∈ seen.probes, start + seconds * 1000 ≤ t) ∧
        ∀ k, (seen.probes.filter fun t =>
          start + k * (seconds * 1000) ≤ t ∧
            t < start + (k + 1) * (seconds * 1000)).length ≤ 1 := by
  have hw := after_orderly before
  have hperiod : Ticker.tolerance < seconds * 1000 := by
    rw [Ticker.tolerance]
    omega
  have hbeats := start_beats hw hslot
  rw [hinterval] at hbeats
  obtain ⟨hwaits, hpaced⟩ := hbeats.watch (hw.choose (.start agent)) hperiod later
  exact ⟨hwaits, fun start hstart =>
    ⟨(hpaced start hstart).first, (hpaced start hstart).apart⟩⟩

/-- A loop that misses two ticks takes the third one late, and then keeps to its schedule. -/
theorem late_tick_keeps_cadence :
    let seen := Cadence.watch 1
      ((after [.create "m" AgentRun.sampleIdentity {} {}]).choose (.start 0)) {}
      [.proceed 1, .proceed 1, .around {} [] 300, .proceed 1,
        .around {} [] 17000, .proceed 1, .proceed 1, .proceed 1,
        .around {} [] 20299, .proceed 1, .around {} [] 20301, .proceed 1]
    seen = { registered := some 300, probes := [20301, 17000] } ∧
      ∀ k, (seen.probes.filter fun t =>
        300 + k * 5000 ≤ t ∧ t < 300 + (k + 1) * 5000).length ≤ 1 := by
  intro seen
  have hseen : seen = { registered := some 300, probes := [20301, 17000] } := by
    decide +kernel
  obtain ⟨slot, hslot, hinterval⟩ :
      ∃ slot, (after [.create "m" AgentRun.sampleIdentity {} {}]).slot? 0 = some slot ∧
        slot.agent.policy.interval = 5 * 1000 := ⟨_, rfl, rfl⟩
  refine ⟨hseen, ?_⟩
  exact ((loop_keeps_cadence [.create "m" AgentRun.sampleIdentity {} {}] _ hslot hinterval
    (by decide)).2 300 (congrArg Cadence.registered hseen)).2

end World

end Simulation

end CapabilityMesh
