/-
What happened in a run, the latest first, and what can be read off it: how often the
agent failed or succeeded, whether it took its leave, and what was declared and
answered last.
-/
import Mathlib.Data.List.Basic
import CapabilityMesh.Agent.Cycle

namespace CapabilityMesh

/-- A declaration that was sent, and the answer to it. -/
structure Consultation where
  metadata : AgentMetadata
  answer : Except MeshError RegistrationResponse

/-- What is worth telling of a run. -/
inductive Milestone where
  /-- A request was built that declares the functions. -/
  | built (metadata : AgentMetadata)
  /-- A registration or a heartbeat ended, after the registry was consulted or
  without. -/
  | ended (outcome : TickOutcome) (consulted : Option Consultation)
  /-- The agent took its leave of the registry, in some phase. -/
  | left (phase : AgentPhase)

namespace Milestone

/-- Whether the registry confirmed the agent. -/
def isSuccess : Milestone → Bool
  | ended .unchanged _ | ended (.reconciled _) _ => true
  | _ => false

/-- Whether the registry was not reached, or failed. -/
def isFailure : Milestone → Bool
  | ended (.degraded _ _ _) _ => true
  | _ => false

/-- Whether the agent took its leave of the registry. -/
def isFarewell : Milestone → Bool
  | left _ => true
  | _ => false

/-- Whether the agent took its leave while it was registered. -/
def leavesRegistered : Milestone → Bool
  | left .registered => true
  | _ => false

def built? : Milestone → Option AgentMetadata
  | built metadata => some metadata
  | _ => none

def reconciled? : Milestone → Option Consultation
  | ended (.reconciled _) consulted => consulted
  | _ => none

end Milestone

/-- The milestones of a run, the latest first. -/
abbrev History := List Milestone

namespace History

/-- What happened since the last success. -/
def recent (history : History) : History :=
  history.takeWhile fun m => !m.isSuccess

/-- The number of failures since the last success. -/
def failures (history : History) : Nat :=
  history.recent.countP Milestone.isFailure

def successes (history : History) : Nat :=
  history.countP Milestone.isSuccess

def hasSuccess (history : History) : Bool :=
  history.any Milestone.isSuccess

/-- Whether the agent took its leave since the last success. -/
def hasLeft (history : History) : Bool :=
  history.recent.any Milestone.isFarewell

/-- Whether the agent took its leave since the last success while it was
registered. -/
def leftRegistered (history : History) : Bool :=
  history.recent.any Milestone.leavesRegistered

def lastBuilt? (history : History) : Option AgentMetadata :=
  history.findSome? Milestone.built?

def lastReconciled? (history : History) : Option Consultation :=
  history.findSome? Milestone.reconciled?

theorem recent_success {m : Milestone} (history : History) (hm : m.isSuccess = true) :
    History.recent (m :: history) = [] := by
  simp [recent, hm]

theorem recent_other {m : Milestone} (history : History) (hm : m.isSuccess = false) :
    History.recent (m :: history) = m :: history.recent := by
  simp [recent, hm]

theorem failures_success {m : Milestone} (history : History)
    (hm : m.isSuccess = true) : History.failures (m :: history) = 0 := by
  simp [failures, recent_success history hm]

theorem failures_failure {m : Milestone} (history : History)
    (hm : m.isSuccess = false) (hfailure : m.isFailure = true) :
    History.failures (m :: history) = history.failures + 1 := by
  simp [failures, recent_other history hm, hfailure]

theorem failures_other {m : Milestone} (history : History) (hm : m.isSuccess = false)
    (hfailure : m.isFailure = false) :
    History.failures (m :: history) = history.failures := by
  simp [failures, recent_other history hm, hfailure]

theorem successes_success {m : Milestone} (history : History)
    (hm : m.isSuccess = true) :
    History.successes (m :: history) = history.successes + 1 := by
  simp [successes, hm]

theorem successes_other {m : Milestone} (history : History)
    (hm : m.isSuccess = false) :
    History.successes (m :: history) = history.successes := by
  simp [successes, hm]

theorem hasSuccess_cons (m : Milestone) (history : History) :
    History.hasSuccess (m :: history) = (m.isSuccess || history.hasSuccess) := by
  simp [hasSuccess]

theorem hasLeft_success {m : Milestone} (history : History)
    (hm : m.isSuccess = true) : History.hasLeft (m :: history) = false := by
  simp [hasLeft, recent_success history hm]

theorem hasLeft_other {m : Milestone} (history : History)
    (hm : m.isSuccess = false) :
    History.hasLeft (m :: history) = (m.isFarewell || history.hasLeft) := by
  simp [hasLeft, recent_other history hm]

theorem leftRegistered_success {m : Milestone} (history : History)
    (hm : m.isSuccess = true) : History.leftRegistered (m :: history) = false := by
  simp [leftRegistered, recent_success history hm]

theorem leftRegistered_other {m : Milestone} (history : History)
    (hm : m.isSuccess = false) :
    History.leftRegistered (m :: history) =
      (m.leavesRegistered || history.leftRegistered) := by
  simp [leftRegistered, recent_other history hm]

theorem lastBuilt?_cons (m : Milestone) (history : History) :
    History.lastBuilt? (m :: history) = m.built?.or history.lastBuilt? := by
  rw [lastBuilt?, List.findSome?_cons]
  cases m.built? <;> rfl

theorem lastReconciled?_cons (m : Milestone) (history : History) :
    History.lastReconciled? (m :: history) =
      m.reconciled?.or history.lastReconciled? := by
  rw [lastReconciled?, List.findSome?_cons]
  cases m.reconciled? <;> rfl

end History

end CapabilityMesh
