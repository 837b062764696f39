/-
Where an agent stands with the registry.

    unregistered --failure--> standalone
         |                     |     ^
      success               success  | failures in a row reach the threshold
         v                     v     |
         +--------------> registered +

The standing reflects the link to the registry alone; capabilities stay
callable in every phase.
-/
import CapabilityMesh.Wire.Timestamp

namespace CapabilityMesh

/-- The phase of the link to the registry. -/
inductive AgentPhase where
  /-- Before the first attempt to register. -/
  | unregistered
  /-- Working without a confirmed link. -/
  | standalone
  /-- The registry confirmed the agent and its bindings. -/
  | registered
deriving Repr, DecidableEq

namespace AgentPhase

def label : AgentPhase → String
  | unregistered => "Unregistered"
  | standalone => "Standalone"
  | registered => "Registered"

end AgentPhase

/-- What an agent remembers of its contacts with the registry. -/
structure AgentState where
  agentId : String
  phase : AgentPhase := .unregistered
  /-- The declaration that was built last, as text. -/
  lastPayload : Option String := none
  /-- The last successful contact. -/
  lastHeartbeat : Option Timestamp := none
  /-- Failures since the last success. -/
  failures : Nat := 0
  /-- Successful heartbeats since the start. -/
  heartbeats : Nat := 0
deriving Repr, DecidableEq

namespace AgentState

/-- The state of an agent that has not tried yet. -/
def fresh (agentId : String) : AgentState :=
  { agentId := agentId }

def isConnected (s : AgentState) : Bool :=
  s.phase == .registered

def failureLimit : Nat := UInt32.size - 1

def recordSuccess (s : AgentState) (time : Timestamp) : AgentState :=
  { s with
    phase := .registered
    failures := 0
    lastHeartbeat := some time
    heartbeats := s.heartbeats + 1 }

/-- Record a failure.  A registered agent goes on alone only after `threshold`
failures in a row, and at least one; the result says whether this failure made
it do so. -/
def recordFailure (s : AgentState) (threshold : Nat) : AgentState × Bool :=
  let failures := min (s.failures + 1) failureLimit
  match s.phase with
  | .registered =>
      if max threshold 1 ≤ failures then
        ({ s with failures := failures, phase := .standalone }, true)
      else ({ s with failures := failures }, false)
  | .unregistered => ({ s with failures := failures, phase := .standalone }, false)
  | .standalone => ({ s with failures := failures }, false)

/-- Go on without the registry. -/
def enterStandalone (s : AgentState) : AgentState :=
  { s with phase := .standalone }

end AgentState

end CapabilityMesh
