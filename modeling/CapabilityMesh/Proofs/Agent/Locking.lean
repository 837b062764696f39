/-
Runs in which no release waits for a table that it locked itself.  What an application
or an answer of the registry stores for the functions of a name must not be a function of
the process whose code holds handles; the last function of the name would take it along
while the table is locked.
-/
import CapabilityMesh.Proofs.Agent.Use
import CapabilityMesh.Proofs.Injection.Locking

namespace CapabilityMesh

namespace AgentRun

/-- Let only functions of some names hold handles, and let no value of a function's own be
a function of one of these names.  Then everything that is let go in a run is taken apart
to its end: no release has to wait, and none leaves the table locked. -/
theorem releases_never_wait (carriers : List String) (identity : AgentIdentity)
    (policy : HeartbeatPolicy) (events : List AgentEvent)
    (hevents : ∀ e ∈ events, e.Follows (.sparing carriers) identity.agentId) :
    let h := (run identity policy events).heap
    h.isStuck = false ∧ h.locks = 0 ∧ h.loose = [] := by
  intro h
  have hfree : h.Free carriers :=
    (run_uses policy hevents).keeps Heap.Use.free Heap.free_empty
  exact ⟨hfree.unstuck, hfree.locks, hfree.loose⟩

/-- An index whose code holds a handle to a report serves every function, and goes itself
with a value of its own. -/
def sharedIndex : List AgentEvent :=
  let index := Value.inProcess ⟨"index", ⟨"index", 2⟩, .blocking⟩
  [.deed (.wrap (.named "report") .blocking .text []),
    .deed (.wrap (.named "index") .blocking .text [⟨"report", 1⟩]),
    .deed (.find "index" "index"),
    .deed (.register "index" index),
    .deed (.registerFor "index" "format" (.text "short")),
    .deed (.discard index),
    .deed (.drop ⟨"report", 1⟩),
    .deed (.drop ⟨"index", 2⟩)]

theorem shared_index_released :
    (∀ e ∈ sharedIndex, e.Follows (.sparing ["index"]) sampleIdentity.agentId) ∧
      (run sampleIdentity {} sharedIndex).heap.isStuck = false ∧
      (run sampleIdentity {} sharedIndex).heap.locks = 0 := by
  have hevents : ∀ e ∈ sharedIndex,
      e.Follows (.sparing ["index"]) sampleIdentity.agentId := by
    intro e he
    simp only [sharedIndex, List.mem_cons, List.not_mem_nil, or_false] at he
    rcases he with rfl | rfl | rfl | rfl | rfl | rfl | rfl | rfl <;>
      simp [AgentEvent.Follows, Deed.Follows, Usage.sparing, DependencyKey.isOwnOf,
        Value.Spares, Value.target?, Tool.named]
  have hreleased := releases_never_wait ["index"] sampleIdentity {} sharedIndex hevents
  exact ⟨hevents, hreleased.1, hreleased.2.1⟩

/-- The same index serves exports alone, and the last export goes. -/
def ownIndex : List AgentEvent :=
  let index := Value.inProcess ⟨"index", ⟨"index", 2⟩, .blocking⟩
  [.deed (.wrap (.named "report") .blocking .text []),
    .deed (.wrap (.named "index") .blocking .text [⟨"report", 1⟩]),
    .deed (.wrap (.named "export") .blocking .text []),
    .deed (.find "index" "index"),
    .deed (.registerFor "export" "index" index),
    .deed (.discard index),
    .deed (.drop ⟨"index", 2⟩),
    .deed (.drop ⟨"report", 1⟩),
    .deed (.drop ⟨"export", 3⟩)]

/-- The release of the export takes the index along while the table is locked.  That
releases the report, which waits for the same table. -/
theorem own_index_waits_for_ever :
    (run sampleIdentity {} ownIndex).heap.isStuck = true := by
  decide +kernel

end AgentRun

end CapabilityMesh
