/-
What a run leaves behind when the application lets go of all that it holds.  A value of
the table keeps code in memory, and the handles of that code keep functions wrapped; what
is left is exactly what can be reached in this way.
-/
import CapabilityMesh.Proofs.Agent.Bookkeeping
import CapabilityMesh.Proofs.Injection.Reach

namespace CapabilityMesh

namespace AgentRun

/-- When the application holds no handle and no value any more, exactly those functions
are still wrapped to which code holds handles that the values of the table lead to.  So
no function is left, none is listed and none is declared, if and only if the values of
the table lead to no code that holds handles. -/
theorem left_behind_iff_reached (identity : AgentIdentity) (policy : HeartbeatPolicy)
    (events : List AgentEvent)
    (hhandles : (run identity policy events).heap.handles = [])
    (hvalues : (run identity policy events).heap.values = []) :
    let h := (run identity policy events).heap
    (∀ key, (h.injector.find? key).isSome = true ↔
        ∃ code ∈ h.codes, h.Reached code.key ∧ key ∈ code.owned) ∧
      ((h.injector.functions.length = 0 ∧
          (∀ capability, h.injector.functionsNeeding capability = []) ∧
          h.injector.declaredTools = []) ↔
        ∀ entry ∈ h.injector.table, ∀ code ∈ h.codes,
          entry.2.target? = some code.key → code.owned = []) := by
  intro h
  have huses := run_uses_any identity policy events
  have hsound : h.Sound := huses.sound
  have hleft : h.LeftAlone :=
    ⟨hhandles, hvalues, (run_ledger identity policy events).rest.loose⟩
  refine ⟨hleft.wrapped_iff hsound, ?_⟩
  rw [← hleft.functions_nil_iff hsound, List.length_eq_zero_iff]
  refine ⟨And.left, fun hempty => ⟨hempty, ?_⟩⟩
  exact Injector.Books.nothing_left huses.books hempty

/-- A function that tells the date holds a handle to one that greets.  The latter needs
the date, and the former is stored as its value; then the application lets everything
go. -/
def leftToEachOther : List AgentEvent :=
  let today := Value.inProcess ⟨"date", ⟨"today", 2⟩, .blocking⟩
  [.deed (.wrap ((Tool.named "greet").dependsOn (.on "date")) .blocking .text []),
    .deed (.wrap (.named "today") .blocking .text [⟨"greet", 1⟩]),
    .deed (.find "date" "today"),
    .deed (.registerFor "greet" "date" today),
    .deed (.discard today),
    .deed (.drop ⟨"today", 2⟩),
    .deed (.drop ⟨"greet", 1⟩)]

/-- What is left is reached from the stored value. -/
theorem left_to_each_other_reached :
    let h := (run sampleIdentity {} leftToEachOther).heap
    h.handles = [] ∧ h.values = [] ∧
      ∃ code ∈ h.codes, h.Reached code.key ∧ ⟨"greet", 1⟩ ∈ code.owned := by
  have hhandles : (run sampleIdentity {} leftToEachOther).heap.handles = [] := by
    decide +kernel
  have hvalues : (run sampleIdentity {} leftToEachOther).heap.values = [] := by
    decide +kernel
  have hwrapped : ((run sampleIdentity {} leftToEachOther).heap.injector.find?
      ⟨"greet", 1⟩).isSome = true := by decide +kernel
  have hreached := left_behind_iff_reached sampleIdentity {} leftToEachOther hhandles hvalues
  exact ⟨hhandles, hvalues, (hreached.1 _).mp hwrapped⟩

/-- A function can be left wrapped, listed and declared when the application holds
nothing any more. -/
theorem function_outlives_its_handles :
    let h := (run sampleIdentity {} leftToEachOther).heap
    h.handles = [] ∧ h.values = [] ∧ h.injector.functions.length = 1 ∧
      h.injector.functionsNeeding "date" = ["greet"] ∧
      h.injector.declaredTools = [(Tool.named "greet").dependsOn (.on "date")] := by
  decide +kernel

end AgentRun

end CapabilityMesh
