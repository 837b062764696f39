/-
The report of required dependencies that have no value.  It is made from the declarations
that the injector tells, while a call looks at the declaration of its own function; but
the two agree: what is reported of a name is what a call of its newest function would
miss at that moment.
-/
import CapabilityMesh.Proofs.Agent.Following
import CapabilityMesh.Proofs.Injection.Call

namespace CapabilityMesh

namespace Dependencies

/-- Without overrides each dependency gets what the table has. -/
theorem resolve_nil (table : DependencyTable) (function : String) (ds : List Dependency) :
    resolve table function ds [] =
      ds.map fun d => (d.parameter, table.resolve function d.capability) := by
  induction ds with
  | nil => rfl
  | cons d ds ih =>
      rw [resolve_cons, List.map_cons, ← ih]
      rfl

end Dependencies

namespace Heap

/-- The required dependencies of a function that have no value when it is called without
overrides, in the order of their declaration. -/
def missedByCall (h : Heap) (code : FunctionCode) : List BindingSlot :=
  ((code.tool.dependencies.zip (h.dependencies code [])).filter fun slot =>
    !slot.1.isOptional && slot.2.2.isNone).map fun slot => ⟨code.key.name, slot.1.capability⟩

theorem missedByCall_eq (h : Heap) (code : FunctionCode) :
    h.missedByCall code =
      (code.tool.dependencies.filter fun d =>
        !d.isOptional && (h.injector.resolve code.key.name d.capability).isNone).map
          fun d => ⟨code.key.name, d.capability⟩ := by
  rw [missedByCall, dependencies, Dependencies.resolve_nil, ← List.map_prod_left_eq_zip,
    List.filter_map, List.map_map]
  rfl

/-- The functions that live and are the newest of their names, in the order of the names. -/
def newestCodes (h : Heap) : List FunctionCode :=
  h.injector.newest.filterMap fun f => h.code? f.key

theorem Owned.code?_of_mem {h : Heap} (howned : h.Owned) {code : FunctionCode}
    (hcode : code ∈ h.codes) : h.code? code.key = some code := by
  obtain ⟨other, hother⟩ := Option.isSome_iff_exists.mp
    ((code?_isSome_iff h code.key).mpr ⟨code, hcode, rfl⟩)
  obtain ⟨hmem, hkey⟩ := code?_mem hother
  rw [hother, howned.code_unique hmem hcode hkey]

section Newest

variable {u : Usage} {h : Heap} (huses : Uses u {} h)

include huses

/-- The books have a function as the newest of its name exactly if its code is the newest
that lives. -/
theorem Uses.mem_newest_iff (f : TrackedFunction) :
    f ∈ h.injector.newest ↔ ∃ code, h.LivesNewest code ∧ code.entry = f := by
  have hrest : h.AtRest := huses.keeps Use.atRest atRest_empty
  have hnewest := huses.faithful.exists_newest_iff huses.sound.toOwned hrest f.key.name
    fun g => g = f
  rw [huses.books.mem_newest_iff]
  constructor
  · intro hf
    obtain ⟨code, hcode, -, hentry⟩ := hnewest.mp ⟨f, hf, rfl⟩
    exact ⟨code, hcode, hentry⟩
  · rintro ⟨code, hcode, rfl⟩
    obtain ⟨g, hg, rfl⟩ := hnewest.mpr ⟨code, hcode, rfl, rfl⟩
    exact hg

theorem Uses.mem_newestCodes_iff (code : FunctionCode) :
    code ∈ h.newestCodes ↔ h.LivesNewest code := by
  have hfound : ∀ other, h.LivesNewest other → h.code? other.entry.key = some other :=
    fun other hother => huses.sound.code?_of_mem hother.lives.1
  rw [newestCodes, List.mem_filterMap]
  constructor
  · rintro ⟨f, hf, hcode⟩
    obtain ⟨other, hother, rfl⟩ := (huses.mem_newest_iff f).mp hf
    rw [hfound other hother] at hcode
    exact Option.some.inj hcode ▸ hother
  · intro hcode
    exact ⟨code.entry, (huses.mem_newest_iff _).mpr ⟨code, hcode, rfl⟩, hfound code hcode⟩

/-- The books have what these functions say of themselves. -/
theorem Uses.map_entry_newestCodes :
    h.newestCodes.map FunctionCode.entry = h.injector.newest := by
  rw [newestCodes, List.map_filterMap]
  refine (List.filterMap_congr fun f hf => ?_).trans List.filterMap_some
  obtain ⟨code, hcode, rfl⟩ := (huses.mem_newest_iff f).mp hf
  have hfound : h.code? code.entry.key = some code :=
    huses.sound.code?_of_mem hcode.lives.1
  rw [hfound]
  rfl

theorem Uses.newestCodes_ordered :
    h.newestCodes.Pairwise fun code other => code.key.name < other.key.name := by
  have hordered := (Injector.newest_represents h.injector).ordered
  rw [← huses.map_entry_newestCodes, Injector.NameOrdered, List.pairwise_map] at hordered
  exact hordered

/-- What is reported of the declarations is what calls of the functions miss. -/
theorem Uses.unresolvedRequired_eq :
    Agent.unresolvedRequired h = h.newestCodes.flatMap h.missedByCall := by
  rw [Agent.unresolvedRequired, Injector.declaredTools, ← huses.map_entry_newestCodes,
    List.map_map, List.flatMap_map]
  refine List.flatMap_congr fun code hcode => ?_
  -- The tool of a function in the books is declared under the function's own name.
  have hentry : code.entry ∈ h.injector.functions := by
    have hlives := ((huses.mem_newestCodes_iff code).mp hcode).lives
    exact (huses.faithful.mem_functions_iff huses.sound.toOwned
      (huses.keeps Use.atRest atRest_empty)).mpr ⟨code, hlives, rfl⟩
  have hname : code.tool.function = code.key.name := huses.titled code.entry hentry
  rw [missedByCall_eq]
  simp only [Function.comp_apply, FunctionCode.entry, hname]

end Newest

end Heap

namespace AgentRun

/-- At every moment of a run the report lists, in the order of the functions' names and then
of the declarations, what a call of the newest function of each name would miss at that
moment.  A call by any handle to such a function is a call of the code that is meant. -/
theorem report_agrees_with_calls (identity : AgentIdentity) (policy : HeartbeatPolicy)
    (events : List AgentEvent) :
    let h := (run identity policy events).heap
    ∃ newest : List FunctionCode,
      (newest.Pairwise fun code other => code.key.name < other.key.name) ∧
      (∀ code, code ∈ newest ↔ h.LivesNewest code) ∧
      (∀ code ∈ newest, ∀ w : Simulation.World, w.heap = h → ∀ name,
        w.handles.lookup name = some code.key → ∀ argument,
          w.perform (.call name argument []) = w.call code argument []) ∧
      Agent.unresolvedRequired h = newest.flatMap h.missedByCall := by
  intro h
  have huses : Heap.Uses .any {} h := run_uses_any identity policy events
  refine ⟨h.newestCodes, huses.newestCodes_ordered, huses.mem_newestCodes_iff, ?_,
    huses.unresolvedRequired_eq⟩
  rintro code hcode w hw name hname argument
  have hfound : w.heap.code? code.key = some code := by
    rw [hw]
    exact huses.sound.code?_of_mem ((huses.mem_newestCodes_iff code).mp hcode).lives.1
  exact w.perform_call hname hfound argument []

end AgentRun

end CapabilityMesh
