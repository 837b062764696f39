/-
What the injector tells of its books.  It tells of functions in the order of their names,
and the order in which the books are kept does not show.
-/
import CapabilityMesh.Proofs.Injection.Books
import CapabilityMesh.Proofs.Tool.Building

namespace CapabilityMesh

namespace Injector

theorem insertName_eq (name : String) (names : List String) :
    insertName name names = Tags.insert names name := by
  induction names with
  | nil => rfl
  | cons first rest ih =>
      rw [insertName, ih]
      rfl

theorem functionsNeeding_eq (i : Injector) (capability : String) :
    i.functionsNeeding capability =
      Tags.ofList ((i.dependentsOf capability).map FunctionKey.name) := by
  rw [functionsNeeding, Tags.ofList, Tags.insertAll, List.foldl_map]
  simp only [insertName_eq]

theorem functionsNeeding_ordered (i : Injector) (capability : String) :
    (i.functionsNeeding capability).Pairwise fun name other => name < other := by
  rw [functionsNeeding_eq]
  exact Tags.Ordered.insertAll List.Pairwise.nil _

/-- A function that needs a capability is told by its name, whether it is the newest of its
name or not. -/
theorem Books.mem_functionsNeeding_iff {i : Injector} (hi : i.Books)
    {capability name : String} :
    name ∈ i.functionsNeeding capability ↔
      ∃ f ∈ i.functions, f.key.name = name ∧ f.tool.Declares capability := by
  rw [functionsNeeding_eq, Tags.ofList, Tags.mem_insertAll, List.mem_map]
  simp only [mem_dependentsOf hi.orderly.names, hi.inverse, List.not_mem_nil, false_or]
  constructor
  · rintro ⟨_, ⟨f, hf, rfl, hdeclares⟩, hname⟩
    exact ⟨f, hf, hname, hdeclares⟩
  · rintro ⟨f, hf, hname, hdeclares⟩
    exact ⟨f.key, ⟨f, hf, rfl, hdeclares⟩, hname⟩

theorem Books.newestNamed?_eq_some_iff {i : Injector} (hi : i.Books) {name : String}
    {f : TrackedFunction} : i.newestNamed? name = some f ↔ i.IsNewest name f := by
  refine ⟨newestNamed?_some, fun hf => ?_⟩
  cases hfind : i.newestNamed? name with
  | none => exact absurd hf.named (newestNamed?_none hfind f hf.wrapped)
  | some g =>
      have hg := newestNamed?_some hfind
      have hid : g.key.id = f.key.id :=
        Nat.le_antisymm (hf.newest g hg.wrapped hg.named) (hg.newest f hf.wrapped hf.named)
      have hkey := FunctionKey.eq_of_parts (hg.named.trans hf.named.symm) hid
      rw [hi.function_unique hg.wrapped hf.wrapped hkey]

theorem Books.localCapability?_eq_some_iff {i : Injector} (hi : i.Books)
    {capability name : String} {l : LocalCapability} :
    i.localCapability? capability name = some l ↔
      ∃ f, i.IsNewest name f ∧ l = ⟨capability, f.key, f.mode⟩ := by
  rw [localCapability?, Option.map_eq_some_iff]
  simp only [hi.newestNamed?_eq_some_iff, @eq_comm _ l]

theorem localCapability?_isSome_iff (i : Injector) (capability name : String) :
    (i.localCapability? capability name).isSome = true ↔
      ∃ f ∈ i.functions, f.key.name = name := by
  rw [localCapability?, Option.isSome_map]
  cases hfind : i.newestNamed? name with
  | none =>
      have hnone := newestNamed?_none hfind
      exact iff_of_false nofun fun ⟨f, hf, hname⟩ => hnone f hf hname
  | some f =>
      have hnewest := newestNamed?_some hfind
      exact iff_of_true rfl ⟨f, hnewest.wrapped, hnewest.named⟩

/-- Whether every wrapped function is known by the name that its tool declares. -/
def Titled (i : Injector) : Prop :=
  ∀ f ∈ i.functions, f.tool.function = f.key.name

theorem Titled.declaredTools_ordered {i : Injector} (hi : i.Titled) :
    i.declaredTools.Pairwise fun t other => t.function < other.function := by
  have hnewest := newest_represents i
  rw [declaredTools, List.pairwise_map]
  refine hnewest.ordered.imp_of_mem ?_
  intro f g hf hg hlt
  rw [hi f (hnewest.newest f hf).1, hi g (hnewest.newest g hg).1]
  exact hlt

/-- A tool is told under the name of the function whose tool it is. -/
theorem Titled.mem_declaredTools_iff {i : Injector} (hi : i.Titled) (hbooks : i.Books)
    {name : String} {t : Tool} :
    t ∈ i.declaredTools ∧ t.function = name ↔ ∃ f, i.IsNewest name f ∧ f.tool = t := by
  rw [hbooks.mem_declaredTools_iff]
  constructor
  · rintro ⟨⟨other, f, hf, rfl⟩, hname⟩
    rw [hi f hf.wrapped, hf.named] at hname
    rw [← hname]
    exact ⟨f, hf, rfl⟩
  · rintro ⟨f, hf, rfl⟩
    exact ⟨⟨name, f, hf, rfl⟩, (hi f hf.wrapped).trans hf.named⟩

theorem Titled.exists_declaredTool_iff {i : Injector} (hi : i.Titled) (name : String) :
    (∃ t ∈ i.declaredTools, t.function = name) ↔ ∃ f ∈ i.functions, f.key.name = name := by
  have hnewest := newest_represents i
  constructor
  · rintro ⟨_, ht, hname⟩
    obtain ⟨f, hf, rfl⟩ := List.mem_map.mp ht
    have hwrapped := (hnewest.newest f hf).1
    exact ⟨f, hwrapped, (hi f hwrapped).symm.trans hname⟩
  · rintro ⟨g, hg, hname⟩
    obtain ⟨f, hf, hsame⟩ := hnewest.covers g hg
    exact ⟨f.tool, List.mem_map_of_mem hf,
      (hi f (hnewest.newest f hf).1).trans (hsame.trans hname)⟩

theorem Titled.isWrapped {i : Injector} (hi : i.Titled) {t : Tool}
    (ht : t ∈ i.declaredTools) : i.isWrapped t.function = true :=
  isWrapped_eq_true.mpr ((hi.exists_declaredTool_iff t.function).mp ⟨t, ht, rfl⟩)

/-- Books with the same entries, in another order. -/
structure Reorders (j i : Injector) : Prop where
  functions : j.functions.Perm i.functions
  /-- The lists of dependent functions may be in another order, and each of them too. -/
  dependents : ∃ listing, j.dependents.Perm listing ∧
    List.Forall₂ (fun entry other => entry.1 = other.1 ∧ entry.2.Perm other.2)
      listing i.dependents

variable {i j : Injector}

theorem Reorders.newest_eq (h : Reorders j i) (hi : i.Books) : j.newest = i.newest := by
  have hdistinct : (j.functions.map TrackedFunction.key).Nodup :=
    (h.functions.map TrackedFunction.key).nodup_iff.mpr hi.distinct
  have hj := newest_represents j
  have hi' := newest_represents i
  refine hj.ordered.eq_of_mem_iff hi'.ordered fun f => ?_
  rw [hj.mem_iff hdistinct, hi'.mem_iff hi.distinct]
  simp only [h.functions.mem_iff]

/-- Books in another order have the same capabilities, and list the same functions for
them. -/
theorem Reorders.listing (h : Reorders j i) :
    (j.dependents.map Prod.fst).Perm (i.dependents.map Prod.fst) ∧
      ∀ capability key, Lists j.dependents capability key ↔
        Lists i.dependents capability key := by
  obtain ⟨listing, hperm, hsame⟩ := h.dependents
  have hmoved : ∀ capability key, Lists j.dependents capability key ↔
      Lists listing capability key := fun capability key => by
    simp only [Lists, hperm.mem_iff]
  have hentries : listing.map Prod.fst = i.dependents.map Prod.fst ∧
      ∀ capability key, Lists listing capability key ↔
        Lists i.dependents capability key := by
    clear hperm hmoved
    generalize i.dependents = others at hsame
    induction hsame with
    | nil => exact ⟨rfl, fun _ _ => Iff.rfl⟩
    | @cons entry other rest others hfirst hrest ih =>
        obtain ⟨hname, hkeys⟩ := hfirst
        refine ⟨by rw [List.map_cons, List.map_cons, hname, ih.1], ?_⟩
        intro capability key
        rw [lists_cons, lists_cons, hname, hkeys.mem_iff, ih.2]
  refine ⟨(hperm.map Prod.fst).trans (.of_eq hentries.1), fun capability key => ?_⟩
  rw [hmoved, hentries.2]

/-- The order in which the books are kept does not show. -/
theorem Reorders.views (h : Reorders j i) (hi : i.Books) :
    j.declaredTools = i.declaredTools ∧
      (∀ capability name, j.localCapability? capability name =
        i.localCapability? capability name) ∧
      ∀ capability, j.functionsNeeding capability = i.functionsNeeding capability := by
  have hnewest := h.newest_eq hi
  obtain ⟨hnames, hlists⟩ := h.listing
  refine ⟨by rw [declaredTools, hnewest, declaredTools], ?_, ?_⟩
  · intro capability name
    rw [localCapability?, newestNamed?, hnewest, localCapability?, newestNamed?]
  · intro capability
    have hkeys : ∀ key, key ∈ j.dependentsOf capability ↔ key ∈ i.dependentsOf capability := by
      intro key
      rw [mem_dependentsOf (hnames.nodup_iff.mpr hi.orderly.names), hlists,
        mem_dependentsOf hi.orderly.names]
    rw [functionsNeeding_eq, functionsNeeding_eq]
    apply Tags.Ordered.insertAll_congr List.Pairwise.nil
    intro name
    simp only [List.mem_map, hkeys]

end Injector

namespace Heap

/-- Whatever is done with a new heap, its functions are known by their names. -/
theorem Uses.titled {u : Usage} {later : Heap} (huses : Uses u {} later) :
    later.injector.Titled := by
  refine (huses.keeps (P := fun h => h.AtRest ∧ h.injector.Titled) ?_
    ⟨atRest_empty, fun f hf => by cases hf⟩).2
  rintro h next huse ⟨hrest, htitled⟩
  refine ⟨huse.atRest hrest, ?_⟩
  rcases huse.entries hrest with ⟨tool, mode, owned, -, heq⟩ | ⟨table, hreleases⟩
  · rw [heq]
    intro f hf
    rcases List.mem_append.mp hf with hf | hf
    · exact htitled f hf
    · rw [List.mem_singleton.mp hf]
      rfl
  · intro f hf
    exact htitled f (hreleases.shrinks.functions.subset hf)

end Heap

end CapabilityMesh
