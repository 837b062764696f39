/-
The books of an injector when functions are released, one after the other.  A release
strikes a function out, and the values of its name with the last function of that name.
So the books only lose entries, they lose none without counting a release, and a value
goes exactly where the last function of its name did.
-/
import Mathlib.Data.List.Basic
import CapabilityMesh.Injection.Injector
import CapabilityMesh.Proofs.Injection.Table

namespace CapabilityMesh

namespace Injector

/-- The books of an injector after things were let go: what is left of them.
Either nothing was released, or each release was counted. -/
structure Shrinks (before after : Injector) : Prop where
  functions : after.functions.Sublist before.functions
  table : after.table.Sublist before.table
  nextId : after.nextId = before.nextId
  released : after = before ∨
    before.generation < after.generation ∧
      after.functions.length < before.functions.length

theorem Shrinks.refl (i : Injector) : Shrinks i i :=
  ⟨List.Sublist.refl _, List.Sublist.refl _, rfl, Or.inl rfl⟩

theorem Shrinks.trans {i j k : Injector} (hij : Shrinks i j) (hjk : Shrinks j k) :
    Shrinks i k := by
  refine ⟨hjk.functions.trans hij.functions, hjk.table.trans hij.table,
    hjk.nextId.trans hij.nextId, ?_⟩
  rcases hij.released with rfl | hfirst
  · exact hjk.released
  · rcases hjk.released with rfl | hsecond
    · exact Or.inr hfirst
    · exact Or.inr ⟨Nat.lt_trans hfirst.1 hsecond.1,
        Nat.lt_trans hsecond.2 hfirst.2⟩

theorem Shrinks.generation_le {i j : Injector} (h : Shrinks i j) :
    i.generation ≤ j.generation := by
  rcases h.released with rfl | hlt
  · exact Nat.le_refl _
  · exact Nat.le_of_lt hlt.1

/-- An injector that counts no release is as it was. -/
theorem Shrinks.eq_of_generation {i j : Injector} (h : Shrinks i j)
    (hgeneration : j.generation = i.generation) : j = i := by
  rcases h.released with heq | hlt
  · exact heq
  · omega

theorem find?_mem {i : Injector} {key : FunctionKey} {f : TrackedFunction}
    (hfind : i.find? key = some f) : f ∈ i.functions ∧ f.key = key := by
  refine ⟨List.mem_of_find?_eq_some hfind, ?_⟩
  simpa using List.find?_some hfind

theorem length_forget_lt {i : Injector} {f : TrackedFunction} (hf : f ∈ i.functions) :
    (i.forget f).functions.length < i.functions.length := by
  rw [forget, List.length_filter_lt_length_iff_exists]
  exact ⟨f, hf, by simp⟩

theorem forget_shrinks {i : Injector} {f : TrackedFunction} (hf : f ∈ i.functions) :
    Shrinks i (i.forget f) :=
  ⟨List.filter_sublist, List.Sublist.refl _, rfl,
    Or.inr ⟨Nat.lt_succ_self _, length_forget_lt hf⟩⟩

/-- Struck out together with the values of its own, a function is one release. -/
theorem forget_eraseOwn_shrinks {i : Injector} {f : TrackedFunction}
    (hf : f ∈ i.functions) (name : String) :
    Shrinks i { i.forget f with table := (i.forget f).table.eraseOwn name } :=
  ⟨List.filter_sublist, List.filter_sublist, rfl,
    Or.inr ⟨Nat.lt_succ_self _, length_forget_lt hf⟩⟩

/-- The books without a function, and without the values of its name if it was the
last function of that name. -/
def without (i : Injector) (f : TrackedFunction) : Injector :=
  let rest := i.forget f
  if rest.isWrapped f.key.name then rest
  else { rest with table := rest.table.eraseOwn f.key.name }

theorem without_shrinks {i : Injector} {f : TrackedFunction} (hf : f ∈ i.functions) :
    Shrinks i (i.without f) := by
  simp only [without]
  split
  · exact forget_shrinks hf
  · exact forget_eraseOwn_shrinks hf f.key.name

theorem without_functions (i : Injector) (f : TrackedFunction) :
    (i.without f).functions = i.functions.filter fun g => g.key ≠ f.key := by
  simp only [without]
  split <;> rfl

theorem without_dependents (i : Injector) (f : TrackedFunction) :
    (i.without f).dependents = (i.forget f).dependents := by
  simp only [without]
  split <;> rfl

theorem without_generation (i : Injector) (f : TrackedFunction) :
    (i.without f).generation = i.generation + 1 := by
  simp only [without]
  split <;> rfl

/-- What is left of books when functions are released, one after the other. -/
inductive Releases (i : Injector) : Injector → Prop where
  | refl : Releases i i
  | next {j : Injector} {f : TrackedFunction} (h : Releases i j) (hf : f ∈ j.functions) :
      Releases i (j.without f)

theorem Releases.one {i : Injector} {f : TrackedFunction} (hf : f ∈ i.functions) :
    Releases i (i.without f) :=
  .next .refl hf

theorem Releases.trans {i j k : Injector} (hij : Releases i j) (hjk : Releases j k) :
    Releases i k := by
  induction hjk with
  | refl => exact hij
  | next _ hf ih => exact ih.next hf

theorem Releases.shrinks {i j : Injector} (h : Releases i j) : Shrinks i j := by
  induction h with
  | refl => exact Shrinks.refl i
  | next _ hf ih => exact ih.trans (without_shrinks hf)

/-- Whether the last function of a name went. -/
def orphans (before after : Injector) (name : String) : Bool :=
  before.isWrapped name && !after.isWrapped name

theorem isWrapped_eq_true {i : Injector} {name : String} :
    i.isWrapped name = true ↔ ∃ f ∈ i.functions, f.key.name = name := by
  simp [isWrapped, List.any_eq_true]

theorem isWrapped_forget_of_ne (i : Injector) (f : TrackedFunction) {name : String}
    (hname : name ≠ f.key.name) : (i.forget f).isWrapped name = i.isWrapped name := by
  rw [Bool.eq_iff_iff, isWrapped_eq_true, isWrapped_eq_true]
  constructor
  · rintro ⟨g, hg, hgname⟩
    exact ⟨g, List.mem_of_mem_filter hg, hgname⟩
  · rintro ⟨g, hg, rfl⟩
    have hkey : g.key ≠ f.key := fun heq => hname (by rw [heq])
    exact ⟨g, List.mem_filter.mpr ⟨hg, by simpa using hkey⟩, rfl⟩

theorem without_isWrapped (i : Injector) (f : TrackedFunction) (name : String) :
    (i.without f).isWrapped name = (i.forget f).isWrapped name := by
  simp only [without]
  split <;> rfl

/-- A release takes the values of a name along with its last function. -/
theorem get?_without {i : Injector} {f : TrackedFunction} (hf : f ∈ i.functions)
    (name capability : String) :
    (i.without f).table.get? (.own name capability) =
      if i.orphans (i.without f) name then none
      else i.table.get? (.own name capability) := by
  rw [orphans, without_isWrapped]
  by_cases hname : name = f.key.name
  · subst hname
    have hbefore : i.isWrapped f.key.name = true := isWrapped_eq_true.mpr ⟨f, hf, rfl⟩
    simp only [without, hbefore]
    split
    · rename_i hstill
      rw [hstill]
      rfl
    · rename_i hgone
      rw [DependencyTable.get?_eraseOwn]
      simp [hgone, DependencyKey.isOwnOf]
  · rw [isWrapped_forget_of_ne i f hname]
    have hkept : (i.without f).table.get? (.own name capability) =
        i.table.get? (.own name capability) := by
      simp only [without]
      split
      · rfl
      · rw [DependencyTable.get?_eraseOwn]
        simp [DependencyKey.isOwnOf, hname, forget]
    rw [hkept]
    simp

/-- Shared values stay. -/
theorem get?_without_shared (i : Injector) (f : TrackedFunction) (capability : String) :
    (i.without f).table.get? (.shared capability) = i.table.get? (.shared capability) := by
  simp only [without]
  split
  · rfl
  · rw [DependencyTable.get?_eraseOwn]
    simp [DependencyKey.isOwnOf, forget]

theorem isWrapped_of_sublist {i j : Injector} (hij : j.functions.Sublist i.functions)
    {name : String} (hname : j.isWrapped name = true) : i.isWrapped name = true := by
  obtain ⟨f, hf, hfname⟩ := isWrapped_eq_true.mp hname
  exact isWrapped_eq_true.mpr ⟨f, hij.subset hf, hfname⟩

theorem Shrinks.isWrapped {i j : Injector} (h : Shrinks i j) {name : String}
    (hname : j.isWrapped name = true) : i.isWrapped name = true :=
  isWrapped_of_sublist h.functions hname

/-- What went before or goes now went altogether. -/
theorem orphans_or {i j k : Injector} (hij : j.functions.Sublist i.functions)
    (hjk : k.functions.Sublist j.functions) (name : String) :
    (i.orphans j name || j.orphans k name) = i.orphans k name := by
  have hfirst : j.isWrapped name = true → i.isWrapped name = true :=
    isWrapped_of_sublist hij
  have hsecond : k.isWrapped name = true → j.isWrapped name = true :=
    isWrapped_of_sublist hjk
  simp only [orphans]
  cases hi : i.isWrapped name
  · have hj : j.isWrapped name = false := by simpa [hi] using hfirst
    simp [hj]
  · cases hj : j.isWrapped name
    · have hk : k.isWrapped name = false := by simpa [hj] using hsecond
      simp [hk]
    · simp

/-- Releases take the values of a name along with its last function, and no others. -/
theorem Releases.get?_own {i j : Injector} (h : Releases i j)
    (name capability : String) :
    j.table.get? (.own name capability) =
      if i.orphans j name then none else i.table.get? (.own name capability) := by
  induction h with
  | refl => simp [orphans]
  | @next j f h hf ih =>
      rw [get?_without hf, ih,
        ← orphans_or h.shrinks.functions (without_shrinks hf).functions]
      cases i.orphans j name <;> simp

theorem Releases.get?_shared {i j : Injector} (h : Releases i j) (capability : String) :
    j.table.get? (.shared capability) = i.table.get? (.shared capability) := by
  induction h with
  | refl => rfl
  | next _ _ ih => rw [get?_without_shared, ih]

end Injector

end CapabilityMesh
