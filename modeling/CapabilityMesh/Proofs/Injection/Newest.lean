/-
The newest wrapped function of each name.  The list that the injector makes is
strictly ordered by name, has a function for every name that is wrapped, and the one
that it has is the one with the greatest number.
-/
import Mathlib.Data.List.Nodup
import CapabilityMesh.Injection.Injector
import CapabilityMesh.Proofs.Sorted

namespace CapabilityMesh

/-- Something that ranks above everything in a list is new there. -/
theorem nodup_append_greatest {α : Type} {items : List α} {newest : α} (rank : α → Nat)
    (hitems : items.Nodup) (hbelow : ∀ item ∈ items, rank item < rank newest) :
    (items ++ [newest]).Nodup := by
  have hfresh : newest ∉ items := fun hmem => Nat.lt_irrefl _ (hbelow newest hmem)
  simpa using hitems.concat hfresh

theorem FunctionKey.eq_of_parts {a b : FunctionKey} (hname : a.name = b.name)
    (hid : a.id = b.id) : a = b := by
  change (⟨a.name, a.id⟩ : FunctionKey) = ⟨b.name, b.id⟩
  rw [hname, hid]

namespace Injector

/-- A function that has the greatest number among the wrapped functions of a name. -/
structure IsNewest (i : Injector) (name : String) (f : TrackedFunction) : Prop where
  wrapped : f ∈ i.functions
  named : f.key.name = name
  newest : ∀ g ∈ i.functions, g.key.name = name → g.key.id ≤ f.key.id

/-- Functions in strict order of their names. -/
def NameOrdered (fs : List TrackedFunction) : Prop :=
  fs.Pairwise fun f g => f.key.name < g.key.name

theorem NameOrdered.sorted {fs : List TrackedFunction} (h : NameOrdered fs) :
    Sorted.Ordered (fun f => f.key.name) (fun a b => a < b) fs := h

/-- To put a function in the place of an older one is to put it in its place, in the order
of the names. -/
theorem insertNewest_eq_put (f : TrackedFunction) (l : List TrackedFunction) :
    insertNewest f l =
      Sorted.put (fun f => f.key.name) (fun a b => a < b)
        (fun f g => decide (f.key.id < g.key.id)) l f := by
  induction l with
  | nil => rfl
  | cons first rest ih =>
      rw [insertNewest, ih]
      simp only [Sorted.put, decide_eq_true_eq]

/-- What is in the list after a function was put into it: the function, unless a
newer one of its name was there, and everything else but an older one of its name. -/
theorem mem_insertNewest_iff {l : List TrackedFunction} (hl : NameOrdered l)
    (f g : TrackedFunction) :
    g ∈ insertNewest f l ↔
      (g ∈ l ∧ (g.key.name = f.key.name → f.key.id < g.key.id)) ∨
      (g = f ∧ ∀ other ∈ l, other.key.name = f.key.name → other.key.id ≤ f.key.id) := by
  rw [insertNewest_eq_put, hl.sorted.mem_put_iff]
  simp only [decide_eq_true_eq, decide_eq_false_iff_not, Nat.not_lt]

theorem insertNewest_ordered {l : List TrackedFunction} (hl : NameOrdered l)
    (f : TrackedFunction) : NameOrdered (insertNewest f l) := by
  rw [insertNewest_eq_put]
  exact hl.sorted.put f

/-- A list that has the newest of some functions for each of their names. -/
structure Represents (fs l : List TrackedFunction) : Prop where
  ordered : NameOrdered l
  newest : ∀ f ∈ l, f ∈ fs ∧
    ∀ g ∈ fs, g.key.name = f.key.name → g.key.id ≤ f.key.id
  covers : ∀ g ∈ fs, ∃ f ∈ l, f.key.name = g.key.name

theorem Represents.insert {fs l : List TrackedFunction} (h : Represents fs l)
    (f : TrackedFunction) : Represents (fs ++ [f]) (insertNewest f l) := by
  have hmem := mem_insertNewest_iff h.ordered f
  refine ⟨insertNewest_ordered h.ordered f, ?_, ?_⟩
  · intro g hg
    rcases (hmem g).mp hg with ⟨hl, hid⟩ | ⟨rfl, hall⟩
    · obtain ⟨hfs, hnewest⟩ := h.newest g hl
      refine ⟨List.mem_append_left [f] hfs, ?_⟩
      intro other hother hname
      rcases List.mem_append.mp hother with hother | hother
      · exact hnewest other hother hname
      · rw [List.mem_singleton.mp hother] at hname ⊢
        exact Nat.le_of_lt (hid hname.symm)
    · refine ⟨List.mem_append_right fs List.mem_cons_self, ?_⟩
      intro other hother hname
      rcases List.mem_append.mp hother with hother | hother
      · obtain ⟨kept, hkept, hsame⟩ := h.covers other hother
        have hbelow := (h.newest kept hkept).2 other hother hsame.symm
        exact Nat.le_trans hbelow (hall kept hkept (hsame.trans hname))
      · obtain rfl := List.mem_singleton.mp hother
        exact Nat.le_refl _
  · intro g hg
    by_cases hnewer : ∃ other ∈ l, other.key.name = f.key.name ∧ f.key.id < other.key.id
    · -- A newer function of the name is there already, and it stays.
      obtain ⟨newer, hl, hname, hid⟩ := hnewer
      have hstays : newer ∈ insertNewest f l := (hmem newer).mpr (Or.inl ⟨hl, fun _ => hid⟩)
      rcases List.mem_append.mp hg with hg | hg
      · obtain ⟨kept, hkept, hsame⟩ := h.covers g hg
        by_cases hkeptName : kept.key.name = f.key.name
        · exact ⟨newer, hstays, hname.trans (hkeptName.symm.trans hsame)⟩
        · exact ⟨kept,
            (hmem kept).mpr (Or.inl ⟨hkept, fun h => absurd h hkeptName⟩), hsame⟩
      · rw [List.mem_singleton.mp hg]
        exact ⟨newer, hstays, hname⟩
    · have hf : f ∈ insertNewest f l := by
        refine (hmem f).mpr (Or.inr ⟨rfl, ?_⟩)
        intro other hother hname
        exact Nat.not_lt.mp fun hlt => hnewer ⟨other, hother, hname, hlt⟩
      rcases List.mem_append.mp hg with hg | hg
      · obtain ⟨kept, hkept, hsame⟩ := h.covers g hg
        by_cases hname : kept.key.name = f.key.name
        · exact ⟨f, hf, hname.symm.trans hsame⟩
        · exact ⟨kept, (hmem kept).mpr (Or.inl ⟨hkept, fun h => absurd h hname⟩), hsame⟩
      · rw [List.mem_singleton.mp hg]
        exact ⟨f, hf, rfl⟩

theorem Represents.insertAll {fs l : List TrackedFunction} (h : Represents fs l)
    (gs : List TrackedFunction) :
    Represents (fs ++ gs) (gs.foldl (fun newest f => insertNewest f newest) l) := by
  induction gs generalizing fs l with
  | nil => simpa using h
  | cons first rest ih =>
      rw [List.foldl_cons, List.append_cons]
      exact ih (h.insert first)

/-- Of functions that have keys of their own, such a list has those that are the newest of
their names. -/
theorem Represents.mem_iff {fs l : List TrackedFunction} (h : Represents fs l)
    (hdistinct : (fs.map TrackedFunction.key).Nodup) {f : TrackedFunction} :
    f ∈ l ↔ f ∈ fs ∧ ∀ g ∈ fs, g.key.name = f.key.name → g.key.id ≤ f.key.id := by
  refine ⟨h.newest f, ?_⟩
  rintro ⟨hf, hgreatest⟩
  obtain ⟨kept, hkept, hname⟩ := h.covers f hf
  obtain ⟨hwrapped, hkeptGreatest⟩ := h.newest kept hkept
  have hid : kept.key.id = f.key.id :=
    Nat.le_antisymm (hgreatest kept hwrapped hname) (hkeptGreatest f hf hname.symm)
  rw [← List.inj_on_of_nodup_map hdistinct hwrapped hf (FunctionKey.eq_of_parts hname hid)]
  exact hkept

/-- The injector's list has the newest function of every name that is wrapped. -/
theorem newest_represents (i : Injector) : Represents i.functions i.newest := by
  have hempty : Represents [] [] := ⟨List.Pairwise.nil, by simp, by simp⟩
  exact hempty.insertAll i.functions

theorem newestNamed?_some {i : Injector} {name : String} {f : TrackedFunction}
    (hfind : i.newestNamed? name = some f) : i.IsNewest name f := by
  have hmem := List.mem_of_find?_eq_some hfind
  have hname : f.key.name = name := by simpa using List.find?_some hfind
  obtain ⟨hwrapped, hnewest⟩ := (newest_represents i).newest f hmem
  refine ⟨hwrapped, hname, ?_⟩
  intro g hg hsame
  exact hnewest g hg (hsame.trans hname.symm)

theorem newestNamed?_none {i : Injector} {name : String}
    (hfind : i.newestNamed? name = none) : ∀ f ∈ i.functions, f.key.name ≠ name := by
  intro f hf hname
  obtain ⟨kept, hkept, hsame⟩ := (newest_represents i).covers f hf
  have hother := List.find?_eq_none.mp hfind kept hkept
  rw [hsame, hname] at hother
  simp at hother

end Injector

end CapabilityMesh
