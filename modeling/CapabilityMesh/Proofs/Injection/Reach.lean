/-
What stays wrapped when the application holds nothing any more.  Then only code holds
handles, and only the books and the values of the table hold code.  As code holds handles
to older functions alone, whatever is left can be reached from the values of the table.
-/
import CapabilityMesh.Proofs.Injection.Books
import CapabilityMesh.Proofs.Injection.Upkeep

namespace CapabilityMesh

namespace Heap

/-- Code that can be reached from the values of the table, through the handles that code
holds. -/
inductive Reached (h : Heap) : FunctionKey → Prop where
  | stored {entry : DependencyKey × Value} {key : FunctionKey}
      (hentry : entry ∈ h.injector.table) (htarget : entry.2.target? = some key) :
      Reached h key
  | owned {code : FunctionCode} {key : FunctionKey} (hcode : code ∈ h.codes)
      (hreached : Reached h code.key) (hkey : key ∈ code.owned) : Reached h key

/-- A heap of which the application holds nothing. -/
structure LeftAlone (h : Heap) : Prop where
  handles : h.handles = []
  values : h.values = []
  loose : h.loose = []

theorem LeftAlone.hasHandle_iff {h : Heap} (hleft : h.LeftAlone) (key : FunctionKey) :
    h.hasHandle key = true ↔ ∃ code ∈ h.codes, key ∈ code.owned := by
  rw [Heap.hasHandle_iff, hleft.handles, hleft.loose]
  simp

/-- Code that is left in memory belongs to a function that is still wrapped, or a value
of the table leads to it. -/
theorem LeftAlone.code_held {h : Heap} (hleft : h.LeftAlone) (hs : h.Sound)
    {code : FunctionCode} (hcode : code ∈ h.codes) :
    h.hasHandle code.key = true ∨ h.Reached code.key := by
  have hinMemory : (h.code? code.key).isSome = true :=
    (code?_isSome_iff h code.key).mpr ⟨code, hcode, rfl⟩
  have hheld : h.isCodeHeld code.key = true :=
    Decidable.byContradiction fun hnot => hs.tidy code.key ⟨hinMemory, hnot⟩
  rw [isCodeHeld_iff, hs.wrapped, hleft.handles, hleft.values, hleft.loose] at hheld
  rcases hheld with hhandle | howned | hvalue | hloose
  · exact Or.inl hhandle
  · refine Or.inl ((hleft.hasHandle_iff _).mpr ?_)
    simpa using howned
  · obtain ⟨entry, hentry, htarget⟩ :
        ∃ entry ∈ h.injector.table, entry.2.target? = some code.key := by
      simpa using hvalue
    exact Or.inr (.stored hentry htarget)
  · simp at hloose

/-- All code that holds handles can be reached.  Its holders have greater and greater
numbers, so the way back to the table ends. -/
theorem LeftAlone.code_reached {h : Heap} (hleft : h.LeftAlone) (hs : h.Sound) (n : Nat) :
    ∀ code ∈ h.codes, h.injector.nextId ≤ code.key.id + n → h.Reached code.key := by
  -- The induction is on how far the number is from the next one that is given.
  induction n with
  | zero =>
      intro code hcode hbound
      have hbelow := hs.below code hcode
      omega
  | succ n ih =>
      intro code hcode hbound
      rcases hleft.code_held hs hcode with hhandle | hreached
      · obtain ⟨holder, hholder, hkey⟩ := (hleft.hasHandle_iff _).mp hhandle
        have hnewer := hs.older holder hholder code.key hkey
        exact .owned hholder (ih holder hholder (by omega)) hkey
      · exact hreached

/-- A function is still wrapped exactly if code that can be reached holds a handle to
it. -/
theorem LeftAlone.wrapped_iff {h : Heap} (hleft : h.LeftAlone) (hs : h.Sound)
    (key : FunctionKey) :
    (h.injector.find? key).isSome = true ↔
      ∃ code ∈ h.codes, h.Reached code.key ∧ key ∈ code.owned := by
  rw [hs.wrapped, hleft.hasHandle_iff]
  refine exists_congr fun code => and_congr_right fun hcode => ?_
  have hreached := hleft.code_reached hs h.injector.nextId code hcode (by omega)
  exact (and_iff_right hreached).symm

/-- Where the code that values of the table lead to holds no handles, nothing else is
reached from it. -/
theorem Reached.owned_nil {h : Heap}
    (hstored : ∀ entry ∈ h.injector.table, ∀ code ∈ h.codes,
      entry.2.target? = some code.key → code.owned = [])
    {key : FunctionKey} (hreached : h.Reached key) :
    ∀ code ∈ h.codes, code.key = key → code.owned = [] := by
  induction hreached with
  | @stored entry key hentry htarget =>
      intro code hcode hkey
      exact hstored entry hentry code hcode (by rw [hkey, htarget])
  | @owned holder key hholder _ hkey ih =>
      have hnone := ih holder hholder rfl
      rw [hnone] at hkey
      cases hkey

/-- Nothing is wrapped any more exactly if no value of the table leads to code that
holds handles. -/
theorem LeftAlone.functions_nil_iff {h : Heap} (hleft : h.LeftAlone) (hs : h.Sound) :
    h.injector.functions = [] ↔
      ∀ entry ∈ h.injector.table, ∀ code ∈ h.codes,
        entry.2.target? = some code.key → code.owned = [] := by
  have hgone : h.injector.functions = [] ↔
      ∀ key, ¬ (h.injector.find? key).isSome = true := by
    constructor
    · intro hempty key hfind
      obtain ⟨f, hf, -⟩ := (Injector.find?_isSome_iff _ _).mp hfind
      rw [hempty] at hf
      cases hf
    · intro hnone
      refine List.eq_nil_iff_forall_not_mem.mpr fun f hf => hnone f.key ?_
      exact (Injector.find?_isSome_iff _ _).mpr ⟨f, hf, rfl⟩
  rw [hgone]
  constructor
  · intro hnone entry hentry code hcode htarget
    refine List.eq_nil_iff_forall_not_mem.mpr fun key hkey => hnone key ?_
    exact (hleft.wrapped_iff hs key).mpr ⟨code, hcode, .stored hentry htarget, hkey⟩
  · intro hstored key hfind
    obtain ⟨code, hcode, hreached, hkey⟩ := (hleft.wrapped_iff hs key).mp hfind
    rw [hreached.owned_nil hstored code hcode rfl] at hkey
    cases hkey

end Heap

namespace Injector

/-- Where no function is wrapped, none is listed and none is declared. -/
theorem Books.nothing_left {i : Injector} (hi : i.Books) (hempty : i.functions = []) :
    (∀ capability, i.functionsNeeding capability = []) ∧ i.declaredTools = [] := by
  constructor
  · intro capability
    have hnone : i.dependentsOf capability = [] := by
      refine List.eq_nil_iff_forall_not_mem.mpr fun key hkey => ?_
      rw [mem_dependentsOf hi.orderly.names, hi.inverse, hempty] at hkey
      obtain ⟨f, hf, -⟩ := hkey
      cases hf
    rw [functionsNeeding, hnone]
    rfl
  · rw [declaredTools, newest, hempty]
    rfl

end Injector

end CapabilityMesh
