/-
Who holds what, as a heap goes from use to use.  A function is wrapped exactly as long
as a handle to it is held somewhere, and code is in memory exactly as long as something
holds it.  Code holds handles to older functions alone, so no code comes to hold itself.
-/
import Mathlib.Data.List.Nodup
import CapabilityMesh.Proofs.Injection.Settling

namespace CapabilityMesh

/-- The function whose code a loose thing keeps in memory. -/
def Loose.target? : Loose → Option FunctionKey
  | handle key => some key
  | code key => some key
  | value v => v.target?
  | released _ _ _ => none

@[simp] theorem Loose.target?_handle (key : FunctionKey) :
    (handle key).target? = some key := rfl

@[simp] theorem Loose.target?_code (key : FunctionKey) :
    (code key).target? = some key := rfl

@[simp] theorem Loose.target?_value (v : Value) : (value v).target? = v.target? := rfl

@[simp] theorem Loose.target?_released (key : FunctionKey) (count : Nat) (isLocked : Bool) :
    (released key count isLocked).target? = none := rfl

namespace Injector

theorem find?_isSome_iff (i : Injector) (key : FunctionKey) :
    (i.find? key).isSome = true ↔ ∃ f ∈ i.functions, f.key = key := by
  simp [find?, List.find?_isSome]

end Injector

namespace Heap

theorem hasHandle_iff (h : Heap) (key : FunctionKey) :
    h.hasHandle key = true ↔
      key ∈ h.handles ∨ (∃ code ∈ h.codes, key ∈ code.owned) ∨ .handle key ∈ h.loose := by
  simp [hasHandle, or_assoc]

theorem isHeldByValue_iff (h : Heap) (key : FunctionKey) :
    h.isHeldByValue key = true ↔
      (∃ value ∈ h.values, value.target? = some key) ∨
      (∃ entry ∈ h.injector.table, entry.2.target? = some key) ∨
      ∃ value, .value value ∈ h.loose ∧ value.target? = some key := by
  rw [isHeldByValue, Bool.or_eq_true, Bool.or_eq_true, or_assoc]
  refine or_congr (by simp) (or_congr (by simp) ?_)
  rw [List.any_eq_true]
  constructor
  · rintro ⟨thing, hthing, htarget⟩
    cases thing with
    | value value => exact ⟨value, hthing, by simpa using htarget⟩
    | _ => cases htarget
  · rintro ⟨value, hvalue, htarget⟩
    exact ⟨.value value, hvalue, by simpa using htarget⟩

/-- Code is held by the books, by handles, by values, and by loose things. -/
theorem isCodeHeld_iff (h : Heap) (key : FunctionKey) :
    h.isCodeHeld key = true ↔
      (h.injector.find? key).isSome = true ∨
      (key ∈ h.handles ∨ ∃ code ∈ h.codes, key ∈ code.owned) ∨
      ((∃ value ∈ h.values, value.target? = some key) ∨
        ∃ entry ∈ h.injector.table, entry.2.target? = some key) ∨
      ∃ thing ∈ h.loose, thing.target? = some key := by
  have hloose : (∃ thing ∈ h.loose, thing.target? = some key) ↔
      .handle key ∈ h.loose ∨
        (∃ value, .value value ∈ h.loose ∧ value.target? = some key) ∨
        .code key ∈ h.loose := by
    constructor
    · rintro ⟨thing, hthing, htarget⟩
      cases thing with
      | handle other =>
          cases htarget
          exact Or.inl hthing
      | code other =>
          cases htarget
          exact Or.inr (Or.inr hthing)
      | value value => exact Or.inr (Or.inl ⟨value, hthing, htarget⟩)
      | released _ _ _ => cases htarget
    · rintro (hhandle | ⟨value, hvalue, htarget⟩ | hcode)
      · exact ⟨_, hhandle, rfl⟩
      · exact ⟨_, hvalue, htarget⟩
      · exact ⟨_, hcode, rfl⟩
  rw [isCodeHeld, Bool.or_eq_true, Bool.or_eq_true, Bool.or_eq_true, hasHandle_iff,
    isHeldByValue_iff, List.contains_iff_mem, hloose]
  exact iff_of_eq (by ac_rfl)

theorem code?_isSome_iff (h : Heap) (key : FunctionKey) :
    (h.code? key).isSome = true ↔ ∃ code ∈ h.codes, code.key = key := by
  simp [code?, List.find?_isSome]

/-- Whether code is in memory that nothing holds. -/
def Lingers (h : Heap) (key : FunctionKey) : Prop :=
  (h.code? key).isSome = true ∧ ¬ h.isCodeHeld key = true

/-- A heap in which the functions with a handle are wrapped, what is held is in memory,
and code holds handles to older functions alone. -/
structure Owned (h : Heap) : Prop where
  held : h.isHeld = true
  wrapped : ∀ key, (h.injector.find? key).isSome = true ↔ h.hasHandle key = true
  kept : ∀ key, h.isCodeHeld key = true → (h.code? key).isSome = true
  ordered : h.injector.table.Ordered
  distinct : (h.codes.map FunctionCode.key).Nodup
  below : ∀ code ∈ h.codes, code.key.id < h.injector.nextId
  older : ∀ code ∈ h.codes, ∀ key ∈ code.owned, key.id < code.key.id

/-- A heap in which nothing is in memory that is not held. -/
structure Sound (h : Heap) : Prop extends h.Owned where
  tidy : ∀ key, ¬ h.Lingers key

theorem sound_empty : Sound {} where
  held := rfl
  wrapped _ := by simp [Injector.find?, hasHandle]
  kept _ hheld := by simp [isCodeHeld_iff, Injector.find?] at hheld
  ordered := DependencyTable.ordered_nil
  distinct := List.nodup_nil
  below _ hcode := by cases hcode
  older _ hcode := by cases hcode
  tidy _ hlingers := by simp [Lingers, code?] at hlingers

/-- What a heap has in common with an earlier one that has the same code in memory:
everything but who holds the code. -/
structure Rehangs (h later : Heap) : Prop where
  held : later.isHeld = h.isHeld
  codes : later.codes = h.codes
  nextId : later.injector.nextId = h.injector.nextId
  ordered : h.injector.table.Ordered → later.injector.table.Ordered
  wrapped : (∀ key, (h.injector.find? key).isSome = true ↔ h.hasHandle key = true) →
    ∀ key, (later.injector.find? key).isSome = true ↔ later.hasHandle key = true

theorem Rehangs.code? {h later : Heap} (hrehangs : Rehangs h later) (key : FunctionKey) :
    later.code? key = h.code? key := by
  rw [Heap.code?, hrehangs.codes, Heap.code?]

theorem Rehangs.owned {h later : Heap} (hrehangs : Rehangs h later) (ho : h.Owned)
    (hless : ∀ key, later.isCodeHeld key = true → h.isCodeHeld key = true) :
    later.Owned := by
  refine ⟨hrehangs.held.trans ho.held, hrehangs.wrapped ho.wrapped, ?_,
    hrehangs.ordered ho.ordered, ?_, ?_, ?_⟩
  · intro key hkey
    rw [hrehangs.code?]
    exact ho.kept key (hless key hkey)
  · rw [hrehangs.codes]
    exact ho.distinct
  · rw [hrehangs.codes, hrehangs.nextId]
    exact ho.below
  · rw [hrehangs.codes]
    exact ho.older

/-- Holds that only go from one place to another leave a heap sound. -/
theorem Rehangs.sound {h later : Heap} (hrehangs : Rehangs h later) (hs : h.Sound)
    (hholds : ∀ key, later.isCodeHeld key = true ↔ h.isCodeHeld key = true) :
    later.Sound := by
  refine ⟨hrehangs.owned hs.toOwned fun key => (hholds key).mp, ?_⟩
  intro key hlingers
  rw [Lingers, hrehangs.code?, hholds] at hlingers
  exact hs.tidy key hlingers

theorem Owned.code_unique {h : Heap} (ho : h.Owned) {code other : FunctionCode}
    (hcode : code ∈ h.codes) (hother : other ∈ h.codes) (hkey : code.key = other.key) :
    code = other :=
  List.inj_on_of_nodup_map ho.distinct hcode hother hkey

/-- The heap without some code, whose handles are loose then. -/
def withoutCode (h : Heap) (code : FunctionCode) : Heap :=
  { h with
    codes := h.codes.filter fun c => c.key ≠ code.key
    loose := code.owned.map .handle ++ h.loose }

theorem mem_withoutCode_codes (h : Heap) (code other : FunctionCode) :
    other ∈ (h.withoutCode code).codes ↔ other ∈ h.codes ∧ other.key ≠ code.key := by
  simp [withoutCode]

theorem withoutCode_code? (h : Heap) (code : FunctionCode) (key : FunctionKey) :
    ((h.withoutCode code).code? key).isSome = true ↔
      (h.code? key).isSome = true ∧ key ≠ code.key := by
  rw [code?_isSome_iff, code?_isSome_iff]
  constructor
  · rintro ⟨other, hother, rfl⟩
    obtain ⟨hmem, hne⟩ := (mem_withoutCode_codes h code other).mp hother
    exact ⟨⟨other, hmem, rfl⟩, hne⟩
  · rintro ⟨⟨other, hother, rfl⟩, hne⟩
    exact ⟨other, (mem_withoutCode_codes h code other).mpr ⟨hother, hne⟩, rfl⟩

/-- The handles of code that goes are held by other code before, or else loose. -/
theorem owned_withoutCode {h : Heap} (ho : h.Owned) {code : FunctionCode}
    (hcode : code ∈ h.codes) (key : FunctionKey) :
    (∃ other ∈ (h.withoutCode code).codes, key ∈ other.owned) ∨ key ∈ code.owned ↔
      ∃ other ∈ h.codes, key ∈ other.owned := by
  constructor
  · rintro (⟨other, hother, hkey⟩ | hkey)
    · exact ⟨other, ((mem_withoutCode_codes h code other).mp hother).1, hkey⟩
    · exact ⟨code, hcode, hkey⟩
  · rintro ⟨other, hother, hkey⟩
    by_cases hsame : other.key = code.key
    · rw [ho.code_unique hother hcode hsame] at hkey
      exact Or.inr hkey
    · exact Or.inl ⟨other, (mem_withoutCode_codes h code other).mpr ⟨hother, hsame⟩, hkey⟩

theorem hasHandle_withoutCode {h : Heap} (ho : h.Owned) {code : FunctionCode}
    (hcode : code ∈ h.codes) (key : FunctionKey) :
    (h.withoutCode code).hasHandle key = true ↔ h.hasHandle key = true := by
  have hloose : .handle key ∈ (h.withoutCode code).loose ↔
      key ∈ code.owned ∨ .handle key ∈ h.loose := by
    simp [withoutCode]
  rw [hasHandle_iff, hasHandle_iff, hloose, ← owned_withoutCode ho hcode key, or_assoc]
  rfl

theorem isCodeHeld_withoutCode {h : Heap} (ho : h.Owned) {code : FunctionCode}
    (hcode : code ∈ h.codes) (key : FunctionKey) :
    (h.withoutCode code).isCodeHeld key = true ↔ h.isCodeHeld key = true := by
  have hloose : (∃ thing ∈ (h.withoutCode code).loose, thing.target? = some key) ↔
      key ∈ code.owned ∨ ∃ thing ∈ h.loose, thing.target? = some key := by
    simp [withoutCode, or_and_right, exists_or]
  rw [isCodeHeld_iff, isCodeHeld_iff, hloose, ← owned_withoutCode ho hcode key]
  simp only [withoutCode]
  exact iff_of_eq (by ac_rfl)

/-- Code that nothing holds can go. -/
theorem withoutCode_owned {h : Heap} (ho : h.Owned) {code : FunctionCode}
    (hcode : code ∈ h.codes) (hloose : ¬ h.isCodeHeld code.key = true) :
    (h.withoutCode code).Owned := by
  refine ⟨ho.held, ?_, ?_, ho.ordered, ?_, ?_, ?_⟩
  · intro key
    rw [hasHandle_withoutCode ho hcode]
    exact ho.wrapped key
  · intro key hkey
    rw [isCodeHeld_withoutCode ho hcode] at hkey
    rw [withoutCode_code?]
    refine ⟨ho.kept key hkey, ?_⟩
    rintro rfl
    exact hloose hkey
  · exact ho.distinct.sublist (List.filter_sublist.map _)
  · intro other hother
    exact ho.below other ((mem_withoutCode_codes h code other).mp hother).1
  · intro other hother
    exact ho.older other ((mem_withoutCode_codes h code other).mp hother).1

/-- To take code apart that nothing holds makes a heap sound in which nothing else
lingers. -/
theorem closeCode_sound {h : Heap} (ho : h.Owned) {key : FunctionKey}
    (hlingers : ∀ other, h.Lingers other → other = key) : (h.closeCode key).Sound := by
  rw [closeCode]
  split
  · rename_i code hcode
    obtain ⟨hmem, rfl⟩ := code?_mem hcode
    split
    · rename_i hheld
      refine ⟨ho, fun other hother => ?_⟩
      rw [hlingers other hother] at hother
      exact hother.2 hheld
    · rename_i hloose
      refine ⟨withoutCode_owned ho hmem hloose, ?_⟩
      rintro other ⟨hsome, hnot⟩
      obtain ⟨hbefore, hne⟩ := (withoutCode_code? h code other).mp hsome
      have hnot' := mt (isCodeHeld_withoutCode ho hmem other).mpr hnot
      exact hne (hlingers other ⟨hbefore, hnot'⟩)
  · rename_i hnone
    refine ⟨ho, fun other hother => ?_⟩
    rw [hlingers other hother, Lingers, hnone] at hother
    cases hother.1

/-- Where one hold on code went, the code is taken apart if that was the last one. -/
theorem Rehangs.closeCode_sound {h later : Heap} (hrehangs : Rehangs h later)
    (hs : h.Sound) {key : FunctionKey}
    (hless : ∀ other, later.isCodeHeld other = true → h.isCodeHeld other = true)
    (hholds : ∀ other, other ≠ key → h.isCodeHeld other = true →
      later.isCodeHeld other = true) :
    (later.closeCode key).Sound := by
  refine Heap.closeCode_sound (hrehangs.owned hs.toOwned hless) ?_
  rintro other ⟨hsome, hnot⟩
  by_contra hne
  rw [hrehangs.code?] at hsome
  exact hs.tidy other ⟨hsome, fun hother => hnot (hholds other hne hother)⟩

end Heap

end CapabilityMesh
