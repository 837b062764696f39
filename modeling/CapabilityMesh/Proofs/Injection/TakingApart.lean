/-
What is let go is taken apart, and the heap stays sound.  What goes was held by nothing
else, or by something that still holds it; so only what nothing holds any more is taken
apart, and what that held itself is loose next.
-/
import CapabilityMesh.Proofs.Injection.Ownership

namespace CapabilityMesh

namespace Heap

theorem hasHandle_loose {h : Heap} {first : Loose} {rest : List Loose}
    (hloose : h.loose = first :: rest) (key : FunctionKey) :
    h.hasHandle key = true ↔
      first = .handle key ∨ ({ h with loose := rest } : Heap).hasHandle key = true := by
  rw [hasHandle_iff, hasHandle_iff, hloose, List.mem_cons]
  simp only [or_left_comm, eq_comm]

theorem isCodeHeld_loose {h : Heap} {first : Loose} {rest : List Loose}
    (hloose : h.loose = first :: rest) (key : FunctionKey) :
    h.isCodeHeld key = true ↔
      first.target? = some key ∨
        ({ h with loose := rest } : Heap).isCodeHeld key = true := by
  rw [isCodeHeld_iff, isCodeHeld_iff, hloose]
  simp only [List.exists_mem_cons_iff, or_left_comm]

section Release

variable (h : Heap) (f : TrackedFunction)

theorem release_find? (key : FunctionKey) :
    ((h.release f).injector.find? key).isSome = true ↔
      (h.injector.find? key).isSome = true ∧ key ≠ f.key := by
  rw [Injector.find?_isSome_iff, Injector.find?_isSome_iff, release_injector,
    Injector.without_functions]
  constructor
  · rintro ⟨g, hg, rfl⟩
    rw [List.mem_filter] at hg
    exact ⟨⟨g, hg.1, rfl⟩, by simpa using hg.2⟩
  · rintro ⟨⟨g, hg, rfl⟩, hne⟩
    exact ⟨g, List.mem_filter.mpr ⟨hg, by simpa using hne⟩, rfl⟩

theorem release_hasHandle (key : FunctionKey) :
    (h.release f).hasHandle key = true ↔ h.hasHandle key = true := by
  rw [hasHandle_iff, hasHandle_iff]
  simp only [release]
  split <;> simp

/-- The values that go with a function that is released. -/
def goneWith : List Value :=
  if (h.injector.forget f).isWrapped f.key.name then []
  else h.injector.table.ownOf f.key.name

theorem release_table (p : Value → Prop) :
    (∃ entry ∈ (h.release f).injector.table, p entry.2) ∨ (∃ value ∈ h.goneWith f, p value) ↔
      ∃ entry ∈ h.injector.table, p entry.2 := by
  simp only [release, goneWith]
  split
  · simp [Injector.forget]
  · exact DependencyTable.exists_eraseOwn p h.injector.table f.key.name

theorem release_ordered (hordered : h.injector.table.Ordered) :
    (h.release f).injector.table.Ordered := by
  simp only [release]
  split
  · exact hordered
  · exact hordered.filter _

theorem release_loose (key : FunctionKey) :
    (∃ thing ∈ (h.release f).loose, thing.target? = some key) ↔
      (∃ value ∈ h.goneWith f, value.target? = some key) ∨ f.key = key ∨
        ∃ thing ∈ h.loose, thing.target? = some key := by
  simp only [release, goneWith]
  split <;> simp [or_and_right, exists_or, Injector.forget]

/-- The code of a function that is released is loose, and so are the values that go with
the function. -/
theorem release_isCodeHeld (hf : (h.injector.find? f.key).isSome = true)
    (key : FunctionKey) :
    (h.release f).isCodeHeld key = true ↔ h.isCodeHeld key = true := by
  have hfind : ((h.release f).injector.find? key).isSome = true ∨ f.key = key ↔
      (h.injector.find? key).isSome = true := by
    rw [release_find?]
    by_cases hkey : f.key = key
    · subst hkey
      simp [hf]
    · simp [hkey, Ne.symm hkey]
  have htable := h.release_table f fun value => value.target? = some key
  obtain ⟨hcodes, hhandles, hvalues, -⟩ := h.release_frame f
  rw [isCodeHeld_iff, isCodeHeld_iff, release_loose, ← hfind, ← htable, hhandles, hcodes,
    hvalues]
  exact iff_of_eq (by ac_rfl)

end Release

section Handle

variable {h : Heap} {key : FunctionKey} {rest : List Loose}

/-- A handle that is taken apart holds on to the code for one step more. -/
theorem isCodeHeld_handle (hloose : h.loose = .handle key :: rest) (other : FunctionKey) :
    ({ h with loose := .code key :: rest } : Heap).isCodeHeld other = true ↔
      h.isCodeHeld other = true := by
  rw [isCodeHeld_loose hloose,
    isCodeHeld_loose (h := { h with loose := .code key :: rest }) rfl]
  rfl

theorem hasHandle_handle (hloose : h.loose = .handle key :: rest) (other : FunctionKey) :
    h.hasHandle other = true ↔
      other = key ∨
        ({ h with loose := .code key :: rest } : Heap).hasHandle other = true := by
  rw [hasHandle_loose hloose,
    hasHandle_loose (h := { h with loose := .code key :: rest }) rfl]
  simp only [reduceCtorEq, false_or, Loose.handle.injEq]
  exact or_congr_left eq_comm

/-- A handle goes while there is another one to the same function. -/
theorem takeApart_spareHandle (hs : h.Sound) (hloose : h.loose = .handle key :: rest)
    (hspare : ({ h with loose := .code key :: rest } : Heap).hasHandle key = true) :
    ({ h with loose := .code key :: rest } : Heap).Sound := by
  refine Rehangs.sound (h := h) ⟨rfl, rfl, rfl, id, ?_⟩ hs (isCodeHeld_handle hloose)
  intro hwrapped other
  have hother := hwrapped other
  rw [hasHandle_handle hloose] at hother
  refine hother.trans (or_iff_right_of_imp ?_)
  rintro rfl
  exact hspare

/-- The function to which the last handle goes is released. -/
theorem takeApart_lastHandle (hs : h.Sound) (hloose : h.loose = .handle key :: rest)
    (hlast : ¬ ({ h with loose := .code key :: rest } : Heap).hasHandle key = true) :
    (({ h with loose := .code key :: rest } : Heap).closeFunction key).Sound := by
  have hhandle : h.hasHandle key = true := (hasHandle_handle hloose key).mpr (Or.inl rfl)
  obtain ⟨f, hf⟩ := Option.isSome_iff_exists.mp ((hs.wrapped key).mpr hhandle)
  obtain ⟨-, rfl⟩ := Injector.find?_mem hf
  have hheld := isCodeHeld_handle hloose
  have hhandles := hasHandle_handle hloose
  generalize hmiddle : ({ h with loose := .code f.key :: rest } : Heap) = middle at *
  have hinjector : middle.injector = h.injector := by rw [← hmiddle]
  have hcodes : middle.codes = h.codes := by rw [← hmiddle]
  have hisHeld : middle.isHeld = h.isHeld := by rw [← hmiddle]
  rw [closeFunction, if_pos (hisHeld.trans hs.held), hinjector, hf]
  obtain ⟨hsameCodes, -, -, hnextId⟩ := middle.release_frame f
  refine Rehangs.sound ⟨?_, ?_, ?_, ?_, ?_⟩ hs ?_
  · rw [release_isHeld, hisHeld]
  · rw [hsameCodes, hcodes]
  · rw [hnextId, hinjector]
  · rw [← hinjector]
    exact middle.release_ordered f
  · intro hwrapped other
    rw [release_find?, release_hasHandle, hinjector, hwrapped, hhandles]
    constructor
    · rintro ⟨heq | hother, hne⟩
      · exact absurd heq hne
      · exact hother
    · intro hother
      refine ⟨Or.inr hother, ?_⟩
      rintro rfl
      exact hlast hother
  · intro other
    rw [release_isCodeHeld middle f (by rw [hinjector, hf]; rfl), hheld]

end Handle

/-- A loose thing that is no handle can go without a change to what is wrapped. -/
theorem rehangs_pop {h : Heap} {first : Loose} {rest : List Loose}
    (hloose : h.loose = first :: rest) (hfirst : ∀ key, first ≠ .handle key) :
    Rehangs h { h with loose := rest } := by
  refine ⟨rfl, rfl, rfl, id, ?_⟩
  intro hwrapped key
  refine (hwrapped key).trans ?_
  rw [hasHandle_loose hloose, or_iff_right (hfirst key)]

/-- A hold on code goes, and the code with it if that was the last one. -/
theorem pop_closeCode_sound {h : Heap} {first : Loose} {rest : List Loose}
    (hloose : h.loose = first :: rest) (hs : h.Sound) (hfirst : ∀ key, first ≠ .handle key)
    {key : FunctionKey} (htarget : first.target? = some key) :
    (({ h with loose := rest } : Heap).closeCode key).Sound := by
  refine (rehangs_pop hloose hfirst).closeCode_sound hs ?_ ?_
  · intro other hother
    exact (isCodeHeld_loose hloose other).mpr (Or.inr hother)
  · intro other hne hother
    rcases (isCodeHeld_loose hloose other).mp hother with hheld | hheld
    · rw [htarget] at hheld
      exact absurd (Option.some.inj hheld).symm hne
    · exact hheld

/-- What holds no code can go without any effect. -/
theorem pop_sound {h : Heap} {first : Loose} {rest : List Loose}
    (hloose : h.loose = first :: rest) (hs : h.Sound) (hfirst : ∀ key, first ≠ .handle key)
    (htarget : first.target? = none) : ({ h with loose := rest } : Heap).Sound := by
  refine (rehangs_pop hloose hfirst).sound hs ?_
  intro other
  rw [isCodeHeld_loose hloose, htarget]
  simp

theorem takeApart_sound {h : Heap} {first : Loose} {rest : List Loose}
    (hloose : h.loose = first :: rest) (hs : h.Sound) :
    ({ h with loose := rest }.takeApart first).Sound := by
  cases first with
  | handle key =>
      simp only [takeApart]
      split
      · rename_i hspare
        exact takeApart_spareHandle hs hloose hspare
      · rename_i hlast
        exact takeApart_lastHandle hs hloose hlast
  | code key => exact pop_closeCode_sound hloose hs (by simp) rfl
  | value value =>
      simp only [takeApart]
      split
      · rename_i key htarget
        exact pop_closeCode_sound hloose hs (by simp) htarget
      · rename_i htarget
        exact pop_sound hloose hs (by simp) htarget
  | released key count isLocked =>
      have hpopped := pop_sound hloose hs (by simp) rfl
      exact Rehangs.sound (h := { h with loose := rest }) ⟨rfl, rfl, rfl, id, fun h => h⟩
        hpopped fun _ => Iff.rfl

/-- Everything loose is taken apart, and the heap stays sound. -/
theorem settle_sound {h : Heap} (hs : h.Sound) : h.settle.Sound :=
  settleSteps_induction (P := Sound)
    (fun _ _ _ hloose hsound => takeApart_sound hloose hsound) h.weight hs

end Heap

end CapabilityMesh
