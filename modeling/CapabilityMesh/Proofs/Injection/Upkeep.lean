/-
Every use of a heap leaves it sound.  A use adds holds on what is held already, moves
holds from one place to another, or lets something go; and a function that is wrapped is
in memory from the start.
-/
import CapabilityMesh.Proofs.Injection.Newest
import CapabilityMesh.Proofs.Injection.TakingApart
import CapabilityMesh.Proofs.Injection.Use

namespace CapabilityMesh

namespace Heap

theorem isCodeHeld_of_hasHandle {h : Heap} {key : FunctionKey}
    (hkey : h.hasHandle key = true) : h.isCodeHeld key = true := by
  simp [isCodeHeld, hkey]

theorem isCodeHeld_of_find? {h : Heap} {key : FunctionKey}
    (hkey : (h.injector.find? key).isSome = true) : h.isCodeHeld key = true := by
  simp [isCodeHeld, hkey]

theorem Provides.isCodeHeld {h : Heap} {value : Value} (hvalue : h.Provides value)
    {key : FunctionKey} (hkey : value.target? = some key) : h.isCodeHeld key = true := by
  rcases hvalue with hatHand | ⟨capability, name, l, hl, rfl⟩
  · rw [isCodeHeld_iff]
    rcases (hasAtHand_iff h value).mp hatHand with hnone | hmem | ⟨entry, hmem, rfl⟩
    · rw [hkey] at hnone
      cases hnone
    · exact Or.inr (Or.inr (Or.inl (Or.inl ⟨value, hmem, hkey⟩)))
    · exact Or.inr (Or.inr (Or.inl (Or.inr ⟨entry, hmem, hkey⟩)))
  · cases hkey
    exact isCodeHeld_of_find? (Injector.localCapability?_some hl).2.2

section Operations

variable {h : Heap} (hs : h.Sound)

include hs

/-- One more hold on code that is held leaves a heap sound. -/
theorem Rehangs.sound_of_more {later : Heap} (more : FunctionKey → Prop)
    (hrehangs : Rehangs h later) (hmore : ∀ key, more key → h.isCodeHeld key = true)
    (hholds : ∀ key, later.isCodeHeld key = true ↔ more key ∨ h.isCodeHeld key = true) :
    later.Sound :=
  hrehangs.sound hs fun key => (hholds key).trans (or_iff_right_of_imp (hmore key))

theorem holdHandle_sound {key : FunctionKey} (hkey : h.hasHandle key = true) :
    (h.holdHandle key).Sound := by
  have hmore : ∀ other, (h.holdHandle key).hasHandle other = true ↔
      other = key ∨ h.hasHandle other = true := by
    intro other
    simp only [hasHandle_iff, holdHandle, List.mem_cons, or_assoc]
  refine Rehangs.sound_of_more hs (fun other => other = key)
    ⟨rfl, rfl, rfl, id, ?_⟩ ?_ ?_
  · intro hwrapped other
    rw [hmore, or_iff_right_of_imp (by rintro rfl; exact hkey)]
    exact hwrapped other
  · rintro other rfl
    exact isCodeHeld_of_hasHandle hkey
  · intro other
    rw [isCodeHeld_iff, isCodeHeld_iff]
    simp only [holdHandle, List.mem_cons]
    exact iff_of_eq (by ac_rfl)

theorem holdValue_sound {value : Value} (hvalue : h.Provides value) :
    (h.holdValue value).Sound := by
  refine Rehangs.sound_of_more hs (fun key => value.target? = some key)
    ⟨rfl, rfl, rfl, id, fun hwrapped => hwrapped⟩ (fun _ => hvalue.isCodeHeld) ?_
  intro key
  rw [isCodeHeld_iff, isCodeHeld_iff]
  simp only [holdValue, List.exists_mem_cons_iff]
  exact iff_of_eq (by ac_rfl)

/-- The value that was stored before is held by the caller. -/
theorem store_sound (key : DependencyKey) {value : Value} (hvalue : h.Provides value) :
    (h.store key value).1.Sound := by
  refine Rehangs.sound_of_more hs (fun other => value.target? = some other)
    ⟨rfl, rfl, rfl, fun hordered => hordered.insert key value, fun hwrapped => hwrapped⟩
    (fun _ => hvalue.isCodeHeld) ?_
  intro other
  have htable := hs.ordered.exists_insert (fun v => v.target? = some other) key value
  have hvalues : (∃ v ∈ (h.store key value).1.values, v.target? = some other) ↔
      (∃ old, h.injector.table.get? key = some old ∧ old.target? = some other) ∨
        ∃ v ∈ h.values, v.target? = some other := by
    simp [store, or_and_right, exists_or, note]
  have hmoved : (∃ v ∈ (h.store key value).1.values, v.target? = some other) ∨
        (∃ entry ∈ h.injector.table.insert key value, entry.2.target? = some other) ↔
      value.target? = some other ∨ (∃ v ∈ h.values, v.target? = some other) ∨
        ∃ entry ∈ h.injector.table, entry.2.target? = some other := by
    rw [hvalues, or_left_comm, ← htable]
    exact iff_of_eq (by ac_rfl)
  rw [isCodeHeld_iff, isCodeHeld_iff, store_injector, hmoved]
  simp only [store, note]
  exact iff_of_eq (by ac_rfl)

/-- The value that is taken out of the table is held by the caller. -/
theorem take_sound (key : DependencyKey) : (h.take key).1.Sound := by
  have htable := fun other =>
    hs.ordered.exists_erase (fun v => v.target? = some other) key
  rw [take]
  split
  · rename_i old hold
    refine Rehangs.sound (h := h)
      ⟨rfl, rfl, rfl, fun hordered => hordered.filter _, fun hwrapped => hwrapped⟩ hs ?_
    intro other
    have hmoved : (∃ v ∈ old :: h.values, v.target? = some other) ∨
          (∃ entry ∈ h.injector.table.erase key, entry.2.target? = some other) ↔
        (∃ v ∈ h.values, v.target? = some other) ∨
          ∃ entry ∈ h.injector.table, entry.2.target? = some other := by
      rw [← htable, hold]
      simp only [List.exists_mem_cons_iff, Option.some.injEq, exists_eq_left']
      exact iff_of_eq (by ac_rfl)
    rw [isCodeHeld_iff, isCodeHeld_iff]
    simp only [note, hmoved]
    rfl
  · exact hs

theorem dropHandle_sound (key : FunctionKey) : (h.dropHandle key).Sound := by
  rw [dropHandle]
  split
  · rename_i hheld
    have hhandles : ∀ other, other ∈ h.handles ↔
        other = key ∨ other ∈ h.handles.erase key := by
      intro other
      rw [(List.perm_cons_erase (List.contains_iff_mem.mp hheld)).mem_iff, List.mem_cons]
    refine settle_sound (Rehangs.sound (h := h) ⟨rfl, rfl, rfl, id, ?_⟩ hs ?_)
    · intro hwrapped other
      refine (hwrapped other).trans ?_
      rw [hasHandle_iff, hasHandle_iff, hhandles]
      simp only [List.cons_append, List.nil_append, List.mem_cons, Loose.handle.injEq]
      exact iff_of_eq (by ac_rfl)
    · intro other
      rw [isCodeHeld_iff, isCodeHeld_iff, hhandles, @eq_comm _ other key]
      simp only [List.cons_append, List.nil_append, List.exists_mem_cons_iff,
        Loose.target?_handle, Option.some.injEq]
      exact iff_of_eq (by ac_rfl)
  · exact hs

theorem dropValue_sound (value : Value) : (h.dropValue value).Sound := by
  rw [dropValue]
  split
  · rename_i hheld
    have hvalues : ∀ p : Value → Prop, (∃ v ∈ h.values, p v) ↔
        p value ∨ ∃ v ∈ h.values.erase value, p v := by
      intro p
      rw [← List.exists_mem_cons_iff]
      simp only [(List.perm_cons_erase (List.contains_iff_mem.mp hheld)).mem_iff]
    refine settle_sound (Rehangs.sound (h := h)
      ⟨rfl, rfl, rfl, id, fun hwrapped => ?_⟩ hs fun key => ?_)
    · intro other
      refine (hwrapped other).trans ?_
      rw [hasHandle_iff, hasHandle_iff]
      simp
    · rw [isCodeHeld_iff, isCodeHeld_iff, hvalues fun v => v.target? = some key]
      simp only [List.cons_append, List.nil_append, List.exists_mem_cons_iff,
        Loose.target?_value]
      exact iff_of_eq (by ac_rfl)
  · exact hs

theorem clearing_sound (function : String) : (h.clearing function).Sound := by
  refine Rehangs.sound (h := h)
    ⟨rfl, rfl, rfl, fun hordered => hordered.filter _, fun hwrapped other => ?_⟩ hs
    fun key => ?_
  · refine (hwrapped other).trans ?_
    rw [hasHandle_iff, hasHandle_iff]
    simp [clearing]
  · have hloose : (∃ thing ∈ (h.clearing function).loose, thing.target? = some key) ↔
        (∃ value ∈ h.injector.table.ownOf function, value.target? = some key) ∨
          ∃ thing ∈ h.loose, thing.target? = some key := by
      simp [clearing, or_and_right, exists_or]
    have hfind : (h.clearing function).injector.find? key = h.injector.find? key := rfl
    rw [isCodeHeld_iff, isCodeHeld_iff, hloose, hfind,
      ← DependencyTable.exists_eraseOwn (fun v => v.target? = some key) h.injector.table
        function]
    simp only [clearing]
    exact iff_of_eq (by ac_rfl)

theorem clearOwn_sound (function : String) : (h.clearOwn function).1.Sound := by
  have hunlocked : Rehangs (h.clearing function).settle (h.clearOwn function).1 :=
    ⟨rfl, rfl, rfl, id, fun hwrapped => hwrapped⟩
  exact hunlocked.sound (settle_sound (clearing_sound hs function)) fun _ => Iff.rfl

end Operations

section Wrap

variable {h : Heap} (tool : Tool) (mode : CallMode) (takes : ArgumentKind)
  {owned : List FunctionKey}

theorem mem_wrap_codes (code : FunctionCode) :
    code ∈ (h.wrap tool mode takes owned).1.codes ↔
      code ∈ h.codes ∨ code = ⟨h.injector.nextKey tool.function, tool, mode, takes, owned⟩ := by
  simp [wrap, note]

theorem wrap_code? (key : FunctionKey) :
    ((h.wrap tool mode takes owned).1.code? key).isSome = true ↔
      key = h.injector.nextKey tool.function ∨ (h.code? key).isSome = true := by
  simp only [code?_isSome_iff, mem_wrap_codes]
  constructor
  · rintro ⟨code, hcode | rfl, rfl⟩
    · exact Or.inr ⟨code, hcode, rfl⟩
    · exact Or.inl rfl
  · rintro (rfl | ⟨code, hcode, rfl⟩)
    · exact ⟨_, Or.inr rfl, rfl⟩
    · exact ⟨code, Or.inl hcode, rfl⟩

theorem wrap_find? (key : FunctionKey) :
    ((h.wrap tool mode takes owned).1.injector.find? key).isSome = true ↔
      key = h.injector.nextKey tool.function ∨ (h.injector.find? key).isSome = true := by
  simp only [Injector.find?_isSome_iff, wrap_injector, Injector.track, List.mem_append,
    List.mem_singleton]
  constructor
  · rintro ⟨f, hf | rfl, rfl⟩
    · exact Or.inr ⟨f, hf, rfl⟩
    · exact Or.inl rfl
  · rintro (rfl | ⟨f, hf, rfl⟩)
    · exact ⟨_, Or.inr rfl, rfl⟩
    · exact ⟨f, Or.inl hf, rfl⟩

theorem wrap_hasHandle (howned : owned.all h.hasHandle = true) (key : FunctionKey) :
    (h.wrap tool mode takes owned).1.hasHandle key = true ↔
      key = h.injector.nextKey tool.function ∨ h.hasHandle key = true := by
  have hcodes : (∃ code ∈ (h.wrap tool mode takes owned).1.codes, key ∈ code.owned) ↔
      key ∈ owned ∨ ∃ code ∈ h.codes, key ∈ code.owned := by
    simp [wrap, note, or_and_right, exists_or, or_comm]
  have hkept : key ∈ owned → h.hasHandle key = true :=
    fun hkey => List.all_eq_true.mp howned key hkey
  have hstep : (h.wrap tool mode takes owned).1.hasHandle key = true ↔
      key = h.injector.nextKey tool.function ∨ key ∈ owned ∨ h.hasHandle key = true := by
    rw [hasHandle_iff, hasHandle_iff, hcodes]
    simp only [wrap, note, List.mem_cons]
    exact iff_of_eq (by ac_rfl)
  rw [hstep, or_iff_right_of_imp hkept]

theorem wrap_isCodeHeld (howned : owned.all h.hasHandle = true) (key : FunctionKey) :
    (h.wrap tool mode takes owned).1.isCodeHeld key = true ↔
      key = h.injector.nextKey tool.function ∨ h.isCodeHeld key = true := by
  have hvalues : (h.wrap tool mode takes owned).1.isHeldByValue key = h.isHeldByValue key :=
    rfl
  have hloose : (h.wrap tool mode takes owned).1.loose = h.loose := rfl
  simp only [isCodeHeld, Bool.or_eq_true, wrap_find?, wrap_hasHandle tool mode takes howned,
    hvalues, hloose, or_assoc, or_left_comm, or_self_left]

/-- A new function is in memory, held by its books and by its handle. -/
theorem wrap_sound (hs : h.Sound) (howned : owned.all h.hasHandle = true) :
    (h.wrap tool mode takes owned).1.Sound := by
  have hfresh : ∀ key, (h.code? key).isSome = true → key.id < h.injector.nextId := by
    intro key hkey
    obtain ⟨code, hcode, rfl⟩ := (code?_isSome_iff h key).mp hkey
    exact hs.below code hcode
  refine ⟨⟨hs.held, ?_, ?_, hs.ordered, ?_, ?_, ?_⟩, ?_⟩
  · intro key
    rw [wrap_find?, wrap_hasHandle tool mode takes howned, hs.wrapped]
  · intro key hkey
    rw [wrap_code?]
    exact ((wrap_isCodeHeld tool mode takes howned key).mp hkey).imp_right (hs.kept key)
  · have hcodes : (h.wrap tool mode takes owned).1.codes.map FunctionCode.key =
        h.codes.map FunctionCode.key ++ [h.injector.nextKey tool.function] := by
      simp [wrap, note]
    rw [hcodes]
    refine nodup_append_greatest FunctionKey.id hs.distinct ?_
    intro key hkey
    obtain ⟨code, hcode, rfl⟩ := List.mem_map.mp hkey
    exact hs.below code hcode
  · intro code hcode
    have hnext : (h.wrap tool mode takes owned).1.injector.nextId = h.injector.nextId + 1 :=
      rfl
    rw [hnext]
    rcases (mem_wrap_codes tool mode takes code).mp hcode with hcode | rfl
    · exact Nat.lt_succ_of_lt (hs.below code hcode)
    · exact Nat.lt_succ_self _
  · intro code hcode key hkey
    rcases (mem_wrap_codes tool mode takes code).mp hcode with hcode | rfl
    · exact hs.older code hcode key hkey
    · have hhandle := List.all_eq_true.mp howned key hkey
      exact hfresh key (hs.kept key (isCodeHeld_of_hasHandle hhandle))
  · rintro key ⟨hcode, hnot⟩
    rw [wrap_isCodeHeld tool mode takes howned, not_or] at hnot
    rcases (wrap_code? tool mode takes key).mp hcode with hnew | hcode
    · exact hnot.1 hnew
    · exact hs.tidy key ⟨hcode, hnot.2⟩

end Wrap

theorem Use.sound {u : Usage} {h later : Heap} (huse : Use u h later) (hs : h.Sound) :
    later.Sound := by
  cases huse with
  | logged lines =>
      exact Rehangs.sound (h := h) ⟨rfl, rfl, rfl, id, fun hwrapped => hwrapped⟩ hs
        fun _ => Iff.rfl
  | wrap _ howned => exact wrap_sound _ _ _ hs howned
  | holdHandle hkey => exact holdHandle_sound hs hkey
  | holdValue hvalue => exact holdValue_sound hs hvalue
  | store _ hvalue => exact store_sound hs _ hvalue
  | take key => exact take_sound hs key
  | dropHandle key => exact dropHandle_sound hs key
  | dropValue value => exact dropValue_sound hs value
  | clearOwn function => exact clearOwn_sound hs function

/-- Whatever is done with a new heap leaves it sound. -/
theorem Uses.sound {u : Usage} {h : Heap} (huses : Uses u {} h) : h.Sound :=
  huses.keeps Use.sound sound_empty

end Heap

end CapabilityMesh
