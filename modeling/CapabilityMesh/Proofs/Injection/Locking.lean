/-
When a release may lock the table.  The last function of a name takes the values of its
own along while the table is locked, and what is taken apart then must not come to
another lock.  It does not where such values are no functions of this process whose code
holds handles: they hold nothing that could be released.
-/
import CapabilityMesh.Proofs.Injection.Use

namespace CapabilityMesh

/-- Whether a value is no function of the names given. -/
def Value.Spares (carriers : List String) (value : Value) : Prop :=
  ∀ key, value.target? = some key → key.name ∉ carriers

/-- Code holds handles under the names given alone, and no value of a function's own is a
function of one of these names. -/
def Usage.sparing (carriers : List String) : Usage where
  wraps tool owned := owned = [] ∨ tool.function ∈ carriers
  stores key value := ∀ function, key.isOwnOf function = true → value.Spares carriers

/-- Whether a loose thing is the end of a release that locked the table. -/
def Loose.unlocks : Loose → Bool
  | released _ _ isLocked => isLocked
  | _ => false

namespace Heap

variable {carriers : List String}

/-- A heap that was used in this way. -/
structure Spared (carriers : List String) (h : Heap) : Prop where
  held : h.isHeld = true
  codes : ∀ code ∈ h.codes, code.owned = [] ∨ code.key.name ∈ carriers
  table : ∀ entry ∈ h.injector.table, ∀ function, entry.1.isOwnOf function = true →
    entry.2.Spares carriers

/-- Whether the table is locked.  While it is, values are loose that lead to no handles,
and behind them the end of the lock. -/
inductive Guarded (carriers : List String) (h : Heap) : Prop where
  | unlocked (hlocks : h.locks = 0) (hrest : ∀ thing ∈ h.loose, thing.unlocks = false)
  | locked (values : List Value) (key : FunctionKey) (count : Nat) (rest : List Loose)
      (hlocks : h.locks = 1)
      (hloose : h.loose = values.map .value ++ .released key count true :: rest)
      (hvalues : ∀ value ∈ values, value.Spares carriers)
      (hrest : ∀ thing ∈ rest, thing.unlocks = false)

theorem closeCode_spec (h : Heap) (key : FunctionKey) :
    ∃ owned : List FunctionKey,
      (owned = [] ∨ ∃ code ∈ h.codes, code.key = key ∧ owned = code.owned) ∧
        (h.closeCode key).loose = owned.map .handle ++ h.loose ∧
        (h.closeCode key).locks = h.locks ∧ (h.closeCode key).isStuck = h.isStuck := by
  have hsame : ∃ owned : List FunctionKey,
      (owned = [] ∨ ∃ code ∈ h.codes, code.key = key ∧ owned = code.owned) ∧
        h.loose = owned.map .handle ++ h.loose ∧
        h.locks = h.locks ∧ h.isStuck = h.isStuck :=
    ⟨[], Or.inl rfl, rfl, rfl, rfl⟩
  rw [closeCode]
  split
  · rename_i code hcode
    split
    · exact hsame
    · obtain ⟨hmem, hkey⟩ := code?_mem hcode
      exact ⟨code.owned, Or.inr ⟨code, hmem, hkey, rfl⟩, rfl, rfl, rfl⟩
  · exact hsame

theorem closeCode_spared {h : Heap} (hs : h.Spared carriers) (key : FunctionKey) :
    (h.closeCode key).Spared carriers := by
  refine ⟨?_, fun code hcode => hs.codes code ((h.closeCode_codes key).subset hcode), ?_⟩
  · rw [closeCode_isHeld]
    exact hs.held
  · rw [closeCode_injector]
    exact hs.table

/-- A value that spares the carriers goes without anything else. -/
theorem takeApart_spared_value {h : Heap} (hs : h.Spared carriers) {value : Value}
    (hvalue : value.Spares carriers) :
    (h.takeApart (.value value)).Spared carriers ∧
      (h.takeApart (.value value)).loose = h.loose ∧
      (h.takeApart (.value value)).locks = h.locks ∧
      (h.takeApart (.value value)).isStuck = h.isStuck := by
  simp only [takeApart]
  split
  · rename_i key htarget
    obtain ⟨owned, howned, hloose, hlocks, hstuck⟩ := h.closeCode_spec key
    have hnone : owned = [] := by
      rcases howned with hnone | ⟨code, hcode, hkey, howned⟩
      · exact hnone
      · rcases hs.codes code hcode with hnone | hcarrier
        · rw [howned, hnone]
        · rw [hkey] at hcarrier
          exact absurd hcarrier (hvalue key htarget)
    rw [hnone] at hloose
    exact ⟨closeCode_spared hs key, hloose, hlocks, hstuck⟩
  · exact ⟨hs, rfl, rfl, rfl⟩

/-- The table is locked once at most. -/
structure LocksOnce (carriers : List String) (h : Heap) : Prop where
  spared : h.Spared carriers
  unstuck : h.isStuck = false
  guarded : h.Guarded carriers

/-- A release finds the table unlocked, and it locks it while values go that spare the
carriers. -/
theorem release_locksOnce {h : Heap} (f : TrackedFunction) (hs : h.Spared carriers)
    (hstuck : h.isStuck = false)
    (hlocks : h.locks = 0) (hrest : ∀ thing ∈ h.loose, thing.unlocks = false) :
    (h.release f).LocksOnce carriers := by
  simp only [release]
  split
  · refine ⟨⟨hs.held, hs.codes, hs.table⟩, hstuck, .unlocked hlocks ?_⟩
    intro thing hthing
    rcases List.mem_cons.mp hthing with rfl | hthing
    · rfl
    · rcases List.mem_cons.mp hthing with rfl | hthing
      · rfl
      · exact hrest thing hthing
  · refine ⟨⟨hs.held, hs.codes, ?_⟩, ?_, ?_⟩
    · intro entry hentry
      exact hs.table entry (List.mem_of_mem_filter hentry)
    · simp [hstuck, hlocks]
    · refine .locked (h.injector.table.ownOf f.key.name) f.key _ (.code f.key :: h.loose)
        ?_ rfl ?_ ?_
      · simp [hlocks]
      · intro value hvalue
        obtain ⟨entry, hentry, rfl⟩ := List.mem_map.mp hvalue
        obtain ⟨hmem, hown⟩ := List.mem_filter.mp hentry
        exact hs.table entry hmem f.key.name hown
      · intro thing hthing
        rcases List.mem_cons.mp hthing with rfl | hthing
        · rfl
        · exact hrest thing hthing

/-- Code is taken apart without a lock. -/
theorem closeCode_locksOnce {h : Heap} (key : FunctionKey) (hs : h.Spared carriers)
    (hstuck : h.isStuck = false) (hlocks : h.locks = 0)
    (hrest : ∀ thing ∈ h.loose, thing.unlocks = false) :
    (h.closeCode key).LocksOnce carriers := by
  obtain ⟨owned, -, hloose, hsameLocks, hsameStuck⟩ := h.closeCode_spec key
  refine ⟨closeCode_spared hs key, hsameStuck.trans hstuck,
    .unlocked (hsameLocks.trans hlocks) ?_⟩
  intro thing hthing
  rw [hloose] at hthing
  rcases List.mem_append.mp hthing with hthing | hthing
  · obtain ⟨handle, -, rfl⟩ := List.mem_map.mp hthing
    rfl
  · exact hrest thing hthing

/-- What is taken apart while the table is not locked may lock it, and no more. -/
theorem takeApart_unlocked {h : Heap} {first : Loose} (hs : h.Spared carriers)
    (hstuck : h.isStuck = false) (hlocks : h.locks = 0) (hfirst : first.unlocks = false)
    (hrest : ∀ thing ∈ h.loose, thing.unlocks = false) :
    (h.takeApart first).LocksOnce carriers := by
  cases first with
  | handle key =>
      have hmiddle : ({ h with loose := .code key :: h.loose } : Heap).Spared carriers :=
        ⟨hs.held, hs.codes, hs.table⟩
      have hmiddleRest : ∀ thing ∈ Loose.code key :: h.loose, thing.unlocks = false := by
        intro thing hthing
        rcases List.mem_cons.mp hthing with rfl | hthing
        · rfl
        · exact hrest thing hthing
      have hkept : ({ h with loose := .code key :: h.loose } : Heap).LocksOnce carriers :=
        ⟨hmiddle, hstuck, .unlocked hlocks hmiddleRest⟩
      simp only [takeApart]
      split
      · exact hkept
      · rw [closeFunction, if_pos hmiddle.held]
        split
        · exact release_locksOnce _ hmiddle hstuck hlocks hmiddleRest
        · exact hkept
  | code key => exact closeCode_locksOnce key hs hstuck hlocks hrest
  | value value =>
      simp only [takeApart]
      split
      · exact closeCode_locksOnce _ hs hstuck hlocks hrest
      · exact ⟨hs, hstuck, .unlocked hlocks hrest⟩
  | released key count isLocked =>
      have hnot : isLocked = false := hfirst
      subst hnot
      exact ⟨⟨hs.held, hs.codes, hs.table⟩, hstuck, .unlocked hlocks hrest⟩

/-- One thing is taken apart, and the table is still locked once at most. -/
theorem takeApart_locksOnce {h : Heap} {first : Loose} {rest : List Loose}
    (hloose : h.loose = first :: rest) (hh : h.LocksOnce carriers) :
    ({ h with loose := rest }.takeApart first).LocksOnce carriers := by
  have hspared : ({ h with loose := rest } : Heap).Spared carriers :=
    ⟨hh.spared.held, hh.spared.codes, hh.spared.table⟩
  cases hh.guarded with
  | unlocked hlocks hunlocks =>
      rw [hloose] at hunlocks
      exact takeApart_unlocked hspared hh.unstuck hlocks
        (hunlocks first List.mem_cons_self)
        fun thing hthing => hunlocks thing (List.mem_cons_of_mem first hthing)
  | locked values key count behind hlocks hvaluesLoose hvalues hbehind =>
      rw [hloose] at hvaluesLoose
      cases values with
      | nil =>
          -- All values are gone, and the end of the release unlocks the table.
          obtain ⟨rfl, rfl⟩ := List.cons.inj hvaluesLoose
          refine ⟨⟨hspared.held, hspared.codes, hspared.table⟩, hh.unstuck,
            .unlocked ?_ hbehind⟩
          simp [takeApart, note, hlocks]
      | cons value values =>
          obtain ⟨rfl, rfl⟩ := List.cons.inj hvaluesLoose
          obtain ⟨hafter, hafterLoose, hafterLocks, hafterStuck⟩ :=
            takeApart_spared_value hspared (hvalues value List.mem_cons_self)
          exact ⟨hafter, hafterStuck.trans hh.unstuck,
            .locked values key count behind (hafterLocks.trans hlocks) hafterLoose
              (fun other hother => hvalues other (List.mem_cons_of_mem value hother))
              hbehind⟩

/-- A heap between two uses: the table is not locked, and no release ever had to wait. -/
structure Free (carriers : List String) (h : Heap) : Prop where
  spared : h.Spared carriers
  unstuck : h.isStuck = false
  locks : h.locks = 0
  loose : h.loose = []

theorem free_empty : Free carriers {} :=
  ⟨⟨rfl, by simp, by simp⟩, rfl, rfl, rfl⟩

/-- Where nothing is loose any more, the table is not locked any more. -/
theorem LocksOnce.free {h : Heap} (hh : h.LocksOnce carriers) (hloose : h.loose = []) :
    h.Free carriers := by
  cases hh.guarded with
  | unlocked hlocks _ => exact ⟨hh.spared, hh.unstuck, hlocks, hloose⟩
  | locked values key count rest _ hlocked _ _ =>
      rw [hloose] at hlocked
      simp at hlocked

/-- What is let go while the table is not locked leaves it so. -/
theorem settle_free {h : Heap} (hs : h.Spared carriers) (hstuck : h.isStuck = false)
    (hlocks : h.locks = 0) (hrest : ∀ thing ∈ h.loose, thing.unlocks = false) :
    h.settle.Free carriers := by
  have hsettled : h.settle.LocksOnce carriers :=
    settleSteps_induction (P := LocksOnce carriers)
      (fun _ _ _ hloose hh => takeApart_locksOnce hloose hh) h.weight
      ⟨hs, hstuck, .unlocked hlocks hrest⟩
  exact hsettled.free (settle_loose h)

/-- Values that spare the carriers are let go without any lock. -/
theorem settleSteps_spared_values (steps : Nat) {h : Heap} (values : List Value)
    (hs : h.Spared carriers) (hloose : h.loose = values.map .value)
    (hvalues : ∀ value ∈ values, value.Spares carriers) :
    (settleSteps steps h).Spared carriers ∧ (settleSteps steps h).locks = h.locks ∧
      (settleSteps steps h).isStuck = h.isStuck := by
  induction steps generalizing h values with
  | zero => exact ⟨hs, rfl, rfl⟩
  | succ n ih =>
      rw [settleSteps]
      cases values with
      | nil =>
          rw [hloose]
          exact ⟨hs, rfl, rfl⟩
      | cons value values =>
          rw [hloose]
          obtain ⟨hafter, hafterLoose, hafterLocks, hafterStuck⟩ :=
            takeApart_spared_value (h := { h with loose := values.map .value })
              ⟨hs.held, hs.codes, hs.table⟩ (hvalues value List.mem_cons_self)
          obtain ⟨hend, hendLocks, hendStuck⟩ := ih values hafter hafterLoose
            fun other hother => hvalues other (List.mem_cons_of_mem value hother)
          exact ⟨hend, hendLocks.trans hafterLocks, hendStuck.trans hafterStuck⟩

/-- To clear what belongs to a name locks the table once. -/
theorem clearOwn_free {h : Heap} (hh : h.Free carriers) (function : String) :
    (h.clearOwn function).1.Free carriers := by
  have hcleared : (h.clearing function).Spared carriers :=
    ⟨hh.spared.held, hh.spared.codes,
      fun entry hentry => hh.spared.table entry (List.mem_of_mem_filter hentry)⟩
  have hloose : (h.clearing function).loose =
      (h.injector.table.ownOf function).map .value := by
    simp [clearing, hh.loose]
  have hvalues : ∀ value ∈ h.injector.table.ownOf function, value.Spares carriers := by
    intro value hvalue
    obtain ⟨entry, hentry, rfl⟩ := List.mem_map.mp hvalue
    obtain ⟨hmem, hown⟩ := List.mem_filter.mp hentry
    exact hh.spared.table entry hmem function hown
  obtain ⟨hspared, hlocks, hstuck⟩ :=
    settleSteps_spared_values (h.clearing function).weight _ hcleared hloose hvalues
  have hlocked : (h.clearing function).settle.locks = 1 := by
    rw [settle, hlocks]
    simp [clearing, hh.locks]
  rw [clearOwn_heap]
  refine ⟨⟨hspared.held, hspared.codes, hspared.table⟩, hstuck.trans hh.unstuck, ?_,
    settle_loose _⟩
  rw [hlocked]

theorem Use.free {h later : Heap} (huse : Use (.sparing carriers) h later)
    (hh : h.Free carriers) : later.Free carriers := by
  obtain ⟨hspared, hstuck, hlocks, hloose⟩ := hh
  cases huse with
  | logged lines => exact ⟨⟨hspared.held, hspared.codes, hspared.table⟩, hstuck, hlocks, hloose⟩
  | wrap hallowed howned =>
      refine ⟨⟨hspared.held, ?_, hspared.table⟩, hstuck, hlocks, hloose⟩
      intro code hcode
      rcases List.mem_append.mp hcode with hcode | hcode
      · exact hspared.codes code hcode
      · rw [List.mem_singleton.mp hcode]
        exact hallowed
  | holdHandle hkey =>
      exact ⟨⟨hspared.held, hspared.codes, hspared.table⟩, hstuck, hlocks, hloose⟩
  | holdValue hvalue =>
      exact ⟨⟨hspared.held, hspared.codes, hspared.table⟩, hstuck, hlocks, hloose⟩
  | store hallowed hvalue =>
      refine ⟨⟨hspared.held, hspared.codes, ?_⟩, hstuck, hlocks, hloose⟩
      intro entry hentry
      rcases DependencyTable.mem_insert hentry with rfl | hentry
      · exact hallowed
      · exact hspared.table entry hentry
  | take key =>
      rw [Heap.take]
      split
      · refine ⟨⟨hspared.held, hspared.codes, ?_⟩, hstuck, hlocks, hloose⟩
        intro entry hentry
        exact hspared.table entry (List.mem_of_mem_filter hentry)
      · exact ⟨hspared, hstuck, hlocks, hloose⟩
  | dropHandle key =>
      rw [Heap.dropHandle]
      split
      · refine settle_free ⟨hspared.held, hspared.codes, hspared.table⟩ hstuck hlocks ?_
        simp [hloose, Loose.unlocks]
      · exact ⟨hspared, hstuck, hlocks, hloose⟩
  | dropValue value =>
      rw [Heap.dropValue]
      split
      · refine settle_free ⟨hspared.held, hspared.codes, hspared.table⟩ hstuck hlocks ?_
        simp [hloose, Loose.unlocks]
      · exact ⟨hspared, hstuck, hlocks, hloose⟩
  | clearOwn function => exact clearOwn_free ⟨hspared, hstuck, hlocks, hloose⟩ function

end Heap

end CapabilityMesh
