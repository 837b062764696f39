/-
What letting go may do.  Each thing that is taken apart makes less work than it
was, so settling leaves nothing loose.  As long as the injector is held, all that
happens to its books is that functions are released.
-/
import Mathlib.Data.List.Basic
import CapabilityMesh.Injection.Heap
import CapabilityMesh.Proofs.Injection.Release

namespace CapabilityMesh

namespace Heap

/-- A property that taking apart keeps holds after settling. -/
theorem settleSteps_induction {P : Heap → Prop}
    (hstep : ∀ (h : Heap) (first : Loose) (rest : List Loose),
      h.loose = first :: rest → P h → P ({ h with loose := rest }.takeApart first))
    (steps : Nat) {h : Heap} (hP : P h) : P (settleSteps steps h) := by
  induction steps generalizing h with
  | zero => exact hP
  | succ n ih =>
      rw [settleSteps]
      cases hloose : h.loose with
      | nil => exact hP
      | cons first rest => exact ih (hstep h first rest hloose hP)

theorem code?_mem {h : Heap} {key : FunctionKey} {code : FunctionCode}
    (hcode : h.code? key = some code) : code ∈ h.codes ∧ code.key = key := by
  refine ⟨List.mem_of_find?_eq_some hcode, ?_⟩
  simpa using List.find?_some hcode

theorem closeCode_injector (h : Heap) (key : FunctionKey) :
    (h.closeCode key).injector = h.injector := by
  unfold closeCode
  split
  · split <;> rfl
  · rfl

theorem closeCode_isHeld (h : Heap) (key : FunctionKey) :
    (h.closeCode key).isHeld = h.isHeld := by
  unfold closeCode
  split
  · split <;> rfl
  · rfl

theorem release_isHeld (h : Heap) (f : TrackedFunction) :
    (h.release f).isHeld = h.isHeld := by
  simp only [release]
  split <;> rfl

theorem release_injector (h : Heap) (f : TrackedFunction) :
    (h.release f).injector = h.injector.without f := by
  simp only [release, Injector.without]
  split <;> rfl

theorem release_frame (h : Heap) (f : TrackedFunction) :
    (h.release f).codes = h.codes ∧ (h.release f).handles = h.handles ∧
      (h.release f).values = h.values ∧
      (h.release f).injector.nextId = h.injector.nextId := by
  simp only [release]
  split <;> exact ⟨rfl, rfl, rfl, rfl⟩

theorem closeFunction_isHeld (h : Heap) (key : FunctionKey) :
    (h.closeFunction key).isHeld = h.isHeld := by
  unfold closeFunction
  split
  · split
    · exact release_isHeld h _
    · rfl
  · split <;> rfl

theorem closeFunction_releases {h : Heap} (hheld : h.isHeld = true)
    (key : FunctionKey) :
    Injector.Releases h.injector (h.closeFunction key).injector := by
  rw [closeFunction, if_pos hheld]
  cases hfind : h.injector.find? key with
  | none => exact .refl
  | some f =>
      simp only [release_injector]
      exact .one (Injector.find?_mem hfind).1

theorem takeApart_isHeld (h : Heap) (thing : Loose) :
    (h.takeApart thing).isHeld = h.isHeld := by
  cases thing with
  | handle key =>
      simp only [takeApart]
      split
      · rfl
      · rw [closeFunction_isHeld]
  | code key => exact closeCode_isHeld h key
  | value value =>
      simp only [takeApart]
      split
      · exact closeCode_isHeld h _
      · rfl
  | released key count isLocked => rfl

theorem takeApart_releases {h : Heap} (hheld : h.isHeld = true) (thing : Loose) :
    Injector.Releases h.injector (h.takeApart thing).injector := by
  cases thing with
  | handle key =>
      simp only [takeApart]
      split
      · exact .refl
      · exact closeFunction_releases (h := { h with loose := .code key :: h.loose })
          hheld key
  | code key =>
      simp only [takeApart, closeCode_injector]
      exact .refl
  | value value =>
      simp only [takeApart]
      split
      · rw [closeCode_injector]
        exact .refl
      · exact .refl
  | released key count isLocked => exact .refl

theorem settle_isHeld (h : Heap) : h.settle.isHeld = h.isHeld :=
  settleSteps_induction (P := fun later => later.isHeld = h.isHeld)
    (fun later first rest _ hlater => by rw [takeApart_isHeld]; exact hlater)
    h.weight rfl

theorem settle_releases {h : Heap} (hheld : h.isHeld = true) :
    Injector.Releases h.injector h.settle.injector := by
  refine (settleSteps_induction
    (P := fun later =>
      later.isHeld = true ∧ Injector.Releases h.injector later.injector)
    ?_ h.weight ⟨hheld, .refl⟩).2
  intro later first rest _ hlater
  refine ⟨?_, hlater.2.trans ?_⟩
  · rw [takeApart_isHeld]
    exact hlater.1
  · exact takeApart_releases (h := { later with loose := rest }) hlater.1 first

section Codes

variable (h : Heap)

theorem closeCode_codes (key : FunctionKey) : (h.closeCode key).codes.Sublist h.codes := by
  rw [closeCode]
  split
  · split
    · exact .refl _
    · exact List.filter_sublist
  · exact .refl _

theorem closeFunction_codes (key : FunctionKey) : (h.closeFunction key).codes = h.codes := by
  rw [closeFunction]
  split
  · split
    · exact (h.release_frame _).1
    · rfl
  · split <;> rfl

theorem takeApart_codes (thing : Loose) : (h.takeApart thing).codes.Sublist h.codes := by
  cases thing with
  | handle key =>
      simp only [takeApart]
      split
      · exact .refl _
      · rw [closeFunction_codes]
  | code key => exact h.closeCode_codes key
  | value value =>
      simp only [takeApart]
      split
      · exact h.closeCode_codes _
      · exact .refl _
  | released key count isLocked => exact .refl _

theorem settle_codes : h.settle.codes.Sublist h.codes :=
  settleSteps_induction (P := fun later => later.codes.Sublist h.codes)
    (fun later first rest _ hlater =>
      (takeApart_codes { later with loose := rest } first).trans hlater)
    h.weight (.refl _)

/-- Taking something apart takes nothing out of the application's hands. -/
theorem closeCode_holds (key : FunctionKey) :
    (h.closeCode key).handles = h.handles ∧ (h.closeCode key).values = h.values := by
  rw [closeCode]
  split
  · split <;> exact ⟨rfl, rfl⟩
  · exact ⟨rfl, rfl⟩

theorem closeFunction_holds (key : FunctionKey) :
    (h.closeFunction key).handles = h.handles ∧ (h.closeFunction key).values = h.values := by
  rw [closeFunction]
  split
  · split
    · exact ⟨(h.release_frame _).2.1, (h.release_frame _).2.2.1⟩
    · exact ⟨rfl, rfl⟩
  · split <;> exact ⟨rfl, rfl⟩

theorem takeApart_holds (thing : Loose) :
    (h.takeApart thing).handles = h.handles ∧ (h.takeApart thing).values = h.values := by
  cases thing with
  | handle key =>
      simp only [takeApart]
      split
      · exact ⟨rfl, rfl⟩
      · exact closeFunction_holds _ key
  | code key => exact h.closeCode_holds key
  | value value =>
      simp only [takeApart]
      split
      · exact h.closeCode_holds _
      · exact ⟨rfl, rfl⟩
  | released key count isLocked => exact ⟨rfl, rfl⟩

/-- What the application holds stays when things settle. -/
theorem settle_holds : h.settle.handles = h.handles ∧ h.settle.values = h.values := by
  refine settleSteps_induction
    (P := fun later => later.handles = h.handles ∧ later.values = h.values) ?_
    h.weight ⟨rfl, rfl⟩
  intro later first rest _ hlater
  have hstep := takeApart_holds { later with loose := rest } first
  exact ⟨hstep.1.trans hlater.1, hstep.2.trans hlater.2⟩

@[simp] theorem settle_handles : h.settle.handles = h.handles := h.settle_holds.1

@[simp] theorem settle_values : h.settle.values = h.values := h.settle_holds.2

end Codes

/-- How much work a list of loose things may make. -/
def looseWork (things : List Loose) : Nat :=
  things.foldr (fun thing n => looseWeight thing + n) 0

/-- How many handles codes hold. -/
def ownedCount (codes : List FunctionCode) : Nat :=
  codes.foldr (fun code n => code.owned.length + n) 0

theorem weight_eq (h : Heap) :
    h.weight = looseWork h.loose + 2 * h.injector.functions.length
      + h.injector.table.length + 2 * ownedCount h.codes := by
  have hcodes : ∀ codes : List FunctionCode,
      codes.foldr (fun code n => 2 * code.owned.length + n) 0 =
        2 * ownedCount codes := by
    intro codes
    induction codes with
    | nil => rfl
    | cons first rest ih =>
        simp only [List.foldr_cons, ih, ownedCount]
        omega
  rw [weight, hcodes]
  rfl

@[simp] theorem looseWork_cons (thing : Loose) (things : List Loose) :
    looseWork (thing :: things) = looseWeight thing + looseWork things := rfl

@[simp] theorem looseWork_append (first second : List Loose) :
    looseWork (first ++ second) = looseWork first + looseWork second := by
  induction first with
  | nil => simp [looseWork]
  | cons thing rest ih =>
      rw [List.cons_append, looseWork_cons, looseWork_cons, ih, Nat.add_assoc]

@[simp] theorem looseWork_values {α : Type} (items : List α) (value : α → Value) :
    looseWork (items.map fun item => .value (value item)) = items.length := by
  induction items with
  | nil => rfl
  | cons first rest ih =>
      simp only [List.map_cons, looseWork_cons, ih, looseWeight, List.length_cons]
      omega

@[simp] theorem looseWork_handles (keys : List FunctionKey) :
    looseWork (keys.map .handle) = 2 * keys.length := by
  induction keys with
  | nil => rfl
  | cons first rest ih =>
      simp only [List.map_cons, looseWork_cons, ih, looseWeight, List.length_cons]
      omega

theorem length_ownOf_add_eraseOwn (table : DependencyTable) (function : String) :
    (table.ownOf function).length + (table.eraseOwn function).length =
      table.length := by
  rw [DependencyTable.ownOf, DependencyTable.eraseOwn, List.length_map]
  exact (List.length_eq_length_filter_add _).symm

theorem ownedCount_cons (code : FunctionCode) (codes : List FunctionCode) :
    ownedCount (code :: codes) = code.owned.length + ownedCount codes := rfl

theorem ownedCount_filter_le (codes : List FunctionCode)
    (keep : FunctionCode → Bool) : ownedCount (codes.filter keep) ≤ ownedCount codes := by
  induction codes with
  | nil => exact Nat.le_refl _
  | cons first rest ih =>
      rw [ownedCount_cons]
      by_cases hfirst : keep first = true
      · rw [List.filter_cons_of_pos hfirst, ownedCount_cons]
        omega
      · rw [List.filter_cons_of_neg hfirst]
        omega

/-- Code that leaves the memory takes its handles along. -/
theorem ownedCount_filter_add_le {codes : List FunctionCode} {code : FunctionCode}
    (keep : FunctionCode → Bool) (hcode : code ∈ codes) (hgone : keep code = false) :
    ownedCount (codes.filter keep) + code.owned.length ≤ ownedCount codes := by
  induction codes with
  | nil => simp at hcode
  | cons first rest ih =>
      rw [ownedCount_cons]
      rcases List.mem_cons.mp hcode with rfl | hrest
      · have hle := ownedCount_filter_le rest keep
        rw [List.filter_cons_of_neg (by simp [hgone])]
        omega
      · have hle := ih hrest
        by_cases hfirst : keep first = true
        · rw [List.filter_cons_of_pos hfirst, ownedCount_cons]
          omega
        · rw [List.filter_cons_of_neg hfirst]
          omega

theorem closeCode_weight (h : Heap) (key : FunctionKey) :
    (h.closeCode key).weight ≤ h.weight := by
  unfold closeCode
  split
  · rename_i code hcode
    split
    · exact Nat.le_refl _
    · obtain ⟨hmem, hkey⟩ := code?_mem hcode
      have hcount := ownedCount_filter_add_le (fun c => decide (c.key ≠ key)) hmem
        (by simp [hkey])
      simp only [weight_eq, looseWork_append, looseWork_handles]
      omega
  · exact Nat.le_refl _

theorem release_weight {h : Heap} {f : TrackedFunction}
    (hf : f ∈ h.injector.functions) : (h.release f).weight ≤ h.weight := by
  have hlength := Injector.length_forget_lt hf
  have htable := length_ownOf_add_eraseOwn h.injector.table f.key.name
  have hforget : (h.injector.forget f).table = h.injector.table := rfl
  have hgone : looseWork ((h.injector.table.ownOf f.key.name).map .value) =
      (h.injector.table.ownOf f.key.name).length := looseWork_values _ id
  simp only [release]
  split
  · simp only [weight_eq, looseWork_cons, looseWeight, hforget]
    omega
  · simp only [weight_eq, looseWork_append, looseWork_cons, looseWeight, hforget]
    omega

theorem closeFunction_weight (h : Heap) (key : FunctionKey) :
    (h.closeFunction key).weight ≤ h.weight := by
  unfold closeFunction
  split
  · split
    · rename_i f hfind
      exact release_weight (Injector.find?_mem hfind).1
    · exact Nat.le_refl _
  · split
    · exact Nat.le_refl _
    · simp only [weight_eq, looseWork_append, looseWork_values, List.length_nil]
      omega

/-- What is taken apart makes more work than what is left of it. -/
theorem takeApart_weight {h : Heap} {first : Loose} {rest : List Loose}
    (hloose : h.loose = first :: rest) :
    ({ h with loose := rest }.takeApart first).weight < h.weight := by
  have hwork : ({ h with loose := rest } : Heap).weight + looseWeight first =
      h.weight := by
    simp only [weight_eq, hloose, looseWork_cons]
    omega
  cases first with
  | handle key =>
      have hcode : ({ h with loose := .code key :: rest } : Heap).weight =
          ({ h with loose := rest } : Heap).weight + 1 := by
        simp only [weight_eq, looseWork_cons, looseWeight]
        omega
      simp only [looseWeight] at hwork
      simp only [takeApart]
      split
      · omega
      · have hle := closeFunction_weight { h with loose := .code key :: rest } key
        omega
  | code key =>
      have hle := closeCode_weight { h with loose := rest } key
      simp only [looseWeight] at hwork
      simp only [takeApart]
      omega
  | value value =>
      simp only [looseWeight] at hwork
      simp only [takeApart]
      split
      · rename_i key _
        have hle := closeCode_weight { h with loose := rest } key
        omega
      · omega
  | released key count isLocked =>
      simp only [looseWeight] at hwork
      have hsame : ({ h with loose := rest }.takeApart
          (.released key count isLocked)).weight =
          ({ h with loose := rest } : Heap).weight := rfl
      omega

theorem settleSteps_loose (steps : Nat) {h : Heap} (hsteps : h.weight ≤ steps) :
    (settleSteps steps h).loose = [] := by
  induction steps generalizing h with
  | zero =>
      rw [settleSteps]
      cases hloose : h.loose with
      | nil => rfl
      | cons first rest =>
          have hlt := takeApart_weight hloose
          omega
  | succ n ih =>
      rw [settleSteps]
      cases hloose : h.loose with
      | nil => exact hloose
      | cons first rest =>
          apply ih
          have hlt := takeApart_weight hloose
          omega

/-- Settling takes everything apart that was let go. -/
theorem settle_loose (h : Heap) : h.settle.loose = [] :=
  settleSteps_loose h.weight (Nat.le_refl _)

end Heap

end CapabilityMesh
