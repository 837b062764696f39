/-
The lines that are logged have no effect on anything else.  Heaps that differ at most in
their lines stay so, whatever is let go, stored or put into force.
-/
import CapabilityMesh.Proofs.Agent.Bindings
import CapabilityMesh.Proofs.Injection.Application

namespace CapabilityMesh

namespace Heap

theorem alike_iff {h other : Heap} :
    h.Alike other ↔ ∃ lines, h = { other with logged := lines } := by
  constructor
  · intro halike
    exact ⟨h.logged, congrArg (fun quiet : Heap => { quiet with logged := h.logged }) halike⟩
  · rintro ⟨lines, rfl⟩
    rfl

theorem Alike.symm {h other : Heap} (halike : h.Alike other) : other.Alike h :=
  Eq.symm halike

theorem Alike.loose {h other : Heap} (halike : h.Alike other) : h.loose = other.loose := by
  obtain ⟨lines, rfl⟩ := alike_iff.mp halike
  rfl

section Settling

variable (h : Heap) (lines : List LogEntry)

theorem closeCode_relogged (key : FunctionKey) :
    ({ h with logged := lines }.closeCode key).Alike (h.closeCode key) := by
  have hcode : ({ h with logged := lines } : Heap).code? key = h.code? key := rfl
  have hheld : ({ h with logged := lines } : Heap).isCodeHeld key = h.isCodeHeld key := rfl
  simp only [closeCode, hcode, hheld]
  split
  · split <;> rfl
  · rfl

theorem release_relogged (f : TrackedFunction) :
    ({ h with logged := lines }.release f).Alike (h.release f) := by
  simp only [release]
  split <;> rfl

theorem closeFunction_relogged (key : FunctionKey) :
    ({ h with logged := lines }.closeFunction key).Alike (h.closeFunction key) := by
  have hany : ({ h with logged := lines } : Heap).hasAnyHandle = h.hasAnyHandle := rfl
  simp only [closeFunction, hany]
  split
  · split
    · exact release_relogged h lines _
    · rfl
  · split <;> rfl

theorem takeApart_relogged (thing : Loose) :
    ({ h with logged := lines }.takeApart thing).Alike (h.takeApart thing) := by
  cases thing with
  | handle key =>
      have hhandle : ({ h with logged := lines, loose := .code key :: h.loose } : Heap).hasHandle
          key = ({ h with loose := .code key :: h.loose } : Heap).hasHandle key := rfl
      simp only [takeApart, hhandle]
      split
      · rfl
      · exact closeFunction_relogged { h with loose := .code key :: h.loose } lines key
  | code key => exact closeCode_relogged h lines key
  | value value =>
      simp only [takeApart]
      split
      · exact closeCode_relogged h lines _
      · rfl
  | released key count isLocked => rfl

end Settling

section Operations

variable {h other : Heap}

theorem Alike.settleSteps (halike : h.Alike other) (steps : Nat) :
    (Heap.settleSteps steps h).Alike (Heap.settleSteps steps other) := by
  induction steps generalizing h other with
  | zero => exact halike
  | succ n ih =>
      cases hloose : other.loose with
      | nil =>
          rw [settleSteps_rest _ hloose, settleSteps_rest _ (halike.loose.trans hloose)]
          exact halike
      | cons first rest =>
          obtain ⟨lines, rfl⟩ := alike_iff.mp halike
          simp only [Heap.settleSteps, hloose]
          apply ih
          exact takeApart_relogged { other with loose := rest } lines first

theorem Alike.letGo (halike : h.Alike other) (things : List Loose) :
    (h.letGo things).Alike (other.letGo things) := by
  obtain ⟨lines, rfl⟩ := alike_iff.mp halike
  have hloose : ({ other with logged := lines, loose := things ++ other.loose } : Heap).Alike
      { other with loose := things ++ other.loose } := rfl
  exact hloose.settleSteps _

theorem Alike.dropHandle (halike : h.Alike other) (key : FunctionKey) :
    (h.dropHandle key).Alike (other.dropHandle key) := by
  obtain ⟨lines, rfl⟩ := alike_iff.mp halike
  simp only [Heap.dropHandle]
  split
  · have hdropped : ({ other with logged := lines, handles := other.handles.erase key } :
        Heap).Alike { other with handles := other.handles.erase key } := rfl
    exact hdropped.letGo _
  · rfl

theorem Alike.dropValue (halike : h.Alike other) (value : Value) :
    (h.dropValue value).Alike (other.dropValue value) := by
  obtain ⟨lines, rfl⟩ := alike_iff.mp halike
  simp only [Heap.dropValue]
  split
  · have hdropped : ({ other with logged := lines, values := other.values.erase value } :
        Heap).Alike { other with values := other.values.erase value } := rfl
    exact hdropped.letGo _
  · rfl

theorem Alike.dropValues (halike : h.Alike other) (values : List Value) :
    (h.dropValues values).Alike (other.dropValues values) := by
  induction values generalizing h other with
  | nil => exact halike
  | cons value rest ih => exact ih (halike.dropValue value)

theorem Alike.store (halike : h.Alike other) (key : DependencyKey) (value : Value) :
    (h.store key value).1.Alike (other.store key value).1 ∧
      (h.store key value).2 = (other.store key value).2 := by
  obtain ⟨lines, rfl⟩ := alike_iff.mp halike
  exact ⟨rfl, rfl⟩

theorem Alike.take (halike : h.Alike other) (key : DependencyKey) :
    (h.take key).1.Alike (other.take key).1 ∧ (h.take key).2 = (other.take key).2 := by
  obtain ⟨lines, rfl⟩ := alike_iff.mp halike
  simp only [Heap.take]
  cases other.injector.table.get? key with
  | some old => exact ⟨rfl, rfl⟩
  | none => exact ⟨rfl, rfl⟩

theorem Alike.put (halike : h.Alike other) (key : DependencyKey) (value : Value) :
    (h.put key value).Alike (other.put key value) := by
  obtain ⟨hstored, hold⟩ := halike.store key value
  simp only [Heap.put, hold]
  exact hstored.dropValues _

theorem Alike.clear (halike : h.Alike other) (key : DependencyKey) :
    (h.clear key).1.Alike (other.clear key).1 ∧ (h.clear key).2 = (other.clear key).2 := by
  obtain ⟨htaken, hold⟩ := halike.take key
  simp only [Heap.clear, hold]
  exact ⟨htaken.dropValues _, trivial⟩

theorem Alike.register (halike : h.Alike other) (capability : String) (value : Value) :
    (h.register capability value).Alike (other.register capability value) :=
  ((Heap.note_alike _ _).trans (halike.put _ value)).trans (Heap.note_alike _ _).symm

theorem Alike.unregister (halike : h.Alike other) (capability : String) :
    (h.unregister capability).1.Alike (other.unregister capability).1 := by
  obtain ⟨hcleared, hfound⟩ := halike.clear (.shared capability)
  simp only [Heap.unregister, hfound]
  split
  · exact ((Heap.note_alike _ _).trans hcleared).trans (Heap.note_alike _ _).symm
  · exact hcleared

theorem Alike.clearOwn (halike : h.Alike other) (function : String) :
    (h.clearOwn function).1.Alike (other.clearOwn function).1 := by
  obtain ⟨lines, rfl⟩ := alike_iff.mp halike
  have hcleared : ({ other with logged := lines }.clearing function).Alike
      (other.clearing function) := rfl
  obtain ⟨later, hlater⟩ := alike_iff.mp (hcleared.settleSteps (other.clearing function).weight)
  have hsettled : ({ other with logged := lines }.clearing function).settle =
      { (other.clearing function).settle with logged := later } := hlater
  rw [clearOwn_heap, clearOwn_heap, hsettled]
  rfl

end Operations

end Heap

/-- Deeds do the same to heaps that differ at most in their lines. -/
theorem Heap.Alike.perform {h other : Heap} (halike : h.Alike other) (d : Deed) :
    (d.perform h).Alike (d.perform other) := by
  have hsame := halike
  obtain ⟨lines, rfl⟩ := alike_iff.mp halike
  have hhandle : ∀ key, ({ other with logged := lines } : Heap).hasHandle key =
      other.hasHandle key := fun _ => rfl
  have hathand : ∀ value, ({ other with logged := lines } : Heap).hasAtHand value =
      other.hasAtHand value := fun _ => rfl
  cases d with
  | wrap tool mode takes owned =>
      have hall : owned.all ({ other with logged := lines } : Heap).hasHandle =
          owned.all other.hasHandle := rfl
      simp only [Deed.perform, hall]
      split <;> rfl
  | hold key =>
      simp only [Deed.perform, hhandle]
      split <;> rfl
  | drop key => exact hsame.dropHandle key
  | find capability function =>
      simp only [Deed.perform]
      split <;> rfl
  | keep value =>
      simp only [Deed.perform, hathand]
      split <;> rfl
  | discard value => exact hsame.dropValue value
  | register capability value =>
      simp only [Deed.perform, hathand]
      split
      · exact hsame.register capability value
      · rfl
  | unregister capability => exact hsame.unregister capability
  | registerFor function capability value =>
      simp only [Deed.perform, hathand]
      split
      · exact hsame.put _ value
      · rfl
  | unregisterFor function capability => exact (hsame.clear _).1
  | store key value =>
      simp only [Deed.perform, hathand]
      split
      · exact (hsame.store key value).1
      · rfl
  | take key => exact (hsame.take key).1
  | clearOwn function => exact hsame.clearOwn function

namespace Agent

variable {h other : Heap}

theorem applySlot_alike (a : Agent) (b : Bindings) (slot : BindingSlot)
    (halike : h.Alike other) (count count' : BindingCount) :
    (a.applySlot b slot h count).1.Alike (a.applySlot b slot other count').1 := by
  obtain ⟨noted, hnoted, heq⟩ := a.applySlot_eq b slot h count
  obtain ⟨noted', hnoted', heq'⟩ := a.applySlot_eq b slot other count'
  have hsame : noted.Alike noted' := (hnoted.trans halike).trans hnoted'.symm
  rw [heq, heq', halike.injector]
  cases a.boundValue other.injector b slot with
  | some value => exact hsame.put slot.key value
  | none => exact (hsame.clear slot.key).1

/-- Slots get the same from heaps that differ at most in their lines, and what was
counted before makes no difference. -/
theorem applySlots_alike (a : Agent) (b : Bindings) (slots : List BindingSlot)
    (halike : h.Alike other) (count count' : BindingCount) :
    (a.applySlots b slots h count).1.Alike (a.applySlots b slots other count').1 := by
  induction slots generalizing h other count count' with
  | nil => exact halike
  | cons slot slots ih => exact ih (a.applySlot_alike b slot halike count count') _ _

theorem applyBindings_relogged (a : Agent) (b : Bindings) (halike : h.Alike other) :
    (a.applyBindings b h).Alike (a.applyBindings b other) := by
  have hfirst := a.applyBindings_alike b h
  have hsecond := a.applyBindings_alike b other
  rw [halike.injector] at hfirst
  exact (hfirst.trans (a.applySlots_alike b _ halike {} {})).trans hsecond.symm

end Agent

end CapabilityMesh
