/-
What an application holds in a run.  Letting things go takes nothing out of its hands but
what it lets go itself, and bindings that are put into force change values alone.  So the
holds on a function get fewer only by as many as the application drops.
-/
import CapabilityMesh.Proofs.Agent.Bindings
import CapabilityMesh.Proofs.Agent.Effect

namespace CapabilityMesh

namespace Heap

section Holds

variable (h : Heap)

@[simp] theorem dropHandle_values (key : FunctionKey) :
    (h.dropHandle key).values = h.values := by
  rw [dropHandle]
  split
  · rw [letGo, settle_values]
  · rfl

theorem dropValue_values (value : Value) : (h.dropValue value).values.Sublist h.values := by
  rw [dropValue]
  split
  · rw [letGo, settle_values]
    exact List.erase_sublist
  · exact .refl _

@[simp] theorem clearOwn_values (function : String) :
    (h.clearOwn function).1.values = h.values := by
  simp [clearOwn_heap, clearing]

/-- A value that is taken out of the table comes into the application's hands. -/
theorem take_values {key : DependencyKey} {value : Value}
    (hvalue : value ∈ (h.take key).1.values) :
    value ∈ h.values ∨ ∃ old, h.injector.table.get? key = some old ∧ old = value := by
  rw [take] at hvalue
  split at hvalue
  · rename_i old hold
    rcases List.mem_cons.mp hvalue with rfl | hvalue
    · exact Or.inr ⟨value, hold, rfl⟩
    · exact Or.inl hvalue
  · exact Or.inl hvalue

@[simp] theorem dropValue_handles (value : Value) :
    (h.dropValue value).handles = h.handles := by
  rw [dropValue]
  split
  · rw [letGo, settle_handles]
  · rfl

@[simp] theorem dropValues_handles (values : List Value) :
    (h.dropValues values).handles = h.handles := by
  induction values generalizing h with
  | nil => rfl
  | cons value rest ih => exact (ih (h.dropValue value)).trans (h.dropValue_handles value)

@[simp] theorem take_handles (key : DependencyKey) : (h.take key).1.handles = h.handles := by
  rw [take]
  split <;> rfl

@[simp] theorem put_handles (key : DependencyKey) (value : Value) :
    (h.put key value).handles = h.handles :=
  dropValues_handles _ _

@[simp] theorem clear_handles (key : DependencyKey) :
    (h.clear key).1.handles = h.handles :=
  (dropValues_handles _ _).trans (h.take_handles key)

@[simp] theorem clearOwn_handles (function : String) :
    (h.clearOwn function).1.handles = h.handles := by
  simp [clearOwn_heap, clearing]

theorem unregister_handles (capability : String) :
    (h.unregister capability).1.handles = h.handles := by
  simp only [unregister]
  split
  · exact h.clear_handles _
  · exact h.clear_handles _

end Holds

theorem Alike.handles {h other : Heap} (halike : h.Alike other) :
    h.handles = other.handles := by
  have hhandles := congrArg Heap.handles (show ({ h with logged := [] } : Heap) =
    { other with logged := [] } from halike)
  exact hhandles

end Heap

/-- Whether a deed lets a hold on a function go. -/
def Deed.drops (key : FunctionKey) : Deed → Bool
  | drop other => other == key
  | _ => false

/-- Whether an event lets a hold on a function go. -/
def AgentEvent.drops (key : FunctionKey) : AgentEvent → Bool
  | .deed d => d.drops key
  | _ => false

/-- A deed takes no hold on a function out of the application's hands unless it lets it go
itself. -/
theorem Deed.perform_handles (h : Heap) (d : Deed) (key : FunctionKey) :
    h.handles.count key ≤ (d.perform h).handles.count key + (d.drops key).toNat := by
  have hsame : (d.perform h).handles = h.handles →
      h.handles.count key ≤ (d.perform h).handles.count key + (d.drops key).toNat := by
    intro heq
    rw [heq]
    exact Nat.le_add_right _ _
  have hmore : ∀ other, (d.perform h).handles = other :: h.handles →
      h.handles.count key ≤ (d.perform h).handles.count key + (d.drops key).toNat := by
    intro other heq
    rw [heq]
    exact Nat.le_trans List.count_le_count_cons (Nat.le_add_right _ _)
  cases d with
  | wrap tool mode takes owned =>
      by_cases howned : owned.all h.hasHandle = true
      · exact hmore _ (by rw [perform, if_pos howned]; rfl)
      · exact hsame (by rw [perform, if_neg howned])
  | hold other =>
      by_cases hheld : h.hasHandle other = true
      · exact hmore other (by rw [perform, if_pos hheld]; rfl)
      · exact hsame (by rw [perform, if_neg hheld])
  | drop other =>
      simp only [perform, drops, Heap.dropHandle]
      split
      · rw [Heap.letGo, Heap.settle_handles, List.count_erase]
        cases other == key <;> simp
        omega
      · exact Nat.le_add_right _ _
  | find capability function =>
      apply hsame
      simp only [perform]
      split <;> rfl
  | keep value =>
      apply hsame
      simp only [perform]
      split <;> rfl
  | discard value => exact hsame (h.dropValue_handles value)
  | register capability value =>
      apply hsame
      simp only [perform]
      split
      · exact h.put_handles _ value
      · rfl
  | unregister capability => exact hsame (h.unregister_handles capability)
  | registerFor function capability value =>
      apply hsame
      simp only [perform]
      split
      · exact h.put_handles _ value
      · rfl
  | unregisterFor function capability => exact hsame (h.clear_handles _)
  | store stored value =>
      apply hsame
      simp only [perform]
      split <;> rfl
  | take taken => exact hsame (h.take_handles taken)
  | clearOwn function => exact hsame (h.clearOwn_handles function)

namespace Agent

theorem applySlots_handles (a : Agent) (b : Bindings) (slots : List BindingSlot) (h : Heap)
    (count : BindingCount) : (a.applySlots b slots h count).1.handles = h.handles := by
  induction slots generalizing h count with
  | nil => rfl
  | cons slot slots ih =>
      have hslot : (a.applySlot b slot h count).1.handles = h.handles := by
        obtain ⟨noted, hnoted, heq⟩ := a.applySlot_eq b slot h count
        rw [heq, ← hnoted.handles]
        split
        · exact noted.put_handles slot.key _
        · exact noted.clear_handles slot.key
      exact (ih _ _).trans hslot

end Agent

namespace AgentRun

/-- An event takes no hold on a function out of the application's hands unless it lets it
go. -/
theorem step_handles (r : AgentRun) (e : AgentEvent) (key : FunctionKey) :
    r.heap.handles.count key ≤
      (r.step e).heap.handles.count key + (e.drops key).toNat := by
  by_cases hdeed : ∃ d, e = .deed d
  · obtain ⟨d, rfl⟩ := hdeed
    exact d.perform_handles r.heap key
  · have hsame : (r.step e).heap.handles = r.heap.handles := by
      rcases (step_turn r e).heap fun d hd => hdeed ⟨d, hd⟩ with ⟨b, -, halike⟩ | ⟨-, halike⟩
      · rw [halike.handles, (r.agent.applyBindings_alike b r.heap).handles,
          Agent.applySlots_handles]
      · exact halike.handles
    rw [hsame]
    exact Nat.le_add_right _ _

/-- As long as fewer holds on a function are let go than there are, one is left. -/
theorem steps_handles (r : AgentRun) (events : List AgentEvent) (key : FunctionKey) :
    r.heap.handles.count key ≤
      (events.foldl step r).heap.handles.count key + events.countP (·.drops key) := by
  induction events generalizing r with
  | nil => exact Nat.le_refl _
  | cons e rest ih =>
      have hfirst := step_handles r e key
      have hrest := ih (r.step e)
      rw [List.foldl_cons, List.countP_cons]
      cases hdrops : e.drops key <;> simp [hdrops] at hfirst ⊢ <;> omega

end AgentRun

end CapabilityMesh
