/-
Slots and their bindings.  Slots are in strict order, by function and then by capability,
and bindings are kept in that order, one for each slot.
-/
import CapabilityMesh.Proofs.Sorted
import CapabilityMesh.Registry.Provider

namespace CapabilityMesh

namespace BindingSlot

theorem precedes_iff {a b : BindingSlot} :
    a.precedes b = true ↔
      a.function < b.function ∨ a.function = b.function ∧ a.capability < b.capability := by
  simp [precedes]

theorem precedes_trans {a b c : BindingSlot} (hab : a.precedes b = true)
    (hbc : b.precedes c = true) : a.precedes c = true := by
  rw [precedes_iff] at hab hbc ⊢
  rcases hab with hab | ⟨hab, hcapability⟩
  · rcases hbc with hbc | ⟨hbc, -⟩
    · exact Or.inl (String.lt_trans hab hbc)
    · exact Or.inl (hbc ▸ hab)
  · rcases hbc with hbc | ⟨hbc, hlater⟩
    · exact Or.inl (hab ▸ hbc)
    · exact Or.inr ⟨hab.trans hbc, String.lt_trans hcapability hlater⟩

/-- Of two different slots one comes first. -/
theorem precedes_total {a b : BindingSlot} (hnot : ¬ a.precedes b = true) (hne : a ≠ b) :
    b.precedes a = true := by
  rw [precedes_iff, not_or, not_and] at hnot
  rw [precedes_iff]
  by_cases hfunction : a.function = b.function
  · refine Or.inr ⟨hfunction.symm, Text.lt_of_not_lt_of_ne (hnot.2 hfunction) ?_⟩
    intro hcapability
    exact hne (by cases a; cases b; simp_all)
  · exact Or.inl (Text.lt_of_not_lt_of_ne hnot.1 hfunction)

instance precedes_strict : IsStrictTotalOrder BindingSlot (fun a b => a.precedes b = true) where
  irrefl slot := by simp [precedes_iff]
  trans _ _ _ := precedes_trans
  trichotomous _ _ hnot hother := by
    by_contra hne
    exact hother (precedes_total hnot hne)

end BindingSlot

namespace Bindings

variable {b : Bindings}

/-- Bindings in the order of their slots, one for each. -/
def Ordered (b : Bindings) : Prop :=
  b.Pairwise fun first second => first.1.precedes second.1 = true

theorem Ordered.sorted (h : b.Ordered) :
    Sorted.Ordered Prod.fst (fun x y => BindingSlot.precedes x y = true) b := h

/-- To bind a slot is to put its binding in its place, in the order of the slots. -/
theorem insert_eq_put (b : Bindings) (slot : BindingSlot) (value : Option RemoteCapability) :
    b.insert slot value =
      Sorted.put Prod.fst (fun x y => x.precedes y = true) (fun _ _ => false) b
        (slot, value) := by
  induction b with
  | nil => rfl
  | cons first rest ih =>
      rw [insert, ih]
      rfl

/-- A slot has what it was bound to last, and no other slot is bound. -/
theorem get?_insert (b : Bindings) (slot other : BindingSlot)
    (value : Option RemoteCapability) :
    (b.insert slot value).get? other = if other = slot then some value else b.get? other := by
  rw [insert_eq_put]
  exact Sorted.lookup_put b (slot, value) other

theorem Ordered.insert (h : b.Ordered) (slot : BindingSlot)
    (value : Option RemoteCapability) : (b.insert slot value).Ordered := by
  rw [insert_eq_put]
  exact h.sorted.put (slot, value)

end Bindings

end CapabilityMesh
