/-
Bindings put into force.  Each slot of the wrapped functions gets the value that the
bindings prescribe for it, or loses the one it had.  A value that goes may release a
function, which makes later slots see other functions than earlier ones did; but that
is counted, and where nothing is counted, every slot is as prescribed.
-/
import CapabilityMesh.Proofs.Agent.Moves
import CapabilityMesh.Proofs.Injection.Newest
import CapabilityMesh.Proofs.Injection.Writing

namespace CapabilityMesh

namespace DependencyTable

/-- The table with a value under a key, or with none. -/
def set (table : DependencyTable) (key : DependencyKey) : Option Value → DependencyTable
  | some value => table.insert key value
  | none => table.erase key

theorem get?_set (table : DependencyTable) (key other : DependencyKey)
    (value : Option Value) :
    (table.set key value).get? other = if other = key then value else table.get? other := by
  cases value with
  | none => exact get?_erase table key other
  | some value => exact get?_insert table key other value

end DependencyTable

namespace BindingSlot

/-- Where the value of a slot is stored. -/
def key (slot : BindingSlot) : DependencyKey :=
  .own slot.function slot.capability

theorem key_inj {slot other : BindingSlot} (hkey : slot.key = other.key) :
    slot = other := by
  obtain ⟨function, capability⟩ := slot
  obtain ⟨function', capability'⟩ := other
  simp only [key, DependencyKey.own.injEq] at hkey
  rw [hkey.1, hkey.2]

/-- What is put into a slot is found there, and no other slot changes. -/
theorem get?_set (table : DependencyTable) (slot other : BindingSlot)
    (value : Option Value) :
    (table.set slot.key value).get? other.key =
      if other = slot then value else table.get? other.key := by
  rw [DependencyTable.get?_set]
  by_cases hsame : other = slot
  · rw [hsame, if_pos rfl, if_pos rfl]
  · rw [if_neg hsame, if_neg fun hkey => hsame (key_inj hkey)]

end BindingSlot

namespace Heap

theorem AtRest.of_alike {h noted : Heap} (hrest : h.AtRest) (hnoted : noted.Alike h) :
    noted.AtRest := by
  have hsame : ({ noted with logged := [] } : Heap) = { h with logged := [] } := hnoted
  have hheld : noted.isHeld = h.isHeld := by
    have := congrArg Heap.isHeld hsame
    exact this
  have hloose : noted.loose = h.loose := by
    have := congrArg Heap.loose hsame
    exact this
  exact ⟨hheld.trans hrest.held, hloose.trans hrest.loose⟩

end Heap

namespace Agent

/-- The value that bindings prescribe for a slot, given what is wrapped. -/
def boundValue (a : Agent) (i : Injector) (b : Bindings) (slot : BindingSlot) :
    Option Value :=
  match b.get? slot with
  | some (some r) =>
      if r.agentId = a.identity.agentId then
        (i.localCapability? r.capability r.function).map .inProcess
      else some (.remote r)
  | _ => none

/-- A slot is as the bindings prescribe.  A provider of another agent is there as it
is; one of the agent itself is the newest wrapped function of its name, if there is
one; and in every other case there is nothing. -/
def InForce (a : Agent) (b : Bindings) (i : Injector) (slot : BindingSlot) : Prop :=
  match b.get? slot with
  | some (some r) =>
      if r.agentId = a.identity.agentId then
        (∃ f, i.IsNewest r.function f ∧
          i.table.get? slot.key = some (.inProcess ⟨r.capability, f.key, f.mode⟩)) ∨
        ((∀ f ∈ i.functions, f.key.name ≠ r.function) ∧ i.table.get? slot.key = none)
      else i.table.get? slot.key = some (.remote r)
  | _ => i.table.get? slot.key = none

theorem inForce_of_boundValue {a : Agent} {b : Bindings} {i : Injector}
    {slot : BindingSlot} (hvalue : i.table.get? slot.key = a.boundValue i b slot) :
    a.InForce b i slot := by
  rw [boundValue] at hvalue
  rw [InForce]
  cases hb : b.get? slot with
  | none => simpa only [hb] using hvalue
  | some bound =>
      cases bound with
      | none => simpa only [hb] using hvalue
      | some r =>
          simp only [hb] at hvalue ⊢
          by_cases hself : r.agentId = a.identity.agentId
          · rw [if_pos hself] at hvalue ⊢
            rw [Injector.localCapability?] at hvalue
            cases hfind : i.newestNamed? r.function with
            | some f =>
                rw [hfind] at hvalue
                exact Or.inl ⟨f, Injector.newestNamed?_some hfind, hvalue⟩
            | none =>
                rw [hfind] at hvalue
                exact Or.inr ⟨Injector.newestNamed?_none hfind, hvalue⟩
          · rw [if_neg hself] at hvalue ⊢
            exact hvalue

theorem boundValue_functions (a : Agent) {i j : Injector}
    (hfunctions : i.functions = j.functions) (b : Bindings) (slot : BindingSlot) :
    a.boundValue i b slot = a.boundValue j b slot := by
  simp only [boundValue, Injector.localCapability?, Injector.newestNamed?,
    Injector.newest, hfunctions]

theorem boundValue_identity {a other : Agent} (hidentity : other.identity = a.identity)
    (i : Injector) (b : Bindings) (slot : BindingSlot) :
    other.boundValue i b slot = a.boundValue i b slot := by
  simp only [boundValue, hidentity]

theorem bindingValue_spec (a : Agent) (h : Heap) (r : RemoteCapability) :
    (a.bindingValue h r).1.Alike h ∧
      (a.bindingValue h r).2 =
        if r.agentId = a.identity.agentId then
          (h.injector.localCapability? r.capability r.function).map .inProcess
        else some (.remote r) := by
  rw [bindingValue]
  by_cases hself : r.agentId = a.identity.agentId
  · rw [if_pos hself, if_pos hself]
    cases h.injector.localCapability? r.capability r.function with
    | some l => exact ⟨Heap.note_alike h _, rfl⟩
    | none => exact ⟨Heap.note_alike h _, rfl⟩
  · rw [if_neg hself, if_neg hself]
    exact ⟨Heap.Alike.refl h, rfl⟩

/-- One slot gets the value that is prescribed, apart from what is released. -/
theorem applySlot_eq (a : Agent) (b : Bindings) (slot : BindingSlot) (h : Heap)
    (count : BindingCount) :
    ∃ noted : Heap, noted.Alike h ∧
      (a.applySlot b slot h count).1 =
        match a.boundValue h.injector b slot with
        | some value => noted.put slot.key value
        | none => (noted.clear slot.key).1 := by
  have hcleared : ∃ noted : Heap, noted.Alike h ∧
      (h.clear slot.key).1 = (noted.clear slot.key).1 := ⟨h, Heap.Alike.refl h, rfl⟩
  simp only [applySlot, boundValue]
  cases hb : b.get? slot with
  | none => exact hcleared
  | some bound =>
      cases bound with
      | none => exact hcleared
      | some r =>
          obtain ⟨hnoted, hvalue⟩ := a.bindingValue_spec h r
          refine ⟨(a.bindingValue h r).1, hnoted, ?_⟩
          simp only [← hvalue]
          cases (a.bindingValue h r).2 with
          | some value => rfl
          | none => rfl

theorem applySlot_spec (a : Agent) (b : Bindings) (slot : BindingSlot) {h : Heap}
    (hrest : h.AtRest) (count : BindingCount) :
    (a.applySlot b slot h count).1.AtRest ∧
      Injector.Releases
        { h.injector with
          table := h.injector.table.set slot.key (a.boundValue h.injector b slot) }
        (a.applySlot b slot h count).1.injector := by
  obtain ⟨noted, hnoted, heq⟩ := a.applySlot_eq b slot h count
  have hnotedRest := hrest.of_alike hnoted
  rw [heq, ← hnoted.injector]
  cases a.boundValue noted.injector b slot with
  | some value => exact Heap.put_spec hnotedRest slot.key value
  | none => exact Heap.clear_spec hnotedRest slot.key

/-- The books before and after bindings were put into force for slots.  Either nothing
was released, or it was counted.  In the first case the slots are as prescribed and
every other value is as before. -/
structure Binds (a : Agent) (b : Bindings) (slots : List BindingSlot)
    (before after : Injector) : Prop where
  released :
    (after.generation = before.generation ∧ after.functions = before.functions) ∨
      (before.generation < after.generation ∧
        after.functions.length < before.functions.length)
  bound : after.generation = before.generation → ∀ slot ∈ slots,
    after.table.get? slot.key = a.boundValue before b slot
  others : after.generation = before.generation → ∀ key,
    (∀ slot ∈ slots, slot.key ≠ key) → after.table.get? key = before.table.get? key

theorem Binds.functions_of_generation {a : Agent} {b : Bindings}
    {slots : List BindingSlot} {before after : Injector}
    (h : Binds a b slots before after)
    (hgeneration : after.generation = before.generation) :
    after.functions = before.functions := by
  rcases h.released with hsame | hreleased
  · exact hsame.2
  · omega

theorem Binds.generation_of_functions {a : Agent} {b : Bindings}
    {slots : List BindingSlot} {before after : Injector}
    (h : Binds a b slots before after) (hfunctions : after.functions = before.functions) :
    after.generation = before.generation := by
  rcases h.released with hsame | hreleased
  · exact hsame.1
  · rw [hfunctions] at hreleased
    omega

theorem Binds.generation_le {a : Agent} {b : Bindings} {slots : List BindingSlot}
    {before after : Injector} (h : Binds a b slots before after) :
    before.generation ≤ after.generation := by
  rcases h.released with hsame | hreleased
  · exact Nat.le_of_eq hsame.1.symm
  · exact Nat.le_of_lt hreleased.1

theorem Binds.nil (a : Agent) (b : Bindings) (i : Injector) : Binds a b [] i i :=
  ⟨Or.inl ⟨rfl, rfl⟩, fun _ _ hslot => absurd hslot List.not_mem_nil,
    fun _ _ _ => rfl⟩

theorem Binds.cons {a : Agent} {b : Bindings} {slot : BindingSlot}
    {slots : List BindingSlot} {before middle after : Injector}
    (hfirst : Injector.Shrinks
      { before with table := before.table.set slot.key (a.boundValue before b slot) }
      middle)
    (hrest : Binds a b slots middle after) : Binds a b (slot :: slots) before after := by
  have hmiddle : (middle.generation = before.generation ∧
      middle.functions = before.functions) ∨
      (before.generation < middle.generation ∧
        middle.functions.length < before.functions.length) := by
    rcases hfirst.released with rfl | hreleased
    · exact Or.inl ⟨rfl, rfl⟩
    · exact Or.inr hreleased
  have hsettled : after.generation = before.generation →
      middle = { before with
        table := before.table.set slot.key (a.boundValue before b slot) } ∧
      after.generation = middle.generation := by
    intro hgeneration
    have hle := hfirst.generation_le
    have hle' := hrest.generation_le
    have hsame : middle.generation = before.generation := by
      have hbefore : before.generation ≤ middle.generation := hle
      omega
    exact ⟨hfirst.eq_of_generation hsame, by omega⟩
  refine ⟨?_, ?_, ?_⟩
  · rcases hmiddle with ⟨hgeneration, hfunctions⟩ | hreleased
    · rw [← hgeneration, ← hfunctions]
      exact hrest.released
    · rcases hrest.released with ⟨hgeneration, hfunctions⟩ | hmore
      · rw [hgeneration, hfunctions]
        exact Or.inr hreleased
      · exact Or.inr ⟨Nat.lt_trans hreleased.1 hmore.1, Nat.lt_trans hmore.2 hreleased.2⟩
  · intro hgeneration other hother
    obtain ⟨hmiddle, hafter⟩ := hsettled hgeneration
    have hvalue : a.boundValue middle b other = a.boundValue before b other := by
      rw [hmiddle]
      exact a.boundValue_functions rfl b other
    by_cases hmem : other ∈ slots
    · rw [hrest.bound hafter other hmem, hvalue]
    · -- No later slot writes to the same place.
      rcases List.mem_cons.mp hother with rfl | hother
      · have hkeys : ∀ later ∈ slots, later.key ≠ other.key := by
          intro later hlater hkey
          rw [BindingSlot.key_inj hkey] at hlater
          exact hmem hlater
        rw [hrest.others hafter other.key hkeys, hmiddle, DependencyTable.get?_set,
          if_pos rfl]
      · exact absurd hother hmem
  · intro hgeneration key hkeys
    obtain ⟨hmiddle, hafter⟩ := hsettled hgeneration
    have hkey : key ≠ slot.key := fun heq => hkeys slot List.mem_cons_self heq.symm
    rw [hrest.others hafter key fun other hother =>
        hkeys other (List.mem_cons_of_mem slot hother),
      hmiddle, DependencyTable.get?_set, if_neg hkey]

theorem applySlots_spec (a : Agent) (b : Bindings) (slots : List BindingSlot) {h : Heap}
    (hrest : h.AtRest) (count : BindingCount) :
    (a.applySlots b slots h count).1.AtRest ∧
      Binds a b slots h.injector (a.applySlots b slots h count).1.injector := by
  induction slots generalizing h count with
  | nil => exact ⟨hrest, Binds.nil a b h.injector⟩
  | cons slot slots ih =>
      obtain ⟨hfirst, hreleases⟩ := a.applySlot_spec b slot hrest count
      obtain ⟨hlast, hbinds⟩ := ih hfirst (a.applySlot b slot h count).2
      exact ⟨hlast, Binds.cons hreleases.shrinks hbinds⟩

theorem foldl_note_alike {α : Type} (items : List α) (entry : α → LogEntry) (h : Heap) :
    (items.foldl (fun h item => h.note (entry item)) h).Alike h := by
  induction items generalizing h with
  | nil => exact Heap.Alike.refl h
  | cons first rest ih => exact (ih (h.note (entry first))).trans (Heap.note_alike h _)

theorem applyBindings_alike (a : Agent) (b : Bindings) (h : Heap) :
    (a.applyBindings b h).Alike
      (a.applySlots b (slotsOf h.injector.declaredTools) h {}).1 :=
  (Heap.note_alike _ _).trans (foldl_note_alike _ _ _)

/-- Bindings put into force end at rest, with every slot of the wrapped functions as
prescribed unless a function was released on the way. -/
theorem applyBindings_spec (a : Agent) (b : Bindings) {h : Heap} (hrest : h.AtRest) :
    (a.applyBindings b h).AtRest ∧
      Binds a b (slotsOf h.injector.declaredTools) h.injector
        (a.applyBindings b h).injector := by
  have halike := a.applyBindings_alike b h
  obtain ⟨hlast, hbinds⟩ := a.applySlots_spec b (slotsOf h.injector.declaredTools) hrest {}
  refine ⟨hlast.of_alike halike, ?_⟩
  rw [halike.injector]
  exact hbinds

/-- Books that say the same about functions and about the value of every key. -/
structure SameBooks (i j : Injector) : Prop where
  functions : j.functions = i.functions
  generation : j.generation = i.generation
  values : ∀ key, j.table.get? key = i.table.get? key

theorem SameBooks.refl (i : Injector) : SameBooks i i := ⟨rfl, rfl, fun _ => rfl⟩

theorem SameBooks.trans {i j k : Injector} (hij : SameBooks i j) (hjk : SameBooks j k) :
    SameBooks i k :=
  ⟨hjk.functions.trans hij.functions, hjk.generation.trans hij.generation,
    fun key => (hjk.values key).trans (hij.values key)⟩

/-- A slot that is as prescribed stays so, and nothing else happens. -/
theorem applySlot_same (a : Agent) (b : Bindings) {slot : BindingSlot} {h : Heap}
    (hrest : h.AtRest) (count : BindingCount)
    (hbound : h.injector.table.get? slot.key = a.boundValue h.injector b slot) :
    SameBooks h.injector (a.applySlot b slot h count).1.injector := by
  obtain ⟨noted, hnoted, heq⟩ := a.applySlot_eq b slot h count
  have hnotedRest := hrest.of_alike hnoted
  rw [heq, ← hnoted.injector]
  rw [← hnoted.injector] at hbound
  cases hvalue : a.boundValue noted.injector b slot with
  | some value =>
      rw [hvalue] at hbound
      rw [Heap.put_same hnotedRest hbound]
      refine ⟨rfl, rfl, ?_⟩
      intro key
      rw [DependencyTable.get?_insert]
      by_cases hkey : key = slot.key
      · rw [if_pos hkey, hkey, hbound]
      · rw [if_neg hkey]
  | none =>
      rw [hvalue] at hbound
      simp only [Heap.clear_none hbound]
      exact SameBooks.refl noted.injector

/-- Bindings that are in force already can be applied again without any effect. -/
theorem applySlots_same (a : Agent) (b : Bindings) (slots : List BindingSlot) {h : Heap}
    (hrest : h.AtRest) (count : BindingCount)
    (hbound : ∀ slot ∈ slots,
      h.injector.table.get? slot.key = a.boundValue h.injector b slot) :
    SameBooks h.injector (a.applySlots b slots h count).1.injector := by
  induction slots generalizing h count with
  | nil => exact SameBooks.refl h.injector
  | cons slot slots ih =>
      have hfirst := a.applySlot_same b hrest count (hbound slot List.mem_cons_self)
      refine hfirst.trans (ih (a.applySlot_spec b slot hrest count).1 _ ?_)
      intro other hother
      rw [hfirst.values, a.boundValue_functions hfirst.functions]
      exact hbound other (List.mem_cons_of_mem slot hother)

theorem applyBindings_same (a : Agent) (b : Bindings) {h : Heap} (hrest : h.AtRest)
    (hbound : ∀ slot ∈ slotsOf h.injector.declaredTools,
      h.injector.table.get? slot.key = a.boundValue h.injector b slot) :
    SameBooks h.injector (a.applyBindings b h).injector := by
  rw [(a.applyBindings_alike b h).injector]
  exact a.applySlots_same b _ hrest {} hbound

end Agent

end CapabilityMesh
