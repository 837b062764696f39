/-
How far an answer of the registry reaches.  Bindings that are put into force write the
slots of the declared tools and nothing else.  A value that goes from such a slot may have
been the last hold on the code of a function that was released before.  That code then lets
go of its handles, and this may release functions and take the values of their names along.
-/
import CapabilityMesh.Proofs.Agent.Strays

namespace CapabilityMesh

namespace Injector

/-- Whether the newest wrapped function of a slot's name declares the slot's capability. -/
def Needs (i : Injector) (slot : BindingSlot) : Prop :=
  ∃ f, i.IsNewest slot.function f ∧ f.tool.Declares slot.capability

theorem mem_slotsOf_iff {i : Injector} (hbooks : i.Books) (htitled : i.Titled)
    (slot : BindingSlot) : slot ∈ Agent.slotsOf i.declaredTools ↔ i.Needs slot := by
  rw [Agent.slotsOf, List.mem_flatMap]
  constructor
  · rintro ⟨t, ht, hslot⟩
    obtain ⟨name, f, hf, rfl⟩ := hbooks.mem_declaredTools_iff.mp ht
    obtain ⟨d, hd, rfl⟩ := List.mem_map.mp hslot
    have hname : f.tool.function = name := (htitled f hf.wrapped).trans hf.named
    exact ⟨f, hname ▸ hf, d, hd, rfl⟩
  · rintro ⟨f, hf, d, hd, hcapability⟩
    have hname : f.tool.function = slot.function := (htitled f hf.wrapped).trans hf.named
    refine ⟨f.tool, hbooks.mem_declaredTools_iff.mpr ⟨_, f, hf, rfl⟩, ?_⟩
    refine List.mem_map.mpr ⟨d, hd, ?_⟩
    rw [hname, hcapability]

theorem find?_isSome_of_sublist {i j : Injector} (hij : j.functions.Sublist i.functions)
    {key : FunctionKey} (hfind : (j.find? key).isSome = true) :
    (i.find? key).isSome = true := by
  rw [find?, List.find?_isSome] at hfind ⊢
  obtain ⟨f, hf, hkey⟩ := hfind
  exact ⟨f, hij.subset hf, hkey⟩

theorem Releases.value_before {i j : Injector} (h : Releases i j) {slot : BindingSlot}
    {value : Value} (hvalue : j.table.get? slot.key = some value) :
    i.table.get? slot.key = some value := by
  have hown : j.table.get? slot.key =
      if i.orphans j slot.function then none else i.table.get? slot.key :=
    h.get?_own slot.function slot.capability
  rw [hown] at hvalue
  split at hvalue
  · cases hvalue
  · exact hvalue

end Injector

namespace Heap

/-- A value of a wrapped function, or of none, can be let go without any effect. -/
theorem dropValue_wrapped {h : Heap} (hloose : h.loose = []) {value : Value}
    (hwrapped : ∀ key, value.target? = some key → (h.injector.find? key).isSome = true) :
    (h.dropValue value).injector = h.injector := by
  rw [dropValue]
  split
  · rw [letGo_held]
    · exact hloose
    · intro target htarget
      simp [isCodeHeld, hwrapped target htarget]
  · rfl

/-- To let go of what was in the table has an effect only if it held the code of a function
that is not wrapped any more. -/
theorem dropValues_old {h : Heap} (hloose : h.loose = []) (old : Option Value) :
    (h.dropValues old.toList).injector = h.injector ∨
      ∃ l, old = some (.inProcess l) ∧ h.injector.find? l.key = none := by
  cases old with
  | none => exact Or.inl rfl
  | some value =>
      by_cases hwrapped :
          ∀ key, value.target? = some key → (h.injector.find? key).isSome = true
      · exact Or.inl (dropValue_wrapped hloose hwrapped)
      · push Not at hwrapped
        obtain ⟨key, htarget, hgone⟩ := hwrapped
        cases value with
        | inProcess l =>
            cases htarget
            exact Or.inr ⟨l, rfl, by simpa using hgone⟩
        | _ => cases htarget

theorem take_snd (h : Heap) (key : DependencyKey) :
    (h.take key).2 = h.injector.table.get? key := by
  unfold take
  split
  · rename_i old hold
    exact hold.symm
  · rename_i hnone
    exact hnone.symm

end Heap

namespace Agent

variable (a : Agent) (b : Bindings)

open Injector

/-- A function of the process that bindings prescribe is wrapped. -/
theorem find?_of_boundValue {a : Agent} {b : Bindings} {i : Injector} {slot : BindingSlot}
    {l : LocalCapability} (hvalue : a.boundValue i b slot = some (.inProcess l)) :
    (i.find? l.key).isSome = true := by
  simp only [boundValue] at hvalue
  split at hvalue
  · split at hvalue
    · obtain ⟨found, hfound, hsame⟩ := Option.map_eq_some_iff.mp hvalue
      cases hsame
      exact (localCapability?_some hfound).2.2
    · cases hvalue
  · cases hvalue

/-- To put the binding of a slot into force writes this slot, and does no more unless the
slot held the code of a function that is not wrapped any more. -/
theorem applySlot_cause (slot : BindingSlot) {h : Heap} (hrest : h.AtRest)
    (count : BindingCount) :
    (a.applySlot b slot h count).1.injector =
        { h.injector with
          table := h.injector.table.set slot.key (a.boundValue h.injector b slot) } ∨
      ∃ l, h.injector.table.get? slot.key = some (.inProcess l) ∧
        h.injector.find? l.key = none := by
  obtain ⟨noted, hnoted, heq⟩ := a.applySlot_eq b slot h count
  have hnotedRest := hrest.of_alike hnoted
  rw [heq, ← hnoted.injector]
  cases a.boundValue noted.injector b slot with
  | some value =>
      exact Heap.dropValues_old (Heap.store_atRest hnotedRest slot.key value).loose
        (noted.injector.table.get? slot.key)
  | none =>
      rcases Heap.dropValues_old (Heap.take_atRest hnotedRest slot.key).loose
          (noted.take slot.key).2 with hsame | ⟨l, hold, hgone⟩
      · exact Or.inl (hsame.trans (noted.take_injector slot.key))
      · rw [Heap.take_snd] at hold
        rw [Heap.take_injector] at hgone
        exact Or.inr ⟨l, hold, hgone⟩

/-- The books before and after bindings were put into force for slots.  All other values
stay, unless the last function of a name goes.  No function goes unless one of the slots
lost the code of a function that was not wrapped any more. -/
structure Confined (slots : List BindingSlot) (before after : Injector) : Prop where
  functions : after.functions.Sublist before.functions
  shared : ∀ capability : String,
    after.table.get? (.shared capability) = before.table.get? (.shared capability)
  others : ∀ slot : BindingSlot, slot ∉ slots → after.table.get? slot.key =
    if before.orphans after slot.function then none else before.table.get? slot.key
  /-- A function of the process that a slot has now and did not have before is wrapped. -/
  fresh : ∀ (slot : BindingSlot) (l : LocalCapability),
    after.table.get? slot.key = some (.inProcess l) →
      before.table.get? slot.key = some (.inProcess l) ∨
        (before.find? l.key).isSome = true
  cause : after.functions ≠ before.functions → ∃ slot ∈ slots, ∃ l : LocalCapability,
    before.table.get? slot.key = some (.inProcess l) ∧ before.find? l.key = none ∧
      after.table.get? slot.key ≠ some (.inProcess l)

theorem Confined.refl (slots : List BindingSlot) (i : Injector) : Confined slots i i where
  functions := List.Sublist.refl _
  shared _ := rfl
  others slot _ := by simp [orphans]
  fresh _ _ hvalue := Or.inl hvalue
  cause hne := absurd rfl hne

theorem Confined.cons {a : Agent} {b : Bindings} {slot : BindingSlot}
    {slots : List BindingSlot} {before middle after : Injector}
    (hreleases : Releases
      { before with table := before.table.set slot.key (a.boundValue before b slot) } middle)
    (hcause : middle =
        { before with table := before.table.set slot.key (a.boundValue before b slot) } ∨
      ∃ l, before.table.get? slot.key = some (.inProcess l) ∧ before.find? l.key = none)
    (hrest : Confined slots middle after) : Confined (slot :: slots) before after := by
  have hfirst : middle.functions.Sublist before.functions := hreleases.shrinks.functions
  have hbound : ∀ l : LocalCapability,
      middle.table.get? slot.key = some (.inProcess l) →
        (before.find? l.key).isSome = true := by
    intro l hvalue
    have hset := hreleases.value_before hvalue
    rw [BindingSlot.get?_set, if_pos rfl] at hset
    exact find?_of_boundValue hset
  refine ⟨hrest.functions.trans hfirst, ?_, ?_, ?_, ?_⟩
  · intro capability
    rw [hrest.shared, hreleases.get?_shared, DependencyTable.get?_set]
    rfl
  · intro other hother
    obtain ⟨hne, hlater⟩ := List.ne_and_not_mem_of_not_mem_cons hother
    have hmiddle : middle.table.get? other.key =
        if before.orphans middle other.function then none
        else before.table.get? other.key := by
      have hown := hreleases.get?_own other.function other.capability
      rw [← BindingSlot.key, BindingSlot.get?_set, if_neg hne] at hown
      exact hown
    rw [hrest.others other hlater, hmiddle, ← orphans_or hfirst hrest.functions]
    cases before.orphans middle other.function <;> simp
  · intro other l hvalue
    rcases hrest.fresh other l hvalue with hmiddle | hwrapped
    · by_cases hsame : other = slot
      · rw [hsame] at hmiddle
        exact Or.inr (hbound l hmiddle)
      · have hset := hreleases.value_before hmiddle
        rw [BindingSlot.get?_set, if_neg hsame] at hset
        exact Or.inl hset
    · exact Or.inr (find?_isSome_of_sublist hfirst hwrapped)
  · intro hreleased
    rcases hcause with rfl | ⟨l, hold, hgone⟩
    · -- Nothing was released at this slot, so it is a later one that lost some code.
      obtain ⟨other, hother, l, hvalue, hgone, hlost⟩ := hrest.cause hreleased
      refine ⟨other, List.mem_cons_of_mem slot hother, l, ?_, hgone, hlost⟩
      by_cases hsame : other = slot
      · rw [hsame] at hvalue
        have hwrapped := hbound l hvalue
        rw [show before.find? l.key = none from hgone] at hwrapped
        cases hwrapped
      · rw [BindingSlot.get?_set, if_neg hsame] at hvalue
        exact hvalue
    · refine ⟨slot, List.mem_cons_self, l, hold, hgone, ?_⟩
      intro hvalue
      have hwrapped : (before.find? l.key).isSome = true := by
        rcases hrest.fresh slot l hvalue with hmiddle | hwrapped
        · exact hbound l hmiddle
        · exact find?_isSome_of_sublist hfirst hwrapped
      rw [hgone] at hwrapped
      cases hwrapped

theorem applySlots_confined (slots : List BindingSlot) {h : Heap} (hrest : h.AtRest)
    (count : BindingCount) :
    Confined slots h.injector (a.applySlots b slots h count).1.injector := by
  induction slots generalizing h count with
  | nil => exact Confined.refl [] h.injector
  | cons slot slots ih =>
      obtain ⟨hfirst, hreleases⟩ := a.applySlot_spec b slot hrest count
      exact Confined.cons hreleases (a.applySlot_cause b slot hrest count) (ih hfirst _)

/-- Bindings that are put into force stay within the slots of the declared tools. -/
theorem applyBindings_confined {h : Heap} (hrest : h.AtRest) :
    Confined (slotsOf h.injector.declaredTools) h.injector
      (a.applyBindings b h).injector := by
  rw [(a.applyBindings_alike b h).injector]
  exact a.applySlots_confined b _ hrest {}

end Agent

namespace AgentRun

open Injector

theorem step_confined {r : AgentRun} (hrest : r.heap.AtRest) {e : AgentEvent}
    (hdeed : ∀ d, e ≠ .deed d) :
    Agent.Confined (Agent.slotsOf r.heap.injector.declaredTools) r.heap.injector
      (r.step e).heap.injector := by
  rcases (step_turn r e).heap hdeed with ⟨b, -, halike⟩ | ⟨-, halike⟩
  · rw [halike.injector]
    exact r.agent.applyBindings_confined b hrest
  · rw [halike.injector]
    exact Agent.Confined.refl _ _

/-- Whatever the registry answers, and whatever else happens that is no deed of an
application, changes no shared value.  Of the values that belong to the functions of a name
it changes those alone that the newest function of this name declares; every other one
stays, unless the last function of its name goes.  A function goes only if a declared slot
held the code of a function that was not wrapped any more, and lost it.  This holds for
every heap that came about by uses of any sort. -/
theorem declared_slots_alone_change {r : AgentRun} (hheap : Heap.Uses .any {} r.heap)
    {e : AgentEvent} (hdeed : ∀ d, e ≠ .deed d) :
    let before := r.heap.injector
    let after := (r.step e).heap.injector
    (∀ capability : String,
      after.table.get? (.shared capability) = before.table.get? (.shared capability)) ∧
    (∀ slot : BindingSlot, ¬ before.Needs slot → after.table.get? slot.key =
      if before.orphans after slot.function then none else before.table.get? slot.key) ∧
    after.functions.Sublist before.functions ∧
    (after.functions ≠ before.functions →
      ∃ (slot : BindingSlot) (l : LocalCapability), before.Needs slot ∧
        before.table.get? slot.key = some (.inProcess l) ∧ before.find? l.key = none ∧
        after.table.get? slot.key ≠ some (.inProcess l)) := by
  intro before after
  have hrest : r.heap.AtRest :=
    hheap.keeps (fun huse hrest => huse.atRest hrest) Heap.atRest_empty
  have hconfined := step_confined hrest hdeed
  have hslots := mem_slotsOf_iff hheap.books hheap.titled
  refine ⟨hconfined.shared, ?_, hconfined.functions, ?_⟩
  · intro slot hslot
    exact hconfined.others slot fun hmem => hslot ((hslots slot).mp hmem)
  · intro hreleased
    obtain ⟨slot, hmem, l, hold, hgone, hlost⟩ := hconfined.cause hreleased
    exact ⟨slot, l, (hslots slot).mp hmem, hold, hgone, hlost⟩

/-- A function that needs a date; the application has stored a zone for it as well, and a
clock for all functions. -/
def zonedGreeting : List AgentEvent :=
  [.deed (.wrap ((Tool.named "greet").dependsOn (.on "date")) .blocking .text []),
    .deed (.registerFor "greet" "zone" (.text "utc")),
    .deed (.register "clock" (.text "noon")),
    .register sampleTime]

/-- An answer that binds more than was asked for: the date twice, a capability that `greet`
does not declare, and a function that nobody wrapped. -/
def lavishAnswer : AgentEvent :=
  .answered sampleTime (.ok
    { status := "success"
      functions := [
        { function := "greet"
          dependencies := [
            { capability := "date", status := .unresolved },
            { capability := "zone"
              status := .resolved
              provider := some ⟨"o-1", "http://o", "serve"⟩ },
            { capability := "date"
              status := .resolved
              provider := some ⟨"o-1", "http://o", "serve"⟩ }] },
        { function := "ghost"
          dependencies := [
            { capability := "clock"
              status := .resolved
              provider := some ⟨"o-1", "http://o", "serve"⟩ }] }] })

/-- Of all that the answer binds, the date alone is changed. -/
theorem zone_and_clock_stay :
    let r := run sampleIdentity {} zonedGreeting
    let after := (r.step lavishAnswer).heap.injector
    after.table.get? (.own "greet" "date") =
        some (.remote ⟨"date", "o-1", "http://o", "serve"⟩) ∧
      after.table.get? (.own "greet" "zone") = some (.text "utc") ∧
      after.table.get? (.own "ghost" "clock") = none ∧
      after.table.get? (.shared "clock") = some (.text "noon") := by
  intro r after
  have hheap : Heap.Uses .any {} r.heap := run_uses_any _ _ _
  have hslots := mem_slotsOf_iff hheap.books hheap.titled
  obtain ⟨hshared, hothers, -, -⟩ := declared_slots_alone_change hheap
    (show ∀ d, lavishAnswer ≠ .deed d from fun d heq => by cases heq)
  refine ⟨by decide +kernel, ?_, ?_, ?_⟩
  · refine (hothers ⟨"greet", "zone"⟩ ?_).trans (by decide +kernel)
    rw [← hslots]
    decide +kernel
  · refine (hothers ⟨"ghost", "clock"⟩ ?_).trans (by decide +kernel)
    rw [← hslots]
    decide +kernel
  · exact (hshared "clock").trans (by decide +kernel)

end AgentRun

end CapabilityMesh
