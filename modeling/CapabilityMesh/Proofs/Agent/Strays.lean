/-
Values of functions that are gone.  Bindings are put into force slot by slot, for the
functions that were wrapped when that began, and a value that goes on the way may release
one of them.  A slot of such a function that comes up later still gets its value, which
then belongs to no wrapped function.  There is no other way in which an agent leaves such
a value behind.
-/
import Mathlib.Data.List.Induction
import CapabilityMesh.Proofs.Agent.Effect
import CapabilityMesh.Proofs.Agent.Use
import CapabilityMesh.Proofs.Injection.Chronicle
import CapabilityMesh.Proofs.Injection.Views

namespace CapabilityMesh

namespace Injector

/-- Whether a slot has a value while no function of its name is wrapped. -/
def Strays (i : Injector) (slot : BindingSlot) : Prop :=
  (i.table.get? slot.key).isSome = true ∧ i.isWrapped slot.function = false

/-- Where no slot strays, every value of a function's own belongs to a wrapped
function. -/
theorem strays_nowhere_iff (i : Injector) :
    (∀ slot, ¬ i.Strays slot) ↔
      ∀ (function capability : String) (value : Value),
        (DependencyKey.own function capability, value) ∈ i.table →
          ∃ f ∈ i.functions, f.key.name = function := by
  constructor
  · intro hnone function capability value hentry
    rw [← isWrapped_eq_true]
    apply Decidable.byContradiction
    intro hgone
    refine hnone ⟨function, capability⟩ ⟨?_, by simpa using hgone⟩
    rw [Option.isSome_iff_ne_none]
    intro hempty
    exact DependencyTable.get?_eq_none_iff.mp hempty _ hentry rfl
  · rintro hall ⟨function, capability⟩ ⟨hvalue, hgone⟩
    obtain ⟨value, hvalue⟩ := Option.isSome_iff_exists.mp hvalue
    have hwrapped := hall function capability value
      (DependencyTable.mem_of_get?_eq_some hvalue)
    rw [isWrapped_eq_true.mpr hwrapped] at hgone
    cases hgone

/-- To release functions leaves no value behind, and takes none of those that were left
behind before. -/
theorem Releases.strays_iff {i j : Injector} (h : Releases i j) (slot : BindingSlot) :
    j.Strays slot ↔ i.Strays slot := by
  have hvalue : j.table.get? slot.key =
      if i.orphans j slot.function then none else i.table.get? slot.key :=
    h.get?_own slot.function slot.capability
  rw [Strays, Strays, hvalue, orphans]
  cases hbefore : i.isWrapped slot.function
  · have hafter : j.isWrapped slot.function = false := by
      rw [Bool.eq_false_iff]
      intro hwrapped
      rw [h.shrinks.isWrapped hwrapped] at hbefore
      cases hbefore
    simp [hafter]
  · cases hafter : j.isWrapped slot.function <;> simp

end Injector

namespace Agent

variable (a : Agent) (b : Bindings)

open Injector

/-- The slot that is given a value strays if no function of its name was wrapped before;
no other slot changes. -/
theorem applySlot_strays_iff (slot other : BindingSlot) {h : Heap} (hrest : h.AtRest)
    (count : BindingCount) :
    (a.applySlot b slot h count).1.injector.Strays other ↔
      if other = slot then
        (a.boundValue h.injector b slot).isSome = true ∧
          h.injector.isWrapped slot.function = false
      else h.injector.Strays other := by
  rw [(a.applySlot_spec b slot hrest count).2.strays_iff, Strays, BindingSlot.get?_set]
  by_cases hsame : other = slot
  · rw [if_pos hsame, if_pos hsame, hsame]
    rfl
  · rw [if_neg hsame, if_neg hsame]
    rfl

/-- The heap when the slots up to some place have got their values. -/
def boundUpTo (slots : List BindingSlot) (h : Heap) : Heap :=
  (a.applySlots b slots h {}).1

/-- Whether a slot gets a value after the last function of its name is gone: when it comes
up for the last time, none is wrapped any more, and the bindings have a value for it. -/
def BindsLate (slots : List BindingSlot) (h : Heap) (slot : BindingSlot) : Prop :=
  ∃ before after : List BindingSlot,
    slots = before ++ slot :: after ∧ slot ∉ after ∧
      (a.boundUpTo b before h).injector.isWrapped slot.function = false ∧
      (a.boundValue (a.boundUpTo b before h).injector b slot).isSome = true

theorem boundUpTo_cons (first : BindingSlot) (slots : List BindingSlot) (h : Heap)
    (count : BindingCount) :
    (a.boundUpTo b (first :: slots) h).injector =
      (a.boundUpTo b slots (a.applySlot b first h count).1).injector :=
  (a.applySlots_alike b slots (a.applySlot_alike b first (Heap.Alike.refl h) {} count) _
    {}).injector

/-- A value comes too late for a slot among the later ones, or for the first slot if that
comes up only once. -/
theorem bindsLate_cons (first slot : BindingSlot) (slots : List BindingSlot) (h : Heap)
    (count : BindingCount) :
    a.BindsLate b (first :: slots) h slot ↔
      a.BindsLate b slots (a.applySlot b first h count).1 slot ∨
        (slot = first ∧ slot ∉ slots ∧ h.injector.isWrapped slot.function = false ∧
          (a.boundValue h.injector b slot).isSome = true) := by
  constructor
  · rintro ⟨before, after, hslots, hlast, hgone, hvalue⟩
    cases before with
    | nil =>
        obtain ⟨rfl, rfl⟩ := List.cons.inj hslots
        exact Or.inr ⟨rfl, hlast, hgone, hvalue⟩
    | cons other before =>
        obtain ⟨rfl, rfl⟩ := List.cons.inj hslots
        rw [a.boundUpTo_cons b _ before h count] at hgone hvalue
        exact Or.inl ⟨before, after, rfl, hlast, hgone, hvalue⟩
  · rintro (⟨before, after, rfl, hlast, hgone, hvalue⟩ | ⟨rfl, hlast, hgone, hvalue⟩)
    · rw [← a.boundUpTo_cons b first before h count] at hgone hvalue
      exact ⟨first :: before, after, rfl, hlast, hgone, hvalue⟩
    · exact ⟨[], slots, rfl, hlast, hgone, hvalue⟩

/-- After bindings were put into force for slots, those stray for which a value came too
late, and those that were not meant and strayed before. -/
theorem applySlots_strays_iff (slots : List BindingSlot) (slot : BindingSlot) {h : Heap}
    (hrest : h.AtRest) (count : BindingCount) :
    (a.applySlots b slots h count).1.injector.Strays slot ↔
      a.BindsLate b slots h slot ∨ (slot ∉ slots ∧ h.injector.Strays slot) := by
  induction slots generalizing h count with
  | nil =>
      have hnone : ¬ a.BindsLate b [] h slot := by
        rintro ⟨before, after, hslots, -⟩
        simp at hslots
      simp [applySlots, hnone]
  | cons first slots ih =>
      have hnext := (a.applySlot_spec b first hrest count).1
      rw [applySlots, ih hnext, a.applySlot_strays_iff b first slot hrest count,
        a.bindsLate_cons b first slot slots h count, List.mem_cons]
      by_cases hsame : slot = first
      · subst hsame
        simp only [true_or, not_true_eq_false, false_and, or_false, if_true, true_and]
        tauto
      · simp only [hsame, if_false, false_or, false_and, or_false]

theorem not_strays_of_mem_slots {i : Injector} (hi : i.Titled) {slot : BindingSlot}
    (hslot : slot ∈ slotsOf i.declaredTools) : ¬ i.Strays slot := by
  rintro ⟨-, hgone⟩
  obtain ⟨t, ht, hslot⟩ := List.mem_flatMap.mp hslot
  obtain ⟨d, -, rfl⟩ := List.mem_map.mp hslot
  rw [hi.isWrapped ht] at hgone
  cases hgone

/-- Bindings that are put into force leave those values behind that came too late, and
take none away that were left behind before. -/
theorem applyBindings_strays_iff {h : Heap} (hrest : h.AtRest) (htitled : h.injector.Titled)
    (slot : BindingSlot) :
    (a.applyBindings b h).injector.Strays slot ↔
      a.BindsLate b (slotsOf h.injector.declaredTools) h slot ∨ h.injector.Strays slot := by
  rw [(a.applyBindings_alike b h).injector, a.applySlots_strays_iff b _ slot hrest]
  constructor
  · rintro (hlate | ⟨-, hstrays⟩)
    · exact Or.inl hlate
    · exact Or.inr hstrays
  · rintro (hlate | hstrays)
    · exact Or.inl hlate
    · exact Or.inr ⟨fun hslot => not_strays_of_mem_slots htitled hslot hstrays, hstrays⟩

end Agent

namespace Deed

open Injector

/-- A deed that keeps to shared values leaves no value behind; it may wrap a function to
which such a value then belongs. -/
theorem strays_iff {h : Heap} (hrest : h.AtRest) {d : Deed}
    (hshared : d.keepsToShared = true) (slot : BindingSlot) :
    (d.perform h).injector.Strays slot ↔
      h.injector.Strays slot ∧
        (d.perform h).injector.isWrapped slot.function = false := by
  by_cases hwrap : ∃ tool mode takes owned, d = .wrap tool mode takes owned
  · obtain ⟨tool, mode, takes, owned, rfl⟩ := hwrap
    have htable := (perform_wrap h tool mode takes owned).2
    rw [Strays, Strays, htable]
    constructor
    · rintro ⟨hvalue, hgone⟩
      refine ⟨⟨hvalue, ?_⟩, hgone⟩
      rw [Bool.eq_false_iff]
      intro hbefore
      rw [isWrapped_wrap tool mode takes owned hbefore] at hgone
      cases hgone
    · rintro ⟨⟨hvalue, -⟩, hgone⟩
      exact ⟨hvalue, hgone⟩
  · obtain ⟨table, htable, hreleases⟩ := perform_releases hrest (d := d)
      fun tool mode takes owned heq => hwrap ⟨tool, mode, takes, owned, heq⟩
    have hkept : table.get? slot.key = h.injector.table.get? slot.key :=
      (htable slot.key).trans (writes_shared hshared slot.function slot.capability _)
    have hsame : ({ h.injector with table := table } : Injector).Strays slot ↔
        h.injector.Strays slot := by
      rw [Strays, Strays, hkept]
      rfl
    rw [← hsame, ← hreleases.strays_iff]
    constructor
    · rintro hstrays
      exact ⟨hstrays, hstrays.2⟩
    · rintro ⟨hstrays, -⟩
      exact hstrays

end Deed

namespace AgentRun

open Injector

/-- Whether bindings were put into force between two states of a run that came too late
for a slot. -/
def BoundLate (r next : AgentRun) (slot : BindingSlot) : Prop :=
  ∃ b, Rebound r next b ∧
    r.agent.BindsLate b (Agent.slotsOf r.heap.injector.declaredTools) r.heap slot

/-- A slot strays after an event if it did before and no function of its name was wrapped,
or if bindings came too late for it. -/
theorem step_strays_iff {r : AgentRun} (hrest : r.heap.AtRest)
    (htitled : r.heap.injector.Titled) {e : AgentEvent}
    (hshared : ∀ d, e = .deed d → d.keepsToShared = true) (slot : BindingSlot) :
    (r.step e).heap.injector.Strays slot ↔
      (r.heap.injector.Strays slot ∧
        (r.step e).heap.injector.isWrapped slot.function = false) ∨
      BoundLate r (r.step e) slot := by
  by_cases hdeed : ∃ d, e = .deed d
  · obtain ⟨d, rfl⟩ := hdeed
    have hlate : ¬ BoundLate r (r.step (.deed d)) slot := by
      rintro ⟨b, hbound, -⟩
      have hsame : (r.step (.deed d)).history = r.history := rfl
      exact not_rebound_of_same hsame b hbound
    rw [or_iff_left hlate]
    exact d.strays_iff hrest (hshared d rfl) slot
  · have hturn := (step_turn r e).heap fun d heq => hdeed ⟨d, heq⟩
    rcases hturn with ⟨b, hbound, halike⟩ | ⟨hquiet, halike⟩
    · have hlate : BoundLate r (r.step e) slot ↔
          r.agent.BindsLate b (Agent.slotsOf r.heap.injector.declaredTools) r.heap slot := by
        constructor
        · rintro ⟨other, hother, hlate⟩
          rw [hbound.unique hother]
          exact hlate
        · intro hlate
          exact ⟨b, hbound, hlate⟩
      rw [hlate, halike.injector, Agent.applyBindings_strays_iff r.agent b hrest htitled]
      constructor
      · rintro (hnew | hold)
        · exact Or.inr hnew
        · have hafter : (r.agent.applyBindings b r.heap).injector.Strays slot :=
            (Agent.applyBindings_strays_iff r.agent b hrest htitled slot).mpr (Or.inr hold)
          exact Or.inl ⟨hold, hafter.2⟩
      · rintro (⟨hold, -⟩ | hnew)
        · exact Or.inr hold
        · exact Or.inl hnew
    · have hlate : ¬ BoundLate r (r.step e) slot := by
        rintro ⟨b, hbound, -⟩
        exact hquiet b hbound
      rw [or_iff_left hlate, halike.injector]
      exact ⟨fun hstrays => ⟨hstrays, hstrays.2⟩, And.left⟩

/-- In a run in which the application writes no value of a function's own, a slot strays
exactly if bindings came too late for it at some time and no function of its name was
wrapped since. -/
theorem strays_iff_bound_late (identity : AgentIdentity) (policy : HeartbeatPolicy)
    (events : List AgentEvent)
    (hshared : ∀ d, AgentEvent.deed d ∈ events → d.keepsToShared = true)
    (slot : BindingSlot) :
    (run identity policy events).heap.injector.Strays slot ↔
      ∃ before e after, events = before ++ e :: after ∧
        BoundLate (run identity policy before) (run identity policy (before ++ [e])) slot ∧
        ∀ more, more <+: after →
          (run identity policy (before ++ e :: more)).heap.injector.isWrapped
            slot.function = false := by
  induction events using List.reverseRecOn with
  | nil =>
      constructor
      · rintro ⟨hvalue, -⟩
        cases hvalue
      · rintro ⟨before, e, after, hevents, -⟩
        simp at hevents
  | append_singleton events last ih =>
      have hearlier : ∀ d, AgentEvent.deed d ∈ events → d.keepsToShared = true :=
        fun d hd => hshared d (List.mem_append_left [last] hd)
      have hlast : ∀ d, last = .deed d → d.keepsToShared = true := by
        rintro d rfl
        exact hshared d (List.mem_append_right events List.mem_cons_self)
      have huses := run_uses_any identity policy events
      have hrest := huses.keeps (fun huse => huse.atRest) Heap.atRest_empty
      have hstep := step_strays_iff hrest huses.titled hlast slot
      rw [← run_append] at hstep
      constructor
      · intro hstrays
        rcases hstep.mp hstrays with ⟨hbefore, -⟩ | hlate
        · obtain ⟨before, e, after, rfl, hlate, hgone⟩ := (ih hearlier).mp hbefore
          refine ⟨before, e, after ++ [last], by simp, hlate, ?_⟩
          intro more hmore
          rcases List.prefix_concat_iff.mp hmore with rfl | hmore
          · simpa using hstrays.2
          · exact hgone more hmore
        · refine ⟨events, last, [], rfl, hlate, ?_⟩
          intro more hmore
          rw [List.prefix_nil.mp hmore]
          exact hstrays.2
      · rintro ⟨before, e, after, hevents, hlate, hgone⟩
        rw [hstep]
        rcases List.eq_nil_or_concat after with rfl | ⟨after, final, rfl⟩
        · -- The bindings that came too late are those of the last event.
          obtain ⟨rfl, hsame⟩ := List.append_inj' hevents rfl
          obtain rfl := (List.cons.inj hsame).1
          exact Or.inr hlate
        · rw [List.concat_eq_append, ← List.cons_append, ← List.append_assoc] at hevents
          obtain ⟨rfl, hsame⟩ := List.append_inj' hevents rfl
          obtain rfl := (List.cons.inj hsame).1
          refine Or.inl ⟨(ih hearlier).mpr ⟨before, e, after, rfl, hlate, ?_⟩, ?_⟩
          · intro more hmore
            apply hgone more
            rw [List.concat_eq_append]
            exact hmore.trans (List.prefix_append after [last])
          · have hend := hgone (after.concat last) List.prefix_rfl
            simpa using hend

/-- In every run in which the application writes no value of a function's own, all such
values belong to wrapped functions exactly if bindings never came too late for a slot of a
function of whose name none was wrapped since. -/
theorem own_values_belong_iff (identity : AgentIdentity) (policy : HeartbeatPolicy)
    (events : List AgentEvent)
    (hshared : ∀ d, AgentEvent.deed d ∈ events → d.keepsToShared = true) :
    (∀ (function capability : String) (value : Value),
        (DependencyKey.own function capability, value) ∈
            (run identity policy events).heap.injector.table →
          ∃ f ∈ (run identity policy events).heap.injector.functions,
            f.key.name = function) ↔
      ∀ (slot : BindingSlot) (before : List AgentEvent) (e : AgentEvent)
        (after : List AgentEvent), events = before ++ e :: after →
          BoundLate (run identity policy before) (run identity policy (before ++ [e]))
            slot →
            ∃ more, more <+: after ∧
              (run identity policy (before ++ e :: more)).heap.injector.isWrapped
                slot.function = true := by
  rw [← strays_nowhere_iff]
  constructor
  · intro hnone slot before e after hevents hlate
    by_contra hgone
    apply hnone slot
    rw [strays_iff_bound_late identity policy events hshared slot]
    refine ⟨before, e, after, hevents, hlate, ?_⟩
    intro more hmore
    rw [Bool.eq_false_iff]
    intro hwrapped
    exact hgone ⟨more, hmore, hwrapped⟩
  · intro hwrapped slot hstrays
    obtain ⟨before, e, after, hevents, hlate, hgone⟩ :=
      (strays_iff_bound_late identity policy events hshared slot).mp hstrays
    obtain ⟨more, hmore, hname⟩ := hwrapped slot before e after hevents hlate
    rw [hgone more hmore] at hname
    cases hname

/-- An answer that binds one dependency of `a` and one of `z`, the latter to another
agent. -/
def answerBinding (provider : ProviderInfo) : Except MeshError RegistrationResponse :=
  .ok
    { status := "success"
      functions := [
        { function := "a"
          dependencies := [
            { capability := "c", status := .resolved, provider := some provider }] },
        { function := "z"
          dependencies := [
            { capability := "x"
              status := .resolved
              provider := some ⟨"o-1", "http://o", "serve"⟩ }] }] }

/-- The agent binds `a` to its own `k`, whose code has a handle to `z`.  The application
lets go of `k` and `z`, so that the value of `a` is all that keeps `z` wrapped.  Then the
registry binds `a` to another agent. -/
def losingHold : List AgentEvent :=
  [.deed (.wrap ((Tool.named "z").dependsOn (.on "x")) .blocking .text []),
    .deed (.wrap (.named "k") .blocking .text [⟨"z", 1⟩]),
    .deed (.wrap ((Tool.named "a").dependsOn (.on "c")) .blocking .text []),
    .register sampleTime, .answered sampleTime (answerBinding ⟨"m-1", "http://m", "k"⟩),
    .deed (.drop ⟨"k", 2⟩), .deed (.drop ⟨"z", 1⟩),
    .tick, .probed sampleTime (.status 202),
    .answered sampleTime (answerBinding ⟨"o-1", "http://o", "serve"⟩)]

theorem losingHold_shared : ∀ d, AgentEvent.deed d ∈ losingHold → d.keepsToShared = true := by
  intro d hd
  simp only [losingHold, List.mem_cons, AgentEvent.deed.injEq, reduceCtorEq,
    List.not_mem_nil, false_or, or_false] at hd
  rcases hd with rfl | rfl | rfl | rfl | rfl <;> rfl

theorem losingHold_end :
    (DependencyKey.own "z" "x", Value.remote ⟨"x", "o-1", "http://o", "serve"⟩) ∈
        (run sampleIdentity {} losingHold).heap.injector.table ∧
      ¬ ∃ f ∈ (run sampleIdentity {} losingHold).heap.injector.functions,
        f.key.name = "z" := by decide +kernel

/-- The registry's binding of `z` is put into force after `z` was released, and stays. -/
theorem binding_outlives_function :
    (∀ d, AgentEvent.deed d ∈ losingHold → d.keepsToShared = true) ∧
      (DependencyKey.own "z" "x", Value.remote ⟨"x", "o-1", "http://o", "serve"⟩) ∈
        (run sampleIdentity {} losingHold).heap.injector.table ∧
      ¬ ∃ f ∈ (run sampleIdentity {} losingHold).heap.injector.functions, f.key.name = "z" :=
  ⟨losingHold_shared, losingHold_end⟩

/-- Somewhere in that run, bindings come too late for a slot. -/
theorem bound_late_somewhere :
    (∀ d, AgentEvent.deed d ∈ losingHold → d.keepsToShared = true) ∧
      ∃ slot before e after, losingHold = before ++ e :: after ∧
        BoundLate (run sampleIdentity {} before) (run sampleIdentity {} (before ++ [e]))
          slot := by
  refine ⟨losingHold_shared, ?_⟩
  obtain ⟨hentry, hgone⟩ := losingHold_end
  by_contra hnever
  apply hgone
  apply (own_values_belong_iff sampleIdentity {} losingHold losingHold_shared).mpr ?_ _ _ _
    hentry
  intro slot before e after hevents hlate
  exact absurd ⟨slot, before, e, after, hevents, hlate⟩ hnever

end AgentRun

end CapabilityMesh
