/-
How a run uses the heap.  Bindings that are put into force store values for the
functions that need them, and everything else that touches the heap is a deed of the
application.  So what every use that a usage allows keeps is kept by a whole run, if the
application and the registry's answers follow the usage.
-/
import CapabilityMesh.Proofs.Agent.Run
import CapabilityMesh.Proofs.Agent.Bindings
import CapabilityMesh.Proofs.Injection.Use

namespace CapabilityMesh

/-- Whether an agent may put bindings into force: the values that they prescribe may be
stored, whichever functions of the agent they turn out to mean. -/
def Usage.Admits (u : Usage) (agentId : String) (b : Bindings) : Prop :=
  ∀ (slot : BindingSlot) (r : RemoteCapability), b.get? slot = some (some r) →
    if r.agentId = agentId then
      ∀ l : LocalCapability, l.key.name = r.function → u.stores slot.key (.inProcess l)
    else u.stores slot.key (.remote r)

theorem Heap.Alike.uses {u : Usage} {h later : Heap} (hlater : later.Alike h) :
    Heap.Uses u h later := by
  have hsame : later = { h with logged := later.logged } :=
    congrArg (fun noted : Heap => { noted with logged := later.logged }) hlater
  rw [hsame]
  exact (Heap.Use.logged later.logged).uses

namespace Agent

variable {u : Usage} {b : Bindings}

/-- A value that admitted bindings prescribe can be come by, and it may be stored. -/
theorem boundValue_admitted {a : Agent} (hb : u.Admits a.identity.agentId b) {h : Heap}
    {slot : BindingSlot} {value : Value}
    (hvalue : a.boundValue h.injector b slot = some value) :
    u.stores slot.key value ∧ h.Provides value := by
  simp only [boundValue] at hvalue
  split at hvalue
  · rename_i r hbound
    have hstores := hb slot r hbound
    split at hvalue
    · rename_i hself
      rw [if_pos hself] at hstores
      obtain ⟨l, hl, rfl⟩ := Option.map_eq_some_iff.mp hvalue
      exact ⟨hstores l (Injector.localCapability?_some hl).2.1,
        Or.inr ⟨r.capability, r.function, l, hl, rfl⟩⟩
    · rename_i hother
      rw [if_neg hother] at hstores
      cases hvalue
      exact ⟨hstores, Or.inl rfl⟩
  · cases hvalue

theorem applySlot_uses {a : Agent} (hb : u.Admits a.identity.agentId b)
    (slot : BindingSlot) (h : Heap) (count : BindingCount) :
    Heap.Uses u h (a.applySlot b slot h count).1 := by
  obtain ⟨noted, hnoted, heq⟩ := a.applySlot_eq b slot h count
  rw [heq, ← hnoted.injector]
  refine hnoted.uses.trans ?_
  cases hvalue : a.boundValue noted.injector b slot with
  | some value =>
      obtain ⟨hallowed, hprovides⟩ := boundValue_admitted hb hvalue
      exact Heap.put_uses hallowed hprovides
  | none => exact Heap.clear_uses noted slot.key

theorem applySlots_uses {a : Agent} (hb : u.Admits a.identity.agentId b)
    (slots : List BindingSlot) (h : Heap) (count : BindingCount) :
    Heap.Uses u h (a.applySlots b slots h count).1 := by
  induction slots generalizing h count with
  | nil => exact .refl
  | cons slot slots ih => exact (applySlot_uses hb slot h count).trans (ih _ _)

/-- Bindings that a usage admits are put into force by uses that it allows. -/
theorem Rebinds.uses {a : Agent} (hb : u.Admits a.identity.agentId b) {applies : Bool}
    {before after : Heap} (hafter : a.Rebinds b applies before after) :
    Heap.Uses u before after := by
  obtain ⟨first, hfirst, happlied⟩ := hafter
  refine hfirst.uses.trans ?_
  split at happlied
  · exact (applySlots_uses hb _ first {}).trans
      (happlied.trans (a.applyBindings_alike b first)).uses
  · exact happlied.uses

end Agent

/-- Whether the application's deeds and the registry's answers follow a usage. -/
def AgentEvent.Follows (u : Usage) (agentId : String) : AgentEvent → Prop
  | .deed d => d.Follows u
  | .answered _ answer => ∀ b, Agent.bindingsOf answer = .ok b → u.Admits agentId b
  | _ => True

namespace AgentRun

/-- Whether the bindings that the agent remembers are admitted. -/
def Remembers (u : Usage) (r : AgentRun) : Prop :=
  ∀ b, r.agent.memory.applied = some b → u.Admits r.agent.identity.agentId b

variable {u : Usage}

/-- A turn uses the heap as its event and the agent's memory allow, and it leaves
nothing else in the memory. -/
theorem Turn.uses {r next : AgentRun} {e : AgentEvent} (hturn : Turn r e next)
    (he : e.Follows u r.agent.identity.agentId) (hr : r.Remembers u) :
    Heap.Uses u r.heap next.heap ∧ next.Remembers u := by
  cases hturn with
  | still => exact ⟨.refl, hr⟩
  | deed d => exact ⟨d.perform_uses r.heap he, hr⟩
  | built hlater => exact ⟨hlater.uses, hr⟩
  | probing => exact ⟨.refl, hr⟩
  | declared _ _ _ hlater => exact ⟨hlater.uses, hr⟩
  | inFlight hlater => exact ⟨hlater.uses, hr⟩
  | disabled _ _ hlater => exact ⟨hlater.uses, hr⟩
  | unchanged _ happlied _ hlater => exact ⟨hlater.uses (hr _ happlied), hr⟩
  | @reconciled now answer call request b force later _ _ hb hlater =>
      refine ⟨hlater.uses (he b hb), ?_⟩
      intro applied happlied
      cases happlied
      exact he b hb
  | degraded _ hlater =>
      refine ⟨hlater.uses, ?_⟩
      intro b hb
      simp only [Agent.failed] at hb
      split at hb
      · cases hb
      · exact hr b hb
  | violated _ hagent hlater =>
      refine ⟨hlater.uses, ?_⟩
      rcases hagent with rfl | rfl
      · exact hr
      · intro b hb
        rw [Agent.settledAlone_memory] at hb
        rw [Agent.settledAlone_identity]
        exact hr b hb
  | abandoned => exact ⟨.refl, hr⟩
  | left hlater => exact ⟨hlater.uses, hr⟩

/-- A run whose events follow a usage uses the heap as that allows. -/
theorem run_uses {identity : AgentIdentity} (policy : HeartbeatPolicy)
    {events : List AgentEvent} (hevents : ∀ e ∈ events, e.Follows u identity.agentId) :
    Heap.Uses u {} (run identity policy events).heap := by
  refine (run_induction
    (P := fun r => r.agent.identity = identity ∧ Heap.Uses u {} r.heap ∧ r.Remembers u)
    ⟨rfl, .refl, fun b hb => by cases hb⟩ ?_).2.1
  rintro r e next he hturn ⟨hidentity, huses, hr⟩
  obtain ⟨hmore, hnext⟩ := hturn.uses (by rw [hidentity]; exact hevents e he) hr
  exact ⟨hturn.identity_eq.trans hidentity, huses.trans hmore, hnext⟩

end AgentRun

/-- Where everything may be stored, all bindings may be put into force. -/
theorem Usage.admits_of_stores {u : Usage} (hstores : ∀ key value, u.stores key value)
    (agentId : String) (b : Bindings) : u.Admits agentId b := by
  intro slot r _
  split
  · exact fun _ _ => hstores _ _
  · exact hstores _ _

theorem AgentEvent.follows_any (e : AgentEvent) (agentId : String) :
    e.Follows .any agentId := by
  cases e with
  | deed d => exact d.follows_any
  | answered now answer =>
      exact fun b _ => Usage.admits_of_stores (fun _ _ => trivial) agentId b
  | _ => exact trivial

namespace AgentRun

theorem remembers_of_stores {u : Usage} (hstores : ∀ key value, u.stores key value)
    (r : AgentRun) : r.Remembers u :=
  fun b _ => Usage.admits_of_stores hstores _ b

theorem run_uses_any (identity : AgentIdentity) (policy : HeartbeatPolicy)
    (events : List AgentEvent) :
    Heap.Uses .any {} (run identity policy events).heap :=
  run_uses policy fun e _ => e.follows_any identity.agentId

end AgentRun

end CapabilityMesh
