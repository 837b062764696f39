/-
The books of the injector in whole runs.  Each function gets a key of its own when it is
wrapped, and it stays in the books as long as a handle to it is held.  The lists of
dependent functions follow the books, and the generation counts what is wrapped and what
is released.
-/
import CapabilityMesh.Proofs.Agent.Use
import CapabilityMesh.Proofs.Injection.Books
import CapabilityMesh.Proofs.Injection.Upkeep

namespace CapabilityMesh

/-- The functions that an event wraps, as they come into memory. -/
def AgentEvent.wrapped (r : AgentRun) : AgentEvent → List FunctionCode
  | .deed (.wrap tool mode takes owned) =>
      if owned.all r.heap.hasHandle then
        [⟨r.heap.injector.nextKey tool.function, tool, mode, takes, owned⟩]
      else []
  | _ => []

/-- The keys that an event gives to new functions. -/
def AgentEvent.given (r : AgentRun) : AgentEvent → List FunctionKey
  | .deed (.wrap tool mode takes owned) =>
      if owned.all r.heap.hasHandle then [(r.heap.wrap tool mode takes owned).2] else []
  | _ => []

namespace AgentRun

/-- The keys that events give to new functions, in their order. -/
def givenFrom (r : AgentRun) : List AgentEvent → List FunctionKey
  | [] => []
  | e :: es => e.given r ++ givenFrom (r.step e) es

/-- All keys that were given to functions in a run, in their order. -/
def given (identity : AgentIdentity) (policy : HeartbeatPolicy)
    (events : List AgentEvent) : List FunctionKey :=
  givenFrom (start identity policy) events

theorem given_eq (r : AgentRun) (e : AgentEvent) :
    e.given r = (e.wrapped r).map FunctionCode.key := by
  cases e with
  | deed d =>
      cases d with
      | wrap tool mode takes owned =>
          simp only [AgentEvent.given, AgentEvent.wrapped]
          split <;> rfl
      | _ => rfl
  | _ => rfl

theorem step_wrapped (r : AgentRun) (e : AgentEvent) :
    (∃ tool mode takes owned,
        (r.step e).heap = (r.heap.wrap tool mode takes owned).1 ∧
        e.wrapped r = [⟨r.heap.injector.nextKey tool.function, tool, mode, takes, owned⟩]) ∨
      (Heap.Uses .wrapless r.heap (r.step e).heap ∧ e.wrapped r = []) := by
  have hturn := step_turn r e
  have hr : r.Remembers .wrapless := r.remembers_of_stores fun _ _ => trivial
  have hother : e.Follows .wrapless r.agent.identity.agentId →
      Heap.Uses .wrapless r.heap (r.step e).heap := fun he => (hturn.uses he hr).1
  cases e with
  | deed d =>
      cases d with
      | wrap tool mode takes owned =>
          by_cases howned : owned.all r.heap.hasHandle = true
          · refine Or.inl ⟨tool, mode, takes, owned, ?_, ?_⟩
            · simp only [step, Deed.perform, if_pos howned]
            · simp only [AgentEvent.wrapped, if_pos howned]
          · refine Or.inr ⟨?_, ?_⟩
            · simp only [step, Deed.perform, if_neg howned]
              exact .refl
            · simp only [AgentEvent.wrapped, if_neg howned]
      | _ => exact Or.inr ⟨hother trivial, rfl⟩
  | answered now answer =>
      exact Or.inr ⟨hother fun b _ =>
        Usage.admits_of_stores (fun _ _ => trivial) _ b, rfl⟩
  | _ => exact Or.inr ⟨hother trivial, rfl⟩

/-- An event either gives the next key to one function, or gives none. -/
theorem step_given (r : AgentRun) (e : AgentEvent) :
    (∃ tool mode, (r.step e).heap.injector = r.heap.injector.track tool mode ∧
        e.given r = [r.heap.injector.nextKey tool.function]) ∨
      (Heap.Uses .wrapless r.heap (r.step e).heap ∧ e.given r = []) := by
  rw [given_eq]
  rcases step_wrapped r e with ⟨tool, mode, takes, owned, hheap, hwrapped⟩ | ⟨huses, hwrapped⟩
  · rw [hheap, hwrapped]
    exact Or.inl ⟨tool, mode, rfl, rfl⟩
  · rw [hwrapped]
    exact Or.inr ⟨huses, rfl⟩

/-- What is known of the keys that were given so far: their numbers are the first ones,
and every function in the books has one of them. -/
structure Ledger (r : AgentRun) (keys : List FunctionKey) : Prop where
  rest : r.heap.AtRest
  ids : (keys.map FunctionKey.id).Nodup
  below : ∀ key ∈ keys, key.id < r.heap.injector.nextId
  counted : keys.length + 1 = r.heap.injector.nextId
  listed : ∀ f ∈ r.heap.injector.functions, f.key ∈ keys

theorem start_ledger (identity : AgentIdentity) (policy : HeartbeatPolicy) :
    (start identity policy).Ledger [] :=
  ⟨Heap.atRest_empty, List.nodup_nil, by simp, rfl, fun _ hf => by cases hf⟩

theorem step_atRest {r : AgentRun} (hrest : r.heap.AtRest) (e : AgentEvent) :
    (r.step e).heap.AtRest :=
  ((step_turn r e).uses (e.follows_any _)
    (r.remembers_of_stores fun _ _ => trivial)).1.keeps Heap.Use.atRest hrest

theorem Ledger.step {r : AgentRun} {keys : List FunctionKey} (hr : r.Ledger keys)
    (e : AgentEvent) : (r.step e).Ledger (keys ++ e.given r) := by
  rcases step_given r e with ⟨tool, mode, hinjector, hgiven⟩ | ⟨huses, hgiven⟩
  · have hnext : (r.step e).heap.injector.nextId = r.heap.injector.nextId + 1 := by
      rw [hinjector]
      rfl
    rw [hgiven]
    refine ⟨step_atRest hr.rest e, ?_, ?_, ?_, ?_⟩
    · rw [List.map_append]
      refine nodup_append_greatest id hr.ids ?_
      intro number hnumber
      obtain ⟨key, hkey, rfl⟩ := List.mem_map.mp hnumber
      exact hr.below key hkey
    · intro key hkey
      rw [hnext]
      rcases List.mem_append.mp hkey with hkey | hkey
      · exact Nat.lt_succ_of_lt (hr.below key hkey)
      · rw [List.mem_singleton.mp hkey]
        exact Nat.lt_succ_self _
    · rw [hnext, List.length_append, List.length_singleton, hr.counted]
    · intro f hf
      rw [hinjector] at hf
      rcases List.mem_append.mp hf with hf | hf
      · exact List.mem_append_left _ (hr.listed f hf)
      · rw [List.mem_singleton.mp hf]
        exact List.mem_append_right _ List.mem_cons_self
  · obtain ⟨hnext, hfunctions⟩ := huses.wrapless hr.rest
    rw [hgiven, List.append_nil]
    refine ⟨step_atRest hr.rest e, hr.ids, ?_, ?_, ?_⟩
    · rw [hnext]
      exact hr.below
    · rw [hnext]
      exact hr.counted
    · intro f hf
      exact hr.listed f (hfunctions.subset hf)

theorem Ledger.steps {r : AgentRun} {keys : List FunctionKey} (hr : r.Ledger keys)
    (events : List AgentEvent) :
    (events.foldl AgentRun.step r).Ledger (keys ++ givenFrom r events) := by
  induction events generalizing r keys with
  | nil =>
      rw [givenFrom, List.append_nil]
      exact hr
  | cons first rest ih =>
      rw [List.foldl_cons, givenFrom, ← List.append_assoc]
      exact ih (hr.step first)

theorem run_ledger (identity : AgentIdentity) (policy : HeartbeatPolicy)
    (events : List AgentEvent) :
    (run identity policy events).Ledger (given identity policy events) :=
  (start_ledger identity policy).steps events

/-- The given keys that are not in the books any more are those of the functions that
were released. -/
theorem Ledger.length_released {r : AgentRun} {keys : List FunctionKey}
    (hr : r.Ledger keys) (hbooks : r.heap.injector.Books) :
    (keys.filter fun key => (r.heap.injector.find? key).isNone).length +
      r.heap.injector.functions.length = keys.length := by
  have htracked : (keys.filter fun key => (r.heap.injector.find? key).isSome).Perm
      (r.heap.injector.functions.map TrackedFunction.key) := by
    have hkeys : keys.Nodup := hr.ids.of_map FunctionKey.id
    rw [List.perm_ext_iff_of_nodup (hkeys.filter _) hbooks.distinct]
    intro key
    rw [List.mem_filter, Injector.find?_isSome_iff, List.mem_map]
    constructor
    · exact And.right
    · rintro ⟨f, hf, rfl⟩
      exact ⟨hr.listed f hf, f, hf, rfl⟩
  have hsplit := keys.length_eq_length_filter_add
    fun key => (r.heap.injector.find? key).isSome
  have hnone : (keys.filter fun key => !(r.heap.injector.find? key).isSome) =
      keys.filter fun key => (r.heap.injector.find? key).isNone := by
    apply List.filter_congr
    intro key _
    cases r.heap.injector.find? key <;> rfl
  rw [hnone, htracked.length_eq, List.length_map] at hsplit
  omega

/-- At every moment of a run a function is in the books exactly if a handle to it is
held.  It is listed for a capability exactly if it is in the books and declares it; no
list is empty.  All numbers that were given are different and below the next one, and
the generation counts each function that was wrapped and each that was released. -/
theorem books_follow_handles (identity : AgentIdentity) (policy : HeartbeatPolicy)
    (events : List AgentEvent) :
    let h := (run identity policy events).heap
    let i := h.injector
    let keys := given identity policy events
    (∀ key, (i.find? key).isSome = true ↔
        key ∈ h.handles ∨ ∃ code ∈ h.codes, key ∈ code.owned) ∧
      (∀ capability key, key ∈ i.dependentsOf capability ↔
        ∃ f ∈ i.functions, f.key = key ∧
          ∃ d ∈ f.tool.dependencies, d.capability = capability) ∧
      (i.dependents.map Prod.fst).Nodup ∧
      (∀ entry ∈ i.dependents, entry.2 ≠ [] ∧ entry.2.Nodup) ∧
      (keys.map FunctionKey.id).Nodup ∧
      (∀ key ∈ keys, key.id < i.nextId) ∧
      i.generation =
        keys.length + (keys.filter fun key => (i.find? key).isNone).length := by
  intro h i keys
  have huses := run_uses_any identity policy events
  have hsound : h.Sound := huses.sound
  have hbooks : i.Books := huses.books
  have hledger := run_ledger identity policy events
  refine ⟨?_, ?_, hbooks.orderly.names, ?_, hledger.ids, hledger.below, ?_⟩
  · intro key
    rw [hsound.wrapped, Heap.hasHandle_iff, hledger.rest.loose]
    simp
  · intro capability key
    rw [Injector.mem_dependentsOf hbooks.orderly.names, hbooks.inverse]
    rfl
  · intro entry hentry
    exact ⟨hbooks.orderly.filled entry hentry, hbooks.orderly.distinct entry hentry⟩
  · have hreleased : (keys.filter fun key => (i.find? key).isNone).length +
        i.functions.length = keys.length := hledger.length_released hbooks
    have hgiven : keys.length + 1 = i.nextId := hledger.counted
    have hcounted := hbooks.counted
    omega

end AgentRun

end CapabilityMesh
