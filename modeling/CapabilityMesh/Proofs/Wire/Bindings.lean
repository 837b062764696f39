/-
The bindings that an answer prescribes.  Of what the answer says about a slot the last
counts, whether it is repeated for one function or under several of one name.  The first
dependency that is said to be resolved, but not by what, spoils them all.
-/
import CapabilityMesh.Proofs.Registry.Slots
import CapabilityMesh.Wire.Response

namespace CapabilityMesh

/-- What an answer says about a dependency of a function. -/
structure Finding where
  function : String
  dependency : ResolvedDependency
deriving Repr, DecidableEq

namespace Finding

def slot (f : Finding) : BindingSlot := ⟨f.function, f.dependency.capability⟩

/-- Whether the dependency is said to be resolved, but not by what. -/
def lacksProvider (f : Finding) : Bool :=
  f.dependency.status == .resolved && f.dependency.provider.isNone

/-- What the slot gets: the provider, if the dependency is said to be resolved. -/
def value (f : Finding) : Option RemoteCapability :=
  match f.dependency.status with
  | .unresolved => none
  | .resolved => f.dependency.provider.map fun p =>
      ⟨f.dependency.capability, p.agentId, p.endpoint, p.function⟩

/-- The error that names a dependency without its provider. -/
def breach (f : Finding) : MeshError :=
  .contractViolation
    s!"'{f.dependency.capability}' of '{f.function}' marked resolved without mcp_tool_info"

theorem lacksProvider_iff {f : Finding} :
    f.lacksProvider = true ↔
      f.dependency.status = .resolved ∧ f.dependency.provider = none := by
  rw [lacksProvider, Bool.and_eq_true, beq_iff_eq, Option.isNone_iff_eq_none]

theorem find?_lacksProvider_iff {fs : List Finding} {first : Finding} :
    fs.find? lacksProvider = some first ↔ ∃ before after, fs = before ++ first :: after ∧
      (∀ earlier ∈ before, earlier.lacksProvider = false) ∧ first.lacksProvider = true := by
  rw [List.find?_eq_some_iff_append]
  simp only [Bool.not_eq_true']
  constructor
  · rintro ⟨hlacks, before, after, hsplit, hbefore⟩
    exact ⟨before, after, hsplit, hbefore, hlacks⟩
  · rintro ⟨before, after, hsplit, hbefore, hlacks⟩
    exact ⟨hlacks, before, after, hsplit, hbefore⟩

theorem bindingOf_eq (f : Finding) :
    RegistrationResponse.bindingOf f.function f.dependency =
      if f.lacksProvider then .error f.breach else .ok f.value := by
  obtain ⟨function, capability, status, provider⟩ := f
  cases status <;> cases provider <;> rfl

end Finding

namespace Bindings

variable {b : Bindings}

/-- Bind the slots of findings, one after the other. -/
def insertAll (b : Bindings) (fs : List Finding) : Bindings :=
  fs.foldl (fun b f => b.insert f.slot f.value) b

/-- A slot has what the last finding about it says. -/
theorem get?_insertAll (b : Bindings) (fs : List Finding) (slot : BindingSlot) :
    (b.insertAll fs).get? slot =
      ((fs.reverse.find? fun f => f.slot = slot).map Finding.value).or (b.get? slot) := by
  induction fs generalizing b with
  | nil => rfl
  | cons f fs ih =>
      have hrest := ih (b.insert f.slot f.value)
      rw [get?_insert] at hrest
      rw [List.reverse_cons, List.find?_append]
      refine hrest.trans ?_
      -- Only where the rest says nothing about the slot does the first finding count.
      cases fs.reverse.find? fun f => f.slot = slot with
      | some last => rfl
      | none =>
          by_cases hslot : f.slot = slot
          · simp [hslot]
          · simp [hslot, Ne.symm hslot]

theorem mem_slots_iff {slot : BindingSlot} :
    slot ∈ b.map Prod.fst ↔ (b.get? slot).isSome = true := by
  rw [get?, Option.isSome_iff_ne_none, ne_eq, List.lookup_eq_none_iff]
  simp

theorem Ordered.insertAll (h : b.Ordered) (fs : List Finding) : (b.insertAll fs).Ordered := by
  induction fs generalizing b with
  | nil => exact h
  | cons f fs ih => exact ih (h.insert f.slot f.value)

/-- Bind the slots of findings, if none of them lacks its provider. -/
def settle (b : Bindings) (fs : List Finding) : Except MeshError Bindings :=
  match fs.find? Finding.lacksProvider with
  | some f => .error f.breach
  | none => .ok (b.insertAll fs)

theorem settle_cons (b : Bindings) (f : Finding) (fs : List Finding) :
    b.settle (f :: fs) =
      if f.lacksProvider then .error f.breach
      else (b.insert f.slot f.value).settle fs := by
  rw [settle, List.find?_cons]
  cases f.lacksProvider <;> rfl

theorem settle_append (b : Bindings) (fs gs : List Finding) :
    b.settle (fs ++ gs) = (b.settle fs).bind fun b => b.settle gs := by
  induction fs generalizing b with
  | nil => rfl
  | cons f fs ih =>
      rw [List.cons_append, settle_cons, settle_cons, ih]
      split <;> rfl

end Bindings

namespace FunctionResolution

/-- What an answer says about the dependencies of a function, in order of appearance. -/
def findings (f : FunctionResolution) : List Finding :=
  f.dependencies.map (Finding.mk f.function)

end FunctionResolution

namespace RegistrationResponse

/-- What an answer says about dependencies, in order of appearance. -/
def findings (r : RegistrationResponse) : List Finding :=
  r.functions.flatMap FunctionResolution.findings

theorem exists_finding (r : RegistrationResponse) (p : Finding → Prop) :
    (∃ finding ∈ r.findings, p finding) ↔
      ∃ f ∈ r.functions, ∃ d ∈ f.dependencies, p ⟨f.function, d⟩ := by
  simp only [findings, FunctionResolution.findings, List.mem_flatMap, List.mem_map]
  constructor
  · rintro ⟨_, ⟨f, hf, d, hd, rfl⟩, hp⟩
    exact ⟨f, hf, d, hd, hp⟩
  · rintro ⟨f, hf, d, hd, hp⟩
    exact ⟨_, ⟨f, hf, d, hd, rfl⟩, hp⟩

theorem bindFunction_eq (function : String) (ds : List ResolvedDependency) (b : Bindings) :
    bindFunction function b ds = b.settle (ds.map (Finding.mk function)) := by
  induction ds generalizing b with
  | nil => rfl
  | cons d ds ih =>
      have hbinding := Finding.bindingOf_eq ⟨function, d⟩
      simp only at hbinding
      rw [bindFunction, hbinding, List.map_cons, Bindings.settle_cons]
      split
      · rename_i herror
        split at herror
        · rename_i hlacks
          rw [if_pos hlacks, Except.error.inj herror]
        · cases herror
      · rename_i hvalue
        split at hvalue
        · cases hvalue
        · rename_i hlacks
          rw [if_neg hlacks, ← Except.ok.inj hvalue]
          exact ih _

theorem bindFunctions_eq (fs : List FunctionResolution) (b : Bindings) :
    bindFunctions b fs = b.settle (fs.flatMap FunctionResolution.findings) := by
  induction fs generalizing b with
  | nil => rfl
  | cons f fs ih =>
      rw [bindFunctions, bindFunction_eq, List.flatMap_cons, Bindings.settle_append,
        FunctionResolution.findings]
      cases b.settle (f.dependencies.map (Finding.mk f.function)) with
      | error e => rfl
      | ok next => exact ih next

theorem bindings_eq (r : RegistrationResponse) : r.bindings = Bindings.settle [] r.findings :=
  bindFunctions_eq r.functions []

/-- An answer has bindings unless a dependency lacks its provider, and then the first one
that does is named. -/
theorem bindings_eq_error_iff {r : RegistrationResponse} {e : MeshError} :
    r.bindings = .error e ↔ ∃ before first after, r.findings = before ++ first :: after ∧
      (∀ earlier ∈ before, earlier.lacksProvider = false) ∧ first.lacksProvider = true ∧
        e = first.breach := by
  rw [bindings_eq, Bindings.settle]
  constructor
  · intro h
    split at h
    · rename_i first hfirst
      obtain ⟨before, after, hsplit, hbefore, hlacks⟩ :=
        Finding.find?_lacksProvider_iff.mp hfirst
      exact ⟨before, first, after, hsplit, hbefore, hlacks, (Except.error.inj h).symm⟩
    · cases h
  · rintro ⟨before, first, after, hsplit, hbefore, hlacks, rfl⟩
    rw [Finding.find?_lacksProvider_iff.mpr ⟨before, after, hsplit, hbefore, hlacks⟩]

/-- To try again is no use where an answer has no bindings. -/
theorem bindings_final {r : RegistrationResponse} {e : MeshError}
    (herror : r.bindings = .error e) : e.isRetryable = false := by
  obtain ⟨before, first, after, -, -, -, rfl⟩ := bindings_eq_error_iff.mp herror
  rfl

theorem bindings_eq_ok_iff {r : RegistrationResponse} {b : Bindings} :
    r.bindings = .ok b ↔
      (∀ f ∈ r.findings, f.lacksProvider = false) ∧ b = Bindings.insertAll [] r.findings := by
  rw [bindings_eq, Bindings.settle]
  split
  · rename_i first hfirst
    have hlacks := List.find?_some hfirst
    have hmem := List.mem_of_find?_eq_some hfirst
    refine ⟨nofun, fun ⟨hall, _⟩ => ?_⟩
    rw [hall first hmem] at hlacks
    cases hlacks
  · rename_i hnone
    have hall : ∀ f ∈ r.findings, f.lacksProvider = false := by
      simpa using List.find?_eq_none.mp hnone
    rw [Except.ok.injEq, and_iff_right hall, eq_comm]

/-- An answer has no bindings exactly if it says of some dependency that it is resolved, but
not by what. -/
theorem bindings_fail_iff (r : RegistrationResponse) :
    (∃ e, r.bindings = .error e) ↔
      ∃ f ∈ r.functions, ∃ d ∈ f.dependencies, d.status = .resolved ∧ d.provider = none := by
  have hlacks := r.exists_finding fun finding => finding.lacksProvider = true
  simp only [Finding.lacksProvider_iff] at hlacks
  rw [← hlacks]
  cases hbindings : r.bindings with
  | error e =>
      obtain ⟨before, first, after, hsplit, -, hfirst, -⟩ := bindings_eq_error_iff.mp hbindings
      have hmem : first ∈ r.findings := by rw [hsplit]; simp
      exact iff_of_true ⟨e, rfl⟩ ⟨first, hmem, Finding.lacksProvider_iff.mp hfirst⟩
  | ok b =>
      obtain ⟨hall, -⟩ := bindings_eq_ok_iff.mp hbindings
      refine iff_of_false nofun ?_
      rintro ⟨finding, hmem, hfinding⟩
      rw [← Finding.lacksProvider_iff, hall finding hmem] at hfinding
      cases hfinding

/-- An answer prescribes for each slot that it says something about what it says last, and
for no other.  It prescribes nothing at all exactly if it says of some dependency that it is
resolved, but not by what, and the error then names the first of these. -/
theorem last_finding_counts (r : RegistrationResponse) :
    ((∃ e, r.bindings = .error e) ↔
      ∃ f ∈ r.functions, ∃ d ∈ f.dependencies, d.status = .resolved ∧ d.provider = none) ∧
    (∀ e, r.bindings = .error e →
      ∃ before first after, r.findings = before ++ first :: after ∧
        (∀ earlier ∈ before, earlier.lacksProvider = false) ∧
          first.lacksProvider = true ∧ e = first.breach) ∧
    ∀ b, r.bindings = .ok b →
      b.Ordered ∧
      (∀ slot, slot ∈ b.map Prod.fst ↔
        ∃ f ∈ r.functions, ∃ d ∈ f.dependencies, slot = ⟨f.function, d.capability⟩) ∧
      ∀ before last after, r.findings = before ++ last :: after →
        (∀ later ∈ after, later.slot ≠ last.slot) → b.get? last.slot = some last.value := by
  refine ⟨r.bindings_fail_iff, fun e => bindings_eq_error_iff.mp, ?_⟩
  intro b hb
  obtain ⟨-, rfl⟩ := bindings_eq_ok_iff.mp hb
  have hget := Bindings.get?_insertAll [] r.findings
  have hordered : (Bindings.insertAll [] r.findings).Ordered :=
    Bindings.Ordered.insertAll List.Pairwise.nil r.findings
  refine ⟨hordered, ?_, ?_⟩
  · intro slot
    refine Iff.trans ?_ (r.exists_finding fun finding => slot = finding.slot)
    have hnone : Bindings.get? [] slot = none := rfl
    rw [Bindings.mem_slots_iff, hget, hnone, Option.or_none, Option.isSome_map,
      List.find?_isSome]
    simp only [List.mem_reverse, decide_eq_true_eq, @eq_comm _ slot]
  · intro before last after hsplit hlater
    have hlast : r.findings.reverse.find? (fun f => f.slot = last.slot) = some last := by
      rw [hsplit, List.reverse_append, List.reverse_cons, List.append_assoc,
        List.find?_append, List.find?_eq_none.mpr]
      · simp
      · simpa using hlater
    rw [hget, hlast]
    rfl

/-- An answer that says three things about one slot, under two functions of one name. -/
def repeatedSlot : RegistrationResponse where
  status := "success"
  functions := [
    { function := "greet"
      dependencies := [
        { capability := "date", status := .unresolved },
        { capability := "date"
          status := .resolved
          provider := some ⟨"o-1", "http://o", "today"⟩ }] },
    { function := "clock"
      dependencies := [{ capability := "date", status := .unresolved }] },
    { function := "greet"
      dependencies := [
        { capability := "date"
          status := .unresolved
          provider := some ⟨"p-1", "http://p", "now"⟩ },
        { capability := "zone"
          status := .resolved
          provider := some ⟨"p-1", "http://p", "place"⟩ }] }]

/-- The same answer with two dependencies more that lack their providers. -/
def lateBreach : RegistrationResponse :=
  { repeatedSlot with
    functions := repeatedSlot.functions ++ [
      { function := "greet"
        dependencies := [
          { capability := "time", status := .resolved },
          { capability := "date", status := .resolved }] }] }

/-- The slot that is repeated is unresolved in the end, and late breaches spoil the whole
answer; the first of them is named. -/
theorem repeated_slot_unresolved :
    (∃ b, repeatedSlot.bindings = .ok b ∧ b.get? ⟨"greet", "date"⟩ = some none ∧
      b.get? ⟨"greet", "zone"⟩ = some (some ⟨"zone", "p-1", "http://p", "place"⟩)) ∧
    lateBreach.bindings = .error
      (.contractViolation "'time' of 'greet' marked resolved without mcp_tool_info") := by
  constructor
  · obtain ⟨hfails, -, hok⟩ := last_finding_counts repeatedSlot
    cases hb : repeatedSlot.bindings with
    | error e =>
        have hnone : ¬ ∃ f ∈ repeatedSlot.functions, ∃ d ∈ f.dependencies,
            d.status = .resolved ∧ d.provider = none := by decide
        exact absurd (hfails.mp ⟨e, hb⟩) hnone
    | ok b =>
        obtain ⟨-, -, hlast⟩ := hok b hb
        refine ⟨b, rfl, ?_, ?_⟩
        · exact hlast (repeatedSlot.findings.take 3)
            ⟨"greet", "date", .unresolved, some ⟨"p-1", "http://p", "now"⟩⟩
            (repeatedSlot.findings.drop 4) rfl (by decide)
        · exact hlast (repeatedSlot.findings.take 4)
            ⟨"greet", "zone", .resolved, some ⟨"p-1", "http://p", "place"⟩⟩ [] rfl nofun
  · obtain ⟨hfails, herror, -⟩ := last_finding_counts lateBreach
    obtain ⟨e, he⟩ := hfails.mpr (by decide)
    obtain ⟨before, first, after, hsplit, hbefore, hlacks, rfl⟩ := herror e he
    have hfirst := Finding.find?_lacksProvider_iff.mpr ⟨before, after, hsplit, hbefore, hlacks⟩
    have htime : lateBreach.findings.find? Finding.lacksProvider =
        some ⟨"greet", "time", .resolved, none⟩ := by decide
    obtain rfl := Option.some.inj (hfirst.symm.trans htime)
    exact he

end RegistrationResponse

end CapabilityMesh
