/-
What a call receives.  The dependencies are walked in the order of their declaration, and
a caller's choice for a parameter serves the first of them that has this parameter.  It
goes before the table there, even if it says that the parameter is to stay unresolved.  A
later dependency with the same parameter is resolved from the table all the same.
-/
import Mathlib.Data.List.Induction
import CapabilityMesh.Injection.Binding
import CapabilityMesh.Proofs.Lookup

namespace CapabilityMesh

namespace CallOverrides

variable (overrides : CallOverrides) (parameter other : String)

theorem get?_set (value : Option Value) :
    (overrides.set parameter value).get? other =
      if other = parameter then some value else overrides.get? other := by
  rw [set, get?, List.lookup_append,
    lookup_filter_key overrides (fun name => decide (name ≠ parameter)), lookup_cons_ite]
  by_cases hother : other = parameter
  · simp [hother]
  · simp [hother, get?]

theorem get?_erase :
    (overrides.erase parameter).get? other =
      if other = parameter then none else overrides.get? other := by
  rw [erase, get?, lookup_filter_key overrides (fun name => decide (name ≠ parameter))]
  by_cases hother : other = parameter
  · simp [hother]
  · simp [hother, get?]

/-- There is nothing to use up where no choice was made. -/
theorem erase_of_get?_eq_none {overrides : CallOverrides} {parameter : String}
    (hnone : overrides.get? parameter = none) : overrides.erase parameter = overrides := by
  rw [erase, List.filter_eq_self]
  intro entry hentry
  have hother : parameter ≠ entry.1 :=
    bne_iff_ne.mp (List.lookup_eq_none_iff.mp hnone entry hentry)
  exact decide_eq_true hother.symm

/-- What a caller chooses for parameters, one choice after the other. -/
def ofChoices (choices : List (String × Option Value)) : CallOverrides :=
  choices.foldl (fun overrides choice => overrides.set choice.1 choice.2) []

def lastChoice? (choices : List (String × Option Value)) (parameter : String) :
    Option (Option Value) :=
  ((choices.filter fun choice => choice.1 = parameter).map Prod.snd).getLast?

theorem get?_ofChoices (choices : List (String × Option Value)) :
    (ofChoices choices).get? parameter = lastChoice? choices parameter := by
  induction choices using List.reverseRecOn with
  | nil => rfl
  | append_singleton earlier last ih =>
      rw [ofChoices, List.foldl_append, List.foldl_cons, List.foldl_nil, get?_set,
        ← ofChoices, ih, lastChoice?, lastChoice?, List.filter_append, List.map_append]
      by_cases hlast : parameter = last.1
      · simp [hlast]
      · simp [hlast, Ne.symm hlast]

theorem lastChoice?_filter (choices : List (String × Option Value)) (keep : String → Bool)
    {parameter : String} (hkeep : keep parameter = true) :
    lastChoice? (choices.filter fun choice => keep choice.1) parameter =
      lastChoice? choices parameter := by
  have hsame : (choices.filter fun choice => keep choice.1).filter
        (fun choice => choice.1 = parameter) =
      choices.filter fun choice => choice.1 = parameter := by
    rw [List.filter_filter]
    apply List.filter_congr
    intro choice _
    by_cases hchoice : choice.1 = parameter
    · simp [hchoice, hkeep]
    · simp [hchoice]
  rw [lastChoice?, hsame, ← lastChoice?]

end CallOverrides

namespace Dependencies

variable (table : DependencyTable) (function : String)

/-- The first dependency gets the choice for its parameter, which is then used up. -/
theorem resolve_cons (d : Dependency) (ds : List Dependency) (overrides : CallOverrides) :
    resolve table function (d :: ds) overrides =
      (d.parameter,
          (overrides.get? d.parameter).getD (table.resolve function d.capability)) ::
        resolve table function ds (overrides.erase d.parameter) := by
  rw [resolve]
  cases hchoice : overrides.get? d.parameter with
  | some choice => rfl
  | none => rw [CallOverrides.erase_of_get?_eq_none hchoice]; rfl

theorem map_fst_resolve (ds : List Dependency) (overrides : CallOverrides) :
    (resolve table function ds overrides).map Prod.fst = ds.map Dependency.parameter := by
  induction ds generalizing overrides with
  | nil => rfl
  | cons d ds ih => rw [resolve_cons, List.map_cons, List.map_cons, ih]

/-- Each dependency gets what the table has, unless there is a choice for its parameter and
no dependency before it has used that up. -/
theorem getElem?_resolve (ds : List Dependency) (overrides : CallOverrides) (i : Nat) :
    (resolve table function ds overrides)[i]? = ds[i]?.map fun d =>
      (d.parameter,
        if d.parameter ∈ (ds.take i).map Dependency.parameter then
          table.resolve function d.capability
        else (overrides.get? d.parameter).getD (table.resolve function d.capability)) := by
  induction ds generalizing overrides i with
  | nil => rfl
  | cons d ds ih =>
      rw [resolve_cons]
      cases i with
      | zero => simp
      | succ i =>
          rw [List.getElem?_cons_succ, List.getElem?_cons_succ, ih]
          apply Option.map_congr
          intro later _
          rw [CallOverrides.get?_erase]
          by_cases hused : later.parameter = d.parameter
          · simp [hused]
          · simp [hused]

/-- What is read under a parameter is what the first dependency with this parameter got. -/
theorem get?_resolve (ds : List Dependency) (overrides : CallOverrides)
    (parameter : String) :
    (resolve table function ds overrides).get? parameter =
      (ds.find? fun d => d.parameter = parameter).bind fun d =>
        (overrides.get? parameter).getD (table.resolve function d.capability) := by
  induction ds generalizing overrides with
  | nil => rfl
  | cons d ds ih =>
      rw [resolve_cons, get?, lookup_cons_ite, List.find?_cons]
      by_cases hparameter : parameter = d.parameter
      · simp [hparameter]
      · have hother := ih (overrides.erase d.parameter)
        rw [get?, CallOverrides.get?_erase, if_neg hparameter] at hother
        simp only [hparameter, Ne.symm hparameter, if_false, decide_false]
        exact hother

/-- Only the choices for declared parameters matter. -/
theorem resolve_congr {ds : List Dependency} {overrides others : CallOverrides}
    (hsame : ∀ d ∈ ds, overrides.get? d.parameter = others.get? d.parameter) :
    resolve table function ds overrides = resolve table function ds others := by
  apply List.ext_getElem?
  intro i
  rw [getElem?_resolve, getElem?_resolve]
  apply Option.map_congr
  intro d hd
  rw [hsame d (List.mem_of_getElem? hd)]

end Dependencies

namespace Heap

open CallOverrides

/-- A call gets one slot for each declared dependency, in the order of declaration.  The
last choice for a parameter goes before the table in the first slot of that parameter, and
so it is what is read under the parameter; every later slot of the parameter holds what the
table has.  Choices for parameters that are not declared have no effect. -/
theorem choice_serves_first_slot (h : Heap) (code : FunctionCode)
    (choices : List (String × Option Value)) :
    let ds := code.tool.dependencies
    let current := fun d : Dependency => h.injector.resolve code.key.name d.capability
    let received := h.dependencies code (ofChoices choices)
    received.map Prod.fst = ds.map Dependency.parameter ∧
      (∀ i : Nat, received[i]? = ds[i]?.map fun d =>
        (d.parameter,
          if d.parameter ∈ (ds.take i).map Dependency.parameter then current d
          else (lastChoice? choices d.parameter).getD (current d))) ∧
      (∀ parameter : String, received.get? parameter =
        (ds.find? fun d => d.parameter = parameter).bind fun d =>
          (lastChoice? choices parameter).getD (current d)) ∧
      received = h.dependencies code
        (ofChoices (choices.filter fun choice =>
          ds.any fun d => d.parameter == choice.1)) := by
  intro ds current received
  refine ⟨?_, ?_, ?_, ?_⟩
  · exact Dependencies.map_fst_resolve _ _ _ _
  · intro i
    have hslot := Dependencies.getElem?_resolve h.injector.table code.key.name ds
      (ofChoices choices) i
    simp only [get?_ofChoices] at hslot
    exact hslot
  · intro parameter
    have hread := Dependencies.get?_resolve h.injector.table code.key.name ds
      (ofChoices choices) parameter
    rw [get?_ofChoices] at hread
    exact hread
  · apply Dependencies.resolve_congr
    intro d hd
    rw [get?_ofChoices, get?_ofChoices]
    let declared := fun name : String => ds.any fun other => other.parameter == name
    have hdeclared : declared d.parameter = true :=
      List.any_eq_true.mpr ⟨d, hd, beq_self_eq_true _⟩
    exact (lastChoice?_filter choices declared hdeclared).symm

/-- A function that receives two capabilities under one parameter. -/
def pairedTool : Tool :=
  ((Tool.named "report").dependsOn ((Dependency.on "date").forParameter "when")).dependsOn
    ((Dependency.on "clock").forParameter "when")

/-- The clock is known to everyone. -/
def clockHeap : Heap :=
  ((Heap.register {} "clock" (.text "noon")).wrap pairedTool .blocking .text []).1

/-- The slot that comes second under a parameter does not get the caller's choice. -/
theorem second_slot_misses_choice :
    ¬ ∀ (h : Heap) (code : FunctionCode) (choices : List (String × Option Value)) (i : Nat),
      (h.dependencies code (ofChoices choices))[i]? =
        code.tool.dependencies[i]?.map fun d =>
          (d.parameter, (lastChoice? choices d.parameter).getD
            (h.injector.resolve code.key.name d.capability)) := by
  intro h
  have hsecond := h clockHeap ⟨⟨"report", 1⟩, pairedTool, .blocking, .text, []⟩
    [("when", some (.text "midnight"))] 1
  revert hsecond
  decide +kernel

end Heap

end CapabilityMesh
