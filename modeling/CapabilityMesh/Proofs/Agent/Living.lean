/-
The functions that live in a run, and what the injector tells of them.  A function lives as
long as a handle to it is held, and its code then says what it is.  The books of the
injector have exactly these functions, so that everything it tells follows from which
functions live, whatever became of older and of newer ones of their names.
-/
import CapabilityMesh.Proofs.Agent.Use
import CapabilityMesh.Proofs.Injection.Upkeep
import CapabilityMesh.Proofs.Injection.Views

namespace CapabilityMesh

/-- What the books should have of a function. -/
def FunctionCode.entry (code : FunctionCode) : TrackedFunction :=
  ⟨code.key, code.tool, code.mode⟩

namespace Heap

open Injector

/-- Whether a function lives: the application or other code holds a handle to it. -/
def Lives (h : Heap) (code : FunctionCode) : Prop :=
  code ∈ h.codes ∧ (code.key ∈ h.handles ∨ ∃ other ∈ h.codes, code.key ∈ other.owned)

/-- A function that has the greatest number among those that live of its name. -/
structure LivesNewest (h : Heap) (code : FunctionCode) : Prop where
  lives : h.Lives code
  newest : ∀ other, h.Lives other → other.key.name = code.key.name →
    other.key.id ≤ code.key.id

variable {u : Usage} {h later : Heap}

/-- A use wraps a function, or it brings no function into the books and no code into
memory. -/
theorem Use.wraps_or_shrinks (huse : Use u h later) (hrest : h.AtRest) :
    (∃ tool mode takes owned, u.wraps tool owned ∧
        later = (h.wrap tool mode takes owned).1) ∨
      (later.injector.functions.Sublist h.injector.functions ∧
        later.codes.Sublist h.codes) := by
  cases huse with
  | wrap hallowed => exact Or.inl ⟨_, _, _, _, hallowed, rfl⟩
  | logged lines => exact Or.inr ⟨.refl _, .refl _⟩
  | holdHandle => exact Or.inr ⟨.refl _, .refl _⟩
  | holdValue => exact Or.inr ⟨.refl _, .refl _⟩
  | store => exact Or.inr ⟨.refl _, .refl _⟩
  | take key =>
      refine Or.inr ?_
      rw [Heap.take]
      split <;> exact ⟨.refl _, .refl _⟩
  | dropHandle key =>
      refine Or.inr ⟨(dropHandle_spec hrest key).2.shrinks.functions, ?_⟩
      rw [Heap.dropHandle]
      split
      · exact settle_codes _
      · exact .refl _
  | dropValue value =>
      refine Or.inr ⟨(dropValue_spec hrest value).2.shrinks.functions, ?_⟩
      rw [Heap.dropValue]
      split
      · exact settle_codes _
      · exact .refl _
  | clearOwn function =>
      exact Or.inr ⟨(clearOwn_spec hrest function).2.shrinks.functions, settle_codes _⟩

/-- Whether the books have of a function what its code says. -/
def Faithful (h : Heap) : Prop :=
  ∀ f ∈ h.injector.functions, ∀ code ∈ h.codes, code.key = f.key → code.entry = f

/-- A new function gets a key that neither the books nor the memory have. -/
theorem Faithful.wrap (hfaithful : h.Faithful) (howned : h.Owned) (hbooks : h.injector.Books)
    (tool : Tool) (mode : CallMode) (takes : ArgumentKind) (owned : List FunctionKey) :
    (h.wrap tool mode takes owned).1.Faithful := by
  intro f hf code hcode hkey
  -- Both are old or both are new, since the new number is above all others.
  rw [wrap_injector] at hf
  rcases List.mem_append.mp hf with hf | hf
  · rcases (mem_wrap_codes tool mode takes code).mp hcode with hcode | rfl
    · exact hfaithful f hf code hcode hkey
    · have hbelow := hbooks.below f hf
      rw [← hkey] at hbelow
      exact absurd hbelow (Nat.lt_irrefl _)
  · obtain rfl := List.mem_singleton.mp hf
    rcases (mem_wrap_codes tool mode takes code).mp hcode with hcode | rfl
    · have hbelow := howned.below code hcode
      rw [hkey] at hbelow
      exact absurd hbelow (Nat.lt_irrefl _)
    · rfl

/-- Whatever is done with a new heap, its books are faithful. -/
theorem Uses.faithful (huses : Uses u {} later) : later.Faithful := by
  refine (huses.keeps
    (P := fun h => h.AtRest ∧ h.Sound ∧ h.injector.Books ∧ h.Faithful) ?_
    ⟨atRest_empty, sound_empty, books_empty, fun f hf => by cases hf⟩).2.2.2
  rintro h next huse ⟨hrest, hsound, hbooks, hfaithful⟩
  refine ⟨huse.atRest hrest, huse.sound hsound, huse.books hrest hbooks, ?_⟩
  rcases huse.wraps_or_shrinks hrest with
    ⟨tool, mode, takes, owned, -, rfl⟩ | ⟨hfunctions, hcodes⟩
  · exact hfaithful.wrap hsound.toOwned hbooks tool mode takes owned
  · intro f hf code hcode
    exact hfaithful f (hfunctions.subset hf) code (hcodes.subset hcode)

/-- The books have exactly the functions that live. -/
theorem Faithful.mem_functions_iff (hfaithful : h.Faithful) (howned : h.Owned)
    (hrest : h.AtRest) {f : TrackedFunction} :
    f ∈ h.injector.functions ↔ ∃ code, h.Lives code ∧ code.entry = f := by
  have hhandle : ∀ key, h.hasHandle key = true ↔
      key ∈ h.handles ∨ ∃ code ∈ h.codes, key ∈ code.owned := by
    intro key
    rw [hasHandle_iff, hrest.loose]
    simp
  -- What is in the books has a handle and so its code; what has a handle is in the books.
  constructor
  · intro hf
    have hheld := (howned.wrapped f.key).mp
      ((find?_isSome_iff h.injector f.key).mpr ⟨f, hf, rfl⟩)
    obtain ⟨code, hcode, hkey⟩ := (code?_isSome_iff h f.key).mp
      (howned.kept f.key (isCodeHeld_of_hasHandle hheld))
    refine ⟨code, ⟨hcode, ?_⟩, hfaithful f hf code hcode hkey⟩
    rw [hkey]
    exact (hhandle f.key).mp hheld
  · rintro ⟨code, ⟨hcode, hheld⟩, rfl⟩
    obtain ⟨f, hf, hkey⟩ := (find?_isSome_iff h.injector code.key).mp
      ((howned.wrapped code.key).mpr ((hhandle code.key).mpr hheld))
    rw [hfaithful f hf code hcode hkey.symm]
    exact hf

theorem Faithful.exists_function_iff (hfaithful : h.Faithful) (howned : h.Owned)
    (hrest : h.AtRest) (p : TrackedFunction → Prop) :
    (∃ f ∈ h.injector.functions, p f) ↔ ∃ code, h.Lives code ∧ p code.entry := by
  simp only [hfaithful.mem_functions_iff howned hrest]
  constructor
  · rintro ⟨_, ⟨code, hlives, rfl⟩, hp⟩
    exact ⟨code, hlives, hp⟩
  · rintro ⟨code, hlives, hp⟩
    exact ⟨code.entry, ⟨code, hlives, rfl⟩, hp⟩

theorem Faithful.exists_newest_iff (hfaithful : h.Faithful) (howned : h.Owned)
    (hrest : h.AtRest) (name : String) (p : TrackedFunction → Prop) :
    (∃ f, h.injector.IsNewest name f ∧ p f) ↔
      ∃ code, h.LivesNewest code ∧ code.key.name = name ∧ p code.entry := by
  have hmem := @Faithful.mem_functions_iff h hfaithful howned hrest
  constructor
  · rintro ⟨f, ⟨hwrapped, hnamed, hnewest⟩, hp⟩
    obtain ⟨code, hlives, rfl⟩ := hmem.mp hwrapped
    refine ⟨code, ⟨hlives, ?_⟩, hnamed, hp⟩
    intro other hother hname
    exact hnewest other.entry (hmem.mpr ⟨other, hother, rfl⟩) (hname.trans hnamed)
  · rintro ⟨code, ⟨hlives, hnewest⟩, hnamed, hp⟩
    refine ⟨code.entry, ⟨hmem.mpr ⟨code, hlives, rfl⟩, hnamed, ?_⟩, hp⟩
    intro g hg hname
    obtain ⟨other, hother, rfl⟩ := hmem.mp hg
    exact hnewest other hother (hname.trans hnamed.symm)

end Heap

namespace AgentRun

open Injector

/-- At every moment of a run the injector tells of the functions that live.  It declares for
each of their names, in strict order, the tool of the newest one; this one also serves as the
local capability of that name; and it tells all names of functions that need a capability,
newest or not.  The order in which the books are kept does not show. -/
theorem views_follow_living (identity : AgentIdentity) (policy : HeartbeatPolicy)
    (events : List AgentEvent) :
    let h := (run identity policy events).heap
    let i := h.injector
    (i.declaredTools.Pairwise fun t other => t.function < other.function) ∧
      (∀ name, (∃ t ∈ i.declaredTools, t.function = name) ↔
        ∃ code, h.Lives code ∧ code.key.name = name) ∧
      (∀ name t, t ∈ i.declaredTools ∧ t.function = name ↔
        ∃ code, h.LivesNewest code ∧ code.key.name = name ∧ code.tool = t) ∧
      (∀ capability name, (i.localCapability? capability name).isSome = true ↔
        ∃ code, h.Lives code ∧ code.key.name = name) ∧
      (∀ capability name l, i.localCapability? capability name = some l ↔
        ∃ code, h.LivesNewest code ∧ code.key.name = name ∧
          l = ⟨capability, code.key, code.mode⟩) ∧
      (∀ capability, ((i.functionsNeeding capability).Pairwise fun name other => name < other) ∧
        ∀ name, name ∈ i.functionsNeeding capability ↔
          ∃ code, h.Lives code ∧ code.key.name = name ∧ code.tool.Declares capability) ∧
      ∀ j, Reorders j i →
        j.declaredTools = i.declaredTools ∧
          (∀ capability name, j.localCapability? capability name =
            i.localCapability? capability name) ∧
          ∀ capability, j.functionsNeeding capability = i.functionsNeeding capability := by
  intro h i
  have huses : Heap.Uses .any {} h := run_uses_any identity policy events
  have hbooks : i.Books := huses.books
  have htitled : i.Titled := huses.titled
  have hrest : h.AtRest := huses.keeps Heap.Use.atRest Heap.atRest_empty
  have hlives := huses.faithful.exists_function_iff huses.sound.toOwned hrest
  have hnewest := huses.faithful.exists_newest_iff huses.sound.toOwned hrest
  refine ⟨htitled.declaredTools_ordered, ?_, ?_, ?_, ?_, ?_, fun j hj => hj.views hbooks⟩
  · intro name
    rw [htitled.exists_declaredTool_iff]
    exact hlives fun f => f.key.name = name
  · intro name t
    rw [htitled.mem_declaredTools_iff hbooks]
    exact hnewest name fun f => f.tool = t
  · intro capability name
    rw [localCapability?_isSome_iff]
    exact hlives fun f => f.key.name = name
  · intro capability name l
    rw [hbooks.localCapability?_eq_some_iff]
    exact hnewest name fun f => l = ⟨capability, f.key, f.mode⟩
  · intro capability
    refine ⟨functionsNeeding_ordered i capability, fun name => ?_⟩
    rw [hbooks.mem_functionsNeeding_iff]
    exact hlives fun f => f.key.name = name ∧ f.tool.Declares capability

/-- A function is wrapped anew without the dependency that it had, and then the newer one is
dropped. -/
def newestDropped : List AgentEvent :=
  [.deed (.wrap ((Tool.named "greet").dependsOn (.on "date")) .blocking .text []),
    .deed (.wrap (Tool.named "greet") .awaitable .number []),
    .deed (.wrap (Tool.named "clock") .blocking .text []),
    .deed (.drop ⟨"greet", 2⟩)]

/-- As long as the newer function lives it is the one that is served and declared, but its
name is told for the dependency of the older one; then the older one comes back.  It would
too if the books had been kept the other way round. -/
theorem older_function_comes_back :
    let before := (run sampleIdentity {} (newestDropped.take 3)).heap.injector
    let after := (run sampleIdentity {} newestDropped).heap.injector
    before.localCapability? "hello" "greet" = some ⟨"hello", ⟨"greet", 2⟩, .awaitable⟩ ∧
      Tool.named "greet" ∈ before.declaredTools ∧ "greet" ∈ before.functionsNeeding "date" ∧
      after.localCapability? "hello" "greet" = some ⟨"hello", ⟨"greet", 1⟩, .blocking⟩ ∧
      { after with functions := after.functions.reverse }.declaredTools =
        after.declaredTools := by
  intro before after
  obtain ⟨-, -, htools, -, hserved, hneeding, -⟩ :=
    views_follow_living sampleIdentity {} (newestDropped.take 3)
  obtain ⟨-, -, -, -, hlater, -, hviews⟩ :=
    views_follow_living sampleIdentity {} newestDropped
  have hnewer : (run sampleIdentity {} (newestDropped.take 3)).heap.LivesNewest
      ⟨⟨"greet", 2⟩, Tool.named "greet", .awaitable, .number, []⟩ := by
    have hgreatest : ∀ code ∈ (run sampleIdentity {} (newestDropped.take 3)).heap.codes,
        code.key.name = "greet" → code.key.id ≤ 2 := by decide +kernel
    exact ⟨⟨by decide +kernel, Or.inl (by decide +kernel)⟩,
      fun other hother => hgreatest other hother.1⟩
  have holder : (run sampleIdentity {} newestDropped).heap.LivesNewest
      ⟨⟨"greet", 1⟩, (Tool.named "greet").dependsOn (.on "date"), .blocking, .text, []⟩ := by
    have hgreatest : ∀ code ∈ (run sampleIdentity {} newestDropped).heap.codes,
        code.key.name = "greet" → code.key.id ≤ 1 := by decide +kernel
    exact ⟨⟨by decide +kernel, Or.inl (by decide +kernel)⟩,
      fun other hother => hgreatest other hother.1⟩
  have hneeds : (run sampleIdentity {} (newestDropped.take 3)).heap.Lives
      ⟨⟨"greet", 1⟩, (Tool.named "greet").dependsOn (.on "date"), .blocking, .text, []⟩ :=
    ⟨by decide +kernel, Or.inl (by decide +kernel)⟩
  refine ⟨?_, ?_, ?_, ?_, ?_⟩
  · exact (hserved "hello" "greet" _).mpr ⟨_, hnewer, rfl, rfl⟩
  · exact ((htools "greet" (Tool.named "greet")).mpr ⟨_, hnewer, rfl, rfl⟩).1
  · exact ((hneeding "date").2 "greet").mpr
      ⟨_, hneeds, rfl, .on "date", List.mem_cons_self, rfl⟩
  · exact (hlater "hello" "greet" _).mpr ⟨_, holder, rfl, rfl⟩
  · have hreorders : Reorders { after with functions := after.functions.reverse } after :=
      ⟨List.reverse_perm _,
        ⟨after.dependents, .refl _, List.forall₂_same.mpr fun _ _ => ⟨rfl, .refl _⟩⟩⟩
    exact (hviews _ hreorders).1

end AgentRun

end CapabilityMesh
