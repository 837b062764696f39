/-
What an agent tells the registry depends on nothing but its newest tools.  Two runs that
end with the same tools on offer declare the same, with the same text, however they came
there: functions that were wrapped and released in between leave no trace, nor do the
numbers of those that are still wrapped.
-/
import CapabilityMesh.Proofs.Agent.Declaration
import CapabilityMesh.Proofs.Agent.Strays
import CapabilityMesh.Proofs.Tool.Building

namespace CapabilityMesh

namespace Injector

/-- Whether the newest tools of two injectors count as equal, name by name. -/
structure OffersSame (i j : Injector) : Prop where
  there : ∀ name f, i.IsNewest name f → ∃ g, j.IsNewest name g ∧ f.tool.CountsAs g.tool
  back : ∀ name g, j.IsNewest name g → ∃ f, i.IsNewest name f ∧ f.tool.CountsAs g.tool

variable {i j : Injector}

/-- A newest tool is found again among equal tools. -/
theorem exists_newest_of_declaredTools (hi : i.Books) (hj : j.Books) (hititled : i.Titled)
    (hjtitled : j.Titled) (htools : i.declaredTools = j.declaredTools) {name : String}
    {f : TrackedFunction} (hf : i.IsNewest name f) :
    ∃ g, j.IsNewest name g ∧ g.tool = f.tool := by
  have hmem := hi.mem_declaredTools_iff.mpr ⟨name, f, hf, rfl⟩
  rw [htools, hj.mem_declaredTools_iff] at hmem
  obtain ⟨other, g, hg, htool⟩ := hmem
  have hname : other = name := by
    rw [← hg.named, ← hjtitled g hg.wrapped, htool, hititled f hf.wrapped, hf.named]
  exact ⟨g, hname ▸ hg, htool⟩

theorem OffersSame.of_declaredTools (hi : i.Books) (hj : j.Books) (hititled : i.Titled)
    (hjtitled : j.Titled) (htools : i.declaredTools = j.declaredTools)
    (hbuilt : ∀ t ∈ i.declaredTools, t.Built) : i.OffersSame j := by
  have hsame : ∀ {name : String} {f g : TrackedFunction}, i.IsNewest name f →
      g.tool = f.tool → f.tool.CountsAs g.tool := by
    intro name f g hf htool
    rw [htool]
    exact (hbuilt _ (hi.mem_declaredTools_iff.mpr ⟨name, f, hf, rfl⟩)).countsAs
  constructor
  · intro name f hf
    obtain ⟨g, hg, htool⟩ :=
      exists_newest_of_declaredTools hi hj hititled hjtitled htools hf
    exact ⟨g, hg, hsame hf htool⟩
  · intro name g hg
    obtain ⟨f, hf, htool⟩ :=
      exists_newest_of_declaredTools hj hi hjtitled hititled htools.symm hg
    exact ⟨f, hf, hsame hf htool.symm⟩

theorem declarations_ordered (htitled : i.Titled) :
    (i.declaredTools.map Tool.declare).Pairwise fun t u => t.function < u.function :=
  List.pairwise_map.mpr htitled.declaredTools_ordered

theorem mem_declarations_iff (hi : i.Books) {t : ToolDeclaration} :
    t ∈ i.declaredTools.map Tool.declare ↔
      ∃ name f, i.IsNewest name f ∧ t = f.tool.declare := by
  rw [List.mem_map]
  constructor
  · rintro ⟨tool, htool, rfl⟩
    obtain ⟨name, f, hf, rfl⟩ := hi.mem_declaredTools_iff.mp htool
    exact ⟨name, f, hf, rfl⟩
  · rintro ⟨name, f, hf, rfl⟩
    exact ⟨f.tool, hi.mem_declaredTools_iff.mpr ⟨name, f, hf, rfl⟩, rfl⟩

theorem OffersSame.declarations_eq (h : i.OffersSame j) (hi : i.Books) (hj : j.Books)
    (hititled : i.Titled) (hjtitled : j.Titled) :
    i.declaredTools.map Tool.declare = j.declaredTools.map Tool.declare := by
  refine (declarations_ordered hititled).eq_of_mem_iff (declarations_ordered hjtitled) ?_
  intro t
  rw [mem_declarations_iff hi, mem_declarations_iff hj]
  constructor
  · rintro ⟨name, f, hf, rfl⟩
    obtain ⟨g, hg, hsame⟩ := h.there name f hf
    exact ⟨name, g, hg, hsame.declare_eq⟩
  · rintro ⟨name, g, hg, rfl⟩
    obtain ⟨f, hf, hsame⟩ := h.back name g hg
    exact ⟨name, f, hf, hsame.declare_eq.symm⟩

end Injector

namespace Agent

theorem buildRequest_eq (a : Agent) (h : Heap) (now : Timestamp) :
    (a.buildRequest h now).1 = a.declaring h ∧
      (a.buildRequest h now).2.2 = ⟨a.identity.agentId, now, a.metadata h⟩ := by
  obtain ⟨later, -, heq⟩ := a.buildRequest_spec (Heap.Alike.refl h) now
  rw [heq]
  exact ⟨rfl, rfl⟩

end Agent

namespace AgentRun

open Injector

/-- An agent that may talk to the registry and does not wait for it sends its declaration
when it registers. -/
theorem step_register_sends {r : AgentRun} (hpolicy : r.agent.policy.standalone = false)
    (hcall : r.call = none) (now : Timestamp) :
    (r.step (.register now)).call =
      some (.register ⟨r.agent.identity.agentId, now, r.agent.metadata r.heap⟩) := by
  obtain ⟨later, -, heq⟩ := r.agent.beginRegister_spec r.heap now hpolicy
  rw [step, hcall, heq]
  rfl

/-- Runs of one agent that end with the same tools on offer end with the same to declare. -/
theorem metadata_eq_of_offersSame {identity : AgentIdentity} {policy policy' : HeartbeatPolicy}
    {events events' : List AgentEvent}
    (hsame : (run identity policy events).heap.injector.OffersSame
      (run identity policy' events').heap.injector) :
    (run identity policy' events').agent.metadata (run identity policy' events').heap =
      (run identity policy events).agent.metadata (run identity policy events).heap := by
  have hheap := run_uses_any identity policy events
  have hheap' := run_uses_any identity policy' events'
  have hidentity := (run_identity identity policy' events').trans
    (run_identity identity policy events).symm
  rw [metadata_eq_iff hidentity]
  exact (hsame.declarations_eq hheap.books hheap'.books hheap.titled hheap'.titled).symm

/-- Two runs of an agent that end with the same tools on offer, each name's newest one,
build the same declaration, with the same text and the same memory of it.  It has the newest
tool of each name, in strict order of the names, each with its dependencies in the order of
their declaration.  After one of the runs there is nothing new to declare exactly if the
declaration that was built last is the one that the other run ends with, and to register
again sends it. -/
theorem payload_forgets_history (identity : AgentIdentity) (policy policy' : HeartbeatPolicy)
    (events events' : List AgentEvent) (now now' : Timestamp)
    (hsame : (run identity policy events).heap.injector.OffersSame
      (run identity policy' events').heap.injector) :
    let r := run identity policy events
    let r' := run identity policy' events'
    let built := r.agent.buildRequest r.heap now
    let built' := r'.agent.buildRequest r'.heap now'
    let metadata := built.2.2.metadata
    built'.2.2.metadata = metadata ∧
    built'.2.2.metadata.toJson = metadata.toJson ∧
    built'.1.state.lastPayload = built.1.state.lastPayload ∧
    (metadata.tools.Pairwise fun t u => t.function < u.function) ∧
    (∀ name f, r.heap.injector.IsNewest name f → f.tool.declare ∈ metadata.tools) ∧
    (∀ t ∈ metadata.tools, ∃ f, r.heap.injector.IsNewest t.function f ∧
      t = f.tool.declare ∧ t.dependencies = f.tool.dependencies.map Dependency.declare) ∧
    (r'.agent.declarationsChanged r'.heap = false ↔
      r'.history.lastBuilt? = some metadata) ∧
    (policy'.standalone = false → r'.call = none →
      ∃ request, (r'.step (.register now')).call = some (.register request) ∧
        request.agentId = identity.agentId ∧ request.metadata = metadata) := by
  intro r r' built built' metadata
  have hheap : Heap.Uses .any {} r.heap := run_uses_any identity policy events
  have hdeclared : r'.agent.metadata r'.heap = r.agent.metadata r.heap :=
    metadata_eq_of_offersSame hsame
  obtain ⟨hagent, hrequest⟩ := r.agent.buildRequest_eq r.heap now
  obtain ⟨hagent', hrequest'⟩ := r'.agent.buildRequest_eq r'.heap now'
  have hmetadata : metadata = r.agent.metadata r.heap :=
    congrArg RegistrationRequest.metadata hrequest
  have hmetadata' : built'.2.2.metadata = metadata := by
    rw [hmetadata, ← hdeclared]
    exact congrArg RegistrationRequest.metadata hrequest'
  refine ⟨hmetadata', by rw [hmetadata'], ?_, ?_, ?_, ?_, ?_, ?_⟩
  · change (r'.agent.buildRequest r'.heap now').1.state.lastPayload =
      (r.agent.buildRequest r.heap now).1.state.lastPayload
    rw [hagent, hagent', Agent.declaring, Agent.declaring, hdeclared]
  · rw [hmetadata]
    exact declarations_ordered hheap.titled
  · intro name f hf
    rw [hmetadata]
    exact (mem_declarations_iff hheap.books).mpr ⟨name, f, hf, rfl⟩
  · intro t ht
    rw [hmetadata] at ht
    obtain ⟨name, f, hf, rfl⟩ := (mem_declarations_iff hheap.books).mp ht
    have hname : f.tool.declare.function = name :=
      (hheap.titled f hf.wrapped).trans hf.named
    exact ⟨f, hname ▸ hf, rfl, rfl⟩
  · rw [(run_declared identity policy' events').unchanged_iff, hmetadata, ← hdeclared]
  · intro hpolicy hcall
    have hstandalone : r'.agent.policy.standalone = false := by
      rw [run_policy identity policy' events']
      exact hpolicy
    refine ⟨_, step_register_sends hstandalone hcall now', ?_, ?_⟩
    · change r'.agent.identity.agentId = identity.agentId
      rw [run_identity identity policy' events']
    · change r'.agent.metadata r'.heap = metadata
      rw [hmetadata, hdeclared]

/-- A greeting that needs a date, with its labels given in some order. -/
def labelledGreeting (labels dateLabels : List String) : Tool :=
  labels.foldl Tool.withTag
    ((Tool.named "greet").dependsOn ((Dependency.on "date").withTags dateLabels))

/-- The greeting is wrapped, and nothing else happens. -/
def shortWay : List AgentEvent :=
  [.deed (.wrap (labelledGreeting ["demo", "en"] ["eu", "fast"]) .blocking .text [])]

/-- An older greeting, a clock and a second handle come and go; the labels of the newest
greeting are given in another order, and one of them twice.  It is declared before the
others are gone. -/
def longWay : List AgentEvent :=
  [.deed (.wrap (.named "greet") .awaitable .number []),
    .deed (.wrap (labelledGreeting ["en", "demo", "en"] ["fast", "eu"]) .blocking .text []),
    .build sampleTime,
    .deed (.wrap (.named "clock") .blocking .text []),
    .deed (.hold ⟨"greet", 2⟩),
    .deed (.drop ⟨"greet", 1⟩), .deed (.drop ⟨"clock", 3⟩)]

/-- Behind the long way there is nothing new to declare, and what the short way declares is
sent. -/
theorem long_way_declares_same :
    let long := run sampleIdentity {} longWay
    let short := run sampleIdentity {} shortWay
    (run sampleIdentity {} shortWay).heap.injector.OffersSame
        (run sampleIdentity {} longWay).heap.injector ∧
      long.agent.declarationsChanged long.heap = false ∧
      ∃ request, (long.step (.register sampleTime)).call = some (.register request) ∧
        request.metadata = short.agent.metadata short.heap := by
  intro long short
  have hlong : Heap.Uses .any {} long.heap := run_uses_any _ _ _
  have hshort : Heap.Uses .any {} short.heap := run_uses_any _ _ _
  have htools : short.heap.injector.declaredTools =
      [labelledGreeting ["demo", "en"] ["eu", "fast"]] := by decide +kernel
  have hbuilt : (labelledGreeting ["demo", "en"] ["eu", "fast"]).Built :=
    ((((Tool.Built.named "greet").dependsOn ((Dependency.Built.on "date").withTags _)).withTag
      "demo").withTag "en")
  have hsame : short.heap.injector.OffersSame long.heap.injector := by
    refine .of_declaredTools hshort.books hlong.books hshort.titled hlong.titled
      (by decide +kernel) ?_
    rw [htools]
    intro t ht
    rw [List.mem_singleton.mp ht]
    exact hbuilt
  obtain ⟨-, -, -, -, -, -, hunchanged, hsent⟩ :=
    payload_forgets_history sampleIdentity {} {} shortWay longWay sampleTime sampleTime hsame
  refine ⟨hsame, hunchanged.mpr (by decide +kernel), ?_⟩
  obtain ⟨request, hcall, -, hmetadata⟩ := hsent rfl rfl
  refine ⟨request, hcall, hmetadata.trans ?_⟩
  rw [(Agent.buildRequest_eq _ _ _).2]

end AgentRun

end CapabilityMesh
