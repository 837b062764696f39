/-
Local capabilities and the functions that they mean.  A function is known by its key, and
no other function ever gets that key.  So a local capability follows the one function that
it was made for: it is worth something as long as that function is wrapped, whatever other
functions of its name come and go, and whoever takes a hold on the function through it
keeps the function wrapped.
-/
import CapabilityMesh.Simulation.Run
import CapabilityMesh.Proofs.Agent.Bookkeeping
import CapabilityMesh.Proofs.Agent.Holding
import CapabilityMesh.Proofs.Agent.Living

namespace CapabilityMesh

namespace Heap

variable {u : Usage} {h later : Heap}

/-- What is at hand after a use could be come by before. -/
theorem Use.provided (huse : Use u h later) (hrest : h.AtRest) {value : Value}
    (hvalue : later.hasAtHand value = true) : h.Provides value := by
  -- Holding and storing are the only uses that put a value where it was not.
  have hsame : (∀ v ∈ later.values, v = value → h.Provides value) →
      (∀ entry ∈ later.injector.table, entry.2 = value → h.Provides value) →
      h.Provides value := by
    intro hvalues htable
    rcases (hasAtHand_iff later value).mp hvalue with hmade | hheld | ⟨entry, hentry, heq⟩
    · exact Or.inl ((hasAtHand_iff h value).mpr (Or.inl hmade))
    · exact hvalues value hheld rfl
    · exact htable entry hentry heq
  have hheld : ∀ v ∈ h.values, v = value → h.Provides value := by
    rintro v hv rfl
    exact Or.inl ((hasAtHand_iff h v).mpr (Or.inr (Or.inl hv)))
  have hstored : ∀ entry ∈ h.injector.table, entry.2 = value → h.Provides value := by
    rintro entry hentry rfl
    exact Or.inl ((hasAtHand_iff h entry.2).mpr (Or.inr (Or.inr ⟨entry, hentry, rfl⟩)))
  cases huse with
  | logged lines => exact hsame hheld hstored
  | wrap => exact hsame hheld hstored
  | holdHandle => exact hsame hheld hstored
  | holdValue hprovides =>
      refine hsame (fun v hv heq => ?_) hstored
      rcases List.mem_cons.mp hv with rfl | hv
      · exact heq ▸ hprovides
      · exact hheld v hv heq
  | @store key stored _ hprovides =>
      refine hsame (fun v hv heq => ?_) (fun entry hentry heq => ?_)
      · rcases List.mem_append.mp hv with hold | hv
        · exact hstored _
            (DependencyTable.mem_of_get?_eq_some (Option.mem_toList.mp hold)) heq
        · exact hheld v hv heq
      · rcases DependencyTable.mem_insert hentry with rfl | hentry
        · exact heq ▸ hprovides
        · exact hstored entry hentry heq
  | take key =>
      refine hsame (fun v hv heq => ?_) (fun entry hentry heq => ?_)
      · rcases h.take_values hv with hv | ⟨old, hold, rfl⟩
        · exact hheld v hv heq
        · exact hstored _ (DependencyTable.mem_of_get?_eq_some hold) heq
      · rw [take_injector] at hentry
        exact hstored entry (List.mem_of_mem_filter hentry) heq
  | dropHandle key =>
      have htable := (dropHandle_spec hrest key).2.shrinks.table
      rw [← h.dropHandle_values key] at hheld
      exact hsame hheld fun entry hentry => hstored entry (htable.subset hentry)
  | dropValue dropped =>
      have htable := (dropValue_spec hrest dropped).2.shrinks.table
      exact hsame (fun v hv => hheld v ((h.dropValue_values dropped).subset hv))
        fun entry hentry => hstored entry (htable.subset hentry)
  | clearOwn function =>
      have htable := (clearOwn_spec hrest function).2.shrinks.table
      rw [← h.clearOwn_values function] at hheld
      exact hsame hheld fun entry hentry =>
        hstored entry (List.mem_of_mem_filter (htable.subset hentry))

/-- Whether every local capability at hand means code in memory, and tells its mode. -/
def Genuine (h : Heap) : Prop :=
  ∀ l, h.hasAtHand (.inProcess l) = true →
    ∃ code ∈ h.codes, code.key = l.key ∧ code.mode = l.mode

theorem Genuine.code (hgenuine : h.Genuine) (hfaithful : h.Faithful) (howned : h.Owned)
    (hrest : h.AtRest) {l : LocalCapability} (hl : h.Provides (.inProcess l)) :
    ∃ code ∈ h.codes, code.key = l.key ∧ code.mode = l.mode := by
  rcases hl with hatHand | ⟨capability, name, found, hfound, heq⟩
  · exact hgenuine l hatHand
  · obtain ⟨f, hf, rfl⟩ := Option.map_eq_some_iff.mp hfound
    obtain ⟨code, hlives, rfl⟩ := (hfaithful.mem_functions_iff howned hrest).mp
      (Injector.newestNamed?_some hf).wrapped
    cases heq
    exact ⟨code, hlives.1, rfl, rfl⟩

/-- Whatever is done with a new heap, its local capabilities are genuine. -/
theorem Uses.genuine (huses : Uses u {} later) : later.Genuine := by
  refine (huses.keeps
    (P := fun h => h.AtRest ∧ h.Sound ∧ Uses u {} h ∧ h.Genuine) ?_
    ⟨atRest_empty, sound_empty, .refl, fun l hl => by simp [hasAtHand, Value.target?] at hl⟩).2.2.2
  rintro h next huse ⟨hrest, hsound, huses, hgenuine⟩
  have hlater := huse.sound hsound
  refine ⟨huse.atRest hrest, hlater, huses.next huse, fun l hl => ?_⟩
  obtain ⟨code, hcode, hkey, hmode⟩ :=
    hgenuine.code huses.faithful hsound.toOwned hrest (huse.provided hrest hl)
  rcases huse.wraps_or_shrinks hrest with ⟨tool, mode, takes, owned, -, rfl⟩ | ⟨-, hcodes⟩
  · exact ⟨code, (mem_wrap_codes tool mode takes code).mpr (Or.inl hcode), hkey, hmode⟩
  · -- The code that the value holds is still in memory, and it is the same.
    obtain ⟨other, hother, hsame⟩ := (code?_isSome_iff next l.key).mp
      (hlater.kept l.key (Provides.isCodeHeld (Or.inl hl) rfl))
    obtain rfl : other = code :=
      hsound.code_unique (hcodes.subset hother) hcode (hsame.trans hkey.symm)
    exact ⟨other, hother, hkey, hmode⟩

/-- Without wrapping no code comes into memory. -/
theorem Uses.wrapless_codes (huses : Uses .wrapless h later) (hrest : h.AtRest) :
    later.codes.Sublist h.codes := by
  refine (huses.keeps (P := fun k => k.AtRest ∧ k.codes.Sublist h.codes) ?_
    ⟨hrest, .refl _⟩).2
  rintro k next huse ⟨hkrest, hcodes⟩
  refine ⟨huse.atRest hkrest, ?_⟩
  rcases huse.wraps_or_shrinks hkrest with ⟨_, _, _, _, hwraps, _⟩ | ⟨-, hmore⟩
  · exact absurd hwraps id
  · exact hmore.trans hcodes

end Heap

namespace AgentRun

/-- The functions that events wrap, in their order. -/
def wrappedFrom (r : AgentRun) : List AgentEvent → List FunctionCode
  | [] => []
  | e :: es => e.wrapped r ++ wrappedFrom (r.step e) es

/-- All functions that were wrapped in a run, in their order. -/
def wrapped (identity : AgentIdentity) (policy : HeartbeatPolicy)
    (events : List AgentEvent) : List FunctionCode :=
  wrappedFrom (start identity policy) events

theorem givenFrom_eq (r : AgentRun) (events : List AgentEvent) :
    givenFrom r events = (wrappedFrom r events).map FunctionCode.key := by
  induction events generalizing r with
  | nil => rfl
  | cons e rest ih => rw [givenFrom, wrappedFrom, List.map_append, given_eq, ih]

theorem wrappedFrom_append (r : AgentRun) (events more : List AgentEvent) :
    wrappedFrom r (events ++ more) =
      wrappedFrom r events ++ wrappedFrom (events.foldl step r) more := by
  induction events generalizing r with
  | nil => rfl
  | cons e rest ih =>
      rw [List.cons_append, wrappedFrom, wrappedFrom, List.foldl_cons, ih, List.append_assoc]

/-- Code that is in memory was there before or was wrapped since then. -/
theorem wrappedFrom_codes {r : AgentRun} (hrest : r.heap.AtRest) (events : List AgentEvent)
    {code : FunctionCode} (hcode : code ∈ (events.foldl step r).heap.codes) :
    code ∈ r.heap.codes ∨ code ∈ wrappedFrom r events := by
  induction events generalizing r with
  | nil => exact Or.inl hcode
  | cons e rest ih =>
      rw [wrappedFrom, List.mem_append]
      rcases ih (step_atRest hrest e) hcode with hnext | hlater
      · rcases step_wrapped r e with ⟨tool, mode, takes, owned, hheap, hwrapped⟩ | ⟨huses, -⟩
        · rw [hheap, Heap.mem_wrap_codes] at hnext
          rw [hwrapped, List.mem_singleton]
          exact hnext.imp_right Or.inl
        · exact Or.inl ((huses.wrapless_codes hrest).subset hnext)
      · exact Or.inr (Or.inr hlater)

variable {identity : AgentIdentity} {policy : HeartbeatPolicy} {events : List AgentEvent}

theorem mem_wrapped_of_codes {code : FunctionCode}
    (hcode : code ∈ (run identity policy events).heap.codes) :
    code ∈ wrapped identity policy events :=
  (wrappedFrom_codes Heap.atRest_empty events hcode).resolve_left List.not_mem_nil

theorem wrapped_unique {code other : FunctionCode}
    (hcode : code ∈ wrapped identity policy events)
    (hother : other ∈ wrapped identity policy events) (hkey : code.key = other.key) :
    code = other := by
  have hids := (run_ledger identity policy events).ids
  rw [given, givenFrom_eq] at hids
  exact List.inj_on_of_nodup_map (hids.of_map FunctionKey.id) hcode hother hkey

end AgentRun

namespace Simulation.World

/-- The world in which one more handle to a function is held. -/
def holding (w : World) (key : FunctionKey) : World :=
  { w with heap := w.heap.holdHandle key }

/-- The world in which one handle to a function was let go. -/
def dropping (w : World) (key : FunctionKey) : World :=
  { w with heap := w.heap.dropHandle key }

theorem perform_call (w : World) {name : String} {key : FunctionKey} {code : FunctionCode}
    (hname : w.handles.lookup name = some key) (hcode : w.heap.code? key = some code)
    (argument : Argument) (overrides : ScriptOverrides) :
    w.perform (.call name argument overrides) = w.call code argument overrides := by
  rw [perform, withCode, hname, Option.bind_some, hcode]

/-- Who calls a function by a local capability has a handle of his own for as long as the
call lasts, and calls the function as anyone with a handle does. -/
theorem callSaved_eq (w : World) {name original : String} {l : LocalCapability}
    (hsaved : w.saved.lookup name = some (.inProcess l))
    (hhandle : w.handles.lookup original = some l.key) (argument : Argument)
    (mode : CallMode) (takes : ArgumentKind) (overrides : ScriptOverrides) :
    w.callSaved name argument mode takes overrides =
      if w.heap.fits l mode takes then
        (((w.holding l.key).perform (.call original argument overrides)).1.dropping l.key,
          ((w.holding l.key).perform (.call original argument overrides)).2)
      else (w, .nothing) := by
  have hheld : ({ w with heap := w.heap.holdHandle l.key } : World) = w.holding l.key := rfl
  unfold callSaved
  split
  · rename_i found hfound
    obtain rfl : l = found := Value.inProcess.inj (Option.some.inj (hsaved.symm.trans hfound))
    split
    · rename_i code hcode
      rw [perform_call (w.holding l.key) hhandle hcode]
      by_cases hfits : w.heap.fits l mode takes = true
      · rw [if_pos hfits, if_pos hfits, hheld]
        cases (w.holding l.key).call code argument overrides
        rfl
      · rw [if_neg hfits, if_neg hfits]
    · rename_i hnone
      have hunfit : ¬ w.heap.fits l mode takes = true := by
        rw [Heap.fits, hnone, Bool.and_false]
        exact Bool.false_ne_true
      rw [if_neg hunfit]
  · rename_i hother
    exact absurd hsaved (hother l)

end Simulation.World

namespace Heap

/-- What a local capability is worth in a heap, if its function was wrapped as some code. -/
structure Follows (h : Heap) (l : LocalCapability) (code : FunctionCode) : Prop where
  /-- It is live as long as anyone has a handle to the function. -/
  held : h.isLive l = true ↔
    l.key ∈ h.handles ∨ ∃ other ∈ h.codes, l.key ∈ other.owned
  tracked : h.isLive l = true ↔ (h.injector.find? l.key).isSome = true
  /-- It gives handles of the one mode and kind that the function was wrapped with. -/
  fits : ∀ mode takes, h.fits l mode takes = true ↔
    h.isLive l = true ∧ code.mode = mode ∧ code.takes = takes
  /-- The books have the function itself under its key, and no newer one. -/
  entry : h.isLive l = true → h.injector.find? l.key = some code.entry
  /-- Whatever is done with a handle to the function is done with its code. -/
  acts : h.isLive l = true → ∀ w : Simulation.World, w.heap = h → ∀ name,
    w.handles.lookup name = some l.key → ∀ act, w.withCode name act = act code
  /-- A call by the capability is a call by the original handle, made while one more handle
  is held. -/
  calls : ∀ w : Simulation.World, w.heap = h → ∀ name original,
    w.saved.lookup name = some (.inProcess l) → w.handles.lookup original = some l.key →
    ∀ argument mode takes overrides, w.callSaved name argument mode takes overrides =
      if h.isLive l = true ∧ code.mode = mode ∧ code.takes = takes then
        (((w.holding l.key).perform (.call original argument overrides)).1.dropping l.key,
          ((w.holding l.key).perform (.call original argument overrides)).2)
      else (w, .nothing)

/-- A local capability follows the function of its key, if the code in memory under that key
can only be what the function was wrapped as. -/
theorem follows_of_unique {h : Heap} (hrest : h.AtRest) (hsound : h.Sound)
    (hfaithful : h.Faithful) {l : LocalCapability} {code : FunctionCode}
    (hmode : code.mode = l.mode) (hunique : ∀ other ∈ h.codes, other.key = l.key → other = code) :
    h.Follows l code := by
  have hcode : h.isLive l = true → code ∈ h.codes ∧ h.code? l.key = some code := by
    intro hlive
    obtain ⟨other, hother⟩ := Option.isSome_iff_exists.mp
      (hsound.kept l.key (isCodeHeld_of_hasHandle hlive))
    obtain ⟨hmem, hkey⟩ := code?_mem hother
    obtain rfl := hunique other hmem hkey
    exact ⟨hmem, hother⟩
  have htracked : h.isLive l = true ↔ (h.injector.find? l.key).isSome = true :=
    (hsound.wrapped l.key).symm
  have hfits : ∀ mode takes, h.fits l mode takes = true ↔
      h.isLive l = true ∧ code.mode = mode ∧ code.takes = takes := by
    intro mode takes
    by_cases hlive : h.isLive l = true
    · simp [Heap.fits, hlive, (hcode hlive).2, hmode]
    · simp [Heap.fits, hlive]
  refine ⟨?_, htracked, hfits, ?_, ?_, ?_⟩
  · rw [isLive, hasHandle_iff, hrest.loose]
    simp
  · intro hlive
    obtain ⟨f, hfind⟩ := Option.isSome_iff_exists.mp (htracked.mp hlive)
    obtain ⟨hf, hkey⟩ := Injector.find?_mem hfind
    obtain ⟨hmem, hsome⟩ := hcode hlive
    rw [hfind, hfaithful f hf code hmem ((code?_mem hsome).2.trans hkey.symm)]
  · rintro hlive w rfl name hname act
    rw [Simulation.World.withCode, hname, Option.bind_some, (hcode hlive).2]
  · rintro w rfl name original hsaved hhandle argument mode takes overrides
    rw [w.callSaved_eq hsaved hhandle]
    exact if_congr (hfits mode takes) rfl rfl

end Heap

namespace AgentRun

/-- A local capability that was come by at any moment of a run means one function that had
been wrapped, whose key no other function of the run has.  At every later moment it follows
that function; and as long as a hold that was taken through it is not let go, the function
stays in the books. -/
theorem capability_follows_function (identity : AgentIdentity) (policy : HeartbeatPolicy)
    (before after : List AgentEvent) (l : LocalCapability)
    (hl : (run identity policy before).heap.Provides (.inProcess l)) :
    let h := (run identity policy (before ++ after)).heap
    ∃ code ∈ wrapped identity policy before,
      code.key = l.key ∧ code.mode = l.mode ∧
      (∀ other ∈ wrapped identity policy (before ++ after), other.key = l.key → other = code) ∧
      h.Follows l code ∧
      (h.isLive l = true → ∀ more : List AgentEvent,
        more.countP (·.drops l.key) ≤ h.handles.count l.key →
        (run identity policy (before ++ after ++ .deed (.hold l.key) :: more)).heap.injector.find?
          l.key = some code.entry) := by
  intro h
  have hbefore := run_uses_any identity policy before
  obtain ⟨code, hcode, hkey, hmode⟩ := hbefore.genuine.code hbefore.faithful
    hbefore.sound.toOwned (run_ledger identity policy before).rest hl
  have hwrapped : code ∈ wrapped identity policy before := mem_wrapped_of_codes hcode
  -- Whatever happens later, the code is the only one that was wrapped under its key.
  have hunique : ∀ later, ∀ other ∈ wrapped identity policy (before ++ later),
      other.key = l.key → other = code := by
    intro later other hother hsame
    refine wrapped_unique hother ?_ (hsame.trans hkey.symm)
    rw [wrapped, wrappedFrom_append]
    exact List.mem_append_left _ hwrapped
  have hfollows : ∀ later, (run identity policy (before ++ later)).heap.Follows l code := by
    intro later
    have huses := run_uses_any identity policy (before ++ later)
    exact Heap.follows_of_unique (run_ledger identity policy (before ++ later)).rest huses.sound
      huses.faithful hmode fun other hother => hunique later other (mem_wrapped_of_codes hother)
  refine ⟨code, hwrapped, hkey, hmode, hunique after, hfollows after, ?_⟩
  intro hlive more hmore
  rw [List.append_assoc]
  refine (hfollows _).entry ((hfollows _).held.mpr (Or.inl ?_))
  have hheld : ((run identity policy (before ++ after)).step (.deed (.hold l.key))).heap =
      h.holdHandle l.key := if_pos hlive
  have hsteps := steps_handles
    ((run identity policy (before ++ after)).step (.deed (.hold l.key))) more l.key
  rw [hheld, Heap.holdHandle, List.count_cons_self] at hsteps
  have hrun : run identity policy (before ++ (after ++ .deed (.hold l.key) :: more)) =
      more.foldl step ((run identity policy (before ++ after)).step (.deed (.hold l.key))) := by
    rw [← List.append_assoc, run, List.foldl_append, List.foldl_cons]
    rfl
  rw [hrun, ← List.count_pos_iff]
  omega

/-- A function is looked up, and then wrapped anew under its name. -/
def wrappedAnew : List AgentEvent :=
  [.deed (.wrap (Tool.named "greet") .blocking .text []),
    .deed (.find "hello" "greet"),
    .deed (.wrap (Tool.named "greet") .awaitable .number [])]

/-- The capability still means the older function: it gives handles of the older one's mode
and kind, and one that is held keeps the older function in the books when all other handles
to it are dropped. -/
theorem capability_keeps_older :
    let l : LocalCapability := ⟨"hello", ⟨"greet", 1⟩, .blocking⟩
    let h := (run sampleIdentity {} wrappedAnew).heap
    (run sampleIdentity {} (wrappedAnew.take 2)).heap.Provides (.inProcess l) ∧
      h.fits l .blocking .text = true ∧ h.fits l .awaitable .number = false ∧
      (run sampleIdentity {} (wrappedAnew ++
        [.deed (.hold ⟨"greet", 1⟩), .deed (.drop ⟨"greet", 1⟩)])).heap.injector.find?
          ⟨"greet", 1⟩ = some ⟨⟨"greet", 1⟩, Tool.named "greet", .blocking⟩ := by
  intro l h
  have hl : (run sampleIdentity {} (wrappedAnew.take 2)).heap.Provides (.inProcess l) :=
    Or.inl (by decide +kernel)
  obtain ⟨code, hcode, -, -, -, hfollows, hkept⟩ :=
    capability_follows_function sampleIdentity {} (wrappedAnew.take 2) (wrappedAnew.drop 2) l hl
  have hwrapped : wrapped sampleIdentity {} (wrappedAnew.take 2) =
      [⟨⟨"greet", 1⟩, Tool.named "greet", .blocking, .text, []⟩] := by decide +kernel
  rw [hwrapped, List.mem_singleton] at hcode
  subst hcode
  have hlive : h.isLive l = true := hfollows.held.mpr (Or.inl (by decide +kernel))
  refine ⟨hl, (hfollows.fits _ _).mpr ⟨hlive, rfl, rfl⟩, ?_, ?_⟩
  · apply Bool.eq_false_iff.mpr
    intro hfits
    cases ((hfollows.fits _ _).mp hfits).2.1
  · exact hkept hlive [.deed (.drop ⟨"greet", 1⟩)] (by decide +kernel)

end AgentRun

end CapabilityMesh
