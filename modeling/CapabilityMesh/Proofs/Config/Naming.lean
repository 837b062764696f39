/-
Which entries of an override map take effect.  A name stands for a key whatever the case of
its letters, but the value of a key is looked up under the key's own spelling.  An entry
under another spelling is neither used nor reported.
-/
import CapabilityMesh.Proofs.Config.Precedence
import CapabilityMesh.Proofs.Lookup

namespace CapabilityMesh

namespace ConfigKey

theorem ofName?_name (key : ConfigKey) : ofName? key.name = some key := by
  have hall : ∀ key ∈ all, ofName? key.name = some key := by decide +kernel
  exact hall key key.mem_all

end ConfigKey

namespace Overrides

variable {overrides : Overrides} {name value : String} {key : ConfigKey}

/-- No two entries have names that stand for one key. -/
def Unambiguous (overrides : Overrides) : Prop :=
  ∀ first ∈ overrides, ∀ second ∈ overrides, ∀ key ∈ ConfigKey.ofName? first.1,
    key ∈ ConfigKey.ofName? second.1 → first = second

instance (overrides : Overrides) : Decidable overrides.Unambiguous :=
  inferInstanceAs (Decidable (∀ first ∈ overrides, ∀ second ∈ overrides,
    ∀ key ∈ ConfigKey.ofName? first.1, key ∈ ConfigKey.ofName? second.1 → first = second))

def without (overrides : Overrides) (name : String) : Overrides :=
  overrides.filter fun entry => entry.1 ≠ name

theorem get?_without (overrides : Overrides) (name other : String) :
    (overrides.without name).get? other =
      if other = name then none else overrides.get? other := by
  rw [without, get?, lookup_filter_key overrides fun stored => decide (stored ≠ name)]
  by_cases hother : other = name
  · simp [hother]
  · simp [hother, get?]

/-- The only entry for a key is found if it has the key's own spelling. -/
theorem Unambiguous.get?_name (h : overrides.Unambiguous)
    (hentry : (name, value) ∈ overrides) (hkey : ConfigKey.ofName? name = some key) :
    overrides.get? key.name = if name = key.name then some value else none := by
  cases hfound : overrides.get? key.name with
  | none =>
      have hother : key.name ≠ name :=
        bne_iff_ne.mp (List.lookup_eq_none_iff.mp hfound (name, value) hentry)
      rw [if_neg hother.symm]
  | some found =>
      obtain ⟨before, after, hsplit, -⟩ := List.lookup_eq_some_iff.mp hfound
      have hmem : (key.name, found) ∈ overrides := by simp [hsplit]
      have hsame := h _ hentry _ hmem key hkey key.ofName?_name
      rw [Prod.mk.injEq] at hsame
      rw [if_pos hsame.1, hsame.2]

/-- An entry whose name is not spelled as the key's own is never found. -/
theorem get?_name_without (overrides : Overrides) (hkey : ConfigKey.ofName? name = some key)
    (hspelling : name ≠ key.name) (other : ConfigKey) :
    (overrides.without name).get? other.name = overrides.get? other.name := by
  rw [get?_without]
  by_cases hother : other.name = name
  · have hsame : other = key := by
      rw [← hother, other.ofName?_name, Option.some.injEq] at hkey
      exact hkey
    exact absurd (hsame ▸ hother.symm) hspelling
  · rw [if_neg hother]

theorem unknownNames_without (hkey : ConfigKey.ofName? name = some key) :
    (overrides.without name).unknownNames = overrides.unknownNames := by
  rw [unknownNames, unknownNames, without, List.filter_filter]
  congr 1
  apply List.filter_congr
  intro entry _
  by_cases hname : entry.1 = name
  · simp [hname, hkey]
  · simp [hname]

theorem mem_unknownNames (hentry : (name, value) ∈ overrides)
    (hunknown : ConfigKey.ofName? name = none) :
    .debug s!"[CONFIG] Ignoring unknown override '{name}'" ∈ overrides.unknownNames := by
  refine List.mem_map.mpr ⟨(name, value), List.mem_filter.mpr ⟨hentry, ?_⟩, rfl⟩
  rw [hunknown]
  rfl

end Overrides

namespace Settings

variable (env : Environment) {overrides others : Overrides}

/-- Only what is found under the keys' own spellings matters. -/
theorem resolveKeys_congr
    (hsame : ∀ key : ConfigKey, overrides.get? key.name = others.get? key.name)
    (keys : List ConfigKey) (s : Settings) :
    resolveKeys env overrides keys s = resolveKeys env others keys s := by
  induction keys generalizing s with
  | nil => rfl
  | cons key keys ih =>
      have hfirst : s.resolveKey env overrides key = s.resolveKey env others key := by
        rw [resolveKey, resolveKey, candidates, candidates, hsame]
      rw [resolveKeys, resolveKeys, hfirst]
      simp only [ih]

theorem applyOverrides_fst_congr
    (hsame : ∀ key : ConfigKey, overrides.get? key.name = others.get? key.name)
    (s : Settings) :
    (s.applyOverrides env overrides).1 = (s.applyOverrides env others).1 := by
  rw [applyOverrides, applyOverrides, resolveKeys_congr env hsame]

theorem programmatic_mem_candidates (s : Settings) (key : ConfigKey) (given : Option String) :
    ⟨.programmatic, given⟩ ∈ s.candidates env overrides key ↔
      given = overrides.get? key.name := by
  simp [candidates]

/-- An override that is accepted counts where the environment offers nothing acceptable. -/
theorem accepted?_override {s : Settings} {key : ConfigKey} {value : String}
    (hgiven : overrides.get? key.name = some value) (haccepts : key.accepts value = true)
    (henv : (env key.envVar).any key.accepts = false) :
    key.accepted? (s.candidates env overrides key) = some value := by
  rw [ConfigKey.accepted?, candidates, hgiven]
  cases hvalue : env key.envVar with
  | none => simp [haccepts]
  | some offered =>
      rw [hvalue, Option.any_some] at henv
      simp [henv, haccepts]

/-- An entry whose name is a key's own spelling is what the override map offers for this
key, and it decides the key's field if the key accepts it and accepts nothing that the
environment has.  An entry whose name stands for a key in another spelling changes nothing,
not even the log.  An entry whose name stands for no key is reported and changes no
setting. -/
theorem own_spelling_takes_effect (s : Settings) (overrides : Overrides)
    (hunambiguous : overrides.Unambiguous) {name value : String}
    (hentry : (name, value) ∈ overrides) :
    let result := s.applyOverrides env overrides
    let rest := s.applyOverrides env (overrides.without name)
    (∀ key : ConfigKey, ConfigKey.ofName? name = some key →
      (∀ given, ⟨.programmatic, given⟩ ∈ s.candidates env overrides key ↔
        given = if name = key.name then some value else none) ∧
      (name = key.name → key.accepts value = true →
        (env key.envVar).any key.accepts = false →
        result.1.field? key = (key.reading? (Text.trim value)).or (s.field? key)) ∧
      (name ≠ key.name → result = rest)) ∧
    (ConfigKey.ofName? name = none →
      .debug s!"[CONFIG] Ignoring unknown override '{name}'" ∈ result.2 ∧
        result.1 = rest.1) := by
  intro result rest
  constructor
  · intro key hkey
    have hgiven := hunambiguous.get?_name hentry hkey
    refine ⟨?_, ?_, ?_⟩
    · intro given
      rw [programmatic_mem_candidates, hgiven]
    · intro hspelling haccepts henv
      rw [if_pos hspelling] at hgiven
      rw [field?_applyOverrides, outcome?, accepted?_override env hgiven haccepts henv,
        Option.bind_some]
    · intro hspelling
      have hsame := overrides.get?_name_without hkey hspelling
      change s.applyOverrides env overrides = s.applyOverrides env (overrides.without name)
      rw [applyOverrides, applyOverrides, Overrides.unknownNames_without hkey,
        resolveKeys_congr env hsame]
  · intro hunknown
    constructor
    · exact List.mem_append_left _ (Overrides.mem_unknownNames hentry hunknown)
    · apply applyOverrides_fst_congr
      intro key
      have hother : key.name ≠ name := by
        rintro rfl
        rw [key.ofName?_name] at hunknown
        cases hunknown
      rw [Overrides.get?_without, if_neg hother]

/-- A map with a name in the key's spelling, one in another spelling, and one that no key
has. -/
def mixedOverrides : Overrides :=
  [("namespace", " prod "), ("HTTP_PORT", "9000"), ("colour", "red")]

/-- Of three entries the one in the key's own spelling takes effect. -/
theorem namespace_takes_effect :
    (applyOverrides {} (fun _ => none) mixedOverrides).1.field? .agentNamespace =
        some (.text "prod") ∧
      applyOverrides {} (fun _ => none) mixedOverrides =
        applyOverrides {} (fun _ => none) (mixedOverrides.without "HTTP_PORT") ∧
      .debug "[CONFIG] Ignoring unknown override 'colour'" ∈
        (applyOverrides {} (fun _ => none) mixedOverrides).2 := by
  have hunambiguous : mixedOverrides.Unambiguous := by decide +kernel
  have hnamespace := own_spelling_takes_effect (fun _ => none) {} mixedOverrides hunambiguous
    (show ("namespace", " prod ") ∈ mixedOverrides by decide)
  have hport := own_spelling_takes_effect (fun _ => none) {} mixedOverrides hunambiguous
    (show ("HTTP_PORT", "9000") ∈ mixedOverrides by decide)
  have hcolour := own_spelling_takes_effect (fun _ => none) {} mixedOverrides hunambiguous
    (show ("colour", "red") ∈ mixedOverrides by decide)
  refine ⟨?_, ?_, ?_⟩
  · rw [(hnamespace.1 .agentNamespace (by decide +kernel)).2.1 rfl (by decide +kernel) rfl]
    decide +kernel
  · exact (hport.1 .httpPort (by decide +kernel)).2.2 (by decide)
  · exact (hcolour.2 (by decide +kernel)).1

/-- A name in capital letters stands for a key, but its value is not used. -/
theorem capitals_lose_override :
    ¬ ∀ (s : Settings) (env : Environment) (overrides : Overrides),
      overrides.Unambiguous → ∀ name value, (name, value) ∈ overrides →
        ∀ key : ConfigKey, ConfigKey.ofName? name = some key →
          ⟨.programmatic, some value⟩ ∈ s.candidates env overrides key := by
  intro h
  have hcapitals := h {} (fun _ => none) [("NAMESPACE", "prod")] (by decide +kernel)
    "NAMESPACE" "prod" (by decide) .agentNamespace (by decide +kernel)
  revert hcapitals
  decide +kernel

end Settings

end CapabilityMesh
