/-
The layers settle, and they keep settings apart.  What a field holds after the layers were
put on it is what they make of it once more: a value that was read from a text is accepted
again as the text that is written for it, and is read from that.  And the field of a key
depends on its own old value, its own variable and its own override alone, so that the
order of the keys does not count.
-/
import CapabilityMesh.Proofs.Config.Safety

namespace CapabilityMesh

namespace Text

theorem isEmpty_toString (n : Nat) : (toString n).isEmpty = false := by
  rw [Bool.eq_false_iff, ne_eq, String.isEmpty_iff, ← String.toList_eq_nil_iff,
    Nat.toString_eq_repr, Nat.toList_repr]
  exact Nat.toDigits_ne_nil

theorem readUInt64?_toString (n : UInt64) : readUInt64? (toString n.toNat) = some n := by
  rw [readUInt64?, readNumber_toString n.toNat_lt]
  exact congrArg some UInt64.ofNat_toNat

theorem readUInt32?_toString (n : UInt32) : readUInt32? (toString n.toNat) = some n := by
  rw [readUInt32?, readNumber_toString n.toNat_lt]
  exact congrArg some UInt32.ofNat_toNat

theorem readUInt16?_toString (n : UInt16) : readUInt16? (toString n.toNat) = some n := by
  rw [readUInt16?, readNumber_toString n.toNat_lt]
  exact congrArg some UInt16.ofNat_toNat

end Text

namespace ConfigKey

variable {key : ConfigKey}

/-- Outer blanks do not count. -/
theorem accepts_trim (key : ConfigKey) (raw : String) :
    key.accepts (Text.trim raw) = key.accepts raw := by
  rw [accepts, accepts, check, check, Text.trim_trim]

theorem accepts_positive {n : Nat} (hkind : key.kind = .positive) (hn : n ≠ 0)
    (hlt : n < UInt64.size) : key.accepts (toString n) = true := by
  rw [accepts_iff, Text.trim_toString, hkind]
  exact ⟨Text.isEmpty_toString n, check_positive.mpr ⟨n, Text.readNumber_toString hlt, hn⟩⟩

theorem accepts_truth (hkind : key.kind = .boolean) (b : Bool) :
    key.accepts (FieldValue.truth b).shown = true ∧
      key.reading? (Text.trim (FieldValue.truth b).shown) = some (.truth b) := by
  cases key with
  | standalone | deregisterOnShutdown | logJson => cases b <;> decide +kernel
  | _ => cases hkind

/-- A value that was read from an accepted text is accepted as the text that is written for
it, and read from that. -/
theorem accepts_shown {raw : String} {value : FieldValue} (haccepts : key.accepts raw = true)
    (hvalue : key.reading? (Text.trim raw) = some value) :
    key.accepts value.shown = true ∧ key.reading? (Text.trim value.shown) = some value := by
  cases key with
  | registryUrl | agentName | agentId | agentNamespace | agentVersion | httpHost | endpoint
  | logLevel =>
      obtain rfl := Option.some.inj hvalue
      rw [FieldValue.shown, accepts_trim, Text.trim_trim]
      exact ⟨haccepts, rfl⟩
  | requestTimeoutMs | probeTimeoutMs | healthInterval | shutdownGraceMs =>
      have hpositive := isPositive_of_accepts rfl haccepts hvalue
      rw [reading?] at hvalue
      obtain ⟨n, -, rfl⟩ := Option.map_eq_some_iff.mp hvalue
      refine ⟨accepts_positive rfl ?_ n.toNat_lt, ?_⟩
      · exact Nat.one_le_iff_ne_zero.mp
          (UInt64.le_iff_toNat_le.mp (FieldValue.one_le_word64 hpositive))
      · rw [FieldValue.shown, Text.trim_toString, reading?, Text.readUInt64?_toString]
        rfl
  | missedThreshold =>
      have hpositive := isPositive_of_accepts rfl haccepts hvalue
      rw [reading?] at hvalue
      obtain ⟨n, -, rfl⟩ := Option.map_eq_some_iff.mp hvalue
      refine ⟨accepts_positive rfl ?_ (Nat.lt_trans n.toNat_lt (by decide)), ?_⟩
      · exact Nat.one_le_iff_ne_zero.mp
          (UInt32.le_iff_toNat_le.mp (FieldValue.one_le_word32 hpositive))
      · rw [FieldValue.shown, Text.trim_toString, reading?, Text.readUInt32?_toString]
        rfl
  | httpPort =>
      rw [reading?] at hvalue
      obtain ⟨n, -, rfl⟩ := Option.map_eq_some_iff.mp hvalue
      have hread : Text.readNumber UInt16.size (toString n.toNat) = .ok n.toNat :=
        Text.readNumber_toString n.toNat_lt
      rw [FieldValue.shown, Text.trim_toString, accepts_iff, Text.trim_toString, kind]
      refine ⟨⟨Text.isEmpty_toString _, check_port.mpr ⟨n.toNat, hread⟩⟩, ?_⟩
      rw [reading?, Text.readUInt16?_toString]
      rfl
  | standalone | deregisterOnShutdown | logJson =>
      rw [reading?] at hvalue
      obtain ⟨b, -, rfl⟩ := Option.map_eq_some_iff.mp hvalue
      exact accepts_truth rfl b

theorem accepted?_append (key : ConfigKey) (offers more : List Candidate) :
    key.accepted? (offers ++ more) = (key.accepted? offers).or (key.accepted? more) := by
  rw [accepted?, List.filterMap_append, List.find?_append]
  rfl

end ConfigKey

namespace Settings

theorem ext_field? {s t : Settings} (hfields : ∀ key, s.field? key = t.field? key) : s = t := by
  obtain ⟨⟨url, requestTimeout, probeTimeout⟩,
    ⟨name, id, agentNamespace, version, host, port, endpoint⟩,
    ⟨interval, threshold, standalone, grace, deregister⟩, ⟨level, json⟩⟩ := s
  obtain ⟨⟨url', requestTimeout', probeTimeout'⟩,
    ⟨name', id', agentNamespace', version', host', port', endpoint'⟩,
    ⟨interval', threshold', standalone', grace', deregister'⟩, ⟨level', json'⟩⟩ := t
  have hcontent : Function.Injective FieldValue.text := fun _ _ => FieldValue.text.inj
  obtain rfl := Option.map_injective hcontent (hfields .agentId)
  obtain rfl := Option.map_injective hcontent (hfields .endpoint)
  cases hfields .registryUrl
  cases hfields .requestTimeoutMs
  cases hfields .probeTimeoutMs
  cases hfields .agentName
  cases hfields .agentNamespace
  cases hfields .agentVersion
  cases hfields .httpHost
  cases hfields .httpPort
  cases hfields .healthInterval
  cases hfields .missedThreshold
  cases hfields .standalone
  cases hfields .shutdownGraceMs
  cases hfields .deregisterOnShutdown
  cases hfields .logLevel
  cases hfields .logJson
  rfl

variable {s t : Settings} {env env' : Environment} {overrides overrides' : Overrides}
variable {key : ConfigKey}

/-- What the upper layers offer goes before what is below them. -/
theorem accepted?_candidates (s : Settings) (env : Environment) (overrides : Overrides)
    (key : ConfigKey) :
    key.accepted? (s.candidates env overrides key) =
      (key.accepted? [⟨.environment, env key.envVar⟩,
        ⟨.programmatic, overrides.get? key.name⟩]).or
        (key.accepted? [⟨.fallback, s.get? key⟩, ⟨.fallback, key.builtin?⟩]) :=
  key.accepted?_append [⟨.environment, env key.envVar⟩, ⟨.programmatic, overrides.get? key.name⟩]
    [⟨.fallback, s.get? key⟩, ⟨.fallback, key.builtin?⟩]

/-- What the layers made of a field they make of it again. -/
theorem outcome?_settled (hfield : t.field? key = s.outcome? env overrides key) :
    t.outcome? env overrides key = t.field? key := by
  have hkept (hold : t.field? key = s.field? key) :
      t.outcome? env overrides key = t.field? key := by
    rw [outcome?_congr env overrides hold, hfield]
  cases hraw : key.accepted? (s.candidates env overrides key) with
  | none =>
      apply hkept
      rw [hfield, outcome?, hraw]
      rfl
  | some raw =>
      cases hvalue : key.reading? (Text.trim raw) with
      | none =>
          apply hkept
          rw [hfield, outcome?, hraw, Option.bind_some, hvalue]
          rfl
      | some value =>
          have hnew : t.field? key = some value := by
            rw [hfield, outcome?, hraw, Option.bind_some, hvalue]
            rfl
          obtain ⟨hagain, hreading⟩ :=
            ConfigKey.accepts_shown (List.find?_some hraw) hvalue
          rw [outcome?, accepted?_candidates, t.get?_eq, hnew]
          rw [accepted?_candidates] at hraw
          -- The winner of an upper layer wins again; else what it left in the field does.
          cases hupper : key.accepted? [⟨.environment, env key.envVar⟩,
              ⟨.programmatic, overrides.get? key.name⟩] with
          | some upper =>
              rw [hupper] at hraw
              obtain rfl := Option.some.inj hraw
              rw [Option.some_or, Option.bind_some, hvalue]
              rfl
          | none =>
              have hlower : key.accepted?
                  [⟨.fallback, (some value).map FieldValue.shown⟩, ⟨.fallback, key.builtin?⟩] =
                    some value.shown := by
                rw [ConfigKey.accepted?]
                simp [hagain]
              rw [Option.none_or, hlower, Option.bind_some, hreading]
              rfl

/-- To put the same layers on settings once more, whatever these settings are, changes
nothing.  So settings that were loaded stay as they are, and sound, below the layers that
they were loaded with. -/
theorem layers_settle (env : Environment) (overrides : Overrides) (s : Settings) :
    let once := (s.applyOverrides env overrides).1
    (once.applyOverrides env overrides).1 = once ∧
      ∀ tree folder given loaded, (load tree folder given env overrides).1 = .ok loaded →
        (loaded.applyOverrides env overrides).1 = loaded ∧
          (loaded.applyOverrides env overrides).1.check = .ok () := by
  have hsettled (base : Settings) :
      ((base.applyOverrides env overrides).1.applyOverrides env overrides).1 =
        (base.applyOverrides env overrides).1 := by
    apply ext_field?
    intro key
    rw [field?_applyOverrides]
    exact outcome?_settled (field?_applyOverrides env overrides base key)
  refine ⟨hsettled s, ?_⟩
  intro tree folder given loaded hload
  obtain ⟨base, rfl, hcheck⟩ := load_eq_ok hload
  exact ⟨hsettled base, by rwa [hsettled base]⟩

/-- Settings with a log level that there is not. -/
def loud : Settings where
  logging := { level := " loud " }

/-- Settings settle though they are not sound, and so do those that were loaded. -/
theorem rough_layers_settle :
    let once := (loud.applyOverrides roughEnvironment []).1
    once.check ≠ .ok () ∧ once ≠ loud ∧ (once.applyOverrides roughEnvironment []).1 = once ∧
      (ownRegistry.applyOverrides roughEnvironment []).1 = ownRegistry := by
  intro once
  have hlevel : once.field? .logLevel = some (.text "loud") := by
    rw [field?_applyOverrides]
    decide +kernel
  obtain ⟨hsettled, hloaded⟩ := layers_settle roughEnvironment [] loud
  refine ⟨?_, ?_, hsettled, ?_⟩
  · intro hcheck
    have hsound := (check_ok_iff once).mp hcheck .logLevel
    rw [hlevel] at hsound
    revert hsound
    decide +kernel
  · intro hsame
    rw [hsame] at hlevel
    revert hlevel
    decide
  · have hload : (load { files := [([ConfigFile.usualName], [])] } [] none
        roughEnvironment []).1.toOption = some ownRegistry := by decide +kernel
    cases hresult : (load { files := [([ConfigFile.usualName], [])] } [] none
        roughEnvironment []).1 with
    | error e =>
        rw [hresult] at hload
        cases hload
    | ok s =>
        rw [hresult] at hload
        obtain rfl := Option.some.inj hload
        exact (hloaded _ _ _ _ hresult).1

/-- To resolve keys leaves a field alone that the layers would leave as it is. -/
theorem field?_resolveKeys_settled (keys : List ConfigKey)
    (hfield : s.field? key = s.outcome? env overrides key) :
    (resolveKeys env overrides keys s).1.field? key = s.field? key := by
  induction keys generalizing s with
  | nil => rfl
  | cons first keys ih =>
      have hstep : (s.resolveKey env overrides first).1.field? key = s.field? key := by
        rw [field?_resolveKey]
        split
        · rename_i hsame
          rw [← hsame, ← hfield]
        · rfl
      have hnext : (s.resolveKey env overrides first).1.field? key =
          (s.resolveKey env overrides first).1.outcome? env overrides key := by
        rw [outcome?_congr env overrides hstep, hstep, hfield]
      rw [resolveKeys, ih hnext, hstep]

/-- To resolve keys, in any order and however often each, makes of the field of each what
the layers make of it. -/
theorem field?_resolveKeys_of_mem (s : Settings) {keys : List ConfigKey} (hkey : key ∈ keys) :
    (resolveKeys env overrides keys s).1.field? key = s.outcome? env overrides key := by
  induction keys generalizing s with
  | nil => cases hkey
  | cons first keys ih =>
      have hstep := s.field?_resolveKey env overrides first key
      rw [resolveKeys]
      by_cases hfirst : key = first
      · -- The key may come up again, but from now on its field is settled.
        subst hfirst
        rw [if_pos rfl] at hstep
        rw [field?_resolveKeys_settled keys (outcome?_settled hstep).symm, hstep]
      · rw [if_neg hfirst] at hstep
        rw [ih _ ((List.mem_cons.mp hkey).resolve_left hfirst),
          outcome?_congr env overrides hstep]

/-- Two runs that agree on the field, the variable and the override of a key leave the same
in its field, whatever else they differ in.  And the keys may be resolved in any order, and
more than once, as long as none is left out. -/
theorem settings_apart (env env' : Environment) (overrides overrides' : Overrides)
    (s t : Settings) :
    (∀ key : ConfigKey, s.field? key = t.field? key → env key.envVar = env' key.envVar →
      overrides.get? key.name = overrides'.get? key.name →
        (s.applyOverrides env overrides).1.field? key =
          (t.applyOverrides env' overrides').1.field? key) ∧
      ∀ keys : List ConfigKey, (∀ key, key ∈ keys) →
        (resolveKeys env overrides keys s).1 = (s.applyOverrides env overrides).1 := by
  constructor
  · intro key hfield henv hoverride
    rw [field?_applyOverrides, field?_applyOverrides,
      outcome?_congr_of_layers hfield henv hoverride]
  · intro keys hall
    apply ext_field?
    intro key
    rw [field?_resolveKeys_of_mem s (hall key), field?_applyOverrides]

def givesAlways (text : String) : Environment := fun _ => some text

/-- Two runs that agree on the port alone end with the same port, and with different names;
from the last key to the first the one ends as from the first to the last. -/
theorem port_apart :
    let left := (ownRegistry.applyOverrides (givesPort " 9000 ") [("log_level", "Debug")]).1
    let right := (applyOverrides {} (givesAlways " 9000 ") []).1
    left.field? .httpPort = right.field? .httpPort ∧
      left.field? .agentName ≠ right.field? .agentName ∧
      (resolveKeys (givesPort " 9000 ") [("log_level", "Debug")] ConfigKey.all.reverse
        ownRegistry).1 = left := by
  intro left right
  obtain ⟨hport, horder⟩ := settings_apart (givesPort " 9000 ") (givesAlways " 9000 ")
    [("log_level", "Debug")] [] ownRegistry {}
  refine ⟨hport .httpPort rfl rfl (by decide), ?_, ?_⟩
  · rw [field?_applyOverrides, field?_applyOverrides]
    decide +kernel
  · exact horder _ fun key => List.mem_reverse.mpr key.mem_all

end Settings

end CapabilityMesh
