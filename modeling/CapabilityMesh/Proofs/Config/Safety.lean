/-
Settings that were loaded are safe to run with.  Each field was either read from a text that
its key accepts or was checked at the end, and where neither alone is enough, a value that
passes the check would have been accepted.
-/
import CapabilityMesh.Agent.Identity
import CapabilityMesh.Config.Source
import CapabilityMesh.Proofs.Config.Soundness
import CapabilityMesh.Proofs.Url.OuterBlanks
import CapabilityMesh.Simulation.Loops

namespace CapabilityMesh

namespace FieldValue

theorem one_le_word64 {n : UInt64} (h : (word64 n).isPositive = true) : 1 ≤ n := by
  rw [isPositive, bne_iff_ne, ne_eq, ← UInt64.toNat_inj] at h
  rw [UInt64.le_iff_toNat_le]
  exact Nat.one_le_iff_ne_zero.mpr h

theorem one_le_word32 {n : UInt32} (h : (word32 n).isPositive = true) : 1 ≤ n := by
  rw [isPositive, bne_iff_ne, ne_eq, ← UInt32.toNat_inj] at h
  rw [UInt32.le_iff_toNat_le]
  exact Nat.one_le_iff_ne_zero.mpr h

theorem one_le_word16 {n : UInt16} (h : (word16 n).isPositive = true) : 1 ≤ n := by
  rw [isPositive, bne_iff_ne, ne_eq, ← UInt16.toNat_inj] at h
  rw [UInt16.le_iff_toNat_le]
  exact Nat.one_le_iff_ne_zero.mpr h

end FieldValue

namespace ConfigKey

theorem reading?_text {key : ConfigKey} (hkind : key.kind = .text ∨ key.kind = .url)
    (text : String) : key.reading? text = some (.text text) := by
  cases key with
  | registryUrl | agentName | agentId | agentNamespace | agentVersion | httpHost | endpoint
  | logLevel => rfl
  | _ => exact absurd hkind (by decide)

theorem isSound_url {key : ConfigKey} (hkind : key.kind = .url) (value : FieldValue) :
    key.isSound value = value.isWebAddress := by
  cases key with
  | registryUrl | endpoint => rfl
  | _ => cases hkind

theorem isSound_text {key : ConfigKey} (hkind : key.kind = .text) (hlevel : key ≠ .logLevel)
    (value : FieldValue) : key.isSound value = value.isMoreThanBlank := by
  cases key with
  | agentName | agentId | agentNamespace | agentVersion | httpHost => rfl
  | logLevel => exact absurd rfl hlevel
  | _ => cases hkind

/-- A text that is sound in its field is one that the key accepts, as long as the key asks
for no more than that. -/
theorem accepts_of_isSound {key : ConfigKey} {text : String}
    (hkind : key.kind = .text ∧ key ≠ .logLevel ∨ key.kind = .url)
    (hsound : key.isSound (.text text) = true) : key.accepts text = true := by
  rw [accepts_iff, Text.isEmpty_trim]
  rcases hkind with ⟨hkind, hlevel⟩ | hkind
  · rw [isSound_text hkind hlevel, FieldValue.isMoreThanBlank] at hsound
    refine ⟨by simpa using hsound, ?_⟩
    rw [hkind]
    rfl
  · rw [isSound_url hkind] at hsound
    obtain ⟨u, hread, hweb⟩ := FieldValue.isWebAddress_iff.mp hsound
    obtain ⟨v, hread, hweb⟩ := Url.parse_trim hread hweb
    constructor
    · rw [← Text.isEmpty_trim, Bool.eq_false_iff, ne_eq, String.isEmpty_iff]
      intro hempty
      rw [hempty] at hread
      cases hread
    · rw [hkind, check_url]
      exact FieldValue.isWebAddress_iff.mpr ⟨v, hread, hweb⟩

end ConfigKey

namespace Settings

/-- Text that is not empty and has no outer blanks. -/
def IsName (text : String) : Prop :=
  Text.trim text = text ∧ text ≠ ""

/-- Text that is a web address and has no outer blanks. -/
def IsAddress (text : String) : Prop :=
  Text.trim text = text ∧
    ∃ u, Url.parse text = .ok u ∧ (u.scheme = "http" ∨ u.scheme = "https")

/-- Settings that an agent can run with. -/
structure SafeToRun (s : Settings) : Prop where
  interval : 1 ≤ s.heartbeat.intervalSecs
  missedThreshold : 1 ≤ s.heartbeat.missedThreshold
  shutdownGrace : 1 ≤ s.heartbeat.shutdownGraceMs
  requestTimeout : 1 ≤ s.registry.requestTimeoutMs
  probeTimeout : 1 ≤ s.registry.probeTimeoutMs
  port : 1 ≤ s.agent.httpPort
  /-- No loop of an agent with these settings fails for want of a period. -/
  ticks : 0 < (HeartbeatPolicy.ofSettings s.heartbeat).interval ∧
    ∀ (w : Simulation.World) (slot : Simulation.AgentSlot),
      slot.agent.policy = HeartbeatPolicy.ofSettings s.heartbeat →
        w.afterRegistration slot ≠ .ended false
  registryUrl : IsAddress s.registry.url
  endpoint : ∀ endpoint, s.agent.endpoint = some endpoint → IsAddress endpoint
  name : IsName s.agent.name
  agentNamespace : IsName s.agent.agentNamespace
  version : IsName s.agent.version
  httpHost : IsName s.agent.httpHost
  id : ∀ id, s.agent.id = some id → IsName id
  level : Text.lower s.logging.level ∈ levelNames
  announces : s.announcedEndpoint ≠ ""

variable {s base : Settings} {env : Environment} {overrides : Overrides}

theorem finish_eq_ok (h : (base.finish env overrides).1 = .ok s) :
    s = (base.applyOverrides env overrides).1 ∧ s.check = .ok () := by
  rw [finish] at h
  generalize base.applyOverrides env overrides = applied at h
  obtain ⟨t, log⟩ := applied
  simp only at h
  cases hcheck : t.check with
  | error e =>
      rw [hcheck] at h
      cases h
  | ok _ =>
      rw [hcheck] at h
      obtain rfl := Except.ok.inj h
      exact ⟨rfl, hcheck⟩

/-- Whatever settings are loaded come from some that were read, below the other layers. -/
theorem load_eq_ok {tree : FileTree} {folder : FilePath} {given : Option String}
    (h : (load tree folder given env overrides).1 = .ok s) :
    ∃ base : Settings, s = (base.applyOverrides env overrides).1 ∧ s.check = .ok () := by
  rw [load.eq_def] at h
  simp only at h
  split at h
  · cases h
  · simp only at h
    exact ⟨{}, finish_eq_ok h⟩
  · split at h
    · cases h
    · rename_i base _
      simp only at h
      exact ⟨base, finish_eq_ok h⟩

/-- A text that is left in its field by the layers, and sound, is more than blanks and has
no outer blanks. -/
theorem isName_of_sound {key : ConfigKey} {text : String}
    (hkind : key.kind = .text ∧ key ≠ .logLevel ∨ key.kind = .url)
    (hsound : key.isSound (.text text) = true)
    (hfield : (base.applyOverrides env overrides).1.field? key = some (.text text)) :
    IsName text := by
  have hreading := ConfigKey.reading?_text (hkind.imp And.left id)
  have haccepts := ConfigKey.accepts_of_isSound hkind hsound
  obtain ⟨raw, hraw, htext⟩ : ∃ raw, key.accepts raw = true ∧ Text.trim raw = text := by
    rw [field?_applyOverrides, outcome?] at hfield
    cases hoffer : key.accepted? (base.candidates env overrides key) with
    | some raw =>
        rw [hoffer, Option.bind_some, hreading, Option.some_or] at hfield
        refine ⟨raw, ?_, FieldValue.text.inj (Option.some.inj hfield)⟩
        rw [ConfigKey.accepted?] at hoffer
        exact List.find?_some hoffer
    | none =>
        -- The old value would have been accepted, as the last but one on offer.
        rw [hoffer, Option.bind_none, Option.none_or] at hfield
        rw [ConfigKey.accepted?, List.find?_eq_none] at hoffer
        refine absurd haccepts (hoffer text ?_)
        have hold : base.get? key = some text := by
          rw [get?_eq, hfield]
          rfl
        exact List.mem_filterMap.mpr ⟨⟨.fallback, base.get? key⟩, by simp [candidates], hold⟩
  obtain ⟨hmore, -⟩ := ConfigKey.accepts_iff.mp hraw
  rw [htext] at hmore
  refine ⟨?_, by simpa using hmore⟩
  rw [← htext, Text.trim_trim]

/-- An address that is left in its field by the layers, and sound, has no outer blanks. -/
theorem isAddress_of_sound {key : ConfigKey} {text : String} (hkind : key.kind = .url)
    (hsound : key.isSound (.text text) = true)
    (hfield : (base.applyOverrides env overrides).1.field? key = some (.text text)) :
    IsAddress text := by
  have htrim := (isName_of_sound (Or.inr hkind) hsound hfield).1
  rw [ConfigKey.isSound_url hkind] at hsound
  obtain ⟨u, hread, hweb⟩ := FieldValue.isWebAddress_iff.mp hsound
  exact ⟨htrim, u, hread, Url.isWeb_iff.mp hweb⟩

/-- The layers leave a grace that is positive, since the built-in one is. -/
theorem isPositive_shutdownGrace :
    (FieldValue.word64
      (base.applyOverrides env overrides).1.heartbeat.shutdownGraceMs).isPositive = true := by
  have hfield := base.field?_applyOverrides env overrides .shutdownGraceMs
  rw [outcome?] at hfield
  cases hoffer : ConfigKey.shutdownGraceMs.accepted?
      (base.candidates env overrides .shutdownGraceMs) with
  | none =>
      rw [ConfigKey.accepted?, List.find?_eq_none] at hoffer
      have hbuiltin : ConfigKey.shutdownGraceMs.accepts "2000" = true := by decide +kernel
      refine absurd hbuiltin (hoffer "2000" (List.mem_filterMap.mpr
        ⟨⟨.fallback, ConfigKey.shutdownGraceMs.builtin?⟩, by simp [candidates], rfl⟩))
  | some raw =>
      have haccepts : ConfigKey.shutdownGraceMs.accepts raw = true := List.find?_some hoffer
      obtain ⟨value, hvalue⟩ := ConfigKey.reading?_of_accepts (by decide) haccepts
      rw [hoffer, Option.bind_some, hvalue, Option.some_or] at hfield
      rw [Option.some.inj hfield]
      exact ConfigKey.isPositive_of_accepts rfl haccepts hvalue

theorem announcedEndpoint_ne (s : Settings) : s.announcedEndpoint ≠ "" := by
  have hlistening : announcedEndpoint.listening s ≠ "" := by
    rw [announcedEndpoint.listening, ne_eq, String.append_eq_empty_iff]
    rintro ⟨hnone, -⟩
    rw [String.append_eq_empty_iff, String.append_eq_empty_iff] at hnone
    exact absurd hnone.1.1 (by decide)
  rw [announcedEndpoint]
  split
  · split
    · exact hlistening
    · rename_i hne
      simpa using hne
  · exact hlistening

/-- Settings that are loaded, whatever files there are and whatever the environment and the
program give, are safe to run with. -/
theorem load_safe {tree : FileTree} {folder : FilePath} {given : Option String}
    (h : (load tree folder given env overrides).1 = .ok s) : SafeToRun s := by
  obtain ⟨base, hs, hcheck⟩ := load_eq_ok h
  have hsound := (check_ok_iff s).mp hcheck
  have hfields : ∀ (key : ConfigKey) {text : String}, s.field? key = some (.text text) →
      key.isSound (.text text) = true ∧
        (base.applyOverrides env overrides).1.field? key = some (.text text) := by
    intro key text hfield
    have hall := hsound key
    rw [hfield] at hall
    exact ⟨hall, hs ▸ hfield⟩
  have hname : ∀ (key : ConfigKey) {text : String}, key.kind = .text ∧ key ≠ .logLevel →
      s.field? key = some (.text text) → IsName text := fun key _ hkind hfield =>
    isName_of_sound (Or.inl hkind) (hfields key hfield).1 (hfields key hfield).2
  have haddress : ∀ (key : ConfigKey) {text : String}, key.kind = .url →
      s.field? key = some (.text text) → IsAddress text := fun key _ hkind hfield =>
    isAddress_of_sound hkind (hfields key hfield).1 (hfields key hfield).2
  have hinterval : 1 ≤ s.heartbeat.intervalSecs :=
    FieldValue.one_le_word64 (hsound .healthInterval)
  have hperiod : 0 < (HeartbeatPolicy.ofSettings s.heartbeat).interval := by
    have hseconds : 1 ≤ s.heartbeat.intervalSecs.toNat := UInt64.le_iff_toNat_le.mp hinterval
    rw [HeartbeatPolicy.ofSettings]
    exact Nat.mul_pos hseconds (by decide)
  exact
    { interval := hinterval
      missedThreshold := FieldValue.one_le_word32 (hsound .missedThreshold)
      shutdownGrace := by
        rw [hs]
        exact FieldValue.one_le_word64 isPositive_shutdownGrace
      requestTimeout := FieldValue.one_le_word64 (hsound .requestTimeoutMs)
      probeTimeout := FieldValue.one_le_word64 (hsound .probeTimeoutMs)
      port := FieldValue.one_le_word16 (hsound .httpPort)
      ticks := by
        refine ⟨hperiod, fun w slot hpolicy => ?_⟩
        rw [Simulation.World.afterRegistration, hpolicy, if_neg hperiod.ne']
        split <;> nofun
      registryUrl := haddress .registryUrl rfl rfl
      endpoint := fun endpoint hendpoint =>
        haddress .endpoint rfl (by rw [field?, hendpoint]; rfl)
      name := hname .agentName ⟨rfl, by decide⟩ rfl
      agentNamespace := hname .agentNamespace ⟨rfl, by decide⟩ rfl
      version := hname .agentVersion ⟨rfl, by decide⟩ rfl
      httpHost := hname .httpHost ⟨rfl, by decide⟩ rfl
      id := fun id hid =>
        hname .agentId ⟨rfl, by decide⟩ (by rw [field?, hid]; rfl)
      level := List.contains_iff_mem.mp (hsound .logLevel)
      announces := s.announcedEndpoint_ne }

/-- An environment whose registry has outer blanks, and where shutdowns wait for nothing. -/
def roughEnvironment : Environment := fun name =>
  if name = "MESH_REGISTRY_URL" then some " http://[::1]:8000 "
  else if name = "MESH_SHUTDOWN_GRACE_MS" then some "0"
  else none

/-- Both are put right when settings are loaded, here below an empty file. -/
theorem roughEnvironment_safe :
    let tree : FileTree := { files := [([ConfigFile.usualName], [])] }
    (load tree [] none roughEnvironment []).1.toOption = some ownRegistry ∧
      SafeToRun ownRegistry := by
  intro tree
  have hload : (load tree [] none roughEnvironment []).1.toOption = some ownRegistry := by
    decide +kernel
  refine ⟨hload, ?_⟩
  cases hresult : (load tree [] none roughEnvironment []).1 with
  | error e =>
      rw [hresult] at hload
      cases hload
  | ok s =>
      rw [hresult] at hload
      exact Option.some.inj hload ▸ load_safe hresult

end Settings

end CapabilityMesh
