/-
What the layers can do to settings that are sound as a whole.  A key's check and the check
of its field agree for all keys but two: a port may be zero for the one and not for the
other, and a log level may be any text for the one but not for the other.
-/
import CapabilityMesh.Config.Check
import CapabilityMesh.Proofs.Config.Precedence

namespace CapabilityMesh

namespace FieldValue

/-- Whether a value is text that names a web address. -/
def isWebAddress : FieldValue → Bool
  | text content => (Url.parse content).toOption.any Url.isWeb
  | _ => false

theorem isWebAddress_iff {text : String} :
    (FieldValue.text text).isWebAddress = true ↔
      ∃ u, Url.parse text = .ok u ∧ u.isWeb = true := by
  rw [isWebAddress]
  cases Url.parse text <;> simp [Except.toOption]

def isMoreThanBlank : FieldValue → Bool
  | text content => !Text.isBlankText content
  | _ => false

/-- Whether a value is a number other than zero. -/
def isPositive : FieldValue → Bool
  | word64 n => n != 0
  | word32 n => n != 0
  | word16 n => n != 0
  | _ => false

def isLevel : FieldValue → Bool
  | text content => Settings.levelNames.contains (Text.lower content)
  | _ => false

end FieldValue

namespace ConfigKey

/-- Whether the check of settings as a whole has no problem with a key's field. -/
def isSound : ConfigKey → FieldValue → Bool
  | registryUrl, value | endpoint, value => value.isWebAddress
  | agentName, value | agentId, value | agentNamespace, value | agentVersion, value
  | httpHost, value => value.isMoreThanBlank
  | requestTimeoutMs, value | probeTimeoutMs, value | healthInterval, value
  | missedThreshold, value | httpPort, value => value.isPositive
  | logLevel, value => value.isLevel
  | standalone, _ | shutdownGraceMs, _ | deregisterOnShutdown, _ | logJson, _ => true

end ConfigKey

namespace Settings

theorem urlFaults_eq_nil (field value : String) :
    urlFaults field value = [] ↔ (FieldValue.text value).isWebAddress = true := by
  rw [urlFaults, FieldValue.isWebAddress]
  cases Url.parse value with
  | error fault => simp [Except.toOption]
  | ok u => cases hweb : u.isWeb <;> simp [Except.toOption, hweb]

theorem blankFaults_eq_nil (field value : String) :
    blankFaults field value = [] ↔ (FieldValue.text value).isMoreThanBlank = true := by
  rw [blankFaults, FieldValue.isMoreThanBlank]
  cases Text.isBlankText value <;> simp

theorem zeroFaults_word64 (field : String) (n : UInt64) :
    zeroFaults field n.toNat = [] ↔ (FieldValue.word64 n).isPositive = true := by
  rw [zeroFaults, FieldValue.isPositive, bne_iff_ne, ne_eq, ← UInt64.toNat_inj]
  split <;> simp_all

theorem zeroFaults_word32 (field : String) (n : UInt32) :
    zeroFaults field n.toNat = [] ↔ (FieldValue.word32 n).isPositive = true := by
  rw [zeroFaults, FieldValue.isPositive, bne_iff_ne, ne_eq, ← UInt32.toNat_inj]
  split <;> simp_all

theorem portFaults_eq_nil (port : UInt16) :
    portFaults port = [] ↔ (FieldValue.word16 port).isPositive = true := by
  rw [portFaults, FieldValue.isPositive]
  split <;> simp_all

theorem idFaults_eq_nil (id : Option String) :
    idFaults id = [] ↔ (id.map FieldValue.text).all FieldValue.isMoreThanBlank = true := by
  cases id with
  | none => simp [idFaults]
  | some id =>
      rw [idFaults, Option.map_some, Option.all_some, FieldValue.isMoreThanBlank]
      cases Text.isBlankText id <;> simp

theorem levelFaults_eq_nil (level : String) :
    levelFaults level = [] ↔ (FieldValue.text level).isLevel = true := by
  rw [levelFaults, FieldValue.isLevel]
  split <;> simp_all

theorem check_ok_iff (s : Settings) :
    s.check = .ok () ↔ ∀ key : ConfigKey, (s.field? key).all key.isSound = true := by
  have hfaults : s.check = .ok () ↔ s.faults = [] := by
    rw [check]
    cases s.faults <;> simp
  rw [hfaults]
  simp only [faults, List.append_eq_nil_iff, urlFaults_eq_nil, blankFaults_eq_nil,
    idFaults_eq_nil, zeroFaults_word64, zeroFaults_word32, portFaults_eq_nil,
    levelFaults_eq_nil]
  constructor
  · rintro ⟨⟨⟨⟨⟨⟨⟨⟨⟨⟨⟨⟨hurl, hendpoint⟩, hname⟩, hnamespace⟩, hversion⟩, hhost⟩, hid⟩,
      hinterval⟩, hthreshold⟩, hrequest⟩, hprobe⟩, hport⟩, hlevel⟩ key
    cases key with
    | endpoint =>
        show (s.agent.endpoint.map FieldValue.text).all FieldValue.isWebAddress = true
        cases hannounced : s.agent.endpoint with
        | none => rfl
        | some endpoint =>
            rw [hannounced] at hendpoint
            exact (urlFaults_eq_nil _ _).mp hendpoint
    | registryUrl => exact hurl
    | agentName => exact hname
    | agentNamespace => exact hnamespace
    | agentVersion => exact hversion
    | httpHost => exact hhost
    | agentId => exact hid
    | healthInterval => exact hinterval
    | missedThreshold => exact hthreshold
    | requestTimeoutMs => exact hrequest
    | probeTimeoutMs => exact hprobe
    | httpPort => exact hport
    | logLevel => exact hlevel
    | standalone | shutdownGraceMs | deregisterOnShutdown | logJson => rfl
  · intro h
    have hendpoint : (s.agent.endpoint.map FieldValue.text).all FieldValue.isWebAddress =
        true := h .endpoint
    refine ⟨⟨⟨⟨⟨⟨⟨⟨⟨⟨⟨⟨h .registryUrl, ?_⟩, h .agentName⟩, h .agentNamespace⟩,
      h .agentVersion⟩, h .httpHost⟩, h .agentId⟩, h .healthInterval⟩, h .missedThreshold⟩,
      h .requestTimeoutMs⟩, h .probeTimeoutMs⟩, h .httpPort⟩, h .logLevel⟩
    split
    · rename_i endpoint hannounced
      rw [hannounced] at hendpoint
      exact (urlFaults_eq_nil _ _).mpr hendpoint
    · rfl

end Settings

namespace ConfigKey

theorem check_url {text : String} :
    ValueKind.url.check text = .ok () ↔ (FieldValue.text text).isWebAddress = true := by
  rw [ValueKind.check.eq_def, FieldValue.isWebAddress]
  cases Url.parse text with
  | error fault => simp [Except.toOption]
  | ok u => cases hweb : u.isWeb <;> simp [Except.toOption, hweb]

theorem isPositive_of_accepts {key : ConfigKey} {raw : String} {value : FieldValue}
    (hkind : key.kind = .positive) (haccepts : key.accepts raw = true)
    (hvalue : key.reading? (Text.trim raw) = some value) : value.isPositive = true := by
  obtain ⟨-, hcheck⟩ := accepts_iff.mp haccepts
  rw [hkind] at hcheck
  obtain ⟨n, hread, hpositive⟩ := check_positive.mp hcheck
  cases key with
  | requestTimeoutMs | probeTimeoutMs | healthInterval | shutdownGraceMs =>
      have hlt := Text.readNumber_lt (by decide) hread
      rw [reading?, Text.readUInt64?, hread] at hvalue
      obtain rfl := Option.some.inj hvalue
      show (n.toUInt64 != 0) = true
      rw [bne_iff_ne, ne_eq, ← UInt64.toNat_inj, Nat.toUInt64, UInt64.toNat_ofNat_of_lt' hlt]
      exact hpositive
  | missedThreshold =>
      obtain ⟨m, hread, hpositive, hreading⟩ := reading?_missedThreshold haccepts
      rw [hvalue] at hreading
      split at hreading
      · rename_i hlt
        obtain rfl := Option.some.inj hreading
        show (m.toUInt32 != 0) = true
        rw [bne_iff_ne, ne_eq, ← UInt32.toNat_inj, Nat.toUInt32, UInt32.toNat_ofNat_of_lt' hlt]
        exact hpositive
      · cases hreading
  | _ => cases hkind

/-- What a key accepts is sound in its field, but for the port and the log level. -/
theorem isSound_of_accepts {key : ConfigKey} {raw : String} {value : FieldValue}
    (hport : key ≠ .httpPort) (hlevel : key ≠ .logLevel) (haccepts : key.accepts raw = true)
    (hvalue : key.reading? (Text.trim raw) = some value) : key.isSound value = true := by
  obtain ⟨hmore, hcheck⟩ := accepts_iff.mp haccepts
  cases key with
  | registryUrl | endpoint =>
      obtain rfl := Option.some.inj hvalue
      have hurl : ValueKind.url.check (Text.trim raw) = .ok () := hcheck
      rw [check_url] at hurl
      rw [isSound]
      exact hurl
  | agentName | agentId | agentNamespace | agentVersion | httpHost =>
      obtain rfl := Option.some.inj hvalue
      show (!Text.isBlankText (Text.trim raw)) = true
      rw [Text.isBlankText_trim hmore]
      rfl
  | requestTimeoutMs | probeTimeoutMs | healthInterval | missedThreshold =>
      rw [isSound]
      exact isPositive_of_accepts rfl haccepts hvalue
  | httpPort => exact absurd rfl hport
  | logLevel => exact absurd rfl hlevel
  | standalone | shutdownGraceMs | deregisterOnShutdown | logJson => rfl

theorem isSound_httpPort_iff (text : String) :
    (httpPort.reading? text).all httpPort.isSound = true ↔
      Text.readNumber UInt16.size text ≠ .ok 0 := by
  rw [reading?, Text.readUInt16?]
  cases hread : Text.readNumber UInt16.size text with
  | error fault => simp [Except.toOption]
  | ok n =>
      have hlt := Text.readNumber_lt (by decide) hread
      show (n.toUInt16 != 0) = true ↔ _
      rw [bne_iff_ne, ne_eq, ← UInt16.toNat_inj, Nat.toUInt16, UInt16.toNat_ofNat_of_lt' hlt]
      simp

theorem isSound_logLevel_iff (text : String) :
    (logLevel.reading? text).all logLevel.isSound = true ↔
      Settings.levelNames.contains (Text.lower text) = true := by
  rw [reading?, Option.all_some, isSound, FieldValue.isLevel]

end ConfigKey

namespace Settings

variable {env : Environment} {overrides : Overrides}

variable (env overrides) in
/-- What the layers make of a sound field is sound if what can be read from the winner is. -/
theorem outcome?_isSound_iff {s : Settings} {key : ConfigKey}
    (hfield : (s.field? key).all key.isSound = true) :
    (s.outcome? env overrides key).all key.isSound = true ↔
      ∀ raw, key.accepted? (s.candidates env overrides key) = some raw →
        (key.reading? (Text.trim raw)).all key.isSound = true := by
  rw [outcome?]
  cases key.accepted? (s.candidates env overrides key) with
  | none => simpa using hfield
  | some raw =>
      simp only [Option.bind_some, Option.some.injEq, forall_eq']
      cases key.reading? (Text.trim raw) with
      | none => simpa using hfield
      | some value => simp

/-- The layers leave sound settings sound if, and only if, the text that wins for the port
is not zero and the text that wins for the log level is a level. -/
theorem check_after_overrides_iff {s : Settings} (env : Environment) (overrides : Overrides)
    (hs : s.check = .ok ()) :
    (s.applyOverrides env overrides).1.check = .ok () ↔
      (∀ raw, ConfigKey.httpPort.accepted? (s.candidates env overrides .httpPort) = some raw →
          Text.readNumber UInt16.size (Text.trim raw) ≠ .ok 0) ∧
        ∀ raw, ConfigKey.logLevel.accepted? (s.candidates env overrides .logLevel) = some raw →
          levelNames.contains (Text.lower (Text.trim raw)) = true := by
  rw [check_ok_iff] at hs ⊢
  have hport := outcome?_isSound_iff env overrides (hs .httpPort)
  have hlevel := outcome?_isSound_iff env overrides (hs .logLevel)
  simp only [ConfigKey.isSound_httpPort_iff] at hport
  simp only [ConfigKey.isSound_logLevel_iff] at hlevel
  simp only [field?_applyOverrides]
  constructor
  · intro h
    exact ⟨hport.mp (h .httpPort), hlevel.mp (h .logLevel)⟩
  · rintro ⟨hports, hlevels⟩ key
    by_cases hkeyPort : key = .httpPort
    · rw [hkeyPort]
      exact hport.mpr hports
    · by_cases hkeyLevel : key = .logLevel
      · rw [hkeyLevel]
        exact hlevel.mpr hlevels
      · rw [outcome?_isSound_iff env overrides (hs key)]
        intro raw hraw
        cases hvalue : key.reading? (Text.trim raw) with
        | none => rfl
        | some value =>
            exact ConfigKey.isSound_of_accepts hkeyPort hkeyLevel (List.find?_some hraw) hvalue

def givesPort (port : String) : Environment := fun name =>
  if name = "MESH_HTTP_PORT" then some port else none

/-- The built-in settings, with a registry on the same machine. -/
def ownRegistry : Settings where
  registry := { url := "http://[::1]:8000" }

theorem ownRegistry_sound : ownRegistry.check = .ok () := by
  rw [check_ok_iff]
  intro key
  cases key <;> decide +kernel

/-- A port and a level that are sound leave sound settings sound. -/
theorem sound_with_port_and_level :
    (ownRegistry.applyOverrides (givesPort " 9000 ") [("log_level", "Debug")]).1.check =
      .ok () := by
  rw [check_after_overrides_iff _ _ ownRegistry_sound]
  have hport : ConfigKey.httpPort.accepted?
      (ownRegistry.candidates (givesPort " 9000 ") [("log_level", "Debug")] .httpPort) =
        some " 9000 " := by decide +kernel
  have hlevel : ConfigKey.logLevel.accepted?
      (ownRegistry.candidates (givesPort " 9000 ") [("log_level", "Debug")] .logLevel) =
        some "Debug" := by decide +kernel
  rw [hport, hlevel]
  simp only [Option.some.injEq, forall_eq']
  exact ⟨fun hzero => absurd (congrArg Except.toOption hzero) (by decide +kernel),
    by decide +kernel⟩

/-- A port of zero breaks sound settings. -/
theorem port_zero_breaks_settings :
    ¬ ∀ (s : Settings) (env : Environment) (overrides : Overrides), s.check = .ok () →
      (s.applyOverrides env overrides).1.check = .ok () := by
  intro h
  have hport := (check_ok_iff _).mp (h ownRegistry (givesPort "0") [] ownRegistry_sound) .httpPort
  rw [field?_applyOverrides] at hport
  revert hport
  decide +kernel

end Settings

end CapabilityMesh
