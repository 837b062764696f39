/-
What the report of faulty settings tells of the addresses that were given.  An address that
its key refuses is passed over, and the registry always has the built-in one to fall back
on.  But a refused endpoint of a file stays in its field where no layer has a better one,
and then the report shows it as it stands, credentials and all.
-/
import CapabilityMesh.Proofs.Config.Builtin
import CapabilityMesh.Proofs.Config.Layering
import CapabilityMesh.Proofs.Config.Origin

namespace CapabilityMesh

/-- Lines with another one before them tell which one that is. -/
theorem intercalate_toList_inj {first second : Option String} {lines : List String}
    (hfirst : first.toList ++ lines ≠ []) (hsecond : second.toList ++ lines ≠ []) :
    "\n".intercalate (first.toList ++ lines) = "\n".intercalate (second.toList ++ lines) ↔
      first = second := by
  refine ⟨fun h => ?_, fun h => by rw [h]⟩
  have hlonger (line next : String) (more : List String) :
      "\n".intercalate (line :: next :: more) ≠ "\n".intercalate (next :: more) := by
    intro heq
    have hlength := congrArg String.length heq
    rw [String.intercalate_cons_cons, String.length_append, String.length_append] at hlength
    have hbreak : "\n".length = 1 := by decide
    omega
  cases lines with
  | nil =>
      cases first with
      | none => exact absurd rfl hfirst
      | some line =>
          cases second with
          | none => exact absurd rfl hsecond
          | some other =>
              have hlines : "\n".intercalate [line] = "\n".intercalate [other] := h
              rw [String.intercalate_singleton, String.intercalate_singleton] at hlines
              rw [hlines]
  | cons next more =>
      cases first with
      | none =>
          cases second with
          | none => rfl
          | some other => exact absurd h.symm (hlonger other next more)
      | some line =>
          cases second with
          | none => exact absurd h (hlonger line next more)
          | some other =>
              have hlines : "\n".intercalate (line :: next :: more) =
                  "\n".intercalate (other :: next :: more) := h
              rw [String.intercalate_cons_cons, String.intercalate_cons_cons,
                String.append_left_inj, String.append_left_inj] at hlines
              rw [hlines]

namespace Url

/-- Two values are the same, or they are addresses that differ in no more than their
credentials. -/
def SameButCredentials (a b : Option String) : Prop :=
  a = b ∨ ∃ text other u v, a = some text ∧ b = some other ∧ parse text = .ok u ∧
    parse other = .ok v ∧
      { u with username := "", password := "" } = { v with username := "", password := "" }

/-- A scheme has letters, digits and three signs, but no bracket. -/
theorem scheme_no_bracket {s : String} {u : Url} (hread : parse s = .ok u) :
    ')' ∉ u.scheme.toList := by
  rw [parse] at hread
  split at hread
  · rename_i scheme cs hscheme
    rw [scheme_readBehindScheme hread]
    obtain ⟨name, -, -, hname, rfl⟩ := readScheme?_iff.mp hscheme
    rw [String.toList_ofList, List.mem_map]
    rintro ⟨c, hc, hlower⟩
    rw [Text.lowerAscii] at hlower
    split at hlower
    · rename_i hcapital
      have hlow : 65 ≤ c.toNat := hcapital.1
      have hhigh : c.toNat ≤ 90 := hcapital.2
      rw [Char.ofNat, dif_pos (Or.inl (by omega))] at hlower
      have hcode : c.toNat + 32 = 41 := congrArg Char.toNat hlower
      omega
    · exact absurd (hlower ▸ hname c hc) (by decide)
  · cases hread

end Url

namespace SettingsFault

def addressReason (value : String) : String :=
  match Url.parse value with
  | .ok u => s!"scheme must be http or https, got '{u.scheme}'"
  | .error fault => fault.message

def badEndpoint (value : String) : SettingsFault :=
  .badUrl "agent.endpoint" value (addressReason value)

def line (p : SettingsFault) : String := "  - " ++ p.message

theorem addressReason_no_bracket (value : String) : ')' ∉ (addressReason value).toList := by
  rw [addressReason]
  cases hread : Url.parse value with
  | error fault => cases fault <;> decide
  | ok u =>
      have hscheme := Url.scheme_no_bracket hread
      simp only [toString, String.toList_append, List.mem_append, not_or]
      exact ⟨⟨by decide, hscheme⟩, by decide⟩

theorem line_badEndpoint (value : String) :
    (badEndpoint value).line = "  - " ++ ("Invalid URL for " ++ ("agent.endpoint" ++ (" ('" ++
      (value ++ ("'): " ++ addressReason value))))) := by
  simp only [← String.append_assoc]
  rfl

/-- The line about an endpoint tells it, as what stands before the last bracket. -/
theorem line_badEndpoint_injective :
    Function.Injective fun value => (badEndpoint value).line := by
  intro value other h
  have hvalues : value ++ ("'): " ++ addressReason value) =
      other ++ ("'): " ++ addressReason other) := by
    simpa only [line_badEndpoint, String.append_right_inj] using h
  have hbehind (value : String) : ∀ c ∈ (addressReason value).toList.reverse ++ [' ', ':'],
      (c == ')') = false := by
    intro c hc
    rw [beq_eq_false_iff_ne]
    rintro rfl
    simp [addressReason_no_bracket] at hc
  have hreversed (value : String) : (value ++ ("'): " ++ addressReason value)).toList.reverse =
      ((addressReason value).toList.reverse ++ [' ', ':']) ++
        ')' :: '\'' :: value.toList.reverse := by
    simp
  have hlist := congrArg (fun text => text.toList.reverse) hvalues
  rw [hreversed, hreversed] at hlist
  obtain ⟨-, hbefore⟩ := Url.append_end_inj (hbehind value) (hbehind other)
    (fun c hc => by rw [← Option.some.inj hc]; rfl)
    (fun c hc => by rw [← Option.some.inj hc]; rfl) hlist
  have hvalue := List.reverse_injective (List.cons.inj (List.cons.inj hbefore).2).2
  exact String.toList_inj.mp hvalue

end SettingsFault

namespace ConfigKey

/-- Where no winner is found, nothing on offer is accepted. -/
theorem not_accepts_of_none {key : ConfigKey} {offers : List Candidate} {raw : String}
    (hnone : key.accepted? offers = none) (hraw : some raw ∈ offers.map Candidate.value) :
    key.accepts raw = false := by
  rw [accepted?, List.find?_eq_none] at hnone
  obtain ⟨offer, hoffer, hvalue⟩ := List.mem_map.mp hraw
  exact Bool.eq_false_iff.mpr (hnone raw (List.mem_filterMap.mpr ⟨offer, hoffer, hvalue⟩))

theorem isWebAddress_of_accepts {key : ConfigKey} {raw : String} (hkind : key.kind = .url)
    (haccepts : key.accepts raw = true) :
    (FieldValue.text (Text.trim raw)).isWebAddress = true := by
  obtain ⟨-, hcheck⟩ := accepts_iff.mp haccepts
  rw [hkind] at hcheck
  exact check_url.mp hcheck

end ConfigKey

namespace Settings

variable {env : Environment} {overrides : Overrides} {s t base : Settings}

/-- The endpoint of settings, if the check of settings as a whole refuses it. -/
def refusedEndpoint? (s : Settings) : Option String :=
  s.agent.endpoint.filter fun endpoint => !(FieldValue.text endpoint).isWebAddress

/-- The endpoint that settings keep although its key does not accept it: no layer has a
better one, and none is built in. -/
def keptEndpoint? (s : Settings) (env : Environment) (overrides : Overrides) :
    Option String :=
  if (ConfigKey.endpoint.accepted? (s.candidates env overrides .endpoint)).isNone then
    s.agent.endpoint
  else none

def withBuiltinAddresses (s : Settings) : Settings :=
  { s with
    registry := { s.registry with url := ({} : RegistrySettings).url }
    agent := { s.agent with endpoint := none } }

theorem withBuiltinAddresses_eq
    (hsame : ∀ key : ConfigKey, key.isSensitive = false → s.field? key = t.field? key) :
    s.withBuiltinAddresses = t.withBuiltinAddresses := by
  have hother (s : Settings) (key : ConfigKey) (hkey : key.isSensitive = false) :
      s.withBuiltinAddresses.field? key = s.field? key := by
    cases key <;> first | rfl | cases hkey
  apply ext_field?
  intro key
  cases hkey : key.isSensitive with
  | true =>
      cases key with
      | registryUrl | endpoint => rfl
      | _ => cases hkey
  | false => rw [hother s key hkey, hother t key hkey, hsame key hkey]

theorem urlFaults_eq (field value : String) :
    urlFaults field value =
      if (FieldValue.text value).isWebAddress then []
      else [.badUrl field value (SettingsFault.addressReason value)] := by
  rw [urlFaults, FieldValue.isWebAddress, SettingsFault.addressReason]
  cases Url.parse value with
  | error fault => rfl
  | ok u => cases hweb : u.isWeb <;> simp [Except.toOption, hweb]

/-- Below a registry that can be reached, the problems are the refused endpoint, if there
is one, and those that have nothing to do with addresses. -/
theorem faults_eq (hregistry : (FieldValue.text s.registry.url).isWebAddress = true) :
    s.faults = (s.refusedEndpoint?.map SettingsFault.badEndpoint).toList ++
      s.withBuiltinAddresses.faults := by
  have hbuiltin : urlFaults "registry.url" ({} : RegistrySettings).url = [] := by
    rw [urlFaults_eq_nil, FieldValue.isWebAddress_iff]
    exact ⟨_, Url.parse_localhost, by decide⟩
  rw [faults, faults, (urlFaults_eq_nil _ _).mpr hregistry]
  simp only [withBuiltinAddresses, hbuiltin, List.nil_append, List.append_assoc]
  cases hendpoint : s.agent.endpoint with
  | none => simp only [refusedEndpoint?, hendpoint, Option.filter_none, Option.map_none,
      Option.toList_none, List.nil_append]
  | some endpoint =>
      simp only [refusedEndpoint?, hendpoint, urlFaults_eq, Option.filter_some]
      cases (FieldValue.text endpoint).isWebAddress <;> rfl

theorem check_eq_error {report : String} (h : s.check = .error (.invalidSettings report)) :
    s.faults.map SettingsFault.line ≠ [] ∧
      report = "Configuration validation failed:\n" ++
        "\n".intercalate (s.faults.map SettingsFault.line) := by
  rw [check] at h
  split at h
  · cases h
  · rename_i hfaults
    refine ⟨fun hnil => hfaults (List.map_eq_nil_iff.mp hnil), ?_⟩
    exact (ConfigError.invalidSettings.inj (Except.error.inj h)).symm

/-- The layers leave a registry that can be reached, since the built-in one can. -/
theorem registry_after_overrides (base : Settings) :
    (FieldValue.text (base.applyOverrides env overrides).1.registry.url).isWebAddress =
      true := by
  have hfield := base.field?_applyOverrides env overrides .registryUrl
  rw [outcome?] at hfield
  cases hoffer : ConfigKey.registryUrl.accepted?
      (base.candidates env overrides .registryUrl) with
  | none =>
      have hbuiltin : ConfigKey.registryUrl.accepts "http://localhost:8000" = false :=
        ConfigKey.not_accepts_of_none hoffer (List.mem_of_getLast? rfl)
      rw [ConfigKey.accepts_builtin rfl] at hbuiltin
      cases hbuiltin
  | some raw =>
      have haccepts : ConfigKey.registryUrl.accepts raw = true := List.find?_some hoffer
      rw [hoffer, Option.bind_some, ConfigKey.reading?, Option.some_or] at hfield
      rw [FieldValue.text.inj (Option.some.inj hfield)]
      exact ConfigKey.isWebAddress_of_accepts rfl haccepts

/-- What the check refuses after the layers is what they left in its field. -/
theorem refusedEndpoint?_after_overrides (base : Settings) :
    (base.applyOverrides env overrides).1.refusedEndpoint? =
      base.keptEndpoint? env overrides := by
  have hcontent : Function.Injective FieldValue.text := fun _ _ => FieldValue.text.inj
  have hfield : (base.applyOverrides env overrides).1.agent.endpoint.map FieldValue.text =
      base.outcome? env overrides .endpoint :=
    base.field?_applyOverrides env overrides .endpoint
  rw [outcome?] at hfield
  rw [refusedEndpoint?, keptEndpoint?]
  cases hoffer : ConfigKey.endpoint.accepted? (base.candidates env overrides .endpoint) with
  | some raw =>
      have haccepts : ConfigKey.endpoint.accepts raw = true := List.find?_some hoffer
      have hsound := ConfigKey.isWebAddress_of_accepts rfl haccepts
      rw [hoffer] at hfield
      rw [Option.map_injective hcontent (hfield.trans (Option.map_some ..).symm)]
      simp [hsound]
  | none =>
      rw [hoffer] at hfield
      rw [Option.map_injective hcontent hfield]
      cases hendpoint : base.agent.endpoint with
      | none => rfl
      | some endpoint =>
          have hold : base.get? .endpoint = some endpoint := hendpoint
          have hrefused : ConfigKey.endpoint.accepts endpoint = false :=
            ConfigKey.not_accepts_of_none hoffer (by simp [candidates, hold])
          have hunsound : (FieldValue.text endpoint).isWebAddress = false := by
            rw [Bool.eq_false_iff]
            intro hsound
            have haccepts : ConfigKey.endpoint.accepts endpoint = true :=
              ConfigKey.accepts_of_isSound (Or.inr rfl) (by rw [ConfigKey.isSound, hsound])
            rw [haccepts] at hrefused
            cases hrefused
          simp [hunsound]

/-- Settings that agree on everything but their addresses have the same report exactly if
the same endpoint is refused. -/
theorem report_eq_iff {report report' : String}
    (hs : (FieldValue.text s.registry.url).isWebAddress = true)
    (ht : (FieldValue.text t.registry.url).isWebAddress = true)
    (hsame : ∀ key : ConfigKey, key.isSensitive = false → s.field? key = t.field? key)
    (hreport : s.check = .error (.invalidSettings report))
    (hreport' : t.check = .error (.invalidSettings report')) :
    report = report' ↔ s.refusedEndpoint? = t.refusedEndpoint? := by
  obtain ⟨hfaults, rfl⟩ := check_eq_error hreport
  obtain ⟨hfaults', rfl⟩ := check_eq_error hreport'
  have hlines (s : Settings) (hs : (FieldValue.text s.registry.url).isWebAddress = true) :
      s.faults.map SettingsFault.line =
        (s.refusedEndpoint?.map fun endpoint => (SettingsFault.badEndpoint endpoint).line).toList
          ++ s.withBuiltinAddresses.faults.map SettingsFault.line := by
    rw [faults_eq hs, List.map_append]
    cases s.refusedEndpoint? <;> rfl
  rw [hlines s hs] at hfaults
  rw [hlines t ht, ← withBuiltinAddresses_eq hsame] at hfaults'
  rw [String.append_right_inj, hlines s hs, hlines t ht, ← withBuiltinAddresses_eq hsame,
    intercalate_toList_inj hfaults hfaults']
  exact (Option.map_injective SettingsFault.line_badEndpoint_injective).eq_iff

end Settings

namespace SettingsOrigin

/-- What is offered for a key below the upper layers, in the environment and among the
overrides. -/
def offers (o : SettingsOrigin) (key : ConfigKey) :
    Option FieldValue × Option String × Option String :=
  (o.base.toOption.bind fun s => s.field? key, o.env key.envVar, o.overrides.get? key.name)

/-- The endpoint that stays below the upper layers although its key does not accept it. -/
def keptEndpoint? (o : SettingsOrigin) : Option String :=
  o.base.toOption.bind fun s => s.keptEndpoint? o.env o.overrides

/-- Of two runs that may differ in the addresses they are given, both ended by the check of
settings as a whole, the reports are the same exactly if the same endpoint was kept, though
refused, below the upper layers.  So a report shows no address of the environment, of the
overrides or of a registry, but it does show an endpoint that a file gives and nothing
replaces. -/
theorem report_tells_kept_endpoint {o o' : SettingsOrigin} {report report' : String}
    (hsame : ∀ key : ConfigKey, key.isSensitive = false → o.offers key = o'.offers key)
    (hreport : o.load = .error (.invalidSettings report))
    (hreport' : o'.load = .error (.invalidSettings report')) :
    report = report' ↔ o.keptEndpoint? = o'.keptEndpoint? := by
  obtain ⟨s, hbase, hcheck⟩ := load_eq_invalid hreport
  obtain ⟨t, hbase', hcheck'⟩ := load_eq_invalid hreport'
  rw [keptEndpoint?, keptEndpoint?, hbase, hbase',
    Settings.report_eq_iff s.registry_after_overrides t.registry_after_overrides ?_ hcheck
      hcheck', s.refusedEndpoint?_after_overrides, t.refusedEndpoint?_after_overrides]
  · rfl
  · intro key hkey
    have hoffers := hsame key hkey
    rw [offers, offers, hbase, hbase'] at hoffers
    obtain ⟨hfield, hlayers⟩ := Prod.mk.inj hoffers
    obtain ⟨henv, hoverride⟩ := Prod.mk.inj hlayers
    rw [Settings.field?_applyOverrides, Settings.field?_applyOverrides,
      Settings.outcome?_congr_of_layers hfield henv hoverride]

/-- A run with credentials in every address: a refused one in the file, and others to
replace it and the registry. -/
def givesCredentials (credentials : String) : SettingsOrigin where
  tree := endpointFile ("ftp://" ++ credentials ++ "@[::1]")
  env := givesAddresses ("http://" ++ credentials ++ "@[::1]:8000")
    (some ("http://" ++ credentials ++ "@[::1]"))
  overrides := [("http_port", "0")]

/-- Credentials do not show where the endpoint of the file is replaced. -/
theorem report_hides_replaced :
    ∃ report report', (givesCredentials "user:s3cret").load = .error (.invalidSettings report) ∧
      (givesCredentials "other:word").load = .error (.invalidSettings report') ∧
      report = report' := by
  have hbase : (givesCredentials "user:s3cret").base =
      .ok { agent := { endpoint := some "ftp://user:s3cret@[::1]" } } :=
    base_endpointFile rfl _ _ _
  have hbase' : (givesCredentials "other:word").base =
      .ok { agent := { endpoint := some "ftp://other:word@[::1]" } } :=
    base_endpointFile rfl _ _ _
  have hreport : (givesCredentials "user:s3cret").load = .error (.invalidSettings
      ("Configuration validation failed:\n  - Invalid configuration value for "
        ++ "agent.http_port: must be between 1 and 65535")) := by
    rw [load_eq, hbase]
    decide +kernel
  have hreport' : (givesCredentials "other:word").load = .error (.invalidSettings
      ("Configuration validation failed:\n  - Invalid configuration value for "
        ++ "agent.http_port: must be between 1 and 65535")) := by
    rw [load_eq, hbase']
    decide +kernel
  refine ⟨_, _, hreport, hreport', (report_tells_kept_endpoint ?_ hreport hreport').mpr ?_⟩
  · intro key hkey
    rw [offers, offers, hbase, hbase']
    cases key <;> first | rfl | cases hkey
  · rw [keptEndpoint?, keptEndpoint?, hbase, hbase']
    decide +kernel

/-- A run with credentials in nothing but a refused endpoint, which nothing replaces. -/
def givesRefused (credentials : String) : SettingsOrigin where
  tree := endpointFile ("ftp://" ++ credentials ++ "@[::1]")
  env := givesAddresses "http://[::1]:8000" none

/-- A refused endpoint of a file shows its credentials, although nothing but these may tell
two runs apart. -/
theorem report_shows_credentials :
    ¬ ∀ (o o' : SettingsOrigin) (report report' : String),
      (∀ key : ConfigKey, key.isSensitive = false → o.offers key = o'.offers key) →
      (∀ key : ConfigKey, key.isSensitive = true →
        Url.SameButCredentials (o.base.toOption.bind fun s => s.get? key)
          (o'.base.toOption.bind fun s => s.get? key) ∧
        Url.SameButCredentials (o.env key.envVar) (o'.env key.envVar) ∧
        Url.SameButCredentials (o.overrides.get? key.name) (o'.overrides.get? key.name)) →
      o.load = .error (.invalidSettings report) →
      o'.load = .error (.invalidSettings report') → report = report' := by
  intro h
  have hbase : (givesRefused "user:s3cret").base =
      .ok { agent := { endpoint := some "ftp://user:s3cret@[::1]" } } :=
    base_endpointFile rfl _ _ _
  have hbase' : (givesRefused "user:other").base =
      .ok { agent := { endpoint := some "ftp://user:other@[::1]" } } :=
    base_endpointFile rfl _ _ _
  have hsame := h (givesRefused "user:s3cret") (givesRefused "user:other")
    ("Configuration validation failed:\n  - Invalid URL for agent.endpoint "
      ++ "('ftp://user:s3cret@[::1]'): scheme must be http or https, got 'ftp'")
    ("Configuration validation failed:\n  - Invalid URL for agent.endpoint "
      ++ "('ftp://user:other@[::1]'): scheme must be http or https, got 'ftp'")
    (by
      intro key hkey
      rw [offers, offers, hbase, hbase']
      cases key <;> first | rfl | cases hkey)
    (by
      intro key hkey
      refine ⟨?_, Or.inl rfl, Or.inl rfl⟩
      rw [hbase, hbase']
      cases key with
      | registryUrl => exact Or.inl rfl
      | endpoint =>
          refine Or.inr ⟨_, _, { scheme := "ftp", username := "user", password := "s3cret"
                                 host := some (.address6 [0, 0, 0, 0, 0, 0, 0, 1])
                                 path := .segments [""] },
            { scheme := "ftp", username := "user", password := "other"
              host := some (.address6 [0, 0, 0, 0, 0, 0, 0, 1]), path := .segments [""] },
            rfl, rfl, ?_, ?_, rfl⟩
          · exact eq_ok_of_toOption (by decide +kernel)
          · exact eq_ok_of_toOption (by decide +kernel)
      | _ => cases hkey)
    (by
      rw [load_eq, hbase]
      decide +kernel)
    (by
      rw [load_eq, hbase']
      decide +kernel)
  exact absurd hsame (by decide)

end SettingsOrigin

end CapabilityMesh
