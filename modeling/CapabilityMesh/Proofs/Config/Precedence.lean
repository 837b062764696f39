/-
Which layer a field of settings comes from.  The first text that a key accepts wins, and
its field then holds what can be read from that text.  The checks of all keys but one
accept no text that the field cannot hold; for that one such a text wins all the same, and
the field keeps its old value.
-/
import CapabilityMesh.Proofs.Config.Fields

namespace CapabilityMesh

namespace ConfigKey

theorem mem_all (key : ConfigKey) : key ∈ all := by
  cases key <;> decide

theorem nodup_all : all.Nodup := by decide

def accepts (key : ConfigKey) (raw : String) : Bool :=
  (key.check raw).isOk

/-- The first text on offer that a key accepts. -/
def accepted? (key : ConfigKey) (offers : List Candidate) : Option String :=
  (offers.filterMap Candidate.value).find? key.accepts

/-- What can be read from the first text on offer that a key accepts and its field can
hold. -/
def usable? (key : ConfigKey) (offers : List Candidate) : Option FieldValue :=
  (offers.filterMap Candidate.value).findSome? fun raw =>
    if key.accepts raw then key.reading? (Text.trim raw) else none

/-- Whether a key accepts a text that its field cannot hold. -/
def overflows (key : ConfigKey) (raw : String) : Bool :=
  key.accepts raw && (key.reading? (Text.trim raw)).isNone

theorem accepts_iff {key : ConfigKey} {raw : String} :
    key.accepts raw = true ↔
      (Text.trim raw).isEmpty = false ∧ key.kind.check (Text.trim raw) = .ok () := by
  rw [accepts, check]
  cases hempty : (Text.trim raw).isEmpty with
  | true => simp [Except.isOk, Except.toBool]
  | false =>
      cases key.kind.check (Text.trim raw) <;> simp [Except.isOk, Except.toBool]

theorem firstValid_fst (key : ConfigKey) (offers : List Candidate) :
    (key.firstValid offers).1 = (key.accepted? offers).map Text.trim := by
  induction offers with
  | nil => rfl
  | cons offer offers ih =>
      obtain ⟨source, value⟩ := offer
      cases value with
      | none => exact ih
      | some value =>
          simp only [firstValid, accepted?, List.filterMap_cons, List.find?_cons, accepts]
          cases hcheck : key.check value with
          | ok _ => rfl
          | error refusal => exact ih

theorem usable?_of_accepted {key : ConfigKey} {offers : List Candidate} {raw : String}
    {value : FieldValue} (hraw : key.accepted? offers = some raw)
    (hvalue : key.reading? (Text.trim raw) = some value) :
    key.usable? offers = some value := by
  rw [accepted?, List.find?_eq_some_iff_append] at hraw
  obtain ⟨haccepts, before, after, hoffers, hbefore⟩ := hraw
  rw [usable?, hoffers, List.findSome?_append, List.findSome?_cons, if_pos haccepts, hvalue,
    List.findSome?_eq_none_iff.mpr]
  · rfl
  · intro earlier hearlier
    rw [if_neg]
    simpa using hbefore earlier hearlier

theorem usable?_of_none {key : ConfigKey} {offers : List Candidate}
    (hnone : key.accepted? offers = none) : key.usable? offers = none := by
  rw [accepted?, List.find?_eq_none] at hnone
  rw [usable?, List.findSome?_eq_none_iff]
  intro raw hraw
  rw [if_neg (hnone raw hraw)]

section Kinds

variable {text : String}

theorem check_positive :
    ValueKind.positive.check text = .ok () ↔
      ∃ n, Text.readNumber UInt64.size text = .ok n ∧ n ≠ 0 := by
  rw [ValueKind.check.eq_def]
  cases hread : Text.readNumber UInt64.size text with
  | error fault => simp
  | ok n => cases n <;> simp

theorem check_port :
    ValueKind.port.check text = .ok () ↔ ∃ n, Text.readNumber UInt16.size text = .ok n := by
  rw [ValueKind.check.eq_def]
  cases hread : Text.readNumber UInt16.size text <;> simp

theorem check_boolean :
    ValueKind.boolean.check text = .ok () ↔ ∃ b, readBool? text = some b := by
  rw [ValueKind.check.eq_def]
  cases hread : readBool? text <;> simp

end Kinds

theorem reading?_of_accepts {key : ConfigKey} (hkey : key ≠ .missedThreshold) {raw : String}
    (haccepts : key.accepts raw = true) :
    ∃ value, key.reading? (Text.trim raw) = some value := by
  obtain ⟨-, hcheck⟩ := accepts_iff.mp haccepts
  cases key with
  | requestTimeoutMs | probeTimeoutMs | healthInterval | shutdownGraceMs =>
      obtain ⟨n, hread, -⟩ := check_positive.mp hcheck
      exact ⟨_, by rw [reading?, Text.readUInt64?, hread]; rfl⟩
  | missedThreshold => exact absurd rfl hkey
  | httpPort =>
      obtain ⟨n, hread⟩ := check_port.mp hcheck
      exact ⟨_, by rw [reading?, Text.readUInt16?, hread]; rfl⟩
  | standalone | deregisterOnShutdown | logJson =>
      obtain ⟨b, hread⟩ := check_boolean.mp hcheck
      exact ⟨_, by rw [reading?, hread]; rfl⟩
  | _ => exact ⟨_, rfl⟩

/-- What the threshold's key accepts is a positive number, and its field can hold it if it
is small enough. -/
theorem reading?_missedThreshold {raw : String}
    (haccepts : missedThreshold.accepts raw = true) :
    ∃ n, Text.readNumber UInt64.size (Text.trim raw) = .ok n ∧ n ≠ 0 ∧
      missedThreshold.reading? (Text.trim raw) =
        if n < UInt32.size then some (.word32 n.toUInt32) else none := by
  obtain ⟨-, hcheck⟩ := accepts_iff.mp haccepts
  obtain ⟨n, hread, hpositive⟩ := check_positive.mp hcheck
  refine ⟨n, hread, hpositive, ?_⟩
  rw [reading?, Text.readUInt32?, Text.toOption_readNumber (by decide) (by decide) hread]
  split <;> rfl

/-- One key alone accepts texts that its field cannot hold: numbers that are too large. -/
theorem overflows_iff {key : ConfigKey} {raw : String} :
    key.overflows raw = true ↔
      key = .missedThreshold ∧
        ∃ n, Text.readNumber UInt64.size (Text.trim raw) = .ok n ∧ UInt32.size ≤ n := by
  rw [overflows, Bool.and_eq_true, Option.isNone_iff_eq_none]
  constructor
  · rintro ⟨haccepts, hnone⟩
    by_cases hkey : key = .missedThreshold
    · subst hkey
      obtain ⟨n, hread, -, hreading⟩ := reading?_missedThreshold haccepts
      refine ⟨rfl, n, hread, Nat.le_of_not_lt fun hsmall => ?_⟩
      rw [hreading, if_pos hsmall] at hnone
      cases hnone
    · obtain ⟨value, hvalue⟩ := reading?_of_accepts hkey haccepts
      rw [hvalue] at hnone
      cases hnone
  · rintro ⟨rfl, n, hread, hlarge⟩
    have hpositive : n ≠ 0 := Nat.ne_of_gt (Nat.lt_of_lt_of_le (by decide) hlarge)
    have hmore : (Text.trim raw).isEmpty = false := by
      cases hempty : (Text.trim raw).isEmpty with
      | false => rfl
      | true =>
          rw [String.isEmpty_iff] at hempty
          rw [hempty] at hread
          cases hread
    have haccepts : missedThreshold.accepts raw = true :=
      accepts_iff.mpr ⟨hmore, check_positive.mpr ⟨n, hread, hpositive⟩⟩
    obtain ⟨m, hm, -, hreading⟩ := reading?_missedThreshold haccepts
    obtain rfl : n = m := Except.ok.inj (hread.symm.trans hm)
    exact ⟨haccepts, hreading.trans (if_neg (Nat.not_lt_of_le hlarge))⟩

end ConfigKey

namespace Settings

variable (env : Environment) (overrides : Overrides)

/-- What the layers make of a key's field. -/
def outcome? (s : Settings) (key : ConfigKey) : Option FieldValue :=
  ((key.accepted? (s.candidates env overrides key)).bind fun raw =>
    key.reading? (Text.trim raw)).or (s.field? key)

variable {env overrides} in
/-- What the layers make of a field depends on the field, the variable and the override of
its key alone. -/
theorem outcome?_congr_of_layers {env' : Environment} {overrides' : Overrides}
    {s t : Settings} {key : ConfigKey} (hfield : s.field? key = t.field? key)
    (henv : env key.envVar = env' key.envVar)
    (hoverride : overrides.get? key.name = overrides'.get? key.name) :
    s.outcome? env overrides key = t.outcome? env' overrides' key := by
  rw [outcome?, outcome?, candidates, candidates, s.get?_eq, t.get?_eq, hfield, henv,
    hoverride]

theorem outcome?_congr {s t : Settings} {key : ConfigKey}
    (hsame : s.field? key = t.field? key) :
    s.outcome? env overrides key = t.outcome? env overrides key :=
  outcome?_congr_of_layers hsame rfl rfl

theorem resolveKey_fst (s : Settings) (key : ConfigKey) :
    (s.resolveKey env overrides key).1 =
      ((key.accepted? (s.candidates env overrides key)).map fun raw =>
        s.set key (Text.trim raw)).getD s := by
  have hfirst := key.firstValid_fst (s.candidates env overrides key)
  rw [resolveKey]
  generalize key.firstValid (s.candidates env overrides key) = resolved at hfirst
  obtain ⟨_ | text, log⟩ := resolved
  · rw [Option.map_eq_none_iff.mp hfirst.symm]
    rfl
  · obtain ⟨raw, hraw, rfl⟩ := Option.map_eq_some_iff.mp hfirst.symm
    rw [hraw]
    rfl

theorem field?_resolveKey (s : Settings) (key other : ConfigKey) :
    (s.resolveKey env overrides key).1.field? other =
      if other = key then s.outcome? env overrides key else s.field? other := by
  rw [resolveKey_fst, outcome?]
  cases key.accepted? (s.candidates env overrides key) with
  | none =>
      split
      · rename_i hkey
        rw [hkey]
        rfl
      · rfl
  | some raw =>
      rw [Option.map_some, Option.getD_some, Option.bind_some]
      split
      · rename_i hkey
        rw [hkey, field?_set_self]
      · rename_i hne
        rw [field?_set_of_ne s hne]

theorem field?_resolveKeys (s : Settings) {keys : List ConfigKey} (hkeys : keys.Nodup)
    (other : ConfigKey) :
    (resolveKeys env overrides keys s).1.field? other =
      if other ∈ keys then s.outcome? env overrides other else s.field? other := by
  induction keys generalizing s with
  | nil => rfl
  | cons key keys ih =>
      obtain ⟨hfresh, hrest⟩ := List.nodup_cons.mp hkeys
      have hstep := s.field?_resolveKey env overrides key other
      rw [resolveKeys, ih _ hrest]
      by_cases hkey : other = key
      · subst hkey
        rw [if_neg hfresh, hstep, if_pos rfl, if_pos List.mem_cons_self]
      · rw [if_neg hkey] at hstep
        rw [outcome?_congr env overrides hstep, hstep]
        simp only [List.mem_cons, hkey, false_or]

/-- Every field holds what the layers make of it. -/
theorem field?_applyOverrides (s : Settings) (key : ConfigKey) :
    (s.applyOverrides env overrides).1.field? key = s.outcome? env overrides key := by
  have hall := s.field?_resolveKeys env overrides ConfigKey.nodup_all key
  rw [if_pos key.mem_all] at hall
  exact hall

/-- The field of every key holds what can be read from the first text on offer that the key
accepts and the field can hold, and its old value where there is none; but a number that is
too large for the field shadows all that is below it, and then the field keeps its old
value. -/
theorem field_after_overrides (s : Settings) (key : ConfigKey) :
    let offers := s.candidates env overrides key
    (s.applyOverrides env overrides).1.field? key =
        (if (key.accepted? offers).any key.overflows then none
          else key.usable? offers).or (s.field? key) ∧
      ∀ raw, key.overflows raw = true ↔
        key = .missedThreshold ∧
          ∃ n, Text.readNumber UInt64.size (Text.trim raw) = .ok n ∧ UInt32.size ≤ n := by
  intro offers
  refine ⟨?_, fun raw => ConfigKey.overflows_iff⟩
  rw [field?_applyOverrides, outcome?]
  cases hraw : key.accepted? offers with
  | none => rw [ConfigKey.usable?_of_none hraw]; rfl
  | some raw =>
      have haccepts : key.accepts raw = true := List.find?_some hraw
      cases hvalue : key.reading? (Text.trim raw) with
      | none => simp [ConfigKey.overflows, haccepts, hvalue]
      | some value =>
          simp [ConfigKey.overflows, hvalue, ConfigKey.usable?_of_accepted hraw hvalue]

/-- An environment that asks for more failures than can be counted. -/
def excessiveThreshold : Environment := fun name =>
  if name = "MESH_MISSED_THRESHOLD" then some "4294967296" else none

/-- A threshold that is too large shadows an override that could be used. -/
theorem excess_shadows_override :
    ¬ ∀ (s : Settings) (env : Environment) (overrides : Overrides) (key : ConfigKey),
      (s.applyOverrides env overrides).1.field? key =
        (key.usable? (s.candidates env overrides key)).or (s.field? key) := by
  intro h
  have hthreshold := h {} excessiveThreshold [("missed_threshold", "7")] .missedThreshold
  rw [field?_applyOverrides] at hthreshold
  revert hthreshold
  decide +kernel

end Settings

end CapabilityMesh
