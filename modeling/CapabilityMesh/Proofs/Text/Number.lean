/-
What reading a number depends on.  The limit decides only whether a number is too large:
a number that can be read below one limit can be read below every other that it stays
below, and is the same number.  What is written for a number is read as that number.
-/
import CapabilityMesh.Proofs.Text.Strip
import CapabilityMesh.Text.Number

namespace CapabilityMesh

namespace Text

theorem readDigits_cons (limit value : Nat) (c : Char) (cs : List Char) {n : Nat} :
    readDigits limit value (c :: cs) = .ok n ↔
      ∃ d, digit? c = some d ∧ value * 10 + d < limit ∧
        readDigits limit (value * 10 + d) cs = .ok n := by
  rw [readDigits]
  cases hdigit : digit? c with
  | none => simp
  | some d =>
      by_cases hlimit : value * 10 + d < limit
      · simp [hlimit]
      · simp [hlimit]

/-- Digits only make a number larger. -/
theorem le_of_readDigits {limit value n : Nat} {cs : List Char}
    (hread : readDigits limit value cs = .ok n) : value ≤ n := by
  induction cs generalizing value with
  | nil =>
      obtain rfl := Except.ok.inj hread
      exact Nat.le_refl value
  | cons c cs ih =>
      obtain ⟨d, -, -, hrest⟩ := (readDigits_cons ..).mp hread
      have := ih hrest
      omega

theorem readDigits_lt {limit value n : Nat} {cs : List Char} (hvalue : value < limit)
    (hread : readDigits limit value cs = .ok n) : n < limit := by
  induction cs generalizing value with
  | nil =>
      obtain rfl := Except.ok.inj hread
      exact hvalue
  | cons c cs ih =>
      obtain ⟨d, -, hlimit, hrest⟩ := (readDigits_cons ..).mp hread
      exact ih hlimit hrest

theorem readDigits_limit {limit other value n : Nat} {cs : List Char}
    (hread : readDigits limit value cs = .ok n) (hother : n < other) :
    readDigits other value cs = .ok n := by
  induction cs generalizing value with
  | nil => exact hread
  | cons c cs ih =>
      obtain ⟨d, hdigit, -, hrest⟩ := (readDigits_cons ..).mp hread
      have hle := le_of_readDigits hrest
      exact (readDigits_cons ..).mpr ⟨d, hdigit, by omega, ih hrest⟩

theorem readNumber_lt {limit n : Nat} {s : String} (hlimit : 0 < limit)
    (hread : readNumber limit s = .ok n) : n < limit := by
  rw [readNumber.eq_def] at hread
  split at hread
  · cases hread
  · cases hread
  · exact readDigits_lt hlimit hread
  · exact readDigits_lt hlimit hread

/-- A number stays the same below any other limit that it stays below. -/
theorem readNumber_limit {limit other n : Nat} {s : String}
    (hread : readNumber limit s = .ok n) (hother : n < other) :
    readNumber other s = .ok n := by
  rw [readNumber.eq_def] at hread ⊢
  split at hread
  · cases hread
  · cases hread
  · exact readDigits_limit hread hother
  · exact readDigits_limit hread hother

/-- A number that was read below one limit can be read below another if, and only if, it
stays below that. -/
theorem toOption_readNumber {limit other n : Nat} {s : String} (hlimit : 0 < limit)
    (hother : 0 < other) (hread : readNumber limit s = .ok n) :
    (readNumber other s).toOption = if n < other then some n else none := by
  split
  · rename_i hlt
    rw [readNumber_limit hread hlt]
    rfl
  · rename_i hlarge
    cases hagain : readNumber other s with
    | error fault => rfl
    | ok m =>
        have hm := readNumber_lt hother hagain
        have hn := readNumber_lt hlimit hread
        have hsame : readNumber limit s = .ok m := readNumber_limit hagain (by omega)
        obtain rfl : n = m := Except.ok.inj (hread.symm.trans hsame)
        exact absurd hm hlarge

theorem digit?_digitChar {d : Nat} (hd : d < 10) : digit? (Nat.digitChar d) = some d := by
  revert d
  decide

theorem digitChar_plain {d : Nat} (hd : d < 10) :
    isBlank (Nat.digitChar d) = false ∧ Nat.digitChar d ≠ '-' ∧ Nat.digitChar d ≠ '+' := by
  revert d
  decide

/-- The digits of a number are read as that number, whatever stands behind them. -/
theorem readDigits_toDigits {limit n : Nat} (hn : n < limit) (rest : List Char) :
    readDigits limit 0 (Nat.toDigits 10 n ++ rest) = readDigits limit n rest := by
  induction n using Nat.strongRecOn generalizing rest with
  | ind n ih =>
      rw [Nat.toDigits_eq_if (by decide)]
      split
      · rename_i hsmall
        rw [List.singleton_append, readDigits, digit?_digitChar hsmall]
        simp only [Nat.zero_mul, Nat.zero_add, if_pos hn]
      · have hdigits : n / 10 * 10 + n % 10 = n := by omega
        rw [List.append_assoc, List.singleton_append, ih (n / 10) (by omega) (by omega),
          readDigits, digit?_digitChar (Nat.mod_lt n (by decide))]
        simp only [hdigits, if_pos hn]

theorem isDigit_of_mem_toString {n : Nat} {c : Char} (hc : c ∈ (toString n).toList) :
    c.isDigit = true := by
  rw [Nat.toString_eq_repr, Nat.toList_repr] at hc
  exact Nat.isDigit_of_mem_toDigits (by decide) (by decide) hc

/-- What is written for a number is read as that number, below every limit that it stays
below. -/
theorem readNumber_toString {limit n : Nat} (hn : n < limit) :
    readNumber limit (toString n) = .ok n := by
  have hdigits := @isDigit_of_mem_toString n
  have hread := readDigits_toDigits hn []
  rw [List.append_nil, ← Nat.toList_repr, ← Nat.toString_eq_repr] at hread
  rw [readNumber.eq_def]
  split
  · rename_i hnone
    rw [Nat.toString_eq_repr, Nat.toList_repr] at hnone
    exact absurd hnone Nat.toDigits_ne_nil
  · rename_i hplus
    have hsign : '+'.isDigit = true := hdigits (by rw [hplus]; exact List.mem_cons_self)
    cases hsign
  · rename_i hplus
    have hsign : '+'.isDigit = true := hdigits (by rw [hplus]; exact List.mem_cons_self)
    cases hsign
  · exact hread

theorem isBlank_of_isDigit {c : Char} (hc : c.isDigit = true) : isBlank c = false := by
  have hrange : 48 ≤ c.toNat ∧ c.toNat ≤ 57 := by
    simpa [Char.isDigit, UInt32.le_iff_toNat_le] using hc
  simp [isBlank]
  omega

theorem trim_toString (n : Nat) : trim (toString n) = toString n :=
  trim_eq_self fun _ hc => isBlank_of_isDigit (isDigit_of_mem_toString hc)

theorem isBlankText_trim {s : String} (hmore : (trim s).isEmpty = false) :
    isBlankText (trim s) = false := by
  rw [isBlankText, trim, String.toList_ofList, strip, dropEnd, List.all_reverse]
  have hne : (s.toList.dropWhile isBlank).reverse.dropWhile isBlank ≠ [] := by
    intro hnone
    simp [trim, strip, dropEnd, hnone] at hmore
  have hfirst := List.head_dropWhile_not isBlank hne
  rw [List.all_eq_false]
  exact ⟨_, List.head_mem hne, by simp [hfirst]⟩

end Text

end CapabilityMesh
