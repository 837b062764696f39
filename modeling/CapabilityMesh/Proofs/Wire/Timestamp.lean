/-
Points in time come back as they were written.  What is written for a number of some
width is read as that number, and so is every part of a point in time.
-/
import Mathlib.Algebra.Group.Nat.Defs
import CapabilityMesh.Proofs.Step
import CapabilityMesh.Proofs.Text.Number
import CapabilityMesh.Proofs.Wire.Calendar
import CapabilityMesh.Wire.Timestamp

namespace CapabilityMesh

namespace Timestamp

/-- The digits of a number of some width. -/
def decimal : Nat → Nat → List Char
  | 0, _ => []
  | width + 1, n => decimal width (n / 10) ++ [Nat.digitChar (n % 10)]

theorem length_decimal (width n : Nat) : (decimal width n).length = width := by
  induction width generalizing n with
  | zero => rfl
  | succ width ih => rw [decimal, List.length_append, ih]; rfl

theorem decimal_zero (width : Nat) : decimal width 0 = List.replicate width '0' := by
  induction width with
  | zero => rfl
  | succ width ih => rw [decimal, Nat.zero_div, ih, List.replicate_succ']; rfl

/-- A number is written with leading zeros up to its width. -/
theorem toList_padded {width n : Nat} (hwidth : 0 < width) (hn : n < 10 ^ width) :
    (padded width n).toList = decimal width n := by
  rw [padded, String.toList_append, String.toList_ofList, Nat.toString_eq_repr,
    ← String.length_toList, Nat.toList_repr]
  induction width generalizing n with
  | zero => exact absurd hwidth (Nat.lt_irrefl 0)
  | succ width ih =>
      rw [Nat.toDigits_eq_if (by decide), decimal]
      split
      · rename_i hsmall
        rw [Nat.div_eq_of_lt hsmall, decimal_zero, Nat.mod_eq_of_lt hsmall]
        rfl
      · rename_i hlarge
        cases width with
        | zero => exact absurd hn hlarge
        | succ width =>
            have hrest := ih (n := n / 10) (Nat.succ_pos width) (by omega)
            rw [← hrest, List.length_append, List.append_assoc]
            congr 2
            simp

theorem readDigits_decimal {k n : Nat} (hn : n < 10 ^ k) (width seen value : Nat)
    (rest : List Char) (hlimit : value * 10 ^ k + n < 0x8000000000000000) :
    readDigits (width + k) seen value (decimal k n ++ rest) =
      readDigits width (seen + k) (value * 10 ^ k + n) rest := by
  induction k generalizing n width rest with
  | zero =>
      obtain rfl : n = 0 := Nat.lt_one_iff.mp hn
      simp [decimal]
  | succ k ih =>
      have hpow : value * 10 ^ (k + 1) = value * 10 ^ k * 10 := by
        rw [Nat.pow_succ, Nat.mul_assoc]
      rw [hpow] at hlimit ⊢
      rw [Nat.pow_succ] at hn
      have hstep := ih (n := n / 10) (by omega) (width + 1)
        (Nat.digitChar (n % 10) :: rest) (by omega)
      have hvalue : (value * 10 ^ k + n / 10) * 10 + n % 10 = value * 10 ^ k * 10 + n := by
        omega
      rw [decimal, List.append_assoc, List.singleton_append,
        show width + (k + 1) = width + 1 + k by omega, hstep, readDigits,
        Text.digit?_digitChar (Nat.mod_lt n (by decide))]
      simp only [hvalue, if_pos hlimit]
      rfl

theorem exists_digit_decimal {k : Nat} (hk : 0 < k) (n : Nat) :
    ∃ d cs, d < 10 ∧ decimal k n = Nat.digitChar d :: cs := by
  induction k generalizing n with
  | zero => exact absurd hk (Nat.lt_irrefl 0)
  | succ k ih =>
      cases k with
      | zero => exact ⟨n % 10, [], Nat.mod_lt n (by decide), rfl⟩
      | succ k =>
          obtain ⟨d, cs, hd, heq⟩ := ih (Nat.succ_pos k) (n / 10)
          exact ⟨d, cs ++ [Nat.digitChar (n % 10)], hd, by rw [decimal, heq]; rfl⟩

theorem skipBlanks_decimal {k : Nat} (hk : 0 < k) (n : Nat) (rest : List Char) :
    skipBlanks (decimal k n ++ rest) = decimal k n ++ rest := by
  obtain ⟨d, cs, hd, heq⟩ := exists_digit_decimal hk n
  rw [heq, List.cons_append, skipBlanks, List.dropWhile_cons_of_neg]
  simp [(Text.digitChar_plain hd).1]

theorem lt_limit_of_lt_pow {k n : Nat} (hshort : k ≤ 9) (hn : n < 10 ^ k) :
    0 * 10 ^ k + n < 0x8000000000000000 := by
  have hpow : 10 ^ k ≤ 10 ^ 9 := Nat.pow_le_pow_right (by decide) hshort
  omega

/-- As many digits as are asked for are read, and no more. -/
theorem readDigits_width {k n : Nat} (hshort : k ≤ 9) (hn : n < 10 ^ k) (rest : List Char) :
    readDigits k 0 0 (decimal k n ++ rest) = .ok (n, rest) := by
  have hdigits := readDigits_decimal hn 0 0 0 rest (lt_limit_of_lt_pow hshort hn)
  rw [Nat.zero_add] at hdigits
  rw [hdigits, readDigits, Nat.zero_mul, Nat.zero_add]

theorem readField_decimal {low high n : Nat} (hn : n < 100) (hlow : low ≤ n) (hhigh : n ≤ high)
    (rest : List Char) : readField 2 low high (decimal 2 n ++ rest) = .ok (n, rest) := by
  rw [readField, skipBlanks_decimal (by decide), readDigits_width (by decide) hn, ok_bind]
  exact if_pos ⟨hlow, hhigh⟩

theorem readYear_decimal {n : Nat} (hn : n < 10000) (rest : List Char) :
    readYear (decimal 4 n ++ rest) = .ok ((n : Int), rest) := by
  obtain ⟨d, cs, hd, heq⟩ := exists_digit_decimal (k := 4) (by decide) n
  obtain ⟨-, hminus, hplus⟩ := Text.digitChar_plain hd
  simp only [readYear, skipBlanks_decimal (k := 4) (by decide)]
  split
  · rename_i hsign
    rw [heq, List.cons_append, List.cons.injEq] at hsign
    exact absurd hsign.1 hminus
  · rename_i hsign
    rw [heq, List.cons_append, List.cons.injEq] at hsign
    exact absurd hsign.1 hplus
  · have hbounds : (-0x80000000 : Int) ≤ n ∧ (n : Int) < 0x80000000 := by omega
    rw [readDigits_width (by decide) hn, ok_bind]
    dsimp only
    rw [if_pos hbounds]

/-- The digits of a part of a second are read up to what stands behind them. -/
theorem readFraction_decimal {k n : Nat} (hk : 0 < k) (hshort : k ≤ 9)
    (hn : n < 10 ^ k) (rest : List Char) :
    readFraction ('.' :: (decimal k n ++ 'Z' :: rest)) =
      .ok (n * 10 ^ (9 - k), 'Z' :: rest) := by
  have hread : readDigits 9 0 0 (decimal k n ++ 'Z' :: rest) = .ok (n, 'Z' :: rest) := by
    have hdigits := readDigits_decimal hn (9 - k) 0 0 ('Z' :: rest)
      (lt_limit_of_lt_pow hshort hn)
    rw [Nat.sub_add_cancel hshort] at hdigits
    rw [hdigits]
    simp only [Nat.zero_mul, Nat.zero_add]
    cases 9 - k with
    | zero => rfl
    | succ more =>
        have hz : Text.digit? 'Z' = none := by decide
        rw [readDigits, hz]
        simp only [if_neg (Nat.ne_of_gt hk)]
  rw [readFraction, hread]
  show Except.ok (n * Nat.pow 10 (9 - ((decimal k n ++ 'Z' :: rest).length -
    ('Z' :: rest).length)), _) = _
  rw [List.length_append, Nat.add_sub_cancel, length_decimal]
  rfl

/-- A part of a second comes back that is written with some number of digits. -/
theorem readFraction_padded {k nano : Nat} (hk : 0 < k) (hshort : k ≤ 9)
    (hnano : nano < 10 ^ 9) (hwhole : nano % 10 ^ (9 - k) = 0) (rest : List Char) :
    readFraction (("." ++ padded k (nano / 10 ^ (9 - k))).toList ++ 'Z' :: rest) =
      .ok (nano, 'Z' :: rest) := by
  have hdigits : nano / 10 ^ (9 - k) < 10 ^ k := by
    apply Nat.div_lt_of_lt_mul
    rw [← Nat.pow_add, Nat.sub_add_cancel hshort]
    exact hnano
  have hread := readFraction_decimal hk hshort hdigits rest
  rw [Nat.div_mul_cancel (Nat.dvd_of_mod_eq_zero hwhole)] at hread
  rw [String.toList_append, toList_padded hk hdigits]
  exact hread

/-- A part of a second comes back. -/
theorem readFraction_showFraction {nano : Nat} (hnano : nano < 1000000000)
    (rest : List Char) :
    readFraction ((showFraction nano).toList ++ 'Z' :: rest) = .ok (nano, 'Z' :: rest) := by
  rw [showFraction]
  split
  · rename_i hzero
    rw [hzero]
    rfl
  · split
    · rename_i hmilli
      exact readFraction_padded (k := 3) (by decide) (by decide) hnano hmilli rest
    · split
      · rename_i hmicro
        exact readFraction_padded (k := 6) (by decide) (by decide) hnano hmicro rest
      · have hread := readFraction_padded (k := 9) (by decide) (by decide) hnano
          (Nat.mod_one nano) rest
        rw [Nat.sub_self, Nat.pow_zero, Nat.div_one] at hread
        exact hread

theorem skipMark_self {mark : Char} (hmark : Text.isBlank mark = false) (rest : List Char) :
    skipMark mark (mark :: rest) = .ok rest := by
  have hskip : skipBlanks (mark :: rest) = mark :: rest := by
    rw [skipBlanks, List.dropWhile_cons_of_neg]
    simp [hmark]
  rw [skipMark, hskip]
  exact if_pos rfl

/-- The text of a day and a time of day. -/
def layOut (date : Date) (hour minute second : Nat) (fraction : List Char) : List Char :=
  decimal 4 date.year.toNat ++ '-' :: (decimal 2 date.month ++ '-' :: (decimal 2 date.day ++
    'T' :: (decimal 2 hour ++ ':' :: (decimal 2 minute ++ ':' :: (decimal 2 second ++
      (fraction ++ ['Z']))))))

theorem parse_layOut {date : Date} {hour minute second nano : Nat} {fraction : List Char}
    (hvalid : date.isValid = true) (hyear : 0 ≤ date.year ∧ date.year ≤ 9999)
    (hhour : hour ≤ 23) (hminute : minute ≤ 59) (hsecond : second ≤ 60)
    (hfraction : readFraction (fraction ++ ['Z']) = .ok (nano, ['Z'])) :
    parse (String.ofList (layOut date hour minute second fraction)) =
      ofParts date hour minute second nano 0 := by
  obtain ⟨hmonth, hday⟩ := date.bounds_of_isValid hvalid
  have hzone : readOffset (skipBlanks ['Z']) = .ok (0, []) := rfl
  rw [parse, String.toList_ofList, layOut, readYear_decimal (by omega), ok_bind]
  dsimp only
  rw [skipMark_self (by decide), ok_bind,
    readField_decimal (by omega) (by omega) (by omega), ok_bind]
  dsimp only
  rw [skipMark_self (by decide), ok_bind,
    readField_decimal (by omega) (by omega) (by omega), ok_bind]
  dsimp only
  rw [skipDayEnd, ok_bind, readField_decimal (by omega) (by omega) (by omega), ok_bind]
  dsimp only
  rw [skipMark_self (by decide), ok_bind,
    readField_decimal (by omega) (by omega) (by omega), ok_bind]
  dsimp only
  rw [skipMark_self (by decide), ok_bind,
    readField_decimal (by omega) (by omega) (by omega), ok_bind]
  dsimp only
  rw [hfraction, ok_bind]
  dsimp only
  rw [hzone, ok_bind]
  dsimp only
  rw [if_pos (by rfl), Int.toNat_of_nonneg hyear.1]

def year (t : Timestamp) : Int :=
  (Date.ofDays (t.second / 86400)).year

/-- Whether a point in time is one that clocks show: a leap second is the last of its
minute. -/
def isRegular (t : Timestamp) : Bool :=
  t.nano < 1000000000 || (t.nano < 2000000000 && t.second % 60 == 59)

theorem isRegular_iff (t : Timestamp) :
    t.isRegular = true ↔
      t.nano < 1000000000 ∨ t.nano < 2000000000 ∧ t.second % 60 = 59 := by
  simp [isRegular]

/-- What clocks show at a point in time.  A leap second that is not the last of its minute
is shown as the second that follows. -/
def shown (t : Timestamp) : Timestamp :=
  if t.isRegular then t else ⟨t.second + 1, t.nano - 1000000000⟩

theorem isRegular_shown {t : Timestamp} (hnano : t.nano < 2000000000) :
    t.shown.isRegular = true := by
  rw [shown]
  split
  · assumption
  · rw [isRegular_iff]
    left
    dsimp only
    omega

/-- A leap second inside a minute is written as the second that follows. -/
theorem render_inside {t u : Timestamp} (hsecond : u.second = t.second + 1)
    (hnano : t.nano = u.nano + 1000000000) (hwhole : u.nano < 1000000000)
    (hlast : t.second % 60 ≠ 59) : u.render = t.render := by
  have hday : u.second / 86400 = t.second / 86400 := by omega
  have hofDay : (u.second % 86400).toNat = (t.second % 86400).toNat + 1 := by omega
  have hhour : ((t.second % 86400).toNat + 1) / 3600 = (t.second % 86400).toNat / 3600 := by
    omega
  have hminute : ((t.second % 86400).toNat + 1) / 60 = (t.second % 86400).toNat / 60 := by omega
  have hofMinute : ((t.second % 86400).toNat + 1) % 60 = (t.second % 86400).toNat % 60 + 1 := by
    omega
  rw [render, render, if_neg (Nat.not_le.mpr hwhole), if_pos (by omega), hday, hofDay]
  simp only [hhour, hminute, hofMinute, hnano, Nat.add_sub_cancel, Nat.add_zero]

/-- A point in time is written as what clocks show at it. -/
theorem render_shown {t : Timestamp} (hnano : t.nano < 2000000000) :
    t.shown.render = t.render := by
  rw [shown]
  split
  · rfl
  · rename_i hregular
    rw [isRegular_iff] at hregular
    exact render_inside rfl (by dsimp only; omega) (by dsimp only; omega) (by omega)

theorem year_shown {t : Timestamp} (hnano : t.nano < 2000000000) : t.shown.year = t.year := by
  rw [shown]
  split
  · rfl
  · rename_i hregular
    rw [isRegular_iff] at hregular
    rw [year, year, show (t.second + 1) / 86400 = t.second / 86400 by omega]

/-- What is written for a point in time of a year with four digits. -/
theorem toList_render (t : Timestamp) (hyear : 0 ≤ t.year ∧ t.year ≤ 9999) :
    ∃ leap, (leap = if 1000000000 ≤ t.nano then 1 else 0) ∧
      t.render.toList = layOut (Date.ofDays (t.second / 86400))
        ((t.second % 86400).toNat / 3600) ((t.second % 86400).toNat / 60 % 60)
        ((t.second % 86400).toNat % 60 + leap)
        (showFraction (t.nano - leap * 1000000000)).toList := by
  obtain ⟨hmonth, hday⟩ := Date.bounds_of_isValid _ (Date.isValid_ofDays (t.second / 86400))
  have htime : (t.second % 86400).toNat < 86400 := by omega
  have hparts : ∀ leap ≤ 1, (showYear t.year ++ "-"
      ++ padded 2 (Date.ofDays (t.second / 86400)).month ++ "-"
      ++ padded 2 (Date.ofDays (t.second / 86400)).day ++ "T"
      ++ padded 2 ((t.second % 86400).toNat / 3600) ++ ":"
      ++ padded 2 ((t.second % 86400).toNat / 60 % 60) ++ ":"
      ++ padded 2 ((t.second % 86400).toNat % 60 + leap)
      ++ showFraction (t.nano - leap * 1000000000) ++ "Z").toList =
        layOut (Date.ofDays (t.second / 86400))
          ((t.second % 86400).toNat / 3600) ((t.second % 86400).toNat / 60 % 60)
          ((t.second % 86400).toNat % 60 + leap)
          (showFraction (t.nano - leap * 1000000000)).toList := by
    intro leap hleap
    rw [showYear, if_pos hyear]
    simp only [String.toList_append, List.append_assoc]
    rw [toList_padded (by decide) (by omega), toList_padded (by decide) (by omega),
      toList_padded (by decide) (by omega), toList_padded (by decide) (by omega),
      toList_padded (by decide) (by omega), toList_padded (by decide) (by omega)]
    rfl
  rw [render]
  split
  · exact ⟨1, rfl, hparts 1 (Nat.le_refl 1)⟩
  · exact ⟨0, rfl, hparts 0 (Nat.zero_le 1)⟩

/-- A regular point in time comes back as it was written. -/
theorem parse_render {t : Timestamp} (hyear : 0 ≤ t.year ∧ t.year ≤ 9999)
    (hregular : t.isRegular = true) : parse t.render = .ok t := by
  obtain ⟨leap, hleap, htext⟩ := t.toList_render hyear
  rw [isRegular_iff] at hregular
  have hle : leap ≤ 1 := by split at hleap <;> omega
  have hnano : t.nano - leap * 1000000000 < 1000000000 := by split at hleap <;> omega
  rw [← String.ofList_toList (s := t.render), htext,
    parse_layOut (Date.isValid_ofDays _) hyear (by omega) (by omega) (by omega)
      (readFraction_showFraction hnano [])]
  have hrange : yearInRange (Date.ofDays (t.second / 86400)).year = true := by
    have hbounds : 0 ≤ (Date.ofDays (t.second / 86400)).year ∧
      (Date.ofDays (t.second / 86400)).year ≤ 9999 := hyear
    simp only [yearInRange, Bool.and_eq_true, decide_eq_true_eq]
    omega
  rw [ofParts, Date.isValid_ofDays, Date.toDays_ofDays, hrange, if_neg (by decide),
    if_neg (by decide)]
  obtain ⟨second, nano⟩ := t
  dsimp only at hleap hregular ⊢
  by_cases hlong : 1000000000 ≤ nano
  · rw [if_pos hlong] at hleap
    rw [if_pos (by omega)]
    simp only [Except.ok.injEq, Timestamp.mk.injEq]
    omega
  · rw [if_neg hlong] at hleap
    rw [if_neg (by omega)]
    simp only [Except.ok.injEq, Timestamp.mk.injEq]
    omega

theorem digit?_lt {c : Char} {d : Nat} (hdigit : Text.digit? c = some d) : d < 10 := by
  rw [Text.digit?] at hdigit
  split at hdigit
  · rename_i hc
    obtain rfl := Option.some.inj hdigit
    have hnine : c.toNat ≤ '9'.toNat := hc.2
    have hvalue : '9'.toNat = '0'.toNat + 9 := by decide
    omega
  · cases hdigit

theorem readDigits_lt {width seen value n : Nat} {cs rest : List Char}
    (hread : readDigits width seen value cs = .ok (n, rest)) :
    ∃ k ≤ width, cs.length = rest.length + k ∧ n < (value + 1) * 10 ^ k := by
  induction width generalizing seen value cs with
  | zero =>
      obtain ⟨rfl, rfl⟩ := Prod.mk.inj (Except.ok.inj hread)
      exact ⟨0, Nat.le_refl 0, rfl, by omega⟩
  | succ width ih =>
      cases cs with
      | nil =>
          rw [readDigits] at hread
          split at hread
          · cases hread
          · obtain ⟨rfl, rfl⟩ := Prod.mk.inj (Except.ok.inj hread)
            exact ⟨0, Nat.zero_le _, rfl, by omega⟩
      | cons c cs =>
          rw [readDigits] at hread
          split at hread
          · rename_i d hdigit
            split at hread
            · obtain ⟨k, hk, hlength, hn⟩ := ih hread
              refine ⟨k + 1, Nat.succ_le_succ hk, by rw [List.length_cons, hlength]; rfl, ?_⟩
              have hd := digit?_lt hdigit
              calc n < (value * 10 + d + 1) * 10 ^ k := hn
                _ ≤ ((value + 1) * 10) * 10 ^ k := Nat.mul_le_mul_right _ (by omega)
                _ = (value + 1) * 10 ^ (k + 1) := by rw [Nat.mul_assoc, Nat.pow_succ']
            · cases hread
          · split at hread
            · cases hread
            · obtain ⟨rfl, rfl⟩ := Prod.mk.inj (Except.ok.inj hread)
              exact ⟨0, Nat.zero_le _, rfl, by omega⟩

theorem readFraction_lt {n : Nat} {cs rest : List Char}
    (hread : readFraction cs = .ok (n, rest)) : n < 1000000000 := by
  rw [readFraction.eq_def] at hread
  split at hread
  · rename_i digits
    simp only [bind_eq_ok, Prod.exists] at hread
    obtain ⟨m, after, hdigits, hread⟩ := hread
    obtain ⟨rfl, -⟩ := Prod.mk.inj (Except.ok.inj hread)
    obtain ⟨k, hk, hlength, hm⟩ := readDigits_lt hdigits
    rw [hlength, Nat.add_sub_cancel_left]
    calc m * 10 ^ (9 - k) < (0 + 1) * 10 ^ k * 10 ^ (9 - k) :=
          Nat.mul_lt_mul_of_pos_right hm (Nat.pow_pos (by decide))
      _ = 10 ^ (k + (9 - k)) := by rw [Nat.zero_add, Nat.one_mul, Nat.pow_add]
      _ = 10 ^ 9 := by rw [Nat.add_sub_cancel' hk]
      _ = 1000000000 := rfl
  · obtain ⟨rfl, -⟩ := Prod.mk.inj (Except.ok.inj hread)
    decide

/-- A distance from universal time is one of whole minutes. -/
theorem readOffset_minutes {offset : Int} {cs rest : List Char}
    (hread : readOffset cs = .ok (offset, rest)) : offset % 60 = 0 := by
  have hbehind : ∀ (sign : Int) (cs : List Char),
      readOffset.behindSign sign cs = .ok (offset, rest) → offset % 60 = 0 := by
    intro sign cs hread
    simp only [readOffset.behindSign, bind_eq_ok, Prod.exists] at hread
    obtain ⟨h1, h2, after, -, m1, m2, last, -, hread⟩ := hread
    split at hread
    · cases hread
    · obtain ⟨rfl, -⟩ := Prod.mk.inj (Except.ok.inj hread)
      apply Int.emod_eq_zero_of_dvd
      exact Int.dvd_trans (by omega) (Int.dvd_mul_left sign _)
  rw [readOffset.eq_def] at hread
  dsimp only at hread
  split at hread
  · obtain ⟨rfl, -⟩ := Prod.mk.inj (Except.ok.inj hread)
    rfl
  · obtain ⟨rfl, -⟩ := Prod.mk.inj (Except.ok.inj hread)
    rfl
  · exact hbehind _ _ hread
  · exact hbehind _ _ hread
  · cases hread
  · split at hread
    · exact hbehind _ _ hread
    · split at hread
      · obtain ⟨rfl, -⟩ := Prod.mk.inj (Except.ok.inj hread)
        rfl
      · cases hread
  · split at hread
    · exact hbehind _ _ hread
    · cases hread

theorem isRegular_of_ofParts {date : Date} {hour minute second nano : Nat} {offset : Int}
    {t : Timestamp} (hnano : nano < 1000000000) (hoffset : offset % 60 = 0)
    (hparts : ofParts date hour minute second nano offset = .ok t) : t.isRegular = true := by
  rw [ofParts] at hparts
  split at hparts
  · cases hparts
  · split at hparts
    · cases hparts
    · rw [isRegular_iff]
      by_cases hleap : second = 60
      · rw [if_pos hleap] at hparts
        obtain rfl := Except.ok.inj hparts
        right
        dsimp only
        omega
      · rw [if_neg hleap] at hparts
        obtain rfl := Except.ok.inj hparts
        left
        exact hnano

theorem isRegular_of_parse {s : String} {t : Timestamp} (hparse : parse s = .ok t) :
    t.isRegular = true := by
  simp only [parse, bind_eq_ok, Prod.exists] at hparse
  obtain ⟨year, _, -, _, -, month, _, -, _, -, day, _, -, _, -, hour, _, -, _, -, minute, _, -, _,
    -, second, _, -, nano, _, hnano, offset, _, hoffset, hparts⟩ := hparse
  split at hparts
  · exact isRegular_of_ofParts (readFraction_lt hnano) (readOffset_minutes hoffset) hparts
  · cases hparts

end Timestamp

end CapabilityMesh
