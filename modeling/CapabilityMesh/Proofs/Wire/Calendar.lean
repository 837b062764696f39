/-
Days and their numbers.  The day with a number is one that the calendar has, and its
number is the one it was made from.  A day of the 400 years after which the calendar
repeats is taken apart into centuries, spans of four years, years, and a day of the year,
each of which is counted from a first of March.
-/
import CapabilityMesh.Wire.Calendar

namespace CapabilityMesh

namespace Date

/-- A day of 400 years in parts: whole centuries, spans of four years in the last century,
whole years in the last span, and days in the last year.  Only the last year of a span has
one more day, and of the last years of centuries only that of the last century. -/
structure YearParts (day century span year rest : Int) : Prop where
  sum : day = 36524 * century + 1461 * span + 365 * year + rest
  centuries : 0 ≤ century ∧ century ≤ 3
  spans : 0 ≤ span ∧ span ≤ 24
  years : 0 ≤ year ∧ year ≤ 3
  days : 0 ≤ rest ∧ rest ≤ 365
  leap : rest = 365 → year = 3 ∧ (span = 24 → century = 3)

theorem exists_yearParts (day : Int) (hlow : 0 ≤ day) (hhigh : day ≤ 146096) :
    ∃ century span year rest, YearParts day century span year rest := by
  let c := if day = 146096 then 3 else day / 36524
  let q := (day - 36524 * c) / 1461
  let s := day - 36524 * c - 1461 * q
  let k := if s = 1460 then 3 else s / 365
  have hc : 0 ≤ c ∧ c ≤ 3 ∧ 0 ≤ day - 36524 * c ∧ day - 36524 * c ≤ 36524 ∧
      (day - 36524 * c = 36524 → c = 3) := by
    simp only [c]
    split <;> omega
  have hq : 0 ≤ q ∧ q ≤ 24 ∧ 0 ≤ s ∧ s ≤ 1460 := by omega
  have hk : 0 ≤ k ∧ k ≤ 3 ∧ 0 ≤ s - 365 * k ∧ s - 365 * k ≤ 365 ∧
      (s - 365 * k = 365 → k = 3 ∧ s = 1460) := by
    simp only [k]
    split <;> omega
  exact ⟨c, q, k, s - 365 * k, by omega, by omega, by omega, by omega, by omega, by omega⟩

/-- The year of a day among 400, as it is computed without taking the day apart. -/
theorem YearParts.year_eq {day century span year rest : Int}
    (h : YearParts day century span year rest) :
    (day - day / 1460 + day / 36524 - day / 146096) / 365 =
      100 * century + 4 * span + year := by
  obtain ⟨hsum, hcenturies, hspans, hyears, hdays, hleap⟩ := h
  have hlast : day / 36524 - day / 146096 = century := by
    have hends : day = 146096 ∧ day / 36524 = 4 ∧ day / 146096 = 1 ∨
        day < 146096 ∧ day / 146096 = 0 ∧ day / 36524 = century := by omega
    omega
  have hfours : day / 1460 = 25 * century + span +
      (24 * century + span + 365 * year + rest) / 1460 := by omega
  omega

/-- A day by the year and its days from the first of March. -/
def ofYearDay (year day : Int) : Date :=
  let month := (5 * day + 2) / 153
  let dayOfMonth := day - (153 * month + 2) / 5 + 1
  let month := if month < 10 then month + 3 else month - 9
  ⟨if month ≤ 2 then year + 1 else year, month.toNat, dayOfMonth.toNat⟩

theorem ofDays_eq (days : Int) :
    ∃ era century span year rest,
      YearParts (days + 719468 - era * 146097) century span year rest ∧
        ofDays days = ofYearDay (100 * century + 4 * span + year + era * 400) rest := by
  let era := (days + 719468) / 146097
  obtain ⟨century, span, year, rest, hparts⟩ :=
    exists_yearParts (days + 719468 - era * 146097) (by omega) (by omega)
  refine ⟨era, century, span, year, rest, hparts, ?_⟩
  have hrest : days + 719468 - era * 146097 - (365 * (100 * century + 4 * span + year) +
      (100 * century + 4 * span + year) / 4 - (100 * century + 4 * span + year) / 100) =
        rest := by
    obtain ⟨hsum, hcenturies, hspans, hyears, -, -⟩ := hparts
    omega
  have hyear := hparts.year_eq
  simp only [era] at hyear hrest
  simp only [ofDays, hyear, hrest]
  rfl

/-- The months are counted from March, so that the year begins anew with the tenth. -/
theorem ofYearDay_eq (year : Int) {day : Int} (hlow : 0 ≤ day) (hhigh : day ≤ 365) :
    ∃ month dayOfMonth : Nat, month ≤ 11 ∧
      ((153 * month + 2) / 5 : Int) + dayOfMonth = day + 1 ∧
      day < (153 * (month + 1) + 2) / 5 ∧ 1 ≤ dayOfMonth ∧
      ofYearDay year day =
        if month < 10 then ⟨year, month + 3, dayOfMonth⟩
        else ⟨year + 1, month - 9, dayOfMonth⟩ := by
  obtain ⟨month, hmonth⟩ := Int.eq_ofNat_of_zero_le (a := (5 * day + 2) / 153) (by omega)
  refine ⟨month, (day - (153 * month + 2) / 5 + 1).toNat, by omega, by omega, by omega,
    by omega, ?_⟩
  simp only [ofYearDay, hmonth]
  split
  · rename_i hless
    rw [if_neg (by omega), if_pos (by omega)]
    congr 1
  · rename_i hmore
    rw [if_pos (by omega), if_neg (by omega)]
    congr 1
    omega

theorem toDays_ofYearDay (year : Int) {day : Int} (hlow : 0 ≤ day) (hhigh : day ≤ 365) :
    (ofYearDay year day).toDays =
      year / 400 * 146097 + ((year - year / 400 * 400) * 365 + (year - year / 400 * 400) / 4
        - (year - year / 400 * 400) / 100 + day) - 719468 := by
  obtain ⟨month, dayOfMonth, hmonth, hday, -, -, heq⟩ := ofYearDay_eq year hlow hhigh
  rw [heq]
  split
  · rename_i hless
    simp only [toDays, if_neg (show ¬ month + 3 ≤ 2 by omega)]
    omega
  · rename_i hmore
    simp only [toDays, if_pos (show month - 9 ≤ 2 by omega), Int.add_sub_cancel]
    omega

theorem toDays_ofDays (days : Int) : (ofDays days).toDays = days := by
  obtain ⟨era, century, span, year, rest, hparts, heq⟩ := ofDays_eq days
  obtain ⟨hsum, hcenturies, hspans, hyears, hdays, -⟩ := hparts
  rw [heq, toDays_ofYearDay _ hdays.1 hdays.2]
  omega

theorem isValid_ofYearDay {year day : Int} (hlow : 0 ≤ day) (hhigh : day ≤ 365)
    (hleap : day = 365 → isLeapYear (year + 1) = true) :
    (ofYearDay year day).isValid = true := by
  obtain ⟨month, dayOfMonth, hmonth, hday, hnext, hfirst, heq⟩ :=
    ofYearDay_eq year hlow hhigh
  rw [heq]
  by_cases hfebruary : month = 11
  · subst hfebruary
    rw [if_neg (by decide)]
    simp only [isValid, daysInMonth, Bool.and_eq_true, decide_eq_true_eq]
    cases hyear : isLeapYear (year + 1) with
    | true => simp only [if_true]; omega
    | false =>
        have hshort : day ≠ 365 := fun hlast => by simp [hleap hlast] at hyear
        simp only [Bool.false_eq_true, if_false]
        omega
  · have hcases : month = 0 ∨ month = 1 ∨ month = 2 ∨ month = 3 ∨ month = 4 ∨ month = 5 ∨
        month = 6 ∨ month = 7 ∨ month = 8 ∨ month = 9 ∨ month = 10 := by omega
    rcases hcases with rfl | rfl | rfl | rfl | rfl | rfl | rfl | rfl | rfl | rfl | rfl
    all_goals
      simp only [isValid, daysInMonth, Nat.reduceLT, Nat.reduceAdd, Nat.reduceSub, if_true,
        if_false, Bool.and_eq_true, decide_eq_true_eq]
      omega

theorem isValid_ofDays (days : Int) : (ofDays days).isValid = true := by
  obtain ⟨era, century, span, year, rest, hparts, heq⟩ := ofDays_eq days
  rw [heq]
  apply isValid_ofYearDay hparts.days.1 hparts.days.2
  intro hlast
  obtain ⟨rfl, hends⟩ := hparts.leap hlast
  have hcenturies := hparts.centuries
  have hspans := hparts.spans
  simp only [isLeapYear, Bool.and_eq_true, Bool.or_eq_true, beq_iff_eq, bne_iff_ne]
  omega

theorem bounds_of_isValid (date : Date) (hvalid : date.isValid = true) :
    (1 ≤ date.month ∧ date.month ≤ 12) ∧ 1 ≤ date.day ∧ date.day ≤ 31 := by
  simp only [isValid, Bool.and_eq_true, decide_eq_true_eq] at hvalid
  obtain ⟨⟨hmonth, hfirst⟩, hlast⟩ := hvalid
  refine ⟨hmonth, hfirst, Nat.le_trans hlast ?_⟩
  rw [daysInMonth.eq_def]
  split
  · split <;> decide
  all_goals decide

/-- The days of whole years from the one that the calendar counts as the first. -/
def daysBefore (year : Int) : Int :=
  365 * year + year / 4 - year / 100 + year / 400

/-- A year has at least 365 days. -/
theorem daysBefore_le {first last : Int} (h : first ≤ last) :
    daysBefore first + 365 * (last - first) ≤ daysBefore last := by
  simp only [daysBefore]
  have hhundreds : ∀ year : Int, year / 100 = year / 4 / 25 := fun year => by omega
  have hfours : first / 4 ≤ last / 4 := by omega
  have hspans : last / 4 / 25 - first / 4 / 25 ≤ last / 4 - first / 4 := by omega
  have heras : first / 400 ≤ last / 400 := by omega
  rw [hhundreds, hhundreds]
  omega

/-- A day by its year, counted from March, and the days before it in that year. -/
theorem exists_yearDay (days : Int) :
    ∃ year rest, 0 ≤ rest ∧ rest ≤ 365 ∧ days + 719468 = daysBefore year + rest ∧
      ofDays days = ofYearDay year rest := by
  obtain ⟨era, century, span, year, rest, hparts, heq⟩ := ofDays_eq days
  obtain ⟨hsum, hcenturies, hspans, hyears, hdays, -⟩ := hparts
  refine ⟨_, rest, hdays.1, hdays.2, ?_, heq⟩
  simp only [daysBefore]
  omega

/-- The year of a day: January and February are the last months of one that is counted
from March. -/
theorem year_ofYearDay (year : Int) {day : Int} (hlow : 0 ≤ day) (hhigh : day ≤ 365) :
    (ofYearDay year day).year = if 306 ≤ day then year + 1 else year := by
  obtain ⟨month, dayOfMonth, hmonth, hday, hnext, hfirst, heq⟩ := ofYearDay_eq year hlow hhigh
  rw [heq]
  by_cases hless : month < 10
  · rw [if_pos hless, if_neg (by omega)]
  · rw [if_neg hless, if_pos (by omega)]

/-- A day lies in a year or behind it if it is not before the first day of that year. -/
theorem le_year_ofDays_iff (year days : Int) :
    year ≤ (ofDays days).year ↔ toDays ⟨year, 1, 1⟩ ≤ days := by
  obtain ⟨marchYear, rest, hlow, hhigh, hdays, heq⟩ := exists_yearDay days
  have hfirst : toDays ⟨year, 1, 1⟩ = daysBefore (year - 1) + 306 - 719468 := by
    simp only [toDays, daysBefore]
    omega
  have hbehind : year - 1 ≤ marchYear →
      daysBefore (year - 1) + 365 * (marchYear - (year - 1)) ≤ daysBefore marchYear :=
    fun h => daysBefore_le h
  have hahead : marchYear ≤ year - 1 →
      daysBefore marchYear + 365 * (year - 1 - marchYear) ≤ daysBefore (year - 1) :=
    fun h => daysBefore_le h
  rw [hfirst, heq, year_ofYearDay marchYear hlow hhigh]
  split <;> omega

end Date

end CapabilityMesh
