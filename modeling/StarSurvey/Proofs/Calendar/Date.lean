import Mathlib.Tactic.IntervalCases
import Mathlib.Tactic.Ring
import StarSurvey.Calendar.Instant

/-!
# Dates and day numbers

A year here begins in March, so that its leap day comes last, and 400 years make an era of 146097
days.

- **Years** (`inYear_yearOfEra`): the estimate of the year from the day of the era is right.
- **Months** (`month_cases`): so is that of the month from the day of the year.
- **Dates** (`Date.exists_parts`): every day number is that of a valid date, which is found again
  (`Date.valid_ofDayNumber`, `Date.dayNumber_ofDayNumber`).
- **Cover** (`Instant.year_date`): the years of instants are the ones that are covered.
-/

namespace StarSurvey.Calendar

/-! ## Years -/

/-- The first day of a year of an era. -/
def yearStart (y : ℤ) : ℤ := 365 * y + y / 4 - y / 100

/-- The year of an era that has a day of it. -/
def yearOfEra (n : ℤ) : ℤ := (n - n / 1460 + n / 36524 - n / 146096) / 365

/-- In one century, the estimate is off by less than a leap day. -/
theorem century_spec {n b y : ℤ} (h0 : 36524 * b ≤ n) (h1 : n < 36524 * (b + 1)) (hb : 0 ≤ b)
    (hb3 : b ≤ 3) (hy : y = (n - n / 1460 + b) / 365) :
    y / 100 = b ∧ y / 4 ≤ n / 1460 ∧ n / 1460 ≤ y / 4 + 1 := by
  obtain rfl | rfl | rfl | rfl : b = 0 ∨ b = 1 ∨ b = 2 ∨ b = 3 := by omega
  all_goals refine ⟨?_, ?_, ?_⟩ <;> omega

/-- A day of an era is in its year; a year of 366 days is a leap year when its February comes. -/
structure InYear (n y : ℤ) : Prop where
  nonneg : 0 ≤ y
  le : y ≤ 399
  start_le : yearStart y ≤ n
  le_end : n ≤ yearStart y + 365
  leap : n = yearStart y + 365 → (y + 1) % 4 = 0 ∧ ((y + 1) % 100 ≠ 0 ∨ y = 399)

theorem inYear_yearOfEra {n : ℤ} (h0 : 0 ≤ n) (h1 : n ≤ 146096) : InYear n (yearOfEra n) := by
  -- the last day of an era is the leap day of its last year, and the only one with a fifth century
  by_cases hlast : n = 146096
  · subst hlast
    exact ⟨by decide, by decide, by decide, by decide, by decide⟩
  · have hera : n / 146096 = 0 := by omega
    obtain ⟨b, hb⟩ : ∃ b, b = n / 36524 := ⟨_, rfl⟩
    have hy : yearOfEra n = (n - n / 1460 + b) / 365 := by
      rw [yearOfEra, hera, Int.sub_zero, hb]
    obtain ⟨hcentury, hlow, hhigh⟩ :=
      century_spec (n := n) (b := b) (by omega) (by omega) (by omega) (by omega) hy
    generalize yearOfEra n = y at hy hcentury hlow hhigh
    refine ⟨by omega, by omega, ?_, ?_, ?_⟩
    · rw [yearStart]
      omega
    · rw [yearStart]
      omega
    · rw [yearStart]
      intro hleap
      -- the estimate is one group of four years ahead only on the last day of the group
      have hfloor : n / 1460 = y / 4 + 1 := by omega
      have hrest : 1095 ≤ 365 * (y % 4) + 99 := by omega
      refine ⟨by omega, .inl ?_⟩
      omega

/-! ## Months -/

/-- The month that has a day of a year, March being month zero. -/
def monthOfYear (k : ℤ) : ℤ := (5 * k + 2) / 153

/-- The day of the month, from one, that a day of a year is. -/
def dayOfMonth (k : ℤ) : ℤ := k - (153 * monthOfYear k + 2) / 5 + 1

/-- The number that a month has in the calendar. -/
def calendarMonth (m : ℤ) : ℤ := if m < 10 then m + 3 else m - 9

theorem month_cases {k : ℤ} (h0 : 0 ≤ k) (h1 : k ≤ 365) :
    0 ≤ monthOfYear k ∧ monthOfYear k ≤ 11 ∧ 1 ≤ dayOfMonth k ∧
      (monthOfYear k < 11 → ∀ y : ℤ, dayOfMonth k ≤ daysInMonth y (calendarMonth (monthOfYear k)).toNat) ∧
      (monthOfYear k = 11 → k = dayOfMonth k + 336) := by
  have hm0 : 0 ≤ monthOfYear k := by rw [monthOfYear]; omega
  have hm1 : monthOfYear k ≤ 11 := by rw [monthOfYear]; omega
  obtain ⟨m, hm⟩ : ∃ m, monthOfYear k = m := ⟨_, rfl⟩
  have hk : (5 * k + 2) / 153 = m := hm
  rw [dayOfMonth, hm]
  rw [hm] at hm0 hm1
  refine ⟨hm0, hm1, ?_, ?_, ?_⟩
  · omega
  · intro hlt y
    interval_cases m <;> simp [daysInMonth, calendarMonth] <;> omega
  · rintro rfl
    omega

/-! ## Dates -/

namespace Date

/-- The date of a day of a year of an era. -/
def ofParts (era y k : ℤ) : Date :=
  ⟨if calendarMonth (monthOfYear k) ≤ 2 then y + era * 400 + 1 else y + era * 400,
    (calendarMonth (monthOfYear k)).toNat, (dayOfMonth k).toNat⟩

/-- Era, year and day of the year of a day number. -/
theorem exists_parts (n : ℤ) : ∃ era y k, 0 ≤ k ∧ InYear (yearStart y + k) y ∧
    n + 719468 = era * 146097 + (yearStart y + k) ∧ ofDayNumber n = ofParts era y k := by
  obtain ⟨era, hera⟩ : ∃ era, era = (n + 719468) / 146097 := ⟨_, rfl⟩
  have hyear := inYear_yearOfEra (n := n + 719468 - era * 146097) (by omega) (by omega)
  refine ⟨era, yearOfEra (n + 719468 - era * 146097),
    n + 719468 - era * 146097 - yearStart (yearOfEra (n + 719468 - era * 146097)), ?_, ?_, ?_, ?_⟩
  · exact Int.sub_nonneg_of_le hyear.start_le
  · rwa [add_sub_cancel]
  · omega
  · rw [hera]
    rfl

variable {era y k : ℤ}

theorem valid_ofParts (hk : 0 ≤ k) (h : InYear (yearStart y + k) y) : (ofParts era y k).Valid := by
  have hend : k ≤ 365 := by
    have := h.le_end
    omega
  obtain ⟨hm0, hm1, hday, hshort, hlast⟩ := month_cases hk hend
  have hmonth : 1 ≤ calendarMonth (monthOfYear k) ∧ calendarMonth (monthOfYear k) ≤ 12 := by
    unfold calendarMonth
    split <;> omega
  refine ⟨?_, ?_, ?_, ?_⟩
  · show 1 ≤ (calendarMonth _).toNat
    omega
  · show (calendarMonth _).toNat ≤ 12
    omega
  · show 1 ≤ (dayOfMonth k).toNat
    omega
  · show (dayOfMonth k).toNat ≤ daysInMonth _ (calendarMonth (monthOfYear k)).toNat
    by_cases hfebruary : monthOfYear k = 11
    · have hday := hlast hfebruary
      have hyear : (ofParts era y k).year = y + era * 400 + 1 := by
        simp only [ofParts, hfebruary]
        rfl
      rw [hyear, hfebruary]
      show _ ≤ if isLeapYear (y + era * 400 + 1) then 29 else 28
      split
      · omega
      · rename_i hleap
        by_contra hlong
        obtain ⟨hfour, hcentury⟩ := h.leap (by omega)
        apply hleap
        simp only [isLeapYear, Bool.and_eq_true, Bool.or_eq_true, decide_eq_true_eq]
        omega
    · have := hshort (by omega) (ofParts era y k).year
      exact Int.toNat_le.mpr this

/-- A date is found again from its parts. -/
theorem dayNumber_ofParts (hk : 0 ≤ k) (h : InYear (yearStart y + k) y) :
    (ofParts era y k).dayNumber = era * 146097 + (yearStart y + k) - 719468 := by
  have hend : k ≤ 365 := by
    have := h.le_end
    omega
  obtain ⟨hm0, hm1, hday, -, -⟩ := month_cases hk hend
  have hyear := h.nonneg
  have hyear' := h.le
  have hmonth : 1 ≤ calendarMonth (monthOfYear k) ∧ calendarMonth (monthOfYear k) ≤ 12 := by
    unfold calendarMonth
    split <;> omega
  have hm : (ofParts era y k).month = (calendarMonth (monthOfYear k)).toNat := rfl
  have hy : (ofParts era y k).year =
      if calendarMonth (monthOfYear k) ≤ 2 then y + era * 400 + 1 else y + era * 400 := rfl
  have hmarch : (if (ofParts era y k).month ≤ 2 then (ofParts era y k).year - 1
      else (ofParts era y k).year) = y + era * 400 := by
    rw [hm, hy]
    by_cases hspring : calendarMonth (monthOfYear k) ≤ 2
    · rw [if_pos hspring, if_pos (by omega), add_sub_cancel_right]
    · rw [if_neg hspring, if_neg (by omega)]
  have hindex : (if 2 < (ofParts era y k).month then ((ofParts era y k).month : ℤ) - 3
      else ((ofParts era y k).month : ℤ) + 9) = monthOfYear k := by
    rw [hm, Int.toNat_of_nonneg (zero_le_one.trans hmonth.1)]
    by_cases hspring : monthOfYear k < 10
    · have hc : calendarMonth (monthOfYear k) = monthOfYear k + 3 := if_pos hspring
      rw [if_pos (by omega), hc, add_sub_cancel_right]
    · have hc : calendarMonth (monthOfYear k) = monthOfYear k - 9 := if_neg hspring
      rw [if_neg (by omega), hc, sub_add_cancel]
  have hday' : ((ofParts era y k).day : ℤ) = dayOfMonth k := by
    simp only [ofParts]
    omega
  simp only [dayNumber, hmarch, hindex, hday']
  rw [dayOfMonth, yearStart]
  have hera : (y + era * 400) / 400 = era := by omega
  rw [hera, add_sub_cancel_right]
  ring

/-- Every day number is that of its date. -/
theorem dayNumber_ofDayNumber (n : ℤ) : (ofDayNumber n).dayNumber = n := by
  obtain ⟨era, y, k, hk, hyear, hn, hdate⟩ := exists_parts n
  rw [hdate, dayNumber_ofParts hk hyear, ← hn, add_sub_cancel_right]

theorem valid_ofDayNumber (n : ℤ) : (ofDayNumber n).Valid := by
  obtain ⟨era, y, k, hk, hyear, -, hdate⟩ := exists_parts n
  rw [hdate]
  exact valid_ofParts hk hyear

/-- The years of the days that are covered. -/
theorem year_ofDayNumber {n : ℤ} (h0 : dayNumber ⟨-262143, 1, 1⟩ ≤ n)
    (h1 : n ≤ dayNumber ⟨262142, 12, 31⟩) :
    -262143 ≤ (ofDayNumber n).year ∧ (ofDayNumber n).year ≤ 262142 := by
  have hfirst : dayNumber ⟨-262143, 1, 1⟩ = -96465292 := by decide +kernel
  have hlast : dayNumber ⟨262142, 12, 31⟩ = 95026236 := by decide +kernel
  obtain ⟨era, y, k, hk, hyear, hn, hdate⟩ := exists_parts n
  rw [hfirst] at h0
  rw [hlast] at h1
  have hy0 := hyear.nonneg
  have hy1 := hyear.le
  have hend := hyear.le_end
  have hspring : calendarMonth (monthOfYear k) ≤ 2 ↔ 306 ≤ k := by
    unfold calendarMonth monthOfYear
    split <;> omega
  rw [yearStart] at hn hend
  have hera : -656 ≤ era ∧ era ≤ 655 := by omega
  -- the first and the last era are covered from and to one of their years
  have hlow : era = -656 → 256 ≤ y := by omega
  have hhigh : era = 655 → y ≤ 142 := by omega
  rw [hdate]
  simp only [ofParts, hspring]
  split
  · have : era = 655 → y ≤ 141 := by omega
    omega
  · have : era = -656 → 257 ≤ y := by omega
    omega

end Date

end StarSurvey.Calendar
