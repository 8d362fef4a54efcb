import Mathlib.Data.Int.Notation
import Mathlib.Tactic.Common

/-!
# Dates of the Gregorian calendar

The day of a date since 1970-01-01 and the date of a day, without a table of the months:
a year is counted from March, so that the leap day is its last day. An era has 400 years
and 146097 days. Reading the date of a day gives the day back.
-/

namespace Lib

/-- A date. The month and the day of the month count from one. -/
structure Date where
  year : ℤ
  month : ℤ
  day : ℤ
deriving DecidableEq, Repr

namespace Date

/-- The year of a day in an era. The fourth century of an era and the fourth year of a leap
cycle are a day longer than the others. -/
def yearOfEra (dayOfEra : ℤ) : ℤ :=
  let century := min (dayOfEra / 36524) 3
  let dayOfCentury := dayOfEra - 36524 * century
  100 * century + 4 * (dayOfCentury / 1461) + min (dayOfCentury % 1461 / 365) 3

/-- The days of an era before one of its years. -/
def daysBeforeYear (yearOfEra : ℤ) : ℤ := 365 * yearOfEra + yearOfEra / 4 - yearOfEra / 100

/-- The days of a year before one of its months, counted from March. -/
def daysBeforeMonth (month : ℤ) : ℤ := (153 * month + 2) / 5

/-- The month of a day in a year, both counted from March. -/
def monthOfDay (dayOfYear : ℤ) : ℤ := (5 * dayOfYear + 2) / 153

/-- The day in its era of a day since 1970-01-01. -/
def dayOfEra (days : ℤ) : ℤ := (days + 719468) % 146097

/-- The day in its year. -/
def dayOfYear (dayOfEra : ℤ) : ℤ := dayOfEra - daysBeforeYear (yearOfEra dayOfEra)

/-- The date of a day since 1970-01-01. -/
def ofDays (days : ℤ) : Date :=
  let year := (days + 719468) / 146097 * 400 + yearOfEra (dayOfEra days)
  let month := monthOfDay (dayOfYear (dayOfEra days))
  { year := if month < 10 then year else year + 1
    month := if month < 10 then month + 3 else month - 9
    day := dayOfYear (dayOfEra days) - daysBeforeMonth month + 1 }

/-- The days of a date since 1970-01-01. -/
def toDays (date : Date) : ℤ :=
  let year := if 2 < date.month then date.year else date.year - 1
  let month := if 2 < date.month then date.month - 3 else date.month + 9
  year / 400 * 146097 + daysBeforeYear (year % 400) + daysBeforeMonth month + date.day - 1 - 719468

variable {days : ℤ}

/-- A day lies in its era. -/
theorem dayOfEra_mem (days : ℤ) : 0 ≤ dayOfEra days ∧ dayOfEra days < 146097 := by
  unfold dayOfEra
  omega

/-- The days of an era before a year of it, by century and leap cycle. -/
theorem daysBeforeYear_eq {century cycle year : ℤ} (hcycle : 0 ≤ cycle) (hcycle' : cycle < 25)
    (hyear : 0 ≤ year) (hyear' : year < 4) :
    daysBeforeYear (100 * century + 4 * cycle + year) =
      36524 * century + 1461 * cycle + 365 * year := by
  unfold daysBeforeYear
  omega

section Era

variable {day : ℤ} (h : 0 ≤ day) (h' : day < 146097)
include h h'

/-- A day of an era lies in a year of it. -/
theorem yearOfEra_mem : 0 ≤ yearOfEra day ∧ yearOfEra day < 400 := by
  unfold yearOfEra
  dsimp only
  omega

/-- A day of an era lies in its year. -/
theorem dayOfYear_mem : 0 ≤ dayOfYear day ∧ dayOfYear day < 366 := by
  unfold dayOfYear yearOfEra
  dsimp only
  rw [daysBeforeYear_eq (by omega) (by omega) (by omega) (by omega)]
  omega

end Era

section Year

variable {day : ℤ} (h : 0 ≤ day) (h' : day < 366)
include h h'

/-- A day of a year lies in a month of it. -/
theorem monthOfDay_mem : 0 ≤ monthOfDay day ∧ monthOfDay day < 12 := by
  unfold monthOfDay
  omega

end Year

/-- A day of a year lies in its month. -/
theorem dayOfMonth_mem (day : ℤ) :
    0 ≤ day - daysBeforeMonth (monthOfDay day) ∧ day - daysBeforeMonth (monthOfDay day) < 31 := by
  unfold daysBeforeMonth monthOfDay
  omega

/-- The month of a date is one of the twelve. -/
theorem month_mem (days : ℤ) : 1 ≤ (ofDays days).month ∧ (ofDays days).month ≤ 12 := by
  obtain ⟨hera, hera'⟩ := dayOfEra_mem days
  obtain ⟨hyear, hyear'⟩ := dayOfYear_mem hera hera'
  obtain ⟨hmonth, hmonth'⟩ := monthOfDay_mem hyear hyear'
  unfold ofDays
  dsimp only
  split <;> omega

/-- The day of a date is at most the 31st. -/
theorem day_mem (days : ℤ) : 1 ≤ (ofDays days).day ∧ (ofDays days).day ≤ 31 := by
  obtain ⟨hday, hday'⟩ := dayOfMonth_mem (dayOfYear (dayOfEra days))
  unfold ofDays
  dsimp only
  omega

/-- The days of the years from 1 to 9999 have a year of these. -/
theorem year_mem (h : -719162 ≤ days) (h' : days < 2932897) :
    1 ≤ (ofDays days).year ∧ (ofDays days).year ≤ 9999 := by
  unfold ofDays monthOfDay dayOfYear daysBeforeYear yearOfEra dayOfEra
  dsimp only
  split <;> omega

/-- The day of a date is read back. -/
theorem toDays_ofDays (days : ℤ) : (ofDays days).toDays = days := by
  obtain ⟨hera, hera'⟩ := dayOfEra_mem days
  obtain ⟨hyear, hyear'⟩ := yearOfEra_mem hera hera'
  obtain ⟨hday, hday'⟩ := dayOfYear_mem hera hera'
  obtain ⟨hmonth, hmonth'⟩ := monthOfDay_mem hday hday'
  have hsplit : (days + 719468) / 146097 * 146097 + dayOfEra days = days + 719468 := by
    unfold dayOfEra
    omega
  have hyears : ((days + 719468) / 146097 * 400 + yearOfEra (dayOfEra days)) / 400 =
      (days + 719468) / 146097 := by omega
  have hyearOfEra : ((days + 719468) / 146097 * 400 + yearOfEra (dayOfEra days)) % 400 =
      yearOfEra (dayOfEra days) := by omega
  have hrest : daysBeforeYear (yearOfEra (dayOfEra days)) + dayOfYear (dayOfEra days) =
      dayOfEra days := by
    unfold dayOfYear
    omega
  have hdayOfMonth : (ofDays days).day = dayOfYear (dayOfEra days) -
      daysBeforeMonth (monthOfDay (dayOfYear (dayOfEra days))) + 1 := rfl
  unfold toDays
  dsimp only
  by_cases hspring : monthOfDay (dayOfYear (dayOfEra days)) < 10
  · have hyear : (ofDays days).year =
        (days + 719468) / 146097 * 400 + yearOfEra (dayOfEra days) := if_pos hspring
    have hmonth : (ofDays days).month = monthOfDay (dayOfYear (dayOfEra days)) + 3 :=
      if_pos hspring
    rw [if_pos (by omega), if_pos (by omega), hyear, hmonth, hyears, hyearOfEra, hdayOfMonth,
      Int.add_sub_cancel]
    omega
  · have hyear : (ofDays days).year =
        (days + 719468) / 146097 * 400 + yearOfEra (dayOfEra days) + 1 := if_neg hspring
    have hmonth : (ofDays days).month = monthOfDay (dayOfYear (dayOfEra days)) - 9 :=
      if_neg hspring
    rw [if_neg (by omega), if_neg (by omega), hyear, hmonth, Int.add_sub_cancel, hyears,
      hyearOfEra, hdayOfMonth, Int.sub_add_cancel]
    omega

example : ofDays 0 = ⟨1970, 1, 1⟩ := by decide
example : ofDays 19782 = ⟨2024, 2, 29⟩ := by decide

end Date

end Lib
