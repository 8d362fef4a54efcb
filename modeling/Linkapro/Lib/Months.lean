import Mathlib.Data.Int.Notation
import Mathlib.Tactic.Common

/-!
# Months of a calendar

The dates that a calendar of the years 1 to 9999 can hold, their chronological order, and the
months counted from the year zero. A date lies in exactly one month, and the dates before
the first day of a month are those of the months before it.
-/

namespace Lib

def isLeapYear (year : ℤ) : Bool := year % 4 = 0 ∧ (year % 100 ≠ 0 ∨ year % 400 = 0)

def daysInMonth (year month : ℤ) : ℤ :=
  if month = 2 then (if isLeapYear year then 29 else 28)
  else if month = 4 ∨ month = 6 ∨ month = 9 ∨ month = 11 then 30
  else 31

/-- A date that exists. -/
@[ext] structure CalendarDate where
  year : ℤ
  month : ℤ
  day : ℤ
  year_mem : 1 ≤ year ∧ year ≤ 9999
  month_mem : 1 ≤ month ∧ month ≤ 12
  day_mem : 1 ≤ day ∧ day ≤ daysInMonth year month
deriving DecidableEq

namespace CalendarDate

/-- The date of three numbers, if there is one. -/
def of (year month day : ℤ) : Option CalendarDate :=
  if h : (1 ≤ year ∧ year ≤ 9999) ∧ (1 ≤ month ∧ month ≤ 12) ∧
      1 ≤ day ∧ day ≤ daysInMonth year month then
    some ⟨year, month, day, h.1, h.2.1, h.2.2⟩
  else none

/-- The chronological order. -/
def Before (date date' : CalendarDate) : Prop :=
  date.year < date'.year ∨ date.year = date'.year ∧
    (date.month < date'.month ∨ date.month = date'.month ∧ date.day < date'.day)

instance (date date' : CalendarDate) : Decidable (date.Before date') := by
  unfold Before
  infer_instance

/-- The number of the month of a date. -/
def monthIndex (date : CalendarDate) : ℤ := date.year * 12 + (date.month - 1)

theorem daysInMonth_pos (year month : ℤ) : 1 ≤ daysInMonth year month := by
  unfold daysInMonth
  split_ifs <;> decide

/-- The first day of the month of a date. -/
def monthStart (date : CalendarDate) : CalendarDate where
  year := date.year
  month := date.month
  day := 1
  year_mem := date.year_mem
  month_mem := date.month_mem
  day_mem := ⟨Int.le_refl 1, daysInMonth_pos _ _⟩

/-- The first day of the month with a number. -/
def ofMonthIndex (index : ℤ) : Option CalendarDate := of (index / 12) (index % 12 + 1) 1

variable {date date' start : CalendarDate} {index : ℤ}

@[simp] theorem monthIndex_monthStart : date.monthStart.monthIndex = date.monthIndex := rfl

theorem monthStart_monthStart : date.monthStart.monthStart = date.monthStart := rfl

/-- Months with one number are one month. -/
theorem monthStart_eq_iff : date.monthStart = date'.monthStart ↔
    date.monthIndex = date'.monthIndex := by
  constructor
  · intro h
    rw [← monthIndex_monthStart, h, monthIndex_monthStart]
  · intro h
    have hmonth := date.month_mem
    have hmonth' := date'.month_mem
    unfold monthIndex at h
    have hyears : date.year = date'.year := by omega
    have hmonths : date.month = date'.month := by omega
    simp only [monthStart, hyears, hmonths]

/-- The dates before the first day of a month are those of earlier months. -/
theorem before_monthStart_iff :
    date.Before date'.monthStart ↔ date.monthIndex < date'.monthIndex := by
  have hmonth := date.month_mem
  have hmonth' := date'.month_mem
  have hday := date.day_mem.1
  have hfirst : date'.monthStart.day = 1 := rfl
  have hyear : date'.monthStart.year = date'.year := rfl
  have hmonthOf : date'.monthStart.month = date'.month := rfl
  unfold Before monthIndex
  rw [hfirst, hyear, hmonthOf]
  omega

/-- The month with a number exists when its year does. -/
theorem ofMonthIndex_eq_some_iff : ofMonthIndex index = some date ↔
    date.monthIndex = index ∧ date.monthStart = date := by
  unfold ofMonthIndex of
  constructor
  · intro h
    split at h
    · cases h
      exact ⟨by unfold monthIndex; dsimp only; omega, rfl⟩
    · cases h
  · rintro ⟨rfl, hstart⟩
    have hyear := date.year_mem
    have hmonth := date.month_mem
    have hday : date.day = 1 := (congrArg CalendarDate.day hstart).symm
    have hquotient : date.monthIndex / 12 = date.year := by
      unfold monthIndex
      omega
    have hrest : date.monthIndex % 12 + 1 = date.month := by
      unfold monthIndex
      omega
    have hvalid : (1 ≤ date.year ∧ date.year ≤ 9999) ∧ (1 ≤ date.month ∧ date.month ≤ 12) ∧
        1 ≤ (1 : ℤ) ∧ 1 ≤ daysInMonth date.year date.month :=
      ⟨hyear, hmonth, Int.le_refl 1, daysInMonth_pos _ _⟩
    rw [dif_pos (by rwa [hquotient, hrest])]
    exact congrArg some (CalendarDate.ext hquotient hrest hday.symm)

theorem exists_ofMonthIndex (h : 12 ≤ index) (h' : index < 120000) :
    ∃ date, ofMonthIndex index = some date := by
  unfold ofMonthIndex of
  rw [dif_pos ⟨by omega, by omega, Int.le_refl 1, daysInMonth_pos _ _⟩]
  exact ⟨_, rfl⟩

theorem ofMonthIndex_eq_none (h : 120000 ≤ index) : ofMonthIndex index = none := by
  unfold ofMonthIndex of
  exact dif_neg fun hvalid => by omega

end CalendarDate

end Lib
