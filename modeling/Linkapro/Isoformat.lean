import Linkapro.Lib.Calendar
import Linkapro.Lib.Digits
import Linkapro.Shared

/-!
# The texts of instants

`isoformat` of an aware `datetime` in UTC, and `fromisoformat` of the texts that it writes.
Every instant that a `datetime` can hold is read back from its text.
-/

namespace Linkapro

open Lib

/-- The decimal digits. -/
def decimalSymbols : List Char := ['0', '1', '2', '3', '4', '5', '6', '7', '8', '9']

/-- A number, padded with zeros. -/
def padDecimal (width : ℕ) (n : ℤ) : List Char := paddedText decimalSymbols width n.toNat

/-- A number of decimal digits. -/
def readDecimal (text : List Char) : Option ℤ :=
  (readNumber decimalSymbols text).map Int.ofNat

/-- A `datetime` has a year from 1 to 9999. -/
def IsDatetime (instant : Datetime) : Prop :=
  days (-719162) ≤ instant ∧ instant < days 2932897

instance (instant : Datetime) : Decidable (IsDatetime instant) :=
  inferInstanceAs (Decidable (_ ∧ _))

/-- `YYYY-MM-DD`. -/
def dateText (date : Date) : List Char :=
  padDecimal 4 date.year ++ '-' :: padDecimal 2 date.month ++ '-' :: padDecimal 2 date.day

/-- `HH:MM:SS` of a second of the day. -/
def clockText (second : ℤ) : List Char :=
  padDecimal 2 (second / 3600) ++ ':' :: padDecimal 2 (second / 60 % 60) ++
    ':' :: padDecimal 2 (second % 60)

/-- The fraction of a second, which is left out when it is zero. -/
def fractionText (microsecond : ℤ) : List Char :=
  if microsecond = 0 then [] else '.' :: padDecimal 6 microsecond

/-- `instant.isoformat()`. -/
def isoformat (instant : Datetime) : String :=
  String.ofList (dateText (Date.ofDays (instant / days 1)) ++
    'T' :: (clockText (instant % days 1 / seconds 1) ++
      (fractionText (instant % seconds 1) ++ ['+', '0', '0', ':', '0', '0'])))

/-- The offset of a time zone, in seconds. -/
def readOffset : List Char → Option ℤ
  | [sign, h₁, h₂, ':', m₁, m₂] => do
    let hour ← readDecimal [h₁, h₂]
    let minute ← readDecimal [m₁, m₂]
    if 24 ≤ hour ∨ 60 ≤ minute then none
    else if sign = '+' then some (3600 * hour + 60 * minute)
    else if sign = '-' then some (-(3600 * hour + 60 * minute))
    else none
  | _ => none

/-- The microseconds and the offset at the end of a text. -/
def readFraction : List Char → Option (ℤ × ℤ)
  | '.' :: f₁ :: f₂ :: f₃ :: f₄ :: f₅ :: f₆ :: zone => do
    let microsecond ← readDecimal [f₁, f₂, f₃, f₄, f₅, f₆]
    let offset ← readOffset zone
    some (microsecond, offset)
  | zone => (readOffset zone).map fun offset => (0, offset)

/-- The date at the start of a text. A date is valid if its day has that date. -/
def readDate : List Char → Option (Date × List Char)
  | y₁ :: y₂ :: y₃ :: y₄ :: '-' :: m₁ :: m₂ :: '-' :: d₁ :: d₂ :: rest => do
    let year ← readDecimal [y₁, y₂, y₃, y₄]
    let month ← readDecimal [m₁, m₂]
    let day ← readDecimal [d₁, d₂]
    let date : Date := ⟨year, month, day⟩
    if 1 ≤ year ∧ Date.ofDays date.toDays = date then some (date, rest) else none
  | _ => none

/-- The second of the day at the start of a text. -/
def readClock : List Char → Option (ℤ × List Char)
  | h₁ :: h₂ :: ':' :: n₁ :: n₂ :: ':' :: s₁ :: s₂ :: rest => do
    let hour ← readDecimal [h₁, h₂]
    let minute ← readDecimal [n₁, n₂]
    let second ← readDecimal [s₁, s₂]
    if hour < 24 ∧ minute < 60 ∧ second < 60 then
      some (3600 * hour + 60 * minute + second, rest)
    else none
  | _ => none

/-- `datetime.fromisoformat(text)`. Any character may stand between the date and the time. -/
def fromisoformat (text : String) : Option Datetime := do
  let (date, rest) ← readDate text.toList
  let (second, rest) ← readClock rest.tail
  let (microsecond, offset) ← readFraction rest
  some (days date.toDays + seconds (second - offset) + microsecond)

example : isoformat 0 = "1970-01-01T00:00:00+00:00" := by decide +kernel
example : isoformat 1709210096000007 = "2024-02-29T12:34:56.000007+00:00" := by decide +kernel
example : fromisoformat "2024-02-30T12:34:56+00:00" = none := by decide +kernel

/-- A padded number is read back. -/
theorem readDecimal_padDecimal {width : ℕ} {n : ℤ} (h : 0 ≤ n) (h' : n < 10 ^ width) :
    readDecimal (padDecimal width n) = some n := by
  have hn : n.toNat < decimalSymbols.length ^ width := by
    have hcast : (n.toNat : ℤ) = n := Int.toNat_of_nonneg h
    have hlength : decimalSymbols.length = 10 := rfl
    rw [hlength]
    exact_mod_cast hcast ▸ h'
  rw [readDecimal, padDecimal, readNumber_paddedText (by decide) hn, Option.map_some]
  exact congrArg some (Int.toNat_of_nonneg h)

/-- The end of a text is read back. -/
theorem readFraction_fractionText {microsecond : ℤ} (h : 0 ≤ microsecond)
    (h' : microsecond < 1000000) :
    readFraction (fractionText microsecond ++ ['+', '0', '0', ':', '0', '0']) =
      some (microsecond, 0) := by
  have hzone : readOffset ['+', '0', '0', ':', '0', '0'] = some 0 := by decide +kernel
  unfold fractionText
  split
  · next hzero =>
    rw [hzero]
    decide +kernel
  · obtain ⟨f₁, f₂, f₃, f₄, f₅, f₆, hdigits⟩ :
        ∃ f₁ f₂ f₃ f₄ f₅ f₆, padDecimal 6 microsecond = [f₁, f₂, f₃, f₄, f₅, f₆] :=
      ⟨_, _, _, _, _, _, rfl⟩
    have hread : readDecimal (padDecimal 6 microsecond) = some microsecond :=
      readDecimal_padDecimal h (by simpa using h')
    rw [hdigits] at hread ⊢
    simp only [List.cons_append, List.nil_append, readFraction, hread, hzone]
    rfl

/-- A number of two digits has two of them, from which it is read back. -/
theorem padDecimal_two {n : ℤ} (h : 0 ≤ n) (h' : n < 100) :
    ∃ a b, padDecimal 2 n = [a, b] ∧ readDecimal [a, b] = some n := by
  obtain ⟨a, b, hdigits⟩ : ∃ a b, padDecimal 2 n = [a, b] := ⟨_, _, rfl⟩
  have hread : readDecimal (padDecimal 2 n) = some n := readDecimal_padDecimal h (by simpa using h')
  exact ⟨a, b, hdigits, hdigits ▸ hread⟩

/-- A year has four digits, from which it is read back. -/
theorem padDecimal_four {n : ℤ} (h : 0 ≤ n) (h' : n < 10000) :
    ∃ a b c d, padDecimal 4 n = [a, b, c, d] ∧ readDecimal [a, b, c, d] = some n := by
  obtain ⟨a, b, c, d, hdigits⟩ : ∃ a b c d, padDecimal 4 n = [a, b, c, d] := ⟨_, _, _, _, rfl⟩
  have hread : readDecimal (padDecimal 4 n) = some n := readDecimal_padDecimal h (by simpa using h')
  exact ⟨a, b, c, d, hdigits, hdigits ▸ hread⟩

/-- A date is read back. -/
theorem readDate_dateText {day : ℤ} (rest : List Char) (h : -719162 ≤ day) (h' : day < 2932897) :
    readDate (dateText (Date.ofDays day) ++ rest) = some (Date.ofDays day, rest) := by
  obtain ⟨hyear, hyear'⟩ := Date.year_mem h h'
  obtain ⟨hmonth, hmonth'⟩ := Date.month_mem day
  obtain ⟨hday, hday'⟩ := Date.day_mem day
  have hvalid : Date.ofDays (Date.ofDays day).toDays = Date.ofDays day := by
    rw [Date.toDays_ofDays]
  generalize Date.ofDays day = date at *
  obtain ⟨y₁, y₂, y₃, y₄, hyears, hreadYear⟩ :=
    padDecimal_four (n := date.year) (by omega) (by omega)
  obtain ⟨m₁, m₂, hmonths, hreadMonth⟩ := padDecimal_two (n := date.month) (by omega) (by omega)
  obtain ⟨d₁, d₂, hdays, hreadDay⟩ := padDecimal_two (n := date.day) (by omega) (by omega)
  simp only [dateText, hyears, hmonths, hdays, List.cons_append, List.nil_append, readDate,
    hreadYear, hreadMonth, hreadDay, Option.bind_eq_bind, Option.bind_some]
  exact if_pos ⟨hyear, hvalid⟩

/-- The second of a day is read back. -/
theorem readClock_clockText {second : ℤ} (rest : List Char) (h : 0 ≤ second)
    (h' : second < 86400) : readClock (clockText second ++ rest) = some (second, rest) := by
  obtain ⟨h₁, h₂, hhour, hhour'⟩ := padDecimal_two (n := second / 3600) (by omega) (by omega)
  obtain ⟨n₁, n₂, hminute, hminute'⟩ := padDecimal_two (n := second / 60 % 60) (by omega) (by omega)
  obtain ⟨s₁, s₂, hsecond, hsecond'⟩ := padDecimal_two (n := second % 60) (by omega) (by omega)
  simp only [clockText, hhour, hminute, hsecond, List.cons_append, List.nil_append, readClock,
    hhour', hminute', hsecond', Option.bind_eq_bind, Option.bind_some]
  rw [if_pos ⟨by omega, by omega, by omega⟩]
  have htotal : 3600 * (second / 3600) + 60 * (second / 60 % 60) + second % 60 = second := by omega
  rw [htotal]

/-- Every `datetime` is read back from its text. -/
theorem fromisoformat_isoformat {instant : ℤ} (h : IsDatetime instant) :
    fromisoformat (isoformat instant) = some instant := by
  have hdays (n : ℤ) : days n = n * 86400000000 := by
    change 60 * (60 * (24 * n)) * 1000000 = _
    omega
  have hseconds (n : ℤ) : seconds n = n * 1000000 := rfl
  have hfirst : -719162 * 86400000000 ≤ instant := hdays _ ▸ h.1
  have hlast : instant < 2932897 * 86400000000 := hdays _ ▸ h.2
  unfold fromisoformat isoformat
  simp only [hdays, hseconds, String.toList_ofList, Int.one_mul]
  have hday : -719162 ≤ instant / 86400000000 ∧ instant / 86400000000 < 2932897 := by omega
  have hsecond : 0 ≤ instant % 86400000000 / 1000000 ∧
      instant % 86400000000 / 1000000 < 86400 := by omega
  have hmicrosecond : 0 ≤ instant % 1000000 ∧ instant % 1000000 < 1000000 := by omega
  have hsum : instant / 86400000000 * 86400000000 +
      (instant % 86400000000 / 1000000 - 0) * 1000000 + instant % 1000000 = instant := by omega
  simp only [readDate_dateText _ hday.1 hday.2, readClock_clockText _ hsecond.1 hsecond.2,
    readFraction_fractionText hmicrosecond.1 hmicrosecond.2, Date.toDays_ofDays, List.tail_cons,
    Option.bind_eq_bind, Option.bind_some]
  exact congrArg some hsum

end Linkapro
