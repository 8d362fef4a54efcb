import Mathlib.Data.Int.Notation
import Mathlib.Tactic.Common

/-!
# Columns

What the columns of PostgreSQL take. A row with a value that its column does not take is
refused with `DataError`.
-/

namespace Linkapro

/-- PostgreSQL takes no text with a NUL character. -/
def nulFree (text : String) : Bool := Char.ofNat 0 ∉ text.toList

/-- `CharField(max_length=limit)` takes the text. -/
def charField (limit : ℕ) (text : String) : Bool := text.length ≤ limit ∧ nulFree text

/-- The largest number of a `PositiveIntegerField`. -/
def positiveIntegerMax : ℤ := 2147483647

/-- `PositiveIntegerField` takes the number. -/
def positiveInteger (number : ℤ) : Bool := 0 ≤ number ∧ number ≤ positiveIntegerMax

/-- `PositiveSmallIntegerField` takes the number. -/
def positiveSmallInteger (number : ℤ) : Bool := 0 ≤ number ∧ number ≤ 32767

/-- The length of `EmailField` and of `URLField`, where the model gives none. -/
def emailLength : ℕ := 254
def urlLength : ℕ := 200

theorem charField_eq_true_iff {limit : ℕ} {text : String} :
    charField limit text = true ↔ text.length ≤ limit ∧ nulFree text = true := by
  rw [charField, decide_eq_true_eq]

theorem nulFree_of_charField {limit : ℕ} {text : String} (h : charField limit text = true) :
    nulFree text = true := (charField_eq_true_iff.mp h).2

theorem charField_of_length {wide limit : ℕ} {text : String} (h : charField wide text = true)
    (hlength : text.length ≤ limit) : charField limit text = true :=
  charField_eq_true_iff.mpr ⟨hlength, nulFree_of_charField h⟩

end Linkapro
