import Mathlib.Data.Nat.Notation
import Mathlib.Data.Int.Notation
import Mathlib.Tactic.Common

/-!
# Decimal numbers and their texts

The text of a finite decimal number is the one of the General Decimal Arithmetic: the
digits of the coefficient with a point among them, and an exponent when the point would
stand too far from the digits. Reading the text gives the same coefficient and the same
exponent back.
-/

namespace Lib

/-- A finite decimal number: a coefficient with its sign, and an exponent of ten. -/
structure Decimal : Type where
  negative : Bool
  coefficient : ℕ
  exponent : ℤ
deriving DecidableEq, Repr

namespace Decimal

variable {negative : Bool} {number : Decimal}

/-- The digits of the coefficient. -/
def digits (number : Decimal) : List Char := Nat.toDigits 10 number.coefficient

/-- How many digits stand before the point when no exponent is written. -/
def leftDigits (number : Decimal) : ℤ := number.exponent + number.digits.length

/-- How many digits stand before the point. -/
def pointPlace (number : Decimal) : ℤ :=
  if number.exponent ≤ 0 ∧ -6 < number.leftDigits then number.leftDigits else 1

/-- The digits before the point. -/
def integerPart (number : Decimal) : List Char :=
  if number.pointPlace ≤ 0 then ['0']
  else if number.digits.length ≤ number.pointPlace.toNat then
    number.digits ++ List.replicate (number.pointPlace.toNat - number.digits.length) '0'
  else number.digits.take number.pointPlace.toNat

/-- The digits after the point. -/
def fractionPart (number : Decimal) : List Char :=
  if number.pointPlace ≤ 0 then
    List.replicate (-number.pointPlace).toNat '0' ++ number.digits
  else if number.digits.length ≤ number.pointPlace.toNat then []
  else number.digits.drop number.pointPlace.toNat

/-- The sign of a number. -/
def signText (negative : Bool) : List Char := if negative then ['-'] else []

/-- The point and the digits after it. -/
def pointText (fraction : List Char) : List Char :=
  if fraction = [] then [] else '.' :: fraction

/-- The exponent, which is left out when it is zero. -/
def exponentText (exponent : ℤ) : List Char :=
  if exponent = 0 then []
  else 'E' :: (if exponent < 0 then '-' else '+') :: Nat.toDigits 10 exponent.natAbs

/-- `str(number)`. -/
def str (number : Decimal) : String :=
  String.ofList (signText number.negative ++ (number.integerPart ++
    (pointText number.fractionPart ++ exponentText (number.leftDigits - number.pointPlace))))

/-- The sign at the start of a text, and what follows. -/
def readSign : List Char → Bool × List Char
  | '-' :: text => (true, text)
  | '+' :: text => (false, text)
  | text => (false, text)

/-- The digits after a point, and what follows. -/
def readFraction : List Char → List Char × List Char
  | '.' :: text => (text.takeWhile Char.isDigit, text.dropWhile Char.isDigit)
  | text => ([], text)

/-- The exponent at the end of a text. -/
def readExponent : List Char → Option ℤ
  | [] => some 0
  | mark :: text =>
    if mark = 'E' ∨ mark = 'e' then
      let (negative, digits) := readSign text
      if digits ≠ [] ∧ digits.all Char.isDigit then
        let exponent : ℤ := Nat.ofDigitChars 10 digits 0
        some (if negative then -exponent else exponent)
      else none
    else none

/-- `Decimal(text)` of a finite number, with `none` for `InvalidOperation`. -/
def ofText (text : String) : Option Decimal :=
  let (negative, unsigned) := readSign text.toList
  let integer := unsigned.takeWhile Char.isDigit
  let (fraction, rest) := readFraction (unsigned.dropWhile Char.isDigit)
  if integer ++ fraction = [] then none
  else (readExponent rest).map fun exponent =>
    { negative
      coefficient := Nat.ofDigitChars 10 (integer ++ fraction) 0
      exponent := exponent - fraction.length }

theorem digits_ne_nil : number.digits ≠ [] := Nat.toDigits_ne_nil

theorem isDigit_digits {c : Char} (h : c ∈ number.digits) : c.isDigit = true :=
  Nat.isDigit_of_mem_toDigits (by decide) (by decide) h

/-- A written exponent is read. -/
theorem readExponent_exponentText {exponent : ℤ} :
    readExponent (exponentText exponent) = some exponent := by
  unfold exponentText
  split
  · next hzero =>
    rw [hzero]
    rfl
  · have hdigits : (Nat.toDigits 10 exponent.natAbs).all Char.isDigit = true :=
      List.all_eq_true.mpr fun c hc =>
        Nat.isDigit_of_mem_toDigits (by decide) (by decide) hc
    by_cases hneg : exponent < 0
    · have hvalue : -(exponent.natAbs : ℤ) = exponent := by omega
      rw [if_pos hneg]
      simp only [readExponent, readSign, hdigits, Nat.ofDigitChars_ten_toDigits, hvalue]
      simp
    · have hvalue : (exponent.natAbs : ℤ) = exponent := by omega
      rw [if_neg hneg]
      simp only [readExponent, readSign, hdigits, Nat.ofDigitChars_ten_toDigits, hvalue]
      simp

/-- A text does not go on with digits after them. -/
theorem takeWhile_isDigit {integer rest : List Char}
    (hinteger : ∀ c ∈ integer, c.isDigit = true)
    (hrest : ∀ c ∈ rest.head?, c.isDigit = false) :
    (integer ++ rest).takeWhile Char.isDigit = integer ∧
      (integer ++ rest).dropWhile Char.isDigit = rest := by
  rw [List.takeWhile_append_of_pos hinteger, List.dropWhile_append_of_pos hinteger]
  cases rest with
  | nil => simp
  | cons first rest =>
    have hfirst : first.isDigit = false := hrest first rfl
    simp [hfirst]

/-- A text of a sign, digits, a point with digits and an exponent is read. -/
theorem ofText_eq_some {integer fraction : List Char} {exponent : ℤ}
    (hinteger : ∀ c ∈ integer, c.isDigit = true) (hne : integer ≠ [])
    (hfraction : ∀ c ∈ fraction, c.isDigit = true) :
    ofText (String.ofList (signText negative ++ (integer ++
      (pointText fraction ++ exponentText exponent)))) =
      some ⟨negative, Nat.ofDigitChars 10 (integer ++ fraction) 0,
        exponent - fraction.length⟩ := by
  have hsign : readSign (signText negative ++ (integer ++
      (pointText fraction ++ exponentText exponent))) =
      (negative, integer ++ (pointText fraction ++ exponentText exponent)) := by
    cases negative with
    | true => rfl
    | false =>
      obtain ⟨first, rest, rfl⟩ := List.exists_cons_of_ne_nil hne
      have hfirst := hinteger first List.mem_cons_self
      change readSign (first :: _) = _
      unfold readSign
      split
      · next heq =>
        rw [(List.cons.inj heq).1] at hfirst
        cases hfirst
      · next heq =>
        rw [(List.cons.inj heq).1] at hfirst
        cases hfirst
      · rfl
  have hexponent : ∀ c ∈ (exponentText exponent).head?, c.isDigit = false := by
    unfold exponentText
    split
    · exact fun c hc => by cases hc
    · rintro c ⟨⟩
      rfl
  have hpoint : ∀ c ∈ (pointText fraction ++ exponentText exponent).head?,
      c.isDigit = false := by
    unfold pointText
    split
    · exact hexponent
    · rintro c ⟨⟩
      rfl
  have hread : readFraction (pointText fraction ++ exponentText exponent) =
      (fraction, exponentText exponent) := by
    unfold pointText
    split
    · next hnil =>
      subst hnil
      change readFraction (exponentText exponent) = _
      unfold exponentText
      split
      · rfl
      · rfl
    · obtain ⟨htake, hdrop⟩ := takeWhile_isDigit hfraction hexponent
      exact Prod.ext htake hdrop
  obtain ⟨htake, hdrop⟩ := takeWhile_isDigit hinteger hpoint
  unfold ofText
  simp only [String.toList_ofList, hsign, htake, hdrop, hread, readExponent_exponentText]
  rw [if_neg (by simp [hne])]
  rfl

/-- Reading the text of a number gives the number back. -/
@[simp] theorem ofText_str : ofText number.str = some number := by
  have hlength : 0 < number.digits.length := List.length_pos_iff.mpr digits_ne_nil
  have hleft : number.leftDigits = number.exponent + number.digits.length := rfl
  have hplace : number.pointPlace = number.leftDigits ∧ number.exponent ≤ 0 ∨
      number.pointPlace = 1 := by
    unfold pointPlace
    split
    · next h => exact Or.inl ⟨rfl, h.1⟩
    · exact Or.inr rfl
  have hzero {count : ℕ} {c : Char} (h : c ∈ List.replicate count '0') : c.isDigit = true := by
    rw [List.eq_of_mem_replicate h]
    rfl
  have hinteger : ∀ c ∈ number.integerPart, c.isDigit = true := by
    intro c hc
    unfold integerPart at hc
    split at hc
    · obtain rfl := List.mem_singleton.mp hc
      rfl
    · split at hc
      · exact (List.mem_append.mp hc).elim isDigit_digits hzero
      · exact isDigit_digits (List.mem_of_mem_take hc)
  have hfraction : ∀ c ∈ number.fractionPart, c.isDigit = true := by
    intro c hc
    unfold fractionPart at hc
    split at hc
    · exact (List.mem_append.mp hc).elim hzero isDigit_digits
    · split at hc
      · cases hc
      · exact isDigit_digits (List.mem_of_mem_drop hc)
  have hne : number.integerPart ≠ [] := by
    unfold integerPart
    split
    · exact List.cons_ne_nil _ _
    · split
      · simp [digits_ne_nil]
      · rw [ne_eq, List.take_eq_nil_iff]
        simp only [digits_ne_nil, or_false]
        omega
  have hdigits : Nat.ofDigitChars 10 number.digits 0 = number.coefficient :=
    Nat.ofDigitChars_ten_toDigits
  -- the digits of both parts are those of the coefficient, after zeros
  have hvalue : Nat.ofDigitChars 10 (number.integerPart ++ number.fractionPart) 0 =
      number.coefficient := by
    unfold integerPart fractionPart
    split
    · rw [Nat.ofDigitChars_append, Nat.ofDigitChars_append]
      simp [Nat.ofDigitChars_cons, hdigits]
    · split
      · next hplace' hle =>
        have hcount : number.pointPlace.toNat - number.digits.length = 0 := by omega
        simp [hcount, hdigits]
      · rw [List.take_append_drop, hdigits]
  have hscale : number.leftDigits - number.pointPlace - number.fractionPart.length =
      number.exponent := by
    unfold fractionPart
    split
    · simp
      omega
    · split
      · simp
        omega
      · simp
        omega
  rw [str, ofText_eq_some hinteger hne hfraction, hvalue, hscale]

end Decimal

end Lib
