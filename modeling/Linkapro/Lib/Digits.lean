import Mathlib.Algebra.Group.Nat.Defs
import Mathlib.Data.Nat.Notation
import Mathlib.Tactic.Common

/-!
# Numbers of a fixed width

The digits of a number in a base, padded to a width, most significant first, and the
number that digits stand for. A number that fits the width is read back.
-/

namespace Lib

variable {base width n digit : ℕ} {digits : List ℕ}

/-- The number that digits stand for. -/
def ofDigits (base : ℕ) (digits : List ℕ) : ℕ :=
  digits.foldl (fun value digit => base * value + digit) 0

/-- The digits of a number, padded to a width. Digits beyond the width are dropped. -/
def padded (base : ℕ) : ℕ → ℕ → List ℕ
  | 0, _ => []
  | width + 1, n => padded base width (n / base) ++ [n % base]

@[simp] theorem length_padded : (padded base width n).length = width := by
  induction width generalizing n with
  | zero => rfl
  | succ width ih => rw [padded, List.length_append, ih, List.length_singleton]

/-- A last digit is one step of the value. -/
theorem ofDigits_append_singleton :
    ofDigits base (digits ++ [digit]) = base * ofDigits base digits + digit := by
  simp only [ofDigits, List.foldl_append, List.foldl_cons, List.foldl_nil]

/-- A number that fits the width is read back. -/
theorem ofDigits_padded (h : n < base ^ width) : ofDigits base (padded base width n) = n := by
  induction width generalizing n with
  | zero =>
    rw [Nat.pow_zero] at h
    exact (Nat.lt_one_iff.mp h).symm
  | succ width ih =>
    have hquotient : n / base < base ^ width := by
      apply Nat.div_lt_of_lt_mul
      rwa [Nat.pow_succ, Nat.mul_comm] at h
    rw [padded, ofDigits_append_singleton, ih hquotient, Nat.div_add_mod]

/-- The digits are smaller than the base. -/
theorem lt_of_mem_padded (hbase : 0 < base) (h : digit ∈ padded base width n) : digit < base := by
  induction width generalizing n with
  | zero => exact absurd h List.not_mem_nil
  | succ width ih =>
    rcases List.mem_append.mp h with h | h
    · exact ih h
    · rw [List.mem_singleton.mp h]
      exact Nat.mod_lt _ hbase

/-- The value of a character among the given digits, in which its place is its value. -/
def digitOf (symbols : List Char) (c : Char) : Option ℕ :=
  let place := symbols.idxOf c
  if place < symbols.length then some place else none

/-- The symbol of a digit. -/
def symbolOf (symbols : List Char) (digit : ℕ) : Char := symbols.getD digit '?'

/-- The text of a number of a fixed width. -/
def paddedText (symbols : List Char) (width n : ℕ) : List Char :=
  (padded symbols.length width n).map (symbolOf symbols)

/-- Read a number. Other characters than the symbols are refused. -/
def readNumber (symbols : List Char) (text : List Char) : Option ℕ :=
  (text.mapM (digitOf symbols)).map (ofDigits symbols.length)

variable {symbols : List Char}

@[simp] theorem length_paddedText : (paddedText symbols width n).length = width := by
  rw [paddedText, List.length_map, length_padded]

/-- A symbol has the value of its place. -/
theorem digitOf_symbolOf (hsymbols : symbols.Nodup) (h : digit < symbols.length) :
    digitOf symbols (symbolOf symbols digit) = some digit := by
  have hsymbol : symbolOf symbols digit = symbols[digit] := by simp [symbolOf, h]
  have hplace : symbols.idxOf symbols[digit] = digit := hsymbols.idxOf_getElem digit h
  unfold digitOf
  rw [hsymbol, hplace]
  exact if_pos h

/-- A number of a fixed width is read back from its text. -/
theorem readNumber_paddedText (hsymbols : symbols.Nodup) (hn : n < symbols.length ^ width) :
    readNumber symbols (paddedText symbols width n) = some n := by
  have hdigits : ∀ digits : List ℕ, (∀ digit ∈ digits, digit < symbols.length) →
      (digits.map (symbolOf symbols)).mapM (digitOf symbols) = some digits := by
    intro digits hlt
    induction digits with
    | nil => rfl
    | cons digit digits ih =>
      rw [List.map_cons, List.mapM_cons, digitOf_symbolOf hsymbols (hlt digit List.mem_cons_self),
        ih fun digit hmem => hlt digit (List.mem_cons_of_mem _ hmem)]
      rfl
  have hbase (digit : ℕ) (hmem : digit ∈ padded symbols.length width n) :
      digit < symbols.length := by
    rcases Nat.eq_zero_or_pos symbols.length with hzero | hpos
    · rw [hzero] at hn hmem
      cases width with
      | zero => exact absurd hmem List.not_mem_nil
      | succ width => simp at hn
    · exact lt_of_mem_padded hpos hmem
  rw [readNumber, paddedText, hdigits _ hbase, Option.map_some, ofDigits_padded hn]

end Lib
