import Mathlib.Algebra.Order.Round
import Mathlib.Data.Int.Log
import Mathlib.Data.Rat.Floor
import Mathlib.Tactic.Linarith
import Mathlib.Tactic.Positivity
import Mathlib.Tactic.FieldSimp
import Linkapro.Lib.Decimals

/-!
# Rounding to binary64

A rational number is rounded to the nearest number with 53 significant binary digits, a
tie to the even one, as the floating-point operations do below their overflow threshold.
What is rounded stays on its side of every number that is representable itself.
-/

namespace Lib.Binary64

/-- The integer nearest to a number, the even one of two. -/
def nearestEven (q : ℚ) : ℤ :=
  if q - ⌊q⌋ < 1 / 2 then ⌊q⌋
  else if 1 / 2 < q - ⌊q⌋ then ⌊q⌋ + 1
  else if Even ⌊q⌋ then ⌊q⌋
  else ⌊q⌋ + 1

/-- The distance of the representable numbers around a number. -/
def ulp (q : ℚ) : ℚ := 2 ^ (max (Int.log 2 |q|) (-1022) - 52)

/-- The representable number nearest to a number. -/
def round (q : ℚ) : ℚ := nearestEven (q / ulp q) * ulp q

/-- The value of a decimal number. -/
def valueOf (number : Decimal) : ℚ :=
  (if number.negative then -1 else 1) * number.coefficient * 10 ^ number.exponent

/-- The number that a text stands for, rounded. -/
def ofText (text : String) : Option ℚ := (Decimal.ofText text).map fun number => round (valueOf number)

/-- A number without the digits after its point. -/
def truncate (q : ℚ) : ℤ := if 0 ≤ q then ⌊q⌋ else ⌈q⌉

variable {q : ℚ} {k : ℤ} {e : ℕ}

theorem truncate_eq (hk : 0 ≤ k) (hlow : (k : ℚ) ≤ q) (hhigh : q < k + 1) : truncate q = k := by
  have hpos : 0 ≤ q := le_trans (by exact_mod_cast hk) hlow
  unfold truncate
  rw [if_pos hpos]
  exact Int.floor_eq_iff.mpr ⟨hlow, hhigh⟩

/-- No integer is passed upwards. -/
theorem le_nearestEven (h : (k : ℚ) ≤ q) : k ≤ nearestEven q := by
  have hfloor : k ≤ ⌊q⌋ := Int.le_floor.mpr h
  unfold nearestEven
  split
  · exact hfloor
  · split
    · omega
    · split
      · exact hfloor
      · omega

/-- The nearest integer is at most half a unit above. -/
theorem nearestEven_le : (nearestEven q : ℚ) ≤ q + 1 / 2 := by
  have hfloor : (⌊q⌋ : ℚ) ≤ q := Int.floor_le q
  unfold nearestEven
  split
  · linarith
  · next hhalf =>
    have habove : ((⌊q⌋ + 1 : ℤ) : ℚ) ≤ q + 1 / 2 := by
      push_cast
      linarith
    split
    · exact habove
    · split
      · linarith
      · exact habove

/-- A number less than half a unit above an integer. -/
theorem nearestEven_of_lt (hk : (k : ℚ) ≤ q) (hq : q < k + 1 / 2) : nearestEven q = k := by
  have hfloor : ⌊q⌋ = k := Int.floor_eq_iff.mpr ⟨hk, by linarith⟩
  unfold nearestEven
  rw [hfloor, if_pos (by linarith)]

/-- A number less than half a unit below an integer, or half a unit below an even one. -/
theorem nearestEven_of_gt (hk : q < k) (hq : (k : ℚ) - 1 / 2 < q ∨ (q = k - 1 / 2 ∧ Even k)) :
    nearestEven q = k := by
  have hbelow : (k : ℚ) - 1 / 2 ≤ q := hq.elim le_of_lt fun h => h.1.ge
  have hfloor : ⌊q⌋ = k - 1 := by
    rw [Int.floor_eq_iff]
    push_cast
    constructor
    · linarith
    · linarith
  unfold nearestEven
  rw [hfloor, if_neg (by push_cast; linarith)]
  rcases hq with hq | ⟨hq, heven⟩
  · rw [if_pos (by push_cast; linarith)]
    omega
  · rw [if_neg (by push_cast; linarith), if_neg]
    · omega
    · rw [Int.even_sub_one]
      exact not_not.mpr heven

theorem nearestEven_intCast : nearestEven (k : ℚ) = k :=
  nearestEven_of_lt le_rfl (by linarith)

/-- Rounding between two powers of two, as long as half a unit is representable there. -/
theorem round_eq (hlow : (2 : ℚ) ^ e ≤ q) (hhigh : q < 2 ^ (e + 1)) (he : e ≤ 52) :
    round q = nearestEven (q * 2 ^ (52 - e)) / 2 ^ (52 - e) := by
  have hpos : 0 < q := lt_of_lt_of_le (by positivity) hlow
  have hlog : Int.log 2 |q| = e := by
    rw [abs_of_pos hpos]
    apply le_antisymm
    · have h := (Int.lt_zpow_iff_log_lt Nat.one_lt_two hpos (x := (e : ℤ) + 1)).mp (by
        exact_mod_cast hhigh)
      omega
    · exact (Int.zpow_le_iff_le_log Nat.one_lt_two hpos).mp (by exact_mod_cast hlow)
  have hulp : ulp q = ((2 : ℚ) ^ (52 - e))⁻¹ := by
    unfold ulp
    rw [hlog, max_eq_left (by omega), ← zpow_natCast, ← zpow_neg]
    congr 1
    omega
  unfold round
  rw [hulp, div_inv_eq_mul, div_eq_mul_inv]

/-- An integer with few digits is representable. -/
theorem round_natCast {n : ℕ} (hn : 0 < n) (hlog : Nat.log 2 n ≤ 52) : round (n : ℚ) = n := by
  have hlow : (2 : ℚ) ^ Nat.log 2 n ≤ n := by exact_mod_cast Nat.pow_log_le_self 2 hn.ne'
  have hhigh : (n : ℚ) < 2 ^ (Nat.log 2 n + 1) := by
    exact_mod_cast Nat.lt_pow_succ_log_self Nat.one_lt_two n
  rw [round_eq hlow hhigh hlog]
  have hcast : (n : ℚ) * 2 ^ (52 - Nat.log 2 n) = ((n * 2 ^ (52 - Nat.log 2 n) : ℕ) : ℤ) := by
    push_cast
    ring
  rw [hcast, nearestEven_intCast]
  push_cast
  field_simp

/-- What is at most half a unit above an integer with few digits is cut off to it. -/
theorem truncate_round_of_lt_half {n : ℕ} (hn : 0 < n) (hlog : Nat.log 2 n ≤ 50)
    (hlow : (n : ℚ) ≤ q) (hhigh : q < n + 1 / 2) : truncate (round q) = n := by
  have hlowest : (2 : ℚ) ^ Nat.log 2 n ≤ n := by exact_mod_cast Nat.pow_log_le_self 2 hn.ne'
  have hnext : ((n : ℚ) + 1) ≤ 2 ^ (Nat.log 2 n + 1) := by
    exact_mod_cast Nat.lt_pow_succ_log_self Nat.one_lt_two n
  rw [round_eq (hlowest.trans hlow) (by linarith) (by omega)]
  set scale : ℚ := 2 ^ (52 - Nat.log 2 n) with hscale
  have hone : 1 ≤ scale := one_le_pow₀ (by norm_num)
  have hpos : 0 < scale := by positivity
  have hinteger : (n : ℚ) * scale = ((n * 2 ^ (52 - Nat.log 2 n) : ℕ) : ℤ) := by
    push_cast
    rfl
  have hbelow : (n : ℚ) * scale ≤ nearestEven (q * scale) := by
    rw [hinteger]
    have h : ((n * 2 ^ (52 - Nat.log 2 n) : ℕ) : ℤ) ≤ nearestEven (q * scale) := by
      apply le_nearestEven
      rw [← hinteger]
      exact mul_le_mul_of_nonneg_right hlow hpos.le
    exact_mod_cast h
  have habove : (nearestEven (q * scale) : ℚ) < (n + 1) * scale := by
    have h := nearestEven_le (q := q * scale)
    have hq : q * scale < (n + 1 / 2) * scale := mul_lt_mul_of_pos_right hhigh hpos
    linarith
  apply truncate_eq (by omega)
  · rw [Int.cast_natCast, le_div_iff₀ hpos]
    exact hbelow
  · rw [Int.cast_natCast, div_lt_iff₀ hpos]
    exact habove

/-- The nearest integer of a number less than a unit below an even one. -/
theorem nearestEven_below {part : ℚ} (hk : Even k) (hpos : 0 < part) (hpart : part < 1) :
    nearestEven (k - part) = if part ≤ 1 / 2 then k else k - 1 := by
  split
  · next hhalf =>
    apply nearestEven_of_gt
    · linarith
    · rcases lt_or_eq_of_le hhalf with hless | htie
      · exact .inl (by linarith)
      · exact .inr ⟨by rw [htie], hk⟩
  · apply nearestEven_of_lt
    · push_cast
      linarith
    · push_cast
      linarith

/-- What lies less than a unit of the last place below an integer with few digits is cut off to it
exactly when it is rounded up, that is, when it lies at most half a unit below. -/
theorem truncate_round_below_iff {n : ℕ} {part : ℚ} (hlog : Nat.log 2 n ≤ 50)
    (hlow : 2 ^ Nat.log 2 n < n) (hpos : 0 < part) (hpart : part * 2 ^ (52 - Nat.log 2 n) < 1) :
    truncate (round (n - part)) = n ↔ part * 2 ^ (52 - Nat.log 2 n) ≤ 1 / 2 := by
  have hn : 0 < n := Nat.zero_lt_of_lt hlow
  have hnext : (n : ℚ) < 2 ^ (Nat.log 2 n + 1) := by
    exact_mod_cast Nat.lt_pow_succ_log_self Nat.one_lt_two n
  have hlowest : (2 : ℚ) ^ Nat.log 2 n + 1 ≤ n := by exact_mod_cast hlow
  obtain ⟨scale, hscale⟩ : ∃ scale : ℚ, scale = 2 ^ (52 - Nat.log 2 n) := ⟨_, rfl⟩
  have hfour : 4 ≤ scale := by
    calc (4 : ℚ) = 2 ^ 2 := by norm_num
      _ ≤ scale := hscale ▸ pow_le_pow_right₀ (by norm_num) (by omega)
  rw [← hscale] at hpart ⊢
  have hless : part ≤ part * scale := le_mul_of_one_le_right hpos.le (by linarith)
  have hwhole : ((n * 2 ^ (52 - Nat.log 2 n) : ℕ) : ℤ) = (n : ℚ) * scale := by
    rw [hscale]
    push_cast
    rfl
  have heven : Even ((n * 2 ^ (52 - Nat.log 2 n) : ℕ) : ℤ) := by
    have htwo : 2 ∣ n * 2 ^ (52 - Nat.log 2 n) :=
      Dvd.dvd.mul_left (dvd_pow_self 2 (by omega)) n
    exact_mod_cast even_iff_two_dvd.mpr htwo
  rw [round_eq (e := Nat.log 2 n) (by linarith) (by linarith) (by omega), ← hscale, sub_mul,
    ← hwhole, nearestEven_below heven (by positivity) hpart]
  split
  · next hhalf =>
    refine iff_of_true (truncate_eq (by omega) ?_ ?_) hhalf
    · rw [hwhole, mul_div_cancel_right₀ _ (by positivity), Int.cast_natCast]
    · rw [hwhole, mul_div_cancel_right₀ _ (by positivity), Int.cast_natCast]
      linarith
  · next hhalf =>
    have hunit : 1 / scale ≤ 1 / 4 := one_div_le_one_div_of_le (by norm_num) hfour
    have hunitPos : 0 < 1 / scale := by positivity
    have hvalue : (((n * 2 ^ (52 - Nat.log 2 n) : ℕ) - 1 : ℤ) : ℚ) / scale = n - 1 / scale := by
      rw [Int.cast_sub, hwhole, Int.cast_one, sub_div, mul_div_cancel_right₀ _ (by positivity)]
    refine iff_of_false ?_ hhalf
    rw [hvalue, truncate_eq (k := n - 1) (by omega) ?_ ?_]
    · omega
    · push_cast
      linarith
    · push_cast
      linarith

end Lib.Binary64
