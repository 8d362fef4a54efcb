import Linkapro.Lib.Binary64
import Linkapro.Payments.Domain

/-!
# Payments: amounts on the way to the provider and back

An amount is sent as an exact decimal text. The report of the provider is read as a
binary64 number, multiplied by the minor units of the currency and cut off. The amount
comes back unless the first rounding goes so far down that the second does not make up
for it.
-/

namespace Linkapro.Payments

open Lib

/-- The decimals of a currency. -/
def Currency.decimals : Currency → ℕ
  | .rwf => 0
  | _ => 2

/-- `Decimal(coefficient) / Decimal(10 ** decimals)`. The quotient is exact, and its exponent is
as close to zero as its digits allow. -/
def decimalQuotient (coefficient : ℕ) : ℕ → Decimal
  | 0 => ⟨false, coefficient, 0⟩
  | decimals + 1 =>
    if coefficient % 10 = 0 then decimalQuotient (coefficient / 10) decimals
    else ⟨false, coefficient, -(decimals + 1 : ℕ)⟩

/-- `Money.to_decimal`. -/
def Money.toDecimal (money : Money) : Decimal :=
  decimalQuotient money.minorUnits.toNat money.currency.decimals

/-- `amount_minor_units` of `verify_transaction`: `int(float(amount) * 10 ** decimals)`. -/
def amountMinorUnits (amount : String) (currency : Currency) : Option ℤ :=
  (Binary64.ofText amount).map fun value =>
    Binary64.truncate (Binary64.round (value * 10 ^ currency.decimals))

/-- The quotient has the value of the division. -/
theorem valueOf_decimalQuotient (coefficient decimals : ℕ) :
    Binary64.valueOf (decimalQuotient coefficient decimals) = coefficient / 10 ^ decimals := by
  induction decimals generalizing coefficient with
  | zero => simp [decimalQuotient, Binary64.valueOf]
  | succ decimals ih =>
    unfold decimalQuotient
    split
    · next hdigit =>
      have hcoefficient : (coefficient : ℚ) = 10 * (coefficient / 10 : ℕ) := by
        exact_mod_cast (Nat.mul_div_cancel' (Nat.dvd_of_mod_eq_zero hdigit)).symm
      rw [ih, hcoefficient, pow_succ]
      field_simp
    · rw [Binary64.valueOf, zpow_neg, zpow_natCast]
      simp [div_eq_mul_inv]

/-- The exponent of two below an amount of hundredths, in whole units. -/
def unitLog (hundredths : ℕ) : ℕ := Nat.log 2 (hundredths / 100)

/-- What an amount is above the representable numbers below it, in hundredths of their distance. -/
def excess (hundredths : ℕ) : ℕ := hundredths * 2 ^ (52 - unitLog hundredths) % 100

/-- The binary64 number of an amount of hundredths is so far below it that the product with 100
is rounded down. -/
def RoundedDown (hundredths : ℕ) : Prop :=
  hundredths < 2 ^ (unitLog hundredths + 7) ∧ 32 < excess hundredths ∧ excess hundredths < 50

instance (hundredths : ℕ) : Decidable (RoundedDown hundredths) :=
  inferInstanceAs (Decidable (_ ∧ _))

section Hundredths

variable {n : ℕ}

theorem unitLog_le (hn : 100 ≤ n) : 100 * 2 ^ unitLog n ≤ n := by
  have h := Nat.pow_log_le_self 2 (show n / 100 ≠ 0 by omega)
  unfold unitLog
  omega

theorem lt_unitLog (n : ℕ) : n < 100 * 2 ^ (unitLog n + 1) := by
  have h := Nat.lt_pow_succ_log_self Nat.one_lt_two (n / 100)
  unfold unitLog
  omega

/-- Hundredths have six or seven binary digits more than the units. -/
theorem log_eq (hn : 100 ≤ n) :
    Nat.log 2 n = if n < 2 ^ (unitLog n + 7) then unitLog n + 6 else unitLog n + 7 := by
  have hlow := unitLog_le hn
  have hhigh := lt_unitLog n
  split
  · next h =>
    refine Nat.log_eq_of_pow_le_of_lt_pow ?_ h
    calc 2 ^ (unitLog n + 6) = 64 * 2 ^ unitLog n := by ring
      _ ≤ n := by omega
  · next h =>
    refine Nat.log_eq_of_pow_le_of_lt_pow (by omega) ?_
    calc n < 100 * 2 ^ (unitLog n + 1) := hhigh
      _ ≤ 128 * 2 ^ (unitLog n + 1) := by omega
      _ = 2 ^ (unitLog n + 7 + 1) := by ring

/-- The excess is no half of the distance. -/
theorem excess_ne_fifty (hn : unitLog n ≤ 50) : excess n ≠ 50 := by
  intro h
  have hfour : 4 ∣ n * 2 ^ (52 - unitLog n) :=
    Dvd.dvd.mul_left (pow_dvd_pow 2 (show 2 ≤ 52 - unitLog n by omega)) n
  unfold excess at h
  omega

/-- The amount is rounded to one of its two representable neighbours. -/
theorem round_hundredths (hn : 100 ≤ n) (hlog : unitLog n ≤ 50) :
    Binary64.round ((n : ℚ) / 100) * 100 =
      if excess n < 50 then (n : ℚ) - excess n / 2 ^ (52 - unitLog n)
      else (n : ℚ) + (100 - excess n) / 2 ^ (52 - unitLog n) := by
  have hlow : (2 : ℚ) ^ unitLog n ≤ n / 100 := by
    rw [le_div_iff₀ (by norm_num), mul_comm]
    exact_mod_cast unitLog_le hn
  have hhigh : (n : ℚ) / 100 < 2 ^ (unitLog n + 1) := by
    rw [div_lt_iff₀ (by norm_num), mul_comm]
    exact_mod_cast lt_unitLog n
  rw [Binary64.round_eq hlow hhigh (by omega)]
  set k := n * 2 ^ (52 - unitLog n) / 100 with hk
  have hsplit : n * 2 ^ (52 - unitLog n) = 100 * k + excess n := (Nat.div_add_mod _ _).symm
  have hsplitQ : (n : ℚ) * 2 ^ (52 - unitLog n) = 100 * k + excess n := by exact_mod_cast hsplit
  have hscaled : (n : ℚ) / 100 * 2 ^ (52 - unitLog n) = k + excess n / 100 := by
    rw [div_mul_eq_mul_div, hsplitQ]
    ring
  have hpos : (0 : ℚ) < 2 ^ (52 - unitLog n) := by positivity
  have hsmall : excess n < 100 := Nat.mod_lt _ (by norm_num)
  split
  · next hdown =>
    have hdownQ : (excess n : ℚ) < 50 := by exact_mod_cast hdown
    have hnearest : Binary64.nearestEven ((n : ℚ) / 100 * 2 ^ (52 - unitLog n)) = k := by
      rw [hscaled]
      apply Binary64.nearestEven_of_lt
      · push_cast
        have : (0 : ℚ) ≤ excess n := by positivity
        linarith
      · push_cast
        linarith
    rw [hnearest]
    field_simp
    push_cast
    linarith
  · next hup =>
    have hupQ : (50 : ℚ) < excess n := by
      have := excess_ne_fifty hlog
      exact_mod_cast (by omega : 50 < excess n)
    have hsmallQ : (excess n : ℚ) < 100 := by exact_mod_cast hsmall
    have hnearest : Binary64.nearestEven ((n : ℚ) / 100 * 2 ^ (52 - unitLog n)) = (k + 1 : ℕ) := by
      rw [hscaled]
      apply Binary64.nearestEven_of_gt
      · push_cast
        linarith
      · left
        push_cast
        linarith
    rw [hnearest]
    field_simp
    push_cast
    linarith

/-- No power of two is rounded down. -/
theorem excess_two_pow {e : ℕ} (hlow : 7 ≤ e) (hhigh : e < 26) : excess (2 ^ e) = 88 := by
  have hall : ∀ e < 26, 7 ≤ e → excess (2 ^ e) = 88 := by decide +kernel
  exact hall e hhigh hlow

/-- An amount below the hundredths comes back exactly when its excess is at most half of the
distance of the representable numbers around the hundredths. -/
theorem truncate_round_below (hn : 100 ≤ n) (hmax : n < 2 ^ 26) (hpos : 0 < excess n)
    (hdown : excess n < 50) :
    Binary64.truncate (Binary64.round ((n : ℚ) - excess n / 2 ^ (52 - unitLog n))) = n ↔
      ¬ RoundedDown n := by
  have hlow := Nat.pow_log_le_self 2 (show n ≠ 0 by omega)
  have hnext := Nat.lt_pow_succ_log_self Nat.one_lt_two n
  have hbound : Nat.log 2 n < 26 := Nat.log_lt_of_lt_pow (by omega) hmax
  have hsix : 6 ≤ Nat.log 2 n := Nat.le_log_of_pow_le Nat.one_lt_two (by omega)
  have hlt : 2 ^ Nat.log 2 n < n := by
    refine lt_of_le_of_ne hlow fun hpow => ?_
    have hseven : 7 ≤ Nat.log 2 n := by
      by_contra hless
      rw [show Nat.log 2 n = 6 by omega] at hpow
      omega
    have h := excess_two_pow hseven hbound
    rw [hpow] at h
    omega
  -- the distance around the hundredths is `2 ^ gap` times the one around the units
  obtain ⟨gap, hgap, hlog⟩ : ∃ gap : ℕ, (gap = 6 ∨ gap = 7) ∧ Nat.log 2 n = unitLog n + gap := by
    rw [log_eq hn]
    split
    · exact ⟨6, .inl rfl, rfl⟩
    · exact ⟨7, .inr rfl, rfl⟩
  have hdistance : (2 : ℚ) ^ (52 - unitLog n) = 2 ^ (52 - Nat.log 2 n) * 2 ^ gap := by
    rw [← pow_add]
    congr 1
    omega
  have hpart : (excess n : ℚ) / 2 ^ (52 - unitLog n) * 2 ^ (52 - Nat.log 2 n) =
      excess n / 2 ^ gap := by
    rw [hdistance]
    field_simp
  have hposQ : (0 : ℚ) < excess n := by exact_mod_cast hpos
  have hone : (excess n : ℚ) / 2 ^ gap < 1 := by
    rw [div_lt_one (by positivity)]
    have hsmall : excess n < 2 ^ gap := by
      rcases hgap with rfl | rfl
      · omega
      · omega
    exact_mod_cast hsmall
  have hhalf : (excess n : ℚ) / 2 ^ gap ≤ 1 / 2 ↔ 2 * excess n ≤ 2 ^ gap := by
    rw [div_le_div_iff₀ (by positivity) (by norm_num), one_mul, mul_comm]
    exact_mod_cast Iff.rfl
  rw [Binary64.truncate_round_below_iff (by omega) hlt (by positivity) (hpart ▸ hone), hpart, hhalf]
  unfold RoundedDown
  rcases hgap with rfl | rfl
  · have hfew : n < 2 ^ (unitLog n + 7) := lt_of_lt_of_eq hnext (by rw [hlog])
    omega
  · have hmany : ¬ n < 2 ^ (unitLog n + 7) := by
      rw [← hlog]
      omega
    omega

theorem unitLog_lt (hn : 100 ≤ n) (hmax : n < 2 ^ 26) : unitLog n < 20 := by
  have hlow := unitLog_le hn
  have hpow : 2 ^ unitLog n < 2 ^ 20 := by omega
  exact (Nat.pow_lt_pow_iff_right Nat.one_lt_two).mp hpow

/-- Hundredths come back from two roundings exactly when they are not rounded down. -/
theorem truncate_round_iff (hn : 100 ≤ n) (hmax : n < 2 ^ 26) :
    Binary64.truncate (Binary64.round (Binary64.round ((n : ℚ) / 100) * 100)) = n ↔
      ¬ RoundedDown n := by
  have hlog := unitLog_lt hn hmax
  have hbound : Nat.log 2 n < 26 := Nat.log_lt_of_lt_pow (by omega) hmax
  rw [round_hundredths hn (by omega)]
  split
  · next hdown =>
    rcases Nat.eq_zero_or_pos (excess n) with hzero | hpos
    · rw [hzero, Nat.cast_zero, zero_div, sub_zero, Binary64.round_natCast (by omega) (by omega)]
      refine iff_of_true (Binary64.truncate_eq (by omega) ?_ ?_) ?_
      · rw [Int.cast_natCast]
      · rw [Int.cast_natCast]
        linarith
      · rintro ⟨-, hexcess, -⟩
        omega
    · exact truncate_round_below hn hmax hpos hdown
  · next hup =>
    have hsmall : excess n < 100 := Nat.mod_lt _ (by norm_num)
    have hupQ : (50 : ℚ) ≤ excess n := by exact_mod_cast not_lt.mp hup
    have hsmallQ : (excess n : ℚ) < 100 := by exact_mod_cast hsmall
    have hscale : (128 : ℚ) ≤ 2 ^ (52 - unitLog n) := by
      calc (128 : ℚ) = 2 ^ 7 := by norm_num
        _ ≤ 2 ^ (52 - unitLog n) := pow_le_pow_right₀ (by norm_num) (by omega)
    have hpart : (100 - excess n : ℚ) / 2 ^ (52 - unitLog n) < 1 / 2 := by
      rw [div_lt_iff₀ (by positivity)]
      linarith
    have hpartPos : 0 ≤ (100 - excess n : ℚ) / 2 ^ (52 - unitLog n) :=
      div_nonneg (by linarith) (by positivity)
    refine iff_of_true (Binary64.truncate_round_of_lt_half (by omega) (by omega) ?_ ?_) ?_
    · linarith
    · linarith
    · rintro ⟨-, -, hexcess⟩
      exact hup hexcess

end Hundredths

/-- The amounts that come back from the provider: those without decimals, and those whose binary
number is not rounded down. -/
def ComesBack (money : Money) : Prop :=
  money.currency = .rwf ∨ ¬ RoundedDown money.minorUnits.toNat

/-- What is read from the text of an amount. -/
theorem amountMinorUnits_toDecimal (money : Money) :
    amountMinorUnits money.toDecimal.str money.currency =
      some (Binary64.truncate (Binary64.round
        (Binary64.round (money.minorUnits.toNat / 10 ^ money.currency.decimals) *
          10 ^ money.currency.decimals))) := by
  unfold amountMinorUnits Binary64.ofText Money.toDecimal
  rw [Decimal.ofText_str, Option.map_some, Option.map_some, valueOf_decimalQuotient]

/-- A reported amount gives the minor units of the payment exactly when it comes back. -/
theorem amountMinorUnits_eq_iff (money : Money) :
    amountMinorUnits money.toDecimal.str money.currency = some money.minorUnits ↔
      ComesBack money := by
  obtain ⟨minorUnits, currency, hmin, hmax⟩ := money
  obtain ⟨n, rfl⟩ : ∃ n : ℕ, minorUnits = n :=
    ⟨minorUnits.toNat, (Int.toNat_of_nonneg (le_trans (by simp [Currency.minMinor]) hmin)).symm⟩
  have hn : 100 ≤ n := Int.ofNat_le.mp hmin
  have hlimit : n < 2 ^ 26 := by
    have hall : ∀ currency : Currency, currency.maxMinor < 2 ^ 26 := by
      intro currency
      cases currency <;> decide
    have h := lt_of_le_of_lt hmax (hall currency)
    exact_mod_cast h
  have hwhole : Binary64.truncate (Binary64.round (Binary64.round (n : ℚ))) = n := by
    have hlog : Nat.log 2 n < 26 := Nat.log_lt_of_lt_pow (by omega) hlimit
    rw [Binary64.round_natCast (by omega) (by omega), Binary64.round_natCast (by omega) (by omega)]
    apply Binary64.truncate_eq (by omega)
    · rw [Int.cast_natCast]
    · rw [Int.cast_natCast]
      linarith
  have hhundredths := truncate_round_iff hn hlimit
  rw [amountMinorUnits_toDecimal, Option.some_inj]
  unfold ComesBack
  cases currency with
  | rwf =>
    simp only [Currency.decimals, pow_zero, div_one, mul_one, Int.toNat_natCast]
    exact iff_of_true hwhole (.inl trivial)
  | usd | eur | kes | ghs | ngn =>
    simp only [Currency.decimals, Int.toNat_natCast, reduceCtorEq, false_or]
    rw [← hhundredths]
    norm_num

/-- The policy reports an amount that differs. -/
theorem mem_confirmReasons_amount {payment : Payment} {context : ConfirmContext} {now : Datetime} :
    ("Amount mismatch", true) ∈ PaymentPolicy.confirmReasons payment context now ↔
      context.providerAmountMinor ≠ payment.amount.minorUnits := by
  unfold PaymentPolicy.confirmReasons
  simp only [List.mem_append, List.mem_ite_nil_right, List.mem_singleton, Prod.mk.injEq]
  constructor
  · rintro ((((((⟨_, _, h⟩ | ⟨_, _, h⟩) | ⟨_, h, _⟩) | ⟨h, _⟩) | ⟨_, h, _⟩) | ⟨_, _, h⟩) | ⟨_, _, h⟩)
    · cases h
    · cases h
    · exact absurd h (by decide)
    · exact h
    · exact absurd h (by decide)
    · cases h
    · cases h
  · intro h
    exact .inl (.inl (.inl (.inr ⟨h, trivial⟩)))

/-- An amount that the provider reports as it was sent is read as the minor units of the payment
exactly when it comes back, and it is an amount mismatch otherwise. -/
theorem verified_amount_iff (money : Money) :
    (amountMinorUnits money.toDecimal.str money.currency = some money.minorUnits ↔
      ComesBack money) ∧
    ∀ (payment : Payment) (context : ConfirmContext) (now : Datetime), payment.amount = money →
      amountMinorUnits money.toDecimal.str money.currency = some context.providerAmountMinor →
        (("Amount mismatch", true) ∈ PaymentPolicy.confirmReasons payment context now ↔
          ¬ ComesBack money) := by
  refine ⟨amountMinorUnits_eq_iff money, ?_⟩
  rintro payment context now rfl hread
  rw [mem_confirmReasons_amount, ← amountMinorUnits_eq_iff, hread, ne_eq, Option.some_inj]

/-- A pending payment of 4 dollars. -/
def fourDollars : Payment where
  id := 1
  userId := 7
  amount := ⟨400, .usd, by decide⟩
  method := .member .card
  reference := "pay_1"
  idempotencyKey := "key_1"
  environment := .member .test
  status := .pending
  providerReference := some "flw_1"
  contextReference := none
  metadata := ⟨[], Metadata.atMostTen_nil, Metadata.primitive_nil⟩
  createdAt := 0
  expiresAt := minutes 30

/-- The report of the provider on it. -/
def fourDollarsPaid : ConfirmContext where
  providerVerified := true
  providerReference := .text "flw_1"
  providerAmountMinor := 400
  providerCurrency := "USD"
  environment := "test"

/-- Four dollars come back, and are no amount mismatch. -/
theorem verified_amount_iff_sample :
    amountMinorUnits fourDollars.amount.toDecimal.str .usd = some 400 ∧
      ("Amount mismatch", true) ∉ PaymentPolicy.confirmReasons fourDollars fourDollarsPaid 0 := by
  have hback : ComesBack fourDollars.amount := by
    unfold ComesBack
    decide +kernel
  have hread := (verified_amount_iff fourDollars.amount).1.mpr hback
  exact ⟨hread, fun hmismatch =>
    ((verified_amount_iff fourDollars.amount).2 fourDollars fourDollarsPaid 0 rfl hread).mp
      hmismatch hback⟩

/-- 4.35 dollars are read as 434 cents. -/
theorem amount_rounded_down :
    ¬ ∀ money : Money,
      amountMinorUnits money.toDecimal.str money.currency = some money.minorUnits := by
  intro h
  have hback := (amountMinorUnits_eq_iff ⟨435, .usd, by decide⟩).mp (h _)
  exact absurd hback (by unfold ComesBack; decide +kernel)

end Linkapro.Payments
