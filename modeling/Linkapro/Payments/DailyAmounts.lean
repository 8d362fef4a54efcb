import Linkapro.Payments.Settlement
import Linkapro.Payments.Velocity

/-!
# Payments: the daily amount

The velocity check compares the amount that a user has paid in the last day with the
limit, before the new payment is added. In a sequential run the RWF payments of every
day stay within the limit as long as each new amount still fits when it is saved.
-/

namespace Linkapro.Payments

open Lib

variable {deployment : Deployment} {choice : Choice} {s : PaymentState}

/-- `max_amount_day_minor`. -/
def maxAmountDayMinor : ℤ := 2000000

/-- The RWF payments of a user. -/
def PaymentDb.rwfPayments (db : PaymentDb) (userId : UUID) : List PaymentRow :=
  db.payments.rows.filter fun row => row.userId = userId ∧ row.amount.currency = .rwf

/-- What a user's RWF payments that were created in a period amount to. -/
def PaymentDb.rwfAmountIn (db : PaymentDb) (userId : UUID) (first last : Datetime) : ℤ :=
  (((db.rwfPayments userId).filter fun row => first ≤ row.createdAt ∧ row.createdAt ≤ last).map
    fun row => row.amount.minorUnits).sum

/-- What a user's RWF payments that were created since an instant amount to. -/
def PaymentDb.rwfAmountSince (db : PaymentDb) (userId : UUID) (first : Datetime) : ℤ :=
  (((db.rwfPayments userId).filter fun row => first ≤ row.createdAt).map
    fun row => row.amount.minorUnits).sum

/-- On this turn, an initiation that saves an RWF payment still fits into the day before its
velocity check. -/
def FitsDay (deployment : Deployment) (pool : PaymentPool Unit) (turn : Unit × Choice) : Prop :=
  ∀ payment ∈ savedOnTurn deployment pool turn,
    ∀ check ∈ (pool.log turn.1).flatMap velocityChecks, payment.amount.currency = .rwf →
      pool.state.db.rwfAmountSince payment.userId (check.1 - days 1) +
        payment.amount.minorUnits ≤ maxAmountDayMinor

instance (deployment : Deployment) (pool : PaymentPool Unit) (turn : Unit × Choice) :
    Decidable (FitsDay deployment pool turn) :=
  inferInstanceAs (Decidable (∀ _ ∈ _, _))

/-- An RWF payment of the user weighs its amount. -/
def rwfOf (userId : UUID) (row : PaymentRow) : ℤ :=
  if row.userId = userId ∧ row.amount.currency = .rwf then row.amount.minorUnits else 0

theorem rwfOf_nonneg (userId : UUID) (row : PaymentRow) : 0 ≤ rwfOf userId row := by
  unfold rwfOf
  split
  · exact row.amount.minorUnits_nonneg
  · exact le_rfl

theorem load_rwfOf {db : PaymentDb} {userId : UUID} {first last : Datetime} :
    load PaymentRow.createdAt (rwfOf userId) first last db.payments.rows =
      db.rwfAmountIn userId first last := load_ite

theorem loadSince_rwfOf {db : PaymentDb} {userId : UUID} {first : Datetime} :
    loadSince PaymentRow.createdAt (rwfOf userId) first db.payments.rows =
      db.rwfAmountSince userId first := loadSince_ite

/-- The daily amounts of all users are within the limit. -/
def DaysLimited (s : PaymentState) : Prop :=
  ∀ userId, Limited PaymentRow.createdAt (rwfOf userId) (days 1) maxAmountDayMinor
    s.db.payments.rows

/-- What holds between the turns of a lone call. -/
structure DayPool (pool : PaymentPool Unit) : Prop where
  clocked : ∀ i, Clocked pool.state.clock (pool.log i)
  fresh : Fresh pool
  limited : DaysLimited pool.state

/-- Turns on which a new payment still fits keep the daily amounts within the limit. -/
theorem keeps_dayPool {call : PaymentCall} {post : Unit → PaymentLog →
    Except PaymentError Unit → Prop} :
    Pool.Keeps (PaymentState.exec deployment) (fun _ => saveContract call) post
      (FitsDay deployment) DayPool := by
  intro pool i choice op next _ hday hfits hrest hallowed
  refine ⟨Clocked.step hday.clocked (i, choice), hday.fresh.step hrest choice, ?_⟩
  have hchange := change_of_allowed deployment hallowed choice pool.state
  unfold FitsDay at hfits
  rw [savedOnTurn_of_call hrest] at hfits
  intro userId
  rw [Pool.step_of_call hrest]
  refine hchange.limited (hday.limited userId) (rwfOf_nonneg userId)
    ((hday.clocked i).mono (Int.le_add_of_nonneg_right (Int.natCast_nonneg _))) ?_ ?_
  · intro payment row hheld _ huser hamount
    obtain ⟨old, hold, rfl⟩ := hday.fresh _ payment hheld
    refine ⟨old, hold, rfl, ?_⟩
    unfold rwfOf
    rw [huser, hamount]
    rfl
  · intro cmd initiation auditId row hlog hsaved huser hamount
    by_cases hcounts : row.userId = userId ∧ row.amount.currency = .rwf
    · right
      have hcheck := hfits initiation.payment
        (by rw [hsaved]; exact List.mem_singleton_self _) (initiation.now, initiation.velocity)
        (by
          rw [hlog]
          simp [Initiation.logBefore, Initiation.log, Checks.log, velocityChecks])
        (by rw [← hcounts.2, hamount]; rfl)
      have hweight : rwfOf userId row = row.amount.minorUnits := if_pos hcounts
      rw [loadSince_rwfOf, hweight, hamount, ← hcounts.1, huser]
      exact hcheck
    · exact Or.inl (if_neg hcounts)

/-- User 7 initiates a payment of the given amount. -/
def sampleAmount (amount : Money) : PaymentCall :=
  .initiatePayment { sampleInitiate "key_1" with amount }

/-- The state two days after the account was opened. -/
def secondDay : PaymentState := { emptyState with clock := days 2 }

end Linkapro.Payments
