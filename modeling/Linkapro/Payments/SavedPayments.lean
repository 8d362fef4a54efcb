import Linkapro.Payments.PaymentLinks

/-!
# Payments: what a save keeps

A save writes every column of a payment apart from two: a new row gets an identifier of
its own, and the instant of its insertion as its creation time. The payment is read back
whole, and found by the audit log, exactly when these agree with the payment.
-/

namespace Linkapro.Payments

open Lib

variable {deployment : Deployment} {now : Datetime} {rowId : UUID} {payment : Payment}
  {db after : PaymentDb}

/-- The row that a save has written is the one of its reference. -/
theorem lookup_savePayment (h : db.savePayment deployment now rowId payment = .ok after) :
    ∃ row, after.payments.lookup payment.reference = some row ∧
      row.id = ((db.payments.lookup payment.reference).map PaymentRow.id).getD rowId ∧
      row.createdAt =
        (if (db.payments.lookup payment.reference).isSome then payment.createdAt else now) ∧
      row.toDomain = { payment with id := row.id, createdAt := row.createdAt } := by
  obtain ⟨_, _, ⟨_, _⟩⟩ := payment
  unfold PaymentDb.savePayment at h
  split at h
  · next method environment hmethod henvironment =>
    simp only at hmethod henvironment
    subst hmethod henvironment
    split at h
    · cases h
    · split at h
      · cases h
      · cases h
        exact ⟨_, Table.lookup_upsert_self, rfl, rfl, rfl⟩
  · cases h

/-- The row of the payment carries its identifier: it is stored already under this identifier, or
the identifier and the creation time of the new row happen to be those of the payment. -/
def Corresponds (db : PaymentDb) (payment : Payment) (rowId : UUID) (now : Datetime) : Prop :=
  match db.payments.lookup payment.reference with
  | some row => row.id = payment.id
  | none => rowId = payment.id ∧ now = payment.createdAt

/-- The saved payment is found as it was, and every audit entry that is written for it, as long as
its row is stored, is linked to that row. -/
structure KeptWhole (payment : Payment) (after : PaymentDb) : Prop where
  found : after.findByReference payment.reference = some payment
  linked : ∀ (later logged : PaymentDb) (event : AuditEvent) (instant : Datetime),
    event.paymentId = some payment.id →
    later.payments.lookup payment.reference = after.payments.lookup payment.reference →
    later.logAudit instant event = .ok logged →
    ∃ row entry, after.payments.lookup payment.reference = some row ∧
      logged.auditLog = entry :: later.auditLog ∧ entry.payment = some row.id

/-- An audit entry for a payment whose row is stored under its identifier is linked to it. -/
theorem logAudit_linked {later logged : PaymentDb} {event : AuditEvent} {instant : Datetime}
    {row : PaymentRow} (hevent : event.paymentId = some row.id)
    (hrow : later.payments.lookup row.reference = some row)
    (h : later.logAudit instant event = .ok logged) :
    ∃ entry, logged.auditLog = entry :: later.auditLog ∧ entry.payment = some row.id := by
  unfold PaymentDb.logAudit at h
  split at h
  · cases h
  · cases h
    refine ⟨_, rfl, ?_⟩
    have hstored : (later.payments.rows.any fun other => other.id = row.id) = true :=
      List.any_eq_true.mpr ⟨row, Table.mem_of_lookup hrow, by simp⟩
    rw [hevent]
    simp [hstored]

/-- A saved payment is found as it was exactly when its row carries its identifier, and its
creation time. -/
theorem findByReference_iff (hsaved : db.savePayment deployment now rowId payment = .ok after) :
    after.findByReference payment.reference = some payment ↔
      Corresponds db payment rowId now := by
  obtain ⟨row, hrow, hid, hcreated, hdomain⟩ := lookup_savePayment hsaved
  have hfound : after.findByReference payment.reference = some payment ↔
      row.id = payment.id ∧ row.createdAt = payment.createdAt := by
    unfold PaymentDb.findByReference
    rw [hrow, Option.map_some, Option.some_inj, hdomain]
    constructor
    · intro h
      exact ⟨congrArg Payment.id h, congrArg Payment.createdAt h⟩
    · rintro ⟨h, h'⟩
      rw [h, h']
  rw [hfound, hid, hcreated]
  unfold Corresponds
  cases db.payments.lookup payment.reference with
  | none => exact Iff.rfl
  | some old => exact and_iff_left rfl

/-- A saved payment is kept whole, and found by its audit entries, exactly when its row carries
its identifier, and its creation time. -/
theorem saved_whole_iff (deployment : Deployment) (now : Datetime) (rowId : UUID)
    (payment : Payment) (db after : PaymentDb)
    (hsaved : db.savePayment deployment now rowId payment = .ok after) :
    KeptWhole payment after ↔ Corresponds db payment rowId now := by
  constructor
  · exact fun h => (findByReference_iff hsaved).mp h.found
  · intro h
    have hfound := (findByReference_iff hsaved).mpr h
    refine ⟨hfound, ?_⟩
    intro later logged event instant hevent hstored hlog
    obtain ⟨row, hrow, hpayment⟩ := Option.map_eq_some_iff.mp hfound
    have hid : row.id = payment.id := congrArg Payment.id hpayment
    have hreference : row.reference = payment.reference := congrArg Payment.reference hpayment
    obtain ⟨entry, hentry, hlinked⟩ := logAudit_linked (hid ▸ hevent)
      (hreference ▸ hstored.trans hrow) hlog
    exact ⟨row, entry, hrow, hentry, hlinked⟩

/-- A stored payment that succeeds is kept whole when it is saved again. -/
theorem saved_whole_iff_sample :
    ∃ after, (stateWith pendingRow).db.savePayment sampleDeployment 5 9
      { pendingRow.toDomain with status := .success } = .ok after ∧
      KeptWhole { pendingRow.toDomain with status := .success } after :=
  ⟨_, rfl, (saved_whole_iff sampleDeployment 5 9 { pendingRow.toDomain with status := .success }
    (stateWith pendingRow).db _ rfl).mpr (show pendingRow.id = 1 from rfl)⟩

/-- A new payment is stored under another identifier than its own. -/
theorem new_payment_changed :
    ¬ ∀ (deployment : Deployment) (now : Datetime) (rowId : UUID) (payment : Payment)
      (db after : PaymentDb), db.savePayment deployment now rowId payment = .ok after →
      KeptWhole payment after := by
  intro h
  have hsaved : emptyState.db.savePayment sampleDeployment 5 9 pendingRow.toDomain = .ok _ := rfl
  obtain ⟨hid, -⟩ := (findByReference_iff hsaved).mp (h _ _ _ _ _ _ hsaved).found
  exact absurd hid (by decide)

end Linkapro.Payments
