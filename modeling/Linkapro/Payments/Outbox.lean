import Linkapro.Payments.Settlement

/-!
# Payments: the outbox of domain events

The deployed dispatcher has no `dispatch_after_commit`, so an event is inserted
by a callback that runs after the transaction of its transition, in a
transaction of its own. No transaction that records an event inserts it.
-/

namespace Linkapro.Payments

open Lib

variable {ι : Type} {deployment : Deployment} {now : Datetime} {choice : Choice}

/-- The events that the statements insert into the outbox. -/
def insertedEvents (body : List TxWrite) : List DomainEvent :=
  body.filterMap fun write =>
    match write with
    | .insertOutbox event => some event
    | _ => none

/-- A body without an insert keeps the outbox. -/
theorem runBody_outbox {k : ℕ} {body : List TxWrite} {db db' : PaymentDb}
    (h : runBody deployment now choice k body db = .ok db') (hinserts : insertedEvents body = []) :
    db'.outbox = db.outbox := by
  induction body generalizing k db with
  | nil => rw [runBody_nil h]
  | cons write body ih =>
    obtain ⟨middle, hwrite, hbody⟩ := runBody_cons h
    cases write with
    | saveEvent eventId status payload =>
      cases hwrite
      exact (ih hbody hinserts).trans rfl
    | savePayment payment =>
      obtain ⟨_, _, _, _, rfl⟩ := PaymentDb.savePayment_ok hwrite
      exact (ih hbody hinserts).trans rfl
    | logAudit event =>
      simp only [PaymentDb.applyWrite, PaymentDb.logAudit] at hwrite
      split at hwrite
      · cases hwrite
      · cases hwrite
        exact (ih hbody hinserts).trans rfl
    | insertOutbox event => cases hinserts
    | raising error => cases hwrite

/-- Every issued transaction inserts nothing, or is nothing but an insert. -/
theorem Issued.insertedEvents {call : PaymentCall} {log : PaymentLog} {body : List TxWrite}
    (h : Issued call log body) :
    Payments.insertedEvents body = [] ∨ ∃ event, body = [.insertOutbox event] := by
  cases h with
  | success origin found held_eq confirmed =>
    left
    unfold successBody
    rw [afterTransition_of_allowed (by rw [confirmed.pending]; decide)]
    rfl
  | expire call_eq held_eq expirable =>
    left
    unfold expireBody
    rw [afterTransition_of_allowed (by rcases expirable.1 with h | h <;> rw [h] <;> decide)]
    rfl
  | refund call_eq held_eq succeeded =>
    left
    unfold refundBody
    rw [afterTransition_of_allowed (by rw [succeeded]; decide)]
    rfl
  | outbox => exact Or.inr ⟨_, rfl⟩
  | _ => exact Or.inl rfl

/-- A step commits a transition that records a domain event: a payment has become
SUCCESS or EXPIRED, or a fraud signal has been logged. -/
def RecordsEvent (before after : PaymentDb) : Prop :=
  (∃ row' ∈ after.payments.rows, (row'.status = .success ∨ row'.status = .expired) ∧
    ∀ row ∈ before.payments.rows, row.reference = row'.reference → row.status ≠ row'.status) ∨
  ∃ entry ∈ after.auditLog, entry.action = "FRAUD_SIGNAL" ∧ entry ∉ before.auditLog

instance (before after : PaymentDb) : Decidable (RecordsEvent before after) :=
  inferInstanceAs (Decidable (_ ∨ _))

/-- An insert into the outbox records no event itself. -/
theorem not_recordsEvent_of_insert {k : ℕ} {event : DomainEvent} {db db' : PaymentDb}
    (h : runBody deployment now choice k [.insertOutbox event] db = .ok db') :
    ¬ RecordsEvent db db' := by
  obtain ⟨middle, hwrite, hbody⟩ := runBody_cons h
  rw [runBody_nil hbody]
  simp only [PaymentDb.applyWrite, PaymentDb.insertOutbox] at hwrite
  split at hwrite
  · cases hwrite
  · cases hwrite
    rintro (⟨row', hrow', _, hnew⟩ | ⟨entry, hentry, _, hnew⟩)
    · exact hnew row' hrow' rfl rfl
    · exact hnew hentry

/-- A step commits a new row of the outbox. -/
def EnqueuesEvent (before after : PaymentDb) : Prop :=
  ∃ row ∈ after.outbox.rows, row ∉ before.outbox.rows

instance (before after : PaymentDb) : Decidable (EnqueuesEvent before after) :=
  inferInstanceAs (Decidable (∃ _ ∈ _, _))

variable [DecidableEq ι] {calls : ι → PaymentCall}

/-- A turn that records an event keeps the outbox as it is. -/
theorem outbox_eq_of_recordsEvent {pool : PaymentPool ι} {turn : ι × Choice}
    (hpool : Pool.Disciplined (contracts calls) locksReleased pool)
    (hrecords : RecordsEvent pool.state.db
      (pool.step (PaymentState.exec deployment) turn).state.db) :
    (pool.step (PaymentState.exec deployment) turn).state.db.outbox = pool.state.db.outbox := by
  obtain ⟨i, choice⟩ := turn
  cases hrest : pool.rest i with
  | done outcome => rw [Pool.step_of_done hrest]
  | call op next =>
    rw [Pool.step_of_call hrest] at hrecords ⊢
    by_cases hatomic : ∃ body, op = .atomic body
    · obtain ⟨body, rfl⟩ := hatomic
      have hissued : Issued (calls i) (pool.log i) body := hpool.allowed_call hrest
      rcases exec_atomic deployment choice pool.state body with ⟨db, hrun, hexec⟩ | ⟨error, hexec⟩
      · rw [hexec] at hrecords ⊢
        rcases hissued.insertedEvents with hnone | ⟨event, rfl⟩
        · exact runBody_outbox hrun hnone
        · exact absurd hrecords (not_recordsEvent_of_insert hrun)
      · rw [hexec]
    · rw [exec_db_of_not_atomic fun body heq => hatomic ⟨body, heq⟩]

/-- In no run does a turn that commits a transition with a domain event commit a row of
the outbox with it. -/
theorem recorded_event_never_enqueued (deployment : Deployment) (s : PaymentState)
    (calls : ι → PaymentCall) (schedule : List (ι × Choice)) :
    Pool.Always (PaymentState.exec deployment)
      (fun pool turn =>
        RecordsEvent pool.state.db (pool.step (PaymentState.exec deployment) turn).state.db →
          ¬ EnqueuesEvent pool.state.db (pool.step (PaymentState.exec deployment) turn).state.db)
      (startCalls s calls) schedule := by
  refine disciplined_startCalls.always (answers_possible calls) fun pool turn hpool hrecords => ?_
  have hkept := outbox_eq_of_recordsEvent hpool hrecords
  rintro ⟨row, hrow, hnew⟩
  rw [hkept] at hrow
  exact hnew hrow

/-- A webhook that settles the payment and crashes after its commit. -/
def crashedWebhook : PaymentState :=
  ((startCalls (stateWith pendingRow) soleWebhook).run (PaymentState.exec sampleDeployment)
    (webhookTurns.take 7)).state

/-- The settlement is committed, and its event is not in the outbox. -/
theorem crash_loses_event :
    crashedWebhook.db.payments.rows.map PaymentRow.status = [.success] ∧
    crashedWebhook.db.outbox.rows = [] ∧
    ¬ Pool.Always (PaymentState.exec sampleDeployment)
      (fun pool turn =>
        RecordsEvent pool.state.db
            (pool.step (PaymentState.exec sampleDeployment) turn).state.db →
          EnqueuesEvent pool.state.db
            (pool.step (PaymentState.exec sampleDeployment) turn).state.db)
      (startCalls (stateWith pendingRow) soleWebhook) webhookTurns := by
  decide

end Linkapro.Payments
