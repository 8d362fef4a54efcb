import Linkapro.Payments.Retry

/-!
# Payments: the settlement of a webhook

In a sequential run a payment becomes SUCCESS in one transaction only: the one
of a webhook whose verification agrees with the stored payment. That transaction
also writes the audit entry and the final status of the event. A transaction
that raises leaves the database as it was, and the call gives up its lock.
-/

namespace Linkapro.Payments

open Lib

variable {deployment : Deployment} {now : Datetime} {choice : Choice}

/-- The actions that the statements add to the audit log. -/
def loggedActions (body : List TxWrite) : List String :=
  body.filterMap fun write =>
    match write with
    | .logAudit event => some event.action
    | _ => none

/-- The entries of the audit log with the action `SUCCESS`. -/
def successAudits (db : PaymentDb) : List AuditRow :=
  db.auditLog.filter fun row => row.action = "SUCCESS"

/-- A body that logs no `SUCCESS` keeps those entries. -/
theorem runBody_successAudits {k : ℕ} {body : List TxWrite} {db db' : PaymentDb}
    (h : runBody deployment now choice k body db = .ok db')
    (hactions : "SUCCESS" ∉ loggedActions body) : successAudits db' = successAudits db := by
  induction body generalizing k db with
  | nil => rw [runBody_nil h]
  | cons write body ih =>
    obtain ⟨middle, hwrite, hbody⟩ := runBody_cons h
    cases write with
    | saveEvent eventId status payload =>
      cases hwrite
      exact (ih hbody hactions).trans rfl
    | savePayment payment =>
      obtain ⟨_, _, _, _, rfl⟩ := PaymentDb.savePayment_ok hwrite
      exact (ih hbody hactions).trans rfl
    | logAudit event =>
      have hcons : loggedActions (.logAudit event :: body) = event.action :: loggedActions body :=
        rfl
      rw [hcons, List.mem_cons, not_or] at hactions
      rw [ih hbody hactions.2]
      simp only [PaymentDb.applyWrite, PaymentDb.logAudit] at hwrite
      split at hwrite
      · cases hwrite
      · cases hwrite
        simp [successAudits, Ne.symm hactions.1]
    | insertOutbox event =>
      simp only [PaymentDb.applyWrite, PaymentDb.insertOutbox] at hwrite
      split at hwrite
      · cases hwrite
      · cases hwrite
        exact (ih hbody hactions).trans rfl
    | raising error => cases hwrite

/-- A step that settles nothing: no payment becomes SUCCESS, no `SUCCESS` entry is
logged and no event becomes `PROCESSED_SUCCESS`. -/
structure NothingSettled (before after : PaymentDb) : Prop where
  payments : ∀ reference row', after.payments.lookup reference = some row' →
    row'.status = .success →
      ∃ row, before.payments.lookup reference = some row ∧ row.status = .success
  audits : successAudits after = successAudits before
  events : ∀ row ∈ after.events.rows, row.status = "PROCESSED_SUCCESS" → row ∈ before.events.rows

theorem NothingSettled.refl (db : PaymentDb) : NothingSettled db db :=
  ⟨fun _ row' h hstatus => ⟨row', h, hstatus⟩, rfl, fun _ h _ => h⟩

/-- A body without the marks of a settlement. -/
structure Unsettling (body : List TxWrite) : Prop where
  saves : savedPayments body = [] ∨
    ∃ payment, savedPayments body = [payment] ∧ payment.status ≠ .success
  actions : "SUCCESS" ∉ loggedActions body
  events : "PROCESSED_SUCCESS" ∉ (savedEvents body).map Prod.snd

/-- A body without the marks of a settlement settles nothing. -/
theorem Unsettling.nothingSettled {k : ℕ} {body : List TxWrite} {db db' : PaymentDb}
    (hbody : Unsettling body) (h : runBody deployment now choice k body db = .ok db') :
    NothingSettled db db' := by
  refine ⟨fun reference row' hrow' hstatus => ?_, runBody_successAudits h hbody.actions,
    fun row hrow hstatus => ?_⟩
  · have hrows := runBody_payments h reference
    rcases hbody.saves with hnone | ⟨payment, hsaves, hne⟩
    · rw [hrows.1 (by rw [hnone]; exact List.not_mem_nil)] at hrow'
      exact ⟨row', hrow', hstatus⟩
    · by_cases href : payment.reference = reference
      · obtain ⟨_, _, row, _, _, hrow, hlookup⟩ := hrows.2 payment hsaves href
        rw [hlookup] at hrow'
        cases hrow'
        rw [hrow] at hstatus
        exact absurd hstatus hne
      · rw [hrows.1 (by rw [hsaves]; simpa using Ne.symm href)] at hrow'
        exact ⟨row', hrow', hstatus⟩
  · rcases (runBody_events h).2 row hrow with hold | hnew
    · exact hold
    · exact absurd (hstatus ▸ hnew) hbody.events

/-- The marks are read off the lists of logged actions and of saved statuses. -/
theorem Unsettling.of_lists {body : List TxWrite} (actions statuses : List String)
    (hsaves : savedPayments body = [] ∨
      ∃ payment, savedPayments body = [payment] ∧ payment.status ≠ .success)
    (hactions : loggedActions body = actions)
    (hstatuses : (savedEvents body).map Prod.snd = statuses)
    (haction : "SUCCESS" ∉ actions) (hstatus : "PROCESSED_SUCCESS" ∉ statuses) :
    Unsettling body :=
  ⟨hsaves, hactions ▸ haction, hstatuses ▸ hstatus⟩

/-- Every issued body but that of a confirmed payment is without the marks of a settlement. -/
theorem Issued.unsettling_or_success {call : PaymentCall} {log : PaymentLog} {body : List TxWrite}
    (h : Issued call log body) :
    Unsettling body ∨
      ∃ cmd providerRef verification payment auditId, body = successBody cmd payment auditId [] ∧
        WebhookOrigin call log cmd ∧ FoundVerified providerRef verification payment log ∧
        held payment.reference log = some payment ∧
        PaymentPolicy.Confirmed payment (confirmContext verification payment) cmd.now := by
  cases h with
  | @lone cmd status origin status_mem =>
    have hstatus : ∀ status ∈ loneStatuses, "PROCESSED_SUCCESS" ∉ [status] := by decide
    exact Or.inl (.of_lists [] [status] (Or.inl rfl) rfl rfl (by decide) (hstatus _ status_mem))
  | unknown origin =>
    exact Or.inl (.of_lists ["UNKNOWN_PAYMENT"] ["REJECTED_UNKNOWN"] (Or.inl rfl) rfl rfl
      (by decide) (by decide))
  | fraud origin =>
    exact Or.inl (.of_lists ["FRAUD_SIGNAL"] ["PROCESSING", "FRAUD_DETECTED"] (Or.inl rfl) rfl rfl
      (by decide) (by decide))
  | success origin found held_eq confirmed =>
    exact Or.inr ⟨_, _, _, _, _, rfl, origin, found, held_eq, confirmed⟩
  | reject origin =>
    exact Or.inl (.of_lists ["WEBHOOK_REJECTED"] ["PROCESSING", "REJECTED_POLICY"] (Or.inl rfl)
      rfl rfl (by decide) (by decide))
  | expire call_eq held_eq expirable =>
    left
    unfold expireBody
    rw [afterTransition_of_allowed (by rcases expirable.1 with h | h <;> rw [h] <;> decide)]
    exact .of_lists ["EXPIRE"] [] (Or.inr ⟨_, rfl, by simp⟩) rfl rfl (by decide) (by decide)
  | refund call_eq held_eq succeeded =>
    left
    unfold refundBody
    rw [afterTransition_of_allowed (by rw [succeeded]; decide)]
    exact .of_lists ["REFUND_REQUESTED"] [] (Or.inr ⟨_, rfl, by simp⟩) rfl rfl (by decide)
      (by decide)
  | initiate call_eq pending environment =>
    exact Or.inl (.of_lists ["INITIATE"] [] (Or.inr ⟨_, rfl, by rw [pending]; decide⟩) rfl rfl
      (by decide) (by decide))
  | velocityBlock =>
    exact Or.inl (.of_lists ["VELOCITY_BLOCK"] [] (Or.inl rfl) rfl rfl (by decide) (by decide))
  | outbox => exact Or.inl (.of_lists [] [] (Or.inl rfl) rfl rfl (by decide) (by decide))

/-- A settlement: the payment of `reference` was pending and unexpired, the provider has
verified the transaction with the stored reference, amount and currency, and the
status, one audit entry and the final status of the event have been written. -/
structure Settled (cmd : ProcessWebhookCommand) (verification : VerifiedTransaction)
    (reference : String) (before after : PaymentDb) : Prop where
  payment : ∃ row row', before.payments.lookup reference = some row ∧
    row.status = .pending ∧ ¬ row.expiresAt < cmd.now ∧
    verification.status = "successful" ∧
    verification.providerReference = .ofOption row.providerReference ∧
    verification.amountMinorUnits = row.amount.minorUnits ∧
    verification.currencyCode = row.amount.currency.code ∧
    after.payments.lookup reference = some row' ∧ row'.status = .success ∧
    ∃ entry, successAudits after = entry :: successAudits before ∧ entry.payment = some row.id
  event : (after.events.lookup cmd.eventId).map WebhookEventRow.status = some "PROCESSED_SUCCESS"
  otherPayments : ∀ other, other ≠ reference →
    after.payments.lookup other = before.payments.lookup other
  otherEvents : ∀ other, other ≠ cmd.eventId →
    after.events.lookup other = before.events.lookup other

/-- What the four statements of a settlement write, for any payment and audit event. -/
theorem runBody_settlement {k : ℕ} {eventId first second : String} {payload : WebhookPayload}
    {paid : Payment} {audit : AuditEvent} {db db' : PaymentDb}
    (h : runBody deployment now choice k
      [.saveEvent eventId first payload, .savePayment paid, .logAudit audit,
        .saveEvent eventId second payload] db = .ok db') :
    ∃ row' entry, db'.payments = db.payments.upsert row' ∧
      row'.reference = paid.reference ∧ row'.status = paid.status ∧
      (∀ row, db.payments.lookup paid.reference = some row → row'.id = row.id) ∧
      db'.auditLog = entry :: db.auditLog ∧ entry.action = audit.action ∧
      entry.payment = audit.paymentId.filter (fun id =>
        (db.payments.upsert row').rows.any fun row => row.id = id) ∧
      (db'.events.lookup eventId).map WebhookEventRow.status = some second ∧
      ∀ other, other ≠ eventId → db'.events.lookup other = db.events.lookup other := by
  have hevents := (runBody_events h).1
  obtain ⟨db₁, hevent₁, h⟩ := runBody_cons h
  obtain ⟨db₂, hsave, h⟩ := runBody_cons h
  obtain ⟨db₃, haudit, h⟩ := runBody_cons h
  obtain ⟨db₄, hevent₂, h⟩ := runBody_cons h
  rw [runBody_nil h] at hevents ⊢
  obtain ⟨method, environment, _, _, hdb₂⟩ := PaymentDb.savePayment_ok hsave
  have hdb₁ : db₁ = db.saveEvent now eventId first payload := (Except.ok.inj hevent₁).symm
  have hdb₄ : db₄ = db₃.saveEvent now eventId second payload := (Except.ok.inj hevent₂).symm
  have hdb₃ : db₃ = { db₂ with
      auditLog :=
        { id := audit.id
          payment := audit.paymentId.filter fun id => db₂.payments.rows.any fun row => row.id = id
          action := audit.action
          actor := audit.actor
          details := audit.details
          createdAt := now } :: db₂.auditLog } := by
    simp only [PaymentDb.applyWrite, PaymentDb.logAudit] at haudit
    split at haudit
    · cases haudit
    · exact (Except.ok.inj haudit).symm
  subst hdb₁ hdb₂ hdb₃ hdb₄
  refine ⟨_, _, rfl, rfl, rfl, fun row hrow => ?_, rfl, rfl, rfl, ?_, fun other hother => ?_⟩
  · simp only [PaymentDb.rowOf, PaymentDb.saveEvent, hrow]
    rfl
  · exact congrArg (Option.map WebhookEventRow.status) Table.lookup_upsert_self
  · exact hevents other (by simpa [savedEvents] using hother)

/-- The transaction of a confirmed payment settles the stored payment that it was read from. -/
theorem settled_of_successBody {cmd : ProcessWebhookCommand} {verification : VerifiedTransaction}
    {row : PaymentRow} {auditId : UUID} {db db' : PaymentDb}
    (hrow : db.payments.lookup row.reference = some row)
    (hconfirmed : PaymentPolicy.Confirmed row.toDomain
      (confirmContext verification row.toDomain) cmd.now)
    (h : runBody deployment now choice 0 (successBody cmd row.toDomain auditId []) db = .ok db') :
    Settled cmd verification row.reference db db' := by
  have hverified : verification.status = "successful" := by
    simpa [confirmContext] using hconfirmed.verified
  unfold successBody at h
  rw [afterTransition_of_allowed (by rw [hconfirmed.pending]; decide)] at h
  obtain ⟨row', entry, hpayments, hreference, hstatus, hid, haudits, haction, hpayment, hevent,
    hevents⟩ := runBody_settlement h
  have hkey : row'.reference = row.reference := hreference
  have hstored : db'.payments.lookup row.reference = some row' := by
    rw [hpayments, ← hkey]
    exact Table.lookup_upsert_self
  have hentry : entry.payment = some row.id := by
    rw [hpayment, Option.filter_eq_some_iff]
    refine ⟨rfl, List.any_eq_true.mpr ⟨row', ?_, ?_⟩⟩
    · exact Table.mem_upsert_iff.mpr (Or.inl rfl)
    · simpa using hid row hrow
  refine ⟨⟨row, row', hrow, hconfirmed.pending, hconfirmed.unexpired, hverified,
    hconfirmed.reference, hconfirmed.amount, hconfirmed.currency, hstored, hstatus, entry, ?_,
    hentry⟩, hevent, fun other hother => ?_, hevents⟩
  · simp [successAudits, haudits, haction, auditEntry]
  · rw [hpayments]
    exact Table.lookup_upsert_of_ne fun heq => hother (heq.symm.trans hkey)

/-- What a lone call holds of a payment is the stored row. -/
def Fresh (pool : PaymentPool Unit) : Prop :=
  ∀ reference payment, held reference (pool.log ()) = some payment →
    ∃ row, pool.state.db.payments.lookup reference = some row ∧ payment = row.toDomain

/-- No other call writes between the reads and the writes of a lone call. -/
theorem Fresh.step {pool : PaymentPool Unit} {op : PaymentOp}
    {next : Except PaymentError op.Ret → Program (Raising PaymentError PaymentOp.Ret)
      (Except PaymentError Unit)} (hfresh : Fresh pool) (hrest : pool.rest () = .call op next)
    (choice : Choice) : Fresh (pool.step (PaymentState.exec deployment) ((), choice)) := by
  intro reference payment hheld
  rw [Pool.log_step_self hrest] at hheld
  obtain ⟨hsaved, hread | hheld⟩ := held_cons_eq_some hheld
  · obtain ⟨hmem, rfl⟩ := hread
    have hnot : ∀ body, op ≠ .atomic body := by
      rintro body rfl
      cases hanswer : (PaymentState.exec deployment choice (.atomic body) pool.state).1 with
      | ok _ =>
        rw [hanswer] at hmem
        cases hmem
      | error error =>
        rw [hanswer] at hmem
        cases hmem
    rw [Pool.step_of_call hrest, exec_db_of_not_atomic hnot]
    exact reads_sound rfl hmem
  · obtain ⟨row, hrow, heq⟩ := hfresh reference payment hheld
    refine ⟨row, ?_, heq⟩
    rw [Pool.step_of_call hrest]
    by_cases hatomic : ∃ body, op = .atomic body
    · obtain ⟨body, rfl⟩ := hatomic
      rcases exec_atomic deployment choice pool.state body with ⟨db, hrun, hexec⟩ | ⟨error, hexec⟩
      · rw [hexec] at hsaved ⊢
        exact ((runBody_payments hrun reference).1 hsaved).trans hrow
      · rw [hexec]
        exact hrow
    · rw [exec_db_of_not_atomic fun body heq => hatomic ⟨body, heq⟩]
      exact hrow

theorem keeps_fresh (call : PaymentCall) :
    Pool.Keeps (PaymentState.exec deployment) (contracts fun _ : Unit => call) locksReleased
      (fun _ _ => True) Fresh :=
  fun _ _ choice _ _ _ hfresh _ hrest _ => hfresh.step hrest choice

/-- A call on the lock of `key` has itself raised. -/
def LockCallRaised (key : String) (log : PaymentLog) : Prop :=
  ∃ error, ⟨.releaseLock key, .error error⟩ ∈ log ∨
    ∃ ttlSeconds, ⟨.acquireLock key ttlSeconds, .error error⟩ ∈ log

/-- Every lock that a lone call has taken is still held, is gone, or one of the calls
on it has raised. -/
def LocksAccounted (pool : PaymentPool Unit) : Prop :=
  ∀ key ttlSeconds, ⟨.acquireLock key ttlSeconds, .ok true⟩ ∈ pool.log () →
    lockHeld key (pool.log ()) = true ∨ pool.state.locks key = none ∨
      LockCallRaised key (pool.log ())

/-- A call outside a transaction keeps what it keeps under a fault, too. -/
theorem PaymentState.writing_locks {α : Type} {answer : α} {after before : PaymentState}
    {key : String} (h : after.locks key = before.locks key) :
    (PaymentState.writing choice answer after before).2.locks key = before.locks key := by
  unfold PaymentState.writing
  cases choice.fault with
  | none => exact h
  | some fault =>
    change (if fault.applied = true then after else before).locks key = before.locks key
    split
    · exact h
    · rfl

/-- Only the two calls on a lock change it. -/
theorem exec_locks_of_ne {op : PaymentOp} {s : PaymentState} {key : String}
    (hacquire : ∀ ttlSeconds, op ≠ .acquireLock key ttlSeconds) (hrelease : op ≠ .releaseLock key) :
    (PaymentState.exec deployment choice op s).2.locks key = s.locks key := by
  have hreading {α : Type} {answer : Except PaymentError α} {s : PaymentState} :
      (PaymentState.reading choice answer s).2.locks key = s.locks key := by
    unfold PaymentState.reading
    cases choice.fault with
    | none => rfl
    | some fault => rfl
  cases op with
  | acquireLock key' ttlSeconds =>
    have hne : key ≠ key' := fun heq => hacquire ttlSeconds (heq ▸ rfl)
    simp only [PaymentState.exec, PaymentState.effect]
    split
    · exact PaymentState.writing_locks rfl
    · exact PaymentState.writing_locks (by simp [ExpiringMap.set, hne])
  | releaseLock key' =>
    have hne : key ≠ key' := fun heq => hrelease (heq ▸ rfl)
    exact PaymentState.writing_locks (by simp [ExpiringMap.delete, hne])
  | incrRetry retryKey =>
    simp only [PaymentState.exec, PaymentState.effect]
    split
    · exact PaymentState.writing_locks rfl
    · exact PaymentState.writing_locks rfl
  | expireRetry retryKey ttlSeconds =>
    simp only [PaymentState.exec, PaymentState.effect]
    split
    · exact PaymentState.writing_locks rfl
    · exact PaymentState.writing_locks rfl
  | atomic body =>
    rcases exec_atomic deployment choice s body with ⟨_, _, hexec⟩ | ⟨_, hexec⟩
    · rw [hexec]
    · rw [hexec]
  | resetRetry | sendTask => exact PaymentState.writing_locks rfl
  | utcNow | uuid4 => rfl
  | _ => exact hreading

/-- A call that is not about a lock leaves whether the log holds it. -/
theorem lockHeld_cons_of_ne {op : PaymentOp} {answer : Except PaymentError op.Ret} {key : String}
    {log : PaymentLog} (hacquire : ∀ ttlSeconds, op ≠ .acquireLock key ttlSeconds)
    (hrelease : op ≠ .releaseLock key) : lockHeld key (⟨op, answer⟩ :: log) = lockHeld key log := by
  cases op with
  | acquireLock key' ttlSeconds =>
    have hne : ¬ key' = key := fun heq => hacquire ttlSeconds (by rw [heq])
    match answer with
    | .ok true => exact if_neg hne
    | .ok false => rfl
    | .error error => rfl
  | releaseLock key' =>
    have hne : ¬ key' = key := fun heq => hrelease (by rw [heq])
    exact if_neg hne
  | _ => rfl

/-- A lock call that answers `false` has changed nothing. -/
theorem exec_acquire_false {s : PaymentState} {key : String} {ttlSeconds : ℕ}
    (h : (PaymentState.exec deployment choice (.acquireLock key ttlSeconds) s).1 = .ok false) :
    (PaymentState.exec deployment choice (.acquireLock key ttlSeconds) s).2.locks key =
      s.locks key := by
  simp only [PaymentState.exec, PaymentState.effect] at h ⊢
  split
  · exact PaymentState.writing_locks rfl
  · next hfree =>
    rw [if_neg hfree] at h
    unfold PaymentState.writing at h
    cases hfault : choice.fault with
    | none =>
      rw [hfault] at h
      cases h
    | some fault =>
      rw [hfault] at h
      cases h

/-- A release that does not raise removes the lock. -/
theorem exec_release_ok {s : PaymentState} {key : String}
    (h : (PaymentState.exec deployment choice (.releaseLock key) s).1 = .ok ()) :
    (PaymentState.exec deployment choice (.releaseLock key) s).2.locks key = none := by
  simp only [PaymentState.exec, PaymentState.effect, PaymentState.writing] at h ⊢
  cases hfault : choice.fault with
  | none => simp [ExpiringMap.delete]
  | some fault =>
    rw [hfault] at h
    cases h

/-- A lone call accounts for the locks that it takes. -/
theorem keeps_locksAccounted (call : PaymentCall) :
    Pool.Keeps (PaymentState.exec deployment) (contracts fun _ : Unit => call) locksReleased
      (fun _ _ => True) LocksAccounted := by
  intro pool i choice op next _ haccounted _ hrest _ key ttlSeconds hacquired
  rw [Pool.log_step_self hrest] at hacquired ⊢
  rw [Pool.step_of_call hrest]
  have hkeep (hlocks : (PaymentState.exec deployment choice op pool.state).2.locks key =
        pool.state.locks key)
      (hheld : lockHeld key (⟨op, (PaymentState.exec deployment choice op pool.state).1⟩ ::
        pool.log ()) = lockHeld key (pool.log ()))
      (hmem : ⟨.acquireLock key ttlSeconds, .ok true⟩ ∈ pool.log ()) :
      lockHeld key (⟨op, (PaymentState.exec deployment choice op pool.state).1⟩ :: pool.log ()) =
          true ∨
        (PaymentState.exec deployment choice op pool.state).2.locks key = none ∨
        LockCallRaised key
          (⟨op, (PaymentState.exec deployment choice op pool.state).1⟩ :: pool.log ()) := by
    rw [hlocks, hheld]
    refine (haccounted key ttlSeconds hmem).imp_right (Or.imp_right ?_)
    rintro ⟨error, hraised⟩
    exact ⟨error, hraised.imp (List.mem_cons_of_mem _)
      fun ⟨ttl, h⟩ => ⟨ttl, List.mem_cons_of_mem _ h⟩⟩
  by_cases hacquire : ∃ ttl, op = .acquireLock key ttl
  · obtain ⟨ttl, rfl⟩ := hacquire
    cases hanswer : (PaymentState.exec deployment choice (.acquireLock key ttl) pool.state).1 with
    | error error => exact Or.inr (Or.inr ⟨error, Or.inr ⟨ttl, List.mem_cons_self⟩⟩)
    | ok acquired =>
      cases acquired with
      | true =>
        left
        simp [lockHeld, lockEffect]
      | false =>
        rw [hanswer] at hacquired hkeep
        refine hkeep (exec_acquire_false hanswer) rfl ?_
        rcases List.mem_cons.mp hacquired with heq | hmem
        · cases heq
        · exact hmem
  · have hnot : ∀ ttl, op ≠ .acquireLock key ttl := fun ttl heq => hacquire ⟨ttl, heq⟩
    have hmem : ⟨.acquireLock key ttlSeconds, .ok true⟩ ∈ pool.log () := by
      rcases List.mem_cons.mp hacquired with heq | hmem
      · exact absurd (congrArg Sigma.fst heq).symm (hnot ttlSeconds)
      · exact hmem
    by_cases hrelease : op = .releaseLock key
    · subst hrelease
      cases hanswer : (PaymentState.exec deployment choice (.releaseLock key) pool.state).1 with
      | ok _ => exact Or.inr (Or.inl (exec_release_ok hanswer))
      | error error => exact Or.inr (Or.inr ⟨error, Or.inl List.mem_cons_self⟩)
    · exact hkeep (exec_locks_of_ne hnot hrelease) (lockHeld_cons_of_ne hnot hrelease) hmem

/-- What one step of a lone call does to the settled payments: nothing, or one settlement. -/
theorem settlement_step {call : PaymentCall} {pool : PaymentPool Unit}
    (hpool : Pool.Disciplined (contracts fun _ : Unit => call) locksReleased pool)
    (hfresh : Fresh pool) :
    NothingSettled pool.state.db
        (pool.step (PaymentState.exec deployment) ((), choice)).state.db ∨
      ∃ cmd providerRef verification reference, WebhookOrigin call (pool.log ()) cmd ∧
        ⟨.verifyTransaction providerRef, .ok (some verification)⟩ ∈ pool.log () ∧
        Settled cmd verification reference pool.state.db
          (pool.step (PaymentState.exec deployment) ((), choice)).state.db := by
  cases hrest : pool.rest () with
  | done outcome =>
    rw [Pool.step_of_done hrest]
    exact Or.inl (NothingSettled.refl _)
  | call op next =>
    rw [Pool.step_of_call hrest]
    by_cases hatomic : ∃ body, op = .atomic body
    · obtain ⟨body, rfl⟩ := hatomic
      have hissued : Issued call (pool.log ()) body := hpool.allowed_call hrest
      rcases exec_atomic deployment choice pool.state body with ⟨db, hrun, hexec⟩ | ⟨error, hexec⟩
      · rw [hexec]
        rcases hissued.unsettling_or_success with hbody |
          ⟨cmd, providerRef, verification, payment, auditId, rfl, origin, hfound, hheld,
            hconfirmed⟩
        · exact Or.inl (hbody.nothingSettled hrun)
        · obtain ⟨row, hrow, rfl⟩ := hfresh _ payment hheld
          exact Or.inr ⟨cmd, providerRef, verification, row.reference, origin, hfound.verified,
            settled_of_successBody hrow hconfirmed hrun⟩
      · rw [hexec]
        exact Or.inl (NothingSettled.refl _)
    · rw [exec_db_of_not_atomic fun body heq => hatomic ⟨body, heq⟩]
      exact Or.inl (NothingSettled.refl _)

/-- In every sequential run, each step of each call settles nothing or settles one payment
with all of its marks; a transaction that raises leaves the database as it was; and a call
that has ended has given up the locks that it took, unless a call on the lock itself raised. -/
theorem webhook_settlement_atomic (deployment : Deployment) (s : PaymentState)
    (calls : List (PaymentCall × List Choice)) (call : PaymentCall) (choices : List Choice)
    (choice : Choice) :
    let before := runCall deployment (sequentialRun deployment s calls) call choices
    let after := before.step (PaymentState.exec deployment) ((), choice)
    (NothingSettled before.state.db after.state.db ∨
      ∃ cmd providerRef verification reference, WebhookOrigin call (before.log ()) cmd ∧
        ⟨.verifyTransaction providerRef, .ok (some verification)⟩ ∈ before.log () ∧
        Settled cmd verification reference before.state.db after.state.db) ∧
    (∀ body next error, before.rest () = .call (.atomic body) next →
      (PaymentState.exec deployment choice (.atomic body) before.state).1 = .error error →
        after.state.db = before.state.db) ∧
    (∀ outcome, after.rest () = .done outcome → ∀ key ttlSeconds,
      ⟨.acquireLock key ttlSeconds, .ok true⟩ ∈ after.log () →
        after.state.locks key = none ∨ LockCallRaised key (after.log ())) := by
  intro before after
  obtain ⟨hpool, hfresh⟩ : _ ∧ Fresh before :=
    runCall_keeps (keeps_fresh call) fun _ _ h => by cases h
  obtain ⟨_, haccounted⟩ : _ ∧ LocksAccounted before :=
    runCall_keeps (keeps_locksAccounted call) fun _ _ h => by cases h
  refine ⟨settlement_step hpool hfresh, fun body next error hrest hraised => ?_,
    fun outcome hdone key ttlSeconds hacquired => ?_⟩
  · change (before.step (PaymentState.exec deployment) ((), choice)).state.db = before.state.db
    rw [Pool.step_of_call hrest]
    rcases exec_atomic deployment choice before.state body with ⟨_, _, hexec⟩ | ⟨_, hexec⟩
    · rw [hexec] at hraised
      cases hraised
    · rw [hexec]
  · have hafter : LocksAccounted after :=
      (keeps_locksAccounted call).step hpool haccounted trivial
    have hreleased := (hpool.step (answers_possible _) ((), choice)).post_done hdone key
    rcases hafter key ttlSeconds hacquired with hheld | hgone | hraised
    · rw [hreleased] at hheld
      cases hheld
    · exact Or.inl hgone
    · exact Or.inr hraised

end Linkapro.Payments
