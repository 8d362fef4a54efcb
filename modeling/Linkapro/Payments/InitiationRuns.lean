import Linkapro.Lib.Sequential
import Linkapro.Payments.Velocity

/-!
# Payments: initiations that run alone

The stores of such a run do not fail, and only the provider may raise. The run passes
the velocity check, the fraud checks, the policy and the provider, in this order, before
it saves its payment. Each rule below takes it over one of them.
-/

namespace Linkapro.Payments

open Lib Lib.Action

/-- Calls on stores that do not fail. Only the provider may raise. -/
def PaymentState.storesUp (deployment : Deployment) :
    Exec PaymentState Choice (Raising PaymentError PaymentOp.Ret) :=
  fun choice op =>
    match op with
    | .createPaymentLink => PaymentState.exec deployment choice .createPaymentLink
    | op => PaymentState.exec deployment { choice with fault := none } op

/-- A call alone, from call number `k` on. -/
abbrev runCalls {α : Type} (deployment : Deployment) (choices : ℕ → Choice) (handler : Handler α)
    (k : ℕ) (s : PaymentState) : Finished PaymentState (Except PaymentError α) :=
  handler.runOn (PaymentState.storesUp deployment) choices k s

/-- The same stores at another instant. -/
def PaymentState.setClock (s : PaymentState) (clock : Datetime) : PaymentState :=
  { s with clock }

@[simp] theorem PaymentState.setClock_db {s : PaymentState} {clock : Datetime} :
    (s.setClock clock).db = s.db := rfl

@[simp] theorem PaymentState.setClock_clock {s : PaymentState} {clock : Datetime} :
    (s.setClock clock).clock = clock := rfl

/-- The instant of call number `k` of a run that starts in a state. -/
def PaymentState.instantOf (s : PaymentState) (choices : ℕ → Choice) : ℕ → Datetime
  | 0 => s.clock + (choices 0).elapsed
  | k + 1 => s.instantOf choices k + (choices (k + 1)).elapsed

/-- `initiate_payment` from its fraud checks on. -/
def fraudStage (cmd : InitiatePaymentCommand) (now : Datetime) (velocity : VelocityContext) :
    Handler PaymentInitiation := do
  let duplicate : Bool ← ask
    (.findDuplicateContextRef cmd.userId cmd.contextReference (now - minutes 60))
  let patterns := FraudPatternPolicy.patterns cmd.amount
    { duplicateContextRef := duplicate
      accountAge := velocity.accountAge
      stepUpThresholdMinor := StepUpPolicy.threshold cmd.amount.currency }
  if ¬ patterns.isEmpty then throw (.fraudFlagged "Payment is under review.")
  else
    let id ← ask .uuid4
    let referenceId ← ask .uuid4
    let createdAt ← ask .utcNow
    match Payment.create cmd id (generateReference referenceId) createdAt with
    | .error error => throw error
    | .ok payment => linkAndPersist cmd payment

/-- `initiate_payment` from the new provider reference on, for a payment that has moved on. -/
def persist (cmd : InitiatePaymentCommand) (payment : Payment) (paymentLink : String) :
    Handler PaymentInitiation := do
  let auditId ← ask .uuid4
  atomicBlock (initiateBody cmd payment auditId) (pure ())
  pure { reference := payment.reference, paymentLink, expiresAt := payment.expiresAt }

variable {deployment : Deployment} {choices : ℕ → Choice} {cmd : InitiatePaymentCommand}
  {s : PaymentState} {k : ℕ}

variable (deployment choices) in
/-- The velocity check of a new request: what has been read, and where the run goes on. -/
theorem runCalls_initiatePayment
    (hnew : s.db.findByIdempotencyKey cmd.idempotencyKey = .ok none) :
    let now := s.instantOf choices 1
    let velocity := s.db.getVelocityContext cmd.userId now
    let checked := s.setClock (s.instantOf choices 2)
    runCalls deployment choices (initiatePayment cmd) 0 s =
      if (VelocityPolicy.apply velocity).allowed = false then
        runCalls deployment choices (do
          let auditId ← ask .uuid4
          ask (.atomic [.logAudit (auditEntry auditId none "VELOCITY_BLOCK"
            (userActor cmd.userId) [])])
          throw (.velocityLimitExceeded "Transaction cannot be processed at this time.")) 3 checked
      else if (VelocityPolicy.apply velocity).flag then
        ⟨.error (.valueError
          "Pending payment event is missing: event_id, payment_id, occurred_at."), 3, checked⟩
      else runCalls deployment choices (fraudStage cmd now velocity) 3 checked := by
  intro now velocity checked
  have hlookup : PaymentState.storesUp deployment (choices 0)
      (.findByIdempotencyKey cmd.idempotencyKey) s =
        (.ok none, s.setClock (s.instantOf choices 0)) :=
    Prod.ext hnew rfl
  have hnow : PaymentState.storesUp deployment (choices 1) .utcNow
      (s.setClock (s.instantOf choices 0)) = (.ok now, s.setClock now) := rfl
  have hvelocity : PaymentState.storesUp deployment (choices 2)
      (.getVelocityContext cmd.userId now) (s.setClock now) = (.ok velocity, checked) := rfl
  refine (runOn_perform_bind hlookup).trans ?_
  refine (runOn_perform_bind hnow).trans ?_
  refine (runOn_perform_bind hvelocity).trans ?_
  cases hallowed : (VelocityPolicy.apply velocity).allowed with
  | false =>
    simp only [hallowed]
    rfl
  | true =>
    cases hflag : (VelocityPolicy.apply velocity).flag with
    | true =>
      simp only [hallowed, hflag]
      rfl
    | false =>
      simp only [hallowed, hflag]
      rfl

/-- The provider's name for the link that it creates under a choice. -/
def providerRefOf (choice : Choice) : String := "flw_" ++ String.ofList (hexDigits choice.uuid)

/-- The patterns that the fraud checks find for a request. -/
def fraudPatterns (db : PaymentDb) (cmd : InitiatePaymentCommand) (now : Datetime) : List String :=
  FraudPatternPolicy.patterns cmd.amount
    { duplicateContextRef :=
        db.findDuplicateContextRef cmd.userId cmd.contextReference (now - minutes 60)
      accountAge := (db.getVelocityContext cmd.userId now).accountAge
      stepUpThresholdMinor := StepUpPolicy.threshold cmd.amount.currency }

/-- The fraud checks, and the payment that is built after them. -/
theorem runCalls_fraudStage {db : PaymentDb} {now : Datetime} (hdb : s.db = db) :
    let reviewed := s.clock + (choices k).elapsed
    let createdAt := reviewed + (choices (k + 1)).elapsed + (choices (k + 2)).elapsed +
      (choices (k + 3)).elapsed
    runCalls deployment choices (fraudStage cmd now (db.getVelocityContext cmd.userId now)) k s =
      if fraudPatterns db cmd now ≠ [] then
        ⟨.error (.fraudFlagged "Payment is under review."), k + 1, s.setClock reviewed⟩
      else
        match Payment.create cmd (choices (k + 1)).uuid
            (generateReference (choices (k + 2)).uuid) createdAt with
        | .error error => ⟨.error error, k + 4, s.setClock createdAt⟩
        | .ok payment =>
          runCalls deployment choices (linkAndPersist cmd payment) (k + 4) (s.setClock createdAt) := by
  intro reviewed createdAt
  subst hdb
  have hduplicate : PaymentState.storesUp deployment (choices k)
      (.findDuplicateContextRef cmd.userId cmd.contextReference (now - minutes 60)) s =
        (.ok (s.db.findDuplicateContextRef cmd.userId cmd.contextReference (now - minutes 60)),
          s.setClock reviewed) := rfl
  refine (runOn_perform_bind hduplicate).trans ?_
  by_cases hpatterns : fraudPatterns s.db cmd now = []
  · rw [if_neg (not_not.mpr hpatterns)]
    unfold fraudPatterns at hpatterns
    simp only [hpatterns]
    have hid : PaymentState.storesUp deployment (choices (k + 1)) .uuid4 (s.setClock reviewed) =
        (.ok (choices (k + 1)).uuid, s.setClock (reviewed + (choices (k + 1)).elapsed)) := rfl
    have hreference : PaymentState.storesUp deployment (choices (k + 2)) .uuid4
        (s.setClock (reviewed + (choices (k + 1)).elapsed)) = (.ok (choices (k + 2)).uuid,
          s.setClock (reviewed + (choices (k + 1)).elapsed + (choices (k + 2)).elapsed)) := rfl
    have hcreated : PaymentState.storesUp deployment (choices (k + 3)) .utcNow
        (s.setClock (reviewed + (choices (k + 1)).elapsed + (choices (k + 2)).elapsed)) =
          (.ok createdAt, s.setClock createdAt) := rfl
    refine (runOn_perform_bind hid).trans ?_
    refine (runOn_perform_bind hreference).trans ?_
    refine (runOn_perform_bind hcreated).trans ?_
    cases Payment.create cmd (choices (k + 1)).uuid (generateReference (choices (k + 2)).uuid)
        createdAt with
    | error error => rfl
    | ok payment => rfl
  · rw [if_pos hpatterns]
    have hsome : (fraudPatterns s.db cmd now).isEmpty = false := by
      simpa using hpatterns
    unfold fraudPatterns at hsome
    simp only [hsome]
    rfl

/-- The policy and the provider. -/
theorem runCalls_linkAndPersist {payment : Payment} (hinitiated : payment.status = .initiated) :
    let policyNow := s.clock + (choices k).elapsed
    let linked := policyNow + (choices (k + 1)).elapsed
    runCalls deployment choices (linkAndPersist cmd payment) k s =
      if payment.isExpired policyNow then
        ⟨.error (.paymentNotAllowed "Payment has expired"), k + 1, s.setClock policyNow⟩
      else
        match (choices (k + 1)).fault with
        | some fault =>
          ⟨.error (.providerGateway ("Failed to create payment link: " ++ fault.error.message)),
            k + 2, s.setClock linked⟩
        | none =>
          runCalls deployment choices
            (persist cmd
              { payment with
                providerReference := some (providerRefOf (choices (k + 1)))
                status := .pending }
              (choices (k + 1)).paymentLink) (k + 2) (s.setClock linked) := by
  intro policyNow linked
  have hnow : PaymentState.storesUp deployment (choices k) .utcNow s =
      (.ok policyNow, s.setClock policyNow) := rfl
  refine (runOn_perform_bind hnow).trans ?_
  have hpolicy : PaymentPolicy.apply payment .initiate policyNow =
      if payment.isExpired policyNow then .deny "Payment has expired" else .allow .pending := by
    simp [PaymentPolicy.apply, PaymentPolicy.evaluateInitiate, hinitiated]
  by_cases hexpired : payment.isExpired policyNow
  · rw [if_pos hexpired] at hpolicy ⊢
    simp only [hpolicy]
    rfl
  · rw [if_neg hexpired] at hpolicy ⊢
    simp only [hpolicy, PolicyResult.allow]
    refine runOn_bind.trans ?_
    rw [runOn_attempt]
    cases hfault : (choices (k + 1)).fault with
    | some fault =>
      have hlink : PaymentState.storesUp deployment (choices (k + 1)) .createPaymentLink
          (s.setClock policyNow) = (.error fault.error, s.setClock linked) := by
        simp only [PaymentState.storesUp, PaymentState.exec, PaymentState.effect,
          PaymentState.reading, hfault]
        rfl
      rw [runOn_perform_error hlink]
      rfl
    | none =>
      have hlink : PaymentState.storesUp deployment (choices (k + 1)) .createPaymentLink
          (s.setClock policyNow) =
            (.ok ((choices (k + 1)).paymentLink, providerRefOf (choices (k + 1))),
              s.setClock linked) := by
        simp only [PaymentState.storesUp, PaymentState.exec, PaymentState.effect,
          PaymentState.reading, hfault]
        rfl
      rw [runOn_perform hlink]
      have hmoved : ({ payment with
          providerReference := some (providerRefOf (choices (k + 1))) } : Payment).transitionTo
            .pending = .ok { payment with
              providerReference := some (providerRefOf (choices (k + 1)))
              status := .pending } :=
        Payment.transitionTo_eq_ok_iff.mpr ⟨by simp [hinitiated, Payment.allowedTransitions], rfl⟩
      simp only [hmoved]
      rfl

/-- A transaction of an initiation that no fault breaks: the payment, then its audit entry. -/
theorem runBody_initiateBody {now : Datetime} {choice : Choice} {payment : Payment}
    {auditId : UUID} {db : PaymentDb} :
    runBody deployment now { choice with fault := none } 0 (initiateBody cmd payment auditId) db =
      (do
        let db ← db.savePayment deployment now choice.uuid payment
        db.logAudit now (auditEntry auditId (some payment.id) "INITIATE" (userActor cmd.userId)
          [("idempotency_key", .text cmd.idempotencyKey)])) := by
  simp only [initiateBody, runBody, Option.filter_none, PaymentDb.applyWrite]
  cases db.savePayment deployment now choice.uuid payment with
  | error error => rfl
  | ok saved =>
    simp only [bind, Except.bind]
    cases saved.logAudit now _ with
    | error error => rfl
    | ok logged => rfl

/-- A transaction over stores that do not fail. -/
theorem PaymentState.storesUp_atomic {choice : Choice} {body : List TxWrite} :
    PaymentState.storesUp deployment choice (.atomic body) s =
      match runBody deployment (s.clock + choice.elapsed) { choice with fault := none } 0 body
          s.db with
      | .ok db => (.ok (), { s.setClock (s.clock + choice.elapsed) with db })
      | .error error => (.error error, s.setClock (s.clock + choice.elapsed)) := rfl

theorem runBody_logAudit {now : Datetime} {choice : Choice} {event : AuditEvent} {db : PaymentDb} :
    runBody deployment now { choice with fault := none } 0 [.logAudit event] db =
      db.logAudit now event := by
  simp only [runBody, Option.filter_none, PaymentDb.applyWrite]
  cases db.logAudit now event with
  | ok logged => rfl
  | error error => rfl

/-- A refusal that is written to the audit log first. -/
theorem runCalls_logAndThrow {entry : UUID → AuditEvent} {error : PaymentError} :
    let saved := s.clock + (choices k).elapsed + (choices (k + 1)).elapsed
    runCalls deployment choices (do
      let id ← ask .uuid4
      ask (.atomic [.logAudit (entry id)])
      throw error : Handler PaymentInitiation) k s =
        match s.db.logAudit saved (entry (choices k).uuid) with
        | .ok db => ⟨.error error, k + 2, { s.setClock saved with db }⟩
        | .error error => ⟨.error error, k + 2, s.setClock saved⟩ := by
  intro saved
  have hid : PaymentState.storesUp deployment (choices k) .uuid4 s =
      (.ok (choices k).uuid, s.setClock (s.clock + (choices k).elapsed)) := rfl
  refine (runOn_perform_bind hid).trans ?_
  have hatomic : PaymentState.storesUp deployment (choices (k + 1))
      (.atomic [.logAudit (entry (choices k).uuid)]) (s.setClock (s.clock + (choices k).elapsed)) =
        match s.db.logAudit saved (entry (choices k).uuid) with
        | .ok db => (.ok (), { s.setClock saved with db })
        | .error error => (.error error, s.setClock saved) := by
    rw [PaymentState.storesUp_atomic, runBody_logAudit]
    rfl
  cases hlog : s.db.logAudit saved (entry (choices k).uuid) with
  | ok db =>
    rw [hlog] at hatomic
    exact runOn_perform_bind hatomic
  | error error' =>
    rw [hlog] at hatomic
    exact runOn_perform_bind_error hatomic

/-- The transaction of a payment that the provider has given a link. -/
theorem runCalls_persist {payment : Payment} {paymentLink : String} :
    let saved := s.clock + (choices k).elapsed + (choices (k + 1)).elapsed
    runCalls deployment choices (persist cmd payment paymentLink) k s =
      match runBody deployment saved { choices (k + 1) with fault := none } 0
          (initiateBody cmd payment (choices k).uuid) s.db with
      | .ok db => ⟨.ok ⟨payment.reference, paymentLink, payment.expiresAt⟩, k + 2,
          { s.setClock saved with db }⟩
      | .error error => ⟨.error error, k + 2, s.setClock saved⟩ := by
  intro saved
  have hid : PaymentState.storesUp deployment (choices k) .uuid4 s =
      (.ok (choices k).uuid, s.setClock (s.clock + (choices k).elapsed)) := rfl
  refine (runOn_perform_bind hid).trans ?_
  refine runOn_bind.trans ?_
  cases hbody : runBody deployment saved { choices (k + 1) with fault := none } 0
      (initiateBody cmd payment (choices k).uuid) s.db with
  | ok db =>
    have hatomic : PaymentState.storesUp deployment (choices (k + 1))
        (.atomic (initiateBody cmd payment (choices k).uuid))
        (s.setClock (s.clock + (choices k).elapsed)) =
          (.ok (), { s.setClock saved with db }) := by
      rw [PaymentState.storesUp_atomic]
      simp only [PaymentState.setClock_db, PaymentState.setClock_clock]
      rw [hbody]
      rfl
    rw [show atomicBlock (initiateBody cmd payment (choices k).uuid) (pure ()) =
      (ask (.atomic (initiateBody cmd payment (choices k).uuid)) >>= fun _ => pure ()) from rfl,
      runOn_perform_bind hatomic]
    rfl
  | error error =>
    have hatomic : PaymentState.storesUp deployment (choices (k + 1))
        (.atomic (initiateBody cmd payment (choices k).uuid))
        (s.setClock (s.clock + (choices k).elapsed)) = (.error error, s.setClock saved) := by
      rw [PaymentState.storesUp_atomic]
      simp only [PaymentState.setClock_db, PaymentState.setClock_clock]
      rw [hbody]
      rfl
    rw [show atomicBlock (initiateBody cmd payment (choices k).uuid) (pure ()) =
      (ask (.atomic (initiateBody cmd payment (choices k).uuid)) >>= fun _ => pure ()) from rfl,
      runOn_perform_bind_error hatomic]

end Linkapro.Payments
