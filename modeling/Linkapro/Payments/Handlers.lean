import Linkapro.Payments.Store

/-!
# Payments: command handlers

`PaymentCommandHandlers` as programs over the stores and services. A
transaction lists its statements in source order, and the callbacks that it
registers with `on_commit` run after it has committed.
-/

namespace Linkapro.Payments

open Lib Lib.Action

/-- A program of the component. -/
abbrev Handler (α : Type) : Type := Action PaymentError PaymentOp.Ret α

/-- One call on a store or a service. -/
abbrev ask (op : PaymentOp) : Handler op.Ret := perform op

/-- What a dispatcher does with an event while the transaction is still open:
statements it adds to the transaction and a callback for after the commit. -/
structure InTransaction where
  writes : List TxWrite
  onCommit : Handler Unit

/-- The `event_dispatcher` of the handlers. -/
structure EventDispatcher where
  /-- `dispatch`. -/
  dispatch : DomainEvent → Handler Unit
  /-- `dispatch_after_commit`, which a dispatcher need not have. -/
  dispatchAfterCommit : Option (DomainEvent → InTransaction)

/-- `with transaction.atomic(): …` with the callback registered in its body. -/
def atomicBlock (body : List TxWrite) (onCommit : Handler Unit) : Handler Unit := do
  ask (.atomic body)
  onCommit

/-- A callback whose errors are logged and swallowed. -/
def swallow (callback : Handler Unit) : Handler Unit := attempt callback fun _ => pure ()

/-- `DjangoPaymentEventOutboxDispatcher.dispatch`: the row is inserted in a
transaction of its own, and publication is scheduled after that transaction. -/
def djangoDispatch (event : DomainEvent) : Handler Unit :=
  attempt
    (atomicBlock [.insertOutbox event]
      (swallow (ask (.sendTask (.publishPaymentDomainEvent event.eventId)))))
    fun error =>
      match error with
      | .integrityError message => do
        let stored : Bool ← ask (.outboxExists event.eventId)
        if stored then pure () else throw (.integrityError message)
      | error => throw error

/-- The dispatcher that `build_payment_command_handlers` wires. It has no
`dispatch_after_commit`. -/
def djangoPaymentEventOutboxDispatcher : EventDispatcher where
  dispatch := djangoDispatch
  dispatchAfterCommit := none

/-- `_dispatch_after_commit`. -/
def dispatchAfterCommit (dispatcher : EventDispatcher) (event : DomainEvent) : InTransaction :=
  match dispatcher.dispatchAfterCommit with
  | some dispatchAfterCommit => dispatchAfterCommit event
  | none => { writes := [], onCommit := swallow (dispatcher.dispatch event) }

/-- `CeleryRetryScheduler._retry_key`. -/
def retryKey (providerReference : JsonValue) : String :=
  "payment_webhook_retry:" ++ providerReference.render

/-- The first attempt sets the lifetime of its counter. -/
def expireOnFirst (providerReference : JsonValue) (attempt : ℕ) : Handler Unit :=
  if attempt = 1 then ask (.expireRetry (retryKey providerReference) 3600) else pure ()

/-- `CeleryRetryScheduler.schedule_webhook_retry` with its default limits. -/
def scheduleWebhookRetry (providerReference : JsonValue) (delaySeconds : ℕ) : Handler Unit := do
  let attempt : ℕ ← ask (.incrRetry (retryKey providerReference))
  expireOnFirst providerReference attempt
  if 3 < attempt then pure ()
  else ask (.sendTask (.processWebhookRetry providerReference delaySeconds 0))

/-- The block that stores an event for a later attempt and schedules it. -/
def saveForRetry (cmd : ProcessWebhookCommand) (providerRef : JsonValue) (status : String) :
    Handler Unit :=
  atomicBlock [.saveEvent cmd.eventId status cmd.payload]
    (swallow (scheduleWebhookRetry providerRef 30))

/-- The audit entries of the handlers. -/
def auditEntry (id : UUID) (paymentId : Option UUID) (action actor : String)
    (details : List (String × JsonValue)) : AuditEvent :=
  { id, paymentId, action, actor, details }

/-- `f"user:{user_id}"`, with the UUID in hexadecimal. -/
def userActor (userId : UUID) : String := "user:" ++ String.ofList (hexDigits userId)

/-- The lock key of `acquire_lock` and `release_lock`. -/
def lockKey (providerRef : JsonValue) : String := "payment_lock:" ++ providerRef.render

/-- The context of stage 6. Its environment is read off the payment itself. -/
def confirmContext (verification : VerifiedTransaction) (payment : Payment) : ConfirmContext where
  providerVerified := verification.status = "successful"
  providerReference := verification.providerReference
  providerAmountMinor := verification.amountMinorUnits
  providerCurrency := verification.currencyCode
  environment := environmentText payment.environment

/-- The statements that follow a status change, or the error that the change raises. -/
def afterTransition (payment : Payment) (newStatus : PaymentStatus)
    (statements : Payment → List TxWrite) : List TxWrite :=
  match payment.transitionTo newStatus with
  | .ok payment => statements payment
  | .error error => [.raising error]

/-- The transaction of a fraud signal. -/
def fraudBody (cmd : ProcessWebhookCommand) (payment : Payment) (reason : Option String)
    (auditId : UUID) (dispatched : List TxWrite) : List TxWrite :=
  [.saveEvent cmd.eventId "PROCESSING" cmd.payload,
    .logAudit (auditEntry auditId (some payment.id) "FRAUD_SIGNAL" "webhook"
      [("reason", .ofOption reason), ("event_id", .text cmd.eventId)]),
    .saveEvent cmd.eventId "FRAUD_DETECTED" cmd.payload] ++ dispatched

/-- The transaction of a confirmed payment. -/
def successBody (cmd : ProcessWebhookCommand) (payment : Payment) (auditId : UUID)
    (dispatched : List TxWrite) : List TxWrite :=
  .saveEvent cmd.eventId "PROCESSING" cmd.payload ::
    afterTransition payment .success fun payment =>
      [.savePayment payment,
        .logAudit (auditEntry auditId (some payment.id) "SUCCESS" "webhook"
          [("event_id", .text cmd.eventId)]),
        .saveEvent cmd.eventId "PROCESSED_SUCCESS" cmd.payload] ++ dispatched

/-- The transaction of a rejected confirmation. -/
def rejectBody (cmd : ProcessWebhookCommand) (payment : Payment) (reason : Option String)
    (auditId : UUID) : List TxWrite :=
  [.saveEvent cmd.eventId "PROCESSING" cmd.payload,
    .logAudit (auditEntry auditId (some payment.id) "WEBHOOK_REJECTED" "webhook"
      [("reason", .ofOption reason), ("event_id", .text cmd.eventId)]),
    .saveEvent cmd.eventId "REJECTED_POLICY" cmd.payload]

/-- The transaction of a webhook for no known payment. -/
def unknownBody (cmd : ProcessWebhookCommand) (providerRef : JsonValue) (auditId : UUID) :
    List TxWrite :=
  [.logAudit (auditEntry auditId none "UNKNOWN_PAYMENT" "webhook"
      [("provider_reference", providerRef), ("event_id", .text cmd.eventId)]),
    .saveEvent cmd.eventId "REJECTED_UNKNOWN" cmd.payload]

/-- The `PaymentCompleted` event of a payment. -/
def paymentCompleted (cmd : ProcessWebhookCommand) (payment : Payment) (eventId : UUID) :
    DomainEvent :=
  .paymentCompleted payment.id payment.userId payment.amount.minorUnits
    payment.amount.currency.code cmd.now eventId

/-- Stage 6 of `_process_webhook`: policy, then one of three transactions. -/
def applyConfirmation (dispatcher : EventDispatcher) (cmd : ProcessWebhookCommand)
    (providerRef : JsonValue) (verification : VerifiedTransaction) (payment : Payment) :
    Handler Unit := do
  let result := PaymentPolicy.apply payment
    (.confirmSuccess (confirmContext verification payment)) cmd.now
  let auditId ← ask .uuid4
  let eventId ← ask .uuid4
  if result.fraudSignal then
    let dispatched := dispatchAfterCommit dispatcher
      (.fraudSignal payment.id providerRef result.reason cmd.now eventId)
    atomicBlock (fraudBody cmd payment result.reason auditId dispatched.writes)
      dispatched.onCommit
  else if result.allowed then
    let dispatched := dispatchAfterCommit dispatcher (paymentCompleted cmd payment eventId)
    atomicBlock (successBody cmd payment auditId dispatched.writes) dispatched.onCommit
  else
    atomicBlock (rejectBody cmd payment result.reason auditId) (pure ())

/-- Stage 5 of `_process_webhook`: find the payment. -/
def settle (dispatcher : EventDispatcher) (cmd : ProcessWebhookCommand)
    (providerRef : JsonValue) (verification : VerifiedTransaction) : Handler Unit := do
  match ← ask (.findByProviderReference providerRef) with
  | none =>
    let auditId ← ask .uuid4
    atomicBlock (unknownBody cmd providerRef auditId) (pure ())
  | some payment => applyConfirmation dispatcher cmd providerRef verification payment

/-- Stages 4 to 6, inside `try`. -/
def verifyAndSettle (dispatcher : EventDispatcher) (cmd : ProcessWebhookCommand)
    (providerRef : JsonValue) : Handler Unit := do
  match ← attempt (ask (.verifyTransaction providerRef)) fun _ => pure none with
  | none => saveForRetry cmd providerRef "VERIFY_FAILED_RETRY"
  | some verification => settle dispatcher cmd providerRef verification

/-- Stage 3 of `_process_webhook`: the lock, released in `finally`. -/
def processReferenced (dispatcher : EventDispatcher) (cmd : ProcessWebhookCommand)
    (providerRef : JsonValue) : Handler Unit := do
  let acquired : Bool ← ask (.acquireLock (lockKey providerRef) 30)
  if acquired then
    withFinally (verifyAndSettle dispatcher cmd providerRef)
      (ask (.releaseLock (lockKey providerRef)))
  else
    saveForRetry cmd providerRef "LOCK_FAILED_RETRY"

/-- `_process_webhook` after the idempotency check. -/
def processNewEvent (dispatcher : EventDispatcher) (cmd : ProcessWebhookCommand) :
    Handler Unit := do
  match extractProviderReference cmd.payload with
  | .error error => throw error
  | .ok providerRef =>
    if providerRef.isTruthy then processReferenced dispatcher cmd providerRef
    else
      atomicBlock [.saveEvent cmd.eventId "REJECTED_MISSING_REF" cmd.payload] (pure ())

/-- `not allow_existing_event and self.webhook_repo.exists(cmd.event_id)`. -/
def alreadyProcessed (cmd : ProcessWebhookCommand) (allowExistingEvent : Bool) : Handler Bool :=
  if allowExistingEvent then pure false else ask (.eventExists cmd.eventId)

/-- `_process_webhook`. -/
def processWebhookCore (dispatcher : EventDispatcher) (cmd : ProcessWebhookCommand)
    (allowExistingEvent : Bool) : Handler Unit := do
  let processed ← alreadyProcessed cmd allowExistingEvent
  if processed then pure () else processNewEvent dispatcher cmd

/-- `process_webhook`. -/
def processWebhook (dispatcher : EventDispatcher) (cmd : ProcessWebhookCommand) : Handler Unit :=
  processWebhookCore dispatcher cmd false

/-- The transaction of an expiry. -/
def expireBody (payment : Payment) (auditId : UUID) (dispatched : List TxWrite) : List TxWrite :=
  afterTransition payment .expired fun payment =>
    [.savePayment payment,
      .logAudit (auditEntry auditId (some payment.id) "EXPIRE" "system"
        [("expires_at", .text (toString payment.expiresAt))])] ++ dispatched

/-- The loop of `expire_stale_payments`. -/
def expireEach (dispatcher : EventDispatcher) (cmd : ExpireStalePaymentsCommand) :
    List Payment → ℕ → Handler ℕ
  | [], count => pure count
  | payment :: payments, count => do
    if (PaymentPolicy.apply payment .expire cmd.now).allowed then
      let auditId ← ask .uuid4
      let eventId ← ask .uuid4
      let dispatched := dispatchAfterCommit dispatcher (.paymentExpired payment.id cmd.now eventId)
      atomicBlock (expireBody payment auditId dispatched.writes) dispatched.onCommit
      expireEach dispatcher cmd payments (count + 1)
    else
      expireEach dispatcher cmd payments count

/-- `expire_stale_payments`. -/
def expireStalePayments (dispatcher : EventDispatcher) (cmd : ExpireStalePaymentsCommand) :
    Handler ℕ := do
  let payments ← ask (.findExpiredPending cmd.now)
  expireEach dispatcher cmd payments 0

/-- The transaction of a refund request. -/
def refundBody (cmd : RequestRefundCommand) (payment : Payment) (auditId : UUID) : List TxWrite :=
  afterTransition payment .refundRequested fun payment =>
    [.savePayment payment,
      .logAudit (auditEntry auditId (some payment.id) "REFUND_REQUESTED"
        (userActor cmd.requestedBy) [("reason", .ofOption cmd.reason)])]

/-- `cmd.now or utc_now()`. -/
def nowOr (now : Option Datetime) : Handler Datetime :=
  match now with
  | some now => pure now
  | none => ask .utcNow

/-- `request_refund`. -/
def requestRefund (cmd : RequestRefundCommand) : Handler Unit := do
  let now ← nowOr cmd.now
  match ← ask (.findByReference cmd.paymentReference) with
  | none => throw (.paymentNotFound ("Payment " ++ cmd.paymentReference ++ " not found"))
  | some payment =>
    if payment.status ≠ .success then
      throw (.paymentNotAllowed "Refund only allowed for successful payments")
    else if 30 < wholeDays (now - payment.createdAt) then
      throw (.paymentNotAllowed "Refund window expired")
    else
      let auditId ← ask .uuid4
      atomicBlock (refundBody cmd payment auditId) (pure ())

/-- `PaymentInitiationDTO`. -/
structure PaymentInitiation where
  reference : String
  paymentLink : String
  expiresAt : Datetime

/-- `Payment(…)` as step 4 of `initiate_payment` builds it, with the default expiry. -/
def Payment.create (cmd : InitiatePaymentCommand) (id : UUID) (reference : String)
    (createdAt : Datetime) : Except PaymentError Payment :=
  match Metadata.validate cmd.metadata with
  | .error error => .error error
  | .ok metadata =>
    .ok
      { id, reference, createdAt, metadata
        userId := cmd.userId
        amount := cmd.amount
        method := cmd.method
        idempotencyKey := cmd.idempotencyKey
        environment := cmd.environment
        status := .initiated
        providerReference := none
        contextReference := cmd.contextReference
        expiresAt := createdAt + minutes 30 }

/-- The transaction of an initiation. -/
def initiateBody (cmd : InitiatePaymentCommand) (payment : Payment) (auditId : UUID) :
    List TxWrite :=
  [.savePayment payment,
    .logAudit (auditEntry auditId (some payment.id) "INITIATE" (userActor cmd.userId)
      [("idempotency_key", .text cmd.idempotencyKey)])]

/-- `_generate_reference`. -/
def generateReference (id : UUID) : String := "pay_" ++ String.ofList ((hexDigits id).take 12)

/-- Steps 5 to 7 of `initiate_payment`. -/
def linkAndPersist (cmd : InitiatePaymentCommand) (payment : Payment) :
    Handler PaymentInitiation := do
  let now : Datetime ← ask .utcNow
  let result := PaymentPolicy.apply payment .initiate now
  if ¬ result.allowed then throw (.paymentNotAllowed (result.reason.getD "None"))
  else
    let (paymentLink, providerRef) ← attempt (ask .createPaymentLink) fun error =>
      throw (.providerGateway ("Failed to create payment link: " ++ error.message))
    match { payment with providerReference := some providerRef }.transitionTo .pending with
    | .error error => throw error
    | .ok payment =>
      let auditId ← ask .uuid4
      atomicBlock (initiateBody cmd payment auditId) (pure ())
      pure { reference := payment.reference, paymentLink, expiresAt := payment.expiresAt }

/-- `initiate_payment`. -/
def initiatePayment (cmd : InitiatePaymentCommand) : Handler PaymentInitiation := do
  match ← ask (.findByIdempotencyKey cmd.idempotencyKey) with
  | some existing =>
    pure
      { reference := existing.reference
        paymentLink := cmd.redirectBaseUrl ++ "/pay/" ++ existing.reference
        expiresAt := existing.expiresAt }
  | none =>
    let now : Datetime ← ask .utcNow
    let velocity : VelocityContext ← ask (.getVelocityContext cmd.userId now)
    let velocityResult := VelocityPolicy.apply velocity
    if ¬ velocityResult.allowed then
      let auditId ← ask .uuid4
      ask (.atomic [.logAudit (auditEntry auditId none "VELOCITY_BLOCK"
        (userActor cmd.userId) [])])
      throw (.velocityLimitExceeded "Transaction cannot be processed at this time.")
    else if velocityResult.flag then
      -- `dispatch(...)` passes the Ellipsis object, which fails the dispatcher's validation.
      throw (.valueError
        "Pending payment event is missing: event_id, payment_id, occurred_at.")
    else
      let duplicate : Bool ← ask
        (.findDuplicateContextRef cmd.userId cmd.contextReference (now - minutes 60))
      let patterns := FraudPatternPolicy.patterns cmd.amount
        { duplicateContextRef := duplicate
          accountAge := velocity.accountAge
          stepUpThresholdMinor := StepUpPolicy.threshold cmd.amount.currency }
      if ¬ patterns.isEmpty then throw (.fraudFlagged "Payment is under review.")
      else
        let id ← ask .uuid4
        let referenceId ← ask .uuid4
        let createdAt ← ask .utcNow
        match Payment.create cmd id (generateReference referenceId) createdAt with
        | .error error => throw error
        | .ok payment => linkAndPersist cmd payment

end Linkapro.Payments
