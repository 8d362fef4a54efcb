import Mathlib.Algebra.Order.Ring.Int
import Mathlib.Data.List.Dedup
import Mathlib.Data.List.Sort
import Linkapro.Lib.Expiring
import Linkapro.Lib.Interleave
import Linkapro.Lib.Table
import Linkapro.Payments.Domain

/-!
# Payments: stores and services

The database tables, the Redis keys, the task queue and the payment provider as
the repositories and gateways use them. One operation is one call on one of
them. A transaction is a single operation on the database: its statements take
effect together when it commits, and none of them does when one raises.
-/

namespace Linkapro.Payments

open Lib

/-- What a deployment fixes. -/
structure Deployment where
  /-- `settings.PAYMENT_ENV`, the environment of the gateway account. -/
  paymentEnv : String
  /-- The keyed hash of a provider reference. -/
  providerHash : String → String

/-- A row of the payments table. -/
structure PaymentRow where
  id : UUID
  userId : UUID
  amount : Money
  method : PaymentMethod
  status : PaymentStatus
  reference : String
  idempotencyKey : String
  providerReference : Option String
  providerReferenceHash : Option String
  contextReference : Option String
  metadata : Metadata
  environment : PaymentEnv
  createdAt : Datetime
  expiresAt : Datetime
deriving DecidableEq

/-- `_to_domain`. -/
def PaymentRow.toDomain (row : PaymentRow) : Payment where
  id := row.id
  userId := row.userId
  amount := row.amount
  method := .member row.method
  reference := row.reference
  idempotencyKey := row.idempotencyKey
  environment := .member row.environment
  status := row.status
  providerReference := row.providerReference
  contextReference := row.contextReference
  metadata := row.metadata
  createdAt := row.createdAt
  expiresAt := row.expiresAt

@[simp] theorem PaymentRow.toDomain_reference (row : PaymentRow) :
    row.toDomain.reference = row.reference := rfl

@[simp] theorem PaymentRow.toDomain_status (row : PaymentRow) :
    row.toDomain.status = row.status := rfl

/-- A row of the webhook events table. -/
structure WebhookEventRow where
  eventId : String
  status : String
  payload : WebhookPayload
  createdAt : Datetime
deriving DecidableEq

/-- A row of the audit log. -/
structure AuditRow where
  id : UUID
  payment : Option UUID
  action : String
  actor : String
  details : List (String × JsonValue)
  createdAt : Datetime
deriving DecidableEq

/-- A row of the domain event outbox, still pending. -/
structure OutboxRow where
  event : DomainEvent
deriving DecidableEq

/-- The unique column of the outbox. -/
def OutboxRow.eventId (row : OutboxRow) : UUID := row.event.eventId

/-- The database of the component. -/
structure PaymentDb where
  payments : Table PaymentRow.reference
  events : Table WebhookEventRow.eventId
  auditLog : List AuditRow
  outbox : Table OutboxRow.eventId
  /-- The accounts, with the instant of their creation. -/
  users : UUID → Option Datetime

/-- A statement of a transaction. A statement that raises is listed too. -/
inductive TxWrite : Type where
  | saveEvent (eventId status : String) (payload : WebhookPayload)
  | savePayment (payment : Payment)
  | logAudit (event : AuditEvent)
  | insertOutbox (event : DomainEvent)
  | raising (error : PaymentError)
deriving DecidableEq

/-- `_compute_provider_hash`. -/
def computeProviderHash (deployment : Deployment) (providerReference : Option String) :
    Option String :=
  match providerReference with
  | none => none
  | some reference => if reference = "" then none else some (deployment.providerHash reference)

namespace PaymentDb

/-- The row that `save` writes. A row that exists keeps its `id`; a new row gets
`rowId` and the current instant as its `created_at`. -/
def rowOf (deployment : Deployment) (now : Datetime) (rowId : UUID) (payment : Payment)
    (method : PaymentMethod) (environment : PaymentEnv) (existing : Option PaymentRow) :
    PaymentRow where
  id := (existing.map PaymentRow.id).getD rowId
  userId := payment.userId
  amount := payment.amount
  method := method
  status := payment.status
  reference := payment.reference
  idempotencyKey := payment.idempotencyKey
  providerReference := payment.providerReference
  providerReferenceHash := computeProviderHash deployment payment.providerReference
  contextReference := payment.contextReference
  metadata := payment.metadata
  environment := environment
  createdAt := if existing.isSome then payment.createdAt else now
  expiresAt := payment.expiresAt

/-- Another row already holds a unique value of the payment. -/
def clashes (db : PaymentDb) (payment : Payment) : Bool :=
  db.payments.rows.any fun row =>
    row.reference ≠ payment.reference ∧
      (row.idempotencyKey = payment.idempotencyKey ∨
        (payment.providerReference.isSome ∧ row.providerReference = payment.providerReference))

/-- `DjangoPaymentRepository.save`: every column is written to the row of the
payment's reference, whatever that row holds. -/
def savePayment (deployment : Deployment) (now : Datetime) (rowId : UUID) (payment : Payment)
    (db : PaymentDb) : Except PaymentError PaymentDb :=
  match payment.method, payment.environment with
  | .member method, .member environment =>
    if (db.users payment.userId).isNone then .error (.integrityError "user_id")
    else if db.clashes payment then .error (.integrityError "UNIQUE constraint failed")
    else
      .ok { db with
        payments := db.payments.upsert
          (rowOf deployment now rowId payment method environment
            (db.payments.lookup payment.reference)) }
  | _, _ => .error (.attributeError "'str' object has no attribute 'value'")

/-- `DjangoWebhookEventRepository.save_event`. -/
def saveEvent (now : Datetime) (eventId status : String) (payload : WebhookPayload)
    (db : PaymentDb) : PaymentDb :=
  { db with
    events := db.events.upsert
      { eventId, status, payload
        createdAt := ((db.events.lookup eventId).map WebhookEventRow.createdAt).getD now } }

/-- `DjangoAuditLogger.log`. The reference to the payment is dropped when no row has its id. -/
def logAudit (now : Datetime) (event : AuditEvent) (db : PaymentDb) :
    Except PaymentError PaymentDb :=
  if db.auditLog.any fun row => row.id = event.id then
    .error (.integrityError "UNIQUE constraint failed")
  else
    .ok { db with
      auditLog :=
        { id := event.id
          payment := event.paymentId.filter fun id => db.payments.rows.any fun row => row.id = id
          action := event.action
          actor := event.actor
          details := event.details
          createdAt := now } :: db.auditLog }

/-- The insert of `DjangoPaymentEventOutboxDispatcher.dispatch`. -/
def insertOutbox (event : DomainEvent) (db : PaymentDb) : Except PaymentError PaymentDb :=
  if (db.outbox.lookup event.eventId).isSome then
    .error (.integrityError "UNIQUE constraint failed")
  else
    .ok { db with outbox := db.outbox.upsert ⟨event⟩ }

/-- One statement of a transaction. -/
def applyWrite (deployment : Deployment) (now : Datetime) (rowId : UUID) (write : TxWrite)
    (db : PaymentDb) : Except PaymentError PaymentDb :=
  match write with
  | .saveEvent eventId status payload => .ok (db.saveEvent now eventId status payload)
  | .savePayment payment => db.savePayment deployment now rowId payment
  | .logAudit event => db.logAudit now event
  | .insertOutbox event => db.insertOutbox event
  | .raising error => .error error

end PaymentDb

/-- An error of a store or a service on one call. -/
structure Fault where
  /-- The error that the call raises. -/
  error : PaymentError
  /-- Inside a transaction, the index of the statement that raises it; the commit
  is the last one. -/
  statement : ℕ
  /-- Outside a transaction, whether the call took effect before the error. -/
  applied : Bool

/-- What a call leaves open. -/
structure Choice where
  /-- Microseconds since the previous call. -/
  elapsed : ℕ
  /-- The error that this call meets, if any. -/
  fault : Option Fault
  /-- The next random UUID. -/
  uuid : UUID
  /-- The provider's answer to a verification: status, minor amount and currency. -/
  verification : Option (String × ℤ × String)
  /-- The link that the provider creates. -/
  paymentLink : String

/-- The statements of a transaction from index `k` on. -/
def runBody (deployment : Deployment) (now : Datetime) (choice : Choice) :
    ℕ → List TxWrite → PaymentDb → Except PaymentError PaymentDb
  | k, body, db =>
    match choice.fault.filter fun fault => fault.statement = k with
    | some fault => .error fault.error
    | none =>
      match body with
      | [] => .ok db
      | write :: body =>
        match db.applyWrite deployment now choice.uuid write with
        | .ok db => runBody deployment now choice (k + 1) body db
        | .error error => .error error

/-- A task on the queue. -/
inductive QueuedTask : Type where
  | processWebhookRetry (providerReference : JsonValue) (countdown retries : ℕ)
  | publishPaymentDomainEvent (eventId : UUID)
deriving DecidableEq

/-- The shared state of the component. -/
structure PaymentState where
  db : PaymentDb
  /-- The Redis keys `payment_lock:…`. -/
  locks : ExpiringMap String Unit Datetime
  /-- The Redis counters `payment_webhook_retry:…`. -/
  retries : ExpiringMap String ℕ Datetime
  /-- The sent tasks, newest first. -/
  queue : List QueuedTask
  clock : Datetime

/-- One call on a store or a service. -/
inductive PaymentOp : Type where
  | utcNow
  | uuid4
  | findByIdempotencyKey (idempotencyKey : String)
  | getVelocityContext (userId : UUID) (now : Datetime)
  | findDuplicateContextRef (userId : UUID) (contextRef : Option String) (since : Datetime)
  | createPaymentLink
  | eventExists (eventId : String)
  | acquireLock (lockKey : String) (ttlSeconds : ℕ)
  | releaseLock (lockKey : String)
  | verifyTransaction (providerReference : JsonValue)
  | findByProviderReference (providerReference : JsonValue)
  | findByReference (reference : String)
  | findExpiredPending (now : Datetime)
  | atomic (body : List TxWrite)
  | outboxExists (eventId : UUID)
  | incrRetry (retryKey : String)
  | expireRetry (retryKey : String) (ttlSeconds : ℕ)
  | resetRetry (retryKey : String)
  | sendTask (task : QueuedTask)
  | retryCandidates
  | decryptRetryPayload (row : WebhookEventRow)
  | eventStatus (eventId : String)

/-- The answer of each call. -/
def PaymentOp.Ret : PaymentOp → Type
  | .utcNow => Datetime
  | .uuid4 => UUID
  | .findByIdempotencyKey _ | .findByProviderReference _ | .findByReference _ => Option Payment
  | .getVelocityContext _ _ => VelocityContext
  | .findDuplicateContextRef _ _ _ | .eventExists _ | .acquireLock _ _ | .outboxExists _ => Bool
  | .createPaymentLink => String × String
  | .verifyTransaction _ => Option VerifiedTransaction
  | .findExpiredPending _ => List Payment
  | .incrRetry _ => ℕ
  | .retryCandidates => List WebhookEventRow
  | .decryptRetryPayload _ => WebhookPayload
  | .eventStatus _ => Option String
  | .releaseLock _ | .atomic _ | .expireRetry _ _ | .resetRetry _ | .sendTask _ => Unit

/-- `WebhookEvent.Status`. -/
inductive WebhookStatus : Type where
  | processing | processedSuccess | rejectedUnknown | rejectedPolicy | fraudDetected
  | lockFailedRetry | verifyFailedRetry | rejectedMissingRef
deriving DecidableEq, Repr

/-- The text of a status in the model's choices. -/
def WebhookStatus.value : WebhookStatus → String
  | .processing => "processing"
  | .processedSuccess => "processed_success"
  | .rejectedUnknown => "rejected_unknown"
  | .rejectedPolicy => "rejected_policy"
  | .fraudDetected => "fraud_detected"
  | .lockFailedRetry => "lock_failed_retry"
  | .verifyFailedRetry => "verify_failed_retry"
  | .rejectedMissingRef => "rejected_missing_ref"

/-- `RETRYABLE_WEBHOOK_STATUSES`. -/
def retryableWebhookStatuses : List String :=
  [WebhookStatus.processing, .lockFailedRetry, .verifyFailedRetry].map WebhookStatus.value

/-- `TERMINAL_WEBHOOK_STATUSES`. -/
def terminalWebhookStatuses : List String :=
  [WebhookStatus.processedSuccess, .rejectedUnknown, .rejectedPolicy, .fraudDetected,
    .rejectedMissingRef].map WebhookStatus.value

namespace PaymentDb

/-- `objects.get(…)`: no row gives `None`, several rows raise. -/
def getPayment (db : PaymentDb) (matching : PaymentRow → Bool) :
    Except PaymentError (Option Payment) :=
  match db.payments.rows.filter matching with
  | [] => .ok none
  | [row] => .ok (some row.toDomain)
  | _ :: _ :: _ => .error (.multipleObjectsReturned "get() returned more than one Payment")

/-- `find_by_reference`. -/
def findByReference (db : PaymentDb) (reference : String) : Option Payment :=
  (db.payments.lookup reference).map PaymentRow.toDomain

/-- `find_by_provider_reference`. Only text has the method `encode` that the hash calls. -/
def findByProviderReference (deployment : Deployment) (db : PaymentDb)
    (providerReference : JsonValue) : Except PaymentError (Option Payment) :=
  if ¬ providerReference.isTruthy then .ok none
  else
    match providerReference with
    | .text reference =>
      db.getPayment fun row => row.providerReferenceHash = some (deployment.providerHash reference)
    | .other _ _ => .error (.attributeError "object has no attribute 'encode'")

/-- `find_by_idempotency_key`. -/
def findByIdempotencyKey (db : PaymentDb) (idempotencyKey : String) :
    Except PaymentError (Option Payment) :=
  db.getPayment fun row => row.idempotencyKey = idempotencyKey

/-- `get_velocity_context`. -/
def getVelocityContext (db : PaymentDb) (userId : UUID) (now : Datetime) : VelocityContext :=
  let lastHour := db.payments.rows.filter fun row =>
    row.userId = userId ∧ now - hours 1 ≤ row.createdAt
  let lastDay := db.payments.rows.filter fun row =>
    row.userId = userId ∧ now - days 1 ≤ row.createdAt
  { paymentsLastHour := lastHour.length
    paymentsLastDay := lastDay.length
    amountLastDayMinor := (lastDay.map fun row => row.amount.minorUnits).sum
    failedLastHour := (lastHour.filter fun row => row.status = .failed).length
    uniqueVendorsLastHour := (lastHour.filterMap PaymentRow.providerReference).dedup.length
    accountAge := ((db.users userId).map fun createdAt => now - createdAt).getD 0 }

/-- `find_duplicate_context_ref`. -/
def findDuplicateContextRef (db : PaymentDb) (userId : UUID) (contextRef : Option String)
    (since : Datetime) : Bool :=
  match contextRef with
  | none => false
  | some contextRef =>
    contextRef ≠ "" ∧ db.payments.rows.any fun row =>
      row.userId = userId ∧ row.contextReference = some contextRef ∧ since ≤ row.createdAt

/-- `find_expired_pending`. -/
def findExpiredPending (db : PaymentDb) (now : Datetime) : List Payment :=
  (db.payments.rows.filter fun row =>
    (row.status = .initiated ∨ row.status = .pending) ∧ row.expiresAt < now).map
      PaymentRow.toDomain

/-- The query of `_load_retry_event`, newest event first. -/
def retryCandidates (db : PaymentDb) : List WebhookEventRow :=
  (db.events.rows.filter fun row =>
    row.status ∈ retryableWebhookStatuses ++ terminalWebhookStatuses).insertionSort
      fun first second => second.createdAt ≤ first.createdAt

end PaymentDb

namespace PaymentState

/-- A call that only reads. A fault is raised in place of the answer. -/
def reading {α : Type} (choice : Choice) (answer : Except PaymentError α) (s : PaymentState) :
    Except PaymentError α × PaymentState :=
  match choice.fault with
  | some fault => (.error fault.error, s)
  | none => (answer, s)

/-- A call outside a transaction that changes the state. A fault hides its answer,
and the change may have been made nevertheless. -/
def writing {α : Type} (choice : Choice) (answer : α) (after : PaymentState) (s : PaymentState) :
    Except PaymentError α × PaymentState :=
  match choice.fault with
  | some fault => (.error fault.error, if fault.applied then after else s)
  | none => (.ok answer, after)

/-- A transaction: its statements take effect together or not at all. -/
def transaction (deployment : Deployment) (choice : Choice) (body : List TxWrite)
    (s : PaymentState) : Except PaymentError Unit × PaymentState :=
  match runBody deployment s.clock choice 0 body s.db with
  | .ok db => (.ok (), { s with db })
  | .error error => (.error error, s)

/-- The effect of a call at the current instant. -/
def effect (deployment : Deployment) (choice : Choice) :
    (op : PaymentOp) → PaymentState → Except PaymentError op.Ret × PaymentState
  | .utcNow, s => (.ok s.clock, s)
  | .uuid4, s => (.ok choice.uuid, s)
  | .findByIdempotencyKey key, s => reading choice (s.db.findByIdempotencyKey key) s
  | .getVelocityContext userId now, s =>
    reading choice (.ok (s.db.getVelocityContext userId now)) s
  | .findDuplicateContextRef userId contextRef since, s =>
    reading choice (.ok (s.db.findDuplicateContextRef userId contextRef since)) s
  | .createPaymentLink, s =>
    reading choice (.ok (choice.paymentLink, "flw_" ++ String.ofList (hexDigits choice.uuid))) s
  | .eventExists eventId, s => reading choice (.ok (s.db.events.lookup eventId).isSome) s
  | .acquireLock lockKey ttlSeconds, s =>
    if (s.locks.get s.clock lockKey).isSome then writing choice false s s
    else
      writing choice true
        { s with locks := s.locks.set lockKey () (some (s.clock + seconds ttlSeconds)) } s
  | .releaseLock lockKey, s => writing choice () { s with locks := s.locks.delete lockKey } s
  | .verifyTransaction providerReference, s =>
    reading choice (.ok (choice.verification.map fun (status, amountMinorUnits, currencyCode) =>
      { providerReference, status, amountMinorUnits, currencyCode })) s
  | .findByProviderReference providerReference, s =>
    reading choice (s.db.findByProviderReference deployment providerReference) s
  | .findByReference reference, s => reading choice (.ok (s.db.findByReference reference)) s
  | .findExpiredPending now, s => reading choice (.ok (s.db.findExpiredPending now)) s
  | .atomic body, s => transaction deployment choice body s
  | .outboxExists eventId, s => reading choice (.ok (s.db.outbox.lookup eventId).isSome) s
  | .incrRetry retryKey, s =>
    match s.retries.get s.clock retryKey with
    | none => writing choice (1 : ℕ) { s with retries := s.retries.set retryKey 1 none } s
    | some attempts =>
      writing choice (attempts + 1 : ℕ)
        { s with
          retries := s.retries.set retryKey (attempts + 1)
            ((s.retries retryKey).bind Expiring.deadline) } s
  | .expireRetry retryKey ttlSeconds, s =>
    match s.retries.get s.clock retryKey with
    | none => writing choice () s s
    | some attempts =>
      writing choice ()
        { s with
          retries := s.retries.set retryKey attempts (some (s.clock + seconds ttlSeconds)) } s
  | .resetRetry retryKey, s => writing choice () { s with retries := s.retries.delete retryKey } s
  | .sendTask task, s => writing choice () { s with queue := task :: s.queue } s
  | .retryCandidates, s => reading choice (.ok s.db.retryCandidates) s
  | .decryptRetryPayload row, s => reading choice (.ok row.payload) s
  | .eventStatus eventId, s =>
    reading choice (.ok ((s.db.events.lookup eventId).map WebhookEventRow.status)) s

/-- Time passes, then the call takes effect. -/
def exec (deployment : Deployment) : Exec PaymentState Choice (Raising PaymentError PaymentOp.Ret) :=
  fun choice op s => effect deployment choice op { s with clock := s.clock + choice.elapsed }

end PaymentState

end Linkapro.Payments
