import Linkapro.Shared

/-!
# Payments: entities and policies

The payment entity with its status machine, and the pure policies that the
command handlers consult before they write anything.
-/

namespace Linkapro.Payments

/-- The errors that the payment component raises, with their messages. -/
inductive PaymentError : Type where
  | invalidTransition (message : String)
  | paymentNotFound (message : String)
  | paymentNotAllowed (reason : String)
  | providerGateway (message : String)
  | velocityLimitExceeded (message : String)
  | fraudFlagged (message : String)
  | attributeError (message : String)
  | valueError (message : String)
  | integrityError (message : String)
  | multipleObjectsReturned (message : String)
  /-- The celery `Retry` exception that re-enqueues a task. -/
  | retry
  /-- Any other error of a store or a service. -/
  | infrastructure (message : String)
deriving DecidableEq, Repr

/-- `str(error)`. -/
def PaymentError.message : PaymentError → String
  | .invalidTransition message | .paymentNotFound message | .paymentNotAllowed message
  | .providerGateway message | .velocityLimitExceeded message | .fraudFlagged message
  | .attributeError message | .valueError message | .integrityError message
  | .multipleObjectsReturned message | .infrastructure message => message
  | .retry => "Retry"

/-- `PaymentStatus`. -/
inductive PaymentStatus : Type where
  | initiated | pending | success | failed | cancelled | expired | refundRequested | refunded
deriving DecidableEq, Repr

/-- The stored text of a status. -/
def PaymentStatus.value : PaymentStatus → String
  | .initiated => "initiated"
  | .pending => "pending"
  | .success => "success"
  | .failed => "failed"
  | .cancelled => "cancelled"
  | .expired => "expired"
  | .refundRequested => "refund_requested"
  | .refunded => "refunded"

/-- `PaymentMethod`. -/
inductive PaymentMethod : Type where
  | card | mobileMoney | bankTransfer
deriving DecidableEq, Repr

/-- `PaymentEnv`. -/
inductive PaymentEnv : Type where
  | test | live
deriving DecidableEq, Repr

/-- The stored text of an environment. -/
def PaymentEnv.value : PaymentEnv → String
  | .test => "test"
  | .live => "live"

/-- The currencies of `Currency._SUPPORTED`. -/
inductive Currency : Type where
  | rwf | usd | eur | kes | ghs | ngn
deriving DecidableEq, Repr

namespace Currency

/-- The ISO 4217 code. -/
def code : Currency → String
  | .rwf => "RWF"
  | .usd => "USD"
  | .eur => "EUR"
  | .kes => "KES"
  | .ghs => "GHS"
  | .ngn => "NGN"

/-- The least amount in minor units. -/
def minMinor : Currency → ℤ := fun _ => 100

/-- The largest amount in minor units. -/
def maxMinor : Currency → ℤ
  | .rwf => 10000000
  | .usd => 1000000
  | .eur => 1000000
  | .kes => 5000000
  | .ghs => 1000000
  | .ngn => 50000000

end Currency

/-- `Money`: an amount in minor units within the range of its currency. -/
structure Money where
  /-- The amount in minor units. -/
  minorUnits : ℤ
  /-- The currency. -/
  currency : Currency
  /-- The range check of `__post_init__`. -/
  inRange : currency.minMinor ≤ minorUnits ∧ minorUnits ≤ currency.maxMinor
deriving DecidableEq

theorem Money.thousand_inRange :
    Currency.rwf.minMinor ≤ 1000 ∧ 1000 ≤ Currency.rwf.maxMinor := by decide

/-- A value of the metadata dictionary. Values that are neither text, a number
nor a boolean are `other`. -/
inductive MetadataValue : Type where
  | text (value : String)
  | int (value : ℤ)
  | float (rendering : String)
  | bool (value : Bool)
  | other (rendering : String)
deriving DecidableEq, Repr

/-- `isinstance(v, (str, int, float, bool))`. -/
def MetadataValue.isPrimitive : MetadataValue → Bool
  | .other _ => false
  | _ => true

/-- The metadata argument of an initiation: absent, a dictionary or another JSON value. -/
inductive MetadataArg : Type where
  | none
  | dict (entries : List (String × MetadataValue))
  | notADict (truthy : Bool)
deriving DecidableEq, Repr

/-- Metadata that has passed `Payment.__post_init__`. -/
structure Metadata where
  /-- The items of the dictionary. -/
  entries : List (String × MetadataValue)
  /-- At most ten keys. -/
  atMostTen : entries.length ≤ 10
  /-- Values are primitive. -/
  primitive : ∀ entry ∈ entries, entry.2.isPrimitive
deriving DecidableEq

theorem Metadata.atMostTen_nil : ([] : List (String × MetadataValue)).length ≤ 10 := Nat.zero_le _

theorem Metadata.primitive_nil :
    ∀ entry ∈ ([] : List (String × MetadataValue)), entry.2.isPrimitive := by simp

/-- The metadata checks of `Payment.__post_init__`, after `cmd.metadata or {}`. -/
def Metadata.validate : MetadataArg → Except PaymentError Metadata
  | .none | .notADict false => .ok ⟨[], by decide, by simp⟩
  | .notADict true => .error (.valueError "metadata must be a dict")
  | .dict entries =>
    if hlength : entries.length ≤ 10 then
      if hprimitive : ∀ entry ∈ entries, entry.2.isPrimitive then
        .ok ⟨entries, hlength, hprimitive⟩
      else
        .error (.valueError "metadata keys must be strings, values must be primitive")
    else
      .error (.valueError "metadata cannot exceed 10 keys")

/-- `Payment`. The default of `expires_at` is filled in by `Payment.create`. -/
structure Payment where
  id : UUID
  userId : UUID
  amount : Money
  method : EnumArg PaymentMethod
  reference : String
  idempotencyKey : String
  environment : EnumArg PaymentEnv
  status : PaymentStatus
  providerReference : Option String
  contextReference : Option String
  metadata : Metadata
  createdAt : Datetime
  expiresAt : Datetime
deriving DecidableEq

/-- The text that an environment argument compares equal to. -/
def environmentText : EnumArg PaymentEnv → String
  | .member value => value.value
  | .text value => value

namespace Payment

/-- `_allowed_transitions`. -/
def allowedTransitions : PaymentStatus → List PaymentStatus
  | .initiated => [.pending, .cancelled, .expired]
  | .pending => [.success, .failed, .cancelled, .expired]
  | .success => [.refundRequested]
  | .refundRequested => [.refunded, .success]
  | .failed => []
  | .cancelled => []
  | .expired => []
  | .refunded => []

/-- `transition_to`. -/
def transitionTo (payment : Payment) (newStatus : PaymentStatus) : Except PaymentError Payment :=
  if newStatus ∈ allowedTransitions payment.status then
    .ok { payment with status := newStatus }
  else
    .error (.invalidTransition
      ("Cannot transition from " ++ payment.status.value ++ " to " ++ newStatus.value))

/-- `is_expired`. -/
def isExpired (payment : Payment) (now : Datetime) : Prop := payment.expiresAt < now

instance (payment : Payment) (now : Datetime) : Decidable (payment.isExpired now) :=
  inferInstanceAs (Decidable (_ < _))

/-- A successful transition changes the status along an allowed edge and nothing else. -/
theorem transitionTo_eq_ok_iff {payment payment' : Payment} {newStatus : PaymentStatus} :
    payment.transitionTo newStatus = .ok payment' ↔
      newStatus ∈ allowedTransitions payment.status ∧
        payment' = { payment with status := newStatus } := by
  unfold transitionTo
  split
  · next h => simp [h, eq_comm]
  · next h => simp [h]

end Payment

/-- `PolicyResult`. -/
structure PolicyResult where
  allowed : Bool
  reason : Option String
  nextState : Option PaymentStatus
  fraudSignal : Bool
deriving DecidableEq

namespace PolicyResult

/-- `PolicyResult(allowed=False, reason=…)`. -/
def deny (reason : String) : PolicyResult := ⟨false, some reason, none, false⟩

/-- `PolicyResult(allowed=True, next_state=…)`. -/
def allow (nextState : PaymentStatus) : PolicyResult := ⟨true, none, some nextState, false⟩

end PolicyResult

/-- The context object that `process_webhook` builds for `CONFIRM_SUCCESS`. -/
structure ConfirmContext where
  providerVerified : Bool
  providerReference : JsonValue
  providerAmountMinor : ℤ
  providerCurrency : String
  environment : String
deriving DecidableEq

/-- The actions of `PaymentPolicy.apply`, with the context of each. -/
inductive PolicyAction : Type where
  | initiate
  | confirmSuccess (context : ConfirmContext)
  | expire
  | unknown (action : String)

namespace PaymentPolicy

/-- `_evaluate_initiate`. -/
def evaluateInitiate (payment : Payment) (now : Datetime) : PolicyResult :=
  if payment.status ≠ .initiated then .deny "Payment already processed"
  else if payment.isExpired now then .deny "Payment has expired"
  else .allow .pending

/-- The reasons that `_evaluate_confirm_success` collects, in its order, each with
whether it is a sign of fraud. -/
def confirmReasons (payment : Payment) (context : ConfirmContext) (now : Datetime) :
    List (String × Bool) :=
  (if payment.status ≠ .pending then
    [("Payment not pending (current: " ++ payment.status.value ++ ")", false)] else []) ++
  (if ¬ context.providerVerified then [("Provider verification failed", false)] else []) ++
  (if context.providerReference ≠ JsonValue.ofOption payment.providerReference then
    [("Provider reference mismatch", true)] else []) ++
  (if context.providerAmountMinor ≠ payment.amount.minorUnits then
    [("Amount mismatch", true)] else []) ++
  (if context.providerCurrency ≠ payment.amount.currency.code then
    [("Currency mismatch", true)] else []) ++
  (if payment.isExpired now then [("Payment has expired", false)] else []) ++
  (if environmentText payment.environment ≠ context.environment then
    [("Environment mismatch (test/live)", false)] else [])

/-- `_evaluate_confirm_success`. -/
def evaluateConfirmSuccess (payment : Payment) (context : ConfirmContext) (now : Datetime) :
    PolicyResult :=
  match confirmReasons payment context now with
  | [] => .allow .success
  | reason :: reasons =>
    { allowed := false
      reason := some (String.intercalate "; " ((reason :: reasons).map Prod.fst))
      nextState := none
      fraudSignal := (reason :: reasons).any Prod.snd }

/-- `_evaluate_expire`. -/
def evaluateExpire (payment : Payment) (now : Datetime) : PolicyResult :=
  if payment.status ≠ .initiated ∧ payment.status ≠ .pending then
    .deny "Payment not in expirable state"
  else if ¬ payment.isExpired now then .deny "Payment not yet expired"
  else .allow .expired

/-- `PaymentPolicy.apply`. -/
def apply (payment : Payment) (action : PolicyAction) (now : Datetime) : PolicyResult :=
  match action with
  | .initiate => evaluateInitiate payment now
  | .confirmSuccess context => evaluateConfirmSuccess payment context now
  | .expire => evaluateExpire payment now
  | .unknown action => .deny ("Unknown action: " ++ action)

/-- What the policy has checked when it allows a confirmation. -/
structure Confirmed (payment : Payment) (context : ConfirmContext) (now : Datetime) : Prop where
  pending : payment.status = .pending
  verified : context.providerVerified = true
  reference : context.providerReference = JsonValue.ofOption payment.providerReference
  amount : context.providerAmountMinor = payment.amount.minorUnits
  currency : context.providerCurrency = payment.amount.currency.code
  unexpired : ¬ payment.isExpired now
  environment : environmentText payment.environment = context.environment

/-- No reason is collected exactly when every check passes. -/
theorem confirmReasons_eq_nil_iff {payment : Payment} {context : ConfirmContext} {now : Datetime} :
    confirmReasons payment context now = [] ↔ Confirmed payment context now := by
  unfold confirmReasons
  simp only [List.append_eq_nil_iff, ite_eq_right_iff, imp_false, not_not,
    ne_eq, List.cons_ne_nil]
  constructor
  · rintro ⟨⟨⟨⟨⟨⟨h₁, h₂⟩, h₃⟩, h₄⟩, h₅⟩, h₆⟩, h₇⟩
    exact ⟨h₁, h₂, h₃, h₄, h₅, h₆, h₇⟩
  · rintro ⟨h₁, h₂, h₃, h₄, h₅, h₆, h₇⟩
    exact ⟨⟨⟨⟨⟨⟨h₁, h₂⟩, h₃⟩, h₄⟩, h₅⟩, h₆⟩, h₇⟩

/-- The policy allows a confirmation exactly when every check passes. -/
theorem confirm_allowed_iff {payment : Payment} {context : ConfirmContext} {now : Datetime} :
    (apply payment (.confirmSuccess context) now).allowed = true ↔
      Confirmed payment context now := by
  rw [← confirmReasons_eq_nil_iff]
  simp only [apply, evaluateConfirmSuccess]
  cases hreasons : confirmReasons payment context now with
  | nil => simp [PolicyResult.allow]
  | cons reason reasons => simp

/-- An allowed confirmation is no sign of fraud. -/
theorem confirm_fraudSignal_of_allowed {payment : Payment} {context : ConfirmContext}
    {now : Datetime} (h : (apply payment (.confirmSuccess context) now).allowed = true) :
    (apply payment (.confirmSuccess context) now).fraudSignal = false := by
  have hreasons := confirmReasons_eq_nil_iff.mpr (confirm_allowed_iff.mp h)
  simp only [apply, evaluateConfirmSuccess, hreasons, PolicyResult.allow]

/-- The policy allows an expiry exactly for an open payment whose time has passed. -/
theorem expire_allowed_iff {payment : Payment} {now : Datetime} :
    (apply payment .expire now).allowed = true ↔
      (payment.status = .initiated ∨ payment.status = .pending) ∧ payment.isExpired now := by
  simp only [apply, evaluateExpire]
  by_cases hopen : payment.status = .initiated ∨ payment.status = .pending
  · rw [if_neg (by tauto)]
    by_cases hexpired : payment.isExpired now
    · simp [hopen, hexpired, PolicyResult.allow]
    · simp [hexpired, PolicyResult.deny]
  · rw [if_pos (by tauto)]
    simp [hopen, PolicyResult.deny]

end PaymentPolicy

/-- `VelocityContext`. The account age is kept as a duration. -/
structure VelocityContext where
  paymentsLastHour : ℕ
  paymentsLastDay : ℕ
  amountLastDayMinor : ℤ
  failedLastHour : ℕ
  uniqueVendorsLastHour : ℕ
  accountAge : Timedelta
deriving DecidableEq

/-- `VelocityResult`. -/
structure VelocityResult where
  allowed : Bool
  reason : Option String
  flag : Bool
deriving DecidableEq

/-- `VelocityPolicy.apply` with the limits of `VelocityPolicy.LIMITS`. -/
def VelocityPolicy.apply (context : VelocityContext) : VelocityResult :=
  if 5 ≤ context.paymentsLastHour then ⟨false, some "Hourly payment limit exceeded", false⟩
  else if 20 ≤ context.paymentsLastDay then ⟨false, some "Daily payment limit exceeded", false⟩
  else if 2000000 ≤ context.amountLastDayMinor then
    ⟨false, some "Daily amount limit exceeded", false⟩
  else if 3 ≤ context.failedLastHour then ⟨false, some "Too many failed payments", false⟩
  else if 3 ≤ context.uniqueVendorsLastHour then
    ⟨true, some "High number of unique vendors", true⟩
  else ⟨true, none, false⟩

/-- `StepUpPolicy.THRESHOLDS`, which lists every supported currency. -/
def StepUpPolicy.threshold : Currency → ℤ
  | .rwf => 500000
  | .usd => 50000
  | .eur => 50000
  | .kes => 5000000
  | .ngn => 20000000
  | .ghs => 50000

/-- `FraudContext`. -/
structure FraudContext where
  duplicateContextRef : Bool
  accountAge : Timedelta
  stepUpThresholdMinor : ℤ
deriving DecidableEq

/-- The patterns that `FraudPatternPolicy.apply` finds for an amount. One percent of
each threshold is a whole number of minor units. -/
def FraudPatternPolicy.patterns (amount : Money) (context : FraudContext) : List String :=
  let threshold := context.stepUpThresholdMinor
  (if context.duplicateContextRef then ["DUPLICATE_PURCHASE"] else []) ++
  (if context.accountAge < hours 24 ∧ threshold ≤ amount.minorUnits then
    ["NEW_ACCOUNT_HIGH_VALUE"] else []) ++
  (if 99 * threshold ≤ 100 * amount.minorUnits ∧ 100 * amount.minorUnits ≤ 101 * threshold then
    ["THRESHOLD_PROBING"] else [])

/-- The domain events of the component, each with its `event_id`. -/
inductive DomainEvent : Type where
  | fraudSignal (paymentId : UUID) (providerReference : JsonValue) (reason : Option String)
      (occurredAt : Datetime) (eventId : UUID)
  | paymentCompleted (paymentId userId : UUID) (amountMinor : ℤ) (currency : String)
      (occurredAt : Datetime) (eventId : UUID)
  | paymentExpired (paymentId : UUID) (occurredAt : Datetime) (eventId : UUID)
deriving DecidableEq

/-- The `event_id` of an event. -/
def DomainEvent.eventId : DomainEvent → UUID
  | .fraudSignal _ _ _ _ eventId | .paymentCompleted _ _ _ _ _ eventId
  | .paymentExpired _ _ eventId => eventId

/-- `AuditEvent`. Its `created_at` is left out: the table sets that column itself. -/
structure AuditEvent where
  id : UUID
  paymentId : Option UUID
  action : String
  actor : String
  details : List (String × JsonValue)
deriving DecidableEq

/-- The data of a webhook payload that the code reads: `data` is absent (the code
then reads an empty dictionary), a dictionary with or without `tx_ref`, or no
dictionary at all. -/
inductive PayloadData : Type where
  | missing
  | dict (txRef : Option JsonValue)
  | notADict
deriving DecidableEq, Repr

/-- A webhook payload. -/
structure WebhookPayload where
  data : PayloadData
deriving DecidableEq, Repr

/-- `payload.get("data", {}).get("tx_ref")`. -/
def extractProviderReference (payload : WebhookPayload) : Except PaymentError JsonValue :=
  match payload.data with
  | .missing => .ok .null
  | .dict txRef => .ok (txRef.getD .null)
  | .notADict => .error (.attributeError "object has no attribute 'get'")

/-- `VerifiedTransactionDTO`. -/
structure VerifiedTransaction where
  providerReference : JsonValue
  status : String
  amountMinorUnits : ℤ
  currencyCode : String
deriving DecidableEq

/-- `InitiatePaymentCommand`. -/
structure InitiatePaymentCommand where
  userId : UUID
  amount : Money
  method : EnumArg PaymentMethod
  idempotencyKey : String
  redirectBaseUrl : String
  customerEmail : String
  customerName : Option String
  contextReference : Option String
  metadata : MetadataArg
  environment : EnumArg PaymentEnv

/-- `ProcessWebhookCommand`. -/
structure ProcessWebhookCommand where
  eventId : String
  payload : WebhookPayload
  now : Datetime

/-- `ExpireStalePaymentsCommand`. -/
structure ExpireStalePaymentsCommand where
  now : Datetime

/-- `RequestRefundCommand`. -/
structure RequestRefundCommand where
  paymentReference : String
  requestedBy : UUID
  reason : Option String
  now : Option Datetime

end Linkapro.Payments
