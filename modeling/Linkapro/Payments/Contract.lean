import Linkapro.Payments.Tasks

/-!
# Payments: what the handlers issue

Every transaction that a call issues has one of ten shapes, and its log shows
what the call had read and checked before. `followsContract` proves this for
the calls of the component, together with the release of every acquired lock.
The later files use this contract and never unfold a handler again.
-/

namespace Linkapro.Payments

open Lib Lib.Action

/-- A performed call of the component. -/
abbrev PaymentCallRecord : Type := Call (Raising PaymentError PaymentOp.Ret)

/-- The performed calls of one program, newest first. -/
abbrev PaymentLog : Type := Log (Raising PaymentError PaymentOp.Ret)

/-- The payments that a performed call shows to its caller. -/
def reads : PaymentCallRecord → List Payment
  | ⟨.findByReference _, .ok payment⟩ => Option.toList payment
  | ⟨.findByProviderReference _, .ok payment⟩ => Option.toList payment
  | ⟨.findByIdempotencyKey _, .ok payment⟩ => Option.toList payment
  | ⟨.findExpiredPending _, .ok payments⟩ => payments
  | _ => []

/-- The payments that the statements save. -/
def savedPayments (body : List TxWrite) : List Payment :=
  body.filterMap fun write =>
    match write with
    | .savePayment payment => some payment
    | _ => none

/-- The statements that a call has committed. -/
def committed : PaymentCallRecord → List TxWrite
  | ⟨.atomic body, .ok _⟩ => body
  | _ => []

/-- The payment of a reference that a call has read last and has not saved since. -/
def held (reference : String) : PaymentLog → Option Payment
  | [] => none
  | call :: log =>
    if reference ∈ (savedPayments (committed call)).map Payment.reference then none
    else ((reads call).find? fun payment => payment.reference = reference).or (held reference log)

/-- Whether a call takes (`true`) or gives up (`false`) a lock. -/
def lockEffect : PaymentCallRecord → Option (String × Bool)
  | ⟨.acquireLock key _, .ok true⟩ => some (key, true)
  | ⟨.releaseLock key, _⟩ => some (key, false)
  | _ => none

/-- The log ends with the lock taken and not given up. -/
def lockHeld (key : String) : PaymentLog → Bool
  | [] => false
  | call :: log =>
    match lockEffect call with
    | some (key', taken) => if key' = key then taken else lockHeld key log
    | none => lockHeld key log

/-- The webhook command of a call: its own, or the one that the retry task builds
from a candidate with a retryable status. -/
def WebhookOrigin (call : PaymentCall) (log : PaymentLog) (cmd : ProcessWebhookCommand) : Prop :=
  match call with
  | .processWebhook cmd' => cmd = cmd' ∧ ⟨.eventExists cmd.eventId, .ok false⟩ ∈ log
  | .processWebhookRetry _ _ => ∃ candidates : List WebhookEventRow,
      ⟨.retryCandidates, .ok candidates⟩ ∈ log ∧
      ∃ row ∈ candidates, row.eventId = cmd.eventId ∧ row.status ∈ retryableWebhookStatuses
  | _ => False

/-- The log shows that a payment was found for a provider reference after the
verification of its transaction. -/
def FoundVerified (providerRef : JsonValue) (verification : VerifiedTransaction)
    (payment : Payment) (log : PaymentLog) : Prop :=
  ∃ newer older, log = newer ++ ⟨.findByProviderReference providerRef, .ok (some payment)⟩ :: older ∧
    ⟨.verifyTransaction providerRef, .ok (some verification)⟩ ∈ older

/-- The statuses of events that are stored without any other statement. -/
def loneStatuses : List String :=
  ["REJECTED_MISSING_REF", "LOCK_FAILED_RETRY", "VERIFY_FAILED_RETRY"]

/-- The transactions of a call, with what its log shows when it issues them. -/
inductive Issued (call : PaymentCall) (log : PaymentLog) : List TxWrite → Prop where
  | lone {cmd : ProcessWebhookCommand} {status : String} (origin : WebhookOrigin call log cmd)
      (status_mem : status ∈ loneStatuses) :
      Issued call log [.saveEvent cmd.eventId status cmd.payload]
  | unknown {cmd : ProcessWebhookCommand} {providerRef : JsonValue} {auditId : UUID}
      (origin : WebhookOrigin call log cmd) :
      Issued call log (unknownBody cmd providerRef auditId)
  | fraud {cmd : ProcessWebhookCommand} {payment : Payment} {reason : Option String}
      {auditId : UUID} (origin : WebhookOrigin call log cmd) :
      Issued call log (fraudBody cmd payment reason auditId [])
  | success {cmd : ProcessWebhookCommand} {providerRef : JsonValue}
      {verification : VerifiedTransaction} {payment : Payment} {auditId : UUID}
      (origin : WebhookOrigin call log cmd)
      (found : FoundVerified providerRef verification payment log)
      (held_eq : held payment.reference log = some payment)
      (confirmed : PaymentPolicy.Confirmed payment (confirmContext verification payment) cmd.now) :
      Issued call log (successBody cmd payment auditId [])
  | reject {cmd : ProcessWebhookCommand} {payment : Payment} {reason : Option String}
      {auditId : UUID} (origin : WebhookOrigin call log cmd) :
      Issued call log (rejectBody cmd payment reason auditId)
  | expire {cmd : ExpireStalePaymentsCommand} {payment : Payment} {auditId : UUID}
      (call_eq : call = .expireStalePayments cmd)
      (held_eq : held payment.reference log = some payment)
      (expirable : (payment.status = .initiated ∨ payment.status = .pending) ∧
        payment.isExpired cmd.now) :
      Issued call log (expireBody payment auditId [])
  | refund {cmd : RequestRefundCommand} {payment : Payment} {auditId : UUID}
      (call_eq : call = .requestRefund cmd)
      (held_eq : held payment.reference log = some payment)
      (succeeded : payment.status = .success) :
      Issued call log (refundBody cmd payment auditId)
  | initiate {cmd : InitiatePaymentCommand} {payment : Payment} {auditId : UUID}
      (call_eq : call = .initiatePayment cmd)
      (pending : payment.status = .pending)
      (environment : payment.environment = cmd.environment) :
      Issued call log (initiateBody cmd payment auditId)
  | velocityBlock {userId : UUID} {auditId : UUID} :
      Issued call log [.logAudit (auditEntry auditId none "VELOCITY_BLOCK" (userActor userId) [])]
  | outbox {event : DomainEvent} : Issued call log [.insertOutbox event]

/-- The statements after an allowed status change. -/
theorem afterTransition_of_allowed {payment : Payment} {newStatus : PaymentStatus}
    {statements : Payment → List TxWrite}
    (h : newStatus ∈ Payment.allowedTransitions payment.status) :
    afterTransition payment newStatus statements =
      statements { payment with status := newStatus } := by
  unfold afterTransition Payment.transitionTo
  rw [if_pos h]

theorem savedPayments_successBody {cmd : ProcessWebhookCommand} {payment : Payment}
    {auditId : UUID} (h : payment.status = .pending) :
    savedPayments (successBody cmd payment auditId []) = [{ payment with status := .success }] := by
  unfold successBody
  rw [afterTransition_of_allowed (by rw [h]; decide)]
  rfl

theorem savedPayments_expireBody {payment : Payment} {auditId : UUID}
    (h : payment.status = .initiated ∨ payment.status = .pending) :
    savedPayments (expireBody payment auditId []) = [{ payment with status := .expired }] := by
  unfold expireBody
  rw [afterTransition_of_allowed (by rcases h with h | h <;> rw [h] <;> decide)]
  rfl

theorem savedPayments_refundBody {cmd : RequestRefundCommand} {payment : Payment} {auditId : UUID}
    (h : payment.status = .success) :
    savedPayments (refundBody cmd payment auditId) =
      [{ payment with status := .refundRequested }] := by
  unfold refundBody
  rw [afterTransition_of_allowed (by rw [h]; decide)]
  rfl

/-- The answers that the stores give: a scan finds no reference twice. -/
def possible : PaymentCallRecord → Prop
  | ⟨.findExpiredPending _, .ok payments⟩ => (List.map Payment.reference payments).Nodup
  | _ => True

/-- The contract of a call: its transactions are issued ones. -/
def contract (call : PaymentCall) : Contract (Raising PaymentError PaymentOp.Ret) where
  allowed log op :=
    match op with
    | .atomic body => Issued call log body
    | _ => True
  possible := possible

/-- A call ends with every lock given up. -/
def LocksReleased (log : PaymentLog) : Prop := ∀ key, lockHeld key log = false

/-- What a part of a call keeps that takes no lock and saves no payment. -/
structure Neutral (log log' : PaymentLog) : Prop where
  locks : ∀ key, lockHeld key log' = lockHeld key log
  payments : ∀ reference, held reference log' = held reference log

theorem Neutral.refl (log : PaymentLog) : Neutral log log := ⟨fun _ => rfl, fun _ => rfl⟩

theorem Neutral.trans {log log' log'' : PaymentLog} (h : Neutral log log')
    (h' : Neutral log' log'') : Neutral log log'' :=
  ⟨fun key => (h'.locks key).trans (h.locks key),
    fun reference => (h'.payments reference).trans (h.payments reference)⟩

/-- A performed call that takes no lock, shows no payment and saves none. -/
theorem Neutral.cons {log : PaymentLog} {record : PaymentCallRecord}
    (hlock : lockEffect record = none) (hreads : reads record = [])
    (hsaves : savedPayments (committed record) = []) : Neutral log (record :: log) := by
  constructor
  · intro key
    simp only [lockHeld, hlock]
  · intro reference
    simp [held, hsaves, hreads]

/-- A call that shows one payment holds it. -/
theorem held_cons_self {log : PaymentLog} {record : PaymentCallRecord} {payment : Payment}
    (hreads : reads record = [payment]) (hsaves : savedPayments (committed record) = []) :
    held payment.reference (record :: log) = some payment := by
  simp [held, hreads, hsaves]

/-- A committed transaction keeps what is held of the payments that it does not save. -/
theorem held_atomic_of_not_mem {log : PaymentLog} {reference : String} {body : List TxWrite}
    (h : reference ∉ (savedPayments body).map Payment.reference) :
    held reference (⟨.atomic body, .ok ()⟩ :: log) = held reference log := by
  change (if reference ∈ (savedPayments body).map Payment.reference then none
    else held reference log) = held reference log
  exact if_neg h

/-- A committed transaction gives up what was held of the payments that it saves. -/
theorem held_atomic_of_mem {log : PaymentLog} {reference : String} {body : List TxWrite}
    (h : reference ∈ (savedPayments body).map Payment.reference) :
    held reference (⟨.atomic body, .ok ()⟩ :: log) = none := by
  change (if reference ∈ (savedPayments body).map Payment.reference then none
    else held reference log) = none
  exact if_pos h

/-- A payment that is held after a call has just been shown or was held before. -/
theorem held_cons_eq_some {log : PaymentLog} {record : PaymentCallRecord} {reference : String}
    {payment : Payment} (h : held reference (record :: log) = some payment) :
    reference ∉ (savedPayments (committed record)).map Payment.reference ∧
      (payment ∈ reads record ∧ payment.reference = reference ∨
        held reference log = some payment) := by
  unfold held at h
  split at h
  · cases h
  · next hsaved =>
    refine ⟨hsaved, ?_⟩
    rw [Option.or_eq_some_iff] at h
    rcases h with h | ⟨_, h⟩
    · exact Or.inl ⟨List.mem_of_find?_eq_some h, by simpa using List.find?_some h⟩
    · exact Or.inr h

/-- Only a transaction commits statements. -/
theorem committed_of_not_atomic {op : PaymentOp} {answer : Except PaymentError op.Ret}
    (h : ∀ body, op ≠ .atomic body) : committed ⟨op, answer⟩ = [] := by
  cases op with
  | atomic body => exact absurd rfl (h body)
  | _ => rfl

variable {call : PaymentCall} {log : PaymentLog}

/-- The rule of `atomicBlock`, for a callback that keeps what a part of a call keeps. -/
theorem atomicBlock_follows {body : List TxWrite} {onCommit : Handler Unit}
    (hbody : Issued call log body)
    (hcommit : onCommit.Follows (contract call) (⟨.atomic body, .ok ()⟩ :: log)
      fun log' _ => Neutral (⟨.atomic body, .ok ()⟩ :: log) log') :
    (atomicBlock body onCommit).Follows (contract call) log fun log' outcome =>
      (∃ error, outcome = .error error ∧ log' = ⟨.atomic body, .error error⟩ :: log) ∨
        Neutral (⟨.atomic body, .ok ()⟩ :: log) log' := by
  unfold atomicBlock ask
  refine Follows.perform_bind hbody (fun _ _ => ?_) fun error => Or.inl ⟨error, rfl, rfl⟩
  exact hcommit.mono fun _ _ h => Or.inr h

/-- A swallowed callback keeps what the callback keeps. -/
theorem swallow_follows {callback : Handler Unit}
    (h : callback.Follows (contract call) log fun log' _ => Neutral log log') :
    (swallow callback).Follows (contract call) log fun log' _ => Neutral log log' := by
  unfold swallow
  exact Follows.attempt h (fun _ _ h => h) fun _ _ h => h

/-- A single call that takes no lock, shows no payment and saves none. -/
theorem ask_follows {op : PaymentOp} (hop : (contract call).allowed log op)
    (hneutral : ∀ answer, Neutral log (⟨op, answer⟩ :: log)) :
    (ask op).Follows (contract call) log fun log' _ => Neutral log log' := by
  rw [ask, follows_perform_iff]
  exact ⟨hop, fun answer _ => hneutral answer⟩

/-- A committed transaction that saves no payment is neutral. -/
theorem Neutral.atomic {body : List TxWrite} {answer : Except PaymentError Unit}
    (hbody : savedPayments body = []) : Neutral log (⟨.atomic body, answer⟩ :: log) := by
  cases answer with
  | ok _ => exact Neutral.cons rfl rfl hbody
  | error error => exact Neutral.cons rfl rfl rfl

/-- A block that saves no payment is neutral as a whole. -/
theorem atomicBlock_neutral {body : List TxWrite} {onCommit : Handler Unit}
    (hbody : Issued call log body) (hsaves : savedPayments body = [])
    (hcommit : onCommit.Follows (contract call) (⟨.atomic body, .ok ()⟩ :: log)
      fun log' _ => Neutral (⟨.atomic body, .ok ()⟩ :: log) log') :
    (atomicBlock body onCommit).Follows (contract call) log fun log' _ => Neutral log log' := by
  refine (atomicBlock_follows hbody hcommit).mono fun log' outcome h => ?_
  rcases h with ⟨error, _, rfl⟩ | h
  · exact Neutral.atomic hsaves
  · exact (Neutral.atomic hsaves).trans h

/-- Publishing an event after a commit is neutral. -/
theorem djangoDispatch_follows (event : DomainEvent) :
    (djangoDispatch event).Follows (contract call) log fun log' _ => Neutral log log' := by
  unfold djangoDispatch
  refine Follows.attempt (atomicBlock_neutral Issued.outbox rfl ?_) (fun _ _ h => h) ?_
  · exact swallow_follows (ask_follows trivial fun _ => Neutral.cons rfl rfl rfl)
  · intro log' error hneutral
    cases error with
    | integrityError message =>
      refine Follows.perform_bind trivial (fun stored _ => ?_) fun error => ?_
      · have hstored : Neutral log (⟨.outboxExists event.eventId, .ok stored⟩ :: log') :=
          hneutral.trans (Neutral.cons rfl rfl rfl)
        cases stored with
        | true => exact hstored
        | false => exact hstored
      · exact hneutral.trans (Neutral.cons rfl rfl rfl)
    | _ => exact hneutral

/-- Scheduling a retry is neutral. -/
theorem scheduleWebhookRetry_follows (providerRef : JsonValue) (delaySeconds : ℕ) :
    (scheduleWebhookRetry providerRef delaySeconds).Follows (contract call) log
      fun log' _ => Neutral log log' := by
  unfold scheduleWebhookRetry
  refine Follows.perform_bind trivial (fun (attempt : ℕ) _ => ?_) fun error =>
    Neutral.cons rfl rfl rfl
  have hattempt : Neutral log (⟨.incrRetry (retryKey providerRef), .ok attempt⟩ :: log) :=
    Neutral.cons rfl rfl rfl
  have hexpire : (expireOnFirst providerRef attempt).Follows (contract call)
      (⟨.incrRetry (retryKey providerRef), .ok attempt⟩ :: log) fun log' _ => Neutral log log' := by
    unfold expireOnFirst
    refine Follows.ite (fun _ => ?_) fun _ => hattempt
    exact Follows.mono (ask_follows trivial fun _ => Neutral.cons rfl rfl rfl)
      fun _ _ h => hattempt.trans h
  refine Follows.bind hexpire (fun log' _ h => Follows.ite (fun _ => h) fun _ => ?_) fun _ _ h => h
  exact Follows.mono (ask_follows trivial fun _ => Neutral.cons rfl rfl rfl)
    fun _ _ h' => h.trans h'

/-- Storing an event for a retry is neutral. -/
theorem saveForRetry_follows {cmd : ProcessWebhookCommand} {status : String}
    (origin : WebhookOrigin call log cmd) (hstatus : status ∈ loneStatuses)
    (providerRef : JsonValue) :
    (saveForRetry cmd providerRef status).Follows (contract call) log
      fun log' _ => Neutral log log' := by
  unfold saveForRetry
  exact atomicBlock_neutral (Issued.lone origin hstatus) rfl
    (swallow_follows (scheduleWebhookRetry_follows providerRef 30))

/-- The origin of a command is kept when the log grows. -/
theorem WebhookOrigin.cons {cmd : ProcessWebhookCommand} {record : PaymentCallRecord}
    (origin : WebhookOrigin call log cmd) : WebhookOrigin call (record :: log) cmd := by
  cases call with
  | processWebhook cmd' => exact ⟨origin.1, List.mem_cons_of_mem _ origin.2⟩
  | processWebhookRetry providerRef retries =>
    obtain ⟨candidates, hmem, hrow⟩ := origin
    exact ⟨candidates, List.mem_cons_of_mem _ hmem, hrow⟩
  | _ => exact origin

/-- What the log shows of a found payment is kept when the log grows. -/
theorem FoundVerified.cons {providerRef : JsonValue} {verification : VerifiedTransaction}
    {payment : Payment} {record : PaymentCallRecord}
    (h : FoundVerified providerRef verification payment log) :
    FoundVerified providerRef verification payment (record :: log) := by
  obtain ⟨newer, older, rfl, hverified⟩ := h
  exact ⟨record :: newer, older, rfl, hverified⟩

/-- A found payment has been found by the newest call or before it. -/
theorem FoundVerified.of_cons {providerRef : JsonValue} {verification : VerifiedTransaction}
    {payment : Payment} {record : PaymentCallRecord}
    (h : FoundVerified providerRef verification payment (record :: log)) :
    (record = ⟨.findByProviderReference providerRef, .ok (some payment)⟩ ∧
        ⟨.verifyTransaction providerRef, .ok (some verification)⟩ ∈ log) ∨
      FoundVerified providerRef verification payment log := by
  obtain ⟨newer, older, heq, hverified⟩ := h
  cases newer with
  | nil =>
    obtain ⟨rfl, rfl⟩ := List.cons.inj heq
    exact Or.inl ⟨rfl, hverified⟩
  | cons _ newer =>
    obtain ⟨rfl, rfl⟩ := List.cons.inj heq
    exact Or.inr ⟨newer, older, rfl, hverified⟩

/-- The transaction of a found payment has been verified. -/
theorem FoundVerified.verified {providerRef : JsonValue} {verification : VerifiedTransaction}
    {payment : Payment} (h : FoundVerified providerRef verification payment log) :
    ⟨.verifyTransaction providerRef, .ok (some verification)⟩ ∈ log := by
  obtain ⟨newer, older, rfl, hverified⟩ := h
  exact List.mem_append_right _ (List.mem_cons_of_mem _ hverified)

/-- What a part of a call keeps that may save a payment. -/
def SameLocks (log log' : PaymentLog) : Prop := ∀ key, lockHeld key log' = lockHeld key log

theorem Neutral.sameLocks {log' : PaymentLog} (h : Neutral log log') : SameLocks log log' := h.locks

/-- A block with a neutral callback keeps the locks. -/
theorem atomicBlock_sameLocks {body : List TxWrite} {onCommit : Handler Unit}
    (hbody : Issued call log body)
    (hcommit : onCommit.Follows (contract call) (⟨.atomic body, .ok ()⟩ :: log)
      fun log' _ => Neutral (⟨.atomic body, .ok ()⟩ :: log) log') :
    (atomicBlock body onCommit).Follows (contract call) log fun log' _ => SameLocks log log' := by
  refine (atomicBlock_follows hbody hcommit).mono fun log' outcome h key => ?_
  rcases h with ⟨error, _, rfl⟩ | h
  · rfl
  · exact h.locks key

/-- Stage 6 issues one of its three transactions. -/
theorem applyConfirmation_follows {cmd : ProcessWebhookCommand} {providerRef : JsonValue}
    {verification : VerifiedTransaction} {payment : Payment} (origin : WebhookOrigin call log cmd)
    (found : FoundVerified providerRef verification payment log)
    (held_eq : held payment.reference log = some payment) :
    (applyConfirmation djangoPaymentEventOutboxDispatcher cmd providerRef verification
      payment).Follows (contract call) log fun log' _ => SameLocks log log' := by
  unfold applyConfirmation
  refine Follows.perform_bind trivial (fun (auditId : UUID) _ => ?_) fun _ _ => rfl
  refine Follows.perform_bind trivial (fun (eventId : UUID) _ => ?_) fun _ _ => rfl
  have hdispatch (body : List TxWrite) (event : DomainEvent) :
      (swallow (djangoDispatch event)).Follows (contract call)
        (⟨.atomic body, .ok ()⟩ :: ⟨.uuid4, .ok eventId⟩ :: ⟨.uuid4, .ok auditId⟩ :: log)
        fun log' _ => Neutral (⟨.atomic body, .ok ()⟩ :: ⟨.uuid4, .ok eventId⟩ ::
          ⟨.uuid4, .ok auditId⟩ :: log) log' :=
    swallow_follows (djangoDispatch_follows event)
  split
  · exact atomicBlock_sameLocks (Issued.fraud origin.cons.cons) (hdispatch _ _)
  · split
    · next hallowed =>
      have hneutral : Neutral log (⟨.uuid4, .ok eventId⟩ :: ⟨.uuid4, .ok auditId⟩ :: log) :=
        (Neutral.cons rfl rfl rfl).trans (Neutral.cons rfl rfl rfl)
      exact atomicBlock_sameLocks
        (Issued.success origin.cons.cons found.cons.cons ((hneutral.payments _).trans held_eq)
          (PaymentPolicy.confirm_allowed_iff.mp hallowed))
        (hdispatch _ _)
    · exact atomicBlock_sameLocks (Issued.reject origin.cons.cons) (Neutral.refl _)

/-- Stage 5 reads the payment that stage 6 works on. -/
theorem settle_follows {cmd : ProcessWebhookCommand} {providerRef : JsonValue}
    {verification : VerifiedTransaction} (origin : WebhookOrigin call log cmd)
    (verified : ⟨.verifyTransaction providerRef, .ok (some verification)⟩ ∈ log) :
    (settle djangoPaymentEventOutboxDispatcher cmd providerRef verification).Follows
      (contract call) log fun log' _ => SameLocks log log' := by
  unfold settle
  refine Follows.perform_bind trivial (fun found _ => ?_) fun _ _ => rfl
  cases found with
  | none =>
    refine Follows.perform_bind trivial (fun (auditId : UUID) _ => ?_) fun _ _ => rfl
    exact atomicBlock_sameLocks (Issued.unknown origin.cons.cons) (Neutral.refl _)
  | some payment =>
    exact applyConfirmation_follows origin.cons ⟨[], log, rfl, verified⟩ (held_cons_self rfl rfl)

/-- Stages 4 to 6 keep the locks. -/
theorem verifyAndSettle_follows {cmd : ProcessWebhookCommand}
    (origin : WebhookOrigin call log cmd) (providerRef : JsonValue) :
    (verifyAndSettle djangoPaymentEventOutboxDispatcher cmd providerRef).Follows (contract call)
      log fun log' _ => SameLocks log log' := by
  unfold verifyAndSettle
  have hverify : (attempt (ask (.verifyTransaction providerRef)) fun _ => pure none).Follows
      (contract call) log fun log' outcome => ∃ verification answer,
        outcome = .ok verification ∧ log' = ⟨.verifyTransaction providerRef, answer⟩ :: log ∧
        ∀ value, verification = some value → answer = .ok (some value) := by
    have hask : (ask (.verifyTransaction providerRef)).Follows (contract call) log
        fun log' outcome => log' = ⟨.verifyTransaction providerRef, outcome⟩ :: log := by
      rw [ask, follows_perform_iff]
      exact ⟨trivial, fun _ _ => rfl⟩
    refine Follows.attempt hask ?_ ?_
    · rintro _ verification rfl
      exact ⟨verification, .ok verification, rfl, rfl, fun value hvalue => by rw [hvalue]⟩
    · rintro _ error rfl
      exact ⟨none, .error error, rfl, rfl, fun value hvalue => by cases hvalue⟩
  refine Follows.bind hverify ?_ ?_
  · rintro _ verification ⟨_, answer, hok, rfl, hanswer⟩
    cases hok
    cases verification with
    | none =>
      refine Follows.mono (saveForRetry_follows origin.cons ?_ providerRef) fun _ _ h => h.locks
      decide
    | some verification =>
      refine settle_follows origin.cons ?_
      rw [hanswer verification rfl]
      exact List.mem_cons_self
  · rintro _ error ⟨_, _, hok, _⟩
    cases hok

/-- Stage 3 gives up the lock that it takes. -/
theorem processReferenced_follows {cmd : ProcessWebhookCommand}
    (origin : WebhookOrigin call log cmd) (hlocks : LocksReleased log) (providerRef : JsonValue) :
    (processReferenced djangoPaymentEventOutboxDispatcher cmd providerRef).Follows (contract call)
      log fun log' _ => LocksReleased log' := by
  unfold processReferenced
  refine Follows.perform_bind trivial (fun (acquired : Bool) _ => ?_) fun _ => hlocks
  cases acquired with
  | false =>
    refine Follows.mono (saveForRetry_follows origin.cons ?_ providerRef) fun log' _ h key => ?_
    · decide
    · exact (h.locks key).trans (hlocks key)
  | true =>
    refine Follows.withFinally (verifyAndSettle_follows origin.cons providerRef) ?_
    intro log' outcome hsame
    have hreleased (answer : Except PaymentError Unit) :
        LocksReleased (⟨.releaseLock (lockKey providerRef), answer⟩ :: log') := by
      intro key
      by_cases hkey : lockKey providerRef = key
      · simp [lockHeld, lockEffect, hkey]
      · have hlog' := hsame key
        simp only [lockHeld, lockEffect, if_neg hkey] at hlog' ⊢
        exact hlog'.trans (hlocks key)
    exact follows_perform_iff.mpr
      ⟨trivial, fun answer _ => ⟨hreleased answer, fun _ _ => hreleased answer⟩⟩

/-- `_process_webhook` after the idempotency check. -/
theorem processNewEvent_follows {cmd : ProcessWebhookCommand}
    (origin : WebhookOrigin call log cmd) (hlocks : LocksReleased log) :
    (processNewEvent djangoPaymentEventOutboxDispatcher cmd).Follows (contract call) log
      fun log' _ => LocksReleased log' := by
  unfold processNewEvent
  cases extractProviderReference cmd.payload with
  | error error => exact hlocks
  | ok providerRef =>
    refine Follows.ite (fun _ => processReferenced_follows origin hlocks providerRef) fun _ => ?_
    refine Follows.mono (atomicBlock_sameLocks (Issued.lone origin ?_) (Neutral.refl _))
      fun log' _ h key => (h key).trans (hlocks key)
    decide

/-- `process_webhook`. -/
theorem processWebhook_follows (cmd : ProcessWebhookCommand) :
    (processWebhook djangoPaymentEventOutboxDispatcher cmd).Follows
      (contract (.processWebhook cmd)) [] fun log _ => LocksReleased log := by
  unfold processWebhook processWebhookCore alreadyProcessed
  refine Follows.perform_bind trivial (fun (processed : Bool) _ => ?_) fun _ _ => rfl
  cases processed with
  | true => exact fun _ => rfl
  | false => exact processNewEvent_follows ⟨rfl, List.mem_cons_self⟩ fun _ => rfl

/-- The expiry loop saves every scanned payment at most once. -/
theorem expireEach_follows {cmd : ExpireStalePaymentsCommand}
    (hcall : call = .expireStalePayments cmd) {payments : List Payment} {count : ℕ}
    (hheld : ∀ payment ∈ payments, held payment.reference log = some payment)
    (hnodup : (payments.map Payment.reference).Nodup) :
    (expireEach djangoPaymentEventOutboxDispatcher cmd payments count).Follows (contract call) log
      fun log' _ => SameLocks log log' := by
  induction payments generalizing log count with
  | nil => exact fun _ => rfl
  | cons payment payments ih =>
    rw [List.map_cons, List.nodup_cons] at hnodup
    refine Follows.ite (fun hallowed => ?_) fun _ =>
      ih (fun payment hmem => hheld payment (List.mem_cons_of_mem _ hmem)) hnodup.2
    have hexpirable := PaymentPolicy.expire_allowed_iff.mp hallowed
    refine Follows.perform_bind trivial (fun (auditId : UUID) _ => ?_) fun _ _ => rfl
    refine Follows.perform_bind trivial (fun (eventId : UUID) _ => ?_) fun _ _ => rfl
    have hneutral : Neutral log (⟨.uuid4, .ok eventId⟩ :: ⟨.uuid4, .ok auditId⟩ :: log) :=
      (Neutral.cons rfl rfl rfl).trans (Neutral.cons rfl rfl rfl)
    refine Follows.bind (atomicBlock_follows (Issued.expire hcall
      ((hneutral.payments _).trans (hheld _ List.mem_cons_self)) hexpirable)
      (swallow_follows (djangoDispatch_follows _))) ?_ ?_
    · intro log' _ hblock
      rcases hblock with ⟨_, herror, _⟩ | hblock
      · cases herror
      · refine Follows.mono (ih (fun other hmem => ?_) hnodup.2) fun _ _ h key =>
          (h key).trans (hblock.locks key)
        have hne : other.reference ≠ payment.reference := fun heq =>
          hnodup.1 (heq ▸ List.mem_map_of_mem hmem)
        have hsaved : other.reference ∉
            (savedPayments (expireBody payment auditId [])).map Payment.reference := by
          rw [savedPayments_expireBody hexpirable.1]
          simpa using hne
        rw [hblock.payments]
        exact (held_atomic_of_not_mem hsaved).trans
          ((hneutral.payments _).trans (hheld other (List.mem_cons_of_mem _ hmem)))
    · intro log' _ hblock key
      rcases hblock with ⟨_, _, rfl⟩ | hblock
      · rfl
      · exact hblock.locks key

/-- What a call holds of the payments that a scan shows. -/
theorem held_cons_scan {now : Datetime} {payments : List Payment}
    (hnodup : (payments.map Payment.reference).Nodup) {payment : Payment}
    (hmem : payment ∈ payments) :
    held payment.reference (⟨.findExpiredPending now, .ok payments⟩ :: log) = some payment := by
  have hfind : payments.find? (fun other => other.reference = payment.reference) = some payment := by
    induction payments with
    | nil => cases hmem
    | cons first payments ih =>
      rw [List.map_cons, List.nodup_cons] at hnodup
      by_cases hfirst : first.reference = payment.reference
      · rw [List.find?_cons_of_pos (by simpa using hfirst)]
        rcases List.mem_cons.mp hmem with rfl | hmem
        · rfl
        · exact absurd (hfirst ▸ List.mem_map_of_mem hmem) hnodup.1
      · rw [List.find?_cons_of_neg (by simpa using hfirst)]
        rcases List.mem_cons.mp hmem with rfl | hmem
        · exact absurd rfl hfirst
        · exact ih hnodup.2 hmem
  change (payments.find? fun other => other.reference = payment.reference).or
    (held payment.reference log) = some payment
  rw [hfind]
  rfl

/-- `expire_stale_payments`. -/
theorem expireStalePayments_follows (cmd : ExpireStalePaymentsCommand) :
    (expireStalePayments djangoPaymentEventOutboxDispatcher cmd).Follows
      (contract (.expireStalePayments cmd)) [] fun log _ => LocksReleased log := by
  unfold expireStalePayments
  refine Follows.perform_bind trivial (fun (payments : List Payment) hpossible => ?_) fun _ _ => rfl
  have hnodup : (payments.map Payment.reference).Nodup := hpossible
  exact Follows.mono (expireEach_follows rfl (fun _ hmem => held_cons_scan hnodup hmem) hnodup)
    fun _ _ h key => h key

/-- `request_refund`. -/
theorem requestRefund_follows (cmd : RequestRefundCommand) :
    (requestRefund cmd).Follows (contract (.requestRefund cmd)) []
      fun log _ => LocksReleased log := by
  have hnow : (nowOr cmd.now).Follows (contract (.requestRefund cmd)) []
      fun log _ => LocksReleased log := by
    unfold nowOr
    cases cmd.now with
    | some now => exact fun _ => rfl
    | none => exact follows_perform_iff.mpr ⟨trivial, fun _ _ _ => rfl⟩
  unfold requestRefund
  refine Follows.bind hnow (fun log now hlocks => ?_) fun _ _ h => h
  refine Follows.perform_bind trivial (fun (found : Option Payment) _ => ?_) fun _ => hlocks
  cases found with
  | none => exact hlocks
  | some payment =>
    refine Follows.ite (fun _ => hlocks) fun hsuccess => Follows.ite (fun _ => hlocks) fun _ => ?_
    refine Follows.perform_bind trivial (fun (auditId : UUID) _ => ?_) fun _ => hlocks
    have hheld : held payment.reference (⟨.uuid4, .ok auditId⟩ ::
        ⟨.findByReference cmd.paymentReference, .ok (some payment)⟩ :: log) = some payment :=
      ((Neutral.cons rfl rfl rfl).payments _).trans (held_cons_self rfl rfl)
    exact Follows.mono (atomicBlock_sameLocks
      (Issued.refund rfl hheld (not_not.mp hsuccess)) (Neutral.refl _))
      fun _ _ h key => (h key).trans (hlocks key)

/-- Steps 5 to 7 of `initiate_payment`. -/
theorem linkAndPersist_follows {cmd : InitiatePaymentCommand}
    (hcall : call = .initiatePayment cmd) {payment : Payment}
    (henvironment : payment.environment = cmd.environment) :
    (linkAndPersist cmd payment).Follows (contract call) log fun log' _ => SameLocks log log' := by
  unfold linkAndPersist
  refine Follows.perform_bind trivial (fun (now : Datetime) _ => ?_) fun _ _ => rfl
  refine Follows.ite (fun _ _ => rfl) fun _ => ?_
  have hlink : (attempt (ask .createPaymentLink) fun error =>
      throw (.providerGateway ("Failed to create payment link: " ++ error.message))).Follows
      (contract call) (⟨.utcNow, .ok now⟩ :: log) fun log' _ => SameLocks log log' := by
    refine Follows.attempt (ask_follows trivial fun _ => Neutral.cons rfl rfl rfl)
      (fun _ _ h => h.locks) fun _ _ h => h.locks
  refine Follows.bind hlink (fun log' link hlocks => ?_) fun _ _ h => h
  obtain ⟨paymentLink, providerRef⟩ := link
  cases hpending : Payment.transitionTo
      { payment with providerReference := some providerRef } .pending with
  | error error =>
    simp only [hpending]
    exact hlocks
  | ok pendingPayment =>
    obtain ⟨_, rfl⟩ := Payment.transitionTo_eq_ok_iff.mp hpending
    simp only [hpending]
    refine Follows.perform_bind trivial (fun (auditId : UUID) _ => ?_) fun _ => hlocks
    refine Follows.bind (atomicBlock_sameLocks (Issued.initiate hcall ?_ ?_) (Neutral.refl _))
      (fun _ _ h key => (h key).trans (hlocks key)) fun _ _ h key => (h key).trans (hlocks key)
    · rfl
    · exact henvironment

/-- `initiate_payment`. -/
theorem initiatePayment_follows (cmd : InitiatePaymentCommand) :
    (initiatePayment cmd).Follows (contract (.initiatePayment cmd)) []
      fun log _ => LocksReleased log := by
  unfold initiatePayment
  refine Follows.perform_bind trivial (fun (existing : Option Payment) _ => ?_) fun _ _ => rfl
  cases existing with
  | some existing => exact fun _ => rfl
  | none =>
    refine Follows.perform_bind trivial (fun (now : Datetime) _ => ?_) fun _ _ => rfl
    refine Follows.perform_bind trivial (fun (velocity : VelocityContext) _ => ?_) fun _ _ => rfl
    refine Follows.ite (fun _ => ?_) fun _ => Follows.ite (fun _ _ => rfl) fun _ => ?_
    · refine Follows.perform_bind trivial (fun (auditId : UUID) _ => ?_) fun _ _ => rfl
      exact Follows.perform_bind Issued.velocityBlock (fun _ _ _ => rfl) fun _ _ => rfl
    · refine Follows.perform_bind trivial (fun (duplicate : Bool) _ => ?_) fun _ _ => rfl
      refine Follows.ite (fun _ _ => rfl) fun _ => ?_
      refine Follows.perform_bind trivial (fun (id : UUID) _ => ?_) fun _ _ => rfl
      refine Follows.perform_bind trivial (fun (referenceId : UUID) _ => ?_) fun _ _ => rfl
      refine Follows.perform_bind trivial (fun (createdAt : Datetime) _ => ?_) fun _ _ => rfl
      cases hcreate : Payment.create cmd id (generateReference referenceId) createdAt with
      | error error => exact fun _ => rfl
      | ok payment =>
        have henvironment : payment.environment = cmd.environment := by
          unfold Payment.create at hcreate
          cases hmetadata : Metadata.validate cmd.metadata with
          | error error =>
            rw [hmetadata] at hcreate
            cases hcreate
          | ok metadata =>
            rw [hmetadata] at hcreate
            cases hcreate
            rfl
        exact Follows.mono (linkAndPersist_follows rfl henvironment) fun _ _ h key => h key

/-- Looking for the event of a reference is neutral, and an event that it finds
is one of the candidates. -/
theorem loadRetryEvent_follows (providerRef : JsonValue) {rows : List WebhookEventRow} :
    (loadRetryEvent providerRef rows).Follows (contract call) log fun log' outcome =>
      (∃ calls, log' = calls ++ log ∧ Neutral log log') ∧
        ∀ row payload, outcome = .ok (some (row, payload)) → row ∈ rows := by
  induction rows generalizing log with
  | nil => exact ⟨⟨[], rfl, Neutral.refl _⟩, fun _ _ h => by cases h⟩
  | cons row rows ih =>
    have hdecrypt : (decryptOrSkip row).Follows (contract call) log fun log' _ =>
        ∃ calls, log' = calls ++ log ∧ Neutral log log' := by
      have hinner : Follows (contract call) log
          (ask (.decryptRetryPayload row) >>= fun payload => pure (some payload))
          fun log' _ => ∃ calls, log' = calls ++ log ∧ Neutral log log' := by
        refine Follows.perform_bind trivial (fun payload _ => ?_) fun error => ?_
        · exact ⟨[⟨.decryptRetryPayload row, .ok payload⟩], rfl, Neutral.cons rfl rfl rfl⟩
        · exact ⟨[⟨.decryptRetryPayload row, .error error⟩], rfl, Neutral.cons rfl rfl rfl⟩
      exact Follows.attempt hinner (fun _ _ h => h) fun _ _ h => h
    refine Follows.bind hdecrypt ?_ fun _ _ h => ⟨h, fun _ _ h => by cases h⟩
    rintro _ payload ⟨calls, rfl, hneutral⟩
    have hrest : (loadRetryEvent providerRef rows).Follows (contract call) (calls ++ log)
        fun log' outcome => (∃ calls, log' = calls ++ log ∧ Neutral log log') ∧
          ∀ row' payload, outcome = .ok (some (row', payload)) → row' ∈ row :: rows := by
      refine Follows.mono ih fun log' outcome h => ?_
      obtain ⟨⟨calls', rfl, hneutral'⟩, hmem⟩ := h
      exact ⟨⟨calls' ++ calls, (List.append_assoc _ _ _).symm, hneutral.trans hneutral'⟩,
        fun row' payload' h => List.mem_cons_of_mem _ (hmem row' payload' h)⟩
    cases payload with
    | none => exact hrest
    | some payload =>
      cases hextract : extractProviderReference payload with
      | error error =>
        simp only [hextract]
        exact ⟨⟨calls, rfl, hneutral⟩, fun _ _ h => by cases h⟩
      | ok txRef =>
        simp only [hextract]
        refine Follows.ite (fun _ => ?_) fun _ => hrest
        refine ⟨⟨calls, rfl, hneutral⟩, fun row' payload' h => ?_⟩
        cases h
        exact List.mem_cons_self

/-- The task gives up the lock that its handler call takes. -/
theorem retryFound_follows {providerRef : JsonValue} {retries : ℕ} {event : WebhookEventRow}
    {payload : WebhookPayload} {candidates : List WebhookEventRow} (hlocks : LocksReleased log)
    (hcall : call = .processWebhookRetry providerRef retries)
    (hcandidates : ⟨.retryCandidates, .ok candidates⟩ ∈ log) (hevent : event ∈ candidates) :
    (retryFound djangoPaymentEventOutboxDispatcher providerRef retries event payload).Follows
      (contract call) log fun log' _ => LocksReleased log' := by
  unfold retryFound
  refine Follows.ite (fun _ => ?_) fun _ => Follows.ite (fun _ => hlocks) fun hretryable => ?_
  · exact Follows.perform_bind trivial (fun _ _ => hlocks) fun _ => hlocks
  · refine Follows.perform_bind trivial (fun (now : Datetime) _ => ?_) fun _ => hlocks
    have horigin : WebhookOrigin call (⟨.utcNow, .ok now⟩ :: log)
        { eventId := event.eventId, payload, now } := by
      subst hcall
      exact ⟨candidates, List.mem_cons_of_mem _ hcandidates, event, hevent, rfl,
        not_not.mp hretryable⟩
    have hprocess : (reprocess djangoPaymentEventOutboxDispatcher
        { eventId := event.eventId, payload, now }).Follows (contract call)
        (⟨.utcNow, .ok now⟩ :: log) fun log' _ => LocksReleased log' := by
      have hcore : (processWebhookCore djangoPaymentEventOutboxDispatcher
          { eventId := event.eventId, payload, now } true).Follows (contract call)
          (⟨.utcNow, .ok now⟩ :: log) fun log' _ => LocksReleased log' :=
        processNewEvent_follows horigin hlocks
      have hinner : Follows (contract call) (⟨.utcNow, .ok now⟩ :: log)
          (processWebhookCore djangoPaymentEventOutboxDispatcher
            { eventId := event.eventId, payload, now } true >>= fun _ =>
              (pure none : Handler (Option PaymentError)))
          fun log' _ => LocksReleased log' :=
        Follows.bind hcore (fun _ _ h => h) fun _ _ h => h
      exact Follows.attempt hinner (fun _ _ h => h) fun _ _ h => h
    refine Follows.bind hprocess (fun log' outcome hlocks' => ?_) fun _ _ h => h
    cases outcome with
    | none =>
      refine Follows.perform_bind trivial (fun (status : Option String) _ => ?_) fun _ => hlocks'
      have hreset : (resetIfTerminal providerRef (status.getD event.status)).Follows
          (contract call) (⟨.eventStatus event.eventId, .ok status⟩ :: log')
          fun log' _ => LocksReleased log' :=
        Follows.ite (fun _ => follows_perform_iff.mpr ⟨trivial, fun _ _ => hlocks'⟩)
          fun _ => hlocks'
      exact Follows.bind hreset (fun _ _ h => h) fun _ _ h => h
    | some error =>
      exact Follows.ite
        (fun _ => Follows.perform_bind trivial (fun _ _ => hlocks') fun _ => hlocks')
        fun _ => Follows.perform_bind trivial (fun _ _ => hlocks') fun _ => hlocks'

/-- `process_webhook_retry`. -/
theorem processWebhookRetry_follows (providerRef : JsonValue) (retries : ℕ) :
    (processWebhookRetry djangoPaymentEventOutboxDispatcher providerRef retries).Follows
      (contract (.processWebhookRetry providerRef retries)) []
      fun log _ => LocksReleased log := by
  unfold processWebhookRetry
  refine Follows.perform_bind trivial (fun (candidates : List WebhookEventRow) _ => ?_)
    fun _ _ => rfl
  refine Follows.bind (loadRetryEvent_follows providerRef) ?_ fun _ _ h key => h.1.choose_spec.2.locks key
  rintro _ found ⟨⟨calls, rfl, hneutral⟩, hmem⟩
  have hlocks : LocksReleased (calls ++ [⟨.retryCandidates, .ok candidates⟩]) :=
    fun key => hneutral.locks key
  cases found with
  | none => exact Follows.perform_bind trivial (fun _ _ => hlocks) fun _ => hlocks
  | some found =>
    obtain ⟨event, payload⟩ := found
    exact retryFound_follows hlocks rfl (List.mem_append_right _ List.mem_cons_self)
      (hmem event payload rfl)

/-- Every call of the component follows its contract and ends with its locks given up. -/
theorem followsContract (call : PaymentCall) :
    (call.handler djangoPaymentEventOutboxDispatcher).Follows (contract call) []
      fun log _ => LocksReleased log := by
  cases call with
  | initiatePayment cmd =>
    exact Follows.bind (initiatePayment_follows cmd) (fun _ _ h => h) fun _ _ h => h
  | processWebhook cmd => exact processWebhook_follows cmd
  | processWebhookRetry providerRef retries =>
    exact Follows.bind (processWebhookRetry_follows providerRef retries) (fun _ _ h => h)
      fun _ _ h => h
  | expireStalePayments cmd =>
    exact Follows.bind (expireStalePayments_follows cmd) (fun _ _ h => h) fun _ _ h => h
  | requestRefund cmd => exact requestRefund_follows cmd

end Linkapro.Payments
