import Linkapro.Payments.Statuses

/-!
# Payments: what an initiation issues

An initiation performs its calls in one order. Its log therefore shows what it has
checked before it asks the provider for a link, and which payment it saves. What a
turn does to the payments follows for every call of the component: it keeps them, it
moves the status of a payment that the call has read, or it saves an initiated one.
-/

namespace Linkapro.Payments

open Lib Lib.Action

variable {deployment : Deployment} {choice : Choice}

/-- What an initiation has read when its checks have passed. -/
structure Checks (cmd : InitiatePaymentCommand) where
  now : Datetime
  velocity : VelocityContext
  duplicate : Bool
  id : UUID
  referenceId : UUID
  createdAt : Datetime
  metadata : Metadata
  allowed : (VelocityPolicy.apply velocity).allowed = true
  metadata_eq : Metadata.validate cmd.metadata = .ok metadata

namespace Checks

variable {cmd : InitiatePaymentCommand}

/-- The calls of the checks, newest first. -/
def log (checks : Checks cmd) : PaymentLog :=
  [⟨.utcNow, .ok checks.createdAt⟩, ⟨.uuid4, .ok checks.referenceId⟩, ⟨.uuid4, .ok checks.id⟩,
    ⟨.findDuplicateContextRef cmd.userId cmd.contextReference (checks.now - minutes 60),
      .ok checks.duplicate⟩,
    ⟨.getVelocityContext cmd.userId checks.now, .ok checks.velocity⟩, ⟨.utcNow, .ok checks.now⟩,
    ⟨.findByIdempotencyKey cmd.idempotencyKey, .ok none⟩]

/-- The payment that the checks have been made for. -/
def payment (checks : Checks cmd) : Payment where
  id := checks.id
  userId := cmd.userId
  amount := cmd.amount
  method := cmd.method
  reference := generateReference checks.referenceId
  idempotencyKey := cmd.idempotencyKey
  environment := cmd.environment
  status := .initiated
  providerReference := none
  contextReference := cmd.contextReference
  metadata := checks.metadata
  createdAt := checks.createdAt
  expiresAt := checks.createdAt + minutes 30

end Checks

/-- What an initiation has read when the provider has given it a link. -/
structure Initiation (cmd : InitiatePaymentCommand) extends Checks cmd where
  policyNow : Datetime
  paymentLink : String
  providerRef : String
  providerRef_ne : providerRef ≠ ""

namespace Initiation

variable {cmd : InitiatePaymentCommand}

/-- The calls up to the link, newest first. -/
def log (initiation : Initiation cmd) : PaymentLog :=
  ⟨.createPaymentLink, .ok (initiation.paymentLink, initiation.providerRef)⟩ ::
    ⟨.utcNow, .ok initiation.policyNow⟩ :: initiation.toChecks.log

/-- The payment that is saved. -/
def payment (initiation : Initiation cmd) : Payment :=
  { initiation.toChecks.payment with
    providerReference := some initiation.providerRef
    status := .pending }

/-- The calls up to the transaction, newest first. -/
def logBefore (initiation : Initiation cmd) (auditId : UUID) : PaymentLog :=
  ⟨.uuid4, .ok auditId⟩ :: initiation.log

/-- The transaction. -/
def body (initiation : Initiation cmd) (auditId : UUID) : List TxWrite :=
  initiateBody cmd initiation.payment auditId

/-- The answer after the transaction has been committed. -/
def answer (initiation : Initiation cmd) : PaymentInitiation where
  reference := initiation.payment.reference
  paymentLink := initiation.paymentLink
  expiresAt := initiation.payment.expiresAt

@[simp] theorem savedPayments_body {initiation : Initiation cmd} {auditId : UUID} :
    savedPayments (initiation.body auditId) = [initiation.payment] := rfl

end Initiation

/-- The transactions that an initiation issues, with its log at that point. -/
inductive Initiates (cmd : InitiatePaymentCommand) : PaymentLog → List TxWrite → Prop where
  | blocked {log : PaymentLog} (auditId : UUID) :
      Initiates cmd log
        [.logAudit (auditEntry auditId none "VELOCITY_BLOCK" (userActor cmd.userId) [])]
  | saved (initiation : Initiation cmd) (auditId : UUID) :
      Initiates cmd (initiation.logBefore auditId) (initiation.body auditId)

/-- The answer for a payment that exists already. -/
def replay (cmd : InitiatePaymentCommand) (existing : Payment) : PaymentInitiation where
  reference := existing.reference
  paymentLink := cmd.redirectBaseUrl ++ "/pay/" ++ existing.reference
  expiresAt := existing.expiresAt

/-- How an initiation ends. -/
inductive Ended (cmd : InitiatePaymentCommand) :
    PaymentLog → Except PaymentError PaymentInitiation → Prop where
  | replayed (existing : Payment) :
      Ended cmd [⟨.findByIdempotencyKey cmd.idempotencyKey, .ok (some existing)⟩]
        (.ok (replay cmd existing))
  | persisted (initiation : Initiation cmd) (auditId : UUID) :
      Ended cmd (⟨.atomic (initiation.body auditId), .ok ()⟩ :: initiation.logBefore auditId)
        (.ok initiation.answer)
  | unpersisted (initiation : Initiation cmd) (auditId : UUID) (error : PaymentError) :
      Ended cmd (⟨.atomic (initiation.body auditId), .error error⟩ :: initiation.logBefore auditId)
        (.error error)
  | refused {log : PaymentLog} (error : PaymentError)
      (no_link : ∀ link, ⟨.createPaymentLink, .ok link⟩ ∉ log) : Ended cmd log (.error error)

/-- The clock and the random numbers never fail, and the provider names its links. -/
def answersAlways : PaymentCallRecord → Prop
  | ⟨.utcNow, .error _⟩ => False
  | ⟨.uuid4, .error _⟩ => False
  | ⟨.createPaymentLink, .ok link⟩ => link.2 ≠ ""
  | _ => True

/-- The contract of a call, as far as it is an initiation. -/
def initiationContract (call : PaymentCall) : Contract (Raising PaymentError PaymentOp.Ret) where
  allowed log op :=
    match op with
    | .atomic body => ∀ cmd, call = .initiatePayment cmd → Initiates cmd log body
    | _ => True
  possible := answersAlways

section Contract

variable {cmd : InitiatePaymentCommand}

/-- A link that has not been asked for is not in the log. -/
theorem Checks.no_link (checks : Checks cmd) (link : String × String) :
    (⟨.createPaymentLink, .ok link⟩ : PaymentCallRecord) ∉ checks.log := by
  intro hmem
  simp [Checks.log] at hmem

/-- The transaction of an initiation. -/
theorem body_follows (initiation : Initiation cmd) (auditId : UUID) :
    (atomicBlock (initiation.body auditId) (pure ())).Follows
      (initiationContract (.initiatePayment cmd)) (initiation.logBefore auditId)
      fun log outcome => log = ⟨.atomic (initiation.body auditId), outcome⟩ ::
        initiation.logBefore auditId := by
  unfold atomicBlock
  refine Follows.perform_bind (fun cmd' heq => ?_) (fun _ _ => rfl) fun _ => rfl
  cases heq
  exact .saved initiation auditId

/-- Steps 5 to 7 of `initiate_payment`. -/
theorem linkAndPersist_ends (checks : Checks cmd) :
    (linkAndPersist cmd checks.payment).Follows (initiationContract (.initiatePayment cmd))
      checks.log (Ended cmd) := by
  unfold linkAndPersist
  refine Follows.perform_bind_ok trivial (fun _ h => h) fun (policyNow : Datetime) _ => ?_
  have hnow : ∀ link, (⟨.createPaymentLink, .ok link⟩ : PaymentCallRecord) ∉
      (⟨.utcNow, .ok policyNow⟩ :: checks.log : PaymentLog) := by
    intro link hmem
    simp [Checks.log] at hmem
  refine Follows.ite (fun _ => Ended.refused _ hnow) fun _ => ?_
  have hlink : (attempt (ask .createPaymentLink) fun error =>
      throw (.providerGateway ("Failed to create payment link: " ++ error.message))).Follows
      (initiationContract (.initiatePayment cmd)) (⟨.utcNow, .ok policyNow⟩ :: checks.log)
      fun log outcome => match outcome with
        | .ok link => log = ⟨.createPaymentLink, .ok link⟩ ::
            ⟨.utcNow, .ok policyNow⟩ :: checks.log ∧ link.2 ≠ ""
        | .error error => ∀ link, (⟨.createPaymentLink, .ok link⟩ : PaymentCallRecord) ∉ log := by
    have hasked : (ask .createPaymentLink).Follows (initiationContract (.initiatePayment cmd))
        (⟨.utcNow, .ok policyNow⟩ :: checks.log) fun log outcome =>
          log = ⟨.createPaymentLink, outcome⟩ :: ⟨.utcNow, .ok policyNow⟩ :: checks.log ∧
            answersAlways ⟨.createPaymentLink, outcome⟩ :=
      follows_perform_iff.mpr ⟨trivial, fun _ hpossible => ⟨rfl, hpossible⟩⟩
    refine Follows.attempt hasked (fun _ _ h => h) ?_
    rintro log error ⟨rfl, _⟩ link hmem
    simp [Checks.log] at hmem
  refine Follows.bind hlink (fun log link hlog => ?_) fun _ _ hlog => Ended.refused _ hlog
  obtain ⟨paymentLink, providerRef⟩ := link
  obtain ⟨rfl, hname⟩ := hlog
  let initiation : Initiation cmd := ⟨checks, policyNow, paymentLink, providerRef, hname⟩
  refine Follows.perform_bind_ok trivial (fun _ h => h) fun (auditId : UUID) _ => ?_
  refine Follows.bind (body_follows initiation auditId) ?_ ?_
  · rintro _ _ rfl
    exact Ended.persisted initiation auditId
  · rintro _ error rfl
    exact Ended.unpersisted initiation auditId error

/-- `initiate_payment`. -/
theorem initiatePayment_ends (cmd : InitiatePaymentCommand) :
    (initiatePayment cmd).Follows (initiationContract (.initiatePayment cmd)) [] (Ended cmd) := by
  unfold initiatePayment
  refine Follows.perform_bind trivial (fun (existing : Option Payment) _ => ?_)
    fun error => Ended.refused error (by simp)
  cases existing with
  | some existing => exact Ended.replayed existing
  | none =>
    refine Follows.perform_bind_ok trivial (fun _ h => h) fun (now : Datetime) _ => ?_
    refine Follows.perform_bind trivial (fun (velocity : VelocityContext) _ => ?_)
      fun error => Ended.refused error (by simp)
    refine Follows.ite (fun _ => ?_) fun hallowed => ?_
    · refine Follows.perform_bind_ok trivial (fun _ h => h) fun (auditId : UUID) _ => ?_
      refine Follows.perform_bind (fun cmd' heq => ?_) (fun _ _ => Ended.refused _ (by simp))
        fun error => Ended.refused error (by simp)
      cases heq
      exact .blocked auditId
    · refine Follows.ite (fun _ => Ended.refused _ (by simp)) fun _ => ?_
      refine Follows.perform_bind trivial (fun (duplicate : Bool) _ => ?_)
        fun error => Ended.refused error (by simp)
      refine Follows.ite (fun _ => Ended.refused _ (by simp)) fun _ => ?_
      refine Follows.perform_bind_ok trivial (fun _ h => h) fun (id : UUID) _ => ?_
      refine Follows.perform_bind_ok trivial (fun _ h => h) fun (referenceId : UUID) _ => ?_
      refine Follows.perform_bind_ok trivial (fun _ h => h) fun (createdAt : Datetime) _ => ?_
      unfold Payment.create
      cases hmetadata : Metadata.validate cmd.metadata with
      | error error => exact Ended.refused error (by simp)
      | ok metadata =>
        let checks : Checks cmd :=
          { now, velocity, duplicate, id, referenceId, createdAt, metadata
            allowed := not_not.mp hallowed
            metadata_eq := hmetadata }
        exact linkAndPersist_ends checks

end Contract

/-- The contract of a call: what it issues, and what an initiation has checked before. -/
abbrev saveContract (call : PaymentCall) : Contract (Raising PaymentError PaymentOp.Ret) where
  allowed log op := (contract call).allowed log op ∧ (initiationContract call).allowed log op
  possible record := (contract call).possible record ∧ (initiationContract call).possible record

/-- What holds of a log in the end: the locks are given up, and an initiation has ended. -/
def CallEnded (call : PaymentCall) (log : PaymentLog) (outcome : Except PaymentError Unit) : Prop :=
  LocksReleased log ∧ ∀ cmd, call = .initiatePayment cmd →
    ∃ result, Ended cmd log result ∧ outcome = result.map fun _ => ()

/-- Every call of the component follows both contracts. -/
theorem followsSaveContract (call : PaymentCall) :
    (call.handler djangoPaymentEventOutboxDispatcher).Follows (saveContract call) []
      (CallEnded call) := by
  have hended : (call.handler djangoPaymentEventOutboxDispatcher).Follows
      (initiationContract call) [] fun log outcome => ∀ cmd, call = .initiatePayment cmd →
        ∃ result, Ended cmd log result ∧ outcome = result.map fun _ => () := by
    cases call with
    | initiatePayment cmd =>
      refine Follows.bind (initiatePayment_ends cmd) (fun log value h cmd' heq => ?_)
        fun log error h cmd' heq => ?_
      · cases heq
        exact ⟨_, h, rfl⟩
      · cases heq
        exact ⟨_, h, rfl⟩
    | _ =>
      refine Program.Follows.mono (Program.follows_of_allowed (fun log op => ?_) _ _)
        fun _ _ _ cmd heq => by cases heq
      cases op with
      | atomic body => exact fun cmd heq => by cases heq
      | _ => trivial
  exact Program.Follows.both (followsContract call) hended

/-- The stores and services answer as the contracts assume. -/
theorem answers_saveContract {ι : Type} (calls : ι → PaymentCall) :
    Pool.Answers (PaymentState.exec deployment) fun i => saveContract (calls i) := by
  intro i choice op s
  refine ⟨answers_possible calls i choice op s, ?_⟩
  cases op with
  | createPaymentLink =>
    cases hanswer : (PaymentState.exec deployment choice .createPaymentLink s).1 with
    | error error => trivial
    | ok link =>
      obtain rfl := Except.ok.inj (PaymentState.reading_ok hanswer)
      change "flw_" ++ String.ofList (hexDigits choice.uuid) ≠ ""
      simp
  | _ => trivial

/-- A payment has been saved as a row. -/
structure SavedAs (deployment : Deployment) (now : Datetime) (payment : Payment) (row : PaymentRow)
    (before after : PaymentDb) : Prop where
  row_eq : ∃ rowId method environment, payment.method = .member method ∧
    payment.environment = .member environment ∧
    row = PaymentDb.rowOf deployment now rowId payment method environment
      (before.payments.lookup payment.reference)
  no_clash : before.clashes payment = false
  payments_eq : after.payments = before.payments.upsert row

namespace SavedAs

variable {now : Datetime} {payment : Payment} {row : PaymentRow} {before after : PaymentDb}

/-- The row holds the payment, with the identifier and the creation time of the row. -/
theorem toDomain_eq (h : SavedAs deployment now payment row before after) :
    row.toDomain = { payment with id := row.id, createdAt := row.createdAt } := by
  obtain ⟨rowId, method, environment, hmethod, henvironment, rfl⟩ := h.row_eq
  obtain ⟨⟩ := payment
  simp only at hmethod henvironment
  subst hmethod henvironment
  rfl

theorem reference_eq (h : SavedAs deployment now payment row before after) :
    row.reference = payment.reference :=
  congrArg Payment.reference h.toDomain_eq

/-- The row carries the hash of the provider reference. -/
theorem hash_eq (h : SavedAs deployment now payment row before after) :
    row.providerReferenceHash = computeProviderHash deployment payment.providerReference := by
  obtain ⟨_, _, _, _, _, rfl⟩ := h.row_eq
  rfl

/-- A new row has been created now. -/
theorem createdAt_new (h : SavedAs deployment now payment row before after)
    (hnew : before.payments.lookup payment.reference = none) : row.createdAt = now := by
  obtain ⟨_, _, _, _, _, rfl⟩ := h.row_eq
  simp [PaymentDb.rowOf, hnew]

/-- A row that existed has the creation time of the payment. -/
theorem createdAt_old (h : SavedAs deployment now payment row before after) {old : PaymentRow}
    (hold : before.payments.lookup payment.reference = some old) :
    row.createdAt = payment.createdAt := by
  obtain ⟨_, _, _, _, _, rfl⟩ := h.row_eq
  simp [PaymentDb.rowOf, hold]

/-- No other row has the idempotency key of the payment. -/
theorem key_unique (h : SavedAs deployment now payment row before after) {other : PaymentRow}
    (hother : other ∈ before.payments.rows) (hne : other.reference ≠ payment.reference) :
    other.idempotencyKey ≠ payment.idempotencyKey := by
  intro heq
  have hclash : before.clashes payment = true := by
    refine List.any_eq_true.mpr ⟨other, hother, ?_⟩
    simp [hne, heq]
  rw [h.no_clash] at hclash
  cases hclash

/-- No other row has the provider reference of the payment. -/
theorem provider_unique (h : SavedAs deployment now payment row before after)
    {other : PaymentRow} {providerRef : String} (hother : other ∈ before.payments.rows)
    (hne : other.reference ≠ payment.reference)
    (hpayment : payment.providerReference = some providerRef) :
    other.providerReference ≠ some providerRef := by
  intro heq
  have hclash : before.clashes payment = true := by
    refine List.any_eq_true.mpr ⟨other, hother, ?_⟩
    simp [hne, heq, hpayment]
  rw [h.no_clash] at hclash
  cases hclash

end SavedAs

/-- A save that succeeds has found no clash. -/
theorem PaymentDb.savePayment_savedAs {now : Datetime} {rowId : UUID} {payment : Payment}
    {db db' : PaymentDb} (h : db.savePayment deployment now rowId payment = .ok db') :
    ∃ row, SavedAs deployment now payment row db db' := by
  obtain ⟨method, environment, hmethod, henvironment, rfl⟩ := PaymentDb.savePayment_ok h
  refine ⟨_, ⟨rowId, method, environment, hmethod, henvironment, rfl⟩, ?_, rfl⟩
  unfold PaymentDb.savePayment at h
  simp only [hmethod, henvironment] at h
  split at h
  · cases h
  · split at h
    · cases h
    · next hclash => simpa using hclash

/-- What a transaction that saves at most one payment does to the payments. -/
theorem runBody_saves {now : Datetime} {k : ℕ} {body : List TxWrite} {db db' : PaymentDb}
    (h : runBody deployment now choice k body db = .ok db') :
    (savedPayments body = [] → db'.payments = db.payments) ∧
    ∀ payment, savedPayments body = [payment] → ∃ row, SavedAs deployment now payment row db db' := by
  induction body generalizing k db with
  | nil =>
    rw [runBody_nil h]
    exact ⟨fun _ => rfl, fun payment hsaves => by cases hsaves⟩
  | cons write body ih =>
    obtain ⟨middle, hwrite, hbody⟩ := runBody_cons h
    obtain ⟨ihkeep, ihsave⟩ := ih hbody
    cases write with
    | savePayment payment =>
      refine ⟨(fun hsaves => by cases hsaves), fun other hother => ?_⟩
      have hcons : savedPayments (.savePayment payment :: body) = payment :: savedPayments body :=
        rfl
      rw [hcons, List.cons.injEq] at hother
      obtain ⟨rfl, hnil⟩ := hother
      obtain ⟨row, hrow⟩ := PaymentDb.savePayment_savedAs hwrite
      exact ⟨row, hrow.row_eq, hrow.no_clash, (ihkeep hnil).trans hrow.payments_eq⟩
    | _ =>
      have hpayments := PaymentDb.applyWrite_payments hwrite rfl
      refine ⟨fun hsaves => (ihkeep hsaves).trans hpayments, fun payment hsaves => ?_⟩
      obtain ⟨row, hrow⟩ := ihsave payment hsaves
      refine ⟨row, ?_, ?_, ?_⟩
      · rw [← hpayments]
        exact hrow.row_eq
      · have hclash := hrow.no_clash
        unfold PaymentDb.clashes at hclash ⊢
        rwa [hpayments] at hclash
      · rw [← hpayments]
        exact hrow.payments_eq

/-- What a performed call does to the payments. -/
inductive Change (deployment : Deployment) (call : PaymentCall) (log : PaymentLog)
    (record : PaymentCallRecord) (now : Datetime) (before after : PaymentDb) : Prop where
  | kept (payments_eq : after.payments = before.payments)
  /-- The status of a payment that the call has read. -/
  | moved {payment : Payment} {new : PaymentStatus} {row : PaymentRow}
      (held_eq : held payment.reference log = some payment) (move : Move payment.status new)
      (saved_eq : savedPayments (committed record) = [{ payment with status := new }])
      (saved : SavedAs deployment now { payment with status := new } row before after)
  /-- The payment of an initiation. -/
  | initiated {cmd : InitiatePaymentCommand} (initiation : Initiation cmd) (auditId : UUID)
      {row : PaymentRow} (call_eq : call = .initiatePayment cmd)
      (log_eq : log = initiation.logBefore auditId)
      (record_eq : record = ⟨.atomic (initiation.body auditId), .ok ()⟩)
      (saved : SavedAs deployment now initiation.payment row before after)

variable (deployment) in
/-- What an allowed call does to the payments. -/
theorem change_of_allowed {call : PaymentCall} {log : PaymentLog} {op : PaymentOp}
    (hallowed : (saveContract call).allowed log op) (choice : Choice) (s : PaymentState) :
    Change deployment call log ⟨op, (PaymentState.exec deployment choice op s).1⟩
      (s.clock + choice.elapsed) s.db (PaymentState.exec deployment choice op s).2.db := by
  by_cases hatomic : ∃ body, op = .atomic body
  · obtain ⟨body, rfl⟩ := hatomic
    rcases exec_atomic deployment choice s body with ⟨db, hrun, hexec⟩ | ⟨error, hexec⟩
    · rw [hexec]
      obtain ⟨hkeep, hsave⟩ := runBody_saves hrun
      by_cases hinitiate : ∃ cmd, call = .initiatePayment cmd
      · obtain ⟨cmd, rfl⟩ := hinitiate
        have hinitiates : Initiates cmd log body := hallowed.2 cmd rfl
        cases hinitiates with
        | blocked auditId => exact .kept (hkeep rfl)
        | saved initiation auditId =>
          obtain ⟨row, hrow⟩ := hsave initiation.payment rfl
          exact .initiated initiation auditId rfl rfl rfl hrow
      · have hissued : Issued call log body := hallowed.1
        rcases hissued.saves fun cmd heq => hinitiate ⟨cmd, heq⟩ with
          hnone | ⟨payment, new, hheld, hmove, hsaves⟩
        · exact .kept (hkeep hnone)
        · obtain ⟨row, hrow⟩ := hsave _ hsaves
          exact .moved hheld hmove hsaves hrow
    · rw [hexec]
      exact .kept rfl
  · exact .kept (by rw [exec_db_of_not_atomic fun body heq => hatomic ⟨body, heq⟩])

/-- A pool of programs over the stores and services of the component. -/
abbrev CallPool (ι α : Type) : Type := Pool ι PaymentState (Raising PaymentError PaymentOp.Ret) α

/-- The payments that a turn saves. -/
def savedOnTurn {ι α : Type} (deployment : Deployment) (pool : CallPool ι α) (turn : ι × Choice) :
    List Payment :=
  match pool.rest turn.1 with
  | .done _ => []
  | .call op _ =>
    savedPayments (committed ⟨op, (PaymentState.exec deployment turn.2 op pool.state).1⟩)

theorem savedOnTurn_of_call {ι α : Type} {pool : CallPool ι α} {i : ι} {op : PaymentOp}
    {next : Except PaymentError op.Ret → Program (Raising PaymentError PaymentOp.Ret) α}
    (h : pool.rest i = .call op next) :
    savedOnTurn deployment pool (i, choice) =
      savedPayments (committed ⟨op, (PaymentState.exec deployment choice op pool.state).1⟩) := by
  simp only [savedOnTurn, h]

end Linkapro.Payments
