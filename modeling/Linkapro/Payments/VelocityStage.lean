import Mathlib.Data.Set.Card
import Linkapro.Payments.InitiationRuns

/-!
# Payments: the velocity stage of an initiation

A new request is refused for its velocity exactly when the policy does not allow it. What
the policy allows without a flag goes on to the fraud checks. The vendors that the policy
counts are provider references, since a payment does not name its vendor.
-/

namespace Linkapro.Payments

open Lib Lib.Action

variable {deployment : Deployment} {choices : ℕ → Choice} {cmd : InitiatePaymentCommand}
  {s : PaymentState} {k : ℕ}

/-- The error of a request that is refused for its velocity. -/
def velocityRefusal : PaymentError :=
  .velocityLimitExceeded "Transaction cannot be processed at this time."

/-- Metadata that a payment does not take. -/
theorem Metadata.validate_error {metadata : MetadataArg} {error : PaymentError}
    (h : Metadata.validate metadata = .error error) : ∃ message, error = .valueError message := by
  unfold Metadata.validate at h
  split at h
  · cases h
  · cases h
  · cases h
    exact ⟨_, rfl⟩
  · split at h
    · split at h
      · cases h
      · cases h
        exact ⟨_, rfl⟩
    · cases h
      exact ⟨_, rfl⟩

/-- A payment that is not built raises for its metadata. -/
theorem Payment.create_error {id : UUID} {reference : String} {createdAt : Datetime}
    {error : PaymentError} (h : Payment.create cmd id reference createdAt = .error error) :
    ∃ message, error = .valueError message := by
  unfold Payment.create at h
  split at h
  · next error' hmetadata =>
    cases h
    exact Metadata.validate_error hmetadata
  · cases h

/-- A payment that is built is an initiated one. -/
theorem Payment.create_status {id : UUID} {reference : String} {createdAt : Datetime}
    {payment : Payment} (h : Payment.create cmd id reference createdAt = .ok payment) :
    payment.status = .initiated := by
  unfold Payment.create at h
  split at h
  · cases h
  · cases h
    rfl

/-- A save is refused for a missing user, a taken unique value, or plain text in place of an
enumeration. -/
theorem PaymentDb.savePayment_error {now : Datetime} {rowId : UUID} {payment : Payment}
    {db : PaymentDb} {error : PaymentError}
    (h : db.savePayment deployment now rowId payment = .error error) :
    (∃ message, error = .integrityError message) ∨ ∃ message, error = .attributeError message := by
  unfold PaymentDb.savePayment at h
  split at h
  · split at h
    · cases h
      exact .inl ⟨_, rfl⟩
    · split at h
      · cases h
        exact .inl ⟨_, rfl⟩
      · cases h
  · cases h
    exact .inr ⟨_, rfl⟩

/-- The transaction of an initiation raises what its two statements raise. -/
theorem runBody_initiateBody_error {now : Datetime} {choice : Choice} {payment : Payment}
    {auditId : UUID} {db : PaymentDb} {error : PaymentError}
    (h : runBody deployment now { choice with fault := none } 0 (initiateBody cmd payment auditId)
      db = .error error) :
    (∃ message, error = .integrityError message) ∨ ∃ message, error = .attributeError message := by
  rw [runBody_initiateBody] at h
  cases hsave : db.savePayment deployment now choice.uuid payment with
  | error error' =>
    rw [hsave] at h
    cases h
    exact PaymentDb.savePayment_error hsave
  | ok saved =>
    rw [hsave] at h
    change saved.logAudit now _ = _ at h
    unfold PaymentDb.logAudit at h
    split at h
    · cases h
      exact .inl ⟨_, rfl⟩
    · cases h

/-- No later stage refuses a request for its velocity. -/
theorem fraudStage_ne_velocityRefusal {now : Datetime} :
    (runCalls deployment choices
      (fraudStage cmd now (s.db.getVelocityContext cmd.userId now)) k s).value ≠
        .error velocityRefusal := by
  rw [runCalls_fraudStage rfl]
  split
  · exact fun h => by cases h
  · split
    · next error hcreate =>
      obtain ⟨message, rfl⟩ := Payment.create_error hcreate
      exact fun h => by cases h
    · next payment hcreate =>
      rw [runCalls_linkAndPersist (Payment.create_status hcreate)]
      split
      · exact fun h => by cases h
      · split
        · exact fun h => by cases h
        · rw [runCalls_persist]
          split
          · exact fun h => by cases h
          · next error hbody =>
            rcases runBody_initiateBody_error hbody with ⟨message, rfl⟩ | ⟨message, rfl⟩
            · exact fun h => by cases h
            · exact fun h => by cases h

/-- The entry of a refusal is written, as long as its identifier is new. -/
theorem runCalls_velocityBlock {entry : UUID → AuditEvent} {error : PaymentError}
    (hid : (entry (choices k).uuid).id = (choices k).uuid)
    (hfresh : ∀ row ∈ s.db.auditLog, row.id ≠ (choices k).uuid) :
    (runCalls deployment choices (do
      let id ← ask .uuid4
      ask (.atomic [.logAudit (entry id)])
      throw error : Handler PaymentInitiation) k s).value = .error error := by
  have hany : (s.db.auditLog.any fun row => row.id = (entry (choices k).uuid).id) = false := by
    rw [List.any_eq_false, hid]
    intro row hrow hsame
    exact hfresh row hrow (of_decide_eq_true hsame)
  rw [runCalls_logAndThrow]
  unfold PaymentDb.logAudit
  rw [hany]
  rfl

/-- The distinct values of the entries of a list. -/
theorem length_dedup_filterMap {α β : Type} [DecidableEq β] (entries : List α)
    (f : α → Option β) :
    (entries.filterMap f).dedup.length = Set.ncard {b | ∃ a ∈ entries, f a = some b} := by
  have hset : {b | ∃ a ∈ entries, f a = some b} = ((entries.filterMap f).toFinset : Set β) := by
    ext b
    simp
  rw [hset, Set.ncard_coe_finset, List.card_toFinset]

/-- The velocity stage of a new request refuses it exactly when the policy does not allow it,
and a request that is allowed without a flag goes on to the fraud checks. The vendors that
the policy counts are the provider references of the last hour. -/
theorem velocity_refuses_iff (deployment : Deployment) (choices : ℕ → Choice)
    (cmd : InitiatePaymentCommand) (s : PaymentState)
    (hnew : s.db.findByIdempotencyKey cmd.idempotencyKey = .ok none)
    (hfresh : ∀ row ∈ s.db.auditLog, row.id ≠ (choices 3).uuid) :
    let now := s.instantOf choices 1
    let velocity := s.db.getVelocityContext cmd.userId now
    let result := VelocityPolicy.apply velocity
    let run := runCalls deployment choices (initiatePayment cmd) 0 s
    (run.value = .error velocityRefusal ↔ result.allowed = false) ∧
    (result.allowed = true → result.flag = false →
      run = runCalls deployment choices (fraudStage cmd now velocity) 3
        (s.setClock (s.instantOf choices 2))) ∧
    velocity.uniqueVendorsLastHour =
      Set.ncard {reference | ∃ row ∈ s.db.payments.rows, row.userId = cmd.userId ∧
        now - hours 1 ≤ row.createdAt ∧ row.providerReference = some reference} := by
  intro now velocity result run
  have hrun := runCalls_initiatePayment deployment choices hnew
  refine ⟨?_, ?_, ?_⟩
  · constructor
    · intro hrefused
      by_contra hallowed
      change run.value = _ at hrefused
      have hpassed : run = _ := hrun
      rw [hpassed, if_neg hallowed] at hrefused
      split at hrefused
      · cases hrefused
      · exact fraudStage_ne_velocityRefusal hrefused
    · intro hrefused
      have hblocked : run = _ := hrun.trans (if_pos hrefused)
      rw [hblocked]
      exact runCalls_velocityBlock rfl hfresh
  · intro hallowed hflag
    refine hrun.trans ?_
    rw [if_neg (by rw [show (VelocityPolicy.apply velocity).allowed = true from hallowed]; decide),
      if_neg (by rw [show (VelocityPolicy.apply velocity).flag = false from hflag]; decide)]
  · have hrefs : {reference | ∃ row ∈ s.db.payments.rows, row.userId = cmd.userId ∧
        now - hours 1 ≤ row.createdAt ∧ row.providerReference = some reference} =
        {reference | ∃ row ∈ s.db.payments.rows.filter fun row =>
          row.userId = cmd.userId ∧ now - hours 1 ≤ row.createdAt,
            row.providerReference = some reference} := by
      ext reference
      simp only [Set.mem_ofPred_eq, List.mem_filter, decide_eq_true_eq, and_assoc]
    rw [hrefs]
    exact length_dedup_filterMap _ _

/-- The payments of the sample, all to one vendor. -/
def samePayee : Table PaymentRow.reference :=
  ⟨[pendingRow,
    { pendingRow with
      id := 2, reference := "pay_2", idempotencyKey := "key_2", providerReference := some "flw_2" },
    { pendingRow with
      id := 3, reference := "pay_3", idempotencyKey := "key_3", providerReference := some "flw_3" }],
    by decide⟩

/-- A state that stores them. -/
def samePayeeState : PaymentState :=
  { emptyState with db := { emptyState.db with payments := samePayee } }

/-- A user with one payment: the next request is refused neither by the policy nor by the stage. -/
theorem velocity_refuses_iff_sample :
    let s := stateWith pendingRow
    let result := VelocityPolicy.apply (s.db.getVelocityContext 7 (s.instantOf (fun _ => calm 9) 1))
    (result.allowed = true ∧ result.flag = false) ∧
      (runCalls sampleDeployment (fun _ => calm 9) (initiatePayment (sampleInitiate "k")) 0
        s).value ≠ .error velocityRefusal := by
  intro s result
  have hallowed : result.allowed = true ∧ result.flag = false := by decide +kernel
  refine ⟨hallowed, fun hrefused => ?_⟩
  have hblocked := ((velocity_refuses_iff sampleDeployment (fun _ => calm 9) (sampleInitiate "k") s
    rfl (by decide)).1.mp hrefused)
  exact absurd (hallowed.1.symm.trans hblocked) (by decide)

/-- The number of vendors that a user has paid since an instant, for an assignment of vendors to
payments. -/
def vendorsPaid (vendorOf : PaymentRow → UUID) (db : PaymentDb) (userId : UUID)
    (since : Datetime) : ℕ :=
  ((db.payments.rows.filter fun row => row.userId = userId ∧ since ≤ row.createdAt).map
    vendorOf).toFinset.card

/-- After three payments to one vendor a request raises although the policy only flags it, and
the policy counts three vendors. -/
theorem flagged_request_raises :
    (¬ ∀ (deployment : Deployment) (choices : ℕ → Choice) (cmd : InitiatePaymentCommand)
      (s : PaymentState), s.db.findByIdempotencyKey cmd.idempotencyKey = .ok none →
      (VelocityPolicy.apply
        (s.db.getVelocityContext cmd.userId (s.instantOf choices 1))).flag = true →
      ∀ message, (runCalls deployment choices (initiatePayment cmd) 0 s).value ≠
        .error (.valueError message)) ∧
    (¬ ∀ (vendorOf : PaymentRow → UUID) (s : PaymentState) (userId : UUID) (now : Datetime),
      (s.db.getVelocityContext userId now).uniqueVendorsLastHour =
        vendorsPaid vendorOf s.db userId (now - hours 1)) := by
  constructor
  · intro h
    exact h sampleDeployment (fun _ => calm 9) (sampleInitiate "k") samePayeeState rfl
      (by decide +kernel) _ rfl
  · intro h
    exact absurd (h (fun _ => 1) samePayeeState 7 2) (by decide +kernel)

end Linkapro.Payments
