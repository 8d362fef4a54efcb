import Linkapro.Payments.Velocity

/-!
# Payments: the rule about failed payments

The velocity check counts the user's payments in the status FAILED. A webhook whose
verification reports a failure is rejected by the policy and leaves its payment as it
is, and no other handler stores that status. The count is therefore zero in every run,
and the rule refuses no initiation.
-/

namespace Linkapro.Payments

open Lib

variable {ι : Type} [DecidableEq ι] {deployment : Deployment} {calls : ι → PaymentCall}

/-- No payment is stored as FAILED, and no velocity check has counted one. -/
structure NeverFailed (pool : PaymentPool ι) : Prop where
  stored : ∀ row ∈ pool.state.db.payments.rows, row.status ≠ .failed
  checked : ∀ i, ∀ check ∈ (pool.log i).flatMap velocityChecks, check.2.failedLastHour = 0

/-- No handler saves a payment as FAILED. -/
theorem Change.stored_ne_failed {call : PaymentCall} {log : PaymentLog}
    {record : PaymentCallRecord} {now : Datetime} {before after : PaymentDb}
    (h : Change deployment call log record now before after)
    (hbefore : ∀ row ∈ before.payments.rows, row.status ≠ .failed) :
    ∀ row ∈ after.payments.rows, row.status ≠ .failed := by
  have hupsert (saved : PaymentRow) (hsaved : saved.status ≠ .failed)
      (hpayments : after.payments = before.payments.upsert saved) :
      ∀ row ∈ after.payments.rows, row.status ≠ .failed := by
    rw [hpayments]
    intro row hrow
    rcases Table.mem_upsert_iff.mp hrow with rfl | ⟨hmem, _⟩
    · exact hsaved
    · exact hbefore row hmem
  cases h with
  | kept payments_eq =>
    rw [payments_eq]
    exact hbefore
  | @moved payment new row held_eq move saved_eq saved =>
    have hstatus : row.status = new := congrArg Payment.status saved.toDomain_eq
    refine hupsert row ?_ saved.payments_eq
    rw [hstatus]
    exact fun hfailed => absurd (hfailed ▸ move.mem_handlerStatuses) (by decide)
  | @initiated cmd initiation auditId row call_eq log_eq record_eq saved =>
    have hstatus : row.status = .pending := congrArg Payment.status saved.toDomain_eq
    refine hupsert row ?_ saved.payments_eq
    rw [hstatus]
    decide

/-- A velocity check counts no failed payment when none is stored. -/
theorem failedLastHour_eq_zero {choice : Choice} {s : PaymentState} {op : PaymentOp}
    (hstored : ∀ row ∈ s.db.payments.rows, row.status ≠ .failed)
    {check : Datetime × VelocityContext}
    (hcheck : check ∈ velocityChecks ⟨op, (PaymentState.exec deployment choice op s).1⟩) :
    check.2.failedLastHour = 0 := by
  cases op with
  | getVelocityContext userId now =>
    cases hanswer : (PaymentState.exec deployment choice (.getVelocityContext userId now) s).1 with
    | error error =>
      rw [hanswer] at hcheck
      cases hcheck
    | ok velocity =>
      rw [hanswer] at hcheck
      have hread := PaymentState.reading_ok hanswer
      obtain rfl := List.mem_singleton.mp hcheck
      obtain rfl := Except.ok.inj hread
      refine List.length_eq_zero_iff.mpr (List.filter_eq_nil_iff.mpr fun row hrow => ?_)
      simpa using hstored row (List.mem_of_mem_filter hrow)
  | _ => cases hcheck

/-- No turn stores a payment as FAILED. -/
theorem keeps_neverFailed {post : ι → PaymentLog → Except PaymentError Unit → Prop} :
    Pool.Keeps (PaymentState.exec deployment) (fun i => saveContract (calls i)) post
      (fun _ _ => True) NeverFailed := by
  intro pool i choice op next _ hnever _ hrest hallowed
  have hchange := change_of_allowed deployment hallowed choice pool.state
  constructor
  · rw [Pool.step_of_call hrest]
    exact hchange.stored_ne_failed hnever.stored
  · intro j check hcheck
    by_cases hij : i = j
    · subst hij
      rw [Pool.log_step_self hrest, List.flatMap_cons] at hcheck
      rcases List.mem_append.mp hcheck with hnew | hold
      · exact failedLastHour_eq_zero hnever.stored hnew
      · exact hnever.checked i check hold
    · rw [Pool.log_step_other hij] at hcheck
      exact hnever.checked j check hcheck

/-- The provider references for which a performed call shows a failure. -/
def failureReports : PaymentCallRecord → List String
  | ⟨.verifyTransaction (.text providerRef), .ok verification⟩ =>
    if (verification.map VerifiedTransaction.status) = some "failed" then [providerRef] else []
  | _ => []

/-- The provider references for which a sequential run has been told of a failure. -/
def reportedFailures (deployment : Deployment) :
    PaymentState → List (PaymentCall × List Choice) → List String
  | _, [] => []
  | s, call :: calls =>
    ((runCall deployment s call.1 call.2).log ()).flatMap failureReports ++
      reportedFailures deployment (runCall deployment s call.1 call.2).state calls

/-- The payments of a user that were created since an instant and have been reported as
failed. -/
def PaymentDb.failedSince (db : PaymentDb) (reports : List String) (userId : UUID)
    (first : Datetime) : List PaymentRow :=
  db.payments.rows.filter fun row => row.userId = userId ∧ first ≤ row.createdAt ∧
    row.providerReference.any fun providerRef => providerRef ∈ reports

/-- The result of a velocity check that refuses an initiation for failed payments. -/
def tooManyFailed : VelocityResult := ⟨false, some "Too many failed payments", false⟩

/-- A check that has counted no failed payment does not refuse for them. -/
theorem apply_ne_tooManyFailed {context : VelocityContext} (h : context.failedLastHour = 0) :
    VelocityPolicy.apply context ≠ tooManyFailed := by
  unfold VelocityPolicy.apply
  rw [h, if_neg (by decide : ¬ 3 ≤ 0)]
  split
  · decide
  · split
    · decide
    · split
      · decide
      · split
        · decide
        · decide

/-- User 7 initiates a payment; each call uses the random number `k`. -/
def initiateAs (k : ℕ) : PaymentCall × List Choice :=
  (.initiatePayment (sampleInitiate (String.ofList (List.replicate k 'k'))),
    List.replicate 11 (calm (BitVec.ofNat 128 (2 ^ 84 * k))))

/-- The provider reports the payment of `initiateAs k` as failed. -/
def reportFailure (k : ℕ) : PaymentCall × List Choice :=
  (.processWebhook
    { eventId := String.ofList (List.replicate k 'e')
      payload :=
        ⟨.dict (some (.text ("flw_" ++ String.ofList (hexDigits (BitVec.ofNat 128 (2 ^ 84 * k))))))⟩
      now := 100 },
    List.replicate 12 { calm (BitVec.ofNat 128 (2 ^ 84 * k + 1)) with
      verification := some ("failed", 1000, "RWF") })

/-- Three payments of one user are created and reported as failed. -/
def threeFailures : List (PaymentCall × List Choice) :=
  [initiateAs 1, initiateAs 2, initiateAs 3, reportFailure 1, reportFailure 2, reportFailure 3]

/-- In every sequential run, an initiation that has been checked meets the rule exactly when
fewer than three of the user's payments of the last hour have been reported as failed. -/
theorem failed_rule_iff {s : PaymentState} (hempty : s.db.payments.rows = [])
    (calls : List (PaymentCall × List Choice)) (cmd : InitiatePaymentCommand)
    (choices : List Choice) (check : Datetime × VelocityContext)
    (hcheck : check ∈ ((runCall deployment (sequentialRun deployment s calls)
      (.initiatePayment cmd) choices).log ()).flatMap velocityChecks) :
    let failed := (sequentialRun deployment s calls).db.failedSince
      (reportedFailures deployment s calls) cmd.userId (check.1 - hours 1)
    (3 ≤ failed.length → VelocityPolicy.apply check.2 = tooManyFailed) ↔ failed.length < 3 := by
  have hrun (s : PaymentState) (call : PaymentCall) (choices : List Choice)
      (hs : ∀ row ∈ s.db.payments.rows, row.status ≠ .failed) :
      NeverFailed (runCall deployment s call choices) := by
    have hpool : Pool.Disciplined (fun _ : Unit => saveContract call)
        (fun _ => CallEnded call) (startCalls s fun _ => call) := fun _ => followsSaveContract call
    exact (keeps_neverFailed.run (answers_saveContract _) hpool
      ⟨hs, fun _ _ h => (by cases h)⟩ (Pool.always_of_forall fun _ _ => trivial)).2
  have hbefore : ∀ (s : PaymentState) (calls : List (PaymentCall × List Choice)),
      (∀ row ∈ s.db.payments.rows, row.status ≠ .failed) →
        ∀ row ∈ (sequentialRun deployment s calls).db.payments.rows, row.status ≠ .failed := by
    intro s calls hs
    induction calls generalizing s with
    | nil => exact hs
    | cons call calls ih => exact ih _ (hrun s call.1 call.2 hs).stored
  have hstart : ∀ row ∈ s.db.payments.rows, row.status ≠ .failed := by
    rw [hempty]
    exact fun _ h => by cases h
  have hzero := (hrun _ (.initiatePayment cmd) choices (hbefore s calls hstart)).checked ()
    check hcheck
  intro failed
  constructor
  · intro hrefused
    by_contra hmany
    exact apply_ne_tooManyFailed hzero (hrefused (not_lt.mp hmany))
  · intro hfew hmany
    exact absurd hmany (not_le.mpr hfew)

/-- The first initiation of a user meets the rule: it has two microseconds since the account
was opened and no payment to count. -/
theorem failed_rule_iff_sample :
    let failed := (sequentialRun sampleDeployment emptyState []).db.failedSince
      (reportedFailures sampleDeployment emptyState []) 7 (2 - hours 1)
    (3 ≤ failed.length → VelocityPolicy.apply ⟨0, 0, 0, 0, 0, 2⟩ = tooManyFailed) ↔
      failed.length < 3 :=
  failed_rule_iff rfl [] (sampleInitiate "k") (initiateAs 1).2 (2, ⟨0, 0, 0, 0, 0, 2⟩)
    (by decide +kernel)

/-- After three reported failures the next initiation is not refused for them. -/
theorem failures_not_counted :
    ¬ ∀ (calls : List (PaymentCall × List Choice)) (cmd : InitiatePaymentCommand)
      (choices : List Choice), ∀ check ∈ ((runCall sampleDeployment
        (sequentialRun sampleDeployment emptyState calls) (.initiatePayment cmd)
          choices).log ()).flatMap velocityChecks,
      3 ≤ ((sequentialRun sampleDeployment emptyState calls).db.failedSince
          (reportedFailures sampleDeployment emptyState calls) cmd.userId
          (check.1 - hours 1)).length →
        VelocityPolicy.apply check.2 = tooManyFailed := by
  intro h
  have hnext := h threeFailures (sampleInitiate "kkkk") (initiateAs 4).2
  revert hnext
  decide +kernel

end Linkapro.Payments
