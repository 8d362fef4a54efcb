import Linkapro.Payments.Settlement

/-!
# Payments: the environment of a settlement

The policy compares the environment of a payment with a context that the handler
has filled from the same payment, and the environment of the gateway account is
never read. A payment is settled in the environment of the gateway as long as
the webhooks find payments of that environment only.
-/

namespace Linkapro.Payments

open Lib

variable {ι : Type} {deployment : Deployment}

/-- The verification agrees with the payment in all that the policy compares, but for
the environment and the deadline. -/
def Agrees (verification : VerifiedTransaction) (payment : Payment) : Prop :=
  payment.status = .pending ∧ verification.status = "successful" ∧
    verification.providerReference = .ofOption payment.providerReference ∧
    verification.amountMinorUnits = payment.amount.minorUnits ∧
    verification.currencyCode = payment.amount.currency.code

instance (verification : VerifiedTransaction) (payment : Payment) :
    Decidable (Agrees verification payment) :=
  inferInstanceAs (Decidable (_ ∧ _))

/-- A confirmed payment agrees with its verification. -/
theorem PaymentPolicy.Confirmed.agrees {verification : VerifiedTransaction} {payment : Payment}
    {now : Datetime}
    (h : PaymentPolicy.Confirmed payment (confirmContext verification payment) now) :
    Agrees verification payment := by
  have hverified : verification.status = "successful" := by
    simpa [confirmContext] using h.verified
  exact ⟨h.pending, hverified, h.reference, h.amount, h.currency⟩

/-- The payment that a call of a webhook finds for a provider reference on this turn. -/
def foundOnTurn [DecidableEq ι] (deployment : Deployment) (pool : PaymentPool ι)
    (turn : ι × Choice) : List Payment :=
  match pool.rest turn.1 with
  | .call (.findByProviderReference providerRef) _ =>
    reads ⟨.findByProviderReference providerRef,
      (PaymentState.exec deployment turn.2 (.findByProviderReference providerRef) pool.state).1⟩
  | _ => []

/-- The transactions that a performed call shows as verified. -/
def verifications : PaymentCallRecord → List VerifiedTransaction
  | ⟨.verifyTransaction _, .ok verification⟩ => Option.toList verification
  | _ => []

/-- On this turn, a webhook that finds a payment which agrees with its verification
finds one that declares the environment of the gateway account. -/
def FindsGatewayEnvironment [DecidableEq ι] (deployment : Deployment) (pool : PaymentPool ι)
    (turn : ι × Choice) : Prop :=
  ∀ payment ∈ foundOnTurn deployment pool turn,
    ∀ verification ∈ (pool.log turn.1).flatMap verifications, Agrees verification payment →
      environmentText payment.environment = deployment.paymentEnv

instance [DecidableEq ι] (deployment : Deployment) (pool : PaymentPool ι) (turn : ι × Choice) :
    Decidable (FindsGatewayEnvironment deployment pool turn) :=
  inferInstanceAs (Decidable (∀ _ ∈ _, _))

/-- A turn makes payments SUCCESS only in the environment of the gateway account. -/
def SettlesGatewayEnvironment [DecidableEq ι] (deployment : Deployment) (pool : PaymentPool ι)
    (turn : ι × Choice) : Prop :=
  ∀ row' ∈ (pool.step (PaymentState.exec deployment) turn).state.db.payments.rows,
    row'.status = .success →
      (∃ row ∈ pool.state.db.payments.rows, row.reference = row'.reference ∧
        row.status = .success) ∨
      row'.environment.value = deployment.paymentEnv

instance [DecidableEq ι] (deployment : Deployment) (pool : PaymentPool ι) (turn : ι × Choice) :
    Decidable (SettlesGatewayEnvironment deployment pool turn) :=
  inferInstanceAs (Decidable (∀ _ ∈ _, _))

/-- Every payment that a call has found and that agrees with its verification declares
the environment of the gateway account. -/
def KnowsGatewayEnvironment [DecidableEq ι] (deployment : Deployment) (pool : PaymentPool ι) :
    Prop :=
  ∀ i providerRef verification payment,
    FoundVerified providerRef verification payment (pool.log i) → Agrees verification payment →
      environmentText payment.environment = deployment.paymentEnv

variable [DecidableEq ι] {calls : ι → PaymentCall}

/-- What a webhook finds on a turn is in its log afterwards. -/
theorem mem_foundOnTurn {pool : PaymentPool ι} {i : ι} {choice : Choice} {op : PaymentOp}
    {next : Except PaymentError op.Ret → Program (Raising PaymentError PaymentOp.Ret)
      (Except PaymentError Unit)} {providerRef : JsonValue} {payment : Payment}
    (hrest : pool.rest i = .call op next)
    (hrecord : (⟨op, (PaymentState.exec deployment choice op pool.state).1⟩ : PaymentCallRecord) =
      ⟨.findByProviderReference providerRef, .ok (some payment)⟩) :
    payment ∈ foundOnTurn deployment pool (i, choice) := by
  obtain ⟨rfl, hanswer⟩ := Sigma.mk.inj hrecord
  unfold foundOnTurn
  rw [hrest]
  change payment ∈ reads ⟨.findByProviderReference providerRef, _⟩
  rw [eq_of_heq hanswer]
  exact List.mem_singleton_self payment

/-- When every webhook finds payments of the gateway's environment only, all that the
calls have found stays of that environment. -/
theorem keeps_knowsGatewayEnvironment :
    Pool.Keeps (PaymentState.exec deployment) (contracts calls) locksReleased
      (FindsGatewayEnvironment deployment) (KnowsGatewayEnvironment deployment) := by
  intro pool i choice op next _ hknows hturn hrest _ j providerRef verification payment hfound hagrees
  by_cases hij : i = j
  · subst hij
    rw [Pool.log_step_self hrest] at hfound
    rcases hfound.of_cons with ⟨hrecord, hverified⟩ | hfound
    · have hmem : verification ∈ (pool.log i).flatMap verifications :=
        List.mem_flatMap.mpr ⟨_, hverified, List.mem_singleton_self verification⟩
      exact hturn payment (mem_foundOnTurn hrest hrecord) verification hmem hagrees
    · exact hknows i providerRef verification payment hfound hagrees
  · rw [Pool.log_step_other hij] at hfound
    exact hknows j providerRef verification payment hfound hagrees

/-- A turn of calls that know the gateway's environment settles in that environment. -/
theorem KnowsGatewayEnvironment.settles {pool : PaymentPool ι} {turn : ι × Choice}
    (hknows : KnowsGatewayEnvironment deployment pool)
    (hpool : Pool.Disciplined (contracts calls) locksReleased pool) :
    SettlesGatewayEnvironment deployment pool turn := by
  obtain ⟨i, choice⟩ := turn
  intro row' hrow' hstatus
  cases hrest : pool.rest i with
  | done outcome =>
    rw [Pool.step_of_done hrest] at hrow'
    exact Or.inl ⟨row', hrow', rfl, hstatus⟩
  | call op next =>
    rw [Pool.step_of_call hrest] at hrow'
    by_cases hatomic : ∃ body, op = .atomic body
    · obtain ⟨body, rfl⟩ := hatomic
      have hissued : Issued (calls i) (pool.log i) body := hpool.allowed_call hrest
      rcases exec_atomic deployment choice pool.state body with ⟨db, hrun, hexec⟩ | ⟨error, hexec⟩
      · rw [hexec] at hrow'
        have hlookup' : db.payments.lookup row'.reference = some row' := Table.lookup_of_mem hrow'
        rcases hissued.unsettling_or_success with hbody |
          ⟨cmd, providerRef, verification, payment, auditId, rfl, _, hfound, _, hconfirmed⟩
        · obtain ⟨row, hlookup, hsuccess⟩ :=
            (hbody.nothingSettled hrun).payments _ row' hlookup' hstatus
          exact Or.inl ⟨row, Table.mem_of_lookup hlookup, Table.key_of_lookup hlookup, hsuccess⟩
        · have hsaves : savedPayments (successBody cmd payment auditId []) =
            [{ payment with status := .success }] := savedPayments_successBody hconfirmed.pending
          have hrows := runBody_payments hrun row'.reference
          by_cases href : payment.reference = row'.reference
          · obtain ⟨_, environment, row, _, henvironment, hrow, hlookup⟩ := hrows.2 _ hsaves href
            have heq : row' = row := Option.some.inj (hlookup'.symm.trans hlookup)
            have hvalue : row'.environment = environment := by rw [heq, hrow]; rfl
            have hgateway := hknows i providerRef verification payment hfound hconfirmed.agrees
            rw [show payment.environment = .member environment from henvironment] at hgateway
            exact Or.inr (hvalue ▸ hgateway)
          · have hkept := hrows.1 (by rw [hsaves]; simpa using Ne.symm href)
            have hlookup := hkept.symm.trans hlookup'
            exact Or.inl ⟨row', Table.mem_of_lookup hlookup, rfl, hstatus⟩
      · rw [hexec] at hrow'
        exact Or.inl ⟨row', hrow', rfl, hstatus⟩
    · rw [exec_db_of_not_atomic fun body heq => hatomic ⟨body, heq⟩] at hrow'
      exact Or.inl ⟨row', hrow', rfl, hstatus⟩

/-- In every run in which the webhooks find payments of the gateway's environment only,
whatever environment an initiation has declared, payments become SUCCESS in that
environment only. -/
theorem settlements_in_gateway_environment {s : PaymentState} {schedule : List (ι × Choice)}
    (hfinds : Pool.Always (PaymentState.exec deployment) (FindsGatewayEnvironment deployment)
      (startCalls s calls) schedule) :
    Pool.Always (PaymentState.exec deployment) (SettlesGatewayEnvironment deployment)
      (startCalls s calls) schedule := by
  have hstart : KnowsGatewayEnvironment deployment (startCalls s calls) := by
    rintro i providerRef verification payment ⟨newer, older, hlog, _⟩
    exact absurd hlog.symm (by simp [startCalls])
  exact keeps_knowsGatewayEnvironment.always (answers_possible calls) disciplined_startCalls hstart
    hfinds fun pool turn hpool hknows _ => hknows.settles hpool

/-- A payment that declares the live environment is settled by the test account. -/
theorem live_payment_settled_by_test_account :
    ¬ Pool.Always (PaymentState.exec sampleDeployment)
      (SettlesGatewayEnvironment sampleDeployment)
      (startCalls (stateWith { pendingRow with environment := .live }) soleWebhook)
      webhookTurns := by
  decide

/-- A payment that declares the test environment is settled by the test account. -/
theorem settlements_in_gateway_environment_sample :
    Pool.Always (PaymentState.exec sampleDeployment)
      (SettlesGatewayEnvironment sampleDeployment)
      (startCalls (stateWith pendingRow) soleWebhook) webhookTurns :=
  settlements_in_gateway_environment (by decide)

end Linkapro.Payments
