import Linkapro.Payments.InitiateView

/-!
# Payments: step-up authentication of large payments

The step-up policy is applied by a middleware that the settings do not install, and the
handler takes its threshold for the fraud checks only. An initiation is accepted with or
without a step-up, whatever its encoding is.
-/

namespace Linkapro.Payments

open Lib Lib.Action

/-- The encodings of a body that the parsers of the view read. -/
inductive BodyEncoding : Type where
  | json | form | multipart
deriving DecidableEq, Repr

/-- A POST request to `initiate/` with an access token, and the command that it comes to. -/
structure InitiateRequest where
  encoding : BodyEncoding
  /-- The `step_up` claim of the token. -/
  stepUp : Bool
  command : InitiatePaymentCommand

/-- The middleware classes of the framework and of the payment component. -/
inductive Middleware : Type where
  | security | cors | session | common | csrfView | authentication | message | xFrameOptions
  | hmacRequestValidator | correlation | stepUpEnforcement
deriving DecidableEq, Repr

/-- `MIDDLEWARE` of the settings. -/
def installedMiddleware : List Middleware :=
  [.security, .cors, .session, .common, .csrfView, .authentication, .message, .xFrameOptions,
    .hmacRequestValidator, .correlation]

/-- What a middleware does with the request: it hands it on, or raises. The HMAC validator skips
a request with an access token, and a request has no `auth` before the view has authenticated
it, which the step-up middleware does not catch. The classes of the framework are a parameter. -/
def Middleware.call (framework : Middleware → InitiateRequest → Except PaymentError Unit)
    (request : InitiateRequest) : Middleware → Except PaymentError Unit
  | .hmacRequestValidator | .correlation => .ok ()
  | .stepUpEnforcement =>
    .error (.attributeError "'WSGIRequest' object has no attribute 'auth'")
  | middleware => framework middleware request

/-- The request passes the chain, from the first class on. -/
def passMiddleware (framework : Middleware → InitiateRequest → Except PaymentError Unit)
    (request : InitiateRequest) : List Middleware → Except PaymentError Unit
  | [] => .ok ()
  | middleware :: rest =>
    match middleware.call framework request with
    | .ok () => passMiddleware framework request rest
    | .error error => .error error

/-- The request from the middleware to the handler. -/
def initiateRequest (framework : Middleware → InitiateRequest → Except PaymentError Unit)
    (request : InitiateRequest) : Handler PaymentInitiation :=
  match passMiddleware framework request installedMiddleware with
  | .ok () => initiatePayment request.command
  | .error error => throw error

/-- The payment of a new request can be stored: its method and environment are members of their
enumerations, its user exists, and the provider's reference and the identifier of its audit
entry are new. -/
structure Storable (choices : ℕ → Choice) (s : PaymentState) (cmd : InitiatePaymentCommand) :
    Prop where
  method : ∃ method, cmd.method = .member method
  environment : ∃ environment, cmd.environment = .member environment
  user : (s.db.users cmd.userId).isSome
  providerReference : ∀ row ∈ s.db.payments.rows,
    row.reference ≠ generateReference (choices 5).uuid →
      row.providerReference ≠ some (providerRefOf (choices 8))
  auditId : ∀ row ∈ s.db.auditLog, row.id ≠ (choices 9).uuid

/-- A new request that passes every check, gets a link and can be stored. -/
structure Creates (choices : ℕ → Choice) (s : PaymentState) (cmd : InitiatePaymentCommand) :
    Prop where
  new : s.db.findByIdempotencyKey cmd.idempotencyKey = .ok none
  reviewed : Reviewed s.db cmd (s.instantOf choices 1)
  inTime : ¬ Late choices s
  linked : (choices 8).fault = none
  storable : Storable choices s cmd

/-- The handler accepts the request: its key is known, or it creates a payment. -/
def Accepts (choices : ℕ → Choice) (s : PaymentState) (cmd : InitiatePaymentCommand) : Prop :=
  (∃ payment, s.db.findByIdempotencyKey cmd.idempotencyKey = .ok (some payment)) ∨
    Creates choices s cmd

variable {deployment : Deployment} {choices : ℕ → Choice} {cmd : InitiatePaymentCommand}
  {s : PaymentState} {k : ℕ}

/-- The installed classes hand the request on exactly when those of the framework do, as none of
them is the step-up middleware. -/
theorem passMiddleware_ok_iff
    {framework : Middleware → InitiateRequest → Except PaymentError Unit}
    {request : InitiateRequest} :
    passMiddleware framework request installedMiddleware = .ok () ↔
      ∀ middleware ∈ installedMiddleware,
        middleware.call framework request = .ok () := by
  have hchain (chain : List Middleware) : passMiddleware framework request chain = .ok () ↔
      ∀ middleware ∈ chain, middleware.call framework request = .ok () := by
    induction chain with
    | nil => simp [passMiddleware]
    | cons middleware rest ih =>
      rw [List.forall_mem_cons, ← ih]
      cases hcall : middleware.call framework request with
      | ok => simp [passMiddleware, hcall]
      | error error => simp [passMiddleware, hcall]
  exact hchain installedMiddleware

/-- A new key is the key of no row. -/
theorem PaymentDb.ne_of_new {db : PaymentDb} {key : String}
    (hnew : db.findByIdempotencyKey key = .ok none) :
    ∀ row ∈ db.payments.rows, row.idempotencyKey ≠ key := by
  intro row hrow hkey
  unfold PaymentDb.findByIdempotencyKey PaymentDb.getPayment at hnew
  split at hnew
  · next hnone =>
    have hmem : row ∈ db.payments.rows.filter fun row => row.idempotencyKey = key := by
      simp [hrow, hkey]
    rw [hnone] at hmem
    cases hmem
  · cases hnew
  · cases hnew

/-- The payment of a new request is saved exactly when its method and environment are members,
its user exists and the provider's reference is new. -/
theorem savePayment_linked_iff {payment : Payment} {reference providerRef : String}
    {createdAt now : Datetime} {rowId : UUID} (hpayment : payment.Initiates cmd reference createdAt)
    (hnew : s.db.findByIdempotencyKey cmd.idempotencyKey = .ok none) :
    (∃ db, s.db.savePayment deployment now rowId (payment.linked providerRef) = .ok db) ↔
      (∃ method, cmd.method = .member method) ∧
      (∃ environment, cmd.environment = .member environment) ∧
      (s.db.users cmd.userId).isSome ∧
      ∀ row ∈ s.db.payments.rows, row.reference ≠ reference →
        row.providerReference ≠ some providerRef := by
  have hclashes : s.db.clashes (payment.linked providerRef) = true ↔
      ∃ row ∈ s.db.payments.rows, row.reference ≠ reference ∧
        row.providerReference = some providerRef := by
    unfold PaymentDb.clashes
    rw [List.any_eq_true]
    refine exists_congr fun row => and_congr_right fun hrow => ?_
    have hkey : row.idempotencyKey ≠ payment.idempotencyKey := by
      rw [hpayment.idempotencyKey]
      exact PaymentDb.ne_of_new hnew row hrow
    simp [Payment.linked, hpayment.reference, hkey]
  unfold PaymentDb.savePayment
  have hmethod : (payment.linked providerRef).method = cmd.method := hpayment.method
  have henvironment : (payment.linked providerRef).environment = cmd.environment :=
    hpayment.environment
  have huser : (payment.linked providerRef).userId = cmd.userId := hpayment.userId
  rw [hmethod, henvironment, huser]
  cases hcmdMethod : cmd.method with
  | text text => simp
  | member method =>
    cases hcmdEnvironment : cmd.environment with
    | text text => simp
    | member environment =>
      cases hcmdUser : s.db.users cmd.userId with
      | none => simp
      | some joined =>
        by_cases hclash : s.db.clashes (payment.linked providerRef) = true
        · obtain ⟨row, hrow, hreference, hprovider⟩ := hclashes.mp hclash
          simp only [hclash, Option.isNone_some, Bool.false_eq_true, if_false, if_true,
            reduceCtorEq, exists_false, false_iff]
          rintro ⟨-, -, -, hfresh⟩
          exact hfresh row hrow hreference hprovider
        · have hfresh : ∀ row ∈ s.db.payments.rows, row.reference ≠ reference →
              row.providerReference ≠ some providerRef := fun row hrow hreference hprovider =>
            hclash (hclashes.mpr ⟨row, hrow, hreference, hprovider⟩)
          simpa [hclash] using hfresh

/-- A save leaves the audit log as it is. -/
theorem savePayment_auditLog {now : Datetime} {rowId : UUID} {payment : Payment}
    {db saved : PaymentDb} (h : db.savePayment deployment now rowId payment = .ok saved) :
    saved.auditLog = db.auditLog := by
  unfold PaymentDb.savePayment at h
  split at h
  · split at h
    · cases h
    · split at h
      · cases h
      · cases h
        rfl
  · cases h

/-- An audit entry is written exactly when its identifier is new. -/
theorem logAudit_ok_iff {now : Datetime} {event : AuditEvent} {db : PaymentDb} :
    (∃ logged, db.logAudit now event = .ok logged) ↔ ∀ row ∈ db.auditLog, row.id ≠ event.id := by
  unfold PaymentDb.logAudit
  split
  · next htaken =>
    obtain ⟨row, hrow, hid⟩ := List.any_eq_true.mp htaken
    simp only [reduceCtorEq, exists_false, false_iff]
    exact fun hfresh => hfresh row hrow (of_decide_eq_true hid)
  · next hfree =>
    simp only [Except.ok.injEq, exists_eq', true_iff]
    intro row hrow hid
    exact hfree (List.any_eq_true.mpr ⟨row, hrow, decide_eq_true hid⟩)

/-- The transaction of a reviewed request with a link commits exactly when it can be stored. -/
theorem initiateBody_ok_iff {payment : Payment} {now : Datetime}
    (hpayment : payment.Initiates cmd (generateReference (choices 5).uuid) (s.instantOf choices 6))
    (hnew : s.db.findByIdempotencyKey cmd.idempotencyKey = .ok none) {choice : Choice} :
    (∃ db, runBody deployment now { choice with fault := none } 0
      (initiateBody cmd (payment.linked (providerRefOf (choices 8))) (choices 9).uuid) s.db =
        .ok db) ↔ Storable choices s cmd := by
  rw [runBody_initiateBody]
  have hsave : (∃ saved, s.db.savePayment deployment now choice.uuid
      (payment.linked (providerRefOf (choices 8))) = .ok saved) ↔ _ :=
    savePayment_linked_iff hpayment hnew
  constructor
  · rintro ⟨db, hbody⟩
    cases hsaved : s.db.savePayment deployment now choice.uuid
        (payment.linked (providerRefOf (choices 8))) with
    | error error =>
      rw [hsaved] at hbody
      cases hbody
    | ok saved =>
      rw [hsaved] at hbody
      obtain ⟨hmethod, henvironment, huser, hprovider⟩ := hsave.mp ⟨saved, hsaved⟩
      have hfresh := logAudit_ok_iff.mp ⟨db, hbody⟩
      rw [savePayment_auditLog hsaved] at hfresh
      exact ⟨hmethod, henvironment, huser, hprovider, hfresh⟩
  · intro hstorable
    obtain ⟨saved, hsaved⟩ := hsave.mpr ⟨hstorable.method, hstorable.environment, hstorable.user,
      hstorable.providerReference⟩
    rw [hsaved]
    refine logAudit_ok_iff.mpr ?_
    rw [savePayment_auditLog hsaved]
    exact hstorable.auditId

/-- A payment that can be stored is returned, and otherwise the transaction leaves the payments as
they were. -/
theorem persist_outcome {payment : Payment} {paymentLink : String}
    (hpayment : payment.Initiates cmd (generateReference (choices 5).uuid) (s.instantOf choices 6))
    (hnew : s.db.findByIdempotencyKey cmd.idempotencyKey = .ok none) :
    let run := runCalls deployment choices
      (persist cmd (payment.linked (providerRefOf (choices 8))) paymentLink) 9
      (s.setClock (s.instantOf choices 8))
    (Storable choices s cmd → ∃ initiation, run.value = .ok initiation) ∧
    (¬ Storable choices s cmd →
      (∃ error, run.value = .error error) ∧ run.state.db.payments = s.db.payments) := by
  intro run
  have hrun : run = _ := runCalls_persist
  have hcommits : (∃ db, runBody deployment
      (s.instantOf choices 8 + (choices 9).elapsed + (choices 10).elapsed)
      { choices 10 with fault := none } 0
      (initiateBody cmd (payment.linked (providerRefOf (choices 8))) (choices 9).uuid) s.db =
        .ok db) ↔ Storable choices s cmd := initiateBody_ok_iff hpayment hnew
  simp only [PaymentState.setClock_db, PaymentState.setClock_clock] at hrun
  cases hbody : runBody deployment
      (s.instantOf choices 8 + (choices 9).elapsed + (choices 10).elapsed)
      { choices 10 with fault := none } 0
      (initiateBody cmd (payment.linked (providerRefOf (choices 8))) (choices 9).uuid) s.db with
  | ok db =>
    rw [hbody] at hrun
    rw [hrun]
    exact ⟨fun _ => ⟨_, rfl⟩, fun hunstored => absurd (hcommits.mp ⟨db, hbody⟩) hunstored⟩
  | error error =>
    rw [hbody] at hrun
    rw [hrun]
    refine ⟨fun hstorable => ?_, fun _ => ⟨⟨error, rfl⟩, rfl⟩⟩
    obtain ⟨db, hcommitted⟩ := hcommits.mpr hstorable
    cases hbody.symm.trans hcommitted

/-- A request that the handler accepts gets its initiation. -/
theorem initiatePayment_of_accepts (h : Accepts choices s cmd) :
    ∃ initiation, (runCalls deployment choices (initiatePayment cmd) 0 s).value =
      .ok initiation := by
  rcases h with ⟨payment, hfound⟩ | hcreates
  · have hlookup : PaymentState.storesUp deployment (choices 0)
        (.findByIdempotencyKey cmd.idempotencyKey) s =
          (.ok (some payment), s.setClock (s.instantOf choices 0)) :=
      Prod.ext hfound rfl
    refine ⟨⟨payment.reference, cmd.redirectBaseUrl ++ "/pay/" ++ payment.reference,
      payment.expiresAt⟩, ?_⟩
    refine (congrArg Finished.value (runOn_perform_bind hlookup)).trans ?_
    rfl
  · obtain ⟨payment, hpayment, hrun⟩ := runCalls_of_linked deployment hcreates.new
      hcreates.reviewed hcreates.inTime hcreates.linked
    rw [hrun]
    exact (persist_outcome hpayment hcreates.new).1 hcreates.storable

/-- A request that the handler does not accept raises, and stores no payment. -/
theorem initiatePayment_of_not_accepts (h : ¬ Accepts choices s cmd) :
    let run := runCalls deployment choices (initiatePayment cmd) 0 s
    (∃ error, run.value = .error error) ∧ run.state.db.payments = s.db.payments := by
  intro run
  cases hfound : s.db.findByIdempotencyKey cmd.idempotencyKey with
  | error error =>
    have hlookup : PaymentState.storesUp deployment (choices 0)
        (.findByIdempotencyKey cmd.idempotencyKey) s =
          (.error error, s.setClock (s.instantOf choices 0)) :=
      Prod.ext hfound rfl
    have hrun : run = ⟨.error error, 1, s.setClock (s.instantOf choices 0)⟩ :=
      runOn_perform_bind_error hlookup
    rw [hrun]
    exact ⟨⟨error, rfl⟩, rfl⟩
  | ok found =>
    cases found with
    | some payment => exact absurd (.inl ⟨payment, hfound⟩) h
    | none =>
      by_cases hreviewed : Reviewed s.db cmd (s.instantOf choices 1)
      · by_cases hlate : Late choices s
        · obtain ⟨hvalue, hdb⟩ := initiatePayment_of_late deployment hfound hreviewed hlate
          exact ⟨⟨_, hvalue⟩, congrArg PaymentDb.payments hdb⟩
        · cases hfault : (choices 8).fault with
          | some fault =>
            obtain ⟨hvalue, hdb⟩ :=
              initiatePayment_of_fault deployment hfound hreviewed hlate hfault
            exact ⟨⟨_, hvalue⟩, congrArg PaymentDb.payments hdb⟩
          | none =>
            obtain ⟨payment, hpayment, hrun⟩ :=
              runCalls_of_linked deployment hfound hreviewed hlate hfault
            have hunstored : ¬ Storable choices s cmd := fun hstorable =>
              h (.inr ⟨hfound, hreviewed, hlate, hfault, hstorable⟩)
            have hpersist : run = _ := hrun
            rw [hpersist]
            exact (persist_outcome hpayment hfound).2 hunstored
      · obtain ⟨error, hvalue, -, hpayments⟩ := raises_of_not_reviewed deployment hfound hreviewed
        exact ⟨⟨error, hvalue⟩, hpayments⟩

/-- A request that the chain or the handler refuses raises, and stores no payment. -/
theorem initiateRequest_of_refused
    {framework : Middleware → InitiateRequest → Except PaymentError Unit}
    {request : InitiateRequest}
    (h : ¬ ((∀ middleware ∈ installedMiddleware, middleware.call framework request = .ok ()) ∧
      Accepts choices s request.command)) :
    let run := runCalls deployment choices (initiateRequest framework request) 0 s
    (∃ error, run.value = .error error) ∧ run.state.db.payments = s.db.payments := by
  unfold initiateRequest
  cases hchain : passMiddleware framework request installedMiddleware with
  | error error => exact ⟨⟨error, rfl⟩, rfl⟩
  | ok =>
    exact initiatePayment_of_not_accepts fun haccepts =>
      h ⟨passMiddleware_ok_iff.mp hchain, haccepts⟩

/-- What a step-up protects: a request at or above the threshold is accepted, and a payment is
created for it, only with a step-up. -/
structure StepUpKept (request : InitiateRequest) (s : PaymentState)
    (run : Finished PaymentState (Except PaymentError PaymentInitiation)) : Prop where
  accepted : StepUpPolicy.threshold request.command.amount.currency ≤
      request.command.amount.minorUnits →
    (∃ initiation, run.value = .ok initiation) → request.stepUp = true
  created : StepUpPolicy.threshold request.command.amount.currency ≤
      request.command.amount.minorUnits →
    run.state.db.payments ≠ s.db.payments → request.stepUp = true

/-- A payment at or above the threshold needs a step-up exactly when the request is not accepted
anyway: its amount is below the threshold, its token carries a step-up, or the chain or the
handler refuses it for another reason. -/
theorem step_up_kept_iff (deployment : Deployment) (choices : ℕ → Choice) (s : PaymentState)
    (framework : Middleware → InitiateRequest → Except PaymentError Unit)
    (request : InitiateRequest) :
    StepUpKept request s
        (runCalls deployment choices (initiateRequest framework request) 0 s) ↔
      request.command.amount.minorUnits <
          StepUpPolicy.threshold request.command.amount.currency ∨
        request.stepUp = true ∨
        ¬ ((∀ middleware ∈ installedMiddleware, middleware.call framework request = .ok ()) ∧
          Accepts choices s request.command) := by
  constructor
  · intro hkept
    by_contra hrefused
    obtain ⟨hbelow, hplain, haccepted⟩ := not_or.mp hrefused |>.imp_right not_or.mp
    obtain ⟨hchain, haccepts⟩ := not_not.mp haccepted
    have hrequest : initiateRequest framework request = initiatePayment request.command := by
      unfold initiateRequest
      rw [passMiddleware_ok_iff.mpr hchain]
    have hreturned : ∃ initiation, (runCalls deployment choices
        (initiateRequest framework request) 0 s).value = .ok initiation := by
      rw [hrequest]
      exact initiatePayment_of_accepts haccepts
    obtain ⟨initiation, hvalue⟩ := hreturned
    exact hplain (hkept.accepted (not_lt.mp hbelow) ⟨initiation, hvalue⟩)
  · intro hrefused
    have hsafe : StepUpPolicy.threshold request.command.amount.currency ≤
        request.command.amount.minorUnits → request.stepUp ≠ true →
        let run := runCalls deployment choices (initiateRequest framework request) 0 s
        (∃ error, run.value = .error error) ∧ run.state.db.payments = s.db.payments := by
      intro hreaches hplain run
      rcases hrefused with hbelow | hstepUp | haccepted
      · exact absurd hreaches (not_le.mpr hbelow)
      · exact absurd hstepUp hplain
      · exact initiateRequest_of_refused haccepted
    refine ⟨fun hreaches => ?_, fun hreaches => ?_⟩
    · rintro ⟨initiation, hvalue⟩
      by_contra hplain
      obtain ⟨⟨error, herror⟩, -⟩ := hsafe hreaches hplain
      cases herror.symm.trans hvalue
    · intro hcreated
      by_contra hplain
      exact hcreated (hsafe hreaches hplain).2

/-- A request for 600 dollars whose token carries no step-up. -/
def largeRequest : InitiateRequest where
  encoding := .json
  stepUp := false
  command := { sampleInitiate "large" with amount := ⟨60000, .usd, by decide⟩ }

/-- The same amount as the view hands it on, with the key of a stored payment. -/
def replayedRequest : InitiateRequest where
  encoding := .form
  stepUp := false
  command :=
    { sampleData with hundredths := 60000, maxDigits := by decide }.command 7 "https://app/"
      ⟨60000, .usd, by decide⟩

/-- A state that stores a payment under the key of the view's request. -/
def replayedState : PaymentState := stateWith { pendingRow with idempotencyKey := uuidText 5 }

/-- A payment of 600 dollars is created without a step-up, and the view's request for 600 dollars
is accepted without one when its key is known. -/
theorem large_payment_without_step_up :
    ¬ StepUpKept largeRequest { emptyState with clock := days 2 }
      (runCalls sampleDeployment (fun _ => calm 9)
        (initiateRequest (fun _ _ => .ok ()) largeRequest) 0 { emptyState with clock := days 2 }) ∧
    ¬ StepUpKept replayedRequest replayedState
      (runCalls sampleDeployment (fun _ => calm 9)
        (initiateRequest (fun _ _ => .ok ()) replayedRequest) 0 replayedState) := by
  constructor
  · intro hkept
    have haccepts : Accepts (fun _ => calm 9) { emptyState with clock := days 2 }
        largeRequest.command := by
      refine .inr ⟨rfl, ⟨by decide, by decide, by decide, ⟨_, rfl⟩⟩, ?_, rfl, ?_⟩
      · unfold Late
        decide
      · exact ⟨⟨_, rfl⟩, ⟨_, rfl⟩, rfl, by decide, by decide⟩
    exact absurd (hkept.accepted (by decide) (initiatePayment_of_accepts haccepts)) (by decide)
  · intro hkept
    have haccepts : Accepts (fun _ => calm 9) replayedState replayedRequest.command :=
      .inl ⟨_, rfl⟩
    exact absurd (hkept.accepted (by decide) (initiatePayment_of_accepts haccepts)) (by decide)

end Linkapro.Payments
