import Linkapro.Payments.Amounts
import Linkapro.Payments.VelocityStage

/-!
# Payments: the view that initiates a payment

The view hands the validated request to the handler and answers two of its errors. The
serializer gives plain text for the method and the environment, which the repository does
not store, so that no request is answered with a new payment.
-/

namespace Linkapro.Payments

open Lib Lib.Action

/-- The stored text of a method. -/
def PaymentMethod.value : PaymentMethod → String
  | .card => "card"
  | .mobileMoney => "mobile_money"
  | .bankTransfer => "bank_transfer"

/-- The validated data of `InitiatePaymentSerializer`. -/
structure InitiatePaymentData where
  /-- The amount, in hundredths. -/
  hundredths : ℤ
  /-- `max_digits=12, decimal_places=2`. -/
  maxDigits : |hundredths| < 10 ^ 12
  currency : Currency
  method : PaymentMethod
  idempotencyKey : UUID
  customerEmail : String
  customerName : Option String
  contextReference : Option String
  metadata : MetadataArg
  environment : PaymentEnv

/-- `Money.from_decimal` of an amount in hundredths. -/
def Money.fromDecimal (hundredths : ℤ) (currency : Currency) : Except PaymentError Money :=
  let minor := (hundredths * 10 ^ currency.decimals).tdiv 100
  if hmin : currency.minMinor ≤ minor then
    if hmax : minor ≤ currency.maxMinor then .ok ⟨minor, currency, hmin, hmax⟩
    else
      .error (.valueError
        ("Amount " ++ toString minor ++ " exceeds maximum " ++ toString currency.maxMinor))
  else
    .error (.valueError
      ("Amount " ++ toString minor ++ " below minimum " ++ toString currency.minMinor))

/-- The command that the view builds. -/
def InitiatePaymentData.command (data : InitiatePaymentData) (userId : UUID) (baseUrl : String)
    (amount : Money) : InitiatePaymentCommand where
  userId := userId
  amount := amount
  method := .text data.method.value
  idempotencyKey := uuidText data.idempotencyKey
  redirectBaseUrl := baseUrl
  customerEmail := data.customerEmail
  customerName := data.customerName
  contextReference := data.contextReference
  metadata := data.metadata
  environment := .text data.environment.value

/-- The response of the view. -/
inductive PostResponse : Type where
  /-- Status 201. -/
  | created (initiation : PaymentInitiation)
  /-- An error with its status and text. -/
  | error (status : ℕ) (text : String)

/-- The `except` clauses of the view. -/
def exceptClauses : PaymentError → Handler PostResponse
  | .providerGateway message => pure (.error 502 message)
  | .paymentNotAllowed reason => pure (.error 400 reason)
  | error => throw error

/-- `InitiatePaymentView.post` after the serializer. -/
def initiatePaymentView (userId : UUID) (baseUrl : String) (data : InitiatePaymentData) :
    Handler PostResponse :=
  match Money.fromDecimal data.hundredths data.currency with
  | .error error => throw error
  | .ok amount =>
    attempt (do
      let initiation ← initiatePayment (data.command userId baseUrl amount)
      pure (.created initiation)) exceptClauses

/-- No `except` clause of the view catches the error. -/
def PaymentError.Escapes (error : PaymentError) : Prop := exceptClauses error = throw error

variable {deployment : Deployment} {choices : ℕ → Choice} {cmd : InitiatePaymentCommand}
  {s : PaymentState} {k : ℕ}

/-- A payment is built from metadata that can be stored. -/
theorem Payment.create_metadata {id : UUID} {reference : String} {createdAt : Datetime}
    {payment : Payment} (h : Payment.create cmd id reference createdAt = .ok payment) :
    ∃ metadata, Metadata.validate cmd.metadata = .ok metadata := by
  unfold Payment.create at h
  split at h
  · cases h
  · next metadata hmetadata => exact ⟨metadata, hmetadata⟩

/-- The checks of the handler that come before the payment is built have passed without a flag,
and the metadata can be stored. -/
structure Reviewed (db : PaymentDb) (cmd : InitiatePaymentCommand) (now : Datetime) : Prop where
  allowed : (VelocityPolicy.apply (db.getVelocityContext cmd.userId now)).allowed = true
  unflagged : (VelocityPolicy.apply (db.getVelocityContext cmd.userId now)).flag = false
  patterns : fraudPatterns db cmd now = []
  metadata : ∃ metadata, Metadata.validate cmd.metadata = .ok metadata

/-- An audit entry leaves the payments as they are. -/
theorem PaymentDb.logAudit_payments {now : Datetime} {event : AuditEvent}
    {db logged : PaymentDb} (h : db.logAudit now event = .ok logged) :
    logged.payments = db.payments := by
  unfold PaymentDb.logAudit at h
  split at h
  · cases h
  · cases h
    rfl

/-- An audit entry is refused for its identifier. -/
theorem PaymentDb.logAudit_error {now : Datetime} {event : AuditEvent} {db : PaymentDb}
    {error : PaymentError} (h : db.logAudit now event = .error error) :
    ∃ message, error = .integrityError message := by
  unfold PaymentDb.logAudit at h
  split at h
  · cases h
    exact ⟨_, rfl⟩
  · cases h

/-- The run has ended with an error that no clause of the view catches, and without a new row. -/
def RaisesBare (payments : Table PaymentRow.reference)
    (run : Finished PaymentState (Except PaymentError PaymentInitiation)) : Prop :=
  ∃ error, run.value = .error error ∧ error.Escapes ∧ run.state.db.payments = payments

/-- The entry of a refusal raises, whether it can be written or not. -/
theorem velocityBlock_raises {entry : UUID → AuditEvent} :
    RaisesBare s.db.payments (runCalls deployment choices (do
      let id ← ask .uuid4
      ask (.atomic [.logAudit (entry id)])
      throw velocityRefusal : Handler PaymentInitiation) k s) := by
  rw [runCalls_logAndThrow]
  split
  · next logged hlog => exact ⟨_, rfl, rfl, PaymentDb.logAudit_payments hlog⟩
  · next error hlog =>
    obtain ⟨message, rfl⟩ := PaymentDb.logAudit_error hlog
    exact ⟨_, rfl, rfl, rfl⟩

variable (deployment) in
/-- A request that has not been reviewed raises an error that escapes. -/
theorem raises_of_not_reviewed (hnew : s.db.findByIdempotencyKey cmd.idempotencyKey = .ok none)
    (h : ¬ Reviewed s.db cmd (s.instantOf choices 1)) :
    RaisesBare s.db.payments (runCalls deployment choices (initiatePayment cmd) 0 s) := by
  rw [runCalls_initiatePayment deployment choices hnew]
  split
  · exact velocityBlock_raises (s := s.setClock (s.instantOf choices 2))
  · next hallowed =>
    split
    · exact ⟨_, rfl, rfl, rfl⟩
    · next hflag =>
      rw [runCalls_fraudStage (PaymentState.setClock_db)]
      split
      · exact ⟨_, rfl, rfl, rfl⟩
      · next hpatterns =>
        split
        · next error hcreate =>
          obtain ⟨message, rfl⟩ := Payment.create_error hcreate
          exact ⟨_, rfl, rfl, rfl⟩
        · next payment hcreate =>
          refine absurd ⟨?_, ?_, not_not.mp hpatterns, ?_⟩ h
          · exact Bool.eq_true_of_not_eq_false hallowed
          · exact Bool.eq_false_of_not_eq_true hflag
          · exact Payment.create_metadata hcreate

/-- The payment that a command initiates. -/
structure Payment.Initiates (payment : Payment) (cmd : InitiatePaymentCommand)
    (reference : String) (createdAt : Datetime) : Prop where
  status : payment.status = .initiated
  method : payment.method = cmd.method
  environment : payment.environment = cmd.environment
  userId : payment.userId = cmd.userId
  reference : payment.reference = reference
  idempotencyKey : payment.idempotencyKey = cmd.idempotencyKey
  expiresAt : payment.expiresAt = createdAt + minutes 30

/-- A payment with metadata that can be stored. -/
theorem Payment.create_of_metadata {metadata : Metadata}
    (h : Metadata.validate cmd.metadata = .ok metadata) (id : UUID) (reference : String)
    (createdAt : Datetime) :
    ∃ payment, Payment.create cmd id reference createdAt = .ok payment ∧
      payment.Initiates cmd reference createdAt := by
  unfold Payment.create
  rw [h]
  exact ⟨_, rfl, ⟨rfl, rfl, rfl, rfl, rfl, rfl, rfl⟩⟩

variable (deployment) in
/-- A reviewed request comes to the policy with a payment of its own. -/
theorem runCalls_of_reviewed (hnew : s.db.findByIdempotencyKey cmd.idempotencyKey = .ok none)
    (h : Reviewed s.db cmd (s.instantOf choices 1)) :
    ∃ payment : Payment,
      payment.Initiates cmd (generateReference (choices 5).uuid) (s.instantOf choices 6) ∧
      runCalls deployment choices (initiatePayment cmd) 0 s =
        runCalls deployment choices (linkAndPersist cmd payment) 7
          (s.setClock (s.instantOf choices 6)) := by
  obtain ⟨metadata, hmetadata⟩ := h.metadata
  obtain ⟨payment, hcreate, hpayment⟩ := Payment.create_of_metadata hmetadata
    (choices 4).uuid (generateReference (choices 5).uuid) (s.instantOf choices 6)
  refine ⟨payment, hpayment, ?_⟩
  rw [runCalls_initiatePayment deployment choices hnew, if_neg (by simp [h.allowed]),
    if_neg (by simp [h.unflagged]), runCalls_fraudStage PaymentState.setClock_db,
    if_neg (not_not.mpr h.patterns)]
  split
  · next error herror => cases hcreate.symm.trans herror
  · next created hcreated =>
    cases hcreate.symm.trans hcreated
    rfl

/-- Half an hour has passed between the payment and its policy. -/
def Late (choices : ℕ → Choice) (s : PaymentState) : Prop :=
  s.instantOf choices 6 + minutes 30 < s.instantOf choices 7

/-- The payment of a run has expired at its policy exactly when the run is late. -/
theorem Payment.Initiates.isExpired_iff {payment : Payment} {reference : String}
    (h : payment.Initiates cmd reference (s.instantOf choices 6)) :
    payment.isExpired (s.instantOf choices 7) ↔ Late choices s := by
  unfold Payment.isExpired Late
  rw [h.expiresAt]

variable (deployment) in
/-- A reviewed request that is late is not allowed any more. -/
theorem initiatePayment_of_late (hnew : s.db.findByIdempotencyKey cmd.idempotencyKey = .ok none)
    (h : Reviewed s.db cmd (s.instantOf choices 1)) (hlate : Late choices s) :
    let run := runCalls deployment choices (initiatePayment cmd) 0 s
    run.value = .error (.paymentNotAllowed "Payment has expired") ∧ run.state.db = s.db := by
  obtain ⟨payment, hpayment, hrun⟩ := runCalls_of_reviewed deployment hnew h
  intro run
  have hexpired := hpayment.isExpired_iff.mpr hlate
  have hpolicy := hrun.trans ((runCalls_linkAndPersist hpayment.status).trans (if_pos hexpired))
  change (runCalls deployment choices (initiatePayment cmd) 0 s).value = _ ∧
    (runCalls deployment choices (initiatePayment cmd) 0 s).state.db = _
  rw [hpolicy]
  exact ⟨rfl, rfl⟩

variable (deployment) in
/-- A reviewed request ends with the error of the provider, if it raises one. -/
theorem initiatePayment_of_fault (hnew : s.db.findByIdempotencyKey cmd.idempotencyKey = .ok none)
    (h : Reviewed s.db cmd (s.instantOf choices 1)) (hlate : ¬ Late choices s) {fault : Fault}
    (hfault : (choices 8).fault = some fault) :
    let run := runCalls deployment choices (initiatePayment cmd) 0 s
    run.value = .error (.providerGateway
      ("Failed to create payment link: " ++ fault.error.message)) ∧ run.state.db = s.db := by
  obtain ⟨payment, hpayment, hrun⟩ := runCalls_of_reviewed deployment hnew h
  intro run
  have hexpired := hpayment.isExpired_iff.not.mpr hlate
  have hpolicy := hrun.trans ((runCalls_linkAndPersist hpayment.status).trans (if_neg hexpired))
  simp only [hfault] at hpolicy
  change (runCalls deployment choices (initiatePayment cmd) 0 s).value = _ ∧
    (runCalls deployment choices (initiatePayment cmd) 0 s).state.db = _
  rw [hpolicy]
  exact ⟨rfl, rfl⟩

/-- A payment that has its link. -/
def Payment.linked (payment : Payment) (providerRef : String) : Payment :=
  { payment with providerReference := some providerRef, status := .pending }

variable (deployment) in
/-- A reviewed request with a link comes to the transaction of its payment. -/
theorem runCalls_of_linked (hnew : s.db.findByIdempotencyKey cmd.idempotencyKey = .ok none)
    (h : Reviewed s.db cmd (s.instantOf choices 1)) (hlate : ¬ Late choices s)
    (hlink : (choices 8).fault = none) :
    ∃ payment : Payment,
      payment.Initiates cmd (generateReference (choices 5).uuid) (s.instantOf choices 6) ∧
      runCalls deployment choices (initiatePayment cmd) 0 s =
        runCalls deployment choices
          (persist cmd (payment.linked (providerRefOf (choices 8))) (choices 8).paymentLink) 9
          (s.setClock (s.instantOf choices 8)) := by
  obtain ⟨payment, hpayment, hrun⟩ := runCalls_of_reviewed deployment hnew h
  refine ⟨payment, hpayment, ?_⟩
  have hexpired := hpayment.isExpired_iff.not.mpr hlate
  have hpolicy := hrun.trans ((runCalls_linkAndPersist hpayment.status).trans (if_neg hexpired))
  simp only [hlink] at hpolicy
  exact hpolicy

/-- A reviewed request whose method is plain text raises when its payment is saved. -/
theorem initiatePayment_of_text (hnew : s.db.findByIdempotencyKey cmd.idempotencyKey = .ok none)
    (h : Reviewed s.db cmd (s.instantOf choices 1)) (hlate : ¬ Late choices s)
    (hlink : (choices 8).fault = none) {text : String} (htext : cmd.method = .text text) :
    (runCalls deployment choices (initiatePayment cmd) 0 s).value =
      .error (.attributeError "'str' object has no attribute 'value'") := by
  obtain ⟨payment, hpayment, hrun⟩ := runCalls_of_linked deployment hnew h hlate hlink
  have hmethod : (payment.linked (providerRefOf (choices 8))).method = .text text :=
    hpayment.method.trans htext
  rw [hrun, runCalls_persist, runBody_initiateBody]
  have hsave (now : Datetime) (rowId : UUID) (db : PaymentDb) :
      db.savePayment deployment now rowId (payment.linked (providerRefOf (choices 8))) =
        .error (.attributeError "'str' object has no attribute 'value'") := by
    unfold PaymentDb.savePayment
    rw [hmethod]
  simp only [hsave]
  rfl

variable {userId : UUID} {baseUrl : String} {data : InitiatePaymentData} {amount : Money}

/-- The view answers an error of the handler as its `except` clauses say. -/
theorem runCalls_view_of_error
    (hamount : Money.fromDecimal data.hundredths data.currency = .ok amount)
    {error : PaymentError}
    (h : (runCalls deployment choices (initiatePayment (data.command userId baseUrl amount)) 0
      s).value = .error error) :
    let first := runCalls deployment choices
      (initiatePayment (data.command userId baseUrl amount)) 0 s
    runCalls deployment choices (initiatePaymentView userId baseUrl data) 0 s =
      runCalls deployment choices (exceptClauses error) first.calls first.state := by
  intro first
  have hview : initiatePaymentView userId baseUrl data =
      attempt (do
        let initiation ← initiatePayment (data.command userId baseUrl amount)
        pure (.created initiation)) exceptClauses := by
    unfold initiatePaymentView
    rw [hamount]
  have hbody : runCalls deployment choices (do
      let initiation ← initiatePayment (data.command userId baseUrl amount)
      pure (PostResponse.created initiation)) 0 s = ⟨.error error, first.calls, first.state⟩ := by
    refine runOn_bind.trans ?_
    simp only [h]
    rfl
  rw [hview]
  refine runOn_attempt.trans ?_
  simp only [show Action.runOn _ _ _ _ _ = _ from hbody]

/-- The view raises what escapes it. -/
theorem view_raises_of_escapes
    (hamount : Money.fromDecimal data.hundredths data.currency = .ok amount)
    {error : PaymentError}
    (h : (runCalls deployment choices (initiatePayment (data.command userId baseUrl amount)) 0
      s).value = .error error) (hescapes : error.Escapes) :
    (runCalls deployment choices (initiatePaymentView userId baseUrl data) 0 s).value =
      .error error := by
  rw [runCalls_view_of_error hamount h, hescapes]
  rfl

/-- The amount of the request is admitted, all checks pass and the provider returns a link. -/
def Payable (choices : ℕ → Choice) (s : PaymentState) (userId : UUID) (baseUrl : String)
    (data : InitiatePaymentData) : Prop :=
  ∃ amount, Money.fromDecimal data.hundredths data.currency = .ok amount ∧
    let cmd := data.command userId baseUrl amount
    let now := s.instantOf choices 1
    (VelocityPolicy.apply (s.db.getVelocityContext userId now)).allowed = true ∧
      fraudPatterns s.db cmd now = [] ∧
      (∃ metadata, Metadata.validate data.metadata = .ok metadata) ∧
      ¬ Late choices s ∧ (choices 8).fault = none

/-- What the view promises: a payable request is answered with 201 and its pending payment is
stored, any other request with an error status and without a new row. -/
structure Answers (deployment : Deployment) (choices : ℕ → Choice) (s : PaymentState)
    (userId : UUID) (baseUrl : String) (data : InitiatePaymentData) : Prop where
  created : Payable choices s userId baseUrl data →
    let run := runCalls deployment choices (initiatePaymentView userId baseUrl data) 0 s
    ∃ initiation, run.value = .ok (.created initiation) ∧
      ∃ row ∈ run.state.db.payments.rows, row.idempotencyKey = uuidText data.idempotencyKey ∧
        row.status = .pending ∧ row.method = data.method ∧ row.environment = data.environment
  refused : ¬ Payable choices s userId baseUrl data →
    let run := runCalls deployment choices (initiatePaymentView userId baseUrl data) 0 s
    ∃ status text, run.value = .ok (.error status text) ∧
      (400 ≤ status ∧ status < 500 ∨ status = 502) ∧ run.state.db.payments = s.db.payments

/-- The requests that the view answers: they pass every check without a flag, and then the policy
refuses them or the provider fails. -/
def RefusedLate (choices : ℕ → Choice) (s : PaymentState) (userId : UUID) (baseUrl : String)
    (data : InitiatePaymentData) : Prop :=
  ∃ amount, Money.fromDecimal data.hundredths data.currency = .ok amount ∧
    Reviewed s.db (data.command userId baseUrl amount) (s.instantOf choices 1) ∧
    (Late choices s ∨ (choices 8).fault.isSome)

variable (deployment) in
/-- A request that passes every check raises when the provider returns a link, or before. -/
theorem view_raises (hnew : s.db.findByIdempotencyKey (uuidText data.idempotencyKey) = .ok none)
    (h : ¬ RefusedLate choices s userId baseUrl data) :
    ∃ error, (runCalls deployment choices (initiatePaymentView userId baseUrl data) 0 s).value =
      .error error := by
  cases hamount : Money.fromDecimal data.hundredths data.currency with
  | error error =>
    have hview : initiatePaymentView userId baseUrl data = throw error := by
      unfold initiatePaymentView
      rw [hamount]
    rw [hview]
    exact ⟨error, rfl⟩
  | ok amount =>
    have hkey : s.db.findByIdempotencyKey (data.command userId baseUrl amount).idempotencyKey =
        .ok none := hnew
    by_cases hreviewed : Reviewed s.db (data.command userId baseUrl amount)
        (s.instantOf choices 1)
    · have hlate : ¬ Late choices s := fun hlate => h ⟨amount, hamount, hreviewed, .inl hlate⟩
      have hlink : (choices 8).fault = none := by
        by_contra hfault
        exact h ⟨amount, hamount, hreviewed, .inr (Option.isSome_iff_ne_none.mpr hfault)⟩
      exact ⟨_, view_raises_of_escapes hamount
        (initiatePayment_of_text hkey hreviewed hlate hlink rfl) rfl⟩
    · obtain ⟨error, herror, hescapes, -⟩ := raises_of_not_reviewed deployment hkey hreviewed
      exact ⟨error, view_raises_of_escapes hamount herror hescapes⟩

/-- A request that is refused late is answered without a new row. -/
theorem view_answers_of_refusedLate
    (hnew : s.db.findByIdempotencyKey (uuidText data.idempotencyKey) = .ok none)
    (h : RefusedLate choices s userId baseUrl data) :
    let run := runCalls deployment choices (initiatePaymentView userId baseUrl data) 0 s
    ∃ status text, run.value = .ok (.error status text) ∧
      (400 ≤ status ∧ status < 500 ∨ status = 502) ∧ run.state.db.payments = s.db.payments := by
  obtain ⟨amount, hamount, hreviewed, hrefused⟩ := h
  have hkey : s.db.findByIdempotencyKey (data.command userId baseUrl amount).idempotencyKey =
      .ok none := hnew
  intro run
  by_cases hlate : Late choices s
  · obtain ⟨hvalue, hdb⟩ := initiatePayment_of_late deployment hkey hreviewed hlate
    refine ⟨400, "Payment has expired", ?_, .inl ⟨by decide, by decide⟩, ?_⟩
    · exact congrArg Finished.value (runCalls_view_of_error hamount hvalue)
    · have hrun : run = _ := runCalls_view_of_error hamount hvalue
      rw [hrun]
      exact congrArg PaymentDb.payments hdb
  · obtain ⟨fault, hfault⟩ := Option.isSome_iff_exists.mp (hrefused.resolve_left hlate)
    obtain ⟨hvalue, hdb⟩ := initiatePayment_of_fault deployment hkey hreviewed hlate hfault
    refine ⟨502, _, congrArg Finished.value (runCalls_view_of_error hamount hvalue), .inr rfl, ?_⟩
    have hrun : run = _ := runCalls_view_of_error hamount hvalue
    rw [hrun]
    exact congrArg PaymentDb.payments hdb

/-- The view keeps its promises for a new request exactly when the request passes every check
without a flag and is then refused by the policy or by the provider. -/
theorem post_answers_iff (deployment : Deployment) (choices : ℕ → Choice) (s : PaymentState)
    (userId : UUID) (baseUrl : String) (data : InitiatePaymentData)
    (hnew : s.db.findByIdempotencyKey (uuidText data.idempotencyKey) = .ok none) :
    Answers deployment choices s userId baseUrl data ↔
      RefusedLate choices s userId baseUrl data := by
  constructor
  · intro hanswers
    by_contra hrefused
    obtain ⟨error, hraised⟩ := view_raises deployment hnew hrefused
    by_cases hpayable : Payable choices s userId baseUrl data
    · obtain ⟨initiation, hvalue, -⟩ := hanswers.created hpayable
      cases hraised.symm.trans hvalue
    · obtain ⟨status, text, hvalue, -⟩ := hanswers.refused hpayable
      cases hraised.symm.trans hvalue
  · intro hrefused
    have hunpayable : ¬ Payable choices s userId baseUrl data := by
      rintro ⟨amount, hamount, -, -, -, hlate, hlink⟩
      obtain ⟨-, -, -, hlate' | hfault⟩ := hrefused
      · exact hlate hlate'
      · rw [hlink] at hfault
        cases hfault
    exact ⟨fun hpayable => absurd hpayable hunpayable,
      fun _ => view_answers_of_refusedLate hnew hrefused⟩

/-- A request for 10 dollars by card. -/
def sampleData : InitiatePaymentData where
  hundredths := 1000
  maxDigits := by decide
  currency := .usd
  method := .card
  idempotencyKey := 5
  customerEmail := "user@example.com"
  customerName := none
  contextReference := none
  metadata := .none
  environment := .test

/-- A call that the provider fails. -/
def unreachable (uuid : UUID) : Choice :=
  { calm uuid with fault := some ⟨.infrastructure "timeout", 0, false⟩ }

/-- The view answers the request of the sample when the provider fails. -/
theorem post_answers_iff_sample :
    Answers sampleDeployment (fun _ => unreachable 9) emptyState 7 "https://app/" sampleData :=
  (post_answers_iff sampleDeployment (fun _ => unreachable 9) emptyState 7 "https://app/" sampleData
    rfl).mpr
    ⟨⟨1000, .usd, by decide⟩, rfl, ⟨by decide, by decide, by decide, _, rfl⟩, .inr rfl⟩

/-- The request raises when the provider returns a link. -/
theorem linked_request_raises :
    ¬ ∀ (deployment : Deployment) (choices : ℕ → Choice) (s : PaymentState) (userId : UUID)
      (baseUrl : String) (data : InitiatePaymentData),
      s.db.findByIdempotencyKey (uuidText data.idempotencyKey) = .ok none →
      Answers deployment choices s userId baseUrl data := by
  intro h
  have hrefused : ¬ RefusedLate (fun _ => calm 9) emptyState 7 "https://app/" sampleData := by
    rintro ⟨-, -, -, hlate | hfault⟩
    · exact absurd hlate (by unfold Late; decide)
    · cases hfault
  obtain ⟨error, hraised⟩ := view_raises sampleDeployment rfl hrefused
  obtain ⟨initiation, hvalue, -⟩ := (h sampleDeployment (fun _ => calm 9) emptyState 7
    "https://app/" sampleData rfl).created
      ⟨⟨1000, .usd, by decide⟩, rfl, by decide, by decide, ⟨_, rfl⟩, by unfold Late; decide, rfl⟩
  cases hraised.symm.trans hvalue

end Linkapro.Payments
