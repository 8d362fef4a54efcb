import Linkapro.Payments.Contract

/-!
# Payments: what a call changes

Only a transaction changes the database, and it either applies all of its
statements or leaves the database as it was. The lemmas here say what each
statement and each body does to the tables.
-/

namespace Linkapro.Payments

open Lib

variable {deployment : Deployment} {choice : Choice} {s : PaymentState}

/-- A call that only reads leaves the database as it was. -/
theorem PaymentState.reading_db {α : Type} {answer : Except PaymentError α} :
    (PaymentState.reading choice answer s).2.db = s.db := by
  unfold PaymentState.reading
  cases choice.fault with
  | none => rfl
  | some fault => rfl

/-- A call that only reads and does not raise gives its answer. -/
theorem PaymentState.reading_ok {α : Type} {answer : Except PaymentError α} {value : α}
    (h : (PaymentState.reading choice answer s).1 = .ok value) : answer = .ok value := by
  unfold PaymentState.reading at h
  cases hfault : choice.fault with
  | none =>
    rw [hfault] at h
    exact h
  | some fault =>
    rw [hfault] at h
    cases h

/-- A call outside a transaction that keeps the database keeps it under a fault, too. -/
theorem PaymentState.writing_db {α : Type} {answer : α} {after before : PaymentState}
    (h : after.db = before.db) :
    (PaymentState.writing choice answer after before).2.db = before.db := by
  unfold PaymentState.writing
  cases choice.fault with
  | none => exact h
  | some fault =>
    change (if fault.applied = true then after else before).db = before.db
    split
    · exact h
    · rfl

/-- No call but a transaction changes the database. -/
theorem exec_db_of_not_atomic {op : PaymentOp} (h : ∀ body, op ≠ .atomic body) :
    (PaymentState.exec deployment choice op s).2.db = s.db := by
  cases op with
  | atomic body => exact absurd rfl (h body)
  | acquireLock lockKey ttlSeconds =>
    simp only [PaymentState.exec, PaymentState.effect]
    split
    · exact PaymentState.writing_db rfl
    · exact PaymentState.writing_db rfl
  | incrRetry retryKey =>
    simp only [PaymentState.exec, PaymentState.effect]
    split
    · exact PaymentState.writing_db rfl
    · exact PaymentState.writing_db rfl
  | expireRetry retryKey ttlSeconds =>
    simp only [PaymentState.exec, PaymentState.effect]
    split
    · exact PaymentState.writing_db rfl
    · exact PaymentState.writing_db rfl
  | releaseLock | resetRetry | sendTask => exact PaymentState.writing_db rfl
  | utcNow | uuid4 => rfl
  | _ => exact PaymentState.reading_db

/-- A transaction commits all of its statements, or leaves the database as it was. -/
theorem exec_atomic (deployment : Deployment) (choice : Choice) (s : PaymentState)
    (body : List TxWrite) :
    (∃ db, runBody deployment (s.clock + choice.elapsed) choice 0 body s.db = .ok db ∧
      PaymentState.exec deployment choice (.atomic body) s =
        (.ok (), { s with clock := s.clock + choice.elapsed, db })) ∨
    ∃ error, PaymentState.exec deployment choice (.atomic body) s =
      (.error error, { s with clock := s.clock + choice.elapsed }) := by
  simp only [PaymentState.exec, PaymentState.effect, PaymentState.transaction]
  cases hrun : runBody deployment (s.clock + choice.elapsed) choice 0 body s.db with
  | ok db => exact Or.inl ⟨db, rfl, rfl⟩
  | error error => exact Or.inr ⟨error, rfl⟩

/-- What a committed transaction has run. -/
theorem runBody_of_exec_ok {body : List TxWrite}
    (h : (PaymentState.exec deployment choice (.atomic body) s).1 = .ok ()) :
    runBody deployment (s.clock + choice.elapsed) choice 0 body s.db =
      .ok (PaymentState.exec deployment choice (.atomic body) s).2.db := by
  rcases exec_atomic deployment choice s body with ⟨db, hrun, hexec⟩ | ⟨error, hexec⟩
  · rw [hexec, hrun]
  · rw [hexec] at h
    cases h

/-- The statements of a body that succeeds succeed one after the other. -/
theorem runBody_cons {now : Datetime} {k : ℕ} {write : TxWrite} {body : List TxWrite}
    {db db' : PaymentDb} (h : runBody deployment now choice k (write :: body) db = .ok db') :
    ∃ middle, db.applyWrite deployment now choice.uuid write = .ok middle ∧
      runBody deployment now choice (k + 1) body middle = .ok db' := by
  unfold runBody at h
  cases hfault : choice.fault.filter fun fault => fault.statement = k with
  | some fault =>
    simp only [hfault] at h
    cases h
  | none =>
    simp only [hfault] at h
    cases hwrite : db.applyWrite deployment now choice.uuid write with
    | ok middle =>
      simp only [hwrite] at h
      exact ⟨middle, rfl, h⟩
    | error error =>
      simp only [hwrite] at h
      cases h

/-- An empty body changes nothing. -/
theorem runBody_nil {now : Datetime} {k : ℕ} {db db' : PaymentDb}
    (h : runBody deployment now choice k [] db = .ok db') : db' = db := by
  unfold runBody at h
  cases hfault : choice.fault.filter fun fault => fault.statement = k with
  | some fault =>
    simp only [hfault] at h
    cases h
  | none =>
    simp only [hfault] at h
    exact (Except.ok.inj h).symm

/-- What a committed save has written. -/
theorem PaymentDb.savePayment_ok {now : Datetime} {rowId : UUID} {payment : Payment}
    {db db' : PaymentDb} (h : db.savePayment deployment now rowId payment = .ok db') :
    ∃ method environment, payment.method = .member method ∧
      payment.environment = .member environment ∧
      db' = { db with
        payments := db.payments.upsert (PaymentDb.rowOf deployment now rowId payment method
          environment (db.payments.lookup payment.reference)) } := by
  unfold PaymentDb.savePayment at h
  cases hmethod : payment.method with
  | text value => simp [hmethod] at h
  | member method =>
    cases henvironment : payment.environment with
    | text value => simp [hmethod, henvironment] at h
    | member environment =>
      simp only [hmethod, henvironment] at h
      split at h
      · cases h
      · split at h
        · cases h
        · exact ⟨method, environment, rfl, rfl, (Except.ok.inj h).symm⟩

/-- A statement that saves no payment leaves the payments as they were. -/
theorem PaymentDb.applyWrite_payments {now : Datetime} {rowId : UUID} {write : TxWrite}
    {db db' : PaymentDb} (h : db.applyWrite deployment now rowId write = .ok db')
    (hsaves : savedPayments [write] = []) : db'.payments = db.payments := by
  cases write with
  | saveEvent eventId status payload =>
    cases h
    rfl
  | savePayment payment => cases hsaves
  | logAudit event =>
    simp only [PaymentDb.applyWrite, PaymentDb.logAudit] at h
    split at h
    · cases h
    · cases h
      rfl
  | insertOutbox event =>
    simp only [PaymentDb.applyWrite, PaymentDb.insertOutbox] at h
    split at h
    · cases h
    · cases h
      rfl
  | raising error => cases h

/-- The row of a reference after some payments have been saved: the row before, or
a row with the status of a saved payment of that reference. -/
theorem runBody_payments {now : Datetime} {k : ℕ} {body : List TxWrite} {db db' : PaymentDb}
    (h : runBody deployment now choice k body db = .ok db') (reference : String) :
    (reference ∉ (savedPayments body).map Payment.reference →
      db'.payments.lookup reference = db.payments.lookup reference) ∧
    ∀ payment, savedPayments body = [payment] → payment.reference = reference →
      ∃ method environment row, payment.method = .member method ∧
        payment.environment = .member environment ∧
        row = PaymentDb.rowOf deployment now choice.uuid payment method environment
          (db.payments.lookup payment.reference) ∧
        db'.payments.lookup reference = some row := by
  induction body generalizing k db with
  | nil =>
    rw [runBody_nil h]
    exact ⟨fun _ => rfl, fun payment hsaves => by cases hsaves⟩
  | cons write body ih =>
    obtain ⟨middle, hwrite, hbody⟩ := runBody_cons h
    obtain ⟨ihkeep, ihsave⟩ := ih hbody
    cases write with
    | savePayment payment =>
      obtain ⟨method, environment, hmethod, henvironment, rfl⟩ := PaymentDb.savePayment_ok hwrite
      have hsaves : savedPayments (.savePayment payment :: body) = payment :: savedPayments body :=
        rfl
      constructor
      · intro hmem
        rw [hsaves, List.map_cons, List.mem_cons, not_or] at hmem
        rw [ihkeep hmem.2]
        exact Table.lookup_upsert_of_ne fun heq => hmem.1 heq.symm
      · intro other hother hreference
        rw [hsaves, List.cons.injEq] at hother
        obtain ⟨rfl, hnil⟩ := hother
        refine ⟨method, environment, _, hmethod, henvironment, rfl, ?_⟩
        rw [ihkeep (by rw [hnil]; exact List.not_mem_nil)]
        subst hreference
        exact Table.lookup_upsert_self
    | _ =>
      have hpayments := PaymentDb.applyWrite_payments hwrite rfl
      rw [hpayments] at ihkeep ihsave
      exact ⟨ihkeep, ihsave⟩

/-- A stored row is found under the reference of its payment. -/
theorem stored_of_mem {db : PaymentDb} {row : PaymentRow} (h : row ∈ db.payments.rows) :
    ∃ row', db.payments.lookup row.toDomain.reference = some row' ∧
      row.toDomain = row'.toDomain :=
  ⟨row, Table.lookup_of_mem h, rfl⟩

/-- What `objects.get(…)` finds is a stored payment. -/
theorem PaymentDb.getPayment_sound {db : PaymentDb} {matching : PaymentRow → Bool}
    {payment : Payment} (h : db.getPayment matching = .ok (some payment)) :
    ∃ row, row ∈ db.payments.rows ∧ matching row = true ∧ payment = row.toDomain := by
  unfold PaymentDb.getPayment at h
  split at h
  · cases h
  · next row hfilter =>
    cases h
    have hrow : row ∈ db.payments.rows.filter matching := by
      rw [hfilter]
      exact List.mem_singleton_self row
    exact ⟨row, (List.mem_filter.mp hrow).1, (List.mem_filter.mp hrow).2, rfl⟩
  · cases h

/-- What `find_by_provider_reference` finds is a stored payment with the hash of
the reference. -/
theorem PaymentDb.findByProviderReference_sound {db : PaymentDb} {providerRef : JsonValue}
    {payment : Payment}
    (h : db.findByProviderReference deployment providerRef = .ok (some payment)) :
    ∃ reference row, providerRef = .text reference ∧ row ∈ db.payments.rows ∧
      row.providerReferenceHash = some (deployment.providerHash reference) ∧
      payment = row.toDomain := by
  unfold PaymentDb.findByProviderReference at h
  split at h
  · cases h
  · cases providerRef with
    | other rendering truthy => cases h
    | text reference =>
      obtain ⟨row, hrow, hmatching, rfl⟩ := PaymentDb.getPayment_sound h
      exact ⟨reference, row, rfl, hrow, by simpa using hmatching, rfl⟩

/-- A payment that a call shows is a stored one. -/
theorem reads_sound {op : PaymentOp} {answer : Except PaymentError op.Ret}
    (hanswer : (PaymentState.exec deployment choice op s).1 = answer) {payment : Payment}
    (h : payment ∈ reads ⟨op, answer⟩) :
    ∃ row, s.db.payments.lookup payment.reference = some row ∧ payment = row.toDomain := by
  cases answer with
  | error error => cases op <;> cases h
  | ok answer =>
    cases op with
    | findByReference reference =>
      have hfound := Except.ok.inj (PaymentState.reading_ok hanswer)
      have hmem : answer = some payment := Option.mem_toList.mp h
      obtain ⟨row, hrow, rfl⟩ := Option.map_eq_some_iff.mp (hfound.trans hmem)
      exact stored_of_mem (Table.mem_of_lookup hrow)
    | findByProviderReference providerRef =>
      have hfound := PaymentState.reading_ok hanswer
      have hmem : answer = some payment := Option.mem_toList.mp h
      rw [hmem] at hfound
      obtain ⟨reference, row, _, hrow, _, rfl⟩ := PaymentDb.findByProviderReference_sound hfound
      exact stored_of_mem hrow
    | findByIdempotencyKey key =>
      have hfound := PaymentState.reading_ok hanswer
      have hmem : answer = some payment := Option.mem_toList.mp h
      rw [hmem] at hfound
      obtain ⟨row, hrow, _, rfl⟩ := PaymentDb.getPayment_sound hfound
      exact stored_of_mem hrow
    | findExpiredPending now =>
      have hfound := Except.ok.inj (PaymentState.reading_ok hanswer)
      have hmem : payment ∈ s.db.findExpiredPending now := by
        rw [show s.db.findExpiredPending now = answer from hfound]
        exact h
      obtain ⟨row, hrow, rfl⟩ := List.mem_map.mp hmem
      exact stored_of_mem (List.mem_filter.mp hrow).1
    | _ => cases h

/-- The answers of the stores are possible ones. -/
theorem answers_possible {ι : Type} (calls : ι → PaymentCall) :
    Pool.Answers (PaymentState.exec deployment) fun i => contract (calls i) := by
  intro i choice op s
  cases op with
  | findExpiredPending now =>
    simp only [contract, PaymentState.exec, PaymentState.effect, PaymentState.reading]
    cases choice.fault with
    | some fault => trivial
    | none =>
      have hsub : (s.db.payments.rows.filter fun row =>
          (row.status = .initiated ∨ row.status = .pending) ∧ row.expiresAt < now).Sublist
            s.db.payments.rows := List.filter_sublist
      have hnodup := (hsub.map PaymentRow.reference).nodup s.db.payments.nodup
      simpa [possible, PaymentDb.findExpiredPending, Function.comp_def] using hnodup
  | _ => trivial

/-- The performed calls of a pool with their programs, newest first. -/
abbrev PaymentHistory (ι : Type) : Type := List (ι × PaymentCallRecord)

/-- A pool of calls of the component. -/
abbrev PaymentPool (ι : Type) : Type :=
  Pool ι PaymentState (Raising PaymentError PaymentOp.Ret) (Except PaymentError Unit)

/-- The contracts of the calls of a deployment. -/
abbrev contracts {ι : Type} (calls : ι → PaymentCall) : ι → Contract (Raising PaymentError PaymentOp.Ret) :=
  fun i => contract (calls i)

/-- The final conditions of the calls of a deployment. -/
abbrev locksReleased {ι : Type} : ι → PaymentLog → Except PaymentError Unit → Prop :=
  fun _ log _ => LocksReleased log

/-- The calls of a deployment follow their contracts from the start. -/
theorem disciplined_startCalls {ι : Type} [DecidableEq ι] {calls : ι → PaymentCall} {s : PaymentState} :
    Pool.Disciplined (contracts calls) locksReleased (startCalls s calls) :=
  fun i => followsContract (calls i)

/-- One call on its own, up to the last of the choices. -/
def runCall (deployment : Deployment) (s : PaymentState) (call : PaymentCall)
    (choices : List Choice) : PaymentPool Unit :=
  (startCalls s fun _ => call).run (PaymentState.exec deployment)
    (choices.map fun choice => ((), choice))

/-- Calls that run one after the other, each as far as its choices reach. -/
def sequentialRun (deployment : Deployment) (s : PaymentState)
    (calls : List (PaymentCall × List Choice)) : PaymentState :=
  calls.foldl (fun s call => (runCall deployment s call.1 call.2).state) s

/-- The run rule for one call on its own. -/
theorem runCall_keeps {deployment : Deployment} {s : PaymentState} {call : PaymentCall}
    {choices : List Choice} {I : PaymentPool Unit → Prop}
    (h : Pool.Keeps (PaymentState.exec deployment) (contracts fun _ : Unit => call) locksReleased
      (fun _ _ => True) I)
    (hstart : I (startCalls s fun _ => call)) :
    Pool.Disciplined (contracts fun _ : Unit => call) locksReleased
      (runCall deployment s call choices) ∧ I (runCall deployment s call choices) :=
  h.run (answers_possible _) disciplined_startCalls hstart
    (Pool.always_of_forall fun _ _ => trivial)

/-- Every turn of every call satisfies a condition, in calls that run one after the other. -/
def AlwaysAlone (deployment : Deployment) (P : PaymentPool Unit → Unit × Choice → Prop) :
    PaymentState → List (PaymentCall × List Choice) → Prop
  | _, [] => True
  | s, call :: calls =>
    Pool.Always (PaymentState.exec deployment) P (startCalls s fun _ => call.1)
      (call.2.map fun choice => ((), choice)) ∧
    AlwaysAlone deployment P (runCall deployment s call.1 call.2).state calls

instance AlwaysAlone.decidable (deployment : Deployment)
    (P : PaymentPool Unit → Unit × Choice → Prop) [∀ pool turn, Decidable (P pool turn)] :
    ∀ (s : PaymentState) (calls : List (PaymentCall × List Choice)),
      Decidable (AlwaysAlone deployment P s calls)
  | _, [] => isTrue trivial
  | s, call :: calls =>
    have := AlwaysAlone.decidable deployment P (runCall deployment s call.1 call.2).state calls
    inferInstanceAs (Decidable (Pool.Always (PaymentState.exec deployment) P
      (startCalls s fun _ => call.1) (call.2.map fun choice => ((), choice)) ∧
      AlwaysAlone deployment P (runCall deployment s call.1 call.2).state calls))

/-- The run rule for calls that run one after the other. -/
theorem AlwaysAlone.keeps {deployment : Deployment} {P : PaymentPool Unit → Unit × Choice → Prop}
    {J : PaymentState → Prop}
    (h : ∀ s call choices, J s → Pool.Always (PaymentState.exec deployment) P
      (startCalls s fun _ => call) (choices.map fun choice => ((), choice)) →
        J (runCall deployment s call choices).state)
    {s : PaymentState} {calls : List (PaymentCall × List Choice)} (hs : J s)
    (hcalls : AlwaysAlone deployment P s calls) : J (sequentialRun deployment s calls) := by
  induction calls generalizing s with
  | nil => exact hs
  | cons call calls ih => exact ih (h s call.1 call.2 hs hcalls.1) hcalls.2

/-- A deployment for concrete runs. -/
def sampleDeployment : Deployment := { paymentEnv := "test", providerHash := id }

/-- A pending payment for concrete runs, open until minute 30. -/
def pendingRow : PaymentRow where
  id := 1
  userId := 7
  amount := ⟨1000, .rwf, Money.thousand_inRange⟩
  method := .card
  status := .pending
  reference := "pay_1"
  idempotencyKey := "key_1"
  providerReference := some "flw_1"
  providerReferenceHash := some "flw_1"
  contextReference := none
  metadata := ⟨[], Metadata.atMostTen_nil, Metadata.primitive_nil⟩
  environment := .test
  createdAt := 0
  expiresAt := minutes 30

/-- A state that stores the given payment and nothing else. -/
def stateWith (row : PaymentRow) : PaymentState where
  db :=
    { payments := Table.empty.upsert row
      events := Table.empty
      auditLog := []
      outbox := Table.empty
      users := fun _ => some 0 }
  locks := fun _ => none
  retries := fun _ => none
  queue := []
  clock := 0

/-- A call without a fault; the provider confirms 1000 RWF. -/
def calm (uuid : UUID) : Choice where
  elapsed := 1
  fault := none
  uuid := uuid
  verification := some ("successful", 1000, "RWF")
  paymentLink := "https://pay"

/-- A webhook for the pending payment at the last instant before it expires. -/
def sampleWebhook : ProcessWebhookCommand where
  eventId := "evt_1"
  payload := ⟨.dict (some (.text "flw_1"))⟩
  now := minutes 30

/-- The webhook of the pending payment, and nothing else. -/
def soleWebhook : Unit → PaymentCall := fun _ => .processWebhook sampleWebhook

/-- The turns of a webhook that runs to its end. -/
def webhookTurns : List (Unit × Choice) := (List.range 12).map fun k => ((), calm k)

end Linkapro.Payments
