import Mathlib.Data.List.Infix
import Linkapro.Payments.PaymentLinks

/-!
# Payments: repeated initiations

An initiation whose idempotency key is in use answers from the stored payment. The
reference and the expiry are stored, but the link of the provider is not: the answer
rebuilds one from the address of the application. The key is looked up among the
payments of all users.
-/

namespace Linkapro.Payments

open Lib Lib.Action

deriving instance DecidableEq for PaymentInitiation

/-- The program of a call, with the answer of an initiation. -/
def PaymentCall.answer (dispatcher : EventDispatcher) : PaymentCall →
    Handler (Option PaymentInitiation)
  | .initiatePayment cmd => do
    let initiation ← Payments.initiatePayment cmd
    pure (some initiation)
  | call => do
    call.handler dispatcher
    pure none

/-- A pool of calls with their answers. -/
abbrev AnswerPool (ι : Type) : Type := CallPool ι (Except PaymentError (Option PaymentInitiation))

/-- The calls of a deployment with their answers, all started on one state. -/
def startAnswers {ι : Type} (state : PaymentState) (calls : ι → PaymentCall) : AnswerPool ι :=
  Pool.start state fun i => ((calls i).answer djangoPaymentEventOutboxDispatcher).run

/-- The answer of an initiation that has ended. -/
def answerOf {ι : Type} (pool : AnswerPool ι) (i : ι) : Option PaymentInitiation :=
  match pool.rest i with
  | .done (.ok answer) => answer
  | _ => none

/-- What holds of a call with its answer in the end. -/
def AnswerEnded (call : PaymentCall) (log : PaymentLog)
    (outcome : Except PaymentError (Option PaymentInitiation)) : Prop :=
  ∀ cmd, call = .initiatePayment cmd → ∃ result, Ended cmd log result ∧ outcome = result.map some

/-- Every call with its answer follows the contracts. -/
theorem answer_follows (call : PaymentCall) :
    (call.answer djangoPaymentEventOutboxDispatcher).Follows (saveContract call) []
      (AnswerEnded call) := by
  have hother (hcall : ∀ cmd, call ≠ .initiatePayment cmd) :
      Follows (saveContract call) [] (do
        call.handler djangoPaymentEventOutboxDispatcher
        pure none) (AnswerEnded call) := by
    refine Follows.bind (followsSaveContract call) (fun _ _ _ cmd heq => ?_) fun _ _ _ cmd heq => ?_
    · exact absurd heq (hcall cmd)
    · exact absurd heq (hcall cmd)
  cases call with
  | initiatePayment cmd =>
    have hboth : (initiatePayment cmd).Follows (saveContract (.initiatePayment cmd)) []
        fun log outcome => LocksReleased log ∧ Ended cmd log outcome :=
      Program.Follows.both (initiatePayment_follows cmd) (initiatePayment_ends cmd)
    refine Follows.bind hboth (fun _ _ h cmd' heq => ?_) fun _ _ h cmd' heq => ?_
    · cases heq
      exact ⟨_, h.2, rfl⟩
    · cases heq
      exact ⟨_, h.2, rfl⟩
  | processWebhook cmd => exact hother fun _ heq => by cases heq
  | processWebhookRetry providerReference retries => exact hother fun _ heq => by cases heq
  | expireStalePayments cmd => exact hother fun _ heq => by cases heq
  | requestRefund cmd => exact hother fun _ heq => by cases heq

variable {ι α : Type} [DecidableEq ι] {deployment : Deployment} {choice : Choice}
  {calls : ι → PaymentCall} {pool : CallPool ι α}

/-- Initiations with one key are of one user. -/
def AgreeOnUser : PaymentCall → PaymentCall → Prop
  | .initiatePayment cmd, .initiatePayment cmd' =>
    cmd.idempotencyKey = cmd'.idempotencyKey → cmd.userId = cmd'.userId
  | _, _ => True

instance (call call' : PaymentCall) : Decidable (AgreeOnUser call call') := by
  unfold AgreeOnUser
  split <;> infer_instance

theorem AgreeOnUser.refl (call : PaymentCall) : AgreeOnUser call call := by
  cases call with
  | initiatePayment cmd => exact fun _ => rfl
  | _ => trivial

theorem AgreeOnUser.symm {call call' : PaymentCall} (h : AgreeOnUser call call') :
    AgreeOnUser call' call := by
  cases call with
  | initiatePayment cmd =>
    cases call' with
    | initiatePayment cmd' => exact fun heq => (h heq.symm).symm
    | _ => trivial
  | _ => cases call' <;> trivial

/-- On this turn, no other user has used the key of the initiation. -/
def KeysApart (calls : ι → PaymentCall) (pool : CallPool ι α) (turn : ι × Choice) : Prop :=
  ∀ entry ∈ pool.history, AgreeOnUser (calls turn.1) (calls entry.1)

instance (calls : ι → PaymentCall) (pool : CallPool ι α) (turn : ι × Choice) :
    Decidable (KeysApart calls pool turn) :=
  inferInstanceAs (Decidable (∀ _ ∈ _, _))

/-- The reference and the link of the payment that an initiation has just committed. -/
def committedLink : PaymentLog → Option (String × String)
  | ⟨.atomic body, .ok ()⟩ :: _ :: ⟨.createPaymentLink, .ok link⟩ :: _ =>
    (savedPayments body).head?.map fun payment => (payment.reference, link.1)
  | _ => none

/-- The references and the links of all payments that have been committed. -/
def committedLinks (pool : CallPool ι α) : List (String × String) :=
  pool.history.flatMap fun entry => (pool.log entry.1).tails.filterMap committedLink

/-- On this turn, an initiation that finds a payment of its key finds one whose link is the link
that the answer rebuilds. -/
def ReplaysLink (calls : ι → PaymentCall) (pool : CallPool ι α) (turn : ι × Choice) : Prop :=
  match calls turn.1, pool.next turn.1 with
  | .initiatePayment cmd, some (.findByIdempotencyKey _) =>
    ∀ row ∈ pool.state.db.payments.rows, row.idempotencyKey = cmd.idempotencyKey →
      ∀ link ∈ committedLinks pool, link.1 = row.reference →
        link.2 = cmd.redirectBaseUrl ++ "/pay/" ++ row.reference
  | _, _ => True

instance (calls : ι → PaymentCall) (pool : CallPool ι α) : (turn : ι × Choice) →
    Decidable (ReplaysLink calls pool turn) := fun ⟨i, choice⟩ => by
  unfold ReplaysLink
  dsimp only
  split <;> infer_instance

/-- What a turn has to meet for the answers to be the same. -/
def Repeatable (deployment : Deployment) (calls : ι → PaymentCall) (pool : CallPool ι α)
    (turn : ι × Choice) : Prop :=
  NewReference deployment calls pool turn ∧ ReplaysLink calls pool turn ∧
    KeysApart calls pool turn

instance (calls : ι → PaymentCall) (pool : CallPool ι α) : (turn : ι × Choice) →
    Decidable (NewReference deployment calls pool turn) := fun ⟨i, choice⟩ => by
  unfold NewReference
  dsimp only
  split <;> infer_instance

instance (calls : ι → PaymentCall) (pool : CallPool ι α) (turn : ι × Choice) :
    Decidable (Repeatable deployment calls pool turn) :=
  inferInstanceAs (Decidable (_ ∧ _ ∧ _))

/-- The log of an initiation after its transaction. -/
def Initiation.logAfter {cmd : InitiatePaymentCommand} (initiation : Initiation cmd)
    (auditId : UUID) : PaymentLog :=
  ⟨.atomic (initiation.body auditId), .ok ()⟩ :: initiation.logBefore auditId

/-- The initiation has committed its payment. -/
def Committed (calls : ι → PaymentCall) (pool : CallPool ι α) {cmd : InitiatePaymentCommand}
    (initiation : Initiation cmd) : Prop :=
  ∃ i auditId, calls i = .initiatePayment cmd ∧ initiation.logAfter auditId <:+ pool.log i

/-- The row stores the payment of the initiation. -/
structure PaymentRow.Stores (row : PaymentRow) {cmd : InitiatePaymentCommand}
    (initiation : Initiation cmd) : Prop where
  reference_eq : row.reference = initiation.payment.reference
  userId_eq : row.userId = cmd.userId
  idempotencyKey_eq : row.idempotencyKey = cmd.idempotencyKey
  expiresAt_eq : row.expiresAt = initiation.payment.expiresAt

/-- A row keeps the payment when its status moves. -/
theorem PaymentRow.Stores.of_holds {row row' : PaymentRow} {cmd : InitiatePaymentCommand}
    {initiation : Initiation cmd} (h : row.Stores initiation) (hholds : row.Holds row'.toDomain) :
    row'.Stores initiation where
  reference_eq := (congrArg Payment.reference hholds).trans h.reference_eq
  userId_eq := (congrArg Payment.userId hholds).trans h.userId_eq
  idempotencyKey_eq := (congrArg Payment.idempotencyKey hholds).trans h.idempotencyKey_eq
  expiresAt_eq := (congrArg Payment.expiresAt hholds).trans h.expiresAt_eq

/-- The saved row stores the payment. -/
theorem SavedAs.stores {now : Datetime} {cmd : InitiatePaymentCommand}
    {initiation : Initiation cmd} {row : PaymentRow} {before after : PaymentDb}
    (h : SavedAs deployment now initiation.payment row before after) : row.Stores initiation where
  reference_eq := h.reference_eq
  userId_eq := congrArg Payment.userId h.toDomain_eq
  idempotencyKey_eq := congrArg Payment.idempotencyKey h.toDomain_eq
  expiresAt_eq := congrArg Payment.expiresAt h.toDomain_eq

/-- Every row after a performed call is one from before, apart from its status, or stores the
payment of this initiation. -/
theorem Change.row_origin {call : PaymentCall} {log : PaymentLog} {record : PaymentCallRecord}
    {now : Datetime} {before after : PaymentDb}
    (h : Change deployment call log record now before after) (hreads : Change.Reads log before)
    {row' : PaymentRow} (hrow' : row' ∈ after.payments.rows) :
    (∃ row ∈ before.payments.rows, row.Holds row'.toDomain) ∨
    ∃ cmd, ∃ initiation : Initiation cmd, ∃ auditId, call = .initiatePayment cmd ∧
      record :: log = initiation.logAfter auditId ∧ row'.Stores initiation := by
  cases h with
  | kept payments_eq =>
    rw [payments_eq] at hrow'
    exact Or.inl ⟨row', hrow', row'.holds_self⟩
  | moved held_eq move saved_eq saved =>
    rw [saved.payments_eq] at hrow'
    rcases Table.mem_upsert_iff.mp hrow' with rfl | ⟨hold, _⟩
    · obtain ⟨old, hold, hholds⟩ := hreads _ held_eq
      exact Or.inl ⟨old, Table.mem_of_lookup hold, saved.holds hold hholds⟩
    · exact Or.inl ⟨row', hold, row'.holds_self⟩
  | initiated initiation auditId call_eq log_eq record_eq saved =>
    rw [saved.payments_eq] at hrow'
    rcases Table.mem_upsert_iff.mp hrow' with rfl | ⟨hold, _⟩
    · exact Or.inr ⟨_, initiation, auditId, call_eq, by rw [record_eq, log_eq]; rfl, saved.stores⟩
    · exact Or.inl ⟨row', hold, row'.holds_self⟩

namespace Committed

variable {cmd : InitiatePaymentCommand} {initiation : Initiation cmd} {i : ι} {op : PaymentOp}
  {next : Except PaymentError op.Ret → Program (Raising PaymentError PaymentOp.Ret) α}

/-- What has been committed after a turn has been committed before or on this turn. -/
theorem of_step (hrest : pool.rest i = .call op next)
    (h : Committed calls (pool.step (PaymentState.exec deployment) (i, choice)) initiation) :
    Committed calls pool initiation ∨ ∃ auditId, calls i = .initiatePayment cmd ∧
      (⟨op, (PaymentState.exec deployment choice op pool.state).1⟩ : PaymentCallRecord) ::
        pool.log i = initiation.logAfter auditId := by
  obtain ⟨j, auditId, hcall, hsuffix⟩ := h
  by_cases hij : i = j
  · subst hij
    rw [Pool.log_step_self hrest] at hsuffix
    rcases List.suffix_cons_iff.mp hsuffix with heq | hsuffix
    · exact Or.inr ⟨auditId, hcall, heq.symm⟩
    · exact Or.inl ⟨i, auditId, hcall, hsuffix⟩
  · rw [Pool.log_step_other hij] at hsuffix
    exact Or.inl ⟨j, auditId, hcall, hsuffix⟩

/-- What has been committed stays committed. -/
theorem step (hrest : pool.rest i = .call op next) (h : Committed calls pool initiation) :
    Committed calls (pool.step (PaymentState.exec deployment) (i, choice)) initiation := by
  obtain ⟨j, auditId, hcall, hsuffix⟩ := h
  refine ⟨j, auditId, hcall, ?_⟩
  by_cases hij : i = j
  · subst hij
    rw [Pool.log_step_self hrest]
    exact hsuffix.trans (List.suffix_cons _ _)
  · rwa [Pool.log_step_other hij]

/-- The link of a committed payment is among the links. -/
theorem mem_committedLinks (h : Committed calls pool initiation) :
    (initiation.payment.reference, initiation.paymentLink) ∈ committedLinks pool := by
  obtain ⟨i, auditId, _, hsuffix⟩ := h
  have hentry : (i, _) ∈ pool.history :=
    Pool.mem_log_iff.mp (hsuffix.mem (List.mem_cons_self (l := initiation.logBefore auditId)))
  exact List.mem_flatMap.mpr ⟨_, hentry,
    List.mem_filterMap.mpr ⟨_, (List.mem_tails _ _).mpr hsuffix, rfl⟩⟩

/-- The initiation that has committed its payment has taken a turn. -/
theorem exists_entry (h : Committed calls pool initiation) :
    ∃ entry ∈ pool.history, calls entry.1 = .initiatePayment cmd := by
  obtain ⟨i, auditId, hcall, hsuffix⟩ := h
  exact ⟨_, Pool.mem_log_iff.mp (hsuffix.mem List.mem_cons_self), hcall⟩

end Committed

/-- The answers are those of committed initiations, and these belong to the stored payments. -/
structure Replayable (calls : ι → PaymentCall) (pool : CallPool ι α) : Prop where
  retained : Retained pool
  /-- No two payments have one idempotency key. -/
  keys : ∀ row ∈ pool.state.db.payments.rows, ∀ row' ∈ pool.state.db.payments.rows,
    row.idempotencyKey = row'.idempotencyKey → row.reference = row'.reference
  /-- No two users have used one idempotency key. -/
  apart : ∀ entry ∈ pool.history, ∀ entry' ∈ pool.history,
    AgreeOnUser (calls entry.1) (calls entry'.1)
  origin : ∀ row ∈ pool.state.db.payments.rows, ∃ cmd, ∃ initiation : Initiation cmd,
    Committed calls pool initiation ∧ row.Stores initiation
  stored : ∀ cmd (initiation : Initiation cmd), Committed calls pool initiation →
    ∃ row ∈ pool.state.db.payments.rows, row.Stores initiation
  single : ∀ cmd cmd' (initiation : Initiation cmd) (initiation' : Initiation cmd'),
    Committed calls pool initiation → Committed calls pool initiation' →
      initiation.payment.reference = initiation'.payment.reference →
        initiation.paymentLink = initiation'.paymentLink
  replayed : ∀ i cmd existing, calls i = .initiatePayment cmd →
    ⟨.findByIdempotencyKey cmd.idempotencyKey, .ok (some existing)⟩ ∈ pool.log i →
      ∃ cmd', ∃ initiation : Initiation cmd', Committed calls pool initiation ∧
        cmd'.idempotencyKey = cmd.idempotencyKey ∧ replay cmd existing = initiation.answer

/-- No two payments have one key after a call that left no two payments with one key. -/
theorem keys_change {call : PaymentCall} {log : PaymentLog} {record : PaymentCallRecord}
    {now : Datetime} {before after : PaymentDb}
    (hchange : Change deployment call log record now before after)
    (h : ∀ row ∈ before.payments.rows, ∀ row' ∈ before.payments.rows,
      row.idempotencyKey = row'.idempotencyKey → row.reference = row'.reference) :
    ∀ row ∈ after.payments.rows, ∀ row' ∈ after.payments.rows,
      row.idempotencyKey = row'.idempotencyKey → row.reference = row'.reference := by
  rcases hchange.kept_or_saved with hkept | ⟨payment, saved, hsaved⟩
  · rw [hkept]
    exact h
  · have hkey : saved.idempotencyKey = payment.idempotencyKey :=
      congrArg Payment.idempotencyKey hsaved.toDomain_eq
    have hapart (row : PaymentRow) (hrow : row ∈ before.payments.rows)
        (hne : row.reference ≠ saved.reference) : row.idempotencyKey ≠ saved.idempotencyKey := by
      rw [hkey]
      exact hsaved.key_unique hrow fun heq => hne (heq.trans hsaved.reference_eq.symm)
    rw [hsaved.payments_eq]
    refine Table.upsert_pairs (fun _ => rfl) (fun row hrow hne => ?_) h
    exact ⟨fun heq => absurd heq.symm (hapart row hrow hne),
      fun heq => absurd heq (hapart row hrow hne)⟩

section Turn

variable {i : ι} {op : PaymentOp}
  {next : Except PaymentError op.Ret → Program (Raising PaymentError PaymentOp.Ret) α}

/-- An initiation that has just committed its payment has saved it under a new reference. -/
theorem saved_of_logAfter {cmd : InitiatePaymentCommand} {initiation : Initiation cmd}
    {auditId : UUID} (hrest : pool.rest i = .call op next)
    (hcall : calls i = .initiatePayment cmd)
    (hnew : NewReference deployment calls pool (i, choice))
    (hlog : (⟨op, (PaymentState.exec deployment choice op pool.state).1⟩ : PaymentCallRecord) ::
      pool.log i = initiation.logAfter auditId) :
    pool.state.db.payments.lookup initiation.payment.reference = none ∧
      ∃ row, SavedAs deployment (pool.state.clock + choice.elapsed) initiation.payment row
        pool.state.db (PaymentState.exec deployment choice op pool.state).2.db := by
  obtain ⟨hrecord, _⟩ := List.cons.inj hlog
  have hsaved : savedPayments (committed
      ⟨op, (PaymentState.exec deployment choice op pool.state).1⟩) = [initiation.payment] := by
    rw [hrecord]
    rfl
  refine ⟨hnew.lookup_eq_none hrest cmd initiation hcall hsaved, ?_⟩
  obtain ⟨rfl, hanswer⟩ := Sigma.mk.inj hrecord
  exact stored_of_committed (eq_of_heq hanswer)

/-- Two initiations that have committed one reference have one link. -/
theorem Replayable.single_step (h : Replayable calls pool) (hrest : pool.rest i = .call op next)
    (hnew : NewReference deployment calls pool (i, choice))
    {cmd cmd' : InitiatePaymentCommand} {initiation : Initiation cmd}
    {initiation' : Initiation cmd'}
    (hfirst : Committed calls (pool.step (PaymentState.exec deployment) (i, choice)) initiation)
    (hsecond : Committed calls (pool.step (PaymentState.exec deployment) (i, choice)) initiation')
    (href : initiation.payment.reference = initiation'.payment.reference) :
    initiation.paymentLink = initiation'.paymentLink := by
  -- a reference that has been committed before is stored, so no initiation commits it again
  have hfree {cmd : InitiatePaymentCommand} {initiation : Initiation cmd}
      (hold : Committed calls pool initiation) :
      pool.state.db.payments.lookup initiation.payment.reference ≠ none := by
    obtain ⟨row, hrow, hstores⟩ := h.stored cmd initiation hold
    rw [← hstores.reference_eq, Table.lookup_of_mem hrow]
    exact nofun
  rcases hfirst.of_step hrest with hfirst | ⟨auditId, hcall, hlog⟩
  · rcases hsecond.of_step hrest with hsecond | ⟨auditId, hcall, hlog⟩
    · exact h.single cmd cmd' initiation initiation' hfirst hsecond href
    · have hnone := (saved_of_logAfter hrest hcall hnew hlog).1
      rw [← href] at hnone
      exact absurd hnone (hfree hfirst)
  · rcases hsecond.of_step hrest with hsecond | ⟨auditId', hcall', hlog'⟩
    · have hnone := (saved_of_logAfter hrest hcall hnew hlog).1
      rw [href] at hnone
      exact absurd hnone (hfree hsecond)
    · have hlink := congrArg (fun log => log.flatMap createdLinks) (hlog.symm.trans hlog')
      have hpair : [(initiation.paymentLink, initiation.providerRef)] =
          [(initiation'.paymentLink, initiation'.providerRef)] := hlink
      exact congrArg Prod.fst (List.cons.inj hpair).1

/-- A payment that is found by its key has been committed with the link that the answer
rebuilds. -/
theorem Replayable.found (h : Replayable calls pool) {cmd : InitiatePaymentCommand}
    {existing : Payment} (hcall : calls i = .initiatePayment cmd)
    (hnext : pool.next i = some (.findByIdempotencyKey cmd.idempotencyKey))
    (hlink : ReplaysLink calls pool (i, choice))
    (hfound : (PaymentState.exec deployment choice
      (.findByIdempotencyKey cmd.idempotencyKey) pool.state).1 = .ok (some existing)) :
    ∃ cmd', ∃ initiation : Initiation cmd', Committed calls pool initiation ∧
      cmd'.idempotencyKey = cmd.idempotencyKey ∧ replay cmd existing = initiation.answer := by
  obtain ⟨row, hrow, hmatch, rfl⟩ :=
    PaymentDb.getPayment_sound (PaymentState.reading_ok hfound)
  have hkey : row.idempotencyKey = cmd.idempotencyKey := by simpa using hmatch
  obtain ⟨cmd', initiation, hcommitted, hstores⟩ := h.origin row hrow
  unfold ReplaysLink at hlink
  simp only [hcall, hnext] at hlink
  have hsame := hlink row hrow hkey _ hcommitted.mem_committedLinks hstores.reference_eq.symm
  refine ⟨cmd', initiation, hcommitted, hstores.idempotencyKey_eq.symm.trans hkey, ?_⟩
  unfold replay Initiation.answer
  rw [PaymentInitiation.mk.injEq]
  exact ⟨hstores.reference_eq, hsame.symm, hstores.expiresAt_eq⟩

end Turn

/-- Turns on which the payments are repeatable keep the answers with the stored payments. -/
theorem keeps_replayable {post : ι → PaymentLog → α → Prop} :
    Pool.Keeps (PaymentState.exec deployment) (fun i => saveContract (calls i)) post
      (Repeatable deployment calls) (Replayable calls) := by
  intro pool i choice op next _ h ⟨hnew, hlink, hapart⟩ hrest hallowed
  obtain ⟨hretained, hrows⟩ := h.retained.step hrest hallowed hnew
  have hchange := change_of_allowed deployment hallowed choice pool.state
  constructor
  case retained => exact hretained
  case keys =>
    rw [Pool.step_of_call hrest]
    exact keys_change hchange h.keys
  case apart =>
    rw [Pool.step_of_call hrest]
    intro entry hentry entry' hentry'
    rcases List.mem_cons.mp hentry with rfl | hentry
    · rcases List.mem_cons.mp hentry' with rfl | hentry'
      · exact AgreeOnUser.refl _
      · exact hapart entry' hentry'
    · rcases List.mem_cons.mp hentry' with rfl | hentry'
      · exact (hapart entry hentry).symm
      · exact h.apart entry hentry entry' hentry'
  case origin =>
    intro row' hrow'
    have hafter : row' ∈
        (PaymentState.exec deployment choice op pool.state).2.db.payments.rows := by
      rw [Pool.step_of_call hrest] at hrow'
      exact hrow'
    rcases hchange.row_origin (fun payment hheld => h.retained i _ payment hheld) hafter with
      ⟨row, hrow, hholds⟩ | ⟨cmd, initiation, auditId, hcall, hlog, hstores⟩
    · obtain ⟨cmd, initiation, hcommitted, hstores⟩ := h.origin row hrow
      exact ⟨cmd, initiation, hcommitted.step hrest, hstores.of_holds hholds⟩
    · refine ⟨cmd, initiation, ⟨i, auditId, hcall, ?_⟩, hstores⟩
      rw [Pool.log_step_self hrest, hlog]
  case stored =>
    intro cmd initiation hcommitted
    rcases hcommitted.of_step hrest with hcommitted | ⟨auditId, hcall, hlog⟩
    · obtain ⟨row, hrow, hstores⟩ := h.stored cmd initiation hcommitted
      obtain ⟨row', hrow', hholds⟩ := hrows _ row (Table.lookup_of_mem hrow)
      exact ⟨row', Table.mem_of_lookup hrow', hstores.of_holds hholds⟩
    · obtain ⟨_, row, hsaved⟩ := saved_of_logAfter hrest hcall hnew hlog
      refine ⟨row, ?_, hsaved.stores⟩
      rw [Pool.step_of_call hrest]
      change row ∈ (PaymentState.exec deployment choice op pool.state).2.db.payments.rows
      rw [hsaved.payments_eq]
      exact Table.mem_upsert_iff.mpr (Or.inl rfl)
  case single =>
    exact fun _ _ _ _ hfirst hsecond href => h.single_step hrest hnew hfirst hsecond href
  case replayed =>
    intro j cmd existing hcall hmem
    have hold : (∃ cmd', ∃ initiation : Initiation cmd', Committed calls pool initiation ∧
        cmd'.idempotencyKey = cmd.idempotencyKey ∧ replay cmd existing = initiation.answer) →
        ∃ cmd', ∃ initiation : Initiation cmd',
          Committed calls (pool.step (PaymentState.exec deployment) (i, choice)) initiation ∧
          cmd'.idempotencyKey = cmd.idempotencyKey ∧ replay cmd existing = initiation.answer :=
      fun ⟨cmd', initiation, hcommitted, hrest'⟩ =>
        ⟨cmd', initiation, hcommitted.step hrest, hrest'⟩
    rcases (Pool.mem_log_step hrest).mp hmem with ⟨rfl, heq⟩ | hmem
    · obtain ⟨rfl, hanswer⟩ := Sigma.mk.inj heq
      exact hold (h.found hcall (Pool.next_of_call hrest) hlink (eq_of_heq hanswer).symm)
    · exact hold (h.replayed j cmd existing hcall hmem)

/-- The answer of an initiation is the one of a committed initiation of its key. -/
theorem Replayable.answered (h : Replayable calls pool) {i : ι} {cmd : InitiatePaymentCommand}
    {answer : PaymentInitiation} (hcall : calls i = .initiatePayment cmd)
    (hended : AnswerEnded (calls i) (pool.log i) (.ok (some answer))) :
    ∃ cmd', ∃ initiation : Initiation cmd', Committed calls pool initiation ∧
      cmd'.idempotencyKey = cmd.idempotencyKey ∧ answer = initiation.answer := by
  obtain ⟨result, hresult, houtcome⟩ := hended cmd hcall
  generalize hlog : pool.log i = log at hresult
  cases hresult with
  | replayed existing =>
    obtain rfl : answer = replay cmd existing := Option.some.inj (Except.ok.inj houtcome)
    exact h.replayed i cmd existing hcall (by rw [hlog]; exact List.mem_cons_self)
  | persisted initiation auditId =>
    obtain rfl : answer = initiation.answer := Option.some.inj (Except.ok.inj houtcome)
    refine ⟨cmd, initiation, ⟨i, auditId, hcall, ?_⟩, rfl, rfl⟩
    rw [hlog]
    exact List.suffix_refl _
  | unpersisted initiation auditId error => cases houtcome
  | refused error no_link => cases houtcome

/-- Two committed initiations of one key have one answer. -/
theorem Replayable.answer_unique (h : Replayable calls pool) {cmd cmd' : InitiatePaymentCommand}
    {initiation : Initiation cmd} {initiation' : Initiation cmd'}
    (hfirst : Committed calls pool initiation) (hsecond : Committed calls pool initiation')
    (hkey : cmd.idempotencyKey = cmd'.idempotencyKey) : initiation.answer = initiation'.answer := by
  obtain ⟨row, hrow, hstores⟩ := h.stored cmd initiation hfirst
  obtain ⟨row', hrow', hstores'⟩ := h.stored cmd' initiation' hsecond
  have hsame : row = row' := by
    have href : row.reference = row'.reference := h.keys row hrow row' hrow'
      (hstores.idempotencyKey_eq.trans (hkey.trans hstores'.idempotencyKey_eq.symm))
    have hlookup := Table.lookup_of_mem hrow
    rw [href, Table.lookup_of_mem hrow'] at hlookup
    exact (Option.some.inj hlookup).symm
  subst hsame
  have href : initiation.payment.reference = initiation'.payment.reference :=
    hstores.reference_eq.symm.trans hstores'.reference_eq
  unfold Initiation.answer
  rw [PaymentInitiation.mk.injEq]
  exact ⟨href, h.single cmd cmd' initiation initiation' hfirst hsecond href,
    hstores.expiresAt_eq.symm.trans hstores'.expiresAt_eq⟩

/-- The first turn of an initiation whose key is stored answers, unless it meets a fault. -/
theorem Replayable.answers_again {pool : AnswerPool ι} (h : Replayable calls pool) {i : ι}
    {cmd : InitiatePaymentCommand} {row : PaymentRow}
    (hrest : pool.rest i =
      ((PaymentCall.initiatePayment cmd).answer djangoPaymentEventOutboxDispatcher).run)
    (hrow : row ∈ pool.state.db.payments.rows) (hkey : row.idempotencyKey = cmd.idempotencyKey)
    (hfault : choice.fault = none) :
    answerOf (pool.step (PaymentState.exec deployment) (i, choice)) i =
      some (replay cmd row.toDomain) := by
  have hfound : pool.state.db.findByIdempotencyKey cmd.idempotencyKey =
      .ok (some row.toDomain) := by
    refine PaymentDb.getPayment_of_unique hrow (by simpa using hkey) fun row' hrow' hmatch => ?_
    have hkey' : row'.idempotencyKey = cmd.idempotencyKey := by simpa using hmatch
    have href := h.keys row hrow row' hrow' (hkey.trans hkey'.symm)
    have hlookup := Table.lookup_of_mem hrow
    rw [href, Table.lookup_of_mem hrow'] at hlookup
    exact Option.some.inj hlookup
  have hexec : (PaymentState.exec deployment choice
      (.findByIdempotencyKey cmd.idempotencyKey) pool.state).1 = .ok (some row.toDomain) := by
    change (PaymentState.reading choice (pool.state.db.findByIdempotencyKey _) _).1 = _
    rw [PaymentState.reading, hfault, hfound]
    rfl
  obtain ⟨next, hcall, hnext⟩ : ∃ next,
      pool.rest i = .call (.findByIdempotencyKey cmd.idempotencyKey) next ∧
        next (.ok (some row.toDomain)) = .done (.ok (some (replay cmd row.toDomain))) :=
    ⟨_, hrest, rfl⟩
  unfold answerOf
  rw [Pool.step_of_call hcall]
  simp only [Function.update_self, hexec, hnext]

/-- Initiations of one key answer the same, and no initiation meets a payment of another user. -/
structure Repeated (deployment : Deployment) (calls : ι → PaymentCall) (pool : AnswerPool ι) :
    Prop where
  /-- Two answers for one key are equal. -/
  same : ∀ i j cmd cmd' answer answer', calls i = .initiatePayment cmd →
    calls j = .initiatePayment cmd' → cmd.idempotencyKey = cmd'.idempotencyKey →
      answerOf pool i = some answer → answerOf pool j = some answer' → answer = answer'
  /-- Once a key has been answered, an initiation that starts answers on its first turn. -/
  again : ∀ i j cmd cmd' answer choice, calls i = .initiatePayment cmd →
    calls j = .initiatePayment cmd' → cmd.idempotencyKey = cmd'.idempotencyKey →
      answerOf pool i = some answer → pool.log j = [] → choice.fault = none →
        (answerOf (pool.step (PaymentState.exec deployment) (j, choice)) j).isSome = true
  /-- A key has one payment. -/
  one : ∀ row ∈ pool.state.db.payments.rows, ∀ row' ∈ pool.state.db.payments.rows,
    row.idempotencyKey = row'.idempotencyKey → row = row'
  /-- The payment of a key that a user has used is a payment of the user. -/
  own : ∀ i cmd, calls i = .initiatePayment cmd → pool.log i ≠ [] →
    ∀ row ∈ pool.state.db.payments.rows, row.idempotencyKey = cmd.idempotencyKey →
      row.userId = cmd.userId
  /-- An answer is about a payment of the user. -/
  returned : ∀ i cmd answer, calls i = .initiatePayment cmd → answerOf pool i = some answer →
    ∃ row ∈ pool.state.db.payments.rows, row.reference = answer.reference ∧
      row.userId = cmd.userId

/-- What holds of every state that keeps the answers with the stored payments. -/
theorem Replayable.repeated {pool : AnswerPool ι} (h : Replayable calls pool)
    (hended : ∀ i outcome, pool.rest i = .done outcome →
      AnswerEnded (calls i) (pool.log i) outcome)
    (hstart : ∀ i, pool.log i = [] →
      pool.rest i = ((calls i).answer djangoPaymentEventOutboxDispatcher).run) :
    Repeated deployment calls pool := by
  have hdone {i : ι} {answer : PaymentInitiation} (hanswer : answerOf pool i = some answer) :
      AnswerEnded (calls i) (pool.log i) (.ok (some answer)) := by
    unfold answerOf at hanswer
    split at hanswer
    · next answer' hrest =>
      rw [hanswer] at hrest
      exact hended i _ hrest
    · cases hanswer
  have hown {i : ι} {cmd : InitiatePaymentCommand} (hcall : calls i = .initiatePayment cmd)
      (hlog : pool.log i ≠ []) {row : PaymentRow} (hrow : row ∈ pool.state.db.payments.rows)
      (hkey : row.idempotencyKey = cmd.idempotencyKey) : row.userId = cmd.userId := by
    obtain ⟨cmd', initiation, hcommitted, hstores⟩ := h.origin row hrow
    obtain ⟨entry, hentry, hcall'⟩ := hcommitted.exists_entry
    obtain ⟨record, hrecord⟩ := List.exists_mem_of_ne_nil _ hlog
    have hagree := h.apart (i, record) (Pool.mem_log_iff.mp hrecord) entry hentry
    simp only [hcall, hcall'] at hagree
    exact hstores.userId_eq.trans (hagree (hkey.symm.trans hstores.idempotencyKey_eq)).symm
  constructor
  case same =>
    intro i j cmd cmd' answer answer' hcall hcall' hkey hanswer hanswer'
    obtain ⟨first, initiation, hfirst, hfirstKey, rfl⟩ := h.answered hcall (hdone hanswer)
    obtain ⟨second, initiation', hsecond, hsecondKey, rfl⟩ := h.answered hcall' (hdone hanswer')
    exact h.answer_unique hfirst hsecond (hfirstKey.trans (hkey.trans hsecondKey.symm))
  case again =>
    intro i j cmd cmd' answer choice hcall hcall' hkey hanswer hlog hfault
    obtain ⟨first, initiation, hcommitted, hfirstKey, rfl⟩ := h.answered hcall (hdone hanswer)
    obtain ⟨row, hrow, hstores⟩ := h.stored first initiation hcommitted
    have hrowKey : row.idempotencyKey = cmd'.idempotencyKey :=
      hstores.idempotencyKey_eq.trans (hfirstKey.trans hkey)
    have hrest := hstart j hlog
    rw [hcall'] at hrest
    rw [h.answers_again hrest hrow hrowKey hfault]
    rfl
  case one =>
    intro row hrow row' hrow' hkey
    have hlookup := Table.lookup_of_mem hrow
    rw [h.keys row hrow row' hrow' hkey, Table.lookup_of_mem hrow'] at hlookup
    exact (Option.some.inj hlookup).symm
  case own => exact fun i cmd hcall hlog row hrow hkey => hown hcall hlog hrow hkey
  case returned =>
    intro i cmd answer hcall hanswer
    obtain ⟨cmd', initiation, hcommitted, hkey, rfl⟩ := h.answered hcall (hdone hanswer)
    obtain ⟨row, hrow, hstores⟩ := h.stored cmd' initiation hcommitted
    have hlog : pool.log i ≠ [] := by
      intro hlog
      unfold answerOf at hanswer
      rw [hstart i hlog, hcall] at hanswer
      cases hanswer
    exact ⟨row, hrow, hstores.reference_eq,
      hown hcall hlog hrow (hstores.idempotencyKey_eq.trans hkey)⟩

/-- Two initiations of user 7 under one key. -/
def sameInitiations : Bool → PaymentCall := fun _ => .initiatePayment (sampleInitiate "key_1")

/-- The first initiation runs to its end, and the second one follows. -/
def oneAfterTheOther (paymentLink : String) : List (Bool × Choice) :=
  List.replicate 11 (false, { calm 1 with paymentLink }) ++ [(true, calm 1)]

/-- In every run in which no two users use one key, every reference is new and every stored
payment that is found by its key has the link that the answer rebuilds, initiations of one key
answer the same, and no user meets a payment of another one. -/
theorem initiations_repeated (calls : ι → PaymentCall) {s : PaymentState}
    (hempty : s.db.payments.rows = []) (schedule : List (ι × Choice))
    (hturns : Pool.Always (PaymentState.exec deployment) (Repeatable deployment calls)
      (startAnswers s calls) schedule) :
    Repeated deployment calls
      ((startAnswers s calls).run (PaymentState.exec deployment) schedule) := by
  have hrows : (startAnswers s calls).state.db.payments.rows = [] := hempty
  have hnothing {cmd : InitiatePaymentCommand} {initiation : Initiation cmd} :
      ¬ Committed calls (startAnswers s calls) initiation := by
    rintro ⟨i, auditId, _, hsuffix⟩
    cases List.suffix_nil.mp hsuffix
  have hstart : Replayable calls (startAnswers s calls) := by
    constructor
    case retained => exact fun _ _ _ h => by cases h
    case keys =>
      rw [hrows]
      exact fun _ h => by cases h
    case apart => exact fun _ h => by cases h
    case origin =>
      rw [hrows]
      exact fun _ h => by cases h
    case stored => exact fun _ _ h => absurd h hnothing
    case single => exact fun _ _ _ _ h => absurd h hnothing
    case replayed => exact fun _ _ _ _ h => by cases h
  have hpool : Pool.Disciplined (fun i => saveContract (calls i)) (fun i => AnswerEnded (calls i))
      (startAnswers s calls) := fun i => answer_follows (calls i)
  obtain ⟨hdisciplined, hreplayable⟩ :=
    keeps_replayable.run (answers_saveContract calls) hpool hstart hturns
  exact hreplayable.repeated (fun i outcome hdone => hdisciplined.post_done hdone)
    fun i hlog => Pool.rest_run_of_log_eq_nil (fun _ => rfl) hlog

/-- The link of the provider is the one that the answer rebuilds. -/
theorem initiations_repeated_sample :
    let pool := (startAnswers emptyState sameInitiations).run (PaymentState.exec sampleDeployment)
      (oneAfterTheOther "https://app//pay/pay_000000000000")
    (answerOf pool false).isSome = true ∧ (answerOf pool true).isSome = true ∧
      Repeated sampleDeployment sameInitiations pool :=
  ⟨by decide +kernel, by decide +kernel,
    initiations_repeated sameInitiations rfl _ (by decide +kernel)⟩

/-- The link of the provider is not stored, and the second answer has another one. -/
theorem rebuilt_link_differs :
    ¬ ∀ schedule : List (Bool × Choice), Repeated sampleDeployment sameInitiations
      ((startAnswers emptyState sameInitiations).run (PaymentState.exec sampleDeployment)
        schedule) := by
  intro h
  have hsame := (h (oneAfterTheOther "https://pay")).same false true _ _
    ⟨"pay_000000000000", "https://pay", 1800000007⟩
    ⟨"pay_000000000000", "https://app//pay/pay_000000000000", 1800000007⟩ rfl rfl rfl
    (by decide +kernel) (by decide +kernel)
  revert hsame
  decide

/-- User 8 uses the key of user 7 and is answered with the payment of user 7. -/
example :
    let calls : Bool → PaymentCall := fun i =>
      .initiatePayment { sampleInitiate "key_1" with userId := if i then 8 else 7 }
    let pool := (startAnswers emptyState calls).run (PaymentState.exec sampleDeployment)
      (oneAfterTheOther "https://app//pay/pay_000000000000")
    answerOf pool true = answerOf pool false ∧ (answerOf pool true).isSome = true := by
  decide +kernel

end Linkapro.Payments
