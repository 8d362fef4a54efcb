import Linkapro.Payments.Velocity

/-!
# Payments: the links of the provider

An initiation asks the provider for a link before it saves its payment. As long as
every reference is new when it is saved, a stored payment changes in its status only,
and a call holds what is stored. Then a link belongs to a stored payment exactly when
the transaction behind it commits.
-/

namespace Linkapro.Payments

open Lib

variable {ι α : Type} [DecidableEq ι] {deployment : Deployment} {choice : Choice}
  {calls : ι → PaymentCall} {pool : CallPool ι α}

/-- The row holds the payment, apart from its status. -/
def PaymentRow.Holds (row : PaymentRow) (payment : Payment) : Prop :=
  payment = { row.toDomain with status := payment.status }

theorem PaymentRow.holds_self (row : PaymentRow) : row.Holds row.toDomain := rfl

theorem PaymentRow.Holds.trans {row row' : PaymentRow} {payment : Payment} (h : row.Holds payment)
    (h' : row.Holds row'.toDomain) : row'.Holds payment := by
  unfold PaymentRow.Holds at h h' ⊢
  rw [h']
  exact h

/-- On this turn, an initiation saves its payment under a reference that is not stored yet. -/
def NewReference (deployment : Deployment) (calls : ι → PaymentCall) (pool : CallPool ι α)
    (turn : ι × Choice) : Prop :=
  match calls turn.1 with
  | .initiatePayment _ => ∀ payment ∈ savedOnTurn deployment pool turn,
      pool.state.db.payments.lookup payment.reference = none
  | _ => True

/-- A save over a row keeps the identifier of the row. -/
theorem SavedAs.id_old {now : Datetime} {payment : Payment} {row old : PaymentRow}
    {before after : PaymentDb} (h : SavedAs deployment now payment row before after)
    (hold : before.payments.lookup payment.reference = some old) : row.id = old.id := by
  obtain ⟨_, _, _, _, _, rfl⟩ := h.row_eq
  simp [PaymentDb.rowOf, hold]

/-- A save of a payment that the stored row holds keeps the row, apart from its status. -/
theorem SavedAs.holds {now : Datetime} {payment : Payment} {new : PaymentStatus}
    {row old : PaymentRow} {before after : PaymentDb}
    (h : SavedAs deployment now { payment with status := new } row before after)
    (hold : before.payments.lookup payment.reference = some old) (hpayment : old.Holds payment) :
    old.Holds row.toDomain := by
  have hid := h.id_old hold
  have hcreated := h.createdAt_old hold
  unfold PaymentRow.Holds at hpayment ⊢
  rw [h.toDomain_eq, hid, hcreated, hpayment]
  rfl

/-- What a call reads or moves is held by the stored row. -/
def Change.Reads (log : PaymentLog) (before : PaymentDb) : Prop :=
  ∀ payment, held payment.reference log = some payment →
    ∃ row, before.payments.lookup payment.reference = some row ∧ row.Holds payment

/-- A stored payment stays stored, apart from its status. -/
theorem Change.keeps_row {call : PaymentCall} {log : PaymentLog} {record : PaymentCallRecord}
    {now : Datetime} {before after : PaymentDb}
    (h : Change deployment call log record now before after) (hreads : Change.Reads log before)
    (hnew : ∀ cmd (initiation : Initiation cmd), call = .initiatePayment cmd →
      savedPayments (committed record) = [initiation.payment] →
        before.payments.lookup initiation.payment.reference = none)
    {reference : String} {row : PaymentRow} (hrow : before.payments.lookup reference = some row) :
    ∃ row', after.payments.lookup reference = some row' ∧ row.Holds row'.toDomain := by
  cases h with
  | kept payments_eq =>
    rw [payments_eq]
    exact ⟨row, hrow, row.holds_self⟩
  | @moved payment new saved held_eq move saved_eq saved_as =>
    rw [saved_as.payments_eq]
    by_cases hreference : payment.reference = reference
    · subst hreference
      obtain ⟨old, hold, hholds⟩ := hreads payment held_eq
      obtain rfl := Option.some.inj (hrow.symm.trans hold)
      refine ⟨saved, ?_, saved_as.holds hold hholds⟩
      rw [← show saved.reference = payment.reference from saved_as.reference_eq]
      exact Table.lookup_upsert_self
    · refine ⟨row, ?_, row.holds_self⟩
      rw [Table.lookup_upsert_of_ne, hrow]
      rw [show saved.reference = payment.reference from saved_as.reference_eq]
      exact hreference
  | @initiated cmd initiation auditId saved call_eq log_eq record_eq saved_as =>
    rw [saved_as.payments_eq]
    have hfree := hnew cmd initiation call_eq (by rw [record_eq]; rfl)
    refine ⟨row, ?_, row.holds_self⟩
    rw [Table.lookup_upsert_of_ne, hrow]
    rintro rfl
    rw [saved_as.reference_eq, hfree] at hrow
    cases hrow

/-- What the calls hold is stored, apart from its status. -/
def Retained (pool : CallPool ι α) : Prop :=
  ∀ i reference payment, held reference (pool.log i) = some payment →
    ∃ row, pool.state.db.payments.lookup reference = some row ∧ row.Holds payment

omit [DecidableEq ι] in
/-- What a turn with a new reference knows about the payment of an initiation. -/
theorem NewReference.lookup_eq_none {i : ι} {op : PaymentOp}
    {next : Except PaymentError op.Ret → Program (Raising PaymentError PaymentOp.Ret) α}
    (h : NewReference deployment calls pool (i, choice)) (hrest : pool.rest i = .call op next)
    (cmd : InitiatePaymentCommand) (initiation : Initiation cmd)
    (hcall : calls i = .initiatePayment cmd)
    (hsaved : savedPayments (committed
      ⟨op, (PaymentState.exec deployment choice op pool.state).1⟩) = [initiation.payment]) :
    pool.state.db.payments.lookup initiation.payment.reference = none := by
  unfold NewReference at h
  simp only [hcall] at h
  refine h initiation.payment ?_
  rw [savedOnTurn_of_call hrest, hsaved]
  exact List.mem_singleton_self _

/-- A turn with a new reference keeps the stored payments and what the calls hold of them. -/
theorem Retained.step {i : ι} {op : PaymentOp}
    {next : Except PaymentError op.Ret → Program (Raising PaymentError PaymentOp.Ret) α}
    (h : Retained pool) (hrest : pool.rest i = .call op next)
    (hallowed : (saveContract (calls i)).allowed (pool.log i) op)
    (hnew : NewReference deployment calls pool (i, choice)) :
    Retained (pool.step (PaymentState.exec deployment) (i, choice)) ∧
    ∀ reference row, pool.state.db.payments.lookup reference = some row →
      ∃ row', (pool.step (PaymentState.exec deployment) (i, choice)).state.db.payments.lookup
        reference = some row' ∧ row.Holds row'.toDomain := by
  have hchange := change_of_allowed deployment hallowed choice pool.state
  have hrows : ∀ reference row, pool.state.db.payments.lookup reference = some row →
      ∃ row', (pool.step (PaymentState.exec deployment) (i, choice)).state.db.payments.lookup
        reference = some row' ∧ row.Holds row'.toDomain := by
    intro reference row hrow
    rw [Pool.step_of_call hrest]
    exact hchange.keeps_row (fun payment hheld => h i _ payment hheld)
      (hnew.lookup_eq_none hrest) hrow
  refine ⟨fun j reference payment hheld => ?_, hrows⟩
  have hold (hheld : held reference (pool.log j) = some payment) :
      ∃ row, (pool.step (PaymentState.exec deployment) (i, choice)).state.db.payments.lookup
        reference = some row ∧ row.Holds payment := by
    obtain ⟨row, hrow, hholds⟩ := h j reference payment hheld
    obtain ⟨row', hrow', hkept⟩ := hrows reference row hrow
    exact ⟨row', hrow', hholds.trans hkept⟩
  by_cases hij : i = j
  · subst hij
    rw [Pool.log_step_self hrest] at hheld
    rcases (held_cons_eq_some hheld).2 with ⟨hmem, rfl⟩ | hheld
    · obtain ⟨row, hrow, rfl⟩ := reads_sound rfl hmem
      obtain ⟨row', hrow', hkept⟩ := hrows _ row hrow
      exact ⟨row', hrow', row.holds_self.trans hkept⟩
    · exact hold hheld
  · rw [Pool.log_step_other hij] at hheld
    exact hold hheld

/-- The audit entries that the statements write. -/
def loggedAudits (body : List TxWrite) : List AuditEvent :=
  body.filterMap fun write =>
    match write with
    | .logAudit event => some event
    | _ => none

/-- The argument is a member of its enumeration. -/
def isMember {β : Type} : EnumArg β → Bool
  | .member _ => true
  | .text _ => false

/-- The transaction of an initiation meets no error, and its reference is new. -/
structure Savable (body : List TxWrite) (payment : Payment) (choice : Choice) (db : PaymentDb) :
    Prop where
  no_fault : ∀ fault ∈ choice.fault, body.length < fault.statement
  method : isMember payment.method = true
  environment : isMember payment.environment = true
  user : (db.users payment.userId).isSome = true
  no_clash : db.clashes payment = false
  new_reference : db.payments.lookup payment.reference = none
  new_audit : ∀ event ∈ loggedAudits body, ∀ row ∈ db.auditLog, row.id ≠ event.id

instance (body : List TxWrite) (payment : Payment) (choice : Choice) (db : PaymentDb) :
    Decidable (Savable body payment choice db) :=
  decidable_of_iff ((∀ fault ∈ choice.fault, body.length < fault.statement) ∧
      isMember payment.method = true ∧ isMember payment.environment = true ∧
      (db.users payment.userId).isSome = true ∧ db.clashes payment = false ∧
      db.payments.lookup payment.reference = none ∧
      ∀ event ∈ loggedAudits body, ∀ row ∈ db.auditLog, row.id ≠ event.id)
    ⟨fun ⟨h₁, h₂, h₃, h₄, h₅, h₆, h₇⟩ => ⟨h₁, h₂, h₃, h₄, h₅, h₆, h₇⟩,
      fun h => ⟨h.1, h.2, h.3, h.4, h.5, h.6, h.7⟩⟩

/-- The statements that a program issues on its next turn. -/
def issuedNext (pool : CallPool ι α) (i : ι) : List TxWrite :=
  match pool.rest i with
  | .call (.atomic body) _ => body
  | _ => []

/-- On this turn, an initiation saves its payment without an error. -/
def LinkSaved (calls : ι → PaymentCall) (pool : CallPool ι α) (turn : ι × Choice) : Prop :=
  match calls turn.1 with
  | .initiatePayment _ => ∀ payment ∈ savedPayments (issuedNext pool turn.1),
      Savable (issuedNext pool turn.1) payment turn.2 pool.state.db
  | _ => True

instance (calls : ι → PaymentCall) (pool : CallPool ι α) (turn : ι × Choice) :
    Decidable (LinkSaved calls pool turn) := by
  unfold LinkSaved
  split <;> infer_instance

/-- A transaction that meets no error commits. -/
theorem Savable.commits {cmd : InitiatePaymentCommand} {initiation : Initiation cmd}
    {auditId : UUID} {s : PaymentState}
    (h : Savable (initiation.body auditId) initiation.payment choice s.db) :
    (PaymentState.exec deployment choice (.atomic (initiation.body auditId)) s).1 = .ok () := by
  have hfault : ∀ k ≤ 2, (choice.fault.filter fun fault => fault.statement = k) = none := by
    intro k hk
    rw [Option.filter_eq_none_iff]
    intro fault hmem hstatement
    have hlate := h.no_fault fault hmem
    have hlength : (initiation.body auditId).length = 2 := rfl
    rw [hlength] at hlate
    have heq : fault.statement = k := by simpa using hstatement
    omega
  obtain ⟨method, hmethod⟩ : ∃ method, initiation.payment.method = .member method := by
    have hmember := h.method
    cases hmethod : initiation.payment.method with
    | member method => exact ⟨method, rfl⟩
    | text value =>
      rw [hmethod] at hmember
      cases hmember
  obtain ⟨environment, henvironment⟩ :
      ∃ environment, initiation.payment.environment = .member environment := by
    have hmember := h.environment
    cases henvironment : initiation.payment.environment with
    | member environment => exact ⟨environment, rfl⟩
    | text value =>
      rw [henvironment] at hmember
      cases hmember
  have haudit : (s.db.auditLog.any fun row => row.id = auditId) = false := by
    rw [List.any_eq_false]
    intro row hrow heq
    have hid : row.id = auditId := by simpa using heq
    exact h.new_audit (auditEntry auditId (some initiation.payment.id) "INITIATE"
      (userActor cmd.userId) [("idempotency_key", .text cmd.idempotencyKey)])
      List.mem_cons_self row hrow hid
  have huser : ¬ (s.db.users initiation.payment.userId).isNone = true := by
    have hsome := h.user
    cases huser : s.db.users initiation.payment.userId with
    | none =>
      rw [huser] at hsome
      cases hsome
    | some _ => simp
  have hclash : ¬ s.db.clashes initiation.payment = true := by
    rw [h.no_clash]
    exact Bool.false_ne_true
  have hrun : ∃ db, runBody deployment (s.clock + choice.elapsed) choice 0
      (initiation.body auditId) s.db = .ok db := by
    unfold Initiation.body initiateBody
    simp only [runBody, hfault 0 (by omega), hfault (0 + 1) (by omega),
      hfault (0 + 1 + 1) (by omega), PaymentDb.applyWrite, PaymentDb.savePayment, hmethod,
      henvironment, if_neg huser, if_neg hclash, PaymentDb.logAudit, auditEntry, haudit]
    exact ⟨_, rfl⟩
  obtain ⟨db, hrun⟩ := hrun
  rcases exec_atomic deployment choice s (initiation.body auditId) with
    ⟨_, _, hexec⟩ | ⟨error, hexec⟩
  · rw [hexec]
  · simp only [PaymentState.exec, PaymentState.effect, PaymentState.transaction, hrun] at hexec
    cases hexec

omit [DecidableEq ι] in
/-- A payment that is saved without an error is saved under a new reference. -/
theorem LinkSaved.newReference {i : ι} {op : PaymentOp}
    {next : Except PaymentError op.Ret → Program (Raising PaymentError PaymentOp.Ret) α}
    (h : LinkSaved calls pool (i, choice)) (hrest : pool.rest i = .call op next) :
    NewReference deployment calls pool (i, choice) := by
  unfold LinkSaved at h
  unfold NewReference
  cases hcall : calls i with
  | initiatePayment cmd =>
    simp only [hcall] at h ⊢
    intro payment hmem
    rw [savedOnTurn_of_call hrest] at hmem
    cases op with
    | atomic body =>
      have hissued : issuedNext pool i = body := by simp only [issuedNext, hrest]
      rw [hissued] at h
      cases hanswer : (PaymentState.exec deployment choice (.atomic body) pool.state).1 with
      | error error =>
        rw [hanswer] at hmem
        cases hmem
      | ok _ =>
        rw [hanswer] at hmem
        exact (h payment hmem).new_reference
    | _ =>
      rw [committed_of_not_atomic fun body heq => by cases heq] at hmem
      cases hmem
  | _ => trivial

/-- A performed call keeps the payments or saves one. -/
theorem Change.kept_or_saved {call : PaymentCall} {log : PaymentLog} {record : PaymentCallRecord}
    {now : Datetime} {before after : PaymentDb}
    (h : Change deployment call log record now before after) :
    after.payments = before.payments ∨
      ∃ payment row, SavedAs deployment now payment row before after := by
  cases h with
  | kept payments_eq => exact Or.inl payments_eq
  | moved held_eq move saved_eq saved => exact Or.inr ⟨_, _, saved⟩
  | initiated initiation auditId call_eq log_eq record_eq saved => exact Or.inr ⟨_, _, saved⟩

/-- The provider references of the stored payments are hashed, and no two payments share one. -/
structure ReferencesStored (deployment : Deployment) (db : PaymentDb) : Prop where
  hashed : ∀ row ∈ db.payments.rows,
    row.providerReferenceHash = computeProviderHash deployment row.providerReference
  unique : ∀ row ∈ db.payments.rows, ∀ row' ∈ db.payments.rows, ∀ providerRef,
    row.providerReference = some providerRef → row'.providerReference = some providerRef →
      row'.reference = row.reference

/-- A performed call keeps the provider references hashed and apart. -/
theorem ReferencesStored.change {call : PaymentCall} {log : PaymentLog}
    {record : PaymentCallRecord} {now : Datetime} {before after : PaymentDb}
    (h : ReferencesStored deployment before)
    (hchange : Change deployment call log record now before after) :
    ReferencesStored deployment after := by
  rcases hchange.kept_or_saved with hkept | ⟨payment, saved, hsaved⟩
  · constructor
    · rw [hkept]
      exact h.hashed
    · rw [hkept]
      exact h.unique
  · have hprovider : saved.providerReference = payment.providerReference :=
      congrArg Payment.providerReference hsaved.toDomain_eq
    have hapart (row : PaymentRow) (hrow : row ∈ before.payments.rows)
        (hne : row.reference ≠ saved.reference) (providerRef : String)
        (hpayment : saved.providerReference = some providerRef) :
        row.providerReference ≠ some providerRef :=
      hsaved.provider_unique hrow (fun heq => hne (heq.trans hsaved.reference_eq.symm))
        (hprovider.symm.trans hpayment)
    constructor
    · intro row hrow
      rw [hsaved.payments_eq] at hrow
      rcases Table.mem_upsert_iff.mp hrow with rfl | ⟨hrow, _⟩
      · rw [hsaved.hash_eq, hprovider]
      · exact h.hashed row hrow
    · rw [hsaved.payments_eq]
      refine Table.upsert_pairs (fun _ _ _ => rfl) (fun row hrow hne => ?_) h.unique
      exact ⟨fun providerRef hpayment hrow' => absurd hrow' (hapart row hrow hne _ hpayment),
        fun providerRef hrow' hpayment => absurd hrow' (hapart row hrow hne _ hpayment)⟩

/-- Every transaction of an initiation has committed, and its payment is stored with the
reference of its link. -/
structure Linked (deployment : Deployment) (calls : ι → PaymentCall) (pool : CallPool ι α) :
    Prop where
  retained : Retained pool
  references : ReferencesStored deployment pool.state.db
  committed : ∀ i cmd (initiation : Initiation cmd) auditId error,
    calls i = .initiatePayment cmd →
      ⟨.atomic (initiation.body auditId), .error error⟩ ∉ pool.log i
  persisted : ∀ i cmd (initiation : Initiation cmd) auditId, calls i = .initiatePayment cmd →
    ⟨.atomic (initiation.body auditId), .ok ()⟩ ∈ pool.log i →
      ∃ row ∈ pool.state.db.payments.rows, row.providerReference = some initiation.providerRef

/-- The transaction of an initiation that has been committed has stored its payment. -/
theorem stored_of_committed {cmd : InitiatePaymentCommand} {initiation : Initiation cmd}
    {auditId : UUID} {s : PaymentState}
    (h : (PaymentState.exec deployment choice (.atomic (initiation.body auditId)) s).1 = .ok ()) :
    ∃ row, SavedAs deployment (s.clock + choice.elapsed) initiation.payment row s.db
      (PaymentState.exec deployment choice (.atomic (initiation.body auditId)) s).2.db :=
  (runBody_saves (runBody_of_exec_ok h)).2 initiation.payment rfl

/-- Turns on which the initiations save their payments without an error keep every link with
its payment. -/
theorem keeps_linked {post : ι → PaymentLog → α → Prop} :
    Pool.Keeps (PaymentState.exec deployment) (fun i => saveContract (calls i)) post
      (LinkSaved calls) (Linked deployment calls) := by
  intro pool i choice op next _ hlinked hsaved hrest hallowed
  obtain ⟨hretained, hrows⟩ := hlinked.retained.step hrest hallowed (hsaved.newReference hrest)
  refine ⟨hretained, ?_, ?_, ?_⟩
  · rw [Pool.step_of_call hrest]
    exact hlinked.references.change (change_of_allowed deployment hallowed choice pool.state)
  · intro j cmd initiation auditId error hcall hmem
    rcases (Pool.mem_log_step hrest).mp hmem with ⟨rfl, heq⟩ | hmem
    · obtain ⟨rfl, hanswer⟩ := Sigma.mk.inj heq
      have hissued : issuedNext pool i = initiation.body auditId := by
        simp only [issuedNext, hrest]
      unfold LinkSaved at hsaved
      simp only [hcall, hissued] at hsaved
      have hcommits : (PaymentState.exec deployment choice
          (.atomic (initiation.body auditId)) pool.state).1 = .ok () :=
        (hsaved initiation.payment (List.mem_singleton_self _)).commits
      rw [← eq_of_heq hanswer] at hcommits
      cases hcommits
    · exact hlinked.committed j cmd initiation auditId error hcall hmem
  · intro j cmd initiation auditId hcall hmem
    rcases (Pool.mem_log_step hrest).mp hmem with ⟨rfl, heq⟩ | hmem
    · obtain ⟨rfl, hanswer⟩ := Sigma.mk.inj heq
      obtain ⟨row, hrow⟩ := stored_of_committed (eq_of_heq hanswer).symm
      rw [Pool.step_of_call hrest]
      refine ⟨row, ?_, congrArg Payment.providerReference hrow.toDomain_eq⟩
      rw [hrow.payments_eq]
      exact Table.mem_upsert_iff.mpr (Or.inl rfl)
    · obtain ⟨row, hrow, hprovider⟩ := hlinked.persisted j cmd initiation auditId hcall hmem
      obtain ⟨row', hrow', hholds⟩ := hrows _ row (Table.lookup_of_mem hrow)
      refine ⟨row', Table.mem_of_lookup hrow', ?_⟩
      exact (congrArg Payment.providerReference hholds).trans hprovider

/-- The links that a performed call has been given, with their provider references. -/
def createdLinks : PaymentCallRecord → List (String × String)
  | ⟨.createPaymentLink, .ok link⟩ => [link]
  | _ => []

theorem mem_createdLinks {log : PaymentLog} {link : String × String}
    (h : link ∈ log.flatMap createdLinks) : ⟨.createPaymentLink, .ok link⟩ ∈ log := by
  obtain ⟨⟨op, answer⟩, hmem, hlink⟩ := List.mem_flatMap.mp h
  cases op with
  | createPaymentLink =>
    cases answer with
    | error error => cases hlink
    | ok link' =>
      obtain rfl := List.mem_singleton.mp hlink
      exact hmem
  | _ => cases hlink

/-- The webhook of a transaction finds a payment with its provider reference. -/
def webhookFinds (deployment : Deployment) (db : PaymentDb) (providerRef : String) : Bool :=
  match db.findByProviderReference deployment (.text providerRef) with
  | .ok (some payment) => payment.providerReference = some providerRef
  | _ => false

/-- `objects.get(…)` finds the only row that matches. -/
theorem PaymentDb.getPayment_of_unique {db : PaymentDb} {matching : PaymentRow → Bool}
    {row : PaymentRow} (hrow : row ∈ db.payments.rows) (hmatch : matching row = true)
    (hunique : ∀ row' ∈ db.payments.rows, matching row' = true → row' = row) :
    db.getPayment matching = .ok (some row.toDomain) := by
  have hnodup : db.payments.rows.Nodup := List.Nodup.of_map _ db.payments.nodup
  have hfilter : db.payments.rows.filter matching = [row] := by
    apply List.perm_singleton.mp
    rw [List.perm_ext_iff_of_nodup (hnodup.filter _) (List.nodup_singleton _)]
    intro row'
    rw [List.mem_filter, List.mem_singleton]
    constructor
    · exact fun h => hunique row' h.1 h.2
    · rintro rfl
      exact ⟨hrow, hmatch⟩
  unfold PaymentDb.getPayment
  rw [hfilter]

/-- A stored payment is found by the webhook of its provider reference. -/
theorem ReferencesStored.webhookFinds {db : PaymentDb} (h : ReferencesStored deployment db)
    (hhash : Function.Injective deployment.providerHash) {row : PaymentRow} {providerRef : String}
    (hrow : row ∈ db.payments.rows) (hprovider : row.providerReference = some providerRef)
    (hname : providerRef ≠ "") : Payments.webhookFinds deployment db providerRef = true := by
  have hstored (row : PaymentRow) (providerRef : String)
      (hrow : row ∈ db.payments.rows) (hprovider : row.providerReference = some providerRef)
      (hname : providerRef ≠ "") :
      row.providerReferenceHash = some (deployment.providerHash providerRef) := by
    rw [h.hashed row hrow, hprovider]
    exact if_neg hname
  have hfound : db.findByProviderReference deployment (.text providerRef) =
      .ok (some row.toDomain) := by
    unfold PaymentDb.findByProviderReference
    rw [if_neg (by simpa [JsonValue.isTruthy] using hname)]
    refine PaymentDb.getPayment_of_unique hrow
      (by simpa using hstored row providerRef hrow hprovider hname) fun row' hrow' hmatch => ?_
    have hhashed : row'.providerReferenceHash = some (deployment.providerHash providerRef) := by
      simpa using hmatch
    obtain ⟨providerRef', hprovider', heq⟩ : ∃ providerRef',
        row'.providerReference = some providerRef' ∧ providerRef' = providerRef := by
      rw [h.hashed row' hrow'] at hhashed
      cases hprovider' : row'.providerReference with
      | none =>
        rw [hprovider'] at hhashed
        cases hhashed
      | some providerRef' =>
        rw [hprovider'] at hhashed
        refine ⟨providerRef', rfl, ?_⟩
        simp only [computeProviderHash] at hhashed
        split at hhashed
        · cases hhashed
        · exact hhash (Option.some.inj hhashed)
    have hkey := h.unique row hrow row' hrow' providerRef hprovider (heq ▸ hprovider')
    have hlookup := Table.lookup_of_mem hrow'
    rw [hkey, Table.lookup_of_mem hrow] at hlookup
    exact (Option.some.inj hlookup).symm
  unfold Payments.webhookFinds
  rw [hfound]
  exact decide_eq_true hprovider

/-- The first initiation runs to its end. -/
def firstInitiation : List (Fin 6 × Choice) := (List.range 11).map (initiationTurn 0)

/-- An initiation with the method as its view passes it, as plain text. -/
def textMethod : Unit → PaymentCall :=
  fun _ => .initiatePayment { sampleInitiate "key_1" with method := .text "card" }

/-- In every run in which the initiations save their payments without an error, every link that
the provider has created belongs to a payment that its webhook finds, as soon as the initiation
has ended. -/
theorem links_belong_to_payments (hhash : Function.Injective deployment.providerHash)
    (calls : ι → PaymentCall) {s : PaymentState} (hempty : s.db.payments.rows = [])
    (schedule : List (ι × Choice))
    (hsaved : Pool.Always (PaymentState.exec deployment) (LinkSaved calls) (startCalls s calls)
      schedule) (i : ι) (cmd : InitiatePaymentCommand) (hcall : calls i = .initiatePayment cmd) :
    let pool := (startCalls s calls).run (PaymentState.exec deployment) schedule
    pool.next i = none → ∀ link ∈ (pool.log i).flatMap createdLinks,
      webhookFinds deployment pool.state.db link.2 = true := by
  have hrows : (startCalls s calls).state.db.payments.rows = [] := hempty
  have hstart : Linked deployment calls (startCalls s calls) := by
    refine ⟨fun _ _ _ h => (by cases h), ⟨?_, ?_⟩, fun _ _ _ _ _ _ h => (by cases h),
      fun _ _ _ _ _ h => (by cases h)⟩
    · rw [hrows]
      exact fun _ h => (by cases h)
    · rw [hrows]
      exact fun _ h => (by cases h)
  have hpool : Pool.Disciplined (fun i => saveContract (calls i)) (fun i => CallEnded (calls i))
      (startCalls s calls) := fun i => followsSaveContract (calls i)
  obtain ⟨hdisciplined, hlinked⟩ :=
    keeps_linked.run (answers_saveContract calls) hpool hstart hsaved
  intro pool hended link hlink
  obtain ⟨outcome, hdone⟩ := Pool.done_of_next_eq_none hended
  obtain ⟨result, hresult, _⟩ := (hdisciplined.post_done hdone).2 cmd hcall
  generalize hlog : pool.log i = log at hresult hlink
  cases hresult with
  | replayed existing => cases hlink
  | refused error no_link => exact absurd (mem_createdLinks hlink) (no_link link)
  | unpersisted initiation auditId error =>
    exact absurd (hlog ▸ List.mem_cons_self)
      (hlinked.committed i cmd initiation auditId error hcall)
  | persisted initiation auditId =>
    obtain ⟨row, hrow, hprovider⟩ := hlinked.persisted i cmd initiation auditId hcall
      (hlog ▸ List.mem_cons_self)
    obtain rfl := List.mem_singleton.mp hlink
    exact hlinked.references.webhookFinds hhash hrow hprovider initiation.providerRef_ne

/-- The link of the first initiation is found. -/
theorem links_belong_to_payments_sample :
    let pool := (startCalls emptyState sixInitiations).run (PaymentState.exec sampleDeployment)
      firstInitiation
    (pool.log 0).flatMap createdLinks ≠ [] ∧
      ∀ link ∈ (pool.log 0).flatMap createdLinks,
        webhookFinds sampleDeployment pool.state.db link.2 = true :=
  ⟨by decide +kernel, links_belong_to_payments Function.injective_id sixInitiations rfl
    firstInitiation (by decide +kernel) 0 (sampleInitiate "") rfl (by decide +kernel)⟩

/-- A method in plain text fails the save after the link has been created. -/
theorem link_without_payment :
    ¬ ∀ schedule : List (Unit × Choice),
      let pool := (startCalls emptyState textMethod).run (PaymentState.exec sampleDeployment)
        schedule
      pool.next () = none → ∀ link ∈ (pool.log ()).flatMap createdLinks,
        webhookFinds sampleDeployment pool.state.db link.2 = true := by
  intro h
  have hlost := h (List.replicate 11 ((), calm 1))
  revert hlost
  decide +kernel

end Linkapro.Payments
