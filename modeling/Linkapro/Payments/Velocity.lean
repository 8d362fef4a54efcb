import Linkapro.Lib.Windows
import Linkapro.Payments.Initiations

/-!
# Payments: the velocity limits

An initiation reads what its user has created in the last hour and in the last day,
and saves its payment later. The limits hold of every period as long as the new
payment still fits when it is saved: no other payment may have been saved since the
counts were read, and the amount limit has to count the new amount, too.
-/

namespace Linkapro.Payments

open Lib

variable {deployment : Deployment} {choice : Choice} {s : PaymentState}

/-- The instants that a performed call reads. -/
def instants : PaymentCallRecord → List Datetime
  | ⟨.utcNow, .ok now⟩ => [now]
  | _ => []

/-- The velocity check of a performed call: its instant and what it has read. -/
def velocityChecks : PaymentCallRecord → List (Datetime × VelocityContext)
  | ⟨.getVelocityContext _ now, .ok velocity⟩ => [(now, velocity)]
  | _ => []

theorem PaymentState.reading_clock {α : Type} {answer : Except PaymentError α} :
    (PaymentState.reading choice answer s).2.clock = s.clock := by
  unfold PaymentState.reading
  cases choice.fault with
  | none => rfl
  | some fault => rfl

theorem PaymentState.writing_clock {α : Type} {answer : α} {after before : PaymentState}
    (h : after.clock = before.clock) :
    (PaymentState.writing choice answer after before).2.clock = before.clock := by
  unfold PaymentState.writing
  cases choice.fault with
  | none => exact h
  | some fault =>
    change (if fault.applied = true then after else before).clock = before.clock
    split
    · exact h
    · rfl

/-- Every call takes its time. -/
theorem exec_clock {op : PaymentOp} :
    (PaymentState.exec deployment choice op s).2.clock = s.clock + choice.elapsed := by
  cases op with
  | atomic body =>
    rcases exec_atomic deployment choice s body with ⟨_, _, hexec⟩ | ⟨_, hexec⟩
    · rw [hexec]
    · rw [hexec]
  | acquireLock lockKey ttlSeconds =>
    simp only [PaymentState.exec, PaymentState.effect]
    split
    · exact PaymentState.writing_clock rfl
    · exact PaymentState.writing_clock rfl
  | incrRetry retryKey =>
    simp only [PaymentState.exec, PaymentState.effect]
    split
    · exact PaymentState.writing_clock rfl
    · exact PaymentState.writing_clock rfl
  | expireRetry retryKey ttlSeconds =>
    simp only [PaymentState.exec, PaymentState.effect]
    split
    · exact PaymentState.writing_clock rfl
    · exact PaymentState.writing_clock rfl
  | releaseLock | resetRetry | sendTask => exact PaymentState.writing_clock rfl
  | utcNow | uuid4 => rfl
  | _ => exact PaymentState.reading_clock

/-- The instants that a call has read are in order, and none of them is to come. -/
structure Clocked (now : Datetime) (log : PaymentLog) : Prop where
  sorted : (log.flatMap instants).Pairwise fun later earlier => earlier ≤ later
  past : ∀ instant ∈ log.flatMap instants, instant ≤ now

namespace Clocked

variable {now now' : Datetime} {log : PaymentLog}

theorem nil : Clocked now [] := ⟨List.Pairwise.nil, fun _ h => by cases h⟩

theorem mono (h : Clocked now log) (hnow : now ≤ now') : Clocked now' log :=
  ⟨h.sorted, fun instant hmem => (h.past instant hmem).trans hnow⟩

/-- A performed call keeps the instants in order. -/
theorem exec {op : PaymentOp} (h : Clocked s.clock log) :
    Clocked (PaymentState.exec deployment choice op s).2.clock
      (⟨op, (PaymentState.exec deployment choice op s).1⟩ :: log) := by
  have hlater : s.clock ≤ (PaymentState.exec deployment choice op s).2.clock := by
    rw [exec_clock]
    exact Int.le_add_of_nonneg_right (Int.natCast_nonneg _)
  by_cases hread : op = .utcNow
  · subst hread
    have hinstants : List.flatMap instants
        (⟨.utcNow, (PaymentState.exec deployment choice .utcNow s).1⟩ :: log) =
        (s.clock + choice.elapsed) :: log.flatMap instants := rfl
    constructor
    · rw [hinstants, List.pairwise_cons]
      exact ⟨fun instant hmem => (h.past instant hmem).trans hlater, h.sorted⟩
    · rw [hinstants]
      intro instant hmem
      rcases List.mem_cons.mp hmem with rfl | hmem
      · exact le_rfl
      · exact (h.past instant hmem).trans hlater
  · have hinstants : List.flatMap instants
        (⟨op, (PaymentState.exec deployment choice op s).1⟩ :: log) =
        log.flatMap instants := by
      rw [List.flatMap_cons]
      cases op with
      | utcNow => exact absurd rfl hread
      | _ => rfl
    constructor
    · rw [hinstants]
      exact h.sorted
    · rw [hinstants]
      exact (h.mono hlater).past

/-- An initiation reads its instants in order. -/
theorem initiation {cmd : InitiatePaymentCommand} {initiation : Initiation cmd} {auditId : UUID}
    (h : Clocked now (initiation.logBefore auditId)) :
    initiation.now ≤ initiation.createdAt ∧ initiation.createdAt ≤ now := by
  have hinstants : (initiation.logBefore auditId).flatMap instants =
      [initiation.policyNow, initiation.createdAt, initiation.now] := rfl
  constructor
  · have hsorted := h.sorted
    rw [hinstants] at hsorted
    exact (List.pairwise_cons.mp (List.pairwise_cons.mp hsorted).2).1 _ List.mem_cons_self
  · apply h.past
    rw [hinstants]
    simp

end Clocked

/-- No negative amount is in the range of a currency. -/
theorem Money.minorUnits_nonneg (money : Money) : 0 ≤ money.minorUnits := by
  refine le_trans ?_ money.inRange.1
  cases money.currency <;> decide

/-- A limit on the payments is kept when a moved payment keeps its user, its amount and its
creation time, and an initiated one still fits since its velocity check. -/
theorem Change.limited {call : PaymentCall} {log : PaymentLog} {record : PaymentCallRecord}
    {now : Datetime} {before after : PaymentDb} {weight : PaymentRow → ℤ}
    {length : Timedelta} {limit : ℤ} (h : Change deployment call log record now before after)
    (hlimited : Limited PaymentRow.createdAt weight length limit before.payments.rows)
    (hweights : ∀ row, 0 ≤ weight row) (hclocked : Clocked now log)
    (hmoved : ∀ payment row, held payment.reference log = some payment →
      payment.reference ∈ (savedPayments (committed record)).map Payment.reference →
      row.userId = payment.userId → row.amount = payment.amount →
      ∃ old, before.payments.lookup payment.reference = some old ∧
        old.createdAt = payment.createdAt ∧ weight row = weight old)
    (hinitiated : ∀ cmd (initiation : Initiation cmd) auditId row,
      log = initiation.logBefore auditId →
      savedPayments (committed record) = [initiation.payment] →
      row.userId = cmd.userId → row.amount = cmd.amount → weight row = 0 ∨
      loadSince PaymentRow.createdAt weight (initiation.now - length) before.payments.rows +
        weight row ≤ limit) :
    Limited PaymentRow.createdAt weight length limit after.payments.rows := by
  cases h with
  | kept payments_eq =>
    rw [payments_eq]
    exact hlimited
  | @moved payment new row held_eq move saved_eq saved =>
    rw [saved.payments_eq]
    have hdomain := saved.toDomain_eq
    have huser : row.userId = payment.userId := congrArg Payment.userId hdomain
    have hamount : row.amount = payment.amount := congrArg Payment.amount hdomain
    obtain ⟨old, hold, hcreated, hweight⟩ :=
      hmoved payment row held_eq (by rw [saved_eq]; simp) huser hamount
    have hkey : old.reference = row.reference :=
      (Table.key_of_lookup hold).trans saved.reference_eq.symm
    have hrows := Table.rows_perm (Table.mem_of_lookup hold)
    rw [hkey] at hrows
    refine ((hlimited.perm hrows).replace ?_ hweight).perm Table.upsert_perm.symm
    exact (saved.createdAt_old hold).trans hcreated.symm
  | @initiated cmd initiation auditId row call_eq log_eq record_eq saved =>
    rw [saved.payments_eq]
    have hdomain := saved.toDomain_eq
    have hcreated : initiation.now ≤ row.createdAt := by
      rw [log_eq] at hclocked
      obtain ⟨hfirst, hsecond⟩ := hclocked.initiation
      cases hold : before.payments.lookup initiation.payment.reference with
      | none =>
        rw [saved.createdAt_new hold]
        exact hfirst.trans hsecond
      | some old =>
        rw [saved.createdAt_old hold]
        exact hfirst
    have hsub : (before.payments.rows.filter fun other =>
        other.reference ≠ row.reference).Sublist before.payments.rows := List.filter_sublist
    have hrest : Limited PaymentRow.createdAt weight length limit
        (before.payments.rows.filter fun other => other.reference ≠ row.reference) :=
      hlimited.sublist hsub fun row _ => hweights row
    rcases hinitiated cmd initiation auditId row log_eq (by rw [record_eq]; rfl)
      (congrArg Payment.userId hdomain) (congrArg Payment.amount hdomain) with hweight | hfits
    · exact (hrest.add_weightless hweight).perm Table.upsert_perm.symm
    · refine (hrest.add (fun row _ => hweights row) ?_ hcreated).perm Table.upsert_perm.symm
      have hload : loadSince PaymentRow.createdAt weight (initiation.now - length)
          (before.payments.rows.filter fun other => other.reference ≠ row.reference) ≤
          loadSince PaymentRow.createdAt weight (initiation.now - length) before.payments.rows :=
        loadSince_le_of_sublist hsub fun row _ => hweights row
      linarith

/-- The payments of a user that were created in a period. -/
def PaymentDb.createdIn (db : PaymentDb) (userId : UUID) (first last : Datetime) :
    List PaymentRow :=
  (db.payments.rows.filter fun row => row.userId = userId).filter fun row =>
    first ≤ row.createdAt ∧ row.createdAt ≤ last

/-- Every payment of the user counts once. -/
def countOf (userId : UUID) (row : PaymentRow) : ℤ := if row.userId = userId then 1 else 0

theorem countOf_nonneg (userId : UUID) (row : PaymentRow) : 0 ≤ countOf userId row := by
  unfold countOf
  split
  · exact zero_le_one
  · exact le_rfl

/-- The load of a period is the number of the payments that were created in it. -/
theorem load_countOf {db : PaymentDb} {userId : UUID} {first last : Datetime} :
    load PaymentRow.createdAt (countOf userId) first last db.payments.rows =
      (db.createdIn userId first last).length := by
  have hload : load PaymentRow.createdAt (countOf userId) first last db.payments.rows =
      load PaymentRow.createdAt (fun _ => 1) first last
        (db.payments.rows.filter fun row => row.userId = userId) := load_ite
  rw [hload]
  unfold load PaymentDb.createdIn
  rw [List.map_const', List.sum_replicate, nsmul_one]

/-- The velocity context counts the payments since an instant. -/
theorem loadSince_countOf {db : PaymentDb} {userId : UUID} {first : Datetime} :
    loadSince PaymentRow.createdAt (countOf userId) first db.payments.rows =
      (db.payments.rows.filter fun row => row.userId = userId ∧ first ≤ row.createdAt).length := by
  have hload : loadSince PaymentRow.createdAt (countOf userId) first db.payments.rows =
      loadSince PaymentRow.createdAt (fun _ => 1) first
        (db.payments.rows.filter fun row => row.userId = userId) := loadSince_ite
  rw [hload]
  unfold loadSince
  rw [List.map_const', List.sum_replicate, nsmul_one, List.filter_filter]
  congr 2
  apply List.filter_congr
  intro row _
  simp [and_comm]

/-- A policy that allows a payment has counted less than its limits. -/
theorem VelocityPolicy.counts_of_allowed {context : VelocityContext}
    (h : (VelocityPolicy.apply context).allowed = true) :
    context.paymentsLastHour + 1 ≤ 5 ∧ context.paymentsLastDay + 1 ≤ 20 := by
  unfold VelocityPolicy.apply at h
  split at h
  · cases h
  · split at h
    · cases h
    · omega

section Interleaved

variable {ι : Type} [DecidableEq ι] {calls : ι → PaymentCall}

/-- On this turn, an initiation that saves its payment finds no more payments of its user than
it has counted, and a payment that a call has read is saved over the user and the creation
time that were read. -/
def CountsUnchanged (deployment : Deployment) (pool : PaymentPool ι) (turn : ι × Choice) : Prop :=
  ∀ payment ∈ savedOnTurn deployment pool turn,
    (∀ check ∈ (pool.log turn.1).flatMap velocityChecks,
      (pool.state.db.getVelocityContext payment.userId check.1).paymentsLastHour ≤
          check.2.paymentsLastHour ∧
        (pool.state.db.getVelocityContext payment.userId check.1).paymentsLastDay ≤
          check.2.paymentsLastDay) ∧
    ∀ read ∈ held payment.reference (pool.log turn.1),
      (pool.state.db.payments.lookup payment.reference).map
        (fun row => (row.userId, row.createdAt)) = some (read.userId, read.createdAt)

instance (deployment : Deployment) (pool : PaymentPool ι) (turn : ι × Choice) :
    Decidable (CountsUnchanged deployment pool turn) :=
  inferInstanceAs (Decidable (∀ _ ∈ _, _))

/-- The calls read the clock in order, and the payments of each user are limited. -/
structure CountsLimited (pool : PaymentPool ι) : Prop where
  clocked : ∀ i, Clocked pool.state.clock (pool.log i)
  hour : ∀ userId, Limited PaymentRow.createdAt (countOf userId) (hours 1) 5
    pool.state.db.payments.rows
  day : ∀ userId, Limited PaymentRow.createdAt (countOf userId) (days 1) 20
    pool.state.db.payments.rows

/-- A turn keeps the instants of all calls in order. -/
theorem Clocked.step {α : Type} {pool : CallPool ι α}
    (h : ∀ i, Clocked pool.state.clock (pool.log i)) (turn : ι × Choice) (i : ι) :
    Clocked (pool.step (PaymentState.exec deployment) turn).state.clock
      ((pool.step (PaymentState.exec deployment) turn).log i) := by
  obtain ⟨j, choice⟩ := turn
  cases hrest : pool.rest j with
  | done outcome =>
    rw [Pool.step_of_done hrest]
    exact h i
  | call op next =>
    by_cases hij : j = i
    · subst hij
      rw [Pool.log_step_self hrest, Pool.step_of_call hrest]
      exact (h j).exec
    · rw [Pool.log_step_other hij, Pool.step_of_call hrest]
      refine (h i).mono ?_
      rw [exec_clock]
      exact Int.le_add_of_nonneg_right (Int.natCast_nonneg _)

/-- Turns on which no counted payment is overtaken keep the limits. -/
theorem keeps_countsLimited {post : ι → PaymentLog → Except PaymentError Unit → Prop} :
    Pool.Keeps (PaymentState.exec deployment) (fun i => saveContract (calls i)) post
      (CountsUnchanged deployment) CountsLimited := by
  intro pool i choice op next _ hlimited hunchanged hrest hallowed
  have hchange := change_of_allowed deployment hallowed choice pool.state
  have hclocked : Clocked (pool.state.clock + choice.elapsed) (pool.log i) :=
    (hlimited.clocked i).mono (Int.le_add_of_nonneg_right (Int.natCast_nonneg _))
  unfold CountsUnchanged at hunchanged
  rw [savedOnTurn_of_call hrest] at hunchanged
  have hmoved (userId : UUID) (payment : Payment) (row : PaymentRow)
      (hheld : held payment.reference (pool.log i) = some payment)
      (hmem : payment.reference ∈ (savedPayments (committed
        ⟨op, (PaymentState.exec deployment choice op pool.state).1⟩)).map Payment.reference)
      (huser : row.userId = payment.userId) :
      ∃ old, pool.state.db.payments.lookup payment.reference = some old ∧
        old.createdAt = payment.createdAt ∧ countOf userId row = countOf userId old := by
    obtain ⟨saved, hsaved, hreference⟩ := List.mem_map.mp hmem
    have hstored := (hunchanged saved hsaved).2 payment (hreference.symm ▸ hheld)
    rw [hreference] at hstored
    obtain ⟨old, hold, hpair⟩ := Option.map_eq_some_iff.mp hstored
    obtain ⟨holdUser, hcreated⟩ := Prod.mk.inj hpair
    refine ⟨old, hold, hcreated, ?_⟩
    unfold countOf
    rw [huser, holdUser]
  have hcheck (cmd : InitiatePaymentCommand) (initiation : Initiation cmd) (auditId : UUID)
      (hlog : pool.log i = initiation.logBefore auditId)
      (hsaved : savedPayments (committed
        ⟨op, (PaymentState.exec deployment choice op pool.state).1⟩) = [initiation.payment]) :=
    (hunchanged initiation.payment (by rw [hsaved]; exact List.mem_singleton_self _)).1
      (initiation.now, initiation.velocity) (by
        rw [hlog]
        simp [Initiation.logBefore, Initiation.log, Checks.log, velocityChecks])
  have hfits (userId : UUID) (cmd : InitiatePaymentCommand) (initiation : Initiation cmd)
      (row : PaymentRow) (length : Timedelta) (read current limit : ℕ)
      (huser : row.userId = cmd.userId)
      (hcurrent : (pool.state.db.payments.rows.filter fun row =>
        row.userId = cmd.userId ∧ initiation.now - length ≤ row.createdAt).length = current)
      (hread : current ≤ read) (hlimit : read + 1 ≤ limit) :
      countOf userId row = 0 ∨
        loadSince PaymentRow.createdAt (countOf userId) (initiation.now - length)
          pool.state.db.payments.rows + countOf userId row ≤ limit := by
    by_cases hsame : row.userId = userId
    · right
      have hone : countOf userId row = 1 := if_pos hsame
      rw [loadSince_countOf, hone, ← hsame, huser, hcurrent]
      omega
    · exact Or.inl (if_neg hsame)
  refine ⟨Clocked.step hlimited.clocked (i, choice), ?_, ?_⟩
  · intro userId
    rw [Pool.step_of_call hrest]
    refine hchange.limited (hlimited.hour userId) (countOf_nonneg userId) hclocked
      (fun payment row hheld hmem huser _ => hmoved userId payment row hheld hmem huser) ?_
    intro cmd initiation auditId row hlog hsaved huser _
    exact hfits userId cmd initiation row (hours 1) _ _ 5 huser rfl
      (hcheck cmd initiation auditId hlog hsaved).1
      (VelocityPolicy.counts_of_allowed initiation.allowed).1
  · intro userId
    rw [Pool.step_of_call hrest]
    refine hchange.limited (hlimited.day userId) (countOf_nonneg userId) hclocked
      (fun payment row hheld hmem huser _ => hmoved userId payment row hheld hmem huser) ?_
    intro cmd initiation auditId row hlog hsaved huser _
    exact hfits userId cmd initiation row (days 1) _ _ 20 huser rfl
      (hcheck cmd initiation auditId hlog hsaved).2
      (VelocityPolicy.counts_of_allowed initiation.allowed).2

end Interleaved

/-- A state without payments, at the first instant. -/
def emptyState : PaymentState where
  db :=
    { payments := Table.empty
      events := Table.empty
      auditLog := []
      outbox := Table.empty
      users := fun _ => some 0 }
  locks := fun _ => none
  retries := fun _ => none
  queue := []
  clock := 0

/-- User 7 initiates a payment of 1000 RWF under a key. -/
def sampleInitiate (key : String) : InitiatePaymentCommand where
  userId := 7
  amount := ⟨1000, .rwf, Money.thousand_inRange⟩
  method := .member .card
  idempotencyKey := key
  redirectBaseUrl := "https://app/"
  customerEmail := "user@example.com"
  customerName := none
  contextReference := none
  metadata := .none
  environment := .member .test

/-- Six initiations of one user. -/
def sixInitiations : Fin 6 → PaymentCall :=
  fun i => .initiatePayment (sampleInitiate (String.ofList (List.replicate i 'k')))

/-- The turn `k` of an initiation, with a random number of its own. -/
def initiationTurn (i : Fin 6) (k : ℕ) : Fin 6 × Choice :=
  (i, calm (BitVec.ofNat 128 ((16 * i + k + 1) * 2 ^ 84)))

/-- All six read their counts before one of them saves its payment. -/
def allReadFirst : List (Fin 6 × Choice) :=
  (List.finRange 6).flatMap (fun i => (List.range 3).map (initiationTurn i)) ++
    (List.finRange 6).flatMap fun i => (List.range 8).map fun k => initiationTurn i (k + 3)

/-- In every run in which no initiation is overtaken by another payment of its user, the user
creates at most five payments in every hour and at most twenty in every day. -/
theorem payment_counts_limited {ι : Type} [DecidableEq ι] (calls : ι → PaymentCall)
    {s : PaymentState} (hempty : s.db.payments.rows = []) (schedule : List (ι × Choice))
    (hunchanged : Pool.Always (PaymentState.exec deployment) (CountsUnchanged deployment)
      (startCalls s calls) schedule) (userId : UUID) (first : Datetime) :
    let db := ((startCalls s calls).run (PaymentState.exec deployment) schedule).state.db
    (db.createdIn userId first (first + hours 1)).length ≤ 5 ∧
      (db.createdIn userId first (first + days 1)).length ≤ 20 := by
  have hstart : CountsLimited (startCalls s calls) := by
    have hrows : (startCalls s calls).state.db.payments.rows = [] := hempty
    refine ⟨fun _ => Clocked.nil, fun userId => ?_, fun userId => ?_⟩
    · rw [hrows]
      exact Limited.nil (by decide)
    · rw [hrows]
      exact Limited.nil (by decide)
  have hpool : Pool.Disciplined (fun i => saveContract (calls i)) (fun i => CallEnded (calls i))
      (startCalls s calls) := fun i => followsSaveContract (calls i)
  have hend := (keeps_countsLimited.run (answers_saveContract calls) hpool hstart hunchanged).2
  intro db
  have hhour := hend.hour userId first
  have hday := hend.day userId first
  rw [load_countOf] at hhour hday
  exact ⟨Int.ofNat_le.mp hhour, Int.ofNat_le.mp hday⟩

/-- One of the six alone creates one payment. -/
theorem payment_counts_limited_sample :
    let db := ((startCalls emptyState sixInitiations).run (PaymentState.exec sampleDeployment)
      ((List.range 11).map (initiationTurn 0))).state.db
    (db.createdIn 7 0 (0 + hours 1)).length ≠ 0 ∧
      ((db.createdIn 7 0 (0 + hours 1)).length ≤ 5 ∧
        (db.createdIn 7 0 (0 + days 1)).length ≤ 20) :=
  ⟨by decide +kernel, payment_counts_limited sixInitiations rfl _ (by decide +kernel) 7 0⟩

/-- Six initiations that overlap create six payments in one hour. -/
theorem six_payments_in_an_hour :
    ¬ ∀ (schedule : List (Fin 6 × Choice)) (userId : UUID) (first : Datetime),
      let db := ((startCalls emptyState sixInitiations).run (PaymentState.exec sampleDeployment)
        schedule).state.db
      (db.createdIn userId first (first + hours 1)).length ≤ 5 ∧
        (db.createdIn userId first (first + days 1)).length ≤ 20 := by
  intro h
  have hsix := (h allReadFirst 7 0).1
  revert hsix
  decide +kernel

end Linkapro.Payments
