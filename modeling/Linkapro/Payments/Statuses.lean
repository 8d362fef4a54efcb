import Mathlib.Data.List.Chain
import Linkapro.Payments.Transactions

/-!
# Payments: the statuses of one payment

Webhooks, expiries and refund requests read a payment, change it in memory and
save every column. This file follows the statuses that they persist for one
payment. They form a path of the status machine without repetition exactly when
each committed save still finds the status that its call had read.
-/

namespace Linkapro.Payments

open Lib

variable {ι : Type}

/-- The statuses that a performed call has persisted for a reference. -/
def savedStatuses (reference : String) (record : PaymentCallRecord) : List PaymentStatus :=
  (savedPayments (committed record)).filterMap fun payment =>
    if payment.reference = reference then some payment.status else none

/-- The statuses persisted for a reference, newest first. -/
def persistedStatuses (reference : String) : PaymentHistory ι → List PaymentStatus
  | [] => []
  | entry :: history => savedStatuses reference entry.2 ++ persistedStatuses reference history

/-- The persisted statuses form a path of `_allowed_transitions` from the status
`first`, and none is persisted twice. -/
def LawfulStatuses (reference : String) (first : PaymentStatus) (history : PaymentHistory ι) :
    Prop :=
  (persistedStatuses reference history ++ [first]).IsChain
    (fun new old => new ∈ Payment.allowedTransitions old) ∧
  (persistedStatuses reference history).Nodup

instance (reference : String) (first : PaymentStatus) (history : PaymentHistory ι) :
    Decidable (LawfulStatuses reference first history) :=
  inferInstanceAs (Decidable (_ ∧ _))

/-- On this turn, a transaction that commits a save of the reference finds the
stored status that its call has read. -/
def SavesAsRead [DecidableEq ι] (deployment : Deployment) (reference : String)
    (pool : PaymentPool ι) (turn : ι × Choice) : Prop :=
  ∀ body next, pool.rest turn.1 = .call (.atomic body) next →
    (PaymentState.exec deployment turn.2 (.atomic body) pool.state).1 = .ok () →
    reference ∈ (savedPayments body).map Payment.reference →
      (pool.state.db.payments.lookup reference).map PaymentRow.status =
        (held reference (pool.log turn.1)).map Payment.status

/-- The status changes that the three handlers make. -/
inductive Move : PaymentStatus → PaymentStatus → Prop where
  | settle : Move .pending .success
  | expireInitiated : Move .initiated .expired
  | expirePending : Move .pending .expired
  | refund : Move .success .refundRequested

/-- A rank that every move increases. -/
def statusRank : PaymentStatus → ℕ
  | .initiated | .pending => 0
  | .refundRequested => 2
  | _ => 1

/-- The statuses that the three handlers persist. -/
def handlerStatuses : List PaymentStatus := [.success, .expired, .refundRequested]

namespace Move

variable {old new : PaymentStatus}

theorem allowed (h : Move old new) : new ∈ Payment.allowedTransitions old := by
  cases h <;> decide

theorem rank_lt (h : Move old new) : statusRank old < statusRank new := by
  cases h <;> decide

theorem mem_handlerStatuses (h : Move old new) : new ∈ handlerStatuses := by
  cases h <;> decide

end Move

/-- A chain of moves is a lawful history. -/
theorem lawfulStatuses_of_moves {reference : String} {first : PaymentStatus}
    {history : PaymentHistory ι}
    (h : (persistedStatuses reference history ++ [first]).IsChain fun new old => Move old new) :
    LawfulStatuses reference first history := by
  refine ⟨h.imp fun _ _ hmove => hmove.allowed, ?_⟩
  have hranks : (persistedStatuses reference history ++ [first]).IsChain
      fun new old => statusRank old < statusRank new := h.imp fun _ _ hmove => hmove.rank_lt
  have htrans : ((persistedStatuses reference history ++ [first]).map statusRank).IsChain
      (· > ·) := (List.isChain_map statusRank).mpr hranks
  have hnodup := (List.isChain_iff_pairwise.mp htrans).imp fun {a b} (hlt : a > b) => hlt.ne'
  exact ((List.nodup_append.mp (List.Nodup.of_map statusRank hnodup)).1)

/-- In a lawful history a move starts from the status persisted last: no status was
persisted since the move's call read the payment. -/
theorem recent_eq_nil {new read first : PaymentStatus} {recent older : List PaymentStatus}
    (hmove : Move read new) (hread : (older ++ [first]).head? = some read)
    (hsettled : ∀ status ∈ recent, status ∈ handlerStatuses)
    (hchain : (new :: (recent ++ older) ++ [first]).IsChain
      fun new old => new ∈ Payment.allowedTransitions old)
    (hnodup : (new :: (recent ++ older)).Nodup) : recent = [] := by
  cases recent with
  | nil => rfl
  | cons top rest =>
    exfalso
    obtain ⟨below, hbelow, hbelow_eq⟩ : ∃ below, (rest ++ (older ++ [first])).head? = some below ∧
        (below = read ∨ below ∈ rest) := by
      cases rest with
      | nil => exact ⟨read, hread, Or.inl rfl⟩
      | cons below rest => exact ⟨below, rfl, Or.inr List.mem_cons_self⟩
    rw [List.cons_append, List.append_assoc, List.cons_append, List.isChain_cons_cons,
      List.isChain_cons] at hchain
    have htop := hchain.1
    have hnext := hchain.2.1 below hbelow
    have hmem_top := hsettled top List.mem_cons_self
    have hnew : ∀ status ∈ top :: rest, new ≠ status := fun status hmem heq =>
      (List.nodup_cons.mp hnodup).1 (heq ▸ List.mem_append_left _ hmem)
    have hbelow_mem : below = read ∨ (below ∈ handlerStatuses ∧ new ≠ below) := by
      refine hbelow_eq.imp id fun hmem => ?_
      exact ⟨hsettled below (List.mem_cons_of_mem _ hmem),
        hnew below (List.mem_cons_of_mem _ hmem)⟩
    clear hbelow hbelow_eq hchain hnodup hsettled hread hnew
    cases hmove <;> cases top <;> revert htop hnext hmem_top hbelow_mem <;>
      cases below <;> decide

/-- A handler's transaction saves nothing, or makes one move of a payment that it holds. -/
theorem Issued.saves {call : PaymentCall} {log : PaymentLog} {body : List TxWrite}
    (h : Issued call log body) (hcall : ∀ cmd, call ≠ .initiatePayment cmd) :
    savedPayments body = [] ∨
      ∃ payment new, held payment.reference log = some payment ∧ Move payment.status new ∧
        savedPayments body = [{ payment with status := new }] := by
  cases h with
  | success origin found held_eq confirmed =>
    exact Or.inr ⟨_, .success, held_eq, confirmed.pending ▸ Move.settle,
      savedPayments_successBody confirmed.pending⟩
  | expire call_eq held_eq expirable =>
    refine Or.inr ⟨_, .expired, held_eq, ?_, savedPayments_expireBody expirable.1⟩
    rcases expirable.1 with hstatus | hstatus
    · exact hstatus ▸ Move.expireInitiated
    · exact hstatus ▸ Move.expirePending
  | refund call_eq held_eq succeeded =>
    exact Or.inr ⟨_, .refundRequested, held_eq, succeeded ▸ Move.refund,
      savedPayments_refundBody succeeded⟩
  | initiate call_eq pending environment => exact absurd call_eq (hcall _)
  | _ => exact Or.inl rfl

/-- What a performed call persists for a reference is the status of the payment that
its committed body saves. -/
theorem savedStatuses_atomic (reference : String) {body : List TxWrite} {payment : Payment}
    (hsaves : savedPayments body = [payment]) :
    savedStatuses reference ⟨.atomic body, .ok ()⟩ =
      if payment.reference = reference then [payment.status] else [] := by
  change (savedPayments body).filterMap _ = _
  rw [hsaves]
  by_cases h : payment.reference = reference
  · simp [h]
  · simp [h]

/-- How the stored row, the persisted statuses and the payments held by the calls
belong together. It holds in every run. -/
structure StatusTrace [DecidableEq ι] (reference : String) (first : PaymentStatus)
    (pool : PaymentPool ι) : Prop where
  /-- The row carries the status persisted last. -/
  stored : ∃ row, pool.state.db.payments.lookup reference = some row ∧
    (persistedStatuses reference pool.history ++ [first]).head? = some row.status
  /-- Only the three handlers have persisted statuses. -/
  settled : ∀ status ∈ persistedStatuses reference pool.history, status ∈ handlerStatuses
  /-- A held payment carries the status that was persisted last when it was read. -/
  snapshot : ∀ i payment, held reference (pool.log i) = some payment →
    ∃ recent older, persistedStatuses reference pool.history = recent ++ older ∧
      (older ++ [first]).head? = some payment.status

variable {deployment : Deployment} {calls : ι → PaymentCall} {reference : String}
  {first : PaymentStatus}

theorem persistedStatuses_append (later history : PaymentHistory ι) :
    persistedStatuses reference (later ++ history) =
      persistedStatuses reference later ++ persistedStatuses reference history := by
  induction later with
  | nil => rfl
  | cons entry later ih =>
    rw [List.cons_append, persistedStatuses, persistedStatuses, ih, List.append_assoc]

/-- A history without its newest calls is lawful when the whole one is. -/
theorem LawfulStatuses.of_append {later history : PaymentHistory ι}
    (h : LawfulStatuses reference first (later ++ history)) :
    LawfulStatuses reference first history := by
  unfold LawfulStatuses at h ⊢
  rw [persistedStatuses_append, List.append_assoc] at h
  exact ⟨(List.isChain_append.mp h.1).2.1, (List.nodup_append.mp h.2).2.1⟩

variable [DecidableEq ι]

/-- A turn that persists nothing for the reference keeps the trace. -/
theorem StatusTrace.frame {pool pool' : PaymentPool ι} {i : ι} {record : PaymentCallRecord}
    (h : StatusTrace reference first pool) (hhistory : pool'.history = (i, record) :: pool.history)
    (hsaved : savedStatuses reference record = [])
    (hrow : pool'.state.db.payments.lookup reference = pool.state.db.payments.lookup reference)
    (hreads : ∀ payment ∈ reads record, payment.reference = reference →
      ∃ row, pool.state.db.payments.lookup reference = some row ∧ payment.status = row.status) :
    StatusTrace reference first pool' := by
  have hpersisted : persistedStatuses reference pool'.history =
      persistedStatuses reference pool.history := by
    rw [hhistory]
    simp only [persistedStatuses, hsaved, List.nil_append]
  refine ⟨?_, ?_, ?_⟩
  · rw [hpersisted, hrow]
    exact h.stored
  · rw [hpersisted]
    exact h.settled
  · rw [hpersisted]
    intro j payment hheld
    have hlog : pool'.log j =
        if i = j then record :: pool.log j else pool.log j := by
      simp only [Pool.log, hhistory, Pool.logOf]
    rw [hlog] at hheld
    split at hheld
    · rcases (held_cons_eq_some hheld).2 with ⟨hmem, href⟩ | hheld
      · obtain ⟨row, hstored, hstatus⟩ := hreads payment hmem href
        obtain ⟨row', hstored', hhead⟩ := h.stored
        rw [hstored] at hstored'
        cases hstored'
        exact ⟨[], _, rfl, hstatus ▸ hhead⟩
      · exact h.snapshot j payment hheld
    · exact h.snapshot j payment hheld

/-- A committed save of the reference extends the trace by its status. -/
theorem StatusTrace.save {pool pool' : PaymentPool ι} {i : ι} {body : List TxWrite}
    {row : PaymentRow} {new : PaymentStatus} (h : StatusTrace reference first pool)
    (hhistory : pool'.history = (i, ⟨.atomic body, .ok ()⟩) :: pool.history)
    (hsaved : savedStatuses reference ⟨.atomic body, .ok ()⟩ = [new])
    (hnew : new ∈ handlerStatuses) (hmem : reference ∈ (savedPayments body).map Payment.reference)
    (hrow : pool'.state.db.payments.lookup reference = some row) (hstatus : row.status = new) :
    StatusTrace reference first pool' := by
  have hpersisted : persistedStatuses reference pool'.history =
      new :: persistedStatuses reference pool.history := by
    rw [hhistory]
    simp only [persistedStatuses, hsaved, List.cons_append, List.nil_append]
  refine ⟨⟨row, hrow, ?_⟩, ?_, ?_⟩
  · rw [hpersisted, hstatus]
    rfl
  · rw [hpersisted]
    intro status hstatus
    rcases List.mem_cons.mp hstatus with rfl | hstatus
    · exact hnew
    · exact h.settled status hstatus
  · rw [hpersisted]
    intro j payment hheld
    have hlog : pool'.log j =
        if i = j then ⟨.atomic body, .ok ()⟩ :: pool.log j else pool.log j := by
      simp only [Pool.log, hhistory, Pool.logOf]
    rw [hlog] at hheld
    split at hheld
    · rw [held_atomic_of_mem hmem] at hheld
      cases hheld
    · obtain ⟨recent, older, heq, hhead⟩ := h.snapshot j payment hheld
      exact ⟨new :: recent, older, by rw [heq, List.cons_append], hhead⟩

/-- The statuses that a turn persists, when it persists one. -/
theorem StatusTrace.step (deployment : Deployment) (choice : Choice) {pool : PaymentPool ι}
    {i : ι} {op : PaymentOp}
    {next : Except PaymentError op.Ret → Program (Raising PaymentError PaymentOp.Ret)
      (Except PaymentError Unit)}
    (hcalls : ∀ i cmd, calls i ≠ .initiatePayment cmd) (h : StatusTrace reference first pool)
    (hrest : pool.rest i = .call op next)
    (hallowed : (contract (calls i)).allowed (pool.log i) op) :
    (StatusTrace reference first (pool.step (PaymentState.exec deployment) (i, choice)) ∧
      persistedStatuses reference (pool.step (PaymentState.exec deployment) (i, choice)).history =
        persistedStatuses reference pool.history ∧
      ∀ body, op = .atomic body →
        (PaymentState.exec deployment choice (.atomic body) pool.state).1 = .ok () →
          reference ∉ (savedPayments body).map Payment.reference) ∨
    ∃ body payment new, op = .atomic body ∧
      (PaymentState.exec deployment choice (.atomic body) pool.state).1 = .ok () ∧
      reference ∈ (savedPayments body).map Payment.reference ∧
      held reference (pool.log i) = some payment ∧ Move payment.status new ∧
      StatusTrace reference first (pool.step (PaymentState.exec deployment) (i, choice)) ∧
      persistedStatuses reference (pool.step (PaymentState.exec deployment) (i, choice)).history =
        new :: persistedStatuses reference pool.history := by
  by_cases hatomic : ∃ body, op = .atomic body
  · obtain ⟨body, rfl⟩ := hatomic
    have hissued : Issued (calls i) (pool.log i) body := hallowed
    rw [Pool.step_of_call hrest]
    rcases exec_atomic deployment choice pool.state body with ⟨db, hrun, hexec⟩ | ⟨error, hexec⟩
    · rw [hexec]
      have hrows := runBody_payments hrun reference
      have hkeep (hnot : reference ∉ (savedPayments body).map Payment.reference)
          (hsaved : savedStatuses reference ⟨.atomic body, .ok ()⟩ = []) :
          StatusTrace reference first
            ⟨{ pool.state with clock := pool.state.clock + choice.elapsed, db },
              Function.update pool.rest i (next (.ok ())),
              (i, ⟨.atomic body, .ok ()⟩) :: pool.history⟩ :=
        h.frame rfl hsaved (hrows.1 hnot) fun _ hmem => by cases hmem
      rcases hissued.saves (hcalls i) with hnone | ⟨payment, new, hheld, hmove, hsaves⟩
      · left
        have hsaved : savedStatuses reference ⟨.atomic body, .ok ()⟩ = [] := by
          change (savedPayments body).filterMap _ = []
          rw [hnone]
          rfl
        have hnot : reference ∉ (savedPayments body).map Payment.reference := by
          rw [hnone]
          exact List.not_mem_nil
        refine ⟨hkeep hnot hsaved, ?_, fun body' heq _ => by cases heq; exact hnot⟩
        simp only [persistedStatuses, hsaved, List.nil_append]
      · have hsaved := savedStatuses_atomic reference hsaves
        by_cases href : payment.reference = reference
        · right
          rw [if_pos href] at hsaved
          have hmem : reference ∈ (savedPayments body).map Payment.reference := by
            rw [hsaves]
            simp [href]
          obtain ⟨method, environment, row, _, _, hrow, hlookup⟩ := hrows.2 _ hsaves href
          refine ⟨body, payment, new, rfl, by rw [hexec], hmem, href ▸ hheld, hmove, ?_, ?_⟩
          · exact h.save rfl hsaved hmove.mem_handlerStatuses hmem hlookup (by rw [hrow]; rfl)
          · simp only [persistedStatuses, hsaved, List.cons_append, List.nil_append]
        · left
          rw [if_neg href] at hsaved
          have hnot : reference ∉ (savedPayments body).map Payment.reference := by
            rw [hsaves]
            simpa using Ne.symm href
          refine ⟨hkeep hnot hsaved, ?_, fun body' heq _ => by cases heq; exact hnot⟩
          simp only [persistedStatuses, hsaved, List.nil_append]
    · left
      rw [hexec]
      refine ⟨h.frame rfl rfl rfl fun _ hmem => (by cases hmem), rfl, fun body' heq hok => ?_⟩
      cases heq
      rw [hexec] at hok
      cases hok
  · left
    have hnot : ∀ body, op ≠ .atomic body := fun body heq => hatomic ⟨body, heq⟩
    have hsaved : savedStatuses reference
        ⟨op, (PaymentState.exec deployment choice op pool.state).1⟩ = [] := by
      simp only [savedStatuses, committed_of_not_atomic hnot]
      rfl
    rw [Pool.step_of_call hrest]
    refine ⟨h.frame rfl hsaved (by rw [exec_db_of_not_atomic hnot]) ?_, ?_,
      fun body heq => absurd heq (hnot body)⟩
    · intro payment hmem href
      obtain ⟨row, hrow, rfl⟩ := reads_sound rfl hmem
      exact ⟨row, href ▸ hrow, rfl⟩
    · simp only [persistedStatuses, hsaved, List.nil_append]

/-- Before any call the trace holds for a stored payment. -/
theorem StatusTrace.start {s : PaymentState} {row : PaymentRow}
    (hrow : s.db.payments.lookup reference = some row) :
    StatusTrace reference row.status (startCalls s calls) :=
  ⟨⟨row, hrow, rfl⟩, (fun _ h => by cases h), fun _ _ h => by cases h⟩

/-- The trace holds in every run, whatever its turns do. -/
theorem keeps_statusTrace (hcalls : ∀ i cmd, calls i ≠ .initiatePayment cmd) :
    Pool.Keeps (PaymentState.exec deployment) (contracts calls) locksReleased
      (fun _ _ => True) (StatusTrace reference first) := by
  intro pool i choice op next _ htrace _ hrest hallowed
  rcases htrace.step deployment choice hcalls hrest hallowed with
    ⟨h, _, _⟩ | ⟨_, _, _, _, _, _, _, _, h, _⟩
  · exact h
  · exact h

/-- When every committed save finds the status that its call has read, the persisted
statuses form a chain of moves. -/
theorem keeps_moves (hcalls : ∀ i cmd, calls i ≠ .initiatePayment cmd) :
    Pool.Keeps (PaymentState.exec deployment) (contracts calls) locksReleased
      (SavesAsRead deployment reference) fun pool => StatusTrace reference first pool ∧
        (persistedStatuses reference pool.history ++ [first]).IsChain
          fun new old => Move old new := by
  rintro pool i choice op next _ ⟨htrace, hmoves⟩ hsaves hrest hallowed
  rcases htrace.step deployment choice hcalls hrest hallowed with
    ⟨h, hpersisted, _⟩ | ⟨body, payment, new, rfl, hok, hmem, hheld, hmove, h, hpersisted⟩
  · exact ⟨h, by rwa [hpersisted]⟩
  · refine ⟨h, ?_⟩
    rw [hpersisted, List.cons_append, List.isChain_cons]
    refine ⟨fun old hold => ?_, hmoves⟩
    obtain ⟨row, hrow, hhead⟩ := htrace.stored
    have hread := hsaves body next hrest hok hmem
    rw [hrow, hheld] at hread
    have hstatus : row.status = payment.status := Option.some.inj hread
    rw [Option.mem_def, hhead, hstatus] at hold
    cases hold
    exact hmove

/-- A turn after which the history is lawful has saved as read. -/
theorem savesAsRead_of_lawful {pool : PaymentPool ι} {turn : ι × Choice}
    (hcalls : ∀ i cmd, calls i ≠ .initiatePayment cmd)
    (hpool : Pool.Disciplined (contracts calls) locksReleased pool)
    (htrace : StatusTrace reference first pool)
    (hlawful : LawfulStatuses reference first
      (pool.step (PaymentState.exec deployment) turn).history) :
    SavesAsRead deployment reference pool turn := by
  intro body next hrest hok hmem
  rcases htrace.step deployment turn.2 hcalls hrest (hpool.allowed_call hrest) with
    ⟨_, _, hnot⟩ | ⟨_, payment, new, heq, _, _, hheld, hmove, _, hpersisted⟩
  · exact absurd hmem (hnot body rfl hok)
  · obtain ⟨recent, older, hsplit, hread⟩ := htrace.snapshot _ payment hheld
    unfold LawfulStatuses at hlawful
    rw [hpersisted, hsplit] at hlawful
    have hrecent := recent_eq_nil hmove hread
      (fun status hstatus => htrace.settled status (hsplit ▸ List.mem_append_left _ hstatus))
      hlawful.1 hlawful.2
    obtain ⟨row, hrow, hhead⟩ := htrace.stored
    rw [hsplit, hrecent, List.nil_append, hread] at hhead
    rw [hrow, hheld]
    exact congrArg some (Option.some.inj hhead).symm

/-- The statuses that webhooks, retries, expiries and refund requests persist for a
stored payment are lawful in exactly those runs in which every committed save still
finds the status that its call had read. -/
theorem statuses_lawful_iff {s : PaymentState} {row : PaymentRow}
    (hcalls : ∀ i cmd, calls i ≠ .initiatePayment cmd)
    (hrow : s.db.payments.lookup reference = some row) (schedule : List (ι × Choice)) :
    LawfulStatuses reference row.status
        ((startCalls s calls).run (PaymentState.exec deployment) schedule).history ↔
      Pool.Always (PaymentState.exec deployment) (SavesAsRead deployment reference)
        (startCalls s calls) schedule := by
  constructor
  · intro hlawful
    have hback (pool : PaymentPool ι) (later : List (ι × Choice))
        (h : LawfulStatuses reference row.status
          (pool.run (PaymentState.exec deployment) later).history) :
        LawfulStatuses reference row.status pool.history := by
      obtain ⟨calls, hcalls⟩ := Pool.history_run (PaymentState.exec deployment) pool later
      rw [hcalls] at h
      exact h.of_append
    have hturns : Pool.Always (PaymentState.exec deployment)
        (fun pool turn => LawfulStatuses reference row.status
          (pool.step (PaymentState.exec deployment) turn).history)
        (startCalls s calls) schedule :=
      Pool.always_step_of_run
        (fun pool : PaymentPool ι => LawfulStatuses reference row.status pool.history)
        hback hlawful
    exact (keeps_statusTrace hcalls).of_all.always (answers_possible calls) disciplined_startCalls
      (StatusTrace.start hrow) hturns
      fun pool turn hpool htrace hturn => savesAsRead_of_lawful hcalls hpool htrace hturn
  · intro hsaves
    have hrun := (keeps_moves hcalls).run (answers_possible calls) disciplined_startCalls
      ⟨StatusTrace.start hrow, List.isChain_singleton _⟩ hsaves
    exact lawfulStatuses_of_moves hrun.2.2

/-- A webhook for the pending payment and an expiry scan just after its deadline. -/
def webhookAndExpiry : Bool → PaymentCall
  | true => .processWebhook sampleWebhook
  | false => .expireStalePayments { now := minutes 30 + 1 }

/-- The webhook reads the payment, the scan expires it, then the webhook commits. -/
def expiryInsideWebhook : List (Bool × Choice) :=
  (List.range 6).map (fun k => (true, calm k)) ++
    (List.range 6).map (fun k => (false, calm (10 + k))) ++
    (List.range 3).map (fun k => (true, calm (20 + k)))

/-- The webhook overwrites EXPIRED with SUCCESS. -/
theorem success_over_expired :
    ¬ LawfulStatuses "pay_1" .pending
      ((startCalls (stateWith pendingRow) webhookAndExpiry).run
        (PaymentState.exec sampleDeployment) expiryInsideWebhook).history := by
  decide

/-- When the webhook runs to its end first, both calls save as they have read. -/
theorem statuses_lawful_iff_sample :
    Pool.Always (PaymentState.exec sampleDeployment) (SavesAsRead sampleDeployment "pay_1")
      (startCalls (stateWith pendingRow) webhookAndExpiry)
      ((List.range 12).map (fun k => (true, calm k)) ++
        (List.range 6).map fun k => (false, calm (20 + k))) :=
  (statuses_lawful_iff (fun i cmd h => by cases i <;> cases h) rfl _).mp (by decide)

end Linkapro.Payments
