import Linkapro.Payments.Transactions

/-!
# Payments: the retry of stored webhook events

The handler stores the status of an event as an upper-case literal, and the
retry task selects events by the lower-case values of the model's choices. No
stored event is ever a candidate of the task, and redeliveries are dropped as
duplicates, so an event keeps the status that it was stored with.
-/

namespace Linkapro.Payments

open Lib

/-- The status literals that `_process_webhook` stores. -/
def eventLiterals : List String :=
  ["PROCESSING", "PROCESSED_SUCCESS", "REJECTED_UNKNOWN", "REJECTED_POLICY", "FRAUD_DETECTED",
    "LOCK_FAILED_RETRY", "VERIFY_FAILED_RETRY", "REJECTED_MISSING_REF"]

/-- Every stored event carries a status that the handler has stored. -/
def WrittenByHandler (db : PaymentDb) : Prop :=
  ∀ row ∈ db.events.rows, row.status ∈ eventLiterals

/-- No literal of the handler is a value that the retry task selects. -/
theorem literal_not_selected {status : String} (h : status ∈ eventLiterals) :
    status ∉ retryableWebhookStatuses ++ terminalWebhookStatuses := by
  revert status
  decide

/-- The retry task has no candidates among the events that the handler has written. -/
theorem retryCandidates_eq_nil {db : PaymentDb} (h : WrittenByHandler db) :
    db.retryCandidates = [] := by
  have hnone : db.events.rows.filter (fun row =>
      row.status ∈ retryableWebhookStatuses ++ terminalWebhookStatuses) = [] := by
    rw [List.filter_eq_nil_iff]
    intro row hrow
    simpa using literal_not_selected (h row hrow)
  rw [PaymentDb.retryCandidates, hnone]
  rfl

/-- The events that the statements save, each with its status. -/
def savedEvents (body : List TxWrite) : List (String × String) :=
  body.filterMap fun write =>
    match write with
    | .saveEvent eventId status _ => some (eventId, status)
    | _ => none

/-- A statement that saves no event leaves the events as they were. -/
theorem PaymentDb.applyWrite_events {deployment : Deployment} {now : Datetime} {rowId : UUID}
    {write : TxWrite} {db db' : PaymentDb}
    (h : db.applyWrite deployment now rowId write = .ok db') (hsaves : savedEvents [write] = []) :
    db'.events = db.events := by
  cases write with
  | saveEvent eventId status payload => cases hsaves
  | savePayment payment =>
    obtain ⟨_, _, _, _, rfl⟩ := PaymentDb.savePayment_ok h
    rfl
  | logAudit event =>
    simp only [PaymentDb.applyWrite, PaymentDb.logAudit] at h
    split at h
    · cases h
    · cases h
      rfl
  | insertOutbox event =>
    simp only [PaymentDb.applyWrite, PaymentDb.insertOutbox] at h
    split at h
    · cases h
    · cases h
      rfl
  | raising error => cases h

/-- A body changes the events that it saves and gives them the saved statuses. -/
theorem runBody_events {deployment : Deployment} {now : Datetime} {choice : Choice} {k : ℕ}
    {body : List TxWrite} {db db' : PaymentDb}
    (h : runBody deployment now choice k body db = .ok db') :
    (∀ eventId, eventId ∉ (savedEvents body).map Prod.fst →
      db'.events.lookup eventId = db.events.lookup eventId) ∧
    ∀ row ∈ db'.events.rows, row ∈ db.events.rows ∨ row.status ∈ (savedEvents body).map Prod.snd := by
  induction body generalizing k db with
  | nil =>
    rw [runBody_nil h]
    exact ⟨fun _ _ => rfl, fun _ hrow => Or.inl hrow⟩
  | cons write body ih =>
    obtain ⟨middle, hwrite, hbody⟩ := runBody_cons h
    obtain ⟨ihkeep, ihrows⟩ := ih hbody
    cases write with
    | saveEvent eventId status payload =>
      have hsaves : savedEvents (.saveEvent eventId status payload :: body) =
        (eventId, status) :: savedEvents body := rfl
      cases hwrite
      rw [hsaves, List.map_cons, List.map_cons]
      constructor
      · intro other hother
        rw [List.mem_cons, not_or] at hother
        rw [ihkeep other hother.2]
        exact Table.lookup_upsert_of_ne fun heq => hother.1 heq.symm
      · intro row hrow
        rcases ihrows row hrow with hmiddle | hstatus
        · rcases Table.mem_upsert_iff.mp hmiddle with rfl | ⟨hold, _⟩
          · exact Or.inr List.mem_cons_self
          · exact Or.inl hold
        · exact Or.inr (List.mem_cons_of_mem _ hstatus)
    | _ =>
      rw [PaymentDb.applyWrite_events hwrite rfl] at ihkeep ihrows
      exact ⟨ihkeep, ihrows⟩

/-- An issued transaction saves only events of its webhook command, with literals of
the handler. -/
theorem Issued.savedEvents {call : PaymentCall} {log : PaymentLog} {body : List TxWrite}
    (h : Issued call log body) {eventId status : String}
    (hmem : (eventId, status) ∈ Payments.savedEvents body) :
    status ∈ eventLiterals ∧ ∃ cmd, WebhookOrigin call log cmd ∧ cmd.eventId = eventId := by
  have hpair {cmd : ProcessWebhookCommand} (origin : WebhookOrigin call log cmd)
      {first second : String} (hfirst : first ∈ eventLiterals) (hsecond : second ∈ eventLiterals)
      (hmem : (eventId, status) ∈ [(cmd.eventId, first), (cmd.eventId, second)]) :
      status ∈ eventLiterals ∧ ∃ cmd, WebhookOrigin call log cmd ∧ cmd.eventId = eventId := by
    rw [List.mem_pair, Prod.mk.injEq, Prod.mk.injEq] at hmem
    rcases hmem with ⟨rfl, rfl⟩ | ⟨rfl, rfl⟩
    · exact ⟨hfirst, cmd, origin, rfl⟩
    · exact ⟨hsecond, cmd, origin, rfl⟩
  cases h with
  | lone origin status_mem =>
    have hliteral : ∀ status ∈ loneStatuses, status ∈ eventLiterals := by decide
    cases List.mem_singleton.mp hmem
    exact ⟨hliteral _ status_mem, _, origin, rfl⟩
  | unknown origin =>
    cases List.mem_singleton.mp hmem
    exact ⟨by decide, _, origin, rfl⟩
  | fraud origin => exact hpair origin (by decide) (by decide) hmem
  | success origin found held_eq confirmed =>
    unfold successBody at hmem
    rw [afterTransition_of_allowed (by rw [confirmed.pending]; decide)] at hmem
    exact hpair origin (by decide) (by decide) hmem
  | reject origin => exact hpair origin (by decide) (by decide) hmem
  | expire call_eq held_eq expirable =>
    unfold expireBody at hmem
    rw [afterTransition_of_allowed (by rcases expirable.1 with h | h <;> rw [h] <;> decide)]
      at hmem
    cases hmem
  | refund call_eq held_eq succeeded =>
    unfold refundBody at hmem
    rw [afterTransition_of_allowed (by rw [succeeded]; decide)] at hmem
    cases hmem
  | initiate call_eq pending environment => cases hmem
  | velocityBlock => cases hmem
  | outbox => cases hmem

variable {ι : Type} [DecidableEq ι] {deployment : Deployment} {calls : ι → PaymentCall}

/-- In every run the stored events carry literals of the handler. -/
theorem keeps_writtenByHandler :
    Pool.Keeps (PaymentState.exec deployment) (contracts calls) locksReleased (fun _ _ => True)
      fun pool : PaymentPool ι => WrittenByHandler pool.state.db := by
  intro pool i choice op next _ hwritten _ hrest hallowed
  rw [Pool.step_of_call hrest]
  by_cases hatomic : ∃ body, op = .atomic body
  · obtain ⟨body, rfl⟩ := hatomic
    have hissued : Issued (calls i) (pool.log i) body := hallowed
    rcases exec_atomic deployment choice pool.state body with ⟨db, hrun, hexec⟩ | ⟨error, hexec⟩
    · intro row hrow
      rw [hexec] at hrow
      rcases (runBody_events hrun).2 row hrow with hold | hstatus
      · exact hwritten row hold
      · obtain ⟨⟨eventId, status⟩, hsaved, rfl⟩ := List.mem_map.mp hstatus
        exact (hissued.savedEvents hsaved).1
    · rw [hexec]
      exact hwritten
  · have hnot : ∀ body, op ≠ .atomic body := fun body heq => hatomic ⟨body, heq⟩
    change WrittenByHandler (PaymentState.exec deployment choice op pool.state).2.db
    rw [exec_db_of_not_atomic hnot]
    exact hwritten

/-- A stored event that no call of the pool is going to process. -/
structure Abandoned (row : WebhookEventRow) (pool : PaymentPool ι) : Prop where
  /-- The event is stored. -/
  stored : pool.state.db.events.lookup row.eventId = some row
  /-- All events are written by the handler. -/
  written : WrittenByHandler pool.state.db
  /-- No delivery has found the event missing. -/
  known : ∀ i, ⟨.eventExists row.eventId, .ok false⟩ ∉ pool.log i
  /-- No retry task has found a candidate. -/
  unselected : ∀ i candidates, ⟨.retryCandidates, .ok candidates⟩ ∈ pool.log i → candidates = []

/-- No call of the pool has a webhook command for an abandoned event. -/
theorem Abandoned.no_origin {row : WebhookEventRow} {pool : PaymentPool ι}
    (h : Abandoned row pool) {i : ι} {cmd : ProcessWebhookCommand}
    (origin : WebhookOrigin (calls i) (pool.log i) cmd) : cmd.eventId ≠ row.eventId := by
  intro heq
  cases hcall : calls i with
  | processWebhook cmd' =>
    rw [hcall] at origin
    exact h.known i (heq ▸ origin.2)
  | processWebhookRetry providerRef retries =>
    rw [hcall] at origin
    obtain ⟨candidates, hmem, row', hrow', _⟩ := origin
    rw [h.unselected i candidates hmem] at hrow'
    cases hrow'
  | _ =>
    rw [hcall] at origin
    exact origin

/-- An event stays abandoned. -/
theorem keeps_abandoned (row : WebhookEventRow) :
    Pool.Keeps (PaymentState.exec deployment) (contracts calls) locksReleased (fun _ _ => True)
      fun pool : PaymentPool ι => Abandoned row pool := by
  intro pool i choice op next hpool habandoned _ hrest hallowed
  have hwritten : WrittenByHandler
      (pool.step (PaymentState.exec deployment) (i, choice)).state.db :=
    keeps_writtenByHandler pool i choice op next hpool habandoned.written trivial hrest hallowed
  have hstored : (pool.step (PaymentState.exec deployment) (i, choice)).state.db.events.lookup
      row.eventId = some row := by
    rw [Pool.step_of_call hrest]
    by_cases hatomic : ∃ body, op = .atomic body
    · obtain ⟨body, rfl⟩ := hatomic
      have hissued : Issued (calls i) (pool.log i) body := hallowed
      rcases exec_atomic deployment choice pool.state body with ⟨db, hrun, hexec⟩ | ⟨error, hexec⟩
      · rw [hexec]
        refine ((runBody_events hrun).1 _ fun hmem => ?_).trans habandoned.stored
        obtain ⟨⟨eventId, status⟩, hsaved, heq⟩ := List.mem_map.mp hmem
        obtain ⟨_, cmd, origin, hcmd⟩ := hissued.savedEvents hsaved
        exact habandoned.no_origin origin (hcmd.trans heq)
      · rw [hexec]
        exact habandoned.stored
    · rw [exec_db_of_not_atomic fun body heq => hatomic ⟨body, heq⟩]
      exact habandoned.stored
  refine ⟨hstored, hwritten, fun j hmem => ?_, fun j candidates hmem => ?_⟩
  · by_cases hij : i = j
    · subst hij
      rw [Pool.log_step_self hrest, List.mem_cons] at hmem
      rcases hmem with heq | hmem
      · obtain ⟨rfl, hanswer⟩ := Sigma.mk.inj heq
        have hfound := PaymentState.reading_ok (eq_of_heq hanswer).symm
        rw [habandoned.stored] at hfound
        cases hfound
      · exact habandoned.known i hmem
    · rw [Pool.log_step_other hij] at hmem
      exact habandoned.known j hmem
  · by_cases hij : i = j
    · subst hij
      rw [Pool.log_step_self hrest, List.mem_cons] at hmem
      rcases hmem with heq | hmem
      · obtain ⟨rfl, hanswer⟩ := Sigma.mk.inj heq
        have hfound := Except.ok.inj (PaymentState.reading_ok (eq_of_heq hanswer).symm)
        exact hfound.symm.trans (retryCandidates_eq_nil habandoned.written)
      · exact habandoned.unselected i candidates hmem
    · rw [Pool.log_step_other hij] at hmem
      exact habandoned.unselected j candidates hmem

/-- After every run the retry task has no candidate at all, and every stored event, in
particular one with a retryable outcome, keeps its row in every run of calls that start
afterwards: retry tasks, redeliveries and all others. -/
theorem stored_event_never_retried {s : PaymentState} (hwritten : WrittenByHandler s.db)
    (schedule : List (ι × Choice)) {row : WebhookEventRow}
    (hrow : row ∈ ((startCalls s calls).run
      (PaymentState.exec deployment) schedule).state.db.events.rows) :
    ((startCalls s calls).run (PaymentState.exec deployment) schedule).state.db.retryCandidates =
      [] ∧
    ∀ (κ : Type) [DecidableEq κ] (later : κ → PaymentCall) (schedule' : List (κ × Choice)),
      ((startCalls ((startCalls s calls).run (PaymentState.exec deployment) schedule).state
        later).run (PaymentState.exec deployment) schedule').state.db.events.lookup row.eventId =
          some row := by
  have hwritten' : WrittenByHandler
      ((startCalls s calls).run (PaymentState.exec deployment) schedule).state.db :=
    (keeps_writtenByHandler.run (answers_possible calls) disciplined_startCalls hwritten
      (Pool.always_of_forall fun _ _ => trivial)).2
  refine ⟨retryCandidates_eq_nil hwritten', fun κ _ later schedule' => ?_⟩
  have habandoned : Abandoned row (startCalls
      ((startCalls s calls).run (PaymentState.exec deployment) schedule).state later) :=
    ⟨Table.lookup_of_mem hrow, hwritten', (fun _ h => by cases h), fun _ _ h => by cases h⟩
  exact ((keeps_abandoned row).run (answers_possible later) disciplined_startCalls habandoned
    (Pool.always_of_forall fun _ _ => trivial)).2.stored

/-- A webhook whose verification gets no answer. -/
def unverified : List (Unit × Choice) :=
  (List.range 12).map fun k => ((), { calm k with verification := none })

/-- The state that a webhook without a verification leaves. -/
def afterUnverified : PaymentState :=
  ((startCalls (stateWith pendingRow) fun _ : Unit => .processWebhook sampleWebhook).run
    (PaymentState.exec sampleDeployment) unverified).state

/-- The event is stored for a retry and the task is queued, but the task finds no event
and leaves the status as it is. -/
theorem unverified_event_not_found :
    afterUnverified.db.events.rows.map WebhookEventRow.status = ["VERIFY_FAILED_RETRY"] ∧
    afterUnverified.queue = [.processWebhookRetry (.text "flw_1") 30 0] ∧
    afterUnverified.db.retryCandidates = [] ∧
    ((startCalls afterUnverified fun _ : Unit => .processWebhookRetry (.text "flw_1") 0).run
      (PaymentState.exec sampleDeployment) ((List.range 20).map fun k => ((), calm k))
        ).state.db.events.rows.map WebhookEventRow.status = ["VERIFY_FAILED_RETRY"] := by
  decide

/-- The same event keeps its row when the task and two redeliveries of the webhook run. -/
theorem stored_event_never_retried_sample :
    ((startCalls afterUnverified fun k : Fin 3 =>
        if k = 0 then .processWebhookRetry (.text "flw_1") 0 else .processWebhook sampleWebhook).run
      (PaymentState.exec sampleDeployment) [(0, calm 1), (1, calm 2), (2, calm 3), (0, calm 4)]
        ).state.db.events.lookup "evt_1" =
      some ⟨"evt_1", "VERIFY_FAILED_RETRY", sampleWebhook.payload, 4⟩ := by
  have hwritten : WrittenByHandler (stateWith pendingRow).db := fun _ h => by cases h
  have hrow : ⟨"evt_1", "VERIFY_FAILED_RETRY", sampleWebhook.payload, 4⟩ ∈
      ((startCalls (stateWith pendingRow) fun _ : Unit => .processWebhook sampleWebhook).run
        (PaymentState.exec sampleDeployment) unverified).state.db.events.rows := by
    decide
  exact (stored_event_never_retried hwritten unverified hrow).2 (Fin 3) _ _

end Linkapro.Payments
