import Linkapro.Lib.Sequential
import Linkapro.Payments.Velocity

/-!
# Payments: which event the retry task replays

The retry task looks at the stored events from the newest to the oldest and takes the
first one of its reference, whether that event may be retried or has ended. It replays
the event in the one case and stops in the other.
-/

namespace Linkapro.Payments

open Lib Lib.Action

/-- The query of the task does not fail, and an event can be read or not. Every other call may
meet an error. -/
def PaymentState.readingWhere (deployment : Deployment) (readable : WebhookEventRow → Bool) :
    Exec PaymentState Choice (Raising PaymentError PaymentOp.Ret) :=
  fun choice op =>
    match op with
    | .retryCandidates => PaymentState.exec deployment { choice with fault := none } .retryCandidates
    | .decryptRetryPayload row =>
      PaymentState.exec deployment
        { choice with
          fault := if readable row then none else some ⟨.valueError "payload", 0, false⟩ }
        (.decryptRetryPayload row)
    | op => PaymentState.exec deployment choice op

/-- The task from the call of the handler on. -/
def replayEvent (dispatcher : EventDispatcher) (providerReference : JsonValue) (retries : ℕ)
    (event : WebhookEventRow) (payload : WebhookPayload) : Handler RetryResult := do
  let now : Datetime ← ask .utcNow
  match ← reprocess dispatcher { eventId := event.eventId, payload, now } with
  | some error => retryLater providerReference retries error
  | none => finishRetry providerReference event

/-- An event that may be retried is replayed. -/
theorem retryFound_of_retryable {dispatcher : EventDispatcher} {providerReference : JsonValue}
    {retries : ℕ} {event : WebhookEventRow} {payload : WebhookPayload}
    (h : event.status ∈ retryableWebhookStatuses) :
    retryFound dispatcher providerReference retries event payload =
      replayEvent dispatcher providerReference retries event payload := by
  have hopen : event.status ∉ terminalWebhookStatuses := by
    have hapart : ∀ status ∈ retryableWebhookStatuses, status ∉ terminalWebhookStatuses := by
      decide
    exact hapart _ h
  unfold retryFound
  rw [if_neg hopen, if_neg (not_not.mpr h)]
  rfl

/-- The event carries the reference of the task. -/
def WebhookEventRow.Carries (event : WebhookEventRow) (providerReference : JsonValue) : Prop :=
  extractProviderReference event.payload = .ok providerReference

/-- The data of the event is no dictionary, so that the task fails when it reads the reference. -/
def WebhookEventRow.Malformed (event : WebhookEventRow) : Prop :=
  ∃ error, extractProviderReference event.payload = .error error

/-- The first of the events that can be read and carries the reference may be retried, and no
event before it makes the task fail. -/
def FirstRetryable (readable : WebhookEventRow → Bool) (providerReference : JsonValue)
    (events : List WebhookEventRow) : Prop :=
  ∃ newer event older, events = newer ++ event :: older ∧
    (∀ other ∈ newer, readable other → ¬ other.Carries providerReference ∧ ¬ other.Malformed) ∧
    readable event = true ∧ event.Carries providerReference ∧
    event.status ∈ retryableWebhookStatuses

/-- Whether the first event decides, or the others do. -/
theorem firstRetryable_cons {readable : WebhookEventRow → Bool} {providerReference : JsonValue}
    {row : WebhookEventRow} {rows : List WebhookEventRow} :
    FirstRetryable readable providerReference (row :: rows) ↔
      (readable row = true ∧ row.Carries providerReference ∧
        row.status ∈ retryableWebhookStatuses) ∨
      ((readable row → ¬ row.Carries providerReference ∧ ¬ row.Malformed) ∧
        FirstRetryable readable providerReference rows) := by
  constructor
  · rintro ⟨newer, event, older, hrows, hnewer, hevent⟩
    cases newer with
    | nil =>
      obtain ⟨rfl, rfl⟩ := List.cons_eq_cons.mp hrows
      exact .inl hevent
    | cons first newer =>
      obtain ⟨rfl, hrest⟩ := List.cons_eq_cons.mp hrows
      exact .inr ⟨hnewer _ List.mem_cons_self, newer, event, older, hrest,
        fun other hother => hnewer other (List.mem_cons_of_mem _ hother), hevent⟩
  · rintro (hrow | ⟨hrow, newer, event, older, rfl, hnewer, hevent⟩)
    · exact ⟨[], row, rows, rfl, by simp, hrow⟩
    · refine ⟨row :: newer, event, older, rfl, ?_, hevent⟩
      intro other hother
      rcases List.mem_cons.mp hother with rfl | hother
      · exact hrow
      · exact hnewer other hother

/-- What is left of the task is the replay of a stored event of its reference that may be
retried. -/
def Replaying (events : List WebhookEventRow) (providerReference : JsonValue) (retries : ℕ)
    (rest : Program (Raising PaymentError PaymentOp.Ret) (Except PaymentError RetryResult)) :
    Prop :=
  ∃ event ∈ events, event.status ∈ retryableWebhookStatuses ∧ event.Carries providerReference ∧
    rest = (replayEvent djangoPaymentEventOutboxDispatcher providerReference retries event
      event.payload).run

/-- The task, run alone on the stored events, comes to the replay of one that may be retried. -/
def Replays (deployment : Deployment) (readable : WebhookEventRow → Bool)
    (choices : ℕ → Choice) (s : PaymentState) (providerReference : JsonValue) (retries : ℕ) :
    Prop :=
  Program.Passes (PaymentState.readingWhere deployment readable) choices
    (fun rest _ => Replaying s.db.events.rows providerReference retries rest)
    (processWebhookRetry djangoPaymentEventOutboxDispatcher providerReference retries).run 0 s

variable {deployment : Deployment} {readable : WebhookEventRow → Bool} {choices : ℕ → Choice}
  {providerReference : JsonValue} {retries k : ℕ} {events : List WebhookEventRow} {s : PaymentState}

/-- A program that does not read the clock first is no replay. -/
theorem not_replaying_of_call {op : PaymentOp}
    {next : Except PaymentError op.Ret →
      Program (Raising PaymentError PaymentOp.Ret) (Except PaymentError RetryResult)}
    (h : op ≠ .utcNow) : ¬ Replaying events providerReference retries (.call op next) := by
  rintro ⟨event, -, -, -, hrest⟩
  have hfirst : (replayEvent djangoPaymentEventOutboxDispatcher providerReference retries event
      event.payload).run = .call .utcNow fun now => _ := rfl
  rw [hfirst] at hrest
  injection hrest with hop
  exact h hop

/-- A finished task replays nothing any more. -/
theorem not_replaying_of_done {outcome : Except PaymentError RetryResult} :
    ¬ Replaying events providerReference retries (.done outcome) := by
  rintro ⟨event, -, -, -, hrest⟩
  cases hrest

/-- A task that gives up its counter replays nothing. -/
theorem not_passes_reset {result : RetryResult} :
    ¬ Program.Passes (PaymentState.readingWhere deployment readable) choices
      (fun rest _ => Replaying events providerReference retries rest)
      (ask (.resetRetry (retryKey providerReference)) >>= fun _ => pure result : Handler _).run
      k s := by
  have hcall : ¬ Replaying events providerReference retries
      (ask (.resetRetry (retryKey providerReference)) >>= fun _ => pure result : Handler _).run :=
    not_replaying_of_call
      (by simp)
  cases hreset : PaymentState.readingWhere deployment readable (choices k)
      (.resetRetry (retryKey providerReference)) s with
  | mk answer after =>
    cases answer with
    | ok answer =>
      rw [passes_perform_bind hreset]
      exact not_or.mpr ⟨hcall, not_replaying_of_done⟩
    | error error =>
      rw [passes_perform_bind_error hreset]
      exact not_or.mpr ⟨hcall, not_replaying_of_done⟩

/-- The task after the search for an event. -/
def afterLoad (providerReference : JsonValue) (retries : ℕ) :
    Option (WebhookEventRow × WebhookPayload) → Handler RetryResult
  | none => do
    ask (.resetRetry (retryKey providerReference))
    pure .missingEvent
  | some (event, payload) =>
    retryFound djangoPaymentEventOutboxDispatcher providerReference retries event payload

/-- What the task does with the answer for a candidate. -/
def afterDecrypt (providerReference : JsonValue) (retries : ℕ) (row : WebhookEventRow)
    (rows : List WebhookEventRow) :
    Except PaymentError WebhookPayload → Handler RetryResult
  | .error _ => loadRetryEvent providerReference rows >>= afterLoad providerReference retries
  | .ok payload =>
    match extractProviderReference payload with
    | .error error => throw error
    | .ok txRef =>
      if txRef = providerReference then
        afterLoad providerReference retries (some (row, payload))
      else loadRetryEvent providerReference rows >>= afterLoad providerReference retries

/-- The loop asks for the payload of its first candidate. -/
theorem loadRetryEvent_cons {row : WebhookEventRow} {rows : List WebhookEventRow} :
    (loadRetryEvent providerReference (row :: rows) >>=
      afterLoad providerReference retries).run =
        .call (.decryptRetryPayload row) fun answer =>
          (afterDecrypt providerReference retries row rows answer).run := by
  unfold loadRetryEvent
  change Program.call _ _ = _
  congr 1
  funext answer
  cases answer with
  | error error => rfl
  | ok answer =>
    have htaken (payload : WebhookPayload) :
        ((match extractProviderReference payload with
          | .error error => throw error
          | .ok txRef =>
            if txRef = providerReference then pure (some (row, payload))
            else loadRetryEvent providerReference rows : Handler _) >>=
              afterLoad providerReference retries).run =
          (afterDecrypt providerReference retries row rows (.ok payload)).run := by
      unfold afterDecrypt
      cases hextract : extractProviderReference payload with
      | error error =>
        simp only [hextract]
        rfl
      | ok txRef =>
        simp only [hextract]
        by_cases htxRef : txRef = providerReference
        · rw [if_pos htxRef, if_pos htxRef]
          rfl
        · rw [if_neg htxRef, if_neg htxRef]
    exact htaken answer

/-- An event that has been found is replayed exactly when it may be retried. -/
theorem passes_afterLoad {row : WebhookEventRow} (hrow : row ∈ events)
    (hcarries : row.Carries providerReference) :
    Program.Passes (PaymentState.readingWhere deployment readable) choices
      (fun rest _ => Replaying events providerReference retries rest)
      (afterLoad providerReference retries (some (row, row.payload))).run k s ↔
    row.status ∈ retryableWebhookStatuses := by
  have hfound : afterLoad providerReference retries (some (row, row.payload)) =
      retryFound djangoPaymentEventOutboxDispatcher providerReference retries row row.payload := rfl
  rw [hfound]
  by_cases hretryable : row.status ∈ retryableWebhookStatuses
  · rw [retryFound_of_retryable hretryable]
    exact iff_of_true (.inl ⟨row, hrow, hretryable, hcarries, rfl⟩) hretryable
  · refine iff_of_false ?_ hretryable
    unfold retryFound
    by_cases hterminal : row.status ∈ terminalWebhookStatuses
    · rw [if_pos hterminal]
      exact not_passes_reset
    · rw [if_neg hterminal, if_pos hretryable]
      exact not_replaying_of_done

/-- The loop over the candidates comes to a replay exactly when the first that decides may be
retried. -/
theorem passes_loadRetryEvent {candidates : List WebhookEventRow}
    (hcandidates : ∀ row ∈ candidates, row ∈ events) :
    Program.Passes (PaymentState.readingWhere deployment readable) choices
      (fun rest _ => Replaying events providerReference retries rest)
      (loadRetryEvent providerReference candidates >>= afterLoad providerReference retries).run
      k s ↔
    FirstRetryable readable providerReference candidates := by
  induction candidates generalizing k s with
  | nil =>
    refine iff_of_false not_passes_reset ?_
    rintro ⟨newer, event, older, hnil, -⟩
    exact absurd hnil.symm (by simp)
  | cons row rows ih =>
    have hrest : ∀ row ∈ rows, row ∈ events :=
      fun row hrow => hcandidates row (List.mem_cons_of_mem _ hrow)
    have hcall : ¬ Replaying events providerReference retries
        (.call (.decryptRetryPayload row) fun answer =>
          (afterDecrypt providerReference retries row rows answer).run) :=
      not_replaying_of_call (by simp)
    rw [loadRetryEvent_cons, Program.Passes, or_iff_right hcall, firstRetryable_cons]
    by_cases hreadable : readable row = true
    · have hdecrypt : PaymentState.readingWhere deployment readable (choices k)
          (.decryptRetryPayload row) s =
            (.ok row.payload, { s with clock := s.clock + (choices k).elapsed }) := by
        simp [PaymentState.readingWhere, PaymentState.exec, PaymentState.effect,
          PaymentState.reading, hreadable]
      simp only [hdecrypt, afterDecrypt]
      cases hextract : extractProviderReference row.payload with
      | error error =>
        refine iff_of_false not_replaying_of_done ?_
        rintro (⟨-, hcarries, -⟩ | ⟨hskipped, -⟩)
        · cases hcarries.symm.trans hextract
        · exact (hskipped hreadable).2 ⟨error, hextract⟩
      | ok txRef =>
        by_cases htxRef : txRef = providerReference
        · subst htxRef
          have hdecides : ¬ (readable row → ¬ row.Carries txRef ∧ ¬ row.Malformed) :=
            fun hskipped => (hskipped hreadable).1 hextract
          rw [or_iff_left fun h => hdecides h.1]
          simp only [if_true]
          rw [passes_afterLoad (hcandidates row List.mem_cons_self) hextract]
          exact ⟨fun h => ⟨hreadable, hextract, h⟩, fun h => h.2.2⟩
        · have hother : ¬ row.Carries providerReference := by
            intro hcarries
            exact htxRef (Except.ok.inj (hextract.symm.trans hcarries))
          have hwell : ¬ row.Malformed := by
            rintro ⟨error, herror⟩
            cases hextract.symm.trans herror
          simp only [if_neg htxRef]
          rw [ih hrest]
          constructor
          · exact fun h => .inr ⟨fun _ => ⟨hother, hwell⟩, h⟩
          · rintro (⟨-, hcarries, -⟩ | ⟨-, h⟩)
            · exact absurd hcarries hother
            · exact h
    · have hdecrypt : PaymentState.readingWhere deployment readable (choices k)
          (.decryptRetryPayload row) s =
            (.error (.valueError "payload"), { s with clock := s.clock + (choices k).elapsed }) := by
        simp [PaymentState.readingWhere, PaymentState.exec, PaymentState.effect,
          PaymentState.reading, hreadable]
      simp only [hdecrypt, afterDecrypt]
      rw [ih hrest]
      constructor
      · exact fun h => .inr ⟨fun hread => absurd hread hreadable, h⟩
      · rintro (⟨hread, -⟩ | ⟨-, h⟩)
        · exact absurd hread hreadable
        · exact h

/-- The candidates of the task are stored events. -/
theorem mem_events_of_mem_retryCandidates {db : PaymentDb} {row : WebhookEventRow}
    (h : row ∈ db.retryCandidates) : row ∈ db.events.rows := by
  unfold PaymentDb.retryCandidates at h
  exact List.mem_of_mem_filter ((List.mem_insertionSort _).mp h)

/-- The task replays a stored event exactly when the first candidate that decides may be
retried. -/
theorem replays_iff_firstRetryable :
    Replays deployment readable choices s providerReference retries ↔
      FirstRetryable readable providerReference s.db.retryCandidates := by
  have hcandidates : PaymentState.readingWhere deployment readable (choices 0) .retryCandidates s =
      (.ok s.db.retryCandidates, { s with clock := s.clock + (choices 0).elapsed }) := rfl
  have htask : processWebhookRetry djangoPaymentEventOutboxDispatcher providerReference retries =
      (ask .retryCandidates >>= fun candidates =>
        loadRetryEvent providerReference candidates >>= afterLoad providerReference retries) := by
    unfold processWebhookRetry
    congr 1
  have hcall : ¬ Replaying s.db.events.rows providerReference retries
      (ask .retryCandidates >>= fun candidates =>
        loadRetryEvent providerReference candidates >>=
          afterLoad providerReference retries : Handler _).run :=
    not_replaying_of_call (by simp)
  unfold Replays
  rw [htask, passes_perform_bind hcandidates, or_iff_right hcall]
  exact passes_loadRetryEvent fun row hrow => mem_events_of_mem_retryCandidates hrow

/-- The candidates of the task are the stored events that may be retried or have ended, from the
newest to the oldest. It replays one of its reference exactly when the first of them that can be
read and carries the reference may be retried, and no event before it has data that is no
dictionary. -/
theorem retry_decided_by_newest (deployment : Deployment) (readable : WebhookEventRow → Bool)
    (choices : ℕ → Choice) (s : PaymentState) (providerReference : JsonValue) (retries : ℕ) :
    (∀ event, event ∈ s.db.retryCandidates ↔ event ∈ s.db.events.rows ∧
      (event.status ∈ retryableWebhookStatuses ∨ event.status ∈ terminalWebhookStatuses)) ∧
    (s.db.retryCandidates.Pairwise fun newer older => older.createdAt ≤ newer.createdAt) ∧
    (Replays deployment readable choices s providerReference retries ↔
      FirstRetryable readable providerReference s.db.retryCandidates) := by
  refine ⟨fun event => ?_, ?_, replays_iff_firstRetryable⟩
  · unfold PaymentDb.retryCandidates
    simp only [List.mem_insertionSort, List.mem_filter, List.mem_append, decide_eq_true_eq]
  · exact List.pairwise_insertionSort _ _

/-- The older event of the sample, which may be retried. -/
def failedEvent : WebhookEventRow where
  eventId := "evt_1"
  status := WebhookStatus.verifyFailedRetry.value
  payload := ⟨.dict (some (.text "flw_1"))⟩
  createdAt := 1

/-- The newer event of the same reference, which has ended. -/
def rejectedEvent : WebhookEventRow :=
  { failedEvent with
    eventId := "evt_2", status := WebhookStatus.rejectedPolicy.value, createdAt := 2 }

/-- A state that stores both. -/
def endedEventState : PaymentState :=
  { emptyState with
    db := { emptyState.db with events := ⟨[failedEvent, rejectedEvent], by decide⟩ } }

/-- An event that may be retried is not replayed when a newer one of its reference has ended. -/
theorem newer_event_stops_retry :
    ¬ ∀ (deployment : Deployment) (readable : WebhookEventRow → Bool) (choices : ℕ → Choice)
      (s : PaymentState) (providerReference : JsonValue) (retries : ℕ),
      (∃ event ∈ s.db.events.rows, readable event = true ∧ event.Carries providerReference ∧
        event.status ∈ retryableWebhookStatuses) →
      Replays deployment readable choices s providerReference retries := by
  intro h
  have hreplays := h sampleDeployment (fun _ => true) (fun _ => calm 9) endedEventState
    (.text "flw_1") 0 ⟨failedEvent, by decide, rfl, rfl, by decide⟩
  rw [replays_iff_firstRetryable,
    show endedEventState.db.retryCandidates = [rejectedEvent, failedEvent] by decide +kernel,
    firstRetryable_cons] at hreplays
  rcases hreplays with ⟨-, -, hstatus⟩ | ⟨hskipped, -⟩
  · exact absurd hstatus (by decide)
  · exact (hskipped rfl).1 rfl

end Linkapro.Payments
