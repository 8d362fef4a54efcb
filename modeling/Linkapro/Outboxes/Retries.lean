import Mathlib.Data.List.Sort
import Mathlib.Data.Prod.Lex
import Mathlib.Order.Lex
import Linkapro.Outboxes.DomainEvents

/-!
# The retry of stored events

Every outbox has a task that selects the pending events that are due and delivers them
again, but the beat schedule runs the task of the marketplace projection outbox only.
That outbox has no row locks: a delivery loads the row, writes its PROCESSING status
and later its outcome, each in a statement of its own. An event is lost to the retry
when a worker stops in between, or when two deliveries overlap.
-/

namespace Linkapro.Outboxes

open Lib

/-- The outboxes whose events are retried. -/
inductive Outbox : Type where
  | domain (outbox : DomainOutbox)
  | marketplace
deriving DecidableEq, Repr

/-- The name of the retry task of an outbox. -/
def retryTask : Outbox → String
  | .domain .payment => "tasks.payment_domain_events.retry_due_payment_domain_events_task"
  | .domain .identity => "tasks.identity_domain_events.retry_due_identity_domain_events_task"
  | .domain .vendor => "tasks.vendor_domain_events.retry_due_vendor_domain_events_task"
  | .domain .document => "tasks.document_domain_events.retry_due_document_domain_events_task"
  | .marketplace => "tasks.marketplace_sync.retry_due_marketplace_projection_outbox_events_task"

/-- `CELERY_BEAT_SCHEDULE`: the name of each entry with its task. -/
def CELERY_BEAT_SCHEDULE : List (String × String) :=
  [("expire-stale-payments", "payments.tasks.expire_stale_payments_task"),
    ("retry-marketplace-projection-outbox",
      "tasks.marketplace_sync.retry_due_marketplace_projection_outbox_events_task"),
    ("reconcile-marketplace-projection",
      "tasks.marketplace_sync.reconcile_marketplace_projection_task")]

/-- The beat schedule runs the retry task of the outbox. -/
def Scheduled (outbox : Outbox) : Prop := retryTask outbox ∈ CELERY_BEAT_SCHEDULE.map Prod.snd

instance (outbox : Outbox) : Decidable (Scheduled outbox) :=
  inferInstanceAs (Decidable (_ ∈ _))

/-- The schedule runs the retry of one outbox only. -/
theorem scheduled_iff (outbox : Outbox) : Scheduled outbox ↔ outbox = .marketplace := by
  constructor
  · intro h
    cases outbox with
    | marketplace => rfl
    | domain outbox =>
      cases outbox <;> exact absurd h (by decide +kernel)
  · rintro rfl
    decide +kernel

section Queries

/-- `ORDER BY due, created_at LIMIT limit`. -/
def firstDue {ρ : Type} (due created : ρ → Datetime) (limit : ℕ) (rows : List ρ) : List ρ :=
  (rows.insertionSort fun first second =>
    toLex (due first, created first) ≤ toLex (due second, created second)).take limit

/-- A row is among the first ones, or they are a full batch of rows due no later. -/
theorem mem_firstDue {ρ : Type} {due created : ρ → Datetime} {limit : ℕ} {rows : List ρ} {row : ρ}
    (h : row ∈ rows) :
    row ∈ firstDue due created limit rows ∨
      (firstDue due created limit rows).length = limit ∧
        ∀ other ∈ firstDue due created limit rows, due other ≤ due row := by
  let before : ρ → ρ → Prop := fun first second =>
    toLex (due first, created first) ≤ toLex (due second, created second)
  have htotal : Std.Total before := ⟨fun first second => le_total _ _⟩
  have htrans : IsTrans ρ before := ⟨fun first second third => le_trans⟩
  have hsorted : (rows.insertionSort before).Pairwise before := List.pairwise_insertionSort _ _
  have hmem : row ∈ rows.insertionSort before := (List.mem_insertionSort _).mpr h
  unfold firstDue
  rw [← List.take_append_drop limit (rows.insertionSort before), List.mem_append] at hmem
  rcases hmem with hmem | hmem
  · exact Or.inl hmem
  · right
    rw [← List.take_append_drop limit (rows.insertionSort before), List.pairwise_append] at hsorted
    constructor
    · have hlength : limit < (rows.insertionSort before).length := by
        by_contra hle
        rw [List.drop_eq_nil_of_le (by omega)] at hmem
        exact List.not_mem_nil hmem
      exact List.length_take_of_le hlength.le
    · intro other hother
      have hle : toLex (due other, created other) ≤ toLex (due row, created row) :=
        hsorted.2.2 other hother row hmem
      rw [Prod.Lex.toLex_le_toLex] at hle
      rcases hle with hlt | ⟨heq, _⟩
      · exact hlt.le
      · exact heq.le

/-- The selection of `retry_due_…_domain_events_task`, which has the same text in the four
components. Events that have never failed come first. -/
def retryDueDomainEvents (batch_size : ℕ) (now : Datetime) (rows : List Event) : List Event :=
  let untried := ((rows.filter fun event =>
      event.status = .pending ∧ event.next_attempt_at = none).insertionSort
    fun first second => first.created_at ≤ second.created_at).take batch_size
  untried ++ firstDue (fun event => event.next_attempt_at.getD now) Event.created_at
    (batch_size - untried.length)
    (rows.filter fun event =>
      event.status = .pending ∧ ∃ due ∈ event.next_attempt_at, due ≤ now)

end Queries

namespace Marketplace

/-- `MarketplaceProjectionOutbox.EventType`. -/
inductive EventType : Type where
  | upsertVendor | deleteVendor
deriving DecidableEq, Repr

/-- `MarketplaceProjectionOutbox.Status`. -/
inductive Status : Type where
  | pending | processing | delivered | failed
deriving DecidableEq, Repr

/-- A row of `MarketplaceProjectionOutbox`. -/
structure Event where
  id : UUID
  event_type : EventType
  vendor_id : UUID
  payload : List (String × JsonValue)
  status : Status
  attempts : ℕ
  next_attempt_at : Datetime
  delivered_at : Option Datetime
  last_error : Option String
  created_at : Datetime
deriving DecidableEq

/-- `MAX_DELIVERY_ATTEMPTS`. -/
def MAX_DELIVERY_ATTEMPTS : ℕ := 5

/-- The rows that `retry_due_marketplace_projection_outbox_events` may deliver. -/
def due (now : Datetime) (rows : List Event) : List Event :=
  rows.filter fun event => event.status = .pending ∧ event.attempts < MAX_DELIVERY_ATTEMPTS ∧
    event.next_attempt_at ≤ now

/-- The selection of `retry_due_marketplace_projection_outbox_events`. -/
def retryDue (limit : ℕ) (now : Datetime) (rows : List Event) : List Event :=
  firstDue Event.next_attempt_at Event.created_at limit (due now rows)

/-- How far a delivery has come, with the event as it holds it in memory. -/
inductive Phase : Type where
  /-- No call is in progress. The last one has returned or raised this. -/
  | rest (result : Option (Except String Bool))
  /-- Before the event is loaded. -/
  | loading (event_id : UUID)
  /-- Before the PROCESSING status is written. -/
  | claiming (event : Event)
  /-- Before `_deliver_event`. -/
  | delivering (event : Event)
  /-- Before the DELIVERED status is written. -/
  | storing (event : Event) (result : String)
  /-- Before `_mark_delivery_failed_or_pending` writes its outcome. -/
  | marking (event : Event) (error : String)

/-- The outbox table and the time. -/
structure Store where
  events : Table Event.id
  clock : Datetime

/-- What a statement leaves open. -/
structure Choice where
  /-- Microseconds since the previous statement. -/
  elapsed : ℕ
  /-- The error that the statement raises, if any. -/
  fault : Option String
  /-- Whether a write takes effect although it raises. -/
  applied : Bool
  /-- The answer of the marketplace service. -/
  result : String

/-- What happens on the turn of a session. -/
inductive Turn : Type where
  /-- A vendor's projection is enqueued. -/
  | enqueue (id : UUID) (event_type : EventType) (vendor_id : UUID)
      (payload : List (String × JsonValue))
  /-- A delivery starts. -/
  | deliver (event_id : UUID)
  /-- The next statement is performed. -/
  | next (choice : Choice)
  /-- The worker stops. -/
  | crash

/-- A new row. -/
def Event.enqueued (id : UUID) (event_type : EventType) (vendor_id : UUID)
    (payload : List (String × JsonValue)) (now : Datetime) : Event where
  id
  event_type
  vendor_id
  payload
  status := .pending
  attempts := 0
  next_attempt_at := now
  delivered_at := none
  last_error := none
  created_at := now

/-- The event in memory before its first save. -/
def Event.claimed (event : Event) : Event :=
  { event with status := .processing, attempts := event.attempts + 1, last_error := none }

/-- The event in memory before it is saved as delivered. -/
def Event.deliveredAt (event : Event) (result : String) (now : Datetime) : Event :=
  { event with
    status := .delivered
    delivered_at := some now
    last_error := none
    payload := event.payload.filter (·.1 ≠ "delivery_result") ++
      [("delivery_result", .text result)] }

/-- The event in memory before it is saved as failed or pending. -/
def Event.marked (event : Event) (error : String) (now : Datetime) : Event :=
  if MAX_DELIVERY_ATTEMPTS ≤ event.attempts then
    { event with
      status := .failed, last_error := some (String.ofList (error.toList.take 4000)) }
  else
    { event with
      status := .pending
      next_attempt_at := now + minutes (min 30 (2 ^ event.attempts))
      last_error := some (String.ofList (error.toList.take 4000)) }

/-- `event.save(update_fields=…)` on the stored row, which raises when there is none. -/
def save (store : Store) (id : UUID) (update : Event → Event) : Except String Store :=
  match store.events.lookup id with
  | none => .error "DatabaseError"
  | some row => .ok { store with events := store.events.upsert (update row) }

/-- The save before the delivery. -/
def saveClaimed (store : Store) (event : Event) : Except String Store :=
  save store event.id fun row =>
    { row with
      status := event.status, attempts := event.attempts, last_error := event.last_error }

/-- The save after the delivery. -/
def saveDelivered (store : Store) (event : Event) : Except String Store :=
  save store event.id fun row =>
    { row with
      status := event.status, delivered_at := event.delivered_at
      last_error := event.last_error, payload := event.payload }

/-- The save after a failed delivery. -/
def saveMarked (store : Store) (event : Event) : Except String Store :=
  save store event.id fun row =>
    { row with
      status := event.status, next_attempt_at := event.next_attempt_at
      last_error := event.last_error }

/-- A save under a choice: an error ends the call, and the write may have been made. -/
def saving (store : Store) (choice : Choice) (saved : Except String Store) (after : Phase) :
    Store × Phase :=
  match saved, choice.fault with
  | .error error, _ => (store, .rest (some (.error error)))
  | .ok saved, some error => (if choice.applied then saved else store, .rest (some (.error error)))
  | .ok saved, none => (saved, after)

/-- The event as a delivery loads it. -/
def load (store : Store) (event_id : UUID) : Phase :=
  match store.events.lookup event_id with
  | none => .rest (some (.error "DoesNotExist"))
  | some event =>
    match event.status with
    | .delivered => .rest (some (.ok true))
    | .failed => .rest (some (.ok false))
    | .pending | .processing => .claiming event.claimed

/-- The next statement of `deliver_marketplace_projection_outbox_event`. -/
def next (store : Store) (choice : Choice) : Phase → Store × Phase
  | .rest result => (store, .rest result)
  | .loading event_id =>
    match choice.fault with
    | some error => (store, .rest (some (.error error)))
    | none => (store, load store event_id)
  | .claiming event => saving store choice (saveClaimed store event) (.delivering event)
  | .delivering event =>
    match choice.fault with
    | some error => (store, .marking event error)
    | none => (store, .storing event choice.result)
  | .storing event result =>
    saving store choice (saveDelivered store (event.deliveredAt result store.clock))
      (.rest (some (.ok true)))
  | .marking event error =>
    saving store choice (saveMarked store (event.marked error store.clock))
      (.rest (some (.error error)))

variable {ι : Type} [DecidableEq ι]

/-- The turn of a session. A call starts only when none is in progress. -/
def statement : Statement ι Store Phase Turn := fun s i turn =>
  match turn with
  | .enqueue id event_type vendor_id payload =>
    if (s.store.events.lookup id).isSome then (s.store, s.phase i)
    else
      ({ s.store with
          events := s.store.events.upsert
            (.enqueued id event_type vendor_id payload s.store.clock) },
        s.phase i)
  | .deliver event_id =>
    match s.phase i with
    | .rest _ => (s.store, .loading event_id)
    | phase => (s.store, phase)
  | .next choice => next { s.store with clock := s.store.clock + choice.elapsed } choice (s.phase i)
  | .crash => (s.store, .rest none)

/-- An empty outbox with no delivery in progress. -/
def start : Sessions ι Store Phase where
  store := { events := .empty, clock := 0 }
  phase := fun _ => .rest none

/-- The event that a session is delivering. -/
def Phase.busy : Phase → Option UUID
  | .claiming event | .delivering event | .storing event _ | .marking event _ => some event.id
  | _ => none

/-- A turn on which no worker stops or meets a database error while it is delivering an
event, and no worker loads an event that another one is delivering. -/
def Calm (s : Sessions ι Store Phase) (turn : ι × Turn) : Prop :=
  match turn.2 with
  | .crash => (s.phase turn.1).busy = none
  | .next choice =>
    match s.phase turn.1 with
    | .loading event_id => ∀ j, j ≠ turn.1 → (s.phase j).busy ≠ some event_id
    | .claiming _ | .storing _ _ | .marking _ _ => choice.fault = none
    | _ => True
  | _ => True

/-- The event that a session holds in memory fits the stored row. -/
def Fits (store : Store) : Phase → Prop
  | .claiming event => ∃ row, store.events.lookup event.id = some row ∧ row.status = .pending ∧
      event = row.claimed
  | .delivering event | .storing event _ | .marking event _ =>
    ∃ row, store.events.lookup event.id = some row ∧ row.attempts = event.attempts
  | _ => True

/-- What calm turns keep. -/
structure Sound (s : Sessions ι Store Phase) : Prop where
  /-- A pending event has attempts left. -/
  pending : ∀ row ∈ s.store.events.rows, row.status = .pending →
    row.attempts < MAX_DELIVERY_ATTEMPTS
  /-- An event in processing has a worker. -/
  processing : ∀ row ∈ s.store.events.rows, row.status = .processing →
    ∃ i, (s.phase i).busy = some row.id
  fits : ∀ i, Fits s.store (s.phase i)
  alone : ∀ i j id, (s.phase i).busy = some id → (s.phase j).busy = some id → i = j

section Proofs

variable {s : Sessions ι Store Phase} {i : ι} {choice : Choice} {store store' : Store}

/-- What a session holds in memory fits the new rows when the row of its event is the same. -/
theorem Fits.congr {phase : Phase} (h : Fits store phase)
    (hrow : ∀ id, phase.busy = some id →
      store'.events.lookup id = store.events.lookup id) : Fits store' phase := by
  cases phase with
  | rest | loading => trivial
  | claiming event | delivering event | storing event | marking event =>
    obtain ⟨row, hlookup, hrest⟩ := h
    exact ⟨row, (hrow event.id rfl).trans hlookup, hrest⟩

/-- A statement that writes nothing keeps the outbox sound when its session stays with its
event, or takes an event that no other session has. -/
theorem Sound.of_read {turn : Turn} (hs : Sound s)
    (hevents : (statement s i turn).1.events = s.store.events)
    (hfits : Fits s.store (statement s i turn).2)
    (hbusy : ∀ id, (s.phase i).busy = some id → (statement s i turn).2.busy = some id)
    (hfree : ∀ id, (statement s i turn).2.busy = some id →
      ∀ j, j ≠ i → (s.phase j).busy ≠ some id) : Sound (s.step statement (i, turn)) where
  pending := by
    rw [Sessions.step_store, hevents]
    exact hs.pending
  processing := by
    rw [Sessions.step_store, hevents]
    intro row hrow hstatus
    obtain ⟨j, hj⟩ := hs.processing row hrow hstatus
    refine ⟨j, ?_⟩
    by_cases hji : j = i
    · subst hji
      rw [Sessions.step_phase_self]
      exact hbusy _ hj
    · rw [Sessions.step_phase_of_ne hji]
      exact hj
  fits := by
    intro j
    rw [Sessions.step_store]
    by_cases hji : j = i
    · subst hji
      rw [Sessions.step_phase_self]
      exact hfits.congr fun id _ => by rw [hevents]
    · rw [Sessions.step_phase_of_ne hji]
      exact (hs.fits j).congr fun id _ => by rw [hevents]
  alone := by
    intro j k id hj hk
    by_cases hji : j = i
    · by_cases hki : k = i
      · rw [hji, hki]
      · subst hji
        rw [Sessions.step_phase_self] at hj
        rw [Sessions.step_phase_of_ne hki] at hk
        exact absurd hk (hfree id hj k hki)
    · rw [Sessions.step_phase_of_ne hji] at hj
      by_cases hki : k = i
      · subst hki
        rw [Sessions.step_phase_self] at hk
        exact absurd hj (hfree id hk j hji)
      · rw [Sessions.step_phase_of_ne hki] at hk
        exact hs.alone j k id hj hk

/-- A statement that writes the row of its own event keeps the outbox sound. -/
theorem Sound.of_write {turn : Turn} (row : Event) (hs : Sound s)
    (hown : (s.phase i).busy = some row.id)
    (hevents : (statement s i turn).1.events = s.store.events.upsert row)
    (hpending : row.status = .pending → row.attempts < MAX_DELIVERY_ATTEMPTS)
    (hprocessing : row.status = .processing → (statement s i turn).2.busy = some row.id)
    (hfits : Fits (statement s i turn).1 (statement s i turn).2)
    (hbusy : ∀ id, (statement s i turn).2.busy = some id → id = row.id) :
    Sound (s.step statement (i, turn)) where
  pending := by
    rw [Sessions.step_store, hevents]
    intro other hother hstatus
    rcases Table.mem_upsert_iff.mp hother with rfl | ⟨hmem, _⟩
    · exact hpending hstatus
    · exact hs.pending other hmem hstatus
  processing := by
    rw [Sessions.step_store, hevents]
    intro other hother hstatus
    rcases Table.mem_upsert_iff.mp hother with rfl | ⟨hmem, hne⟩
    · refine ⟨i, ?_⟩
      rw [Sessions.step_phase_self]
      exact hprocessing hstatus
    · obtain ⟨j, hj⟩ := hs.processing other hmem hstatus
      have hji : j ≠ i := by
        rintro rfl
        rw [hown] at hj
        exact hne (Option.some.inj hj).symm
      refine ⟨j, ?_⟩
      rw [Sessions.step_phase_of_ne hji]
      exact hj
  fits := by
    intro j
    rw [Sessions.step_store]
    by_cases hji : j = i
    · subst hji
      rw [Sessions.step_phase_self]
      exact hfits
    · rw [Sessions.step_phase_of_ne hji]
      refine (hs.fits j).congr fun id hid => ?_
      have hne : row.id ≠ id := by
        rintro rfl
        exact hji (hs.alone j i row.id hid hown)
      rw [hevents, Table.lookup_upsert_of_ne hne]
  alone := by
    have hkept : ∀ j id, ((s.step statement (i, turn)).phase j).busy = some id →
        (s.phase j).busy = some id := by
      intro j id hj
      by_cases hji : j = i
      · subst hji
        rw [Sessions.step_phase_self] at hj
        rw [hbusy id hj]
        exact hown
      · rw [Sessions.step_phase_of_ne hji] at hj
        exact hj
    exact fun j k id hj hk => hs.alone j k id (hkept j id hj) (hkept k id hk)

/-- A save without an error writes the updated row. -/
theorem saving_ok {id : UUID} {row : Event} {update : Event → Event} {after : Phase}
    (hlookup : store.events.lookup id = some row) (hfault : choice.fault = none) :
    saving store choice (save store id update) after =
      ({ store with events := store.events.upsert (update row) }, after) := by
  unfold saving save
  rw [hlookup, hfault]

omit [DecidableEq ι] in
/-- The session of a busy phase is the only one with its event. -/
theorem Sound.free (hs : Sound s) {id : UUID} (h : (s.phase i).busy = some id) :
    ∀ j, j ≠ i → (s.phase j).busy ≠ some id := fun j hj hid =>
  hj (hs.alone j i id hid h)

omit [DecidableEq ι] in
/-- A session that alone loads an event goes on only with a pending one, since an event in
processing has a worker. -/
theorem Sound.load (hs : Sound s) {event_id : UUID}
    (hfree : ∀ j, (s.phase j).busy ≠ some event_id) :
    (load s.store event_id).busy = none ∧ Fits s.store (load s.store event_id) ∨
      (load s.store event_id).busy = some event_id ∧ Fits s.store (load s.store event_id) := by
  unfold Marketplace.load
  cases hlookup : s.store.events.lookup event_id with
  | none => exact Or.inl ⟨rfl, trivial⟩
  | some row =>
    have hkey : row.id = event_id := Table.key_of_lookup hlookup
    cases hstatus : row.status with
    | delivered =>
      simp only [hstatus]
      exact Or.inl ⟨rfl, trivial⟩
    | failed =>
      simp only [hstatus]
      exact Or.inl ⟨rfl, trivial⟩
    | pending =>
      simp only [hstatus]
      refine Or.inr ⟨congrArg some hkey, row, ?_, hstatus, rfl⟩
      rw [show row.claimed.id = event_id from hkey]
      exact hlookup
    | processing =>
      obtain ⟨j, hj⟩ := hs.processing row (Table.mem_of_lookup hlookup) hstatus
      rw [hkey] at hj
      exact absurd hj (hfree j)

/-- The next statement of a calm turn keeps the outbox sound. -/
theorem Sound.next (hs : Sound s) (hcalm : Calm s (i, .next choice)) :
    Sound (s.step statement (i, .next choice)) := by
  let store : Store := { s.store with clock := s.store.clock + choice.elapsed }
  have hfits := hs.fits i
  have hresult : statement s i (.next choice) = Marketplace.next store choice (s.phase i) := rfl
  unfold Calm at hcalm
  cases hphase : s.phase i with
  | rest result =>
    rw [hphase] at hresult
    refine hs.of_read ?_ ?_ ?_ ?_
    · rw [hresult]
      rfl
    · rw [hresult]
      trivial
    · rw [hphase]
      rintro id ⟨⟩
    · rw [hresult]
      rintro id ⟨⟩
  | loading event_id =>
    simp only [hphase] at hcalm
    have hfree : ∀ j, (s.phase j).busy ≠ some event_id := by
      intro j
      by_cases hj : j = i
      · rw [hj, hphase]
        rintro ⟨⟩
      · exact hcalm j hj
    have hloaded : statement s i (.next choice) = (store, Marketplace.load s.store event_id) ∨
        ∃ error, statement s i (.next choice) = (store, .rest (some (.error error))) := by
      rw [hresult, hphase]
      cases hfault : choice.fault with
      | none =>
        simp only [Marketplace.next, hfault]
        exact Or.inl rfl
      | some error =>
        simp only [Marketplace.next, hfault]
        exact Or.inr ⟨error, rfl⟩
    have hnone : ∀ id, (s.phase i).busy = some id →
        (statement s i (.next choice)).2.busy = some id := by
      rw [hphase]
      rintro id ⟨⟩
    rcases hloaded with hloaded | ⟨error, hraised⟩
    · have hevents : (statement s i (.next choice)).1.events = s.store.events := by rw [hloaded]
      rcases hs.load hfree with ⟨hbusy, hfits⟩ | ⟨hbusy, hfits⟩
      · refine hs.of_read hevents ?_ hnone ?_
        · rw [hloaded]
          exact hfits
        · rw [hloaded, hbusy]
          rintro id ⟨⟩
      · refine hs.of_read hevents ?_ hnone ?_
        · rw [hloaded]
          exact hfits
        · rw [hloaded, hbusy]
          rintro id ⟨⟩ j hj
          exact hfree j
    · refine hs.of_read ?_ ?_ hnone ?_
      · rw [hraised]
      · rw [hraised]
        trivial
      · rw [hraised]
        rintro id ⟨⟩
  | claiming event =>
    simp only [hphase] at hcalm hfits
    obtain ⟨row, hlookup, hstatus, rfl⟩ := hfits
    have hkey : row.claimed.id = row.id := rfl
    have hsaved : statement s i (.next choice) = ({ store with
        events := store.events.upsert { row with
          status := .processing, attempts := row.attempts + 1, last_error := none } },
        .delivering row.claimed) := by
      rw [hresult, hphase]
      exact saving_ok hlookup hcalm
    refine hs.of_write { row with
      status := .processing, attempts := row.attempts + 1, last_error := none } ?_ ?_ ?_ ?_ ?_ ?_
    · rw [hphase]
      rfl
    · rw [hsaved]
    · rintro ⟨⟩
    · intro _
      rw [hsaved]
      rfl
    · rw [hsaved]
      exact ⟨_, Table.lookup_upsert_self, rfl⟩
    · rw [hsaved]
      rintro id ⟨⟩
      rfl
  | delivering event =>
    simp only [hphase] at hfits
    have hnext : (∃ error, statement s i (.next choice) = (store, .marking event error)) ∨
        statement s i (.next choice) = (store, .storing event choice.result) := by
      rw [hresult, hphase]
      cases hfault : choice.fault with
      | none =>
        right
        simp only [Marketplace.next, hfault]
      | some error =>
        refine Or.inl ⟨error, ?_⟩
        simp only [Marketplace.next, hfault]
    have hbusy : (s.phase i).busy = some event.id := by
      rw [hphase]
      rfl
    have hfree := hs.free hbusy
    rcases hnext with ⟨error, hnext⟩ | hnext
    · refine hs.of_read ?_ ?_ ?_ ?_
      · rw [hnext]
      · rw [hnext]
        exact hfits
      · rw [hphase, hnext]
        exact fun id hid => hid
      · rw [hnext]
        rintro id ⟨⟩
        exact hfree
    · refine hs.of_read ?_ ?_ ?_ ?_
      · rw [hnext]
      · rw [hnext]
        exact hfits
      · rw [hphase, hnext]
        exact fun id hid => hid
      · rw [hnext]
        rintro id ⟨⟩
        exact hfree
  | storing event result =>
    simp only [hphase] at hcalm hfits
    obtain ⟨row, hlookup, hattempts⟩ := hfits
    have hkey : row.id = event.id := Table.key_of_lookup hlookup
    let delivered := event.deliveredAt result store.clock
    have hsaved : statement s i (.next choice) = ({ store with
        events := store.events.upsert { row with
          status := .delivered, delivered_at := delivered.delivered_at, last_error := none
          payload := delivered.payload } }, .rest (some (.ok true))) := by
      rw [hresult, hphase]
      exact saving_ok hlookup hcalm
    refine hs.of_write { row with
      status := .delivered, delivered_at := delivered.delivered_at, last_error := none
      payload := delivered.payload } ?_ ?_ ?_ ?_ ?_ ?_
    · rw [hphase]
      exact congrArg some hkey.symm
    · rw [hsaved]
    · rintro ⟨⟩
    · rintro ⟨⟩
    · rw [hsaved]
      trivial
    · rw [hsaved]
      rintro id ⟨⟩
  | marking event error =>
    simp only [hphase] at hcalm hfits
    obtain ⟨row, hlookup, hattempts⟩ := hfits
    have hkey : row.id = event.id := Table.key_of_lookup hlookup
    let marked := event.marked error store.clock
    have hid : marked.id = event.id := by
      unfold marked Event.marked
      split <;> rfl
    have hsaved : statement s i (.next choice) = ({ store with
        events := store.events.upsert { row with
          status := marked.status, next_attempt_at := marked.next_attempt_at
          last_error := marked.last_error } }, .rest (some (.error error))) := by
      rw [hresult, hphase]
      refine saving_ok ?_ hcalm
      rw [hid]
      exact hlookup
    have hstatus : marked.status = .failed ∨
        marked.status = .pending ∧ event.attempts < MAX_DELIVERY_ATTEMPTS := by
      unfold marked Event.marked
      split
      · exact Or.inl rfl
      · next h => exact Or.inr ⟨rfl, by omega⟩
    refine hs.of_write { row with
      status := marked.status, next_attempt_at := marked.next_attempt_at
      last_error := marked.last_error } ?_ ?_ ?_ ?_ ?_ ?_
    · rw [hphase]
      exact congrArg some hkey.symm
    · rw [hsaved]
    · intro hpending
      rcases hstatus with h | ⟨_, h⟩
      · exact absurd (h.symm.trans hpending) nofun
      · rw [hattempts]
        exact h
    · intro hprocessing
      rcases hstatus with h | ⟨h, _⟩
      · exact absurd (h.symm.trans hprocessing) nofun
      · exact absurd (h.symm.trans hprocessing) nofun
    · rw [hsaved]
      trivial
    · rw [hsaved]
      rintro id ⟨⟩

/-- A calm turn keeps the outbox sound. -/
theorem Sound.step (turn : ι × Turn) (hs : Sound s) (hcalm : Calm s turn) :
    Sound (s.step statement turn) := by
  obtain ⟨i, turn⟩ := turn
  cases turn with
  | next choice => exact hs.next hcalm
  | crash =>
    have hnone : (s.phase i).busy = none := hcalm
    refine hs.of_read rfl trivial ?_ ?_
    · rw [hnone]
      rintro id ⟨⟩
    · rintro id ⟨⟩
  | deliver event_id =>
    have hresult : statement s i (.deliver event_id) = (s.store, .loading event_id) ∧
          (s.phase i).busy = none ∨
        statement s i (.deliver event_id) = (s.store, s.phase i) := by
      unfold statement
      cases hphase : s.phase i with
      | rest result => exact Or.inl ⟨rfl, rfl⟩
      | _ => exact Or.inr rfl
    rcases hresult with ⟨h, hnone⟩ | h
    · refine hs.of_read ?_ ?_ ?_ ?_
      · rw [h]
      · rw [h]
        trivial
      · rw [hnone]
        rintro id ⟨⟩
      · rw [h]
        rintro id ⟨⟩
    · refine hs.of_read ?_ ?_ ?_ ?_
      · rw [h]
      · rw [h]
        exact hs.fits i
      · rw [h]
        exact fun id hid => hid
      · rw [h]
        exact fun id hid => hs.free hid
  | enqueue id event_type vendor_id payload =>
    by_cases hsome : (s.store.events.lookup id).isSome
    · have hresult : statement s i (.enqueue id event_type vendor_id payload) =
          (s.store, s.phase i) := by
        simp only [statement, hsome, if_true]
      refine hs.of_read ?_ ?_ ?_ ?_
      · rw [hresult]
      · rw [hresult]
        exact hs.fits i
      · rw [hresult]
        exact fun id hid => hid
      · rw [hresult]
        exact fun id hid => hs.free hid
    · let row := Event.enqueued id event_type vendor_id payload s.store.clock
      have hphase : ∀ j, (s.step statement
          (i, .enqueue id event_type vendor_id payload)).phase j = s.phase j := by
        intro j
        by_cases hj : j = i
        · subst hj
          rw [Sessions.step_phase_self]
          simp only [statement, hsome, if_false, Bool.false_eq_true]
        · exact Sessions.step_phase_of_ne hj
      have hevents : (s.step statement
          (i, .enqueue id event_type vendor_id payload)).store.events =
            s.store.events.upsert row := by
        rw [Sessions.step_store]
        simp only [statement, hsome, if_false, Bool.false_eq_true]
        rfl
      constructor
      · rw [hevents]
        intro other hother hstatus
        rcases Table.mem_upsert_iff.mp hother with rfl | ⟨hmem, _⟩
        · exact Nat.zero_lt_succ 4
        · exact hs.pending other hmem hstatus
      · rw [hevents]
        intro other hother hstatus
        rcases Table.mem_upsert_iff.mp hother with rfl | ⟨hmem, _⟩
        · cases hstatus
        · obtain ⟨j, hj⟩ := hs.processing other hmem hstatus
          exact ⟨j, by rw [hphase]; exact hj⟩
      · intro j
        rw [hphase]
        refine (hs.fits j).congr fun id' hid' => ?_
        rw [hevents]
        apply Table.lookup_upsert_of_ne
        -- a session only has events that are stored
        rintro rfl
        apply hsome
        have hfits := hs.fits j
        cases hp : s.phase j with
        | rest | loading =>
          rw [hp] at hid'
          cases hid'
        | claiming event | delivering event | storing event | marking event =>
          rw [hp] at hid' hfits
          obtain ⟨stored, hstored, _⟩ := hfits
          rw [show event.id = id from Option.some.inj hid'] at hstored
          rw [hstored]
          rfl
      · intro j k id' hj hk
        rw [hphase] at hj hk
        exact hs.alone j k id' hj hk

end Proofs

/-- From the instant at which it is due, every run of the scheduled task selects the event,
or a full batch of events that are due no later. -/
def Retried (limit : ℕ) (store : Store) (event : Event) : Prop :=
  Scheduled .marketplace ∧ ∀ now, event.next_attempt_at ≤ now →
    event ∈ retryDue limit now store.events.rows ∨
      (retryDue limit now store.events.rows).length = limit ∧
        ∀ other ∈ retryDue limit now store.events.rows,
          other.next_attempt_at ≤ event.next_attempt_at

/-- The event has neither been delivered nor given up. -/
def Event.Open (event : Event) : Prop := event.status ≠ .delivered ∧ event.status ≠ .failed

instance (event : Event) : Decidable event.Open := inferInstanceAs (Decidable (_ ∧ _))

/-- Every open event has a worker, or is retried once it is due. -/
def NoneStuck (limit : ℕ) (s : Sessions ι Store Phase) : Prop :=
  ∀ event ∈ s.store.events.rows, event.Open →
    (∃ i, (s.phase i).busy = some event.id) ∨ Retried limit s.store event

omit [DecidableEq ι] in
/-- In a sound outbox no event is stuck. -/
theorem Sound.noneStuck {s : Sessions ι Store Phase} (hs : Sound s) (limit : ℕ) :
    NoneStuck limit s := by
  rintro event hevent ⟨hdelivered, hfailed⟩
  cases hstatus : event.status with
  | delivered => exact absurd hstatus hdelivered
  | failed => exact absurd hstatus hfailed
  | processing => exact Or.inl (hs.processing event hevent hstatus)
  | pending =>
    refine Or.inr ⟨(scheduled_iff _).mpr rfl, fun now hdue => ?_⟩
    apply mem_firstDue
    rw [due, List.mem_filter, decide_eq_true_eq]
    exact ⟨hevent, hstatus, hs.pending event hevent hstatus, hdue⟩

end Marketplace

/-- From the instant at which it is due, every run of the scheduled task selects the event,
or a full batch of other ones. -/
def Retried (outbox : DomainOutbox) (batch_size : ℕ) (store : Store) (event : Event) : Prop :=
  Scheduled (.domain outbox) ∧ ∀ now, (∀ due ∈ event.next_attempt_at, due ≤ now) →
    event ∈ retryDueDomainEvents batch_size now store.events.rows ∨
      (retryDueDomainEvents batch_size now store.events.rows).length = batch_size

section Samples

/-- A statement without an error, a second after the previous one. -/
def Marketplace.sampleChoice : Marketplace.Choice where
  elapsed := 1000000
  fault := none
  applied := false
  result := "ok"

/-- A delivery that fails, so that the event is pending again. -/
def Marketplace.sampleFailed : List (Fin 2 × Marketplace.Turn) :=
  [(0, .enqueue 1 .upsertVendor 2 []), (0, .deliver 1), (0, .next sampleChoice),
    (0, .next sampleChoice), (0, .next { sampleChoice with fault := some "TimeoutError" }),
    (0, .next sampleChoice), (1, .deliver 1)]

/-- A worker stops between the PROCESSING status and the delivery. -/
def Marketplace.sampleCrashed : List (Fin 2 × Marketplace.Turn) :=
  [(0, .enqueue 1 .upsertVendor 2 []), (0, .deliver 1), (0, .next sampleChoice),
    (0, .next sampleChoice), (0, .crash)]

instance (s : Sessions (Fin 2) Marketplace.Store Marketplace.Phase)
    (turn : Fin 2 × Marketplace.Turn) : Decidable (Marketplace.Calm s turn) := by
  unfold Marketplace.Calm
  split
  · infer_instance
  · split <;> infer_instance
  · infer_instance

end Samples

/-- In every run of calm turns no event of the marketplace outbox is stuck: it has a worker
or is retried once it is due. No open event of the other outboxes is ever retried. -/
theorem retried_events {ι : Type} [DecidableEq ι] (limit : ℕ)
    (turns : List (ι × Marketplace.Turn))
    (hcalm : Sessions.Always Marketplace.statement Marketplace.Calm Marketplace.start turns) :
    Marketplace.NoneStuck limit
        ((Marketplace.start : Sessions ι _ _).run Marketplace.statement turns) ∧
      ∀ (outbox : DomainOutbox) (turns : List (ι × Turn)) (batch_size : ℕ),
        let s := (start : Sessions ι Store Phase).run (statement outbox) turns
        ∀ event ∈ s.store.events.rows, ¬ Retried outbox batch_size s.store event := by
  have hstart : Marketplace.Sound (Marketplace.start : Sessions ι _ _) := by
    refine ⟨?_, ?_, fun _ => trivial, ?_⟩
    · exact fun row hrow => absurd hrow List.not_mem_nil
    · exact fun row hrow => absurd hrow List.not_mem_nil
    · rintro i j id ⟨⟩
  have hend := Sessions.run_keeps (I := Marketplace.Sound)
    (fun s turn hs h => hs.step turn h) hstart hcalm
  refine ⟨hend.noneStuck limit, ?_⟩
  rintro outbox turns batch_size s event _ ⟨hscheduled, _⟩
  have hmarketplace := (scheduled_iff _).mp hscheduled
  cases hmarketplace

/-- The event whose delivery has failed is stored as open, and it is not stuck. -/
theorem retried_events_sample :
    let s := (Marketplace.start : Sessions (Fin 2) _ _).run Marketplace.statement
      Marketplace.sampleFailed
    (∃ event ∈ s.store.events.rows, event.Open) ∧ Marketplace.NoneStuck 25 s :=
  ⟨by decide, (retried_events 25 Marketplace.sampleFailed (by decide)).1⟩

/-- A vendor event whose on-commit task is lost is never retried, and a marketplace event is
stuck in PROCESSING when its worker stops. -/
theorem events_stuck :
    (¬ ∀ (outbox : DomainOutbox) (turns : List (Fin 2 × Turn)),
      let s := (start : Sessions (Fin 2) Store Phase).run (statement outbox) turns
      ∀ event ∈ s.store.events.rows, event.status ≠ .published → event.status ≠ .failed →
        Retried outbox 50 s.store event) ∧
    ¬ ∀ turns : List (Fin 2 × Marketplace.Turn), Marketplace.NoneStuck 25
      ((Marketplace.start : Sessions (Fin 2) _ _).run Marketplace.statement turns) := by
  constructor
  · intro h
    have hevent := h .vendor [(0, .record 1 2 "VendorApproved" [])] _ List.mem_cons_self
      (by decide) (by decide)
    have hmarketplace := (scheduled_iff _).mp hevent.1
    cases hmarketplace
  · intro h
    rcases h Marketplace.sampleCrashed _ List.mem_cons_self (by decide) with ⟨i, hi⟩ | hretried
    · revert i
      decide
    · -- the event is not due for any run of the task, and no other event is
      rcases hretried.2 4000000 (by decide) with hmem | ⟨hlength, _⟩
      · revert hmem
        decide
      · revert hlength
        decide

end Linkapro.Outboxes
