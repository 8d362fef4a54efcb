import Mathlib.Tactic.Common
import Linkapro.Lib.Sessions
import Linkapro.Lib.Table
import Linkapro.Shared

/-!
# The outboxes of domain events

The payment, identity, vendor and document components store their domain events in
an outbox table and publish them with tasks of the same text. A publisher claims the
event in one transaction, publishes it in a second one and then enqueues an e-mail.
The two transactions are two statements here, so other workers may come between them.
A worker that gets no further turn has crashed.
-/

namespace Linkapro.Outboxes

open Lib

/-- The outboxes of domain events. -/
inductive DomainOutbox : Type where
  | payment | identity | vendor | document
deriving DecidableEq, Repr

/-- The `Status` of an outbox row. -/
inductive Status : Type where
  | pending | processing | published | failed
deriving DecidableEq, Repr

/-- A row of an outbox. -/
structure Event where
  id : UUID
  aggregate_id : UUID
  event_type : String
  payload : List (String × JsonValue)
  status : Status
  attempts : ℕ
  last_error : Option String
  next_attempt_at : Option Datetime
  published_at : Option Datetime
  created_at : Datetime
deriving DecidableEq

/-- `EVENT_TO_TEMPLATE`. -/
def EVENT_TO_TEMPLATE : DomainOutbox → List (String × String)
  | .vendor =>
    [("VendorSubmittedForReview", "vendor_submitted_for_review"),
      ("VendorApproved", "vendor_approved"),
      ("VendorRejected", "vendor_rejected"),
      ("VendorSuspended", "vendor_suspended"),
      ("VendorReinstated", "vendor_reinstated"),
      ("VendorProfileUpdated", "vendor_profile_updated"),
      ("InquiryReceived", "inquiry_received")]
  | .payment =>
    [("PaymentCompleted", "payment_completed"), ("PaymentExpired", "payment_expired")]
  | .document => [("ExportCompleted", "export_completed")]
  | .identity => [("UserPasswordChanged", "password_changed_confirmation")]

/-- `MAX_PAYMENT_EVENT_ATTEMPTS` and its three namesakes. -/
def MAX_EVENT_ATTEMPTS : ℕ := 5

/-- The arguments of `send_email_task`. -/
structure Notification where
  /-- The address under the key `to`. -/
  recipient : String
  template : String
  context : List (String × String)
deriving DecidableEq

/-- Whether publication does work of its own, as `_consume_identity_event` does. -/
def consumes : DomainOutbox → Bool
  | .identity => true
  | _ => false

/-- How far a publisher has come. -/
inductive Phase : Type where
  /-- No call is in progress. The last one has returned or raised this. -/
  | rest (result : Option (Except String Bool))
  /-- Before the first transaction. -/
  | claiming (event_id : UUID)
  /-- Before `_consume_identity_event`. -/
  | consuming (event : Event)
  /-- Before the second transaction. -/
  | publishing (event_id : UUID)
  /-- Before `_enqueue_email_notification`. -/
  | enqueuing (event : Event)
  /-- Before `_mark_failed_or_pending`. -/
  | marking (event_id : UUID) (error : String)

/-- The outbox and the queue of e-mails. -/
structure Store where
  events : Table Event.id
  /-- The enqueued notifications, newest first, each with the id of its event. -/
  enqueued : List (UUID × Notification)
  clock : Datetime

/-- What a statement leaves open. -/
structure Choice where
  /-- Microseconds since the previous statement. -/
  elapsed : ℕ
  /-- The class name of the error that the statement raises, if any. -/
  fault : Option String
  /-- Whether a task that is sent with an error reaches the queue nevertheless. -/
  sent : Bool
  /-- What `_notification_for_event` makes of the rows that it reads. -/
  notification : Event → String → Option Notification

/-- What happens on the turn of a session. -/
inductive Turn : Type where
  /-- An aggregate records an event. -/
  | record (id aggregate_id : UUID) (event_type : String) (payload : List (String × JsonValue))
  /-- A task starts to publish an event. -/
  | publish (event_id : UUID)
  /-- The next statement is performed. -/
  | next (choice : Choice)

/-- The row of a recorded event. -/
def Event.recorded (id aggregate_id : UUID) (event_type : String)
    (payload : List (String × JsonValue)) (now : Datetime) : Event where
  id
  aggregate_id
  event_type
  payload
  status := .pending
  attempts := 0
  last_error := none
  next_attempt_at := none
  published_at := none
  created_at := now

/-- The row after the first transaction. -/
def Event.claimed (event : Event) : Event :=
  { event with status := .processing, attempts := event.attempts + 1 }

/-- The row after the second transaction. -/
def Event.publishedAt (event : Event) (now : Datetime) : Event :=
  { event with
    status := .published
    published_at := some now
    last_error := none
    next_attempt_at := none }

/-- The row after `_mark_failed_or_pending`. -/
def Event.marked (event : Event) (error : String) (now : Datetime) : Event :=
  if MAX_EVENT_ATTEMPTS ≤ event.attempts then
    { event with status := .failed, last_error := some error, next_attempt_at := none }
  else
    { event with
      status := .pending
      last_error := some error
      next_attempt_at := some (now + seconds (min (2 ^ event.attempts) 300)) }

@[simp] theorem Event.claimed_id (event : Event) : event.claimed.id = event.id := rfl

@[simp] theorem Event.publishedAt_id (event : Event) (now : Datetime) :
    (event.publishedAt now).id = event.id := rfl

@[simp] theorem Event.marked_id (event : Event) (error : String) (now : Datetime) :
    (event.marked error now).id = event.id := by
  unfold Event.marked
  split <;> rfl

/-- The first transaction of `publish_domain_event`. -/
def claim (outbox : DomainOutbox) (store : Store) (event_id : UUID) : Store × Phase :=
  match store.events.lookup event_id with
  | none => (store, .rest (some (.ok false)))
  | some event =>
    match event.status with
    | .published => (store, .rest (some (.ok true)))
    | .failed => (store, .rest (some (.ok false)))
    | .pending | .processing =>
      ({ store with events := store.events.upsert event.claimed },
        if consumes outbox then .consuming event.claimed else .publishing event_id)

/-- The second transaction. -/
def publish (store : Store) (event_id : UUID) : Store × Phase :=
  match store.events.lookup event_id with
  | none => (store, .marking event_id "DoesNotExist")
  | some event =>
    ({ store with events := store.events.upsert (event.publishedAt store.clock) },
      .enqueuing (event.publishedAt store.clock))

/-- `_mark_failed_or_pending`, after which the error is raised again. -/
def mark (store : Store) (event_id : UUID) (error : String) : Store × Phase :=
  match store.events.lookup event_id with
  | none => (store, .rest (some (.error "DoesNotExist")))
  | some event =>
    ({ store with events := store.events.upsert (event.marked error store.clock) },
      .rest (some (.error error)))

/-- `_enqueue_email_notification`, whose errors are logged and swallowed. -/
def enqueue (outbox : DomainOutbox) (store : Store) (choice : Choice) (event : Event) : Store :=
  match (EVENT_TO_TEMPLATE outbox).lookup event.event_type with
  | none => store
  | some template =>
    match choice.notification event template with
    | none => store
    | some notification =>
      if choice.fault.isNone || choice.sent then
        { store with enqueued := (event.id, notification) :: store.enqueued }
      else store

/-- The next statement of a publisher. -/
def next (outbox : DomainOutbox) (store : Store) (choice : Choice) : Phase → Store × Phase
  | .rest result => (store, .rest result)
  | .claiming event_id =>
    match choice.fault with
    | some error => (store, .rest (some (.error error)))
    | none => claim outbox store event_id
  | .consuming event =>
    match choice.fault with
    | some error => (store, .marking event.id error)
    | none => (store, .publishing event.id)
  | .publishing event_id =>
    match choice.fault with
    | some error => (store, .marking event_id error)
    | none => publish store event_id
  | .enqueuing event => (enqueue outbox store choice event, .rest (some (.ok true)))
  | .marking event_id error =>
    match choice.fault with
    | some other => (store, .rest (some (.error other)))
    | none => mark store event_id error

variable {ι : Type} [DecidableEq ι]

/-- The turn of a session. A call starts only when none is in progress. -/
def statement (outbox : DomainOutbox) : Statement ι Store Phase Turn := fun s i turn =>
  match turn with
  | .record id aggregate_id event_type payload =>
    if (s.store.events.lookup id).isSome then (s.store, s.phase i)
    else
      ({ s.store with
          events := s.store.events.upsert
            (.recorded id aggregate_id event_type payload s.store.clock) },
        s.phase i)
  | .publish event_id =>
    match s.phase i with
    | .rest _ => (s.store, .claiming event_id)
    | phase => (s.store, phase)
  | .next choice =>
    next outbox { s.store with clock := s.store.clock + choice.elapsed } choice (s.phase i)

/-- The event is stored as published. -/
def Store.Published (store : Store) (id : UUID) : Prop :=
  ∃ event, store.events.lookup id = some event ∧ event.status = .published

/-- The second or third transaction of a worker does not come after another worker has
published the event. -/
def Undisturbed (store : Store) : Phase → Prop
  | .publishing event_id | .marking event_id _ => ¬ store.Published event_id
  | _ => True

/-- A turn on which no worker acts on an event that another one has published since its
claim. -/
def Calm (s : Sessions ι Store Phase) (turn : ι × Turn) : Prop :=
  match turn.2 with
  | .next _ => Undisturbed s.store (s.phase turn.1)
  | _ => True

/-- An empty outbox with no task running. -/
def start : Sessions ι Store Phase where
  store := { events := .empty, enqueued := [], clock := 0 }
  phase := fun _ => .rest none

section Proofs

variable {outbox : DomainOutbox} {store : Store} {s : Sessions ι Store Phase} {i j : ι}
  {id : UUID} {event : Event} {choice : Choice} {phase : Phase}

omit [DecidableEq ι] in
/-- Writing a row of an event that is not published keeps the published ones. -/
theorem Store.Published.upsert {row : Event} {enqueued : List (UUID × Notification)}
    {clock : Datetime} (h : store.Published id) (hrow : ¬ store.Published row.id) :
    Store.Published ⟨store.events.upsert row, enqueued, clock⟩ id := by
  obtain ⟨event, hlookup, hstatus⟩ := h
  refine ⟨event, ?_, hstatus⟩
  have hne : row.id ≠ id := by
    rintro rfl
    exact hrow ⟨event, hlookup, hstatus⟩
  rw [Table.lookup_upsert_of_ne hne, hlookup]

omit [DecidableEq ι] in
theorem claim_published (h : store.Published id) {event_id : UUID} :
    (claim outbox store event_id).1.Published id := by
  unfold claim
  split
  · exact h
  · next event hlookup =>
    have hkey : event.id = event_id := Table.key_of_lookup hlookup
    have hopen : ∀ status, event.status = status → status ≠ .published →
        ¬ store.Published event.claimed.id := by
      rintro status hstatus hne ⟨stored, hstored, hpublished⟩
      rw [Event.claimed_id, hkey, hlookup] at hstored
      cases hstored
      exact hne (hstatus.symm.trans hpublished)
    split
    · exact h
    · exact h
    · next hstatus => exact h.upsert (hopen _ hstatus nofun)
    · next hstatus => exact h.upsert (hopen _ hstatus nofun)

omit [DecidableEq ι] in
theorem publish_published (h : store.Published id) {event_id : UUID}
    (hopen : ¬ store.Published event_id) : (publish store event_id).1.Published id := by
  unfold publish
  split
  · exact h
  · next event hlookup =>
    have hkey : event.id = event_id := Table.key_of_lookup hlookup
    refine h.upsert ?_
    rw [Event.publishedAt_id, hkey]
    exact hopen

omit [DecidableEq ι] in
theorem mark_published (h : store.Published id) {event_id : UUID} {error : String}
    (hopen : ¬ store.Published event_id) : (mark store event_id error).1.Published id := by
  unfold mark
  split
  · exact h
  · next event hlookup =>
    have hkey : event.id = event_id := Table.key_of_lookup hlookup
    refine h.upsert ?_
    rw [Event.marked_id, hkey]
    exact hopen

omit [DecidableEq ι] in
/-- An undisturbed statement leaves every published event published. -/
theorem next_published (h : Undisturbed store phase) (hid : store.Published id) :
    (next outbox store choice phase).1.Published id := by
  cases phase with
  | rest result => exact hid
  | claiming event_id =>
    cases hfault : choice.fault with
    | none =>
      simp only [next, hfault]
      exact claim_published hid
    | some error =>
      simp only [next, hfault]
      exact hid
  | consuming event =>
    simp only [next]
    split <;> exact hid
  | publishing event_id =>
    cases hfault : choice.fault with
    | none =>
      simp only [next, hfault]
      exact publish_published hid h
    | some error =>
      simp only [next, hfault]
      exact hid
  | enqueuing event =>
    simp only [next, enqueue]
    repeat' split
    all_goals exact hid
  | marking event_id error =>
    cases hfault : choice.fault with
    | none =>
      simp only [next, hfault]
      exact mark_published hid h
    | some other =>
      simp only [next, hfault]
      exact hid

/-- A session is about to enqueue the notification of an event. -/
def Phase.Enqueues (id : UUID) : Phase → Prop
  | .enqueuing event => event.id = id
  | _ => False

variable (outbox store choice phase) in
omit [DecidableEq ι] in
/-- Only the end of a publication enqueues, and only for its own event. -/
theorem next_enqueued : (next outbox store choice phase).1.enqueued = store.enqueued ∨
    ∃ event notification, phase = .enqueuing event ∧
      (next outbox store choice phase).1.enqueued = (event.id, notification) :: store.enqueued := by
  cases phase with
  | rest result => exact Or.inl rfl
  | enqueuing event =>
    simp only [next, enqueue]
    repeat' split
    · exact Or.inl rfl
    · exact Or.inl rfl
    · next notification _ _ => exact Or.inr ⟨event, notification, rfl, rfl⟩
    · exact Or.inl rfl
  | claiming event_id | consuming event | publishing event_id | marking event_id error =>
    simp only [next, claim, publish, mark]
    repeat' split
    all_goals exact Or.inl rfl

omit [DecidableEq ι] in
/-- A session comes to enqueue by publishing an event, which an undisturbed session finds
unpublished. -/
theorem next_enqueues (h : Undisturbed store phase)
    (hphase : (next outbox store choice phase).2.Enqueues id) :
    ¬ store.Published id ∧ (next outbox store choice phase).1.Published id ∧
      (next outbox store choice phase).1.enqueued = store.enqueued := by
  cases phase with
  | rest result => cases hphase
  | enqueuing event => cases hphase
  | publishing event_id =>
    revert hphase
    simp only [next]
    split
    · rintro ⟨⟩
    · unfold publish
      split
      · rintro ⟨⟩
      · next event hlookup =>
        intro hid
        have hkey : event.id = event_id := Table.key_of_lookup hlookup
        have hid : event.id = id := hid
        rw [← hid, hkey]
        refine ⟨h, ⟨event.publishedAt store.clock, ?_, rfl⟩, rfl⟩
        rw [← show (event.publishedAt store.clock).id = event_id from hkey]
        exact Table.lookup_upsert_self
  | claiming event_id =>
    revert hphase
    simp only [next, claim]
    repeat' split
    all_goals rintro ⟨⟩
  | consuming event | marking event_id error =>
    revert hphase
    simp only [next, mark]
    repeat' split
    all_goals rintro ⟨⟩

/-- What calm turns keep: only published events have notifications, each at most one, and
at most one session is about to enqueue it. -/
structure Sound (s : Sessions ι Store Phase) : Prop where
  published : ∀ entry ∈ s.store.enqueued, s.store.Published entry.1
  distinct : (s.store.enqueued.map Prod.fst).Nodup
  ready : ∀ i id, (s.phase i).Enqueues id →
    s.store.Published id ∧ id ∉ s.store.enqueued.map Prod.fst
  alone : ∀ i j id, (s.phase i).Enqueues id → (s.phase j).Enqueues id → i = j

omit [DecidableEq ι] in
/-- A turn that enqueues nothing, publishes nothing new and keeps what is published. -/
theorem Sound.of_quiet {s' : Sessions ι Store Phase} (hs : Sound s)
    (hpublished : ∀ id, s.store.Published id → s'.store.Published id)
    (henqueued : s'.store.enqueued = s.store.enqueued)
    (hphase : ∀ i id, (s'.phase i).Enqueues id → (s.phase i).Enqueues id) : Sound s' where
  published := by
    rw [henqueued]
    exact fun entry hentry => hpublished _ (hs.published entry hentry)
  distinct := by
    rw [henqueued]
    exact hs.distinct
  ready := by
    intro i id hid
    obtain ⟨hpub, hnew⟩ := hs.ready i id (hphase i id hid)
    rw [henqueued]
    exact ⟨hpublished id hpub, hnew⟩
  alone := fun i j id hi hj => hs.alone i j id (hphase i id hi) (hphase j id hj)

/-- The next statement of an undisturbed session keeps the outbox sound. -/
theorem Sound.next (hs : Sound s) (h : Undisturbed s.store (s.phase i)) :
    Sound (s.step (statement outbox) (i, .next choice)) := by
  let store : Store := { s.store with clock := s.store.clock + choice.elapsed }
  have hstore : (s.step (statement outbox) (i, .next choice)).store =
      (Outboxes.next outbox store choice (s.phase i)).1 := rfl
  have hself : (s.step (statement outbox) (i, .next choice)).phase i =
      (Outboxes.next outbox store choice (s.phase i)).2 := Sessions.step_phase_self
  have hkept : ∀ id, s.store.Published id →
      (Outboxes.next outbox store choice (s.phase i)).1.Published id := fun id hid =>
    next_published h hid
  have hother : ∀ j id, j ≠ i →
      ((s.step (statement outbox) (i, .next choice)).phase j).Enqueues id →
      (s.phase j).Enqueues id := by
    intro j id hj hid
    rw [Sessions.step_phase_of_ne hj] at hid
    exact hid
  rcases next_enqueued outbox store choice (s.phase i) with hsame | ⟨event, notification, hphase, hmore⟩
  · have hfresh : ∀ id, (Outboxes.next outbox store choice (s.phase i)).2.Enqueues id →
        ¬ store.Published id ∧ (Outboxes.next outbox store choice (s.phase i)).1.Published id ∧
          (Outboxes.next outbox store choice (s.phase i)).1.enqueued = store.enqueued :=
      fun id => next_enqueues h
    refine ⟨?_, ?_, ?_, ?_⟩
    · rw [hstore, hsame]
      exact fun entry hentry => hkept _ (hs.published entry hentry)
    · rw [hstore, hsame]
      exact hs.distinct
    · intro j id hid
      rw [hstore, hsame]
      by_cases hj : j = i
      · subst hj
        rw [hself] at hid
        obtain ⟨hopen, hpub, _⟩ := hfresh id hid
        refine ⟨hpub, fun hmem => ?_⟩
        obtain ⟨entry, hentry, rfl⟩ := List.mem_map.mp hmem
        exact hopen (hs.published entry hentry)
      · obtain ⟨hpub, hnew⟩ := hs.ready j id (hother j id hj hid)
        exact ⟨hkept id hpub, hnew⟩
    · intro j k id hjd hkd
      by_cases hj : j = i
      · by_cases hk : k = i
        · rw [hj, hk]
        · subst hj
          rw [hself] at hjd
          exact absurd (hs.ready k id (hother k id hk hkd)).1 (hfresh id hjd).1
      · by_cases hk : k = i
        · subst hk
          rw [hself] at hkd
          exact absurd (hs.ready j id (hother j id hj hjd)).1 (hfresh id hkd).1
        · exact hs.alone j k id (hother j id hj hjd) (hother k id hk hkd)
  · -- the session has enqueued the notification of its own event and is done
    have hready := hs.ready i event.id (by rw [hphase]; rfl)
    have hdone : ∀ id, ¬ ((s.step (statement outbox) (i, .next choice)).phase i).Enqueues id := by
      intro id hid
      rw [hself, hphase] at hid
      exact hid
    have hothers : ∀ j id, ((s.step (statement outbox) (i, .next choice)).phase j).Enqueues id →
        j ≠ i ∧ (s.phase j).Enqueues id := by
      intro j id hid
      have hj : j ≠ i := by
        rintro rfl
        exact hdone id hid
      exact ⟨hj, hother j id hj hid⟩
    refine ⟨?_, ?_, ?_, ?_⟩
    · rw [hstore, hmore]
      intro entry hentry
      rcases List.mem_cons.mp hentry with rfl | hentry
      · exact hkept _ hready.1
      · exact hkept _ (hs.published entry hentry)
    · rw [hstore, hmore, List.map_cons, List.nodup_cons]
      exact ⟨hready.2, hs.distinct⟩
    · intro j id hid
      obtain ⟨hj, hold⟩ := hothers j id hid
      obtain ⟨hpub, hnew⟩ := hs.ready j id hold
      rw [hstore, hmore, List.map_cons, List.mem_cons, not_or]
      refine ⟨hkept id hpub, ?_, hnew⟩
      rintro rfl
      exact hj (hs.alone j i event.id hold (by rw [hphase]; rfl))
    · intro j k id hjd hkd
      exact hs.alone j k id (hothers j id hjd).2 (hothers k id hkd).2

/-- A calm turn keeps the outbox sound. -/
theorem Sound.step (turn : ι × Turn) (hs : Sound s) (hcalm : Calm s turn) :
    Sound (s.step (statement outbox) turn) := by
  obtain ⟨i, turn⟩ := turn
  cases turn with
  | next choice => exact hs.next hcalm
  | publish event_id =>
    have hresult : statement outbox s i (.publish event_id) = (s.store, .claiming event_id) ∨
        statement outbox s i (.publish event_id) = (s.store, s.phase i) := by
      unfold statement
      cases hphase : s.phase i with
      | rest result => exact Or.inl rfl
      | _ => exact Or.inr rfl
    have hstore : (s.step (statement outbox) (i, .publish event_id)).store = s.store := by
      rw [Sessions.step_store]
      rcases hresult with h | h
      · rw [h]
      · rw [h]
    refine hs.of_quiet (fun id hid => hstore ▸ hid) (by rw [hstore]) ?_
    intro j id hid
    by_cases hj : j = i
    · subst hj
      rw [Sessions.step_phase_self] at hid
      rcases hresult with h | h
      · rw [h] at hid
        cases hid
      · rw [h] at hid
        exact hid
    · rw [Sessions.step_phase_of_ne hj] at hid
      exact hid
  | record id aggregate_id event_type payload =>
    have hphase : ∀ j, (s.step (statement outbox)
        (i, .record id aggregate_id event_type payload)).phase j = s.phase j := by
      intro j
      by_cases hj : j = i
      · subst hj
        rw [Sessions.step_phase_self]
        simp only [statement]
        split <;> rfl
      · exact Sessions.step_phase_of_ne hj
    refine hs.of_quiet ?_ ?_ (fun j id' hid => hphase j ▸ hid)
    · intro id' hid
      rw [Sessions.step_store]
      simp only [statement]
      split
      · exact hid
      · next hnone =>
        refine hid.upsert ?_
        rintro ⟨stored, hstored, _⟩
        have hstored : s.store.events.lookup id = some stored := hstored
        rw [hstored] at hnone
        exact hnone rfl
    · rw [Sessions.step_store]
      simp only [statement]
      split <;> rfl

end Proofs

section Samples

instance (store : Store) (id : UUID) : Decidable (store.Published id) :=
  decidable_of_iff ((store.events.lookup id).any fun event => event.status = .published) (by
    unfold Store.Published
    cases store.events.lookup id <;> simp)

instance (store : Store) (phase : Phase) : Decidable (Undisturbed store phase) := by
  cases phase <;> unfold Undisturbed <;> infer_instance

instance (s : Sessions (Fin 2) Store Phase) (turn : Fin 2 × Turn) : Decidable (Calm s turn) := by
  unfold Calm
  split <;> infer_instance

/-- A statement without an error, a millisecond after the previous one. -/
def sampleChoice : Choice where
  elapsed := 1000
  fault := none
  sent := false
  notification := fun _ template =>
    some { recipient := "owner@example.com", template, context := [] }

/-- An event is recorded and published by one worker; then another worker gets it again. -/
def samplePublished : List (Fin 2 × Turn) :=
  [(0, .record 1 2 "VendorApproved" []), (0, .publish 1), (0, .next sampleChoice),
    (0, .next sampleChoice), (0, .next sampleChoice), (1, .publish 1), (1, .next sampleChoice)]

/-- The on-commit task and the periodic retry both claim an event before one of them has
published it. -/
def samplePublishedTwice : List (Fin 2 × Turn) :=
  [(0, .record 1 2 "VendorApproved" []), (0, .publish 1), (1, .publish 1),
    (0, .next sampleChoice), (1, .next sampleChoice), (0, .next sampleChoice),
    (0, .next sampleChoice), (1, .next sampleChoice), (1, .next sampleChoice)]

end Samples

/-- In every run of calm turns, at most one notification is enqueued for each event. -/
theorem one_notification {ι : Type} [DecidableEq ι] (outbox : DomainOutbox)
    (turns : List (ι × Turn))
    (hcalm : Sessions.Always (statement outbox) Calm (start : Sessions ι Store Phase) turns)
    (id : UUID) :
    let s := (start : Sessions ι Store Phase).run (statement outbox) turns
    (s.store.enqueued.map Prod.fst).count id ≤ 1 := by
  have hstart : Sound (start : Sessions ι Store Phase) := by
    refine ⟨?_, List.nodup_nil, ?_, ?_⟩
    · exact fun entry hentry => absurd hentry List.not_mem_nil
    · rintro i id ⟨⟩
    · rintro i j id ⟨⟩
  have hend := Sessions.run_keeps (I := Sound) (fun s turn hs h => hs.step turn h) hstart hcalm
  exact List.nodup_iff_count_le_one.mp hend.distinct id

/-- The event of the samples has exactly one notification. -/
theorem one_notification_sample :
    let s := (start : Sessions (Fin 2) Store Phase).run (statement .vendor) samplePublished
    1 ∈ s.store.enqueued.map Prod.fst ∧ (s.store.enqueued.map Prod.fst).count 1 ≤ 1 :=
  ⟨by decide, one_notification .vendor samplePublished (by decide) 1⟩

/-- Two workers that overlap enqueue two notifications for one event. -/
theorem two_notifications :
    ¬ ∀ (outbox : DomainOutbox) (turns : List (Fin 2 × Turn)) (id : UUID),
      let s := (start : Sessions (Fin 2) Store Phase).run (statement outbox) turns
      (s.store.enqueued.map Prod.fst).count id ≤ 1 := by
  intro h
  have htwice := h .vendor samplePublishedTwice 1
  revert htwice
  decide

end Linkapro.Outboxes
