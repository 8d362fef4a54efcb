import Linkapro.Marketplace.Reconciliation

/-!
# Marketplace: what a reconciliation leaves

A reconciliation with which only the deliveries of its own events overlap leaves, once these have
been delivered, the listings of the approved and complete vendors and no others.
-/

namespace Linkapro.Projection

open Lib Outboxes.Marketplace Vendors

section Stores

variable {earlier : Table Event.id} {store store' : ProjectionStore} {event row : Event}

/-- What the later events of an outbox keep: they ask for the listings of listable vendors, and
those that are delivered have been performed. -/
def EventsSound (earlier : Table Event.id) (store : ProjectionStore) : Prop :=
  ∀ event ∈ store.outbox.events.rows, earlier.lookup event.id = none →
    Upserts event ∧ store.Listable event.vendor_id ∧
      (event.status = .delivered → store.service.Listed event.vendor_id)

/-- What is never undone. -/
structure Grows (store store' : ProjectionStore) : Prop where
  vendors : store'.vendors = store.vendors
  listed : ∀ vendor_id, store.Listable vendor_id → store.service.Listed vendor_id →
    store'.service.Listed vendor_id
  rows : ∀ id row, store.outbox.events.lookup id = some row →
    ∃ row', store'.outbox.events.lookup id = some row' ∧ row'.vendor_id = row.vendor_id

theorem Grows.refl (store : ProjectionStore) : Grows store store where
  vendors := rfl
  listed _ _ h := h
  rows _ row h := ⟨row, h, rfl⟩

theorem Grows.listable (h : Grows store store') {vendor_id : UUID} :
    store'.Listable vendor_id ↔ store.Listable vendor_id := by
  unfold ProjectionStore.Listable
  rw [h.vendors]

theorem Grows.trans {store'' : ProjectionStore} (h : Grows store store')
    (h' : Grows store' store'') : Grows store store'' where
  vendors := h'.vendors.trans h.vendors
  listed vendor_id hvendor hlisted :=
    h'.listed vendor_id (h.listable.mpr hvendor) (h.listed vendor_id hvendor hlisted)
  rows id row hrow := by
    obtain ⟨row', hrow', hvendor⟩ := h.rows id row hrow
    obtain ⟨row'', hrow'', hvendor'⟩ := h'.rows id row' hrow'
    exact ⟨row'', hrow'', hvendor'.trans hvendor⟩

/-- The store at another time. -/
def ProjectionStore.withClock (store : ProjectionStore) (clock : Datetime) : ProjectionStore :=
  { store with outbox := { store.outbox with clock } }

theorem Grows.withClock (store : ProjectionStore) (clock : Datetime) :
    Grows store (store.withClock clock) where
  vendors := rfl
  listed _ _ h := h
  rows _ row h := ⟨row, h, rfl⟩

/-- An event in the memory of a delivery belongs to a later row. -/
structure Held (earlier : Table Event.id) (store : ProjectionStore) (event : Event) : Prop where
  later : earlier.lookup event.id = none
  upserts : Upserts event
  stored : ∃ row, store.outbox.events.lookup event.id = some row ∧
    row.vendor_id = event.vendor_id

/-- What a delivery keeps. -/
def DeliverySound (earlier : Table Event.id) (store : ProjectionStore) :
    Outboxes.Marketplace.Phase → Prop
  | .rest _ => True
  | .loading event_id => earlier.lookup event_id = none
  | .claiming event => Held earlier store event ∧ event.status ≠ .delivered
  | .delivering event | .marking event _ => Held earlier store event
  | .storing event _ => Held earlier store event ∧ store.service.Listed event.vendor_id

theorem EventsSound.of_lookup (h : EventsSound earlier store) {id : UUID}
    (hlater : earlier.lookup id = none) (hrow : store.outbox.events.lookup id = some row) :
    Upserts row ∧ store.Listable row.vendor_id ∧
      (row.status = .delivered → store.service.Listed row.vendor_id) := by
  obtain ⟨hmem, rfl⟩ := Table.lookup_eq_some_iff.mp hrow
  exact h row hmem hlater

theorem Held.listable (h : Held earlier store event) (hevents : EventsSound earlier store) :
    store.Listable event.vendor_id := by
  obtain ⟨row, hrow, hvendor⟩ := h.stored
  exact hvendor ▸ (hevents.of_lookup h.later hrow).2.1

theorem Held.grows (h : Held earlier store event) (hgrows : Grows store store') :
    Held earlier store' event := by
  obtain ⟨row, hrow, hvendor⟩ := h.stored
  obtain ⟨row', hrow', hvendor'⟩ := hgrows.rows _ row hrow
  exact ⟨h.later, h.upserts, row', hrow', hvendor'.trans hvendor⟩

theorem DeliverySound.grows {phase : Outboxes.Marketplace.Phase}
    (h : DeliverySound earlier store phase) (hevents : EventsSound earlier store)
    (hgrows : Grows store store') : DeliverySound earlier store' phase := by
  cases phase with
  | rest result => trivial
  | loading event_id => exact h
  | claiming event => exact ⟨h.1.grows hgrows, h.2⟩
  | delivering event => exact Held.grows h hgrows
  | marking event error => exact Held.grows h hgrows
  | storing event result => exact ⟨h.1.grows hgrows, hgrows.listed _ (h.1.listable hevents) h.2⟩

/-- A save of a later row. -/
theorem EventsSound.save (h : EventsSound earlier store) {saved : Event}
    (hrow : store.outbox.events.lookup saved.id = some row)
    (hvendor : saved.vendor_id = row.vendor_id)
    (hsaved : earlier.lookup saved.id = none → Upserts saved ∧
      (saved.status = .delivered → store.service.Listed saved.vendor_id)) {clock : Datetime}
    (houtbox : store'.outbox = { events := store.outbox.events.upsert saved, clock })
    (hvendors : store'.vendors = store.vendors) (hservice : store'.service = store.service) :
    EventsSound earlier store' ∧ Grows store store' := by
  have hgrows : Grows store store' :=
    { vendors := hvendors
      listed := fun _ _ hlisted => by rwa [hservice]
      rows := fun id other hother => by
        rw [houtbox, Table.lookup_upsert]
        by_cases hid : saved.id = id
        · subst hid
          rw [hrow] at hother
          cases hother
          exact ⟨saved, if_pos rfl, hvendor⟩
        · exact ⟨other, by rw [if_neg hid, hother], rfl⟩ }
  refine ⟨fun event hmem hlater => ?_, hgrows⟩
  rw [houtbox] at hmem
  rw [hgrows.listable, hservice]
  rcases Table.mem_upsert_iff.mp hmem with rfl | ⟨hold, _⟩
  · refine ⟨(hsaved hlater).1, ?_, (hsaved hlater).2⟩
    rw [hvendor]
    exact (h.of_lookup hlater hrow).2.1
  · exact h event hold hlater

theorem upserts_iff : Upserts event ↔ event.event_type = .upsertVendor ∧
    ∃ payload, syncPayload event.payload = some payload ∧ Lists payload event.vendor_id := by
  unfold Upserts requestOf
  cases event.event_type with
  | upsertVendor =>
    dsimp only
    constructor
    · rintro ⟨payload, hrequest, hlists⟩
      split at hrequest
      · next sent hsent =>
        cases hrequest
        exact ⟨rfl, payload, hsent, hlists⟩
      · cases hrequest
    · rintro ⟨_, payload, hsent, hlists⟩
      rw [hsent]
      exact ⟨payload, rfl, hlists⟩
  | deleteVendor => exact ⟨fun ⟨_, h, _⟩ => (nomatch h), fun ⟨h, _⟩ => (nomatch h)⟩

/-- A save writes the stored row. -/
theorem save_ok {outbox outbox' : Outboxes.Marketplace.Store} {id : UUID} {update : Event → Event}
    (h : save outbox id update = .ok outbox') :
    ∃ row, outbox.events.lookup id = some row ∧
      outbox' = { outbox with events := outbox.events.upsert (update row) } := by
  unfold save at h
  split at h
  · cases h
  · next row hrow =>
    cases h
    exact ⟨row, hrow, rfl⟩

/-- What a statement of a delivery keeps. -/
structure Delivers (earlier : Table Event.id) (store store' : ProjectionStore)
    (phase : Outboxes.Marketplace.Phase) : Prop where
  events : EventsSound earlier store'
  grows : Grows store store'
  listed : ∀ vendor_id, store'.service.Listed vendor_id →
    store.service.Listed vendor_id ∨ store.Listable vendor_id
  delivery : DeliverySound earlier store' phase

theorem Delivers.rest (h : EventsSound earlier store) (result : Option (Except String Bool)) :
    Delivers earlier store store (.rest result) where
  events := h
  grows := .refl store
  listed _ := .inl
  delivery := trivial

theorem Delivers.of_withClock {clock : Datetime} {phase : Outboxes.Marketplace.Phase}
    (h : Delivers earlier (store.withClock clock) store' phase) :
    Delivers earlier store store' phase where
  events := h.events
  grows := (Grows.withClock store clock).trans h.grows
  listed := h.listed
  delivery := h.delivery

/-- A save under a choice. -/
theorem saving_delivers (h : EventsSound earlier store)
    {saved : Except String Outboxes.Marketplace.Store} {after : Outboxes.Marketplace.Phase}
    (hsaved : ∀ outbox, saved = .ok outbox → Delivers earlier store { store with outbox } after)
    (choice : Outboxes.Marketplace.Choice) :
    Delivers earlier store { store with outbox := (saving store.outbox choice saved after).1 }
      (saving store.outbox choice saved after).2 := by
  unfold saving
  split
  · exact .rest h _
  · next outbox error _ =>
    by_cases happlied : choice.applied = true
    · rw [if_pos happlied]
      exact { hsaved outbox rfl with delivery := trivial }
    · rw [if_neg happlied]
      exact .rest h _
  · next outbox _ => exact hsaved outbox rfl

/-- A save of the row of an event that a delivery holds. -/
theorem Held.save (hheld : Held earlier store event) (h : EventsSound earlier store)
    {update : Event → Event} {after : Outboxes.Marketplace.Phase}
    {outbox : Outboxes.Marketplace.Store} (hsave : save store.outbox event.id update = .ok outbox)
    (hid : ∀ row, (update row).id = row.id)
    (hvendor : ∀ row, (update row).vendor_id = row.vendor_id)
    (hupserts : ∀ row, Upserts row → row.vendor_id = event.vendor_id → Upserts (update row))
    (hdelivered : ∀ row, row.vendor_id = event.vendor_id → (update row).status = .delivered →
      store.service.Listed event.vendor_id)
    (hafter : ∀ store', Grows store store' → store'.service = store.service →
      DeliverySound earlier store' after) :
    Delivers earlier store { store with outbox } after := by
  obtain ⟨row, hrow, rfl⟩ := save_ok hsave
  obtain ⟨row', hrow', hsame⟩ := hheld.stored
  have heq : row' = row := Option.some.inj (hrow'.symm.trans hrow)
  subst heq
  have hlookup : store.outbox.events.lookup (update row').id = some row' := by
    rw [hid, Table.key_of_lookup hrow, hrow]
  have hsaved : Upserts (update row') ∧
      ((update row').status = .delivered → store.service.Listed (update row').vendor_id) := by
    refine ⟨hupserts row' (h.of_lookup hheld.later hrow).1 hsame, fun hstatus => ?_⟩
    rw [hvendor, hsame]
    exact hdelivered row' hsame hstatus
  obtain ⟨hevents, hgrows⟩ : EventsSound earlier { store with
        outbox := { store.outbox with events := store.outbox.events.upsert (update row') } } ∧
      Grows store { store with
        outbox := { store.outbox with events := store.outbox.events.upsert (update row') } } :=
    h.save hlookup (hvendor row') (fun _ => hsaved) rfl rfl rfl
  exact ⟨hevents, hgrows, fun _ => .inl, hafter _ hgrows rfl⟩

/-- The event as it is loaded. -/
theorem load_delivers (h : EventsSound earlier store) {event_id : UUID}
    (hlater : earlier.lookup event_id = none) :
    Delivers earlier store store (Outboxes.Marketplace.load store.outbox event_id) := by
  unfold Outboxes.Marketplace.load
  split
  · exact .rest h _
  · next event hevent =>
    have hid : event.id = event_id := Table.key_of_lookup hevent
    have hclaimed : DeliverySound earlier store (.claiming event.claimed) :=
      ⟨⟨hid ▸ hlater, (h.of_lookup hlater hevent).1, event, hid ▸ hevent, rfl⟩, nofun⟩
    split
    · exact .rest h _
    · exact .rest h _
    all_goals exact ⟨h, .refl store, fun _ => .inl, hclaimed⟩

/-- The statements of a delivery besides its request. -/
theorem next_delivers (h : EventsSound earlier store) {phase : Outboxes.Marketplace.Phase}
    (hphase : DeliverySound earlier store phase) (hrequest : ∀ event, phase ≠ .delivering event)
    (choice : Outboxes.Marketplace.Choice) :
    Delivers earlier store
      { store with outbox := (Outboxes.Marketplace.next store.outbox choice phase).1 }
      (Outboxes.Marketplace.next store.outbox choice phase).2 := by
  cases phase with
  | rest result => exact .rest h _
  | loading event_id =>
    rw [Outboxes.Marketplace.next]
    split
    · exact .rest h _
    · exact load_delivers h hphase
  | delivering event => exact absurd rfl (hrequest event)
  | claiming event =>
    obtain ⟨hheld, hstatus⟩ := hphase
    rw [Outboxes.Marketplace.next]
    refine saving_delivers h (fun outbox hsave => ?_) choice
    unfold saveClaimed at hsave
    exact hheld.save h hsave (fun _ => rfl) (fun _ => rfl) (fun row hrow _ => hrow)
      (fun _ _ hdelivered => absurd hdelivered hstatus) (fun _ hgrows _ => hheld.grows hgrows)
  | marking event error =>
    have hheld : Held earlier store event := hphase
    rw [Outboxes.Marketplace.next]
    refine saving_delivers h (fun outbox hsave => ?_) choice
    have hstatus : (event.marked error store.outbox.clock).status ≠ .delivered := by
      unfold Event.marked
      split <;> rintro ⟨⟩
    have hid : (event.marked error store.outbox.clock).id = event.id := by
      unfold Event.marked
      split <;> rfl
    unfold saveMarked at hsave
    rw [hid] at hsave
    exact hheld.save h hsave (fun _ => rfl) (fun _ => rfl) (fun row hrow _ => hrow)
      (fun _ _ hdelivered => absurd hdelivered hstatus) (fun _ _ _ => trivial)
  | storing event result =>
    obtain ⟨hheld, hlisted⟩ := hphase
    rw [Outboxes.Marketplace.next]
    refine saving_delivers h (fun outbox hsave => ?_) choice
    unfold saveDelivered at hsave
    refine hheld.save h hsave (fun _ => rfl) (fun _ => rfl) (fun row hrow hsame => ?_)
      (fun _ _ _ => hlisted) (fun _ _ _ => trivial)
    obtain ⟨htype, _⟩ := upserts_iff.mp hrow
    obtain ⟨_, payload, hpayload, hlists⟩ := upserts_iff.mp hheld.upserts
    refine upserts_iff.mpr ⟨htype, payload, ?_, hsame ▸ hlists⟩
    exact (syncPayload_result _).trans hpayload

/-- The request of an event that a delivery holds. -/
theorem Held.send (hheld : Held earlier store event) (h : EventsSound earlier store)
    {payload : List (String × JsonValue)} (hlists : Lists payload event.vendor_id) (reply : Reply)
    {after : Outboxes.Marketplace.Phase}
    (hafter : Grows store { store with
        service := (store.service.send .configured reply (.delivery (.upsert payload))).2 } →
      DeliverySound earlier { store with
        service := (store.service.send .configured reply (.delivery (.upsert payload))).2 }
        after) :
    Delivers earlier store { store with
      service := (store.service.send .configured reply (.delivery (.upsert payload))).2 } after := by
  have hperform {vendor_id : UUID} (hlisted : store.service.Listed vendor_id) :
      (store.service.send .configured reply (.delivery (.upsert payload))).2.Listed vendor_id :=
    listed_send ((listed_perform_upsert hlists).mpr (.inr hlisted)) hlisted
  have hgrows : Grows store { store with
      service := (store.service.send .configured reply (.delivery (.upsert payload))).2 } :=
    { vendors := rfl
      listed := fun _ _ => hperform
      rows := fun _ row hrow => ⟨row, hrow, rfl⟩ }
  refine ⟨fun other hmem hlater => ?_, hgrows, fun vendor_id hlisted => ?_, hafter hgrows⟩
  · obtain ⟨hupserts, hlistable, hdelivered⟩ := h other hmem hlater
    exact ⟨hupserts, hlistable, fun hstatus => hperform (hdelivered hstatus)⟩
  · have hcases := send_cases store.service .configured reply (.delivery (.upsert payload))
    rcases hcases with heq | heq | heq
    · dsimp only at hlisted
      exact .inl (heq ▸ hlisted)
    · dsimp only at hlisted
      rw [heq] at hlisted
      rcases (listed_perform_upsert hlists).mp hlisted with rfl | hlisted
      · exact .inr (hheld.listable h)
      · exact .inl hlisted
    · dsimp only at hlisted
      rw [heq] at hlisted
      exact .inl hlisted

/-- A statement of a delivery. -/
theorem nextDelivery_delivers (h : EventsSound earlier store) {phase : Outboxes.Marketplace.Phase}
    (hphase : DeliverySound earlier store phase) (choice : Choice) :
    ∃ after, (nextDelivery .configured store choice phase).2 = ofDelivery after ∧
      Delivers earlier store (nextDelivery .configured store choice phase).1 after := by
  cases phase with
  | delivering event =>
    have hheld : Held earlier store event := hphase
    obtain ⟨payload, hrequest, hlists⟩ := hheld.upserts
    unfold nextDelivery
    dsimp only
    rw [hrequest]
    dsimp only
    cases hanswer :
        (store.service.send .configured choice.reply (.delivery (.upsert payload))).1 with
    | error error =>
      exact ⟨.marking event error, rfl,
        hheld.send h hlists choice.reply fun hgrows => hheld.grows hgrows⟩
    | ok answer =>
      refine ⟨.storing event choice.database.result, rfl,
        hheld.send h hlists choice.reply fun hgrows => ⟨hheld.grows hgrows, ?_⟩⟩
      dsimp only
      rw [send_ok hanswer]
      exact (listed_perform_upsert hlists).mpr (.inl rfl)
  | _ =>
    exact ⟨_, rfl, next_delivers h hphase nofun choice.database⟩

end Stores

section Runs

variable {ι : Type} [DecidableEq ι] {earlier : Table Event.id} {store store' : ProjectionStore}
  {s : Sessions ι ProjectionStore Phase} {working : Option ι} {choice : Choice}

/-- The projection of a vendor has been enqueued later on. -/
def Enqueued (earlier : Table Event.id) (store : ProjectionStore) (vendor_id : UUID) : Prop :=
  ∃ event ∈ store.outbox.events.rows, earlier.lookup event.id = none ∧ event.vendor_id = vendor_id

/-- Besides the listings that are still to be deleted, all listings are those of listable
vendors. -/
structure Closing (store : ProjectionStore) (vendor_ids : List String) : Prop where
  listed : ∀ vendor_id, store.service.Listed vendor_id →
    store.Listable vendor_id ∨ ∃ id ∈ vendor_ids, uuidOf id = some vendor_id
  stale : ∀ id ∈ vendor_ids, ∀ vendor_id, uuidOf id = some vendor_id → ¬ store.Listable vendor_id

/-- What a reconciliation has done when it returns. -/
structure Reconciled (earlier : Table Event.id) (store : ProjectionStore) : Prop where
  closing : Closing store []
  enqueued : ∀ vendor_id, store.Listable vendor_id → Enqueued earlier store vendor_id

/-- How far a reconciliation has come, without other changes. -/
def Progress (earlier : Table Event.id) (store : ProjectionStore) : Phase → Prop
  | .reading dry_run => dry_run = false
  | .listing approved_vendors dry_run =>
    dry_run = false ∧ approved_vendors = _approved_complete_vendors store.vendors
  | .enqueuing plan vendors => Closing store plan.stale_vendor_ids ∧
      (∀ vendor ∈ vendors, _is_vendor_listable vendor = true ∧ store.Listable vendor.id) ∧
        ∀ vendor_id, store.Listable vendor_id →
          (∃ vendor ∈ vendors, vendor.id = vendor_id) ∨ Enqueued earlier store vendor_id
  | .deleting _ vendor_ids => Closing store vendor_ids ∧
      ∀ vendor_id, store.Listable vendor_id → Enqueued earlier store vendor_id
  | .rest (some (.ok (.reconciled _))) => Reconciled earlier store
  | .rest _ | .delivering _ => True

theorem Enqueued.grows {vendor_id : UUID} (h : Enqueued earlier store vendor_id)
    (hgrows : Grows store store') : Enqueued earlier store' vendor_id := by
  obtain ⟨event, hmem, hlater, rfl⟩ := h
  obtain ⟨row, hrow, hvendor⟩ := hgrows.rows _ event (Table.lookup_of_mem hmem)
  obtain ⟨hmem', hid⟩ := Table.lookup_eq_some_iff.mp hrow
  exact ⟨row, hmem', hid ▸ hlater, hvendor⟩

/-- New listings are those of listable vendors. -/
theorem Closing.grows {vendor_ids : List String} (h : Closing store vendor_ids)
    (hgrows : Grows store store') (hlisted : ∀ vendor_id, store'.service.Listed vendor_id →
      store.service.Listed vendor_id ∨ store.Listable vendor_id) : Closing store' vendor_ids where
  listed vendor_id hvendor := by
    rw [hgrows.listable]
    rcases hlisted vendor_id hvendor with hold | hlistable
    · exact h.listed vendor_id hold
    · exact .inl hlistable
  stale id hid vendor_id huuid := by
    rw [hgrows.listable]
    exact h.stale id hid vendor_id huuid

theorem Progress.grows {phase : Phase} (h : Progress earlier store phase)
    (hgrows : Grows store store') (hlisted : ∀ vendor_id, store'.service.Listed vendor_id →
      store.service.Listed vendor_id ∨ store.Listable vendor_id) :
    Progress earlier store' phase := by
  have hall (henqueued : ∀ vendor_id, store.Listable vendor_id →
      Enqueued earlier store vendor_id) (vendor_id : UUID) (hlistable : store'.Listable vendor_id) :
      Enqueued earlier store' vendor_id :=
    (henqueued vendor_id (hgrows.listable.mp hlistable)).grows hgrows
  cases phase with
  | reading dry_run => exact h
  | listing approved_vendors dry_run => exact ⟨h.1, hgrows.vendors ▸ h.2⟩
  | enqueuing plan vendors =>
    obtain ⟨hclosing, hvendors, henqueued⟩ := h
    refine ⟨hclosing.grows hgrows hlisted, fun vendor hmem => ?_, fun vendor_id hlistable => ?_⟩
    · exact ⟨(hvendors vendor hmem).1, hgrows.listable.mpr (hvendors vendor hmem).2⟩
    · exact (henqueued vendor_id (hgrows.listable.mp hlistable)).imp_right fun h => h.grows hgrows
  | deleting plan vendor_ids => exact ⟨h.1.grows hgrows hlisted, hall h.2⟩
  | delivering delivery => trivial
  | rest result =>
    match result, h with
    | some (.ok (.reconciled _)), h =>
      exact ⟨h.closing.grows hgrows hlisted, hall h.enqueued⟩
    | some (.ok (.delivered _)), _ => trivial
    | some (.error _), _ => trivial
    | none, _ => trivial

/-- What a delivery leaves for its session. -/
theorem progress_ofDelivery (delivery : Outboxes.Marketplace.Phase) :
    Progress earlier store (ofDelivery delivery) := by
  cases delivery with
  | rest result =>
    match result with
    | none => trivial
    | some (.error _) => trivial
    | some (.ok _) => trivial
  | _ => trivial

/-- How far the session of a reconciliation has come, and what is done when there is none. -/
def Progressing (earlier : Table Event.id) (s : Sessions ι ProjectionStore Phase) :
    Option ι → Prop
  | some i => Progress earlier s.store (s.phase i)
  | none => Reconciled earlier s.store

/-- What the turns of a reconciliation and of the deliveries of its events keep. -/
structure Converging (earlier : Table Event.id) (working : Option ι)
    (s : Sessions ι ProjectionStore Phase) : Prop where
  kept : ∀ id, s.store.outbox.events.lookup id = none → earlier.lookup id = none
  events : EventsSound earlier s.store
  deliveries : ∀ j delivery, s.phase j = .delivering delivery →
    DeliverySound earlier s.store delivery
  others : ∀ j, working ≠ some j → (∃ result, s.phase j = .rest result) ∨
    ∃ delivery, s.phase j = .delivering delivery
  progress : Progressing earlier s working

/-- A turn of the reconciliation or of a delivery of one of its events. -/
def Confined (earlier : Table Event.id) (turn : ι × Turn) : Prop :=
  match turn.2 with
  | .next _ | .crash => True
  | .deliver event_id => earlier.lookup event_id = none
  | _ => False

instance (earlier : Table Event.id) : (turn : ι × Turn) → Decidable (Confined earlier turn) :=
  fun ⟨_, turn⟩ => by
    unfold Confined
    dsimp only
    split <;> infer_instance

/-- The parts of a turn. -/
theorem Converging.of_parts {j : ι} {turn : Turn} (h : Converging earlier working s)
    (hgrows : Grows s.store (s.step (statement .configured) (j, turn)).store)
    (hevents : EventsSound earlier (s.step (statement .configured) (j, turn)).store)
    (hdelivery : ∀ delivery,
      (s.step (statement .configured) (j, turn)).phase j = .delivering delivery →
        DeliverySound earlier (s.step (statement .configured) (j, turn)).store delivery)
    (hother : working ≠ some j →
      (∃ result, (s.step (statement .configured) (j, turn)).phase j = .rest result) ∨
        ∃ delivery, (s.step (statement .configured) (j, turn)).phase j = .delivering delivery)
    (hprogress : Progressing earlier (s.step (statement .configured) (j, turn)) working) :
    Converging earlier working (s.step (statement .configured) (j, turn)) where
  kept id hnone := by
    refine h.kept id (Option.eq_none_iff_forall_not_mem.mpr fun row hrow => ?_)
    obtain ⟨row', hrow', _⟩ := hgrows.rows id row hrow
    rw [hnone] at hrow'
    cases hrow'
  events := hevents
  deliveries k delivery hphase := by
    by_cases hk : k = j
    · subst hk
      exact hdelivery delivery hphase
    · rw [Sessions.step_phase_of_ne hk] at hphase
      exact (h.deliveries k delivery hphase).grows h.events hgrows
  others k hk := by
    by_cases hkj : k = j
    · subst hkj
      exact hother hk
    · rw [Sessions.step_phase_of_ne hkj]
      exact h.others k hk
  progress := hprogress

/-- A turn of another session leaves how far the reconciliation has come. -/
theorem Progressing.step {j : ι} {turn : Turn} (h : Progressing earlier s working)
    (hgrows : Grows s.store (s.step (statement .configured) (j, turn)).store)
    (hlisted : ∀ vendor_id,
      (s.step (statement .configured) (j, turn)).store.service.Listed vendor_id →
        s.store.service.Listed vendor_id ∨ s.store.Listable vendor_id)
    (hself : working = some j → Progress earlier
      (s.step (statement .configured) (j, turn)).store
      ((s.step (statement .configured) (j, turn)).phase j)) :
    Progressing earlier (s.step (statement .configured) (j, turn)) working := by
  cases working with
  | none =>
    exact ⟨h.closing.grows hgrows hlisted, fun vendor_id hlistable =>
      (h.enqueued vendor_id (hgrows.listable.mp hlistable)).grows hgrows⟩
  | some i =>
    by_cases hi : i = j
    · subst hi
      exact hself rfl
    · have hstays : (s.step (statement .configured) (j, turn)).phase i = s.phase i :=
        Sessions.step_phase_of_ne hi
      have hprogress : Progress earlier s.store (s.phase i) := h
      rw [← hstays] at hprogress
      exact hprogress.grows hgrows hlisted

/-- A turn of a delivery. -/
theorem Converging.of_delivers {j : ι} {turn : Turn} (h : Converging earlier working s)
    (after : Outboxes.Marketplace.Phase)
    (hphase : (statement .configured s j turn).2 = ofDelivery after)
    (hdelivers : Delivers earlier s.store (statement .configured s j turn).1 after) :
    Converging earlier working (s.step (statement .configured) (j, turn)) := by
  refine h.of_parts hdelivers.grows hdelivers.events (fun delivery hdelivery => ?_)
    (fun _ => ?_) (h.progress.step hdelivers.grows hdelivers.listed fun _ => ?_)
  · rw [Sessions.step_phase_self, hphase] at hdelivery
    have hafter : after = delivery := by
      cases after with
      | rest result => cases hdelivery
      | _ =>
        cases hdelivery
        rfl
    exact hafter ▸ hdelivers.delivery
  · rw [Sessions.step_phase_self, hphase]
    cases after with
    | rest result => exact .inl ⟨_, rfl⟩
    | _ => exact .inr ⟨_, rfl⟩
  · rw [Sessions.step_phase_self, hphase]
    exact progress_ofDelivery after

/-- A turn that leaves its session as it is. -/
theorem Converging.of_idle {j : ι} {turn : Turn} (h : Converging earlier working s)
    (hphase : (statement .configured s j turn).2 = s.phase j)
    (hgrows : Grows s.store (statement .configured s j turn).1)
    (hevents : EventsSound earlier (statement .configured s j turn).1)
    (hservice : (statement .configured s j turn).1.service = s.store.service) :
    Converging earlier working (s.step (statement .configured) (j, turn)) := by
  have hlisted (vendor_id : UUID)
      (hlisted : (statement .configured s j turn).1.service.Listed vendor_id) :
      s.store.service.Listed vendor_id ∨ s.store.Listable vendor_id := .inl (hservice ▸ hlisted)
  have hself : (s.step (statement .configured) (j, turn)).phase j = s.phase j :=
    Sessions.step_phase_self.trans hphase
  refine h.of_parts hgrows hevents (fun delivery hdelivery => ?_) (fun hne => ?_)
    (h.progress.step hgrows hlisted fun hworking => ?_)
  · exact (h.deliveries j delivery (hself ▸ hdelivery)).grows h.events hgrows
  · rw [hself]
    exact h.others j hne
  · subst hworking
    rw [hself]
    exact Progress.grows h.progress hgrows hlisted

/-- What a statement of a reconciliation keeps. -/
structure Proceeds (earlier : Table Event.id) (store store' : ProjectionStore) (phase : Phase) :
    Prop where
  events : EventsSound earlier store'
  grows : Grows store store'
  progress : Progress earlier store' phase
  calling : ∀ delivery, phase ≠ .delivering delivery

/-- A statement that leaves the store. -/
theorem Proceeds.of_same {phase : Phase} (h : EventsSound earlier store)
    (hprogress : Progress earlier store phase)
    (hcalling : ∀ delivery, phase ≠ .delivering delivery) :
    Proceeds earlier store store phase where
  events := h
  grows := .refl store
  progress := hprogress
  calling := hcalling

/-- A statement with which a call returns. -/
theorem Proceeds.of_rest {result : Option (Except String Outcome)} (h : EventsSound earlier store)
    (hprogress : Progress earlier store (.rest result)) :
    Proceeds earlier store store (.rest result) :=
  .of_same h hprogress fun _ h => by cases h

/-- A statement before or after which listings are deleted. -/
theorem Proceeds.of_deleting {plan : Plan} {vendor_ids : List String}
    (h : EventsSound earlier store') (hgrows : Grows store store')
    (hprogress : Progress earlier store' (.deleting plan vendor_ids)) :
    Proceeds earlier store store' (.deleting plan vendor_ids) where
  events := h
  grows := hgrows
  progress := hprogress
  calling _ h := by cases h

/-- A statement of a call that raises. -/
theorem Proceeds.of_error (h : EventsSound earlier store') (hgrows : Grows store store')
    (error : String) : Proceeds earlier store store' (.rest (some (.error error))) where
  events := h
  grows := hgrows
  progress := trivial
  calling _ h := by cases h

/-- A statement before which or after which events are inserted. -/
theorem Proceeds.of_enqueuing {plan : Plan} {vendors : List VendorProfile}
    (h : EventsSound earlier store') (hgrows : Grows store store')
    (hprogress : Progress earlier store' (.enqueuing plan vendors)) :
    Proceeds earlier store store' (.enqueuing plan vendors) where
  events := h
  grows := hgrows
  progress := hprogress
  calling _ h := by cases h

/-- The plan of a reconciliation deletes the listings without a listable vendor. -/
theorem closing_plan {fastapi_vendor_ids : List String} {reply : Reply} {dry_run : Bool}
    (hids : store.service.vendorIds .configured reply = .ok fastapi_vendor_ids) :
    Closing store (Plan.stale_vendor_ids
      { approved_vendors := _approved_complete_vendors store.vendors, fastapi_vendor_ids
        dry_run }) where
  listed vendor_id hlisted := by
    by_cases happroved : ∃ vendor ∈ _approved_complete_vendors store.vendors,
        uuidText vendor.id = uuidText vendor_id
    · obtain ⟨vendor, hmem, heq⟩ := happroved
      obtain ⟨hrow, hlistable⟩ := mem_approved_complete.mp hmem
      exact .inl ⟨vendor, hrow, uuidText_injective heq, hlistable⟩
    · refine .inr ⟨uuidText vendor_id, mem_stale_iff.mpr ⟨listed_mem_vendorIds hids hlisted,
        fun hmem => ?_⟩, uuidOf_uuidText vendor_id⟩
      obtain ⟨vendor, hvendor, heq⟩ := List.mem_map.mp hmem
      exact happroved ⟨vendor, hvendor, heq⟩
  stale id hid vendor_id huuid := by
    rintro ⟨vendor, hrow, rfl, hlistable⟩
    refine not_approved_of_stale hid huuid (fun id hid => ?_) vendor
      (mem_approved_complete.mpr ⟨hrow, hlistable⟩) rfl
    obtain ⟨listed, _, heq⟩ := mem_vendorIds hids hid
    exact ⟨listed, heq⟩

/-- After the listings have been read, the events of the listable vendors are to be inserted. -/
theorem progress_of_listing {fastapi_vendor_ids : List String} {reply : Reply} {dry_run : Bool}
    (hids : store.service.vendorIds .configured reply = .ok fastapi_vendor_ids) :
    Progress earlier store (.enqueuing
      { approved_vendors := _approved_complete_vendors store.vendors, fastapi_vendor_ids
        dry_run } (_approved_complete_vendors store.vendors)) := by
  have hclosing : Closing store (Plan.stale_vendor_ids
      { approved_vendors := _approved_complete_vendors store.vendors, fastapi_vendor_ids
        dry_run }) := closing_plan hids
  generalize hvendors : _approved_complete_vendors store.vendors = vendors at hclosing ⊢
  refine ⟨hclosing, fun vendor hmem => ?_, fun vendor_id hlistable => .inl ?_⟩
  · obtain ⟨hrow, hlistable⟩ := mem_approved_complete.mp (hvendors ▸ hmem)
    exact ⟨hlistable, vendor, hrow, rfl, hlistable⟩
  · obtain ⟨vendor, hrow, hid, hvendor⟩ := hlistable
    exact ⟨vendor, hvendors ▸ mem_approved_complete.mpr ⟨hrow, hvendor⟩, hid⟩

/-- The reading of the listings. -/
theorem listing_proceeds {vendors : List VendorProfile} (h : EventsSound earlier store)
    (hread : ∀ {fastapi_vendor_ids},
      store.service.vendorIds .configured choice.reply = .ok fastapi_vendor_ids →
        Progress earlier store (.enqueuing
          { approved_vendors := vendors, fastapi_vendor_ids, dry_run := false } vendors)) :
    Proceeds earlier store (next .configured store choice (.listing vendors false)).1
      (next .configured store choice (.listing vendors false)).2 := by
  rw [next]
  split
  · exact .of_error h (.refl store) _
  · next ids hids =>
    dsimp only
    rw [if_neg Bool.false_ne_true]
    exact .of_enqueuing h (.refl store) (hread hids)

/-- The event of a listable vendor joins the outbox. -/
theorem enqueue_grows {outbox : Outboxes.Marketplace.Store} {id : UUID} {vendor : VendorProfile}
    {reason : Option String} {pricing : PackagePricing} (h : EventsSound earlier store)
    (hvendor : _is_vendor_listable vendor = true) (hlistable : store.Listable vendor.id)
    (hkept : ∀ id, store.outbox.events.lookup id = none → earlier.lookup id = none)
    (henqueue : enqueue_vendor_projection store.outbox id vendor reason pricing = some outbox) :
    EventsSound earlier { store with outbox } ∧ Grows store { store with outbox } ∧
      Enqueued earlier { store with outbox } vendor.id := by
  unfold enqueue_vendor_projection at henqueue
  dsimp only at henqueue
  split at henqueue
  · cases henqueue
  · next hunused =>
    have hnone : store.outbox.events.lookup id = none :=
      Option.not_isSome_iff_eq_none.mp hunused
    have hupserts := upserts_of_listable hvendor reason pricing id store.outbox.clock
    cases henqueue
    refine ⟨fun event hmem hlater => ?_, ⟨rfl, fun _ _ hold => hold, fun key row hrow => ?_⟩, ?_⟩
    · rcases Table.mem_upsert_iff.mp hmem with rfl | ⟨hold, _⟩
      · exact ⟨hupserts, hlistable, by rintro ⟨⟩⟩
      · exact h event hold hlater
    · refine ⟨row, (Table.lookup_upsert_of_ne ?_).trans hrow, rfl⟩
      rintro rfl
      cases hnone.symm.trans hrow
    · exact ⟨_, Table.mem_upsert_iff.mpr (.inl rfl), hkept id hnone, rfl⟩

/-- The insertion of an event. -/
theorem enqueue_proceeds {plan : Plan} {vendor : VendorProfile} {vendors : List VendorProfile}
    (h : EventsSound earlier store)
    (hkept : ∀ id, store.outbox.events.lookup id = none → earlier.lookup id = none)
    (hprogress : Progress earlier store (.enqueuing plan (vendor :: vendors))) :
    Proceeds earlier store (next .configured store choice (.enqueuing plan (vendor :: vendors))).1
      (next .configured store choice (.enqueuing plan (vendor :: vendors))).2 := by
  obtain ⟨hclosing, hvendors, henqueued⟩ := hprogress
  obtain ⟨hvendor, hlistable⟩ := hvendors vendor List.mem_cons_self
  rw [next]
  split
  · exact .of_error h (.refl store) _
  · next outbox error henqueue _ =>
    obtain ⟨hevents, hgrows, _⟩ := enqueue_grows h hvendor hlistable hkept henqueue
    split
    · exact .of_error hevents hgrows error
    · exact .of_error h (.refl store) error
  · next outbox henqueue _ =>
    obtain ⟨hevents, hgrows, hnew⟩ := enqueue_grows h hvendor hlistable hkept henqueue
    refine .of_enqueuing hevents hgrows ⟨hclosing.grows hgrows fun _ => .inl,
      fun other hother => ?_, fun vendor_id hvendor_id => ?_⟩
    · obtain ⟨hother, hrow⟩ := hvendors other (List.mem_cons_of_mem _ hother)
      exact ⟨hother, hgrows.listable.mpr hrow⟩
    · rcases henqueued vendor_id (hgrows.listable.mp hvendor_id) with ⟨other, hother, rfl⟩ | hdone
      · rcases List.mem_cons.mp hother with rfl | hother
        · exact .inr hnew
        · exact .inl ⟨other, hother, rfl⟩
      · exact .inr (hdone.grows hgrows)

/-- The deletion of a stale listing. -/
theorem delete_proceeds {plan : Plan} {id : String} {vendor_ids : List String}
    (h : EventsSound earlier store) (hclosing : Closing store (id :: vendor_ids))
    (henqueued : ∀ vendor_id, store.Listable vendor_id → Enqueued earlier store vendor_id) :
    Proceeds earlier store (next .configured store choice (.deleting plan (id :: vendor_ids))).1
      (next .configured store choice (.deleting plan (id :: vendor_ids))).2 := by
  have hkept {vendor_id : UUID} (hlistable : store.Listable vendor_id)
      (hlisted : store.service.Listed vendor_id) :
      (store.service.send .configured choice.reply (.reconciliation id)).2.Listed vendor_id :=
    listed_send (listed_perform_delete.mpr ⟨hlisted, fun huuid =>
      hclosing.stale id List.mem_cons_self vendor_id huuid hlistable⟩) hlisted
  have hevents : EventsSound earlier { store with
      service := (store.service.send .configured choice.reply (.reconciliation id)).2 } := by
    intro event hmem hlater
    obtain ⟨hupserts, hlistable, hdelivered⟩ := h event hmem hlater
    exact ⟨hupserts, hlistable, fun hstatus => hkept hlistable (hdelivered hstatus)⟩
  have hgrows : Grows store { store with
      service := (store.service.send .configured choice.reply (.reconciliation id)).2 } :=
    { vendors := rfl
      listed := fun _ => hkept
      rows := fun _ row hrow => ⟨row, hrow, rfl⟩ }
  rw [next]
  dsimp only
  split
  · exact .of_error hevents hgrows _
  · next hanswer =>
    refine .of_deleting hevents hgrows
      ⟨⟨fun vendor_id hlisted => ?_, fun other hother vendor_id huuid => ?_⟩,
        fun vendor_id hlistable => (henqueued vendor_id hlistable).grows hgrows⟩
    · dsimp only at hlisted
      rw [send_ok hanswer] at hlisted
      obtain ⟨hlisted, hne⟩ := listed_perform_delete.mp hlisted
      rcases hclosing.listed vendor_id hlisted with hlistable | ⟨other, hother, huuid⟩
      · exact .inl hlistable
      · rcases List.mem_cons.mp hother with rfl | hother
        · exact absurd huuid hne
        · exact .inr ⟨other, hother, huuid⟩
    · exact hclosing.stale other (List.mem_cons_of_mem _ hother) vendor_id huuid

/-- A statement of a reconciliation. -/
theorem next_proceeds {phase : Phase} (h : EventsSound earlier store)
    (hkept : ∀ id, store.outbox.events.lookup id = none → earlier.lookup id = none)
    (hprogress : Progress earlier store phase) (hphase : ∀ delivery, phase ≠ .delivering delivery) :
    Proceeds earlier store (next .configured store choice phase).1
      (next .configured store choice phase).2 := by
  cases phase with
  | delivering delivery => exact absurd rfl (hphase delivery)
  | rest result => exact .of_rest h hprogress
  | reading dry_run =>
    rw [next]
    split
    · exact .of_rest h trivial
    · exact .of_same h ⟨hprogress, rfl⟩ fun _ h => by cases h
  | listing approved_vendors dry_run =>
    obtain ⟨rfl, rfl⟩ := hprogress
    exact listing_proceeds h fun hids => progress_of_listing hids
  | enqueuing plan vendors =>
    cases vendors with
    | nil =>
      obtain ⟨hclosing, _, henqueued⟩ := hprogress
      rw [next]
      refine .of_deleting h (.refl store) ⟨hclosing, fun vendor_id hlistable => ?_⟩
      rcases henqueued vendor_id hlistable with ⟨vendor, hmem, _⟩ | hdone
      · cases hmem
      · exact hdone
    | cons vendor vendors => exact enqueue_proceeds h hkept hprogress
  | deleting plan vendor_ids =>
    obtain ⟨hclosing, henqueued⟩ := hprogress
    cases vendor_ids with
    | nil =>
      rw [next]
      exact .of_rest h ⟨hclosing, henqueued⟩
    | cons id vendor_ids => exact delete_proceeds h hclosing henqueued

/-- A statement of a call. -/
theorem Converging.next {j : ι} (h : Converging earlier working s) (choice : Choice) :
    Converging earlier working (s.step (statement .configured) (j, .next choice)) := by
  obtain ⟨clock, hclock⟩ : ∃ clock, clock = s.store.outbox.clock + choice.database.elapsed :=
    ⟨_, rfl⟩
  have hstatement : statement .configured s j (.next choice) =
      Projection.next .configured (s.store.withClock clock) choice (s.phase j) := by
    rw [hclock]
    rfl
  have hgrows : Grows s.store (s.store.withClock clock) := .withClock s.store clock
  have hevents : EventsSound earlier (s.store.withClock clock) := h.events
  by_cases hcall : ∃ delivery, s.phase j = .delivering delivery
  · obtain ⟨delivery, hphase⟩ := hcall
    have hdelivery : DeliverySound earlier (s.store.withClock clock) delivery :=
      (h.deliveries j delivery hphase).grows h.events hgrows
    obtain ⟨after, hafter, hdelivers⟩ := nextDelivery_delivers hevents hdelivery choice
    rw [hphase, Projection.next] at hstatement
    refine h.of_delivers after (hstatement ▸ hafter) ?_
    rw [hstatement]
    exact hdelivers.of_withClock
  · by_cases hworking : working = some j
    · subst hworking
      have hprogress : Progress earlier (s.store.withClock clock) (s.phase j) :=
        Progress.grows h.progress hgrows fun _ => .inl
      have hproceeds : Proceeds earlier (s.store.withClock clock)
          (statement .configured s j (.next choice)).1
          (statement .configured s j (.next choice)).2 := by
        rw [hstatement]
        exact next_proceeds hevents h.kept hprogress fun delivery hphase => hcall ⟨delivery, hphase⟩
      refine h.of_parts (hgrows.trans hproceeds.grows) hproceeds.events
        (fun delivery hphase => ?_) (fun hne => absurd rfl hne) ?_
      · rw [Sessions.step_phase_self] at hphase
        exact absurd hphase (hproceeds.calling delivery)
      · rw [Progressing, Sessions.step_phase_self]
        exact hproceeds.progress
    · obtain ⟨result, hphase⟩ := (h.others j hworking).resolve_right hcall
      rw [hphase, Projection.next, ← hphase] at hstatement
      refine h.of_idle (congrArg Prod.snd hstatement) ?_ ?_ ?_
      all_goals rw [hstatement]
      · exact hgrows
      · exact hevents
      · rfl

/-- A confined turn. -/
theorem Converging.step {turn : ι × Turn} (h : Converging earlier working s)
    (hturn : Confined earlier turn) :
    Converging earlier working (s.step (statement .configured) turn) := by
  obtain ⟨j, turn⟩ := turn
  cases turn with
  | next choice => exact h.next choice
  | crash => exact h.of_delivers (.rest none) rfl (.rest h.events none)
  | deliver event_id =>
    cases hphase : s.phase j with
    | rest result =>
      refine h.of_delivers (.loading event_id) ?_ ?_
      all_goals rw [statement, hphase]
      · rfl
      · exact ⟨h.events, .refl s.store, fun _ => .inl, hturn⟩
    | _ =>
      have hstatement : statement .configured s j (.deliver event_id) = (s.store, s.phase j) := by
        rw [statement, hphase]
      refine h.of_idle (congrArg Prod.snd hstatement) ?_ ?_ ?_
      all_goals rw [hstatement]
      · exact .refl s.store
      · exact h.events
  | _ => exact absurd hturn id

/-- No call is in progress. -/
def AtRest (s : Sessions ι ProjectionStore Phase) : Prop :=
  ∀ i, ∃ result, s.phase i = .rest result

/-- The later events have been delivered. -/
def AllDelivered (earlier : Table Event.id) (store : ProjectionStore) : Prop :=
  ∀ event ∈ store.outbox.events.rows, earlier.lookup event.id = none → event.status = .delivered

instance (earlier : Table Event.id) (store : ProjectionStore) :
    Decidable (AllDelivered earlier store) :=
  inferInstanceAs (Decidable (∀ _ ∈ _, _ = none → _))

/-- The result of a reconciliation that has returned. -/
def Phase.reconciled : Phase → Option MarketplaceReconciliationResult
  | .rest (some (.ok (.reconciled result))) => some result
  | _ => none

/-- A reconciliation starts. -/
theorem AtRest.reconcile (h : AtRest s) (i : ι) :
    Converging s.store.outbox.events (some i)
      (s.step (statement .configured) (i, .reconcile false)) := by
  obtain ⟨result, hphase⟩ := h i
  have hstatement : statement .configured s i (.reconcile false) = (s.store, .reading false) := by
    rw [statement, hphase]
  have hothers (j : ι) (hj : some i ≠ some j) :
      ∃ result, (s.step (statement .configured) (i, .reconcile false)).phase j = .rest result := by
    rw [Sessions.step_phase_of_ne fun hji => hj (congrArg some hji.symm)]
    exact h j
  have hself : (s.step (statement .configured) (i, .reconcile false)).phase i = .reading false := by
    rw [Sessions.step_phase_self, hstatement]
  have hstore : (s.step (statement .configured) (i, .reconcile false)).store = s.store := by
    rw [Sessions.step_store, hstatement]
  constructor
  · exact fun id hnone => hstore ▸ hnone
  · rw [hstore]
    intro event hmem hlater
    cases hlater.symm.trans (Table.lookup_of_mem hmem)
  · intro j delivery hdelivery
    by_cases hj : some i = some j
    · cases hj
      rw [hself] at hdelivery
      cases hdelivery
    · obtain ⟨result, hrest⟩ := hothers j hj
      rw [hrest] at hdelivery
      cases hdelivery
  · exact fun j hj => .inl (hothers j hj)
  · rw [Progressing, hself]
    rfl

/-- Confined turns. -/
theorem Converging.run (h : Converging earlier working s) (turns : List (ι × Turn))
    (hturns : ∀ turn ∈ turns, Confined earlier turn) :
    Converging earlier working (s.run (statement .configured) turns) := by
  induction turns generalizing s with
  | nil => exact h
  | cons turn turns ih =>
    exact ih (h.step (hturns turn List.mem_cons_self)) fun other hother =>
      hturns other (List.mem_cons_of_mem _ hother)

theorem phase_of_reconciled {phase : Phase} {result : MarketplaceReconciliationResult}
    (h : phase.reconciled = some result) : phase = .rest (some (.ok (.reconciled result))) := by
  unfold Phase.reconciled at h
  split at h
  · cases h
    rfl
  · cases h

/-- The session whose reconciliation has returned is as free as the others. -/
theorem Converging.returned {i : ι} {result : MarketplaceReconciliationResult}
    (h : Converging earlier (some i) s) (hreturned : (s.phase i).reconciled = some result) :
    Converging earlier none s where
  kept := h.kept
  events := h.events
  deliveries := h.deliveries
  others j _ := by
    by_cases hj : i = j
    · subst hj
      exact .inl ⟨_, phase_of_reconciled hreturned⟩
    · exact h.others j fun hsome => hj (Option.some.inj hsome)
  progress := by
    have hprogress : Progress earlier s.store (s.phase i) := h.progress
    rw [phase_of_reconciled hreturned] at hprogress
    exact hprogress

omit [DecidableEq ι] in
/-- After a reconciliation, and once its events have been delivered, the vendors with a listing are
the approved and complete ones. -/
theorem Converging.listed_iff {vendor_id : UUID} (h : Converging earlier none s)
    (hdelivered : AllDelivered earlier s.store) :
    s.store.service.Listed vendor_id ↔ s.store.Listable vendor_id := by
  obtain ⟨hclosing, henqueued⟩ : Reconciled earlier s.store := h.progress
  constructor
  · intro hlisted
    rcases hclosing.listed vendor_id hlisted with hlistable | ⟨id, hid, _⟩
    · exact hlistable
    · cases hid
  · intro hlistable
    obtain ⟨event, hmem, hlater, rfl⟩ := henqueued vendor_id hlistable
    exact (h.events event hmem hlater).2.2 (hdelivered event hmem hlater)

/-! ### A vendor that is approved while listings are reconciled -/

def sampleVendor : VendorProfile where
  id := 7
  user_id := 1
  business_name := "A"
  category := .decor
  description := "aaaaaaaaaaaaaaaaaaaa"
  service_area := "K"
  contact_email := "a@b"
  contact_phone := "1"
  custom_category := none
  website := none
  profile_image_url := none
  profile_image_public_id := none
  cover_image_url := none
  cover_image_public_id := none
  status := .approved
  submitted_at := some 0
  approved_at := some 0
  rejected_at := none
  rejection_reason := none
  version := 0
  created_at := 0
  updated_at := 0

/-- Statements that succeed. -/
def plainChoice : Choice where
  database := ⟨0, none, true, "ok"⟩
  reply := .answered
  event_id := 9
  pricing := ⟨none, none, none, none⟩

/-- The statements of a session, one after another. -/
def nexts (i : Bool) (count : ℕ) : List (Bool × Turn) :=
  List.replicate count (i, .next plainChoice)

/-- One approved vendor without a listing, and a listing without a vendor. -/
def staleStore : ProjectionStore where
  outbox := ⟨.empty, 0⟩
  vendors := Table.empty.upsert sampleVendor
  service := ⟨Table.empty.upsert ⟨8, []⟩, []⟩

/-- No vendor and no listing. -/
def emptyStore : ProjectionStore where
  outbox := ⟨.empty, 0⟩
  vendors := .empty
  service := ⟨.empty, []⟩

/-- The vendor is approved after the approved vendors have been read, and listed before the
listings are. -/
def approvalDuringReconciliation : List (Bool × Turn) :=
  [(true, .reconcile false)] ++ nexts true 1 ++
    [(false, .save sampleVendor), (false, .enqueue 9 sampleVendor none plainChoice.pricing),
      (false, .deliver 9)] ++ nexts false 4 ++ nexts true 3

/-- While vendors become listable only when no reconciliation deletes their listing any more, a
reconciliation deletes stale listings only. With the settings of the service and without other
changes, the listings are those of the approved and complete vendors once the events of a
reconciliation have been delivered. -/
theorem reconciliation_exact (config : Config) (store : ProjectionStore)
    (h : store.service.inFlight = []) (turns : List (ι × Turn)) :
    (Sessions.Always (statement config) Awaits (start store) turns →
      Sessions.Always (statement config) (RemovesStale config) (start store) turns) ∧
    ∀ (s returned settled : Sessions ι ProjectionStore Phase) (i : ι)
      (during after : List (ι × Turn)) (result : MarketplaceReconciliationResult),
      AtRest s → (∀ turn ∈ during ++ after, Confined s.store.outbox.events turn) →
      returned = s.run (statement .configured) ((i, .reconcile false) :: during) →
      (returned.phase i).reconciled = some result →
      settled = returned.run (statement .configured) after →
      AllDelivered s.store.outbox.events settled.store →
      ∀ vendor_id, settled.store.service.Listed vendor_id ↔ settled.store.Listable vendor_id := by
  constructor
  · intro hturns
    exact Sessions.always_of_keeps (I := AllSpared)
      (fun s turn hspared hawaits => ⟨hspared.step hawaits, hspared.removesStale⟩)
      (allSpared_start h) hturns
  · rintro s returned settled i during after result hrest hconfined rfl hphase rfl hdelivered
      vendor_id
    have hreturned := (hrest.reconcile i).run during fun turn hmem =>
      hconfined turn (List.mem_append_left _ hmem)
    have hsettled := (hreturned.returned hphase).run after fun turn hmem =>
      hconfined turn (List.mem_append_right _ hmem)
    exact hsettled.listed_iff hdelivered

/-- A reconciliation deletes the stale listing, and the delivery of its event adds the missing
one. -/
theorem reconciliation_exact_sample :
    Sessions.Always (statement .configured) (RemovesStale .configured) (start staleStore)
        ((true, .reconcile false) :: nexts true 6) ∧
      ∀ vendor_id,
        (((start staleStore).run (statement .configured)
          ((true, .reconcile false) :: nexts true 6)).run (statement .configured)
            ((false, .deliver 9) :: nexts false 4)).store.service.Listed vendor_id ↔
        (((start staleStore).run (statement .configured)
          ((true, .reconcile false) :: nexts true 6)).run (statement .configured)
            ((false, .deliver 9) :: nexts false 4)).store.Listable vendor_id :=
  ⟨(reconciliation_exact .configured staleStore rfl ((true, .reconcile false) :: nexts true 6)).1
      (by decide +kernel),
    (reconciliation_exact .configured staleStore rfl ([] : List (Bool × Turn))).2
      (start staleStore) _ _ true (nexts true 6) ((false, .deliver 9) :: nexts false 4)
      ⟨1, 1, 1, 1, 1, false, [uuidText 8], [uuidText 7]⟩ (fun _ => ⟨none, rfl⟩) (by decide +kernel)
      rfl (by decide +kernel) rfl (by decide +kernel)⟩

/-- The reconciliation deletes the listing of the vendor, which is approved and complete. -/
theorem fresh_listing_removed :
    ¬ Sessions.Always (statement .configured) (RemovesStale .configured) (start emptyStore)
      approvalDuringReconciliation := by
  intro h
  have hturns : approvalDuringReconciliation =
      approvalDuringReconciliation.take 11 ++ nexts true 1 := rfl
  rw [hturns, Sessions.always_append_iff] at h
  exact h.2.1 (by decide +kernel) 7 (by decide +kernel) (by decide +kernel) (by decide +kernel)

end Runs

end Linkapro.Projection
