import Linkapro.Marketplace.Convergence

/-!
# Marketplace: the order of deliveries

An event of the projection carries what its vendor was when the event was enqueued, and every
event is retried on its own. The listing of a vendor is the one that its newest event describes,
as long as no other request for the vendor reaches the service once that event has been answered.
-/

namespace Linkapro.Projection

open Lib Outboxes.Marketplace Vendors

section Descriptions

/-- The newest event of a vendor. -/
def newest (events : Table Event.id) (vendor_id : UUID) : Option Event :=
  (events.rows.filter fun event => event.vendor_id = vendor_id).getLast?

/-- The listing of a vendor is the one that an event describes. -/
def Described (listings : Table Listing.vendor_id) (event : Event) : Prop :=
  match event.event_type with
  | .upsertVendor => ∃ payload, syncPayload event.payload = some payload ∧
      listings.lookup event.vendor_id = some { vendor_id := event.vendor_id, columns := payload }
  | .deleteVendor => listings.lookup event.vendor_id = none

/-- Once the events of a vendor have been delivered, its listing is the one that the newest of
them describes. -/
def FollowsNewest (store : ProjectionStore) : Prop :=
  ∀ vendor_id event, newest store.outbox.events vendor_id = some event →
    (∀ other ∈ store.outbox.events.rows, other.vendor_id = vendor_id →
      other.status = .delivered) →
    Described store.service.listings event

/-- The vendor that a request names. -/
def Request.vendor_id : Request → Option UUID
  | .upsert payload => ((payload.lookup "vendor_id").map JsonValue.render).bind uuidOf
  | .delete vendor_id => uuidOf vendor_id

deriving instance DecidableEq for Request

/-- Two events ask for the same listing. -/
structure SameRequest (event other : Event) : Prop where
  vendor_id : event.vendor_id = other.vendor_id
  event_type : event.event_type = other.event_type
  payload : syncPayload event.payload = syncPayload other.payload

variable {listings : Table Listing.vendor_id} {event other : Event} {vendor_id : UUID}

theorem SameRequest.requestOf_eq (h : SameRequest event other) :
    requestOf event = requestOf other := by
  unfold requestOf
  rw [h.event_type, h.vendor_id, h.payload]

theorem SameRequest.described_iff (h : SameRequest event other) :
    Described listings event ↔ Described listings other := by
  unfold Described
  rw [h.event_type, h.vendor_id, h.payload]

theorem SameRequest.upserts (h : SameRequest event other) (hother : Upserts other) :
    Upserts event := by
  unfold Upserts
  rw [h.requestOf_eq, h.vendor_id]
  exact hother

/-- What a deletion makes of the listings. -/
theorem listings_perform_delete (service : Service) (id : String) :
    (service.perform (.delete id)).listings = ((uuidOf id).map fun id =>
      service.listings.filter fun listing => listing.vendor_id ≠ id).getD service.listings := rfl

/-- A request leaves the listings of other vendors. -/
theorem lookup_perform_of_ne {request : Request} (h : request.vendor_id ≠ some vendor_id)
    (service : Service) :
    (service.perform request).listings.lookup vendor_id = service.listings.lookup vendor_id := by
  cases request with
  | delete id =>
    rw [listings_perform_delete]
    cases hid : uuidOf id with
    | none => rfl
    | some deleted =>
      have hne : vendor_id ≠ deleted := fun heq => h (heq ▸ hid)
      exact Table.lookup_filter_of_forall fun listing hlisting =>
        decide_eq_true (hlisting ▸ hne)
  | upsert payload =>
    have hlistings : (service.perform (.upsert payload)).listings =
        (upsertListing payload service.listings).getD service.listings := rfl
    rw [hlistings]
    unfold upsertListing
    cases hid : ((payload.lookup "vendor_id").map JsonValue.render).bind uuidOf with
    | none => rfl
    | some upserted =>
      have hne : vendor_id ≠ upserted := fun heq => h (heq ▸ hid)
      simp only [Option.bind_eq_bind, Option.bind_some, Option.getD_some]
      split
      · exact Table.lookup_upsert_of_ne hne.symm
      · exact Table.lookup_filter_of_forall fun listing hlisting =>
          decide_eq_true (hlisting ▸ hne)

/-- The request of an event leaves the listing that the event describes. -/
theorem described_perform {request : Request}
    (hupserts : event.event_type = .upsertVendor → Upserts event)
    (hrequest : requestOf event = .ok request) (service : Service) :
    Described (service.perform request).listings event := by
  unfold requestOf at hrequest
  unfold Described
  cases htype : event.event_type with
  | upsertVendor =>
    obtain ⟨_, payload, hpayload, hlists⟩ := upserts_iff.mp (hupserts htype)
    rw [htype] at hrequest
    simp only [hpayload] at hrequest
    cases hrequest
    refine ⟨payload, hpayload, ?_⟩
    have hlistings : (service.perform (.upsert payload)).listings =
        service.listings.upsert { vendor_id := event.vendor_id, columns := payload } :=
      congrArg (Option.getD · service.listings) (hlists service.listings)
    rw [hlistings]
    exact Table.lookup_upsert_self
  | deleteVendor =>
    rw [htype] at hrequest
    cases hrequest
    dsimp only
    rw [listings_perform_delete, uuidOf_uuidText, Option.map_some, Option.getD_some]
    exact Table.lookup_filter_ne

end Descriptions

section Newest

variable {events : Table Event.id} {event row saved : Event} {vendor_id : UUID}

theorem mem_of_newest (h : newest events vendor_id = some event) :
    event ∈ events.rows ∧ event.vendor_id = vendor_id := by
  obtain ⟨hmem, hvendor⟩ := List.mem_filter.mp (List.mem_of_getLast? h)
  exact ⟨hmem, of_decide_eq_true hvendor⟩

/-- A stored row is replaced where it stands. -/
theorem newest_upsert_of_lookup (hrow : events.lookup saved.id = some row)
    (hvendor : saved.vendor_id = row.vendor_id) :
    newest (events.upsert saved) vendor_id =
      (newest events vendor_id).map fun event => if event.id = saved.id then saved else event := by
  unfold newest
  rw [Table.rows_upsert_of_lookup hrow, List.filter_map, List.getLast?_map]
  congr 2
  refine List.filter_congr fun event hmem => ?_
  rw [Function.comp_apply]
  by_cases hid : event.id = saved.id
  · have heq : event = row :=
      Option.some.inj ((Table.lookup_of_mem hmem).symm.trans (hid ▸ hrow))
    rw [if_pos hid, hvendor, heq]
  · rw [if_neg hid]

/-- A new row is the newest one of its vendor. -/
theorem newest_upsert_of_fresh (hfresh : events.lookup event.id = none) :
    newest (events.upsert event) vendor_id =
      if event.vendor_id = vendor_id then some event else newest events vendor_id := by
  unfold newest
  rw [Table.rows_upsert_of_fresh hfresh, List.filter_append]
  by_cases hvendor : event.vendor_id = vendor_id
  · rw [if_pos hvendor, List.filter_cons_of_pos (by simpa using hvendor), List.filter_nil,
      List.getLast?_concat]
  · rw [if_neg hvendor, List.filter_cons_of_neg (by simpa using hvendor), List.filter_nil,
      List.append_nil]

end Newest

section Orders

variable {ι : Type}

/-- The event that a session holds in memory. -/
def Phase.held : Phase → Option Event
  | .delivering (.claiming event) | .delivering (.delivering event)
  | .delivering (.storing event _) | .delivering (.marking event _) => some event
  | _ => none

/-- The event of a session whose request has been answered and which is about to be stored as
delivered. -/
def Phase.answered : Phase → Option UUID
  | .delivering (.storing event _) => some event.id
  | _ => none

/-- The request that may reach the service on a turn. -/
def requested (s : Sessions ι ProjectionStore Phase) (turn : ι × Turn) : Option Request :=
  match turn.2 with
  | .next _ =>
    match s.phase turn.1 with
    | .delivering (.delivering event) => (requestOf event).toOption
    | .deleting _ (vendor_id :: _) => some (.delete vendor_id)
    | _ => none
  | .land index => s.store.service.inFlight[index]?.map Sent.request
  | _ => none

/-- An event is stored as delivered, or about to be. -/
def Settled (s : Sessions ι ProjectionStore Phase) (event : Event) : Prop :=
  event.status = .delivered ∨ ∃ i, (s.phase i).answered = some event.id

instance [Fintype ι] (s : Sessions ι ProjectionStore Phase) (event : Event) :
    Decidable (Settled s event) :=
  inferInstanceAs (Decidable (_ ∨ _))

/-- Once the newest event of a vendor has been answered, no other request for the vendor reaches
the service. -/
def InOrder (s : Sessions ι ProjectionStore Phase) (turn : ι × Turn) : Prop :=
  ∀ request ∈ requested s turn,
    ∀ event ∈ request.vendor_id.bind (newest s.store.outbox.events), Settled s event →
      (requestOf event).toOption = some request

instance [Fintype ι] (s : Sessions ι ProjectionStore Phase) (turn : ι × Turn) :
    Decidable (InOrder s turn) :=
  inferInstanceAs (Decidable (∀ _ ∈ _, ∀ _ ∈ _, _ → _))

/-- A stored row asks for what an event in memory asks for. -/
def Backed (events : Table Event.id) (event : Event) : Prop :=
  ∃ row, events.lookup event.id = some row ∧ SameRequest row event

/-- What a session holds in memory fits the stored rows. -/
structure Phase.Backed (events : Table Event.id) (phase : Phase) : Prop where
  held : ∀ event, phase.held = some event → Projection.Backed events event
  claiming : ∀ event, phase = .delivering (.claiming event) → event.status ≠ .delivered

/-- What deliveries in order keep. -/
structure OrderKept (s : Sessions ι ProjectionStore Phase) : Prop where
  upserts : ∀ row ∈ s.store.outbox.events.rows, row.event_type = .upsertVendor → Upserts row
  backed : ∀ i, (s.phase i).Backed s.store.outbox.events
  described : ∀ vendor_id event, newest s.store.outbox.events vendor_id = some event →
    Settled s event → Described s.store.service.listings event

theorem held_of_answered {phase : Phase} {id : UUID} (h : phase.answered = some id) :
    ∃ event, phase.held = some event ∧ event.id = id := by
  unfold Phase.answered at h
  split at h
  · next event result =>
    cases h
    exact ⟨event, rfl, rfl⟩
  · cases h

theorem answered_of_held {phase : Phase} (h : phase.held = none) : phase.answered = none := by
  refine Option.eq_none_iff_forall_ne_some.mpr fun id hid => ?_
  obtain ⟨event, hevent, _⟩ := held_of_answered hid
  rw [h] at hevent
  cases hevent

/-- A session that holds no event. -/
theorem Phase.Backed.of_quiet {events : Table Event.id} {phase : Phase} (h : phase.held = none) :
    phase.Backed events where
  held event hevent := by
    rw [h] at hevent
    cases hevent
  claiming event hphase := by
    rw [hphase] at h
    cases h

/-- A session that has claimed the event it holds. -/
theorem Phase.Backed.of_held {events : Table Event.id} {phase : Phase} {event : Event}
    (h : phase.held = some event) (hevent : Projection.Backed events event)
    (hphase : ∀ event, phase ≠ .delivering (.claiming event)) : phase.Backed events where
  held _ hother := Option.some.inj (h.symm.trans hother) ▸ hevent
  claiming _ hclaiming := absurd hclaiming (hphase _)

/-- The requests of a sender that has not been answered may have been performed. -/
theorem listings_send (service : Service) (config : Config) (reply : Reply) (sent : Sent) :
    (service.send config reply sent).2.listings = service.listings ∨
      (service.send config reply sent).2.listings = (service.perform sent.request).listings := by
  rcases send_cases service config reply sent with heq | heq | heq
  · exact .inl (by rw [heq])
  · exact .inr (by rw [heq])
  · exact .inl (by rw [heq])

/-- A request that is answered has been performed, unless nothing is sent at all. -/
theorem performed_of_ok {service : Service} {config : Config} {reply : Reply} {sent : Sent}
    (hconfig : config ≠ .skipped) (h : (service.send config reply sent).1 = .ok ()) :
    (service.send config reply sent).2 = service.perform sent.request := by
  cases config with
  | configured => exact send_ok h
  | skipped => exact absurd rfl hconfig
  | improper => cases reply <;> cases h

/-- What a save under a choice leaves. -/
theorem saving_cases (outbox : Store) (choice : Outboxes.Marketplace.Choice)
    (saved : Except String Store) (after : Outboxes.Marketplace.Phase) :
    (∃ error, saving outbox choice saved after = (outbox, .rest (some (.error error)))) ∨
      ∃ stored, saved = .ok stored ∧
        ((∃ error, saving outbox choice saved after = (stored, .rest (some (.error error)))) ∨
          saving outbox choice saved after = (stored, after)) := by
  unfold saving
  split
  · exact .inl ⟨_, rfl⟩
  · next stored error _ =>
    by_cases happlied : choice.applied = true
    · exact .inr ⟨stored, rfl, .inl ⟨error, by rw [if_pos happlied]⟩⟩
    · exact .inl ⟨error, by rw [if_neg happlied]⟩
  · next stored _ => exact .inr ⟨stored, rfl, .inr rfl⟩

/-- A delivery goes on with a stored event, which it claims. -/
theorem load_cases (outbox : Store) (event_id : UUID) :
    (ofDelivery (Outboxes.Marketplace.load outbox event_id)).held = none ∨
      ∃ event, outbox.events.lookup event_id = some event ∧
        Outboxes.Marketplace.load outbox event_id = .claiming event.claimed := by
  unfold Outboxes.Marketplace.load
  cases hevent : outbox.events.lookup event_id with
  | none => exact .inl rfl
  | some event =>
    cases hstatus : event.status with
    | delivered | failed =>
      left
      simp only [hstatus]
      rfl
    | pending | processing =>
      right
      exact ⟨event, rfl, by simp only [hstatus]⟩

/-- The event of a vendor joins the outbox under an unused id. -/
theorem enqueue_cases {outbox outbox' : Store} {id : UUID} {vendor : VendorProfile}
    {reason : Option String} {pricing : PackagePricing}
    (h : enqueue_vendor_projection outbox id vendor reason pricing = some outbox') :
    ∃ event : Event, outbox.events.lookup event.id = none ∧ event.status = .pending ∧
      (event.event_type = .upsertVendor → Upserts event) ∧
        outbox' = { outbox with events := outbox.events.upsert event } := by
  unfold enqueue_vendor_projection at h
  dsimp only at h
  split at h
  · cases h
  · next hfresh =>
    cases h
    refine ⟨_, Option.not_isSome_iff_eq_none.mp hfresh, rfl, fun htype => ?_, rfl⟩
    by_cases hlistable : _is_vendor_listable vendor = true
    · exact upserts_of_listable hlistable reason pricing id outbox.clock
    · have hdelete : (_projection_event_for_vendor vendor reason pricing).1 = .deleteVendor := by
        rw [_projection_event_for_vendor, if_neg hlistable]
      cases hdelete.symm.trans htype

/-- The event of a deletion joins the outbox under an unused id. -/
theorem enqueue_delete_cases {outbox outbox' : Store} {id vendor_id : UUID}
    {reason : Option String}
    (h : enqueue_vendor_delete_projection outbox id vendor_id reason = some outbox') :
    ∃ event : Event, outbox.events.lookup event.id = none ∧ event.status = .pending ∧
      (event.event_type = .upsertVendor → Upserts event) ∧
        outbox' = { outbox with events := outbox.events.upsert event } := by
  unfold enqueue_vendor_delete_projection at h
  dsimp only at h
  split at h
  · cases h
  · next hfresh =>
    cases h
    exact ⟨_, Option.not_isSome_iff_eq_none.mp hfresh, rfl, (fun htype => by cases htype), rfl⟩

end Orders

section Steps

variable {ι : Type} [DecidableEq ι] {s : Sessions ι ProjectionStore Phase} {i : ι} {turn : Turn}
  {config : Config} {store' : ProjectionStore} {phase' : Phase} {event : Event}

/-- An event that is settled after a turn is stored as delivered, or a session that had been
answered before the turn or is answered on it holds the event. -/
theorem settled_of_step (hresult : statement config s i turn = (store', phase'))
    (h : Settled (s.step (statement config) (i, turn)) event) :
    event.status = .delivered ∨ (∃ j, (s.phase j).answered = some event.id ∧ j ≠ i) ∨
      phase'.answered = some event.id := by
  rcases h with hstatus | ⟨j, hj⟩
  · exact .inl hstatus
  · by_cases hji : j = i
    · subst hji
      rw [Sessions.step_phase_self, hresult] at hj
      exact .inr (.inr hj)
    · rw [Sessions.step_phase_of_ne hji] at hj
      exact .inr (.inl ⟨j, hj, hji⟩)

/-- The parts of a turn. -/
theorem OrderKept.of_parts (h : OrderKept s)
    (hresult : statement config s i turn = (store', phase'))
    (hupserts : ∀ row ∈ store'.outbox.events.rows, row.event_type = .upsertVendor → Upserts row)
    (hkept : ∀ event, Backed s.store.outbox.events event → Backed store'.outbox.events event)
    (hbacked : phase'.Backed s.store.outbox.events)
    (hdescribed : ∀ vendor_id event, newest store'.outbox.events vendor_id = some event →
      Settled (s.step (statement config) (i, turn)) event →
        Described store'.service.listings event) :
    OrderKept (s.step (statement config) (i, turn)) := by
  have hstore : (s.step (statement config) (i, turn)).store = store' := congrArg Prod.fst hresult
  refine ⟨by rwa [hstore], fun j => ?_, by rwa [hstore]⟩
  rw [hstore]
  by_cases hj : j = i
  · subst hj
    rw [Sessions.step_phase_self, hresult]
    exact ⟨fun event hevent => hkept event (hbacked.held event hevent), hbacked.claiming⟩
  · rw [Sessions.step_phase_of_ne hj]
    exact ⟨fun event hevent => hkept event ((h.backed j).held event hevent),
      (h.backed j).claiming⟩

/-- A turn that leaves the events and the listings. -/
theorem OrderKept.of_same (h : OrderKept s)
    (hresult : statement config s i turn = (store', phase'))
    (hevents : store'.outbox.events = s.store.outbox.events)
    (hlistings : store'.service.listings = s.store.service.listings)
    (hbacked : phase'.Backed s.store.outbox.events)
    (hanswered : ∀ id, phase'.answered = some id → (s.phase i).answered = some id) :
    OrderKept (s.step (statement config) (i, turn)) := by
  refine h.of_parts hresult ?_ ?_ hbacked ?_
  · rw [hevents]
    exact h.upserts
  · rw [hevents]
    exact fun _ hbacked => hbacked
  · rw [hevents, hlistings]
    intro vendor_id event hnewest hsettled
    refine h.described vendor_id event hnewest ?_
    rcases settled_of_step hresult hsettled with hstatus | ⟨j, hj, _⟩ | hself
    · exact .inl hstatus
    · exact .inr ⟨j, hj⟩
    · exact .inr ⟨i, hanswered _ hself⟩

/-- A turn that leaves the events and the listings and no event in memory. -/
theorem OrderKept.of_quiet (h : OrderKept s)
    (hresult : statement config s i turn = (store', phase'))
    (hevents : store'.outbox.events = s.store.outbox.events)
    (hlistings : store'.service.listings = s.store.service.listings)
    (hquiet : phase'.held = none) : OrderKept (s.step (statement config) (i, turn)) := by
  refine h.of_same hresult hevents hlistings (.of_quiet hquiet) fun id hid => ?_
  rw [answered_of_held hquiet] at hid
  cases hid

/-- A turn that leaves the events, the listings and its session. -/
theorem OrderKept.of_idle (h : OrderKept s)
    (hresult : statement config s i turn = (store', s.phase i))
    (hevents : store'.outbox.events = s.store.outbox.events)
    (hlistings : store'.service.listings = s.store.service.listings) :
    OrderKept (s.step (statement config) (i, turn)) :=
  h.of_same hresult hevents hlistings (h.backed i) fun _ hid => hid

/-- A turn that saves a stored row. -/
theorem OrderKept.of_update (h : OrderKept s)
    (hresult : statement config s i turn = (store', phase')) {row saved : Event}
    (hrow : s.store.outbox.events.lookup saved.id = some row) (hsame : SameRequest saved row)
    (hdelivered : saved.status = .delivered → (s.phase i).answered = some saved.id)
    (hevents : store'.outbox.events = s.store.outbox.events.upsert saved)
    (hlistings : store'.service.listings = s.store.service.listings)
    (hbacked : phase'.Backed s.store.outbox.events)
    (hanswered : phase'.answered = none) : OrderKept (s.step (statement config) (i, turn)) := by
  refine h.of_parts hresult ?_ ?_ hbacked ?_
  · rw [hevents]
    intro other hmem htype
    rcases Table.mem_upsert_iff.mp hmem with rfl | ⟨hold, _⟩
    · exact hsame.upserts (h.upserts row (Table.mem_of_lookup hrow) (hsame.event_type ▸ htype))
    · exact h.upserts other hold htype
  · rw [hevents]
    rintro event ⟨old, hold, hrequest⟩
    by_cases hid : saved.id = event.id
    · have heq : row = old := Option.some.inj (hrow.symm.trans (hid ▸ hold))
      subst heq
      refine ⟨saved, hid ▸ Table.lookup_upsert_self, ?_⟩
      exact ⟨hsame.vendor_id.trans hrequest.vendor_id, hsame.event_type.trans hrequest.event_type,
        hsame.payload.trans hrequest.payload⟩
    · exact ⟨old, (Table.lookup_upsert_of_ne hid).trans hold, hrequest⟩
  · rw [hevents, hlistings]
    intro vendor_id event hnewest hsettled
    rw [newest_upsert_of_lookup hrow hsame.vendor_id] at hnewest
    obtain ⟨old, hold, rfl⟩ := Option.map_eq_some_iff.mp hnewest
    have hcases := settled_of_step hresult hsettled
    rw [hanswered] at hcases
    by_cases hid : old.id = saved.id
    · have heq : old = row :=
        Option.some.inj ((Table.lookup_of_mem (mem_of_newest hold).1).symm.trans (hid ▸ hrow))
      subst heq
      rw [if_pos hid] at hcases ⊢
      refine hsame.described_iff.mpr (h.described vendor_id old hold ?_)
      rcases hcases with hstatus | ⟨j, hj, _⟩ | hself
      · exact .inr ⟨i, hid ▸ hdelivered hstatus⟩
      · exact .inr ⟨j, hid ▸ hj⟩
      · cases hself
    · rw [if_neg hid] at hcases ⊢
      refine h.described vendor_id old hold ?_
      rcases hcases with hstatus | ⟨j, hj, _⟩ | hself
      · exact .inl hstatus
      · exact .inr ⟨j, hj⟩
      · cases hself

/-- A turn that inserts an event. -/
theorem OrderKept.of_insert (h : OrderKept s)
    (hresult : statement config s i turn = (store', phase'))
    (hfresh : s.store.outbox.events.lookup event.id = none) (hstatus : event.status = .pending)
    (hupserts : event.event_type = .upsertVendor → Upserts event)
    (hevents : store'.outbox.events = s.store.outbox.events.upsert event)
    (hlistings : store'.service.listings = s.store.service.listings)
    (hbacked : phase'.Backed s.store.outbox.events)
    (hanswered : ∀ id, phase'.answered = some id → (s.phase i).answered = some id) :
    OrderKept (s.step (statement config) (i, turn)) := by
  have hne (other : Event) (hbacked : Backed s.store.outbox.events other) :
      event.id ≠ other.id := by
    intro heq
    obtain ⟨row, hrow, _⟩ := hbacked
    rw [← heq, hfresh] at hrow
    cases hrow
  have hsettled {other : Event} (hsettled : Settled (s.step (statement config) (i, turn)) other) :
      Settled s other := by
    rcases settled_of_step hresult hsettled with hdelivered | ⟨j, hj, _⟩ | hself
    · exact .inl hdelivered
    · exact .inr ⟨j, hj⟩
    · exact .inr ⟨i, hanswered _ hself⟩
  refine h.of_parts hresult ?_ ?_ hbacked ?_
  · rw [hevents]
    intro other hmem htype
    rcases Table.mem_upsert_iff.mp hmem with rfl | ⟨hold, _⟩
    · exact hupserts htype
    · exact h.upserts other hold htype
  · rw [hevents]
    intro other hbacked
    obtain ⟨row, hrow, hsame⟩ := hbacked
    exact ⟨row, (Table.lookup_upsert_of_ne (hne other ⟨row, hrow, hsame⟩)).trans hrow, hsame⟩
  · rw [hevents, hlistings]
    intro vendor_id other hnewest hafter
    rw [newest_upsert_of_fresh hfresh] at hnewest
    split at hnewest
    · cases hnewest
      rcases hsettled hafter with hdelivered | ⟨j, hj⟩
      · cases hstatus.symm.trans hdelivered
      · obtain ⟨held, hheldEvent, hid⟩ := held_of_answered hj
        exact absurd hid.symm (hne held ((h.backed j).held held hheldEvent))
    · exact h.described vendor_id other hnewest (hsettled hafter)

/-- A turn on which a request is performed. -/
theorem OrderKept.of_request (h : OrderKept s) (horder : InOrder s (i, turn))
    (hresult : statement config s i turn = (store', phase')) {request : Request}
    (hrequest : requested s (i, turn) = some request)
    (hevents : store'.outbox.events = s.store.outbox.events)
    (hlistings : store'.service.listings = (s.store.service.perform request).listings)
    (hbacked : phase'.Backed s.store.outbox.events)
    (hanswered : ∀ id, phase'.answered = some id → (s.phase i).answered = some id ∨
      ∃ event, event.id = id ∧ Backed s.store.outbox.events event ∧
        requestOf event = .ok request) :
    OrderKept (s.step (statement config) (i, turn)) := by
  refine h.of_parts hresult ?_ ?_ hbacked ?_
  · rw [hevents]
    exact h.upserts
  · rw [hevents]
    exact fun _ hbacked => hbacked
  · rw [hevents, hlistings]
    intro vendor_id event hnewest hsettled
    obtain ⟨hmem, hvendor⟩ := mem_of_newest hnewest
    have hself (hsame : requestOf event = .ok request) :
        Described (s.store.service.perform request).listings event :=
      described_perform (h.upserts event hmem) hsame s.store.service
    have hbefore (hbefore : Settled s event) :
        Described (s.store.service.perform request).listings event := by
      by_cases hnames : request.vendor_id = some vendor_id
      · have hsame := horder request hrequest event
          (Option.bind_eq_some_iff.mpr ⟨vendor_id, hnames, hnewest⟩) hbefore
        cases hof : requestOf event with
        | error error =>
          rw [hof] at hsame
          cases hsame
        | ok sent =>
          rw [hof] at hsame
          cases hsame
          exact hself hof
      · have hold := h.described vendor_id event hnewest hbefore
        unfold Described at hold ⊢
        rw [hvendor] at hold ⊢
        rwa [lookup_perform_of_ne hnames]
    rcases settled_of_step hresult hsettled with hstatus | ⟨j, hj, _⟩ | hphase
    · exact hbefore (.inl hstatus)
    · exact hbefore (.inr ⟨j, hj⟩)
    · rcases hanswered _ hphase with hold | ⟨held, hid, ⟨row, hrow, hsame⟩, hsent⟩
      · exact hbefore (.inr ⟨i, hold⟩)
      · have heq : row = event :=
          Option.some.inj (hrow.symm.trans (hid ▸ Table.lookup_of_mem hmem))
        exact hself (heq ▸ hsame.requestOf_eq.trans hsent)

/-- A turn of a sender that has not been answered. -/
theorem OrderKept.of_unanswered (h : OrderKept s) (horder : InOrder s (i, turn))
    (hresult : statement config s i turn = (store', phase')) {sent : Sent} {reply : Reply}
    (hrequest : requested s (i, turn) = some sent.request)
    (hevents : store'.outbox.events = s.store.outbox.events)
    (hservice : store'.service = (s.store.service.send config reply sent).2)
    (hbacked : phase'.Backed s.store.outbox.events)
    (hanswered : phase'.answered = none) : OrderKept (s.step (statement config) (i, turn)) := by
  have hnone (id : UUID) (hid : phase'.answered = some id) : False := by
    rw [hanswered] at hid
    cases hid
  rcases listings_send s.store.service config reply sent with heq | heq
  · exact h.of_same hresult hevents (hservice ▸ heq) hbacked fun id hid => (hnone id hid).elim
  · exact h.of_request horder hresult hrequest hevents (hservice ▸ heq) hbacked
      fun id hid => (hnone id hid).elim

/-- A turn that saves the row of the event in memory. -/
theorem OrderKept.of_saving (h : OrderKept s) {outbox : Store}
    {choice : Outboxes.Marketplace.Choice} {update : Event → Event}
    {after : Outboxes.Marketplace.Phase} (hphase : (s.phase i).held = some event)
    (houtbox : outbox.events = s.store.outbox.events)
    (hresult : statement config s i turn =
      ({ s.store with outbox := (saving outbox choice (save outbox event.id update) after).1 },
        ofDelivery (saving outbox choice (save outbox event.id update) after).2))
    (hid : ∀ row, (update row).id = row.id)
    (hsame : ∀ row, SameRequest row event → SameRequest (update row) row)
    (hdelivered : ∀ row, (update row).status = .delivered → (s.phase i).answered = some event.id)
    (hafter : (ofDelivery after).held = none ∨ after = .delivering event) :
    OrderKept (s.step (statement config) (i, turn)) := by
  obtain ⟨row, hrow, hrequest⟩ := (h.backed i).held event hphase
  rcases saving_cases outbox choice (save outbox event.id update) after with
    ⟨error, heq⟩ | ⟨stored, hsave, hstored⟩
  · rw [heq] at hresult
    exact h.of_quiet hresult houtbox rfl rfl
  · obtain ⟨row', hrow', rfl⟩ := save_ok hsave
    have hrows : row' = row := Option.some.inj (hrow'.symm.trans (houtbox ▸ hrow))
    subst hrows
    have hkey : (update row').id = event.id := (hid row').trans (Table.key_of_lookup hrow)
    have hlookup : s.store.outbox.events.lookup (update row').id = some row' := hkey ▸ hrow
    have hstatus (hstatus : (update row').status = .delivered) :
        (s.phase i).answered = some (update row').id := hkey ▸ hdelivered row' hstatus
    have hevents : outbox.events.upsert (update row') =
        s.store.outbox.events.upsert (update row') := by rw [houtbox]
    rcases hstored with ⟨error, heq⟩ | heq
    · rw [heq] at hresult
      exact h.of_update hresult hlookup (hsame row' hrequest) hstatus hevents rfl (.of_quiet rfl)
        rfl
    · rw [heq] at hresult
      rcases hafter with hnone | rfl
      · exact h.of_update hresult hlookup (hsame row' hrequest) hstatus hevents rfl
          (.of_quiet hnone) (answered_of_held hnone)
      · exact h.of_update hresult hlookup (hsame row' hrequest) hstatus hevents rfl
          (.of_held rfl ⟨row', hrow, hrequest⟩ fun _ hclaiming => by cases hclaiming) rfl

/-- The next statement of a delivery. -/
theorem OrderKept.delivery (h : OrderKept s) (hconfig : config ≠ .skipped) {choice : Choice}
    (horder : InOrder s (i, .next choice)) {delivery : Outboxes.Marketplace.Phase}
    (hphase : s.phase i = .delivering delivery) :
    OrderKept (s.step (statement config) (i, .next choice)) := by
  have hheld := (h.backed i).held
  have hclaiming := (h.backed i).claiming
  let outbox : Store :=
    { s.store.outbox with clock := s.store.outbox.clock + choice.database.elapsed }
  have houtbox : outbox.events = s.store.outbox.events := rfl
  let store : ProjectionStore := { s.store with outbox }
  have hresult : statement config s i (.next choice) =
      nextDelivery config store choice delivery := by
    rw [statement, hphase]
    rfl
  cases delivery with
  | rest result => exact h.of_quiet hresult rfl rfl rfl
  | loading event_id =>
    cases hfault : choice.database.fault with
    | some error =>
      have heq : nextDelivery config store choice (.loading event_id) =
          (store, .rest (some (.error error))) := by
        simp only [nextDelivery, Outboxes.Marketplace.next, hfault]
        rfl
      exact h.of_quiet (hresult.trans heq) rfl rfl rfl
    | none =>
      have heq : nextDelivery config store choice (.loading event_id) =
          (store, ofDelivery (Outboxes.Marketplace.load store.outbox event_id)) := by
        simp only [nextDelivery, Outboxes.Marketplace.next, hfault]
      rcases load_cases store.outbox event_id with hnone | ⟨event, hevent, hload⟩
      · exact h.of_quiet (hresult.trans heq) rfl rfl hnone
      · rw [hload] at heq
        have hid : event.id = event_id := Table.key_of_lookup hevent
        refine h.of_same (hresult.trans heq) rfl rfl ⟨fun held hheld => ?_, fun held hheld => ?_⟩
          fun _ hanswered => by cases hanswered
        · cases hheld
          exact ⟨event, hid ▸ hevent, rfl, rfl, rfl⟩
        · cases hheld
          exact fun hstatus => by cases hstatus
  | claiming event =>
    have hstatus := hclaiming event hphase
    have heq : nextDelivery config store choice (.claiming event) =
        ({ store with outbox := (saving outbox choice.database (saveClaimed outbox event)
            (.delivering event)).1 },
          ofDelivery (saving outbox choice.database (saveClaimed outbox event)
            (.delivering event)).2) := rfl
    unfold saveClaimed at heq
    exact h.of_saving (by rw [hphase]; rfl) houtbox (hresult.trans heq) (fun _ => rfl)
      (fun _ _ => ⟨rfl, rfl, rfl⟩) (fun _ hdelivered => absurd hdelivered hstatus) (.inr rfl)
  | delivering event =>
    have hevent : Backed s.store.outbox.events event := hheld event (by rw [hphase]; rfl)
    cases hrequest : requestOf event with
    | error error =>
      have heq : nextDelivery config store choice (.delivering event) =
          (store, .delivering (.marking event error)) := by
        simp only [nextDelivery, hrequest]
      exact h.of_same (hresult.trans heq) rfl rfl
        (.of_held rfl hevent fun _ hphase => by cases hphase) fun _ hanswered => by cases hanswered
    | ok request =>
      have hrequested : requested s (i, .next choice) = some (Sent.delivery request).request := by
        simp only [requested, hphase, hrequest]
        rfl
      cases hanswer : (store.service.send config choice.reply (.delivery request)).1 with
      | error error =>
        have heq : nextDelivery config store choice (.delivering event) =
            ({ store with
              service := (store.service.send config choice.reply (.delivery request)).2 },
              .delivering (.marking event error)) := by
          simp only [nextDelivery, hrequest, hanswer]
        exact h.of_unanswered horder (hresult.trans heq) hrequested rfl rfl
          (.of_held rfl hevent fun _ hphase => by cases hphase) rfl
      | ok _ =>
        have heq : nextDelivery config store choice (.delivering event) =
            ({ store with
              service := (store.service.send config choice.reply (.delivery request)).2 },
              .delivering (.storing event choice.database.result)) := by
          simp only [nextDelivery, hrequest, hanswer]
        refine h.of_request horder (hresult.trans heq) hrequested rfl
          (congrArg Service.listings (performed_of_ok hconfig hanswer))
          (.of_held rfl hevent fun _ hphase => by cases hphase) fun id hid => .inr ?_
        exact ⟨event, Option.some.inj hid, hevent, hrequest⟩
  | storing event result =>
    have heq : nextDelivery config store choice (.storing event result) =
        ({ store with outbox := (saving outbox choice.database
            (saveDelivered outbox (event.deliveredAt result outbox.clock))
              (.rest (some (.ok true)))).1 },
          ofDelivery (saving outbox choice.database
            (saveDelivered outbox (event.deliveredAt result outbox.clock))
              (.rest (some (.ok true)))).2) := rfl
    have hid : (event.deliveredAt result outbox.clock).id = event.id := rfl
    unfold saveDelivered at heq
    rw [hid] at heq
    refine h.of_saving (by rw [hphase]; rfl) houtbox (hresult.trans heq) (fun _ => rfl)
      (fun row hsame => ?_) (fun _ _ => by rw [hphase]; rfl) (.inl rfl)
    exact ⟨rfl, rfl, (syncPayload_result _).trans hsame.payload.symm⟩
  | marking event error =>
    have hid : (event.marked error outbox.clock).id = event.id := by
      unfold Event.marked
      split <;> rfl
    have hstatus : (event.marked error outbox.clock).status ≠ .delivered := by
      unfold Event.marked
      split <;> exact fun hstatus => by cases hstatus
    have heq : nextDelivery config store choice (.marking event error) =
        ({ store with outbox := (saving outbox choice.database
            (saveMarked outbox (event.marked error outbox.clock))
              (.rest (some (.error error)))).1 },
          ofDelivery (saving outbox choice.database
            (saveMarked outbox (event.marked error outbox.clock))
              (.rest (some (.error error)))).2) := rfl
    unfold saveMarked at heq
    rw [hid] at heq
    exact h.of_saving (by rw [hphase]; rfl) houtbox (hresult.trans heq) (fun _ => rfl)
      (fun _ _ => ⟨rfl, rfl, rfl⟩) (fun _ hdelivered => absurd hdelivered hstatus) (.inl rfl)

/-- The event of a vendor is inserted on a turn. -/
theorem OrderKept.enqueue (h : OrderKept s) {outbox outbox' : Store}
    (houtbox : outbox.events = s.store.outbox.events)
    (henqueue : ∃ event : Event, outbox.events.lookup event.id = none ∧ event.status = .pending ∧
      (event.event_type = .upsertVendor → Upserts event) ∧
        outbox' = { outbox with events := outbox.events.upsert event })
    (hresult : statement config s i turn = ({ s.store with outbox := outbox' }, phase'))
    (hbacked : phase'.Backed s.store.outbox.events)
    (hanswered : ∀ id, phase'.answered = some id → (s.phase i).answered = some id) :
    OrderKept (s.step (statement config) (i, turn)) := by
  obtain ⟨event, hfresh, hstatus, hupserts, rfl⟩ := henqueue
  exact h.of_insert hresult (houtbox ▸ hfresh) hstatus hupserts
    (congrArg (Table.upsert · event) houtbox) rfl hbacked hanswered

/-- The next statement of a reconciliation. -/
theorem OrderKept.reconciliation (h : OrderKept s) {choice : Choice}
    (horder : InOrder s (i, .next choice))
    (hphase : ∀ delivery, s.phase i ≠ .delivering delivery) :
    OrderKept (s.step (statement config) (i, .next choice)) := by
  let outbox : Store :=
    { s.store.outbox with clock := s.store.outbox.clock + choice.database.elapsed }
  have houtbox : outbox.events = s.store.outbox.events := rfl
  let store : ProjectionStore := { s.store with outbox }
  have hresult : statement config s i (.next choice) = next config store choice (s.phase i) := rfl
  cases hstage : s.phase i with
  | rest result =>
    rw [hstage] at hresult
    exact h.of_quiet hresult rfl rfl rfl
  | delivering delivery => exact absurd hstage (hphase delivery)
  | reading dry_run =>
    rw [hstage, next] at hresult
    split at hresult
    · exact h.of_quiet hresult rfl rfl rfl
    · exact h.of_quiet hresult rfl rfl rfl
  | listing approved_vendors dry_run =>
    rw [hstage, next] at hresult
    split at hresult
    · exact h.of_quiet hresult rfl rfl rfl
    · dsimp only at hresult
      split at hresult
      · exact h.of_quiet hresult rfl rfl rfl
      · exact h.of_quiet hresult rfl rfl rfl
  | enqueuing plan vendors =>
    cases vendors with
    | nil =>
      rw [hstage, next] at hresult
      exact h.of_quiet hresult rfl rfl rfl
    | cons vendor vendors =>
      rw [hstage, next] at hresult
      split at hresult
      · exact h.of_quiet hresult rfl rfl rfl
      · next outbox' error henqueue _ =>
        split at hresult
        · exact h.enqueue houtbox (enqueue_cases henqueue) hresult (.of_quiet rfl)
            fun _ hanswered => by cases hanswered
        · exact h.of_quiet hresult rfl rfl rfl
      · next outbox' henqueue _ =>
        exact h.enqueue houtbox (enqueue_cases henqueue) hresult (.of_quiet rfl)
          fun _ hanswered => by cases hanswered
  | deleting plan vendor_ids =>
    cases vendor_ids with
    | nil =>
      rw [hstage, next] at hresult
      exact h.of_quiet hresult rfl rfl rfl
    | cons vendor_id vendor_ids =>
      have hrequested : requested s (i, .next choice) =
          some (Sent.reconciliation vendor_id).request := by
        simp only [requested, hstage]
        rfl
      rw [hstage, next] at hresult
      dsimp only at hresult
      split at hresult
      · exact h.of_unanswered horder hresult hrequested rfl rfl (.of_quiet rfl) rfl
      · exact h.of_unanswered horder hresult hrequested rfl rfl (.of_quiet rfl) rfl

/-- A turn in order keeps what deliveries in order keep. -/
theorem OrderKept.step (h : OrderKept s) (hconfig : config ≠ .skipped)
    (horder : InOrder s (i, turn)) : OrderKept (s.step (statement config) (i, turn)) := by
  have hself := h.backed i
  cases turn with
  | save vendor => exact h.of_idle rfl rfl rfl
  | remove vendor_id => exact h.of_idle rfl rfl rfl
  | enqueue id vendor reason pricing =>
    cases henqueue : enqueue_vendor_projection s.store.outbox id vendor reason pricing with
    | none =>
      have hresult : statement config s i (.enqueue id vendor reason pricing) =
          (s.store, s.phase i) := by
        rw [statement, henqueue]
      exact h.of_idle hresult rfl rfl
    | some outbox =>
      have hresult : statement config s i (.enqueue id vendor reason pricing) =
          ({ s.store with outbox }, s.phase i) := by
        rw [statement, henqueue]
      exact h.enqueue rfl (enqueue_cases henqueue) hresult hself fun _ hid => hid
  | enqueueDelete id vendor_id reason =>
    cases henqueue : enqueue_vendor_delete_projection s.store.outbox id vendor_id reason with
    | none =>
      have hresult : statement config s i (.enqueueDelete id vendor_id reason) =
          (s.store, s.phase i) := by
        rw [statement, henqueue]
      exact h.of_idle hresult rfl rfl
    | some outbox =>
      have hresult : statement config s i (.enqueueDelete id vendor_id reason) =
          ({ s.store with outbox }, s.phase i) := by
        rw [statement, henqueue]
      exact h.enqueue rfl (enqueue_delete_cases henqueue) hresult hself fun _ hid => hid
  | deliver event_id =>
    cases hphase : s.phase i with
    | rest result =>
      have hresult : statement config s i (.deliver event_id) =
          (s.store, .delivering (.loading event_id)) := by rw [statement, hphase]
      exact h.of_quiet hresult rfl rfl rfl
    | _ =>
      have hresult : statement config s i (.deliver event_id) = (s.store, s.phase i) := by
        rw [statement, hphase]
      exact h.of_idle hresult rfl rfl
  | reconcile dry_run =>
    cases hphase : s.phase i with
    | rest result =>
      have hresult : statement config s i (.reconcile dry_run) = (s.store, .reading dry_run) := by
        rw [statement, hphase]
      exact h.of_quiet hresult rfl rfl rfl
    | _ =>
      have hresult : statement config s i (.reconcile dry_run) = (s.store, s.phase i) := by
        rw [statement, hphase]
      exact h.of_idle hresult rfl rfl
  | next choice =>
    by_cases hdelivering : ∃ delivery, s.phase i = .delivering delivery
    · obtain ⟨delivery, hphase⟩ := hdelivering
      exact h.delivery hconfig horder hphase
    · exact h.reconciliation horder (not_exists.mp hdelivering)
  | crash =>
    have hresult : statement config s i .crash = (s.store, .rest none) := rfl
    exact h.of_quiet hresult rfl rfl rfl
  | land index =>
    cases hsent : s.store.service.inFlight[index]? with
    | none =>
      have hresult : statement config s i (.land index) = (s.store, s.phase i) := by
        rw [statement, hsent]
      exact h.of_idle hresult rfl rfl
    | some sent =>
      have hresult : statement config s i (.land index) = ({ s.store with service :=
          { s.store.service.perform sent.request with
            inFlight := s.store.service.inFlight.eraseIdx index } }, s.phase i) := by
        rw [statement, hsent]
      have hrequested : requested s (i, .land index) = some sent.request := by
        simp only [requested, hsent]
        rfl
      exact h.of_request horder hresult hrequested rfl rfl hself fun _ hid => .inl hid

end Steps

section Runs

theorem orderKept_start {ι : Type} {store : ProjectionStore}
    (h : store.outbox.events = .empty) : OrderKept (start (ι := ι) store) where
  upserts row hmem := by
    rw [start, h] at hmem
    cases hmem
  backed _ := .of_quiet rfl
  described vendor_id event hnewest := by
    rw [start, h] at hnewest
    cases hnewest

/-- The vendor once it has been suspended. -/
def suspendedVendor : VendorProfile := { sampleVendor with status := .suspended }

/-- The event of the approved vendor is delivered. -/
def approvalDelivered : List (Bool × Turn) :=
  [(true, .enqueue 9 sampleVendor none plainChoice.pricing), (true, .deliver 9)] ++ nexts true 4

/-- The event of its suspension is delivered. -/
def suspensionDelivered : List (Bool × Turn) :=
  [(false, .enqueue 10 suspendedVendor none plainChoice.pricing), (false, .deliver 10)] ++
    nexts false 4

end Runs

end Linkapro.Projection
