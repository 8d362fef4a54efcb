import Mathlib.Data.Fintype.Basic
import Linkapro.Lib.Sessions
import Linkapro.Marketplace.Projection

/-!
# Marketplace: reconciliation

`reconcile_marketplace_projection` reads the approved vendors, then the listings, and then deletes
the listings that it has not found among the vendors. What it deletes is stale as long as no vendor
becomes listable between the reading of the vendors and the deletion.
-/

namespace Linkapro.Projection

open Lib Vendors

/-- `_approved_complete_vendors`. -/
def _approved_complete_vendors (vendors : Table VendorProfile.id) : List VendorProfile :=
  ((vendors.rows.filter fun vendor => vendor.status = .approved).mergeSort
    fun vendor other => vendor.id.toNat ≤ other.id.toNat).filter
      fun vendor => vendor.get_profile_completion_errors = []

/-- What a reconciliation has read. -/
structure Plan where
  approved_vendors : List VendorProfile
  fastapi_vendor_ids : List String
  dry_run : Bool

namespace Plan

/-- `approved_vendor_ids`. -/
def approved_vendor_ids (plan : Plan) : List String :=
  plan.approved_vendors.map fun vendor => uuidText vendor.id

/-- `stale_vendor_ids`. -/
def stale_vendor_ids (plan : Plan) : List String :=
  (plan.fastapi_vendor_ids.filter fun id => id ∉ plan.approved_vendor_ids).mergeSort
    fun id other => id ≤ other

end Plan

/-- `MarketplaceReconciliationResult`. -/
structure MarketplaceReconciliationResult where
  interfaceroved_complete_count : ℕ
  fastapi_projection_count : ℕ
  stale_projection_count : ℕ
  deleted_stale_count : ℕ
  upsert_enqueued_count : ℕ
  dry_run : Bool
  stale_vendor_ids : List String
  approved_vendor_ids : List String
deriving DecidableEq

/-- The result of a reconciliation. -/
def Plan.result (plan : Plan) : MarketplaceReconciliationResult where
  interfaceroved_complete_count := plan.approved_vendors.length
  fastapi_projection_count := plan.fastapi_vendor_ids.length
  stale_projection_count := plan.stale_vendor_ids.length
  deleted_stale_count := if plan.dry_run then 0 else plan.stale_vendor_ids.length
  upsert_enqueued_count := if plan.dry_run then 0 else plan.approved_vendors.length
  dry_run := plan.dry_run
  stale_vendor_ids := plan.stale_vendor_ids
  approved_vendor_ids := plan.approved_vendor_ids.mergeSort fun id other => id ≤ other

/-- What a call has returned. -/
inductive Outcome : Type where
  | delivered (answer : Bool)
  | reconciled (result : MarketplaceReconciliationResult)

/-- How far a session has come. -/
inductive Phase : Type where
  /-- No call is in progress. The last one has returned or raised this. -/
  | rest (result : Option (Except String Outcome))
  /-- In `deliver_marketplace_projection_outbox_event`. -/
  | delivering (phase : Outboxes.Marketplace.Phase)
  /-- Before the vendors are read. -/
  | reading (dry_run : Bool)
  /-- Before the listings are read. -/
  | listing (approved_vendors : List VendorProfile) (dry_run : Bool)
  /-- Before the events of these vendors are inserted. -/
  | enqueuing (plan : Plan) (vendors : List VendorProfile)
  /-- Before the listings of these vendors are deleted. -/
  | deleting (plan : Plan) (vendor_ids : List String)

/-- The outbox, the vendors and the marketplace service. -/
structure ProjectionStore where
  outbox : Outboxes.Marketplace.Store
  vendors : Table VendorProfile.id
  service : Service

/-- What a statement leaves open. -/
structure Choice where
  database : Outboxes.Marketplace.Choice
  reply : Reply
  event_id : UUID
  pricing : PackagePricing

/-- What happens on the turn of a session. -/
inductive Turn : Type where
  /-- The row of a vendor is written: an approval, a suspension or an edit. -/
  | save (vendor : VendorProfile)
  /-- The row of a vendor is deleted. -/
  | remove (vendor_id : UUID)
  /-- The projection of a vendor, as it is in memory, is enqueued. -/
  | enqueue (id : UUID) (vendor : VendorProfile) (reason : Option String)
      (pricing : PackagePricing)
  /-- The deletion of a listing is enqueued. -/
  | enqueueDelete (id vendor_id : UUID) (reason : Option String)
  /-- A delivery starts. -/
  | deliver (event_id : UUID)
  /-- A reconciliation starts. -/
  | reconcile (dry_run : Bool)
  /-- The next statement is performed. -/
  | next (choice : Choice)
  /-- The worker stops. -/
  | crash
  /-- The service performs a request that its sender has given up. -/
  | land (index : ℕ)

/-- The phase of a delivery. -/
def ofDelivery : Outboxes.Marketplace.Phase → Phase
  | .rest result => .rest (result.map fun result => result.map .delivered)
  | phase => .delivering phase

/-- The next statement of a delivery. The request of `_deliver_event` goes to the service. -/
def nextDelivery (config : Config) (store : ProjectionStore) (choice : Choice)
    (phase : Outboxes.Marketplace.Phase) : ProjectionStore × Phase :=
  match phase with
  | .delivering event =>
    match requestOf event with
    | .error error => (store, .delivering (.marking event error))
    | .ok request =>
      let (answer, service) :=
        store.service.send config choice.reply (.delivery request)
      match answer with
      | .error error => ({ store with service }, .delivering (.marking event error))
      | .ok _ =>
        ({ store with service }, .delivering (.storing event choice.database.result))
  | phase =>
    let (outbox, phase) := Outboxes.Marketplace.next store.outbox choice.database phase
    ({ store with outbox }, ofDelivery phase)

/-- The next statement of a call. -/
def next (config : Config) (store : ProjectionStore) (choice : Choice) :
    Phase → ProjectionStore × Phase
  | .rest result => (store, .rest result)
  | .delivering phase => nextDelivery config store choice phase
  | .reading dry_run =>
    match choice.database.fault with
    | some error => (store, .rest (some (.error error)))
    | none => (store, .listing (_approved_complete_vendors store.vendors) dry_run)
  | .listing approved_vendors dry_run =>
    match store.service.vendorIds config choice.reply with
    | .error error => (store, .rest (some (.error error)))
    | .ok fastapi_vendor_ids =>
      let plan := { approved_vendors, fastapi_vendor_ids, dry_run }
      if dry_run then (store, .rest (some (.ok (.reconciled plan.result))))
      else (store, .enqueuing plan approved_vendors)
  | .enqueuing plan [] => (store, .deleting plan plan.stale_vendor_ids)
  | .enqueuing plan (vendor :: vendors) =>
    match enqueue_vendor_projection store.outbox choice.event_id vendor
        (some "marketplace_reconciliation") choice.pricing, choice.database.fault with
    | none, _ => (store, .rest (some (.error "IntegrityError")))
    | some outbox, some error =>
      (if choice.database.applied then { store with outbox } else store,
        .rest (some (.error error)))
    | some outbox, none => ({ store with outbox }, .enqueuing plan vendors)
  | .deleting plan [] => (store, .rest (some (.ok (.reconciled plan.result))))
  | .deleting plan (vendor_id :: vendor_ids) =>
    let (answer, service) := store.service.send config choice.reply (.reconciliation vendor_id)
    match answer with
    | .error error => ({ store with service }, .rest (some (.error error)))
    | .ok _ => ({ store with service }, .deleting plan vendor_ids)

section Turns

variable {ι : Type} [DecidableEq ι]

/-- The turn of a session. A call starts only when none is in progress. -/
def statement (config : Config) : Statement ι ProjectionStore Phase Turn := fun s i turn =>
  match turn with
  | .save vendor => ({ s.store with vendors := s.store.vendors.upsert vendor }, s.phase i)
  | .remove vendor_id =>
    ({ s.store with vendors := s.store.vendors.filter fun vendor => vendor.id ≠ vendor_id },
      s.phase i)
  | .enqueue id vendor reason pricing =>
    match enqueue_vendor_projection s.store.outbox id vendor reason pricing with
    | none => (s.store, s.phase i)
    | some outbox => ({ s.store with outbox }, s.phase i)
  | .enqueueDelete id vendor_id reason =>
    match enqueue_vendor_delete_projection s.store.outbox id vendor_id reason with
    | none => (s.store, s.phase i)
    | some outbox => ({ s.store with outbox }, s.phase i)
  | .deliver event_id =>
    match s.phase i with
    | .rest _ => (s.store, .delivering (.loading event_id))
    | phase => (s.store, phase)
  | .reconcile dry_run =>
    match s.phase i with
    | .rest _ => (s.store, .reading dry_run)
    | phase => (s.store, phase)
  | .next choice =>
    let outbox := { s.store.outbox with clock := s.store.outbox.clock + choice.database.elapsed }
    next config { s.store with outbox } choice (s.phase i)
  | .crash => (s.store, .rest none)
  | .land index =>
    match s.store.service.inFlight[index]? with
    | none => (s.store, s.phase i)
    | some sent =>
      let inFlight := s.store.service.inFlight.eraseIdx index
      ({ s.store with service := { s.store.service.perform sent.request with inFlight } },
        s.phase i)

/-- All sessions at rest. -/
def start (store : ProjectionStore) : Sessions ι ProjectionStore Phase where
  store
  phase := fun _ => .rest none

end Turns

section Removals

/-- A vendor is approved and complete. -/
def ProjectionStore.Listable (store : ProjectionStore) (vendor_id : UUID) : Prop :=
  ∃ vendor ∈ store.vendors.rows, vendor.id = vendor_id ∧ _is_vendor_listable vendor = true

instance (store : ProjectionStore) (vendor_id : UUID) : Decidable (store.Listable vendor_id) :=
  inferInstanceAs (Decidable (∃ _ ∈ _, _ ∧ _))

/-- A reconciliation may still send the deletion of a listing. -/
def Phase.Threatens (phase : Phase) (vendor_id : UUID) : Prop :=
  match phase with
  | .listing approved_vendors dry_run =>
    dry_run = false ∧ ∀ vendor ∈ approved_vendors, vendor.id ≠ vendor_id
  | .enqueuing plan _ => ∃ id ∈ plan.stale_vendor_ids, uuidOf id = some vendor_id
  | .deleting _ vendor_ids => ∃ id ∈ vendor_ids, uuidOf id = some vendor_id
  | _ => False

instance (phase : Phase) (vendor_id : UUID) : Decidable (phase.Threatens vendor_id) := by
  unfold Phase.Threatens
  split <;> infer_instance

/-- A request of a reconciliation is the deletion of a listing. -/
def Sent.Threatens (sent : Sent) (vendor_id : UUID) : Prop :=
  match sent with
  | .reconciliation id => uuidOf id = some vendor_id
  | .delivery _ => False

instance (sent : Sent) (vendor_id : UUID) : Decidable (sent.Threatens vendor_id) := by
  unfold Sent.Threatens
  split <;> infer_instance

variable {ι : Type} [DecidableEq ι]

/-- No reconciliation deletes the listing of a vendor any more. -/
def Spared (s : Sessions ι ProjectionStore Phase) (vendor_id : UUID) : Prop :=
  (∀ i, ¬ (s.phase i).Threatens vendor_id) ∧
    ∀ sent ∈ s.store.service.inFlight, ¬ sent.Threatens vendor_id

instance [Fintype ι] (s : Sessions ι ProjectionStore Phase) (vendor_id : UUID) :
    Decidable (Spared s vendor_id) :=
  inferInstanceAs (Decidable (_ ∧ _))

/-- A turn makes a vendor listable only if no reconciliation deletes its listing any more. -/
def Awaits (s : Sessions ι ProjectionStore Phase) (turn : ι × Turn) : Prop :=
  match turn.2 with
  | .save vendor => _is_vendor_listable vendor = true →
      s.store.Listable vendor.id ∨ Spared s vendor.id
  | _ => True

instance [Fintype ι] (s : Sessions ι ProjectionStore Phase) (turn : ι × Turn) :
    Decidable (Awaits s turn) := by
  unfold Awaits
  split <;> infer_instance

/-- A request is one of a reconciliation. -/
def Sent.reconciles : Sent → Bool
  | .reconciliation _ => true
  | .delivery _ => false

/-- The turn performs a request of a reconciliation. -/
def Reconciles (s : Sessions ι ProjectionStore Phase) (turn : ι × Turn) : Prop :=
  match turn.2, s.phase turn.1 with
  | .next _, .deleting _ _ => True
  | .land index, _ => s.store.service.inFlight[index]?.any Sent.reconciles = true
  | _, _ => False

instance (s : Sessions ι ProjectionStore Phase) (turn : ι × Turn) :
    Decidable (Reconciles s turn) := by
  unfold Reconciles
  split <;> infer_instance

/-- The turn removes no listing of an approved and complete vendor for a reconciliation. -/
def RemovesStale (config : Config) (s : Sessions ι ProjectionStore Phase) (turn : ι × Turn) :
    Prop :=
  Reconciles s turn → ∀ vendor_id, s.store.service.Listed vendor_id →
    ¬ (s.step (statement config) turn).store.service.Listed vendor_id → ¬ s.store.Listable vendor_id

/-- What awaiting turns keep. -/
def AllSpared (s : Sessions ι ProjectionStore Phase) : Prop :=
  ∀ vendor_id, s.store.Listable vendor_id → Spared s vendor_id

theorem mem_approved_complete {vendors : Table VendorProfile.id} {vendor : VendorProfile} :
    vendor ∈ _approved_complete_vendors vendors ↔
      vendor ∈ vendors.rows ∧ _is_vendor_listable vendor = true := by
  simp only [_approved_complete_vendors, _is_vendor_listable, List.mem_filter, List.mem_mergeSort,
    decide_eq_true_eq, Bool.decide_and, Bool.and_eq_true, and_assoc]

theorem mem_stale_iff {plan : Plan} {id : String} :
    id ∈ plan.stale_vendor_ids ↔ id ∈ plan.fastapi_vendor_ids ∧ id ∉ plan.approved_vendor_ids := by
  simp only [Plan.stale_vendor_ids, List.mem_mergeSort, List.mem_filter, decide_eq_true_eq]

variable {config : Config} {store : ProjectionStore} {choice : Choice} {phase : Phase}
  {vendor_id : UUID}

/-- A vendor is either among the approved vendors that have been read, or it is not listable. -/
theorem not_threatened_of_listable (h : store.Listable vendor_id) (dry_run : Bool) :
    ¬ (Phase.listing (_approved_complete_vendors store.vendors) dry_run).Threatens vendor_id := by
  rintro ⟨_, hne⟩
  obtain ⟨vendor, hmem, rfl, hlistable⟩ := h
  exact hne vendor (mem_approved_complete.mpr ⟨hmem, hlistable⟩) rfl

/-- A stale id is the id of a listing without an approved vendor. -/
theorem not_approved_of_stale {plan : Plan} {id : String} (hid : id ∈ plan.stale_vendor_ids)
    (huuid : uuidOf id = some vendor_id)
    (hids : ∀ id ∈ plan.fastapi_vendor_ids, ∃ listed, id = uuidText listed) :
    ∀ vendor ∈ plan.approved_vendors, vendor.id ≠ vendor_id := by
  obtain ⟨hlisted, hne⟩ := mem_stale_iff.mp hid
  obtain ⟨listed, rfl⟩ := hids id hlisted
  rw [uuidOf_uuidText] at huuid
  rintro vendor hmem rfl
  exact hne (List.mem_map.mpr ⟨vendor, hmem, (congrArg uuidText (Option.some.inj huuid)).symm⟩)

theorem ofDelivery_not_threatens {delivery : Outboxes.Marketplace.Phase} :
    ¬ (ofDelivery delivery).Threatens vendor_id := by
  cases delivery <;> exact id

/-- A delivery deletes nothing for a reconciliation. -/
theorem nextDelivery_not_threatens {delivery : Outboxes.Marketplace.Phase} :
    ¬ (nextDelivery config store choice delivery).2.Threatens vendor_id := by
  unfold nextDelivery
  split
  · split
    · exact id
    · dsimp only
      split
      · exact id
      · exact id
  · exact ofDelivery_not_threatens

/-- A call that deletes a listing later has been able to do so before, or it has just read the
vendors. -/
theorem next_threatens (h : (next config store choice phase).2.Threatens vendor_id) :
    phase.Threatens vendor_id ∨ ¬ store.Listable vendor_id := by
  cases phase with
  | rest result => cases h
  | delivering delivery => exact absurd h nextDelivery_not_threatens
  | reading dry_run =>
    rw [next] at h
    split at h
    · cases h
    · exact .inr fun hlistable => not_threatened_of_listable hlistable dry_run h
  | listing approved_vendors dry_run =>
    left
    rw [next] at h
    split at h
    · cases h
    · next ids hids =>
      split at h
      · cases h
      · next hdry =>
        obtain ⟨id, hid, huuid⟩ := h
        refine ⟨Bool.not_eq_true _ ▸ hdry, not_approved_of_stale hid huuid fun id hid => ?_⟩
        obtain ⟨listed, _, heq⟩ := mem_vendorIds hids hid
        exact ⟨listed, heq⟩
  | enqueuing plan vendors =>
    left
    cases vendors with
    | nil => exact h
    | cons vendor vendors =>
      rw [next] at h
      split at h
      · cases h
      · cases h
      · exact h
  | deleting plan vendor_ids =>
    left
    cases vendor_ids with
    | nil => cases h
    | cons id vendor_ids =>
      rw [next] at h
      dsimp only at h
      split at h
      · cases h
      · obtain ⟨other, hmem, huuid⟩ := h
        exact ⟨other, List.mem_cons_of_mem _ hmem, huuid⟩

/-- The calls of this model write no vendor. -/
theorem next_vendors : (next config store choice phase).1.vendors = store.vendors := by
  cases phase with
  | delivering delivery =>
    rw [next]
    unfold nextDelivery
    split
    · split
      · rfl
      · dsimp only
        split <;> rfl
    · rfl
  | enqueuing plan vendors =>
    cases vendors with
    | nil => rfl
    | cons vendor vendors =>
      rw [next]
      split
      · rfl
      · split <;> rfl
      · rfl
  | deleting plan vendor_ids =>
    cases vendor_ids with
    | nil => rfl
    | cons id vendor_ids =>
      rw [next]
      dsimp only
      split <;> rfl
  | rest _ => rfl
  | reading _ =>
    rw [next]
    split <;> rfl
  | listing _ _ =>
    rw [next]
    split
    · rfl
    · split <;> rfl

/-- A request of a reconciliation that stays in flight is one that it was about to send. -/
theorem next_inFlight {sent : Sent}
    (h : sent ∈ (next config store choice phase).1.service.inFlight)
    (hsent : sent.Threatens vendor_id) :
    sent ∈ store.service.inFlight ∨ phase.Threatens vendor_id := by
  cases phase with
  | delivering delivery =>
    left
    rw [next] at h
    unfold nextDelivery at h
    split at h
    · split at h
      · exact h
      · next request _ =>
        have hmem : sent ∈
            (store.service.send config choice.reply (.delivery request)).2.inFlight := by
          dsimp only at h
          split at h <;> exact h
        rcases mem_inFlight_send hmem with rfl | hmem
        · cases hsent
        · exact hmem
    · exact h
  | deleting plan vendor_ids =>
    cases vendor_ids with
    | nil => exact .inl h
    | cons id vendor_ids =>
      have hmem : sent ∈
          (store.service.send config choice.reply (.reconciliation id)).2.inFlight := by
        rw [next] at h
        dsimp only at h
        split at h <;> exact h
      rcases mem_inFlight_send hmem with rfl | hmem
      · exact .inr ⟨id, List.mem_cons_self, hsent⟩
      · exact .inl hmem
  | enqueuing plan vendors =>
    left
    cases vendors with
    | nil => exact h
    | cons vendor vendors =>
      rw [next] at h
      split at h
      · exact h
      · split at h <;> exact h
      · exact h
  | rest _ => exact .inl h
  | reading _ =>
    rw [next] at h
    split at h <;> exact .inl h
  | listing _ _ =>
    rw [next] at h
    split at h
    · exact .inl h
    · split at h <;> exact .inl h

/-- The deletion of a reconciliation removes a listing that it threatens. -/
theorem threatens_of_removed {plan : Plan} {vendor_ids : List String}
    (hlisted : store.service.Listed vendor_id)
    (hremoved :
      ¬ (next config store choice (.deleting plan vendor_ids)).1.service.Listed vendor_id) :
    (Phase.deleting plan vendor_ids).Threatens vendor_id := by
  cases vendor_ids with
  | nil => exact absurd hlisted hremoved
  | cons id vendor_ids =>
    refine ⟨id, List.mem_cons_self, ?_⟩
    by_contra hid
    have hkept : (store.service.send config choice.reply (.reconciliation id)).2.Listed vendor_id :=
      listed_send (listed_perform_delete.mpr ⟨hlisted, hid⟩) hlisted
    refine hremoved ?_
    rw [next]
    dsimp only
    split <;> exact hkept

section Steps

variable {s : Sessions ι ProjectionStore Phase} {i : ι}

/-- A vendor that is spared stays so, unless a reconciliation reads that it is not listable. -/
theorem Spared.next (h : Spared s vendor_id) (hlistable : s.store.Listable vendor_id) :
    Spared (s.step (statement config) (i, .next choice)) vendor_id := by
  obtain ⟨hphases, hsent⟩ := h
  constructor
  · intro j
    by_cases hj : j = i
    · subst hj
      rw [Sessions.step_phase_self]
      intro hthreatens
      rcases next_threatens hthreatens with hthreatens | hnot
      · exact hphases j hthreatens
      · exact hnot hlistable
    · rw [Sessions.step_phase_of_ne hj]
      exact hphases j
  · intro sent hmem hthreatens
    rcases next_inFlight hmem hthreatens with hmem | hthreatens
    · exact hsent sent hmem hthreatens
    · exact hphases i hthreatens

/-- A turn that is no statement of a call starts no deletion. -/
theorem Spared.of_same {turn : Turn} (h : Spared s vendor_id)
    (hinFlight : ∀ sent ∈ (s.step (statement config) (i, turn)).store.service.inFlight,
      sent ∈ s.store.service.inFlight)
    (hphase : ¬ ((s.step (statement config) (i, turn)).phase i).Threatens vendor_id) :
    Spared (s.step (statement config) (i, turn)) vendor_id := by
  refine ⟨fun j => ?_, fun sent hmem => h.2 sent (hinFlight sent hmem)⟩
  by_cases hj : j = i
  · subst hj
    exact hphase
  · rw [Sessions.step_phase_of_ne hj]
    exact h.1 j

/-- A vendor becomes listable only when it is written. -/
theorem listable_of_step {turn : Turn}
    (h : (s.step (statement config) (i, turn)).store.Listable vendor_id) :
    s.store.Listable vendor_id ∨
      ∃ vendor, turn = .save vendor ∧ vendor.id = vendor_id ∧
        _is_vendor_listable vendor = true := by
  obtain ⟨vendor, hmem, hid, hlistable⟩ := h
  cases turn with
  | save written =>
    rcases Table.mem_upsert_iff.mp hmem with rfl | ⟨hmem, _⟩
    · exact .inr ⟨vendor, rfl, hid, hlistable⟩
    · exact .inl ⟨vendor, hmem, hid, hlistable⟩
  | remove removed => exact .inl ⟨vendor, (List.mem_filter.mp hmem).1, hid, hlistable⟩
  | next choice =>
    rw [Sessions.step_store, statement, next_vendors] at hmem
    exact .inl ⟨vendor, hmem, hid, hlistable⟩
  | crash => exact .inl ⟨vendor, hmem, hid, hlistable⟩
  | deliver event_id | reconcile dry_run =>
    rw [Sessions.step_store, statement] at hmem
    split at hmem <;> exact .inl ⟨vendor, hmem, hid, hlistable⟩
  | enqueue id enqueued reason pricing =>
    rw [Sessions.step_store, statement] at hmem
    split at hmem <;> exact .inl ⟨vendor, hmem, hid, hlistable⟩
  | enqueueDelete id deleted reason =>
    rw [Sessions.step_store, statement] at hmem
    split at hmem <;> exact .inl ⟨vendor, hmem, hid, hlistable⟩
  | land index =>
    rw [Sessions.step_store, statement] at hmem
    split at hmem <;> exact .inl ⟨vendor, hmem, hid, hlistable⟩

/-- Every turn spares a listable vendor. -/
theorem Spared.step {turn : Turn} (h : Spared s vendor_id)
    (hlistable : (∃ choice, turn = .next choice) → s.store.Listable vendor_id) :
    Spared (s.step (statement config) (i, turn)) vendor_id := by
  cases turn with
  | next choice => exact h.next (hlistable ⟨choice, rfl⟩)
  | save vendor | remove removed =>
    refine h.of_same (fun _ => id) ?_
    rw [Sessions.step_phase_self]
    exact h.1 i
  | crash =>
    refine h.of_same (fun _ => id) ?_
    rw [Sessions.step_phase_self]
    exact id
  | deliver event_id | reconcile dry_run =>
    refine h.of_same (fun sent hmem => ?_) ?_
    · rw [Sessions.step_store, statement] at hmem
      split at hmem <;> exact hmem
    · rw [Sessions.step_phase_self, statement]
      split
      · exact id
      · exact h.1 i
  | enqueue id enqueued reason pricing =>
    refine h.of_same (fun sent hmem => ?_) ?_
    · rw [Sessions.step_store, statement] at hmem
      split at hmem <;> exact hmem
    · rw [Sessions.step_phase_self, statement]
      split <;> exact h.1 i
  | enqueueDelete id deleted reason =>
    refine h.of_same (fun sent hmem => ?_) ?_
    · rw [Sessions.step_store, statement] at hmem
      split at hmem <;> exact hmem
    · rw [Sessions.step_phase_self, statement]
      split <;> exact h.1 i
  | land index =>
    refine h.of_same (fun sent hmem => ?_) ?_
    · rw [Sessions.step_store, statement] at hmem
      split at hmem
      · exact hmem
      · exact List.mem_of_mem_eraseIdx hmem
    · rw [Sessions.step_phase_self, statement]
      split <;> exact h.1 i

/-- Awaiting turns keep every listable vendor spared. -/
theorem AllSpared.step {turn : ι × Turn} (h : AllSpared s) (hawaits : Awaits s turn) :
    AllSpared (s.step (statement config) turn) := by
  obtain ⟨i, turn⟩ := turn
  intro vendor_id hlistable
  rcases listable_of_step hlistable with hbefore | ⟨vendor, rfl, rfl, hvendor⟩
  · exact (h vendor_id hbefore).step fun _ => hbefore
  · have hspared : Spared s vendor.id := (hawaits hvendor).elim (h vendor.id) id
    exact hspared.step fun ⟨_, hnext⟩ => nomatch hnext

/-- A reconciliation removes no listing of a vendor that is spared. -/
theorem AllSpared.removesStale {turn : ι × Turn} (h : AllSpared s) :
    RemovesStale config s turn := by
  obtain ⟨i, turn⟩ := turn
  intro hreconciles vendor_id hlisted hremoved hlistable
  obtain ⟨hphases, hsent⟩ := h vendor_id hlistable
  cases turn with
  | next choice =>
    cases hphase : s.phase i with
    | deleting plan vendor_ids =>
      rw [Sessions.step_store, statement, hphase] at hremoved
      have hthreatens := threatens_of_removed (by exact hlisted) hremoved
      exact hphases i (hphase ▸ hthreatens)
    | _ =>
      unfold Reconciles at hreconciles
      rw [hphase] at hreconciles
      exact hreconciles
  | land index =>
    obtain ⟨sent, hid, hdeletes⟩ := (Option.any_eq_true ..).mp hreconciles
    cases sent with
    | delivery request => cases hdeletes
    | reconciliation id =>
      rw [Sessions.step_store, statement, hid] at hremoved
      have huuid : uuidOf id ≠ some vendor_id := hsent _ (List.mem_of_getElem? hid)
      exact hremoved (listed_perform_delete.mpr ⟨hlisted, huuid⟩)
  | _ => exact hreconciles

end Steps

omit [DecidableEq ι] in
/-- Before any request is under way, every vendor is spared. -/
theorem allSpared_start {store : ProjectionStore} (h : store.service.inFlight = []) :
    AllSpared (start store : Sessions ι ProjectionStore Phase) := by
  refine fun vendor_id _ => ⟨fun _ => id, fun sent hmem => ?_⟩
  change sent ∈ store.service.inFlight at hmem
  rw [h] at hmem
  cases hmem

end Removals

end Linkapro.Projection
