import Mathlib.Data.List.Infix
import Linkapro.Isoformat
import Linkapro.Outboxes.Retries
import Linkapro.Uuids
import Linkapro.Vendors.Profile

/-!
# Marketplace: the projection of vendors

The events by which the listings of the marketplace service follow the vendors, the requests that
their deliveries send, and the endpoints that answer them. A request may take effect although its
sender meets an error, and even after the sender has given it up.
-/

namespace Linkapro.Projection

open Lib Outboxes.Marketplace Vendors

section Events

/-- `_is_vendor_listable`. -/
def _is_vendor_listable (vendor : VendorProfile) : Bool :=
  vendor.status = .approved ∧ vendor.get_profile_completion_errors = []

/-- `_safe_public_cover_image_url`. -/
def _safe_public_cover_image_url (vendor : VendorProfile) : Option String :=
  let url := (strip (vendor.cover_image_url.getD "")).toList
  if ¬ "https://".toList <+: url then none
  else if "/media/".toList <+: url ∨ "vendor_portfolio_uploads".toList <:+: url then none
  else some (String.ofList url)

/-- What `_approved_package_pricing` finds in the packages of a vendor. -/
structure PackagePricing where
  starting_price : Option String
  min_package_price : Option String
  max_package_price : Option String
  currency : Option String

/-- `True` as a JSON value. -/
def jsonTrue : JsonValue := .other "True" true

/-- `_vendor_payload`. -/
def _vendor_payload (vendor : VendorProfile) (reason : Option String) (pricing : PackagePricing) :
    List (String × JsonValue) :=
  [("vendor_id", .text (uuidText vendor.id)),
    ("business_name", .text vendor.business_name),
    ("category", .text vendor.category.value),
    ("custom_category",
      .ofOption (if vendor.category = .other then vendor.custom_category else none)),
    ("description", .text vendor.description),
    ("service_area", .text vendor.service_area),
    ("cover_image_url", .ofOption (_safe_public_cover_image_url vendor)),
    ("approval_status", .text VendorStatus.approved.value),
    ("is_approved", jsonTrue),
    ("is_verified", jsonTrue),
    ("reason", .text ((nonEmpty reason).getD "vendor_listable")),
    ("source_updated_at", .text (isoformat vendor.updated_at)),
    ("starting_price", .ofOption pricing.starting_price),
    ("min_package_price", .ofOption pricing.min_package_price),
    ("max_package_price", .ofOption pricing.max_package_price),
    ("currency", .ofOption pricing.currency)]

/-- `_projection_event_for_vendor`. -/
def _projection_event_for_vendor (vendor : VendorProfile) (reason : Option String)
    (pricing : PackagePricing) : EventType × List (String × JsonValue) :=
  if _is_vendor_listable vendor then (.upsertVendor, _vendor_payload vendor reason pricing)
  else
    (.deleteVendor,
      [("vendor_id", .text (uuidText vendor.id)),
        ("approval_status", .text vendor.status.value),
        ("reason", .text ((nonEmpty reason).getD "vendor_not_listable"))])

/-- The INSERT of `enqueue_vendor_projection`, which a used id makes fail. -/
def enqueue_vendor_projection (outbox : Store) (id : UUID) (vendor : VendorProfile)
    (reason : Option String) (pricing : PackagePricing) : Option Store :=
  let (event_type, payload) := _projection_event_for_vendor vendor reason pricing
  if (outbox.events.lookup id).isSome then none
  else
    some { outbox with
      events := outbox.events.upsert (.enqueued id event_type vendor.id payload outbox.clock) }

/-- The INSERT of `enqueue_vendor_delete_projection`. -/
def enqueue_vendor_delete_projection (outbox : Store) (id vendor_id : UUID)
    (reason : Option String) : Option Store :=
  let payload := [("vendor_id", JsonValue.text (uuidText vendor_id)),
    ("reason", .text ((nonEmpty reason).getD "vendor_deleted"))]
  if (outbox.events.lookup id).isSome then none
  else
    some { outbox with
      events := outbox.events.upsert (.enqueued id .deleteVendor vendor_id payload outbox.clock) }

end Events

section Requests

/-- A request to the marketplace service. -/
inductive Request : Type where
  | upsert (payload : List (String × JsonValue))
  | delete (vendor_id : String)

/-- The payload that `sync_vendor_payload_to_marketplace` sends for an event, with `none` for
`KeyError`. -/
def syncPayload (payload : List (String × JsonValue)) : Option (List (String × JsonValue)) := do
  let vendor_id ← payload.lookup "vendor_id"
  let business_name ← payload.lookup "business_name"
  let category ← payload.lookup "category"
  let description ← payload.lookup "description"
  let service_area ← payload.lookup "service_area"
  let get (key : String) : JsonValue := (payload.lookup key).getD .null
  let approved := JsonValue.text VendorStatus.approved.value
  let approval_status := (payload.lookup "approval_status").getD approved
  some
    [("vendor_id", .text vendor_id.render),
      ("business_name", business_name),
      ("category", category),
      ("description", description),
      ("service_area", service_area),
      ("cover_image_url", get "cover_image_url"),
      ("approval_status", approval_status),
      ("is_approved", if approval_status = approved then jsonTrue else .other "False" false),
      ("is_verified", (payload.lookup "is_verified").getD jsonTrue),
      ("starting_price", get "starting_price"),
      ("min_package_price", get "min_package_price"),
      ("max_package_price", get "max_package_price"),
      ("currency", get "currency")]

/-- The request of `_deliver_event`. -/
def requestOf (event : Event) : Except String Request :=
  match event.event_type with
  | .deleteVendor => .ok (.delete (uuidText event.vendor_id))
  | .upsertVendor =>
    match syncPayload event.payload with
    | some payload => .ok (.upsert payload)
    | none => .error "KeyError"

end Requests

section Service

/-- A row of `VendorListingModel`, with its columns as they were sent. -/
structure Listing where
  vendor_id : UUID
  columns : List (String × JsonValue)

/-- `_upsert_listing_payload`, with `none` for an id that is refused. The requests of the projection
have no external id. -/
def upsertListing (payload : List (String × JsonValue)) (listings : Table Listing.vendor_id) :
    Option (Table Listing.vendor_id) := do
  let vendor_id ← ((payload.lookup "vendor_id").map JsonValue.render).bind uuidOf
  let approval_status := ((payload.lookup "approval_status").map JsonValue.render).getD "approved"
  let is_approved := (payload.lookup "is_approved").any JsonValue.isTruthy ∧
    lower (strip approval_status) = "approved"
  some (if is_approved then listings.upsert { vendor_id, columns := payload }
    else listings.filter fun listing => listing.vendor_id ≠ vendor_id)

/-- `delete_listing`, with `none` for an id that is refused. -/
def deleteListing (vendor_id : String) (listings : Table Listing.vendor_id) :
    Option (Table Listing.vendor_id) :=
  (uuidOf vendor_id).map fun id => listings.filter fun listing => listing.vendor_id ≠ id

/-- What a request makes of the listings. -/
def Request.apply : Request → Table Listing.vendor_id → Option (Table Listing.vendor_id)
  | .upsert payload => upsertListing payload
  | .delete vendor_id => deleteListing vendor_id

/-- A request under way, of a delivery or of a reconciliation. -/
inductive Sent : Type where
  | delivery (request : Request)
  | reconciliation (vendor_id : String)

/-- What is requested. A reconciliation deletes listings. -/
def Sent.request : Sent → Request
  | .delivery request => request
  | .reconciliation vendor_id => .delete vendor_id

/-- The marketplace service and the requests to it that their senders have given up. -/
structure Service where
  listings : Table Listing.vendor_id
  inFlight : List Sent

/-- What `_get_marketplace_config` finds: the settings, none where they may be missing, or none
where they may not. -/
inductive Config : Type where
  | configured | skipped | improper
deriving DecidableEq

/-- What becomes of a request. -/
inductive Reply : Type where
  /-- The service performs it, or refuses it, and its answer arrives. -/
  | answered
  /-- The service does not perform it. -/
  | refused (error : String)
  /-- The service performs it, but no answer arrives. -/
  | lost (error : String)
  /-- No answer arrives in time, and the service may still perform it. -/
  | late (error : String)

/-- The listings after a request, which stay as they are when it is refused. -/
def Service.perform (service : Service) (request : Request) : Service :=
  { service with listings := (request.apply service.listings).getD service.listings }

/-- `_send_signed_request` with `raise_for_status`, under the configuration. -/
def Service.send (service : Service) (config : Config) (reply : Reply) (sent : Sent) :
    Except String Unit × Service :=
  match config, reply with
  | .skipped, _ => (.ok (), service)
  | .improper, _ => (.error "ImproperlyConfigured", service)
  | .configured, .answered =>
    if (sent.request.apply service.listings).isSome then (.ok (), service.perform sent.request)
    else (.error "HTTPStatusError", service)
  | .configured, .refused error => (.error error, service)
  | .configured, .lost error => (.error error, service.perform sent.request)
  | .configured, .late error =>
    (.error error, { service with inFlight := sent :: service.inFlight })

/-- `list_marketplace_projection_vendor_ids`. -/
def Service.vendorIds (service : Service) (config : Config) (reply : Reply) :
    Except String (List String) :=
  match config, reply with
  | .skipped, _ => .ok []
  | .improper, _ => .error "ImproperlyConfigured"
  | .configured, .answered =>
    .ok (service.listings.rows.map fun listing => uuidText listing.vendor_id)
  | .configured, .refused error | .configured, .lost error | .configured, .late error =>
    .error error

end Service

section Payloads

variable {payload : List (String × JsonValue)} {event : Event}

/-- A payload asks for the listing of a vendor. -/
def Lists (payload : List (String × JsonValue)) (vendor_id : UUID) : Prop :=
  ∀ listings, upsertListing payload listings =
    some (listings.upsert { vendor_id, columns := payload })

/-- The delivery of an event asks for the listing of its vendor. -/
def Upserts (event : Event) : Prop :=
  ∃ payload, requestOf event = .ok (.upsert payload) ∧ Lists payload event.vendor_id

/-- A payload with the id of a vendor and an approval asks for its listing. -/
theorem lists_of_approved {id : UUID}
    (hid : payload.lookup "vendor_id" = some (.text (uuidText id)))
    (hstatus : payload.lookup "approval_status" = some (.text "approved"))
    (happroved : payload.lookup "is_approved" = some jsonTrue) : Lists payload id := by
  intro listings
  have hlower : lower (strip "approved") = "approved" := by decide +kernel
  unfold upsertListing
  rw [hid, hstatus, happroved, Option.map_some, Option.bind_some, JsonValue.render,
    uuidOf_uuidText, Option.map_some, Option.getD_some, JsonValue.render]
  simp only [Option.bind_eq_bind, Option.bind_some, hlower]
  rfl

/-- The event of a listable vendor asks for its listing. -/
theorem upserts_of_listable {vendor : VendorProfile} (h : _is_vendor_listable vendor = true)
    (reason : Option String) (pricing : PackagePricing) (id : UUID) (now : Datetime) :
    Upserts (.enqueued id (_projection_event_for_vendor vendor reason pricing).1 vendor.id
      (_projection_event_for_vendor vendor reason pricing).2 now) := by
  rw [_projection_event_for_vendor, if_pos h]
  exact ⟨_, rfl, lists_of_approved rfl rfl rfl⟩

/-- Another key is looked up as before. -/
theorem lookup_replaced {key key' : String} {value : JsonValue} (h : key ≠ key') :
    (payload.filter (·.1 ≠ key') ++ [(key', value)]).lookup key = payload.lookup key := by
  rw [List.lookup_append]
  have hlast : [(key', value)].lookup key = none := by
    rw [List.lookup_cons, beq_false_of_ne h]
    rfl
  rw [hlast, Option.or_none]
  induction payload with
  | nil => rfl
  | cons entry payload ih =>
    by_cases hentry : entry.1 = key'
    · have hne : (key == entry.1) = false := beq_false_of_ne (hentry ▸ h)
      rw [List.filter_cons_of_neg (by simpa using hentry), ih, List.lookup_cons, hne]
    · rw [List.filter_cons_of_pos (by simpa using hentry), List.lookup_cons, List.lookup_cons, ih]

/-- The result of a delivery leaves the payload of the request as it is. -/
theorem syncPayload_result (result : JsonValue) :
    syncPayload (payload.filter (·.1 ≠ "delivery_result") ++ [("delivery_result", result)]) =
      syncPayload payload := by
  have hlookup (key : String) (h : key ≠ "delivery_result") :
      (payload.filter (·.1 ≠ "delivery_result") ++ [("delivery_result", result)]).lookup key =
        payload.lookup key := lookup_replaced h
  unfold syncPayload
  simp only [hlookup _ (by decide : "vendor_id" ≠ "delivery_result"),
    hlookup _ (by decide : "business_name" ≠ "delivery_result"),
    hlookup _ (by decide : "category" ≠ "delivery_result"),
    hlookup _ (by decide : "description" ≠ "delivery_result"),
    hlookup _ (by decide : "service_area" ≠ "delivery_result"),
    hlookup _ (by decide : "cover_image_url" ≠ "delivery_result"),
    hlookup _ (by decide : "approval_status" ≠ "delivery_result"),
    hlookup _ (by decide : "is_verified" ≠ "delivery_result"),
    hlookup _ (by decide : "starting_price" ≠ "delivery_result"),
    hlookup _ (by decide : "min_package_price" ≠ "delivery_result"),
    hlookup _ (by decide : "max_package_price" ≠ "delivery_result"),
    hlookup _ (by decide : "currency" ≠ "delivery_result")]

end Payloads

section Listed

variable {service : Service} {config : Config} {reply : Reply} {sent : Sent} {vendor_id : UUID}

/-- A vendor has a listing. -/
def Service.Listed (service : Service) (vendor_id : UUID) : Prop :=
  ∃ listing ∈ service.listings.rows, listing.vendor_id = vendor_id

instance (service : Service) (vendor_id : UUID) : Decidable (service.Listed vendor_id) :=
  inferInstanceAs (Decidable (∃ _ ∈ _, _))

/-- A deletion leaves the other vendors. -/
theorem listed_perform_delete {id : String} :
    (service.perform (.delete id)).Listed vendor_id ↔
      service.Listed vendor_id ∧ uuidOf id ≠ some vendor_id := by
  have hlistings : (service.perform (.delete id)).listings = ((uuidOf id).map fun id =>
      service.listings.filter fun listing => listing.vendor_id ≠ id).getD service.listings := rfl
  unfold Service.Listed
  rw [hlistings]
  cases uuidOf id with
  | none => exact ⟨fun h => ⟨h, nofun⟩, And.left⟩
  | some deleted =>
    rw [Option.map_some, Option.getD_some]
    simp only [Table.filter, List.mem_filter, decide_eq_true_eq, ne_eq, Option.some.injEq]
    constructor
    · rintro ⟨listing, ⟨hmem, hne⟩, rfl⟩
      exact ⟨⟨listing, hmem, rfl⟩, fun h => hne h.symm⟩
    · rintro ⟨⟨listing, hmem, rfl⟩, hne⟩
      exact ⟨listing, ⟨hmem, fun h => hne h.symm⟩, rfl⟩

/-- The request of an event adds its vendor. -/
theorem listed_perform_upsert {payload : List (String × JsonValue)} {id : UUID}
    (h : Lists payload id) :
    (service.perform (.upsert payload)).Listed vendor_id ↔
      vendor_id = id ∨ service.Listed vendor_id := by
  have hlistings : (service.perform (.upsert payload)).listings =
      (upsertListing payload service.listings).getD service.listings := rfl
  unfold Service.Listed
  rw [hlistings, h, Option.getD_some]
  simp only [Table.mem_upsert_iff]
  constructor
  · rintro ⟨listing, rfl | ⟨hmem, _⟩, rfl⟩
    · exact .inl rfl
    · exact .inr ⟨listing, hmem, rfl⟩
  · rintro (rfl | ⟨listing, hmem, rfl⟩)
    · exact ⟨_, .inl rfl, rfl⟩
    · by_cases hid : listing.vendor_id = id
      · exact ⟨_, .inl rfl, hid.symm⟩
      · exact ⟨listing, .inr ⟨hmem, hid⟩, rfl⟩

/-- What sending a request leaves. -/
theorem send_cases (service : Service) (config : Config) (reply : Reply) (sent : Sent) :
    (service.send config reply sent).2 = service ∨
      (service.send config reply sent).2 = service.perform sent.request ∨
      (service.send config reply sent).2 =
        { service with inFlight := sent :: service.inFlight } := by
  unfold Service.send
  split
  · exact .inl rfl
  · exact .inl rfl
  · split
    · exact .inr (.inl rfl)
    · exact .inl rfl
  · exact .inl rfl
  · exact .inr (.inl rfl)
  · exact .inr (.inr rfl)

/-- With the settings, a request that is answered has been performed. -/
theorem send_ok (h : (service.send .configured reply sent).1 = .ok ()) :
    (service.send .configured reply sent).2 = service.perform sent.request := by
  cases reply with
  | answered =>
    rw [Service.send] at h ⊢
    by_cases happly : (sent.request.apply service.listings).isSome = true
    · rw [if_pos happly]
    · rw [if_neg happly] at h
      cases h
  | _ => cases h

/-- The service names the vendors that have a listing. -/
theorem mem_vendorIds {ids : List String} (h : service.vendorIds config reply = .ok ids)
    {id : String} (hid : id ∈ ids) :
    ∃ vendor_id, service.Listed vendor_id ∧ id = uuidText vendor_id := by
  unfold Service.vendorIds at h
  split at h
  · cases h
    cases hid
  · cases h
  · cases h
    obtain ⟨listing, hmem, rfl⟩ := List.mem_map.mp hid
    exact ⟨listing.vendor_id, ⟨listing, hmem, rfl⟩, rfl⟩
  all_goals cases h

/-- With the settings, it names all of them. -/
theorem listed_mem_vendorIds {ids : List String} (h : service.vendorIds .configured reply = .ok ids)
    (hlisted : service.Listed vendor_id) : uuidText vendor_id ∈ ids := by
  obtain ⟨listing, hmem, rfl⟩ := hlisted
  cases reply with
  | answered =>
    cases h
    exact List.mem_map.mpr ⟨listing, hmem, rfl⟩
  | _ => cases h

/-- A listing that sending a request removes is one that performing it removes. -/
theorem listed_send (h : (service.perform sent.request).Listed vendor_id)
    (hlisted : service.Listed vendor_id) :
    (service.send config reply sent).2.Listed vendor_id := by
  rcases send_cases service config reply sent with heq | heq | heq
  · rwa [heq]
  · rwa [heq]
  · rw [heq]
    exact hlisted

/-- Sending a request leaves at most that request in flight. -/
theorem mem_inFlight_send {other : Sent}
    (h : other ∈ (service.send config reply sent).2.inFlight) :
    other = sent ∨ other ∈ service.inFlight := by
  rcases send_cases service config reply sent with heq | heq | heq
  · exact .inr (heq ▸ h)
  · rw [heq] at h
    exact .inr h
  · rw [heq] at h
    exact List.mem_cons.mp h

end Listed

end Linkapro.Projection
