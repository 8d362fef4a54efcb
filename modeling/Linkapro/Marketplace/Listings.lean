import Mathlib.Data.Fintype.Basic
import Mathlib.Data.Rat.Defs
import Mathlib.Algebra.Order.Ring.Rat
import Linkapro.Lib.Sessions
import Linkapro.Lib.Table
import Linkapro.Shared

/-!
# The listings of the marketplace and their reviews

The tables of the marketplace service and the four operations that write them: the
review repository saves and deletes reviews and recomputes the rating of the
vendor's listing, and the internal endpoint creates, overwrites and deletes
listings. Every operation runs in a session of its own, one SQL statement at a time,
under READ COMMITTED. `φ` is the type of the `Float` columns and `float` the
rounding of an exact average to it.
-/

namespace Linkapro.Marketplace

open Lib

/-- The entity `Review`. Its constructor refuses other ratings. -/
structure Review where
  id : UUID
  vendor_id : UUID
  author_user_id : UUID
  rating : ℤ
  comment : Option String
  is_verified_purchase : Bool
  created_at : Datetime
  rating_valid : 1 ≤ rating ∧ rating ≤ 5
deriving DecidableEq

/-- The columns of a listing that neither identify nor rate it. -/
structure ListingDetails (φ : Type) where
  business_name : String
  category : String
  description : String
  service_area : String
  tags : String
  cover_image_url : Option String
  is_verified : Bool
  approval_status : Option String
  search_rank_score : φ
  starting_price : Option ℚ
  min_package_price : Option ℚ
  max_package_price : Option ℚ
  currency : Option String
deriving DecidableEq

/-- A row of `VendorListingModel`. -/
structure VendorListing (φ : Type) where
  id : UUID
  vendor_id : UUID
  external_id : Option String
  average_rating : φ
  total_reviews : ℕ
  details : ListingDetails φ
deriving DecidableEq

/-- The field `tags` of a request. -/
inductive Tags : Type where
  | none
  | text (value : String)
  | list (items : List String)

/-- `InternalListingUpsertRequest`. -/
structure InternalListingUpsertRequest (φ : Type) where
  vendor_id : UUID
  external_id : Option String
  business_name : String
  category : String
  description : String
  service_area : String
  tags : Tags
  cover_image_url : Option String
  average_rating : φ
  total_reviews : ℕ
  is_verified : Bool
  approval_status : String
  status : Option String
  is_approved : Bool
  search_rank_score : φ
  starting_price : Option ℚ
  min_package_price : Option ℚ
  max_package_price : Option ℚ
  currency : Option String

/-- `_normalize_tags`. -/
def _normalize_tags : Tags → String
  | .none => ""
  | .text value => strip value
  | .list items => ", ".intercalate ((items.map strip).filter (· ≠ ""))

namespace InternalListingUpsertRequest

variable {φ : Type}

/-- The `external_id` that `_upsert_listing_payload` looks for and stores. -/
def externalId (payload : InternalListingUpsertRequest φ) : Option String :=
  match payload.external_id with
  | some text => if text = "" then none else some (strip text)
  | none => none

/-- Whether the payload asks for a listing. -/
def isApproved (payload : InternalListingUpsertRequest φ) : Bool :=
  let approval_status :=
    if payload.approval_status ≠ "" then payload.approval_status else payload.status.getD ""
  payload.is_approved && lower (strip approval_status) = "approved"

/-- The columns of `listing_data` that neither identify nor rate the listing. -/
def details (payload : InternalListingUpsertRequest φ) : ListingDetails φ where
  business_name := payload.business_name
  category := payload.category
  description := payload.description
  service_area := payload.service_area
  tags := _normalize_tags payload.tags
  cover_image_url := payload.cover_image_url
  is_verified := payload.is_verified
  approval_status := some "approved"
  search_rank_score := payload.search_rank_score
  starting_price := payload.starting_price
  min_package_price := payload.min_package_price
  max_package_price := payload.max_package_price
  currency := payload.currency

/-- The row that an approved payload creates. -/
def listing (payload : InternalListingUpsertRequest φ) (id : UUID) : VendorListing φ where
  id
  vendor_id := payload.vendor_id
  external_id := payload.externalId
  average_rating := payload.average_rating
  total_reviews := payload.total_reviews
  details := payload.details

end InternalListingUpsertRequest

section Writes

variable {φ : Type} [DecidableEq φ]

/-- A column after an UPDATE. The session writes only the columns whose value differs
from the one it has loaded. -/
def column {α : Type} [DecidableEq α] (loaded new stored : α) : α :=
  if new = loaded then stored else new

@[simp] theorem column_loaded {α : Type} [DecidableEq α] {loaded stored : α} :
    column loaded loaded stored = stored := by
  simp [column]

/-- A column that had not changed since it was loaded has the new value. -/
@[simp] theorem column_unchanged {α : Type} [DecidableEq α] {new stored : α} :
    column stored new stored = new := by
  unfold column
  split
  · next h => exact h.symm
  · rfl

/-- The other columns of a row after an UPDATE. -/
def ListingDetails.column (loaded new stored : ListingDetails φ) : ListingDetails φ where
  business_name := Marketplace.column loaded.business_name new.business_name stored.business_name
  category := Marketplace.column loaded.category new.category stored.category
  description := Marketplace.column loaded.description new.description stored.description
  service_area := Marketplace.column loaded.service_area new.service_area stored.service_area
  tags := Marketplace.column loaded.tags new.tags stored.tags
  cover_image_url :=
    Marketplace.column loaded.cover_image_url new.cover_image_url stored.cover_image_url
  is_verified := Marketplace.column loaded.is_verified new.is_verified stored.is_verified
  approval_status :=
    Marketplace.column loaded.approval_status new.approval_status stored.approval_status
  search_rank_score :=
    Marketplace.column loaded.search_rank_score new.search_rank_score stored.search_rank_score
  starting_price :=
    Marketplace.column loaded.starting_price new.starting_price stored.starting_price
  min_package_price :=
    Marketplace.column loaded.min_package_price new.min_package_price stored.min_package_price
  max_package_price :=
    Marketplace.column loaded.max_package_price new.max_package_price stored.max_package_price
  currency := Marketplace.column loaded.currency new.currency stored.currency

namespace VendorListing

/-- The stored row after `_upsert_listing_payload` has set the attributes of the row it
loaded. A payload without `external_id` leaves that column alone. -/
def overwrite (payload : InternalListingUpsertRequest φ) (loaded stored : VendorListing φ) :
    VendorListing φ where
  id := stored.id
  vendor_id := column loaded.vendor_id payload.vendor_id stored.vendor_id
  external_id :=
    match payload.externalId with
    | some external_id => column loaded.external_id (some external_id) stored.external_id
    | none => stored.external_id
  average_rating := column loaded.average_rating payload.average_rating stored.average_rating
  total_reviews := column loaded.total_reviews payload.total_reviews stored.total_reviews
  details := loaded.details.column payload.details stored.details

/-- The stored row after `_update_vendor_rating` has set the attributes of the row it
loaded. -/
def rate (stored : VendorListing φ) (average_rating : φ) (total_reviews : ℕ)
    (loaded : VendorListing φ) : VendorListing φ :=
  { stored with
    average_rating := column loaded.average_rating average_rating stored.average_rating
    total_reviews := column loaded.total_reviews total_reviews stored.total_reviews }

end VendorListing

end Writes

section Statistics

/-- The reviews of a vendor. -/
def ofVendor (vendor_id : UUID) (reviews : List Review) : List Review :=
  reviews.filter fun review => review.vendor_id = vendor_id

/-- `SELECT avg(rating)`, which is NULL without rows. -/
def avg (reviews : List Review) : Option ℚ :=
  if reviews = [] then none
  else some (((reviews.map (·.rating)).sum : ℤ) / (reviews.length : ℚ))

variable {φ : Type} (float : ℚ → φ)

/-- `get_average_rating`. -/
def get_average_rating (vendor_id : UUID) (reviews : List Review) : φ :=
  match avg (ofVendor vendor_id reviews) with
  | some average => if average = 0 then float 0 else float average
  | none => float 0

/-- The count of `_update_vendor_rating`. -/
def countReviews (vendor_id : UUID) (reviews : List Review) : ℕ :=
  (ofVendor vendor_id reviews).length

end Statistics

/-- The uncommitted change of a session to the reviews. -/
inductive Change : Type where
  | insert (review : Review)
  | delete (review : Review)
deriving DecidableEq

namespace Change

/-- The review that is inserted or deleted. -/
def review : Change → Review
  | insert review => review
  | delete review => review

/-- The reviews with the change. -/
def apply : Change → List Review → List Review
  | insert review, reviews => reviews ++ [review]
  | delete review, reviews => reviews.filter fun other => other.id ≠ review.id

end Change

/-- The reviews as a session sees them, with its own uncommitted change if it has one. -/
def view (change : Option Change) (reviews : List Review) : List Review :=
  match change with
  | some change => change.apply reviews
  | none => reviews

/-- A request to the marketplace service that writes. -/
inductive Operation (φ : Type) : Type where
  | saveReview (review : Review)
  | deleteReview (review_id : UUID)
  | upsertListing (payload : InternalListingUpsertRequest φ)
  | deleteListing (vendor_id : UUID)

/-- How far a session has come, with what it has read. -/
inductive Phase (φ : Type) : Type where
  /-- No operation is in progress. -/
  | idle
  /-- Before the INSERT of a review. -/
  | saving (review : Review)
  /-- Before `session.get` of the review to delete. -/
  | getting (review_id : UUID)
  /-- Before the DELETE of a review. -/
  | deleting (review : Review)
  /-- Before the average is read. The DELETE of a review that is gone has changed nothing. -/
  | flushed (vendor_id : UUID) (change : Option Change)
  /-- Before the count is read. -/
  | averaged (vendor_id : UUID) (change : Option Change) (average : φ)
  /-- Before the listing is read. -/
  | counted (vendor_id : UUID) (change : Option Change) (average : φ) (total : ℕ)
  /-- Before the commit of a review operation. -/
  | rated (vendor_id : UUID) (change : Option Change) (average : φ) (total : ℕ)
      (listing : Option (VendorListing φ))
  /-- Before the listing is read by its vendor. -/
  | upserting (payload : InternalListingUpsertRequest φ)
  /-- Before the listing is read by its external id. -/
  | upsertingExternal (payload : InternalListingUpsertRequest φ) (external_id : String)
  /-- Before the commit of an upsert. -/
  | upsertLoaded (payload : InternalListingUpsertRequest φ) (listing : Option (VendorListing φ))
  /-- Before the listing to delete is read. -/
  | removing (vendor_id : UUID)
  /-- Before the commit of a listing deletion. -/
  | removingLoaded (listing : VendorListing φ)

namespace Phase

variable {φ : Type}

/-- The uncommitted change of a session. -/
def change : Phase φ → Option Change
  | flushed _ change => change
  | averaged _ change _ => change
  | counted _ change _ _ => change
  | rated _ change _ _ _ => change
  | _ => none

/-- The vendor whose average the session has read and will store. -/
def hasAverage (vendor_id : UUID) : Phase φ → Bool
  | averaged v _ _ => v = vendor_id
  | counted v _ _ _ => v = vendor_id
  | rated v _ _ _ _ => v = vendor_id
  | _ => false

end Phase

/-- The committed rows. -/
structure Store (φ : Type) where
  listings : List (VendorListing φ)
  reviews : List Review
  /-- The reviews that `post_review` has made. Their ids come from `uuid.uuid4()`, which
  returns no value twice. -/
  posted : Table Review.id

/-- The service before any request. -/
def Store.empty {φ : Type} : Store φ where
  listings := []
  reviews := []
  posted := .empty

/-- What happens on the turn of a session. -/
inductive Event (φ : Type) : Type where
  /-- A request arrives. -/
  | start (operation : Operation φ)
  /-- The next statement is performed. A listing that it inserts gets this id. -/
  | next (id : UUID)
  /-- The request ends with an error or a crash, and its transaction is rolled back. -/
  | abort

section Statements

variable {ι φ : Type} [Fintype ι] [DecidableEq ι] [DecidableEq φ]

/-- The sessions of the marketplace database. -/
abbrev Service (ι φ : Type) : Type := Sessions ι (Store φ) (Phase φ)

/-- The first phase of a request. -/
def begin (store : Store φ) : Operation φ → Store φ × Phase φ
  | .saveReview review =>
    if review.id ∈ store.posted.rows.map Review.id then (store, .idle)
    else ({ store with posted := store.posted.upsert review }, .saving review)
  | .deleteReview review_id => (store, .getting review_id)
  | .upsertListing payload => (store, .upserting payload)
  | .deleteListing vendor_id => (store, .removing vendor_id)

/-- Another session has an uncommitted change to a review of the vendor. It holds locks
that keep the listing of the vendor from being deleted or given to another vendor. -/
def Pinned (s : Service ι φ) (i : ι) (vendor_id : UUID) : Prop :=
  ∃ j, j ≠ i ∧ ∃ change ∈ (s.phase j).change, change.review.vendor_id = vendor_id

instance (s : Service ι φ) (i : ι) (vendor_id : UUID) : Decidable (Pinned s i vendor_id) :=
  inferInstanceAs (Decidable (∃ j, j ≠ i ∧ ∃ change ∈ (s.phase j).change, _))

/-- Another session has deleted the review and not yet committed. -/
def Deleting (s : Service ι φ) (i : ι) (review : Review) : Prop :=
  ∃ j, j ≠ i ∧ (s.phase j).change = some (.delete review)

instance (s : Service ι φ) (i : ι) (review : Review) : Decidable (Deleting s i review) :=
  inferInstanceAs (Decidable (∃ j, j ≠ i ∧ _))

/-- The listing of a vendor. -/
def findVendor (vendor_id : UUID) (listings : List (VendorListing φ)) :
    Option (VendorListing φ) :=
  listings.find? fun listing => listing.vendor_id = vendor_id

/-- The INSERT of a review, with its primary key and its foreign key. -/
def insertReview (store : Store φ) (review : Review) : Phase φ :=
  if review.id ∈ store.reviews.map Review.id then .idle
  else if (findVendor review.vendor_id store.listings).isNone then .idle
  else .flushed review.vendor_id (some (.insert review))

/-- The commit of a review operation. The UPDATE of the listing is left out when it would
change nothing, and it fails when the row is gone. -/
def commitRating (store : Store φ) (change : Option Change) (average : φ) (total : ℕ)
    (listing : Option (VendorListing φ)) : Store φ :=
  let reviews := view change store.reviews
  match listing with
  | none => { store with reviews }
  | some loaded =>
    if average = loaded.average_rating ∧ total = loaded.total_reviews then { store with reviews }
    else if loaded.id ∈ store.listings.map (·.id) then
      { store with
        reviews
        listings := store.listings.map fun row =>
          if row.id = loaded.id then row.rate average total loaded else row }
    else store

/-- The INSERT of a listing, with its three unique columns. -/
def insertListing (store : Store φ) (listing : VendorListing φ) : Store φ :=
  if listing.id ∈ store.listings.map (·.id) ∨
      listing.vendor_id ∈ store.listings.map (·.vendor_id) ∨
      ∃ row ∈ store.listings, row.external_id.isSome ∧ row.external_id = listing.external_id then
    store
  else { store with listings := store.listings ++ [listing] }

/-- The stored row with a primary key. -/
def findRow (id : UUID) (listings : List (VendorListing φ)) : Option (VendorListing φ) :=
  listings.find? fun row => row.id = id

/-- The commit of an upsert that overwrites a listing. Giving it to another vendor waits
for uncommitted changes to reviews of the old one, and fails while the old one has
reviews. -/
def updateListing (s : Service ι φ) (i : ι) (payload : InternalListingUpsertRequest φ)
    (loaded : VendorListing φ) : Store φ × Phase φ :=
  match findRow loaded.id s.store.listings with
  | none => (s.store, .idle)
  | some row =>
    let new := VendorListing.overwrite payload loaded row
    if new.vendor_id ≠ row.vendor_id ∧ Pinned s i row.vendor_id then (s.store, s.phase i)
    else if new.vendor_id ≠ row.vendor_id ∧ ofVendor row.vendor_id s.store.reviews ≠ [] then
      (s.store, .idle)
    else if ∃ other ∈ s.store.listings, other.id ≠ row.id ∧
        (other.vendor_id = new.vendor_id ∨
          other.external_id.isSome ∧ other.external_id = new.external_id) then
      (s.store, .idle)
    else
      ({ s.store with
          listings := s.store.listings.map fun row =>
            if row.id = loaded.id then VendorListing.overwrite payload loaded row else row },
        .idle)

/-- The commit of a listing deletion, which waits and fails in the same way. A row that is
gone is no error. -/
def removeListing (s : Service ι φ) (i : ι) (loaded : VendorListing φ) : Store φ × Phase φ :=
  match findRow loaded.id s.store.listings with
  | none => (s.store, .idle)
  | some row =>
    if Pinned s i row.vendor_id then (s.store, s.phase i)
    else if ofVendor row.vendor_id s.store.reviews ≠ [] then (s.store, .idle)
    else
      ({ s.store with listings := s.store.listings.filter fun row => row.id ≠ loaded.id }, .idle)

/-- The end of `_upsert_listing_payload`. -/
def commitUpsert (s : Service ι φ) (i : ι) (id : UUID)
    (payload : InternalListingUpsertRequest φ) :
    Option (VendorListing φ) → Store φ × Phase φ
  | none =>
    (if payload.isApproved then insertListing s.store (payload.listing id) else s.store, .idle)
  | some loaded =>
    if payload.isApproved then updateListing s i payload loaded else removeListing s i loaded

/-- The next statement of an operation, with the phase after it. -/
def next (float : ℚ → φ) (s : Service ι φ) (i : ι) (id : UUID) : Store φ × Phase φ :=
  match s.phase i with
  | .idle => (s.store, .idle)
  | .saving review => (s.store, insertReview s.store review)
  | .getting review_id =>
    match s.store.reviews.find? fun review => review.id = review_id with
    | none => (s.store, .idle)
    | some review => (s.store, .deleting review)
  | .deleting review =>
    if Deleting s i review then (s.store, .deleting review)
    else if review.id ∈ s.store.reviews.map Review.id then
      (s.store, .flushed review.vendor_id (some (.delete review)))
    else (s.store, .flushed review.vendor_id none)
  | .flushed vendor_id change =>
    (s.store, .averaged vendor_id change
      (get_average_rating float vendor_id (view change s.store.reviews)))
  | .averaged vendor_id change average =>
    (s.store, .counted vendor_id change average
      (countReviews vendor_id (view change s.store.reviews)))
  | .counted vendor_id change average total =>
    (s.store, .rated vendor_id change average total (findVendor vendor_id s.store.listings))
  | .rated _ change average total listing =>
    (commitRating s.store change average total listing, .idle)
  | .upserting payload =>
    match findVendor payload.vendor_id s.store.listings, payload.externalId with
    | some listing, _ => (s.store, .upsertLoaded payload (some listing))
    | none, none => (s.store, .upsertLoaded payload none)
    | none, some external_id =>
      if external_id = "" then (s.store, .upsertLoaded payload none)
      else (s.store, .upsertingExternal payload external_id)
  | .upsertingExternal payload external_id =>
    (s.store, .upsertLoaded payload
      (s.store.listings.find? fun listing => listing.external_id = some external_id))
  | .upsertLoaded payload listing => commitUpsert s i id payload listing
  | .removing vendor_id =>
    match findVendor vendor_id s.store.listings with
    | none => (s.store, .idle)
    | some listing => (s.store, .removingLoaded listing)
  | .removingLoaded listing => removeListing s i listing

/-- The turn of a session. A request is started only when none is in progress. -/
def statement (float : ℚ → φ) : Statement ι (Store φ) (Phase φ) (Event φ) := fun s i event =>
  match event with
  | .start operation =>
    match s.phase i with
    | .idle => begin s.store operation
    | phase => (s.store, phase)
  | .next id => next float s i id
  | .abort => (s.store, .idle)

end Statements

end Linkapro.Marketplace
