import Mathlib.Data.Rat.Floor
import Linkapro.Lib.Decimals
import Linkapro.Marketplace.Listings

/-!
# The search of the marketplace and its cached answers

A search normalises its criteria, counts and reads the listings, and turns them into an
answer. The answer is cached as JSON, in which the prices are texts, under a key that
starts with the version of the cache. A Redis text is represented by the JSON value that
it is the text of.
-/

namespace Linkapro.Marketplace

open Lib

def MAX_PAGE_SIZE : ℤ := 50
def MAX_PAGE_NUMBER : ℤ := 1000
def CACHE_NAMESPACE : String := "marketplace:search"
def RATE_LIMIT_NAMESPACE : String := "marketplace:search:rate"

/-- A JSON value. -/
inductive Json (φ : Type) : Type where
  | null
  | bool (value : Bool)
  | int (value : ℤ)
  | float (value : φ)
  | text (value : String)
  | list (items : List (Json φ))
  | dict (fields : List (String × Json φ))

/-- `MarketplaceSearchCriteria`. -/
structure MarketplaceSearchCriteria (φ : Type) where
  query : Option String
  category : Option String
  location : Option String
  min_rating : Option φ
  min_price : Option Decimal
  max_price : Option Decimal
  page : ℤ
  page_size : ℤ

/-- `VendorListingDTO`. -/
structure VendorListingDTO (φ : Type) where
  id : String
  business_name : String
  category : String
  description : String
  service_area : String
  cover_image_url : Option String
  average_rating : φ
  total_reviews : ℤ
  is_verified : Bool
  starting_price : Option Decimal
  min_package_price : Option Decimal
  max_package_price : Option Decimal
  currency : Option String
deriving DecidableEq

/-- `SearchResultDTO`. -/
structure SearchResultDTO (φ : Type) where
  items : List (VendorListingDTO φ)
  total : ℤ
  page : ℤ
  page_size : ℤ
  total_pages : ℤ
deriving DecidableEq

/-- `MarketplaceSearchResultPayload`. -/
structure MarketplaceSearchResultPayload (φ : Type) where
  items : List (List (String × Json φ))
  total : ℤ
  page : ℤ
  page_size : ℤ
  total_pages : ℤ

/-- What the search is configured with, and what it asks of Python and of PostgreSQL. -/
structure SearchDeployment (φ : Type) where
  /-- `ch.isprintable()`. -/
  isPrintable : Char → Bool
  /-- `hashlib.sha256(…).hexdigest()` of the text of a JSON value. -/
  digest : Json φ → String
  /-- The conditions of the search. -/
  selects : MarketplaceSearchCriteria φ → VendorListing φ → Bool
  /-- The order of the search: by rank and then by id, both descending. -/
  precedes : MarketplaceSearchCriteria φ → VendorListing φ → VendorListing φ → Bool
  ttl_seconds : ℕ
  rate_limit_requests : ℕ
  rate_limit_window_seconds : ℕ

section Normalisation

variable {φ : Type}

/-- Runs of white space become one space each, unless white space went before. -/
def collapse : Bool → List Char → List Char
  | _, [] => []
  | inSpace, c :: text =>
    if isSpace c then
      if inSpace then collapse true text else ' ' :: collapse true text
    else c :: collapse false text

/-- `re.sub(r"\s+", " ", value.strip()).lower()`. -/
def normalized (value : String) : String :=
  lower (String.ofList (collapse false (strip value).toList))

/-- `MarketplaceSearchCache._normalize`. -/
def _normalize (value : Option String) : Option String :=
  ((value.filter fun value => value ≠ "").map normalized).filter fun value => value ≠ ""

/-- `MarketplaceSearchService._normalize_text`, with `none` for its `ValueError`. -/
def _normalize_text (deployment : SearchDeployment φ) (value : Option String) :
    Option (Option String) :=
  match value.filter fun value => value ≠ "" with
  | none => some none
  | some value =>
    if value.toList.all deployment.isPrintable then some (_normalize (some value)) else none

/-- `_normalize_criteria`, with `none` for a `ValueError`. -/
def _normalize_criteria (deployment : SearchDeployment φ)
    (criteria : MarketplaceSearchCriteria φ) : Option (MarketplaceSearchCriteria φ) := do
  let query ← _normalize_text deployment criteria.query
  let category ← _normalize_text deployment criteria.category
  let location ← _normalize_text deployment criteria.location
  some { criteria with
    query, category, location
    page := max 1 (min criteria.page MAX_PAGE_NUMBER)
    page_size := max 1 (min criteria.page_size MAX_PAGE_SIZE) }

/-- An optional text as JSON. -/
def optionalText : Option String → Json φ
  | some value => .text value
  | none => .null

/-- An optional price as JSON. -/
def priceText : Option Decimal → Json φ
  | some price => .text price.str
  | none => .null

/-- The dictionary `normalized` of `build_cache_key`, with its keys sorted. -/
def keyPayload (criteria : MarketplaceSearchCriteria φ) : Json φ :=
  .dict [("category", optionalText (_normalize criteria.category)),
    ("location", optionalText (_normalize criteria.location)),
    ("max_price", priceText criteria.max_price),
    ("min_price", priceText criteria.min_price),
    ("min_rating", match criteria.min_rating with
      | some rating => .float rating
      | none => .null),
    ("page", .int criteria.page),
    ("page_size", .int criteria.page_size),
    ("query", optionalText (_normalize criteria.query))]

/-- `build_cache_key`. -/
def build_cache_key (deployment : SearchDeployment φ) (criteria : MarketplaceSearchCriteria φ)
    (version : ℕ) : String :=
  CACHE_NAMESPACE ++ ":v" ++ version.repr ++ ":" ++ deployment.digest (keyPayload criteria)

/-- The key of the rate limit. -/
def rateLimitKey (client_id : String) (window_bucket : ℤ) : String :=
  RATE_LIMIT_NAMESPACE ++ ":" ++ client_id ++ ":" ++ toString window_bucket

/-- Keys of different versions differ, whatever the criteria. -/
theorem version_of_build_cache_key {deployment : SearchDeployment φ}
    {criteria criteria' : MarketplaceSearchCriteria φ} {version version' : ℕ}
    (h : build_cache_key deployment criteria version =
      build_cache_key deployment criteria' version') : version = version' := by
  have htext (version : ℕ) (digest : String) :
      (CACHE_NAMESPACE ++ ":v" ++ version.repr ++ ":" ++ digest).toList =
        (CACHE_NAMESPACE ++ ":v").toList ++ (Nat.toDigits 10 version ++ ':' :: digest.toList) := by
    simp [String.toList_append, Nat.toList_repr]
  have hdigits (version : ℕ) (digest : String) :
      (Nat.toDigits 10 version ++ ':' :: digest.toList).takeWhile Char.isDigit =
        Nat.toDigits 10 version :=
    (Decimal.takeWhile_isDigit (fun c hc => Nat.isDigit_of_mem_toDigits (by decide) (by decide) hc)
      (by rintro c ⟨⟩; rfl)).1
  have hlists := congrArg String.toList h
  unfold build_cache_key at hlists
  rw [htext, htext] at hlists
  have hsame := congrArg (List.takeWhile Char.isDigit) (List.append_cancel_left hlists)
  rw [hdigits, hdigits] at hsame
  rw [← @Nat.ofDigitChars_ten_toDigits version, hsame, Nat.ofDigitChars_ten_toDigits]

end Normalisation

section Search

variable {φ : Type}

/-- A value of a column `Numeric(12, 2)`. -/
def numeric (price : ℚ) : Decimal where
  negative := price < 0
  coefficient := (price * 100).floor.natAbs
  exponent := -2

/-- `_listing_to_dto`. -/
def _listing_to_dto (listing : VendorListing φ) : VendorListingDTO φ where
  id := uuidText listing.vendor_id
  business_name := listing.details.business_name
  category := listing.details.category
  description := listing.details.description
  service_area := listing.details.service_area
  cover_image_url := listing.details.cover_image_url
  average_rating := listing.average_rating
  total_reviews := listing.total_reviews
  is_verified := listing.details.is_verified
  starting_price := listing.details.starting_price.map numeric
  min_package_price := listing.details.min_package_price.map numeric
  max_package_price := listing.details.max_package_price.map numeric
  currency := listing.details.currency

/-- The first statement of the repository's `search`. -/
def count (deployment : SearchDeployment φ) (criteria : MarketplaceSearchCriteria φ)
    (listings : List (VendorListing φ)) : ℕ :=
  (listings.filter (deployment.selects criteria)).length

/-- The second statement of the repository's `search`. -/
def page (deployment : SearchDeployment φ) (criteria : MarketplaceSearchCriteria φ)
    (limit offset : ℕ) (listings : List (VendorListing φ)) : List (VendorListing φ) :=
  (((listings.filter (deployment.selects criteria)).mergeSort
    (deployment.precedes criteria)).drop offset).take limit

/-- `_execute_search` after the count. -/
def searchResult (deployment : SearchDeployment φ) (criteria : MarketplaceSearchCriteria φ)
    (total : ℕ) (listings : List (VendorListing φ)) : SearchResultDTO φ :=
  let limit : ℤ := max 1 (min criteria.page_size MAX_PAGE_SIZE)
  let offset : ℤ := max 0 ((criteria.page - 1) * limit)
  { items := (page deployment criteria limit.toNat offset.toNat listings).map _listing_to_dto
    total := total
    page := criteria.page
    page_size := limit
    total_pages := if total = 0 then 0 else (total + limit - 1) / limit }

end Search

section Encoding

variable {φ : Type}

/-- One item of `_serialize_result`: the dictionary of the DTO, in which the prices are texts. -/
def serializeListing (listing : VendorListingDTO φ) : List (String × Json φ) :=
  [("id", .text listing.id),
    ("business_name", .text listing.business_name),
    ("category", .text listing.category),
    ("description", .text listing.description),
    ("service_area", .text listing.service_area),
    ("cover_image_url", optionalText listing.cover_image_url),
    ("average_rating", .float listing.average_rating),
    ("total_reviews", .int listing.total_reviews),
    ("is_verified", .bool listing.is_verified),
    ("starting_price", priceText listing.starting_price),
    ("min_package_price", priceText listing.min_package_price),
    ("max_package_price", priceText listing.max_package_price),
    ("currency", optionalText listing.currency)]

/-- `_serialize_result`. -/
def _serialize_result (result : SearchResultDTO φ) : Json φ :=
  .dict [("items", .list (result.items.map fun item => .dict (serializeListing item))),
    ("total", .int result.total),
    ("page", .int result.page),
    ("page_size", .int result.page_size),
    ("total_pages", .int result.total_pages)]

namespace Json

def asText : Json φ → Option String
  | text value => some value
  | _ => none

def asOptionalText : Json φ → Option (Option String)
  | null => some none
  | text value => some (some value)
  | _ => none

def asInt : Json φ → Option ℤ
  | int value => some value
  | _ => none

def asFloat : Json φ → Option φ
  | float value => some value
  | _ => none

def asBool : Json φ → Option Bool
  | bool value => some value
  | _ => none

def asDict : Json φ → Option (List (String × Json φ))
  | dict fields => some fields
  | _ => none

def asList : Json φ → Option (List (Json φ))
  | list items => some items
  | _ => none

/-- `Decimal(str(value))` unless the value is missing. -/
def asPrice : Json φ → Option (Option Decimal)
  | null => some none
  | text value => (Decimal.ofText value).map some
  | _ => none

end Json

/-- The arguments of a call `f(**fields)`, which refuses other names. -/
def keywords (names : List String) (fields : List (String × Json φ)) :
    Option (String → Option (Json φ)) :=
  if fields.all fun field => field.1 ∈ names then some fun name => fields.lookup name else none

/-- The fields of `MarketplaceSearchResultPayload`. -/
def payloadFields : List String := ["items", "total", "page", "page_size", "total_pages"]

/-- `MarketplaceSearchResultPayload(**json.loads(raw))`, with `none` for an error. -/
def readPayload (raw : Json φ) : Option (MarketplaceSearchResultPayload φ) := do
  let fields ← raw.asDict
  let argument ← keywords payloadFields fields
  let items ← (← argument "items").asList
  some {
    items := ← items.mapM Json.asDict
    total := ← (← argument "total").asInt
    page := ← (← argument "page").asInt
    page_size := ← (← argument "page_size").asInt
    total_pages := ← (← argument "total_pages").asInt }

/-- The fields of `VendorListingDTO`. -/
def listingFields : List String :=
  ["id", "business_name", "category", "description", "service_area", "cover_image_url",
    "average_rating", "total_reviews", "is_verified", "starting_price", "min_package_price",
    "max_package_price", "currency"]

/-- `VendorListingDTO(**converted)`, with `none` for an error. -/
def readListing (item : List (String × Json φ)) : Option (VendorListingDTO φ) := do
  let argument ← keywords listingFields item
  some {
    id := ← (← argument "id").asText
    business_name := ← (← argument "business_name").asText
    category := ← (← argument "category").asText
    description := ← (← argument "description").asText
    service_area := ← (← argument "service_area").asText
    cover_image_url := ← (← argument "cover_image_url").asOptionalText
    average_rating := ← (← argument "average_rating").asFloat
    total_reviews := ← (← argument "total_reviews").asInt
    is_verified := ← (← argument "is_verified").asBool
    starting_price := ← ((argument "starting_price").getD .null).asPrice
    min_package_price := ← ((argument "min_package_price").getD .null).asPrice
    max_package_price := ← ((argument "max_package_price").getD .null).asPrice
    currency := ← ((argument "currency").getD .null).asOptionalText }

/-- `_payload_to_result`. -/
def _payload_to_result (payload : MarketplaceSearchResultPayload φ) :
    Option (SearchResultDTO φ) := do
  some {
    items := ← payload.items.mapM readListing
    total := payload.total
    page := payload.page
    page_size := payload.page_size
    total_pages := payload.total_pages }

/-- The answer that a search makes of a cached text. -/
def readResult (raw : Json φ) : Option (SearchResultDTO φ) := do
  _payload_to_result (← readPayload raw)

@[simp] theorem asOptionalText_optionalText {value : Option String} :
    (optionalText value : Json φ).asOptionalText = some value := by
  cases value with
  | none => rfl
  | some value => rfl

@[simp] theorem asPrice_priceText {price : Option Decimal} :
    (priceText price : Json φ).asPrice = some price := by
  cases price with
  | none => rfl
  | some price => simp [priceText, Json.asPrice]

/-- A cached listing is read back as it was. -/
@[simp] theorem readListing_serializeListing {listing : VendorListingDTO φ} :
    readListing (serializeListing listing) = some listing := by
  have hread : readListing (serializeListing listing) =
      ((optionalText listing.cover_image_url : Json φ).asOptionalText.bind fun cover_image_url =>
        (priceText listing.starting_price : Json φ).asPrice.bind fun starting_price =>
        (priceText listing.min_package_price : Json φ).asPrice.bind fun min_package_price =>
        (priceText listing.max_package_price : Json φ).asPrice.bind fun max_package_price =>
        (optionalText listing.currency : Json φ).asOptionalText.bind fun currency =>
          some { listing with
            cover_image_url, starting_price, min_package_price, max_package_price, currency }) :=
    rfl
  rw [hread]
  simp only [asOptionalText_optionalText, asPrice_priceText, Option.bind_some]

/-- Reading every item succeeds when reading each of them does. -/
theorem mapM_map_eq_some {α β γ : Type} {write : α → β} (read : β → Option γ) {value : α → γ}
    (h : ∀ item, read (write item) = some (value item)) (items : List α) :
    (items.map write).mapM read = some (items.map value) := by
  induction items with
  | nil => rfl
  | cons item items ih =>
    rw [List.map_cons, List.mapM_cons, h, ih]
    rfl

/-- A cached answer is read back as it was. -/
theorem readResult_serialize_result {result : SearchResultDTO φ} :
    readResult (_serialize_result result) = some result := by
  have hpayload : readPayload (_serialize_result result) = some {
      items := result.items.map serializeListing
      total := result.total
      page := result.page
      page_size := result.page_size
      total_pages := result.total_pages } := by
    have hread : readPayload (_serialize_result result) =
        (((result.items.map fun item => Json.dict (serializeListing item)).mapM Json.asDict).bind
          fun items => some {
            items
            total := result.total
            page := result.page
            page_size := result.page_size
            total_pages := result.total_pages }) := rfl
    rw [hread, mapM_map_eq_some Json.asDict fun _ => rfl]
    rfl
  have hitems : (result.items.map serializeListing).mapM readListing = some result.items := by
    rw [mapM_map_eq_some readListing fun _ => readListing_serializeListing]
    simp
  simp only [readResult, hpayload, _payload_to_result, hitems, Option.bind_eq_bind,
    Option.bind_some]

end Encoding

end Linkapro.Marketplace
