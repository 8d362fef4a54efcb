import Linkapro.Lib.Binary64
import Linkapro.Lib.Pages
import Linkapro.Marketplace.SearchCache

/-!
# The pages of a search

The search of the listing repository: the conditions of its `WHERE`, the expression it ranks
by, and the limit and the offset, which the service computes and the repository clamps again.
The pages of a search of one table, put together, are the matching listings in the order of
their rank, up to the last page that a search can ask for.
-/

namespace Linkapro.Marketplace

open Lib

/-- What the search takes from the database: its texts, its full text search and its floats. -/
structure SearchEngine (φ : Type) where
  uses_postgresql : Bool
  /-- The SQL function `lower`. -/
  lower : String → String
  /-- The SQL operator `LIKE`, a text and a pattern. -/
  like : String → String → Bool
  /-- `search_vector @@ plainto_tsquery('simple', query)`. -/
  tsMatches : String → VendorListing φ → Bool
  /-- `ts_rank_cd(search_vector, plainto_tsquery('simple', query))`. -/
  ts_rank_cd : String → VendorListing φ → φ
  ranking : Ranking φ
  literal : ℚ → φ
  add : φ → φ → φ
  mul : φ → φ → φ

section Statements

variable {φ : Type}

/-- `value.split()`. -/
def split (value : String) : List String :=
  ((value.toList.splitOnP isSpace).filter fun word => word ≠ []).map String.ofList

/-- `_sanitize_query` and `_sanitize_filter`, which cut off at different lengths. -/
def sanitized (length : ℕ) (value : Option String) : Option String :=
  ((value.filter fun value => value ≠ "").map fun value =>
    let normalized := Linkapro.lower (" ".intercalate (split (strip value)))
    String.ofList (normalized.toList.take length)).filter fun value => value ≠ ""

def _sanitize_query (query : Option String) : Option String := sanitized 128 query

def _sanitize_filter (value : Option String) : Option String := sanitized 64 value

/-- The pattern `%value%`. -/
def containing (value : String) : String := "%" ++ value ++ "%"

namespace SearchEngine

variable (engine : SearchEngine φ)

/-- The condition on the text of the query. -/
def matchesQuery (query : String) (listing : VendorListing φ) : Bool :=
  if engine.uses_postgresql then engine.tsMatches query listing
  else
    engine.like (engine.lower listing.details.business_name) (containing query) ||
      engine.like (engine.lower listing.details.description) (containing query) ||
      engine.like (engine.lower listing.details.category) (containing query) ||
      engine.like (engine.lower listing.details.service_area) (containing query)

/-- The list `conditions`, a condition on a missing price being not fulfilled. -/
def conditions (criteria : MarketplaceSearchCriteria φ) (listing : VendorListing φ) : List Bool :=
  [decide (listing.details.approval_status = some "approved"), listing.details.is_verified] ++
    (match _sanitize_query criteria.query with
      | some query => [engine.matchesQuery query listing]
      | none => []) ++
    (match _sanitize_filter criteria.category with
      | some category => [decide (engine.lower listing.details.category = category)]
      | none => []) ++
    (match _sanitize_filter criteria.location with
      | some location =>
        [engine.like (engine.lower listing.details.service_area) (containing location)]
      | none => []) ++
    (match criteria.min_rating with
      | some min_rating => [engine.ranking.atLeast listing.average_rating min_rating]
      | none => []) ++
    (match criteria.min_price with
      | some min_price =>
        [listing.details.min_package_price.any fun price => Binary64.valueOf min_price ≤ price]
      | none => []) ++
    match criteria.max_price with
      | some max_price =>
        [listing.details.min_package_price.any fun price => price ≤ Binary64.valueOf max_price]
      | none => []

/-- `where_clause`. -/
def whereClause (criteria : MarketplaceSearchCriteria φ) (listing : VendorListing φ) : Bool :=
  (engine.conditions criteria listing).all id

/-- The rank of the text of the query. -/
def textRank (query_text : Option String) (listing : VendorListing φ) : φ :=
  match query_text with
  | some query =>
    if engine.uses_postgresql then engine.ts_rank_cd query listing
    else if engine.like (engine.lower listing.details.business_name) (containing query) then
      engine.literal 1
    else if engine.like (engine.lower listing.details.description) (containing query) then
      engine.literal (1 / 2)
    else engine.literal 0
  | none => engine.literal 0

/-- The boost of a column that equals the text asked for. -/
def boost (column : String) (value : Option String) (weight : ℚ) : φ :=
  if value = some (engine.lower column) then engine.literal weight else engine.literal 0

/-- `_rank_expression`. -/
def _rank_expression (criteria : MarketplaceSearchCriteria φ) (listing : VendorListing φ) : φ :=
  let query_text := _sanitize_query criteria.query
  let text_rank := engine.mul (engine.textRank query_text listing) (engine.literal 10)
  let exact_name_boost := engine.boost listing.details.business_name query_text 4
  let category_boost :=
    engine.boost listing.details.category (_sanitize_filter criteria.category) 2
  let location_boost :=
    engine.boost listing.details.service_area (_sanitize_filter criteria.location) (3 / 2)
  let rating_boost := engine.mul listing.average_rating (engine.literal (1 / 2))
  engine.add (engine.add (engine.add (engine.add text_rank exact_name_boost) category_boost)
    location_boost) rating_boost

/-- `ORDER BY search_rank DESC, id DESC`. -/
def precedes (criteria : MarketplaceSearchCriteria φ) (first second : VendorListing φ) : Bool :=
  engine.ranking.precedes (engine._rank_expression criteria) (fun listing => listing.id.toNat)
    first second

/-- The deployment with the conditions and the order of this engine. -/
def deployed (deployment : SearchDeployment φ) : SearchDeployment φ :=
  { deployment with selects := engine.whereClause, precedes := engine.precedes }

end SearchEngine

/-- The rows of `VendorListingModel`, with its primary key. -/
structure ListingTable (φ : Type) where
  rows : List (VendorListing φ)
  primary_key : (rows.map VendorListing.id).Nodup

/-- `AsyncVendorListingRepository.search`. -/
def repositorySearch (deployment : SearchDeployment φ) (criteria : MarketplaceSearchCriteria φ)
    (limit offset : ℤ) (listings : List (VendorListing φ)) : List (VendorListing φ) × ℕ :=
  let limit := max 1 (min limit MAX_PAGE_SIZE)
  let offset := max 0 offset
  (page deployment criteria limit.toNat offset.toNat listings,
    count deployment criteria listings)

/-- `_execute_search`. -/
def _execute_search (deployment : SearchDeployment φ) (criteria : MarketplaceSearchCriteria φ)
    (listings : List (VendorListing φ)) : SearchResultDTO φ :=
  let limit : ℤ := max 1 (min criteria.page_size MAX_PAGE_SIZE)
  let offset : ℤ := max 0 ((criteria.page - 1) * limit)
  let found := repositorySearch deployment criteria limit offset listings
  { items := found.1.map _listing_to_dto
    total := found.2
    page := criteria.page
    page_size := limit
    total_pages := if found.2 = 0 then 0 else (found.2 + limit - 1) / limit }

/-- `MarketplaceSearchService.search` of a table that stays as it is, with `none` for a
`ValueError`. A cached answer is the text of an answer computed from that table. -/
def search (deployment : SearchDeployment φ) (listings : List (VendorListing φ)) (cached : Bool)
    (criteria : MarketplaceSearchCriteria φ) : Option (SearchResultDTO φ) := do
  let normalized ← _normalize_criteria deployment criteria
  let result := _execute_search deployment normalized listings
  if cached then readResult (_serialize_result result) else some result

/-- The answers of pages 1 to `pages`. -/
def searchPages (deployment : SearchDeployment φ) (listings : List (VendorListing φ))
    (cached : ℕ → Bool) (criteria : MarketplaceSearchCriteria φ) (pages : ℕ) :
    Option (List (SearchResultDTO φ)) :=
  (List.range pages).mapM fun n =>
    search deployment listings (cached n) { criteria with page := (n : ℤ) + 1 }

/-- Every selected listing once, in the order of its rank. -/
structure Ranked (engine : SearchEngine φ) (criteria : MarketplaceSearchCriteria φ)
    (listings ordered : List (VendorListing φ)) : Prop where
  selected : ordered.Perm (listings.filter (engine.whereClause criteria))
  ranked : ordered.Pairwise fun first second => engine.ranking.atLeast
    (engine._rank_expression criteria first) (engine._rank_expression criteria second)

end Statements

section Paging

variable {φ : Type} {engine : SearchEngine φ} {deployment : SearchDeployment φ}
  {listings ordered : List (VendorListing φ)} {criteria normalized : MarketplaceSearchCriteria φ}

/-- The second clamping of the limit and the offset changes nothing. -/
theorem _execute_search_eq : _execute_search deployment criteria listings =
    searchResult deployment criteria (count deployment criteria listings) listings := by
  have hlimit : max 1 (min (max 1 (min criteria.page_size MAX_PAGE_SIZE)) MAX_PAGE_SIZE) =
      max 1 (min criteria.page_size MAX_PAGE_SIZE) := by
    unfold MAX_PAGE_SIZE
    omega
  simp only [_execute_search, repositorySearch, searchResult, hlimit, ← max_assoc, max_self]

/-- The page is clamped, and nothing else depends on it. -/
theorem _normalize_criteria_page (h : _normalize_criteria deployment criteria = some normalized)
    (n : ℤ) : _normalize_criteria deployment { criteria with page := n } =
      some { normalized with page := max 1 (min n MAX_PAGE_NUMBER) } := by
  simp only [_normalize_criteria, Option.bind_eq_bind, Option.bind_eq_some_iff,
    Option.some.injEq] at h ⊢
  obtain ⟨query, hquery, category, hcategory, location, hlocation, rfl⟩ := h
  exact ⟨query, hquery, category, hcategory, location, hlocation, rfl⟩

theorem page_size_of_normalize (h : _normalize_criteria deployment criteria = some normalized) :
    max 1 (min normalized.page_size MAX_PAGE_SIZE) = normalized.page_size := by
  simp only [_normalize_criteria, Option.bind_eq_bind, Option.bind_eq_some_iff,
    Option.some.injEq] at h
  obtain ⟨query, hquery, category, hcategory, location, hlocation, rfl⟩ := h
  unfold MAX_PAGE_SIZE
  dsimp only
  omega

theorem search_page (h : _normalize_criteria deployment criteria = some normalized)
    (cached : Bool) (n : ℤ) : search deployment listings cached { criteria with page := n } =
      some (_execute_search deployment
        { normalized with page := max 1 (min n MAX_PAGE_NUMBER) } listings) := by
  unfold search
  rw [_normalize_criteria_page h]
  cases cached with
  | false => rfl
  | true => exact readResult_serialize_result

/-- The order of the statement is the only one that `ORDER BY` allows. -/
theorem page_eq (deployment : SearchDeployment φ) (hkey : (listings.map VendorListing.id).Nodup)
    (hperm : ordered.Perm (listings.filter (engine.whereClause criteria)))
    (hsorted : ordered.Pairwise fun first second => engine.precedes criteria first second)
    (limit offset : ℕ) : page (engine.deployed deployment) criteria limit offset listings =
      (ordered.drop offset).take limit := by
  have hmerge : ((listings.filter (engine.whereClause criteria)).mergeSort
      (engine.precedes criteria)) = ordered := by
    refine Ranking.eq_of_perm (fun first hfirst second hsecond hid => ?_)
      (List.pairwise_mergeSort (Ranking.precedes_trans _ _ _) (Ranking.precedes_total _ _ _) _)
      hsorted ((List.mergeSort_perm _ _).trans hperm.symm)
    have hrow := List.mem_of_mem_filter ((List.mergeSort_perm _ _).subset hfirst)
    have hrow' := List.mem_of_mem_filter ((List.mergeSort_perm _ _).subset hsecond)
    exact List.inj_on_of_nodup_map hkey hrow hrow' (BitVec.eq_of_toNat_eq hid)
  show ((List.mergeSort _ _).drop offset).take limit = _
  rw [← hmerge]
  rfl

/-- A page lists what comes after the items of the pages before it. -/
theorem items_of_page (hkey : (listings.map VendorListing.id).Nodup)
    (hperm : ordered.Perm (listings.filter (engine.whereClause criteria)))
    (hsorted : ordered.Pairwise fun first second => engine.precedes criteria first second)
    {limit : ℕ} (hlimit : max 1 (min criteria.page_size MAX_PAGE_SIZE) = limit) (n : ℕ) :
    (_execute_search (engine.deployed deployment) { criteria with page := (n : ℤ) + 1 }
      listings).items = ((ordered.drop (n * limit)).take limit).map _listing_to_dto := by
  have hoffset : (max 0 (((n : ℤ) + 1 - 1) * limit)).toNat = n * limit := by
    rw [add_sub_cancel_right, max_eq_right (by positivity), ← Int.natCast_mul, Int.toNat_natCast]
  rw [_execute_search_eq, searchResult]
  dsimp only
  rw [hlimit, hoffset, Int.toNat_natCast]
  exact congrArg _ (page_eq deployment hkey hperm hsorted _ _)

/-- The number of pages that every page of a search answers with. -/
def total_pages (engine : SearchEngine φ) (table : ListingTable φ)
    (criteria : MarketplaceSearchCriteria φ) : ℤ :=
  let total := (table.rows.filter (engine.whereClause criteria)).length
  if total = 0 then 0 else (total + criteria.page_size - 1) / criteria.page_size

theorem exists_ranked (engine : SearchEngine φ) (criteria : MarketplaceSearchCriteria φ)
    (listings : List (VendorListing φ)) : ∃ ordered : List (VendorListing φ),
      ordered.Perm (listings.filter (engine.whereClause criteria)) ∧
      ordered.Pairwise fun first second => engine.precedes criteria first second :=
  ⟨_, List.mergeSort_perm _ (engine.precedes criteria),
    List.pairwise_mergeSort (Ranking.precedes_trans _ _ _) (Ranking.precedes_total _ _ _) _⟩

/-- Rounding the quotient up leaves no page when there is nothing to list. -/
theorem total_pages_eq {table : ListingTable φ} {limit : ℕ} (hlimit : criteria.page_size = limit)
    (hpos : 0 < limit)
    (hperm : ordered.Perm (table.rows.filter (engine.whereClause criteria))) :
    total_pages engine table criteria = ((ordered.length + limit - 1) / limit : ℕ) := by
  unfold total_pages
  rw [← hperm.length_eq, hlimit]
  dsimp only
  split
  · next hzero =>
    rw [hzero, Nat.zero_add, Nat.div_eq_of_lt (by omega)]
    rfl
  · push_cast [Nat.cast_sub (show 1 ≤ ordered.length + limit by omega)]
    rfl

theorem mapM_eq_some {α β : Type} {read : α → Option β} {value : α → β} {items : List α}
    (h : ∀ item ∈ items, read item = some (value item)) :
    items.mapM read = some (items.map value) := by
  induction items with
  | nil => rfl
  | cons item items ih =>
    rw [List.mapM_cons, h item List.mem_cons_self,
      ih fun later hlater => h later (List.mem_cons_of_mem _ hlater)]
    rfl

/-- The pages that exist list as much as all pages that a search can ask for. -/
theorem take_pages {α : Type} (items : List α) {limit : ℕ} (hpos : 0 < limit) (bound : ℕ) :
    items.take (min ((items.length + limit - 1) / limit) bound * limit) =
      items.take (bound * limit) := by
  rcases Nat.le_total ((items.length + limit - 1) / limit) bound with hle | hle
  · have hall : items.length ≤ (items.length + limit - 1) / limit * limit := le_pages_mul hpos
    rw [Nat.min_eq_left hle, List.take_of_length_le hall,
      List.take_of_length_le (hall.trans (Nat.mul_le_mul_right _ hle))]
  · rw [Nat.min_eq_right hle]

/-- The pages that a search can ask for are not clamped. -/
theorem searchPages_eq (h : _normalize_criteria deployment criteria = some normalized)
    (cached : ℕ → Bool) {pages : ℕ} (hpages : (pages : ℤ) ≤ MAX_PAGE_NUMBER) :
    searchPages deployment listings cached criteria pages =
      some ((List.range pages).map fun (n : ℕ) =>
        _execute_search deployment { normalized with page := (n : ℤ) + 1 } listings) := by
  refine mapM_eq_some fun n hn => ?_
  have hlt := List.mem_range.mp hn
  have hclamp : max 1 (min ((n : ℤ) + 1) MAX_PAGE_NUMBER) = (n : ℤ) + 1 := by omega
  rw [search_page h, hclamp]

end Paging

section Samples

/-- An engine with exact ranks. -/
def sampleEngine : SearchEngine ℚ where
  uses_postgresql := false
  lower := lower
  like text pattern := (pattern.toList.drop 1).dropLast <:+: text.toList
  tsMatches := fun _ _ => false
  ts_rank_cd := fun _ _ => 0
  ranking :=
    { atLeast := fun first second => second ≤ first
      total := fun first second => by simpa using le_total second first
      trans := fun first second third h h' =>
        decide_eq_true ((of_decide_eq_true h').trans (of_decide_eq_true h)) }
  literal := id
  add := (· + ·)
  mul := (· * ·)

def samplePages : SearchDeployment ℚ where
  isPrintable := fun _ => true
  digest := fun _ => "digest"
  selects := fun _ _ => true
  precedes := fun _ _ _ => true
  ttl_seconds := 60
  rate_limit_requests := 10
  rate_limit_window_seconds := 60

/-- The listing of vendor `n`. -/
def numberedListing (n : ℕ) : VendorListing ℚ where
  id := n
  vendor_id := n
  external_id := none
  average_rating := 4
  total_reviews := 2
  details :=
    { business_name := "Studio", category := "photography", description := "Portraits"
      service_area := "Kigali", tags := "", cover_image_url := none, is_verified := true
      approval_status := some "approved", search_rank_score := 0, starting_price := none
      min_package_price := none, max_package_price := none, currency := none }

theorem numberedListing_id_injOn {n m : ℕ} (hn : n < 2 ^ 128) (hm : m < 2 ^ 128)
    (h : (n : UUID) = m) : n = m := by
  have hnat := congrArg BitVec.toNat h
  rwa [BitVec.natCast_eq_ofNat, BitVec.natCast_eq_ofNat, BitVec.toNat_ofNat, BitVec.toNat_ofNat,
    Nat.mod_eq_of_lt hn, Nat.mod_eq_of_lt hm] at hnat

/-- A table of `size` listings. -/
def numberedTable (size : ℕ) (hsize : size ≤ 2 ^ 128) : ListingTable ℚ where
  rows := (List.range size).map numberedListing
  primary_key := by
    rw [List.map_map]
    refine List.Nodup.map_on (fun n hn m hm h => ?_) List.nodup_range
    rw [List.mem_range] at hn hm
    exact numberedListing_id_injOn (by omega) (by omega) h

/-- Every listing, one on a page. -/
def onePerPage : MarketplaceSearchCriteria ℚ := ⟨none, none, none, none, none, none, 1, 1⟩

theorem filter_numberedTable {size : ℕ} (hsize : size ≤ 2 ^ 128) :
    (numberedTable size hsize).rows.filter (sampleEngine.whereClause onePerPage) =
      (numberedTable size hsize).rows := by
  refine List.filter_eq_self.mpr fun listing hlisting => ?_
  obtain ⟨n, -, rfl⟩ := List.mem_map.mp hlisting
  rfl

theorem nodup_dtos_numberedTable {size : ℕ} (hsize : size ≤ 2 ^ 128) :
    ((numberedTable size hsize).rows.map _listing_to_dto).Nodup := by
  rw [numberedTable, List.map_map]
  refine List.Nodup.map_on (fun n hn m hm h => ?_) List.nodup_range
  rw [List.mem_range] at hn hm
  exact numberedListing_id_injOn (by omega) (by omega)
    (uuidText_injective (congrArg VendorListingDTO.id h))

end Samples

section Main

variable {φ : Type}

/-- Every page of a search of a table says how many pages there are. The first of them, as many
as a search can ask for, list the matching listings in the order of their rank, and they list
each of them once when there are no more pages than that. -/
theorem search_pages (engine : SearchEngine φ) (deployment : SearchDeployment φ)
    (table : ListingTable φ) (cached : ℕ → Bool) (criteria normalized : MarketplaceSearchCriteria φ)
    (h : _normalize_criteria (engine.deployed deployment) criteria = some normalized) :
    (∀ page fromCache, ∃ result,
      search (engine.deployed deployment) table.rows fromCache { criteria with page } =
          some result ∧
        result.total_pages = total_pages engine table normalized) ∧
      ∃ ordered results, Ranked engine normalized table.rows ordered ∧
        searchPages (engine.deployed deployment) table.rows cached criteria
          (min (total_pages engine table normalized) MAX_PAGE_NUMBER).toNat = some results ∧
        (results.flatMap SearchResultDTO.items =
          (ordered.take (MAX_PAGE_NUMBER * normalized.page_size).toNat).map _listing_to_dto) ∧
        (total_pages engine table normalized ≤ MAX_PAGE_NUMBER →
          results.flatMap SearchResultDTO.items = ordered.map _listing_to_dto) := by
  obtain ⟨ordered, hperm, hsorted⟩ := exists_ranked engine normalized table.rows
  have hsize := page_size_of_normalize h
  obtain ⟨limit, hlimit⟩ : ∃ limit : ℕ, normalized.page_size = limit :=
    Int.eq_ofNat_of_zero_le (by rw [← hsize]; omega)
  have hpos : 0 < limit := by omega
  have hclamp := hsize.trans hlimit
  have htotal := total_pages_eq hlimit hpos hperm
  have hcover : ordered.length ≤ (ordered.length + limit - 1) / limit * limit := le_pages_mul hpos
  have htake := take_pages ordered hpos 1000
  generalize (ordered.length + limit - 1) / limit = needed at htotal hcover htake
  refine ⟨fun page fromCache => ⟨_, search_page h fromCache page, ?_⟩, ordered, ?_⟩
  · rw [_execute_search_eq, searchResult, total_pages]
    dsimp only
    rw [hsize]
    rfl
  · have hcount : (min (total_pages engine table normalized) MAX_PAGE_NUMBER).toNat =
        min needed 1000 := by
      rw [htotal, MAX_PAGE_NUMBER]
      omega
    have hlisted : ((List.range (min needed 1000)).map fun (n : ℕ) => _execute_search
        (engine.deployed deployment) { normalized with page := (n : ℤ) + 1 }
          table.rows).flatMap SearchResultDTO.items =
        (ordered.take (1000 * limit)).map _listing_to_dto := by
      rw [List.flatMap_map]
      simp only [items_of_page table.primary_key hperm hsorted hclamp]
      rw [← List.map_flatMap, flatMap_pages, htake]
    have hbound : ((min needed 1000 : ℕ) : ℤ) ≤ MAX_PAGE_NUMBER := by
      rw [MAX_PAGE_NUMBER]
      omega
    rw [hcount]
    refine ⟨_, ⟨hperm, hsorted.imp fun hle => (Ranking.precedes_iff.mp hle).1⟩,
      searchPages_eq h cached hbound, ?_, fun hle => ?_⟩
    · rw [hlisted, hlimit]
      rfl
    · have hneeded : needed ≤ 1000 := by
        rw [htotal, MAX_PAGE_NUMBER] at hle
        omega
      rw [hlisted, List.take_of_length_le (hcover.trans (Nat.mul_le_mul_right _ hneeded))]

/-- Two listings, one on each of two pages. -/
theorem search_pages_sample :
    ∃ ordered results,
      Ranked sampleEngine onePerPage (numberedTable 2 (by decide)).rows ordered ∧
        searchPages (sampleEngine.deployed samplePages) (numberedTable 2 (by decide)).rows
          (fun n => n = 1) onePerPage 2 = some results ∧
        results.flatMap SearchResultDTO.items = ordered.map _listing_to_dto := by
  obtain ⟨-, ordered, results, hranked, hpages, -, hall⟩ := search_pages sampleEngine samplePages
    (numberedTable 2 (by decide)) (fun n => n = 1) onePerPage onePerPage rfl
  exact ⟨ordered, results, hranked, hpages, hall (by decide +kernel)⟩

/-- Of 1001 listings, one on a page, the last one is on no page: page 1001 is page 1000. -/
theorem last_page_repeated :
    ¬ ∀ (table : ListingTable ℚ) (criteria normalized : MarketplaceSearchCriteria ℚ),
      _normalize_criteria (sampleEngine.deployed samplePages) criteria = some normalized →
      ∃ ordered results, Ranked sampleEngine normalized table.rows ordered ∧
        searchPages (sampleEngine.deployed samplePages) table.rows (fun _ => false) criteria
          (total_pages sampleEngine table normalized).toNat = some results ∧
        results.flatMap SearchResultDTO.items = ordered.map _listing_to_dto := by
  intro h
  obtain ⟨ordered, results, hranked, hpages, hitems⟩ :=
    h (numberedTable 1001 (by decide)) onePerPage onePerPage rfl
  set table := numberedTable 1001 (by decide)
  have hrows : table.rows.filter (sampleEngine.whereClause onePerPage) = table.rows :=
    filter_numberedTable (by decide)
  have hlength : table.rows.length = 1001 := by simp [table, numberedTable]
  have htotal : (total_pages sampleEngine table onePerPage).toNat = 1001 := by
    rw [total_pages, hrows, hlength]
    rfl
  let answer (n : ℕ) := _execute_search (sampleEngine.deployed samplePages)
    { onePerPage with page := max 1 (min ((n : ℤ) + 1) MAX_PAGE_NUMBER) } table.rows
  have hsearch : searchPages (sampleEngine.deployed samplePages) table.rows (fun _ => false)
      onePerPage 1001 = some ((List.range 1001).map answer) :=
    mapM_eq_some fun n _ => search_page rfl false ((n : ℤ) + 1)
  rw [htotal, hsearch, Option.some.injEq] at hpages
  -- The last two pages are one page, and it is not empty.
  have hsame : answer 1000 = answer 999 := rfl
  obtain ⟨ordered', hperm, hsorted⟩ := exists_ranked sampleEngine onePerPage table.rows
  have hpage : (answer 999).items = ((ordered'.drop 999).take 1).map _listing_to_dto :=
    items_of_page table.primary_key hperm hsorted
      (show max 1 (min onePerPage.page_size MAX_PAGE_SIZE) = (1 : ℕ) from rfl) 999
  have hne : (answer 999).items ≠ [] := by
    have hordered : ordered'.length = 1001 := by rw [hperm.length_eq, hrows, hlength]
    intro hnil
    have hzero := congrArg List.length (hpage.symm.trans hnil)
    rw [List.length_map, List.length_take, List.length_drop, hordered] at hzero
    exact absurd hzero (by decide)
  have hnodup : (results.flatMap SearchResultDTO.items).Nodup := by
    rw [hitems, (hranked.selected.map _listing_to_dto).nodup_iff, hrows]
    exact nodup_dtos_numberedTable (by decide)
  rw [← hpages, List.flatMap_map, List.range_succ, List.range_succ, List.flatMap_append,
    List.flatMap_append, List.flatMap_singleton, List.flatMap_singleton, hsame] at hnodup
  obtain ⟨item, hitem⟩ := List.exists_mem_of_ne_nil _ hne
  exact (List.nodup_append'.mp hnodup).2.2 (List.mem_append_right _ hitem) hitem

end Main

end Linkapro.Marketplace
