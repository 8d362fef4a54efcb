import Linkapro.Lib.Results
import Linkapro.Vendors.Repositories
import Mathlib.Data.List.Sort

/-!
# Pages of stored collections

`PageRequest` and `Page` check the same limit and offset, and `Page` compares the offset with
the total besides. `PageDTO`, which the read repository fills, makes no such comparison.
-/

namespace Linkapro.Vendors

open Lib (mapM_eq_ok_iff exists_mapM_ok_iff)

/-! ### Requests and pages -/

/-- A `PageRequest`; its fields have passed their checks. -/
structure PageRequest : Type where
  limit : ℕ
  offset : ℕ
  cursor : Option String
  limit_pos : 1 ≤ limit
  limit_le : limit ≤ MAX_PAGE_LIMIT
  offset_le : offset ≤ MAX_PAGE_OFFSET
  cursor_ne : cursor ≠ some ""
  cursor_length : ∀ text ∈ cursor, text.length ≤ 512
  cursor_offset : cursor ≠ none → offset = 0

section Bounds

variable {limit offset : ℤ}

theorem limit_pos_of_bounds (h : ¬(limit < 1 ∨ 100 < limit)) : 1 ≤ limit.toNat := by omega

theorem limit_le_of_bounds (h : ¬(limit < 1 ∨ 100 < limit)) : limit.toNat ≤ MAX_PAGE_LIMIT := by
  rw [MAX_PAGE_LIMIT]
  omega

theorem offset_le_of_bounds (h : ¬(offset < 0 ∨ 10000 < offset)) :
    offset.toNat ≤ MAX_PAGE_OFFSET := by
  rw [MAX_PAGE_OFFSET]
  omega

theorem offset_eq_zero (h : ¬offset ≠ 0) : offset.toNat = 0 := by omega

end Bounds

/-- `PageRequest(limit, offset, cursor)`. -/
def PageRequest.of (limit offset cursor : Value) : Except String PageRequest :=
  match limit, offset with
  | .int limit, .int offset =>
    if hlimit : limit < 1 ∨ 100 < limit then .error "Page limit must be between 1 and 100."
    else if hoffset : offset < 0 ∨ 10000 < offset then
      .error "Page offset must be between 0 and 10000."
    else
      match cursor with
      | .none => .ok {
          limit := limit.toNat
          offset := offset.toNat
          cursor := none
          limit_pos := limit_pos_of_bounds hlimit
          limit_le := limit_le_of_bounds hlimit
          offset_le := offset_le_of_bounds hoffset
          cursor_ne := nofun
          cursor_length := nofun
          cursor_offset := nofun }
      | .text text =>
        if hblank : strip text = "" then .error "Page cursor cannot be blank."
        else if hlength : 512 < (strip text).length then
          .error "Page cursor must be 512 characters or fewer."
        else if hzero : offset ≠ 0 then
          .error "Cursor pagination cannot be combined with a nonzero offset."
        else .ok {
          limit := limit.toNat
          offset := offset.toNat
          cursor := some (strip text)
          limit_pos := limit_pos_of_bounds hlimit
          limit_le := limit_le_of_bounds hlimit
          offset_le := offset_le_of_bounds hoffset
          cursor_ne := fun h => hblank (Option.some.inj h)
          cursor_length := fun _ h => Option.some.inj h ▸ not_lt.mp hlength
          cursor_offset := fun _ => offset_eq_zero hzero }
      | _ => .error "Page cursor must be a string."
  | .int _, _ => .error "Page offset must be an integer."
  | _, _ => .error "Page limit must be an integer."

/-- A `Page`. The repositories pass no `next_cursor`. -/
structure Page (α : Type) : Type where
  items : List α
  total : ℕ
  limit : ℕ
  offset : ℕ
deriving DecidableEq, Repr

/-- `Page(items, total, limit, offset)`. -/
def Page.of {α : Type} (items : List α) (total limit offset : ℕ) : Except String (Page α) := do
  let _ ← PageRequest.of (.int limit) (.int offset) .none
  if limit < items.length then
    throw "Page items cannot exceed the page limit."
  if total < items.length then
    throw "Page total cannot be less than the number of items."
  if total < offset ∧ total ≠ 0 then
    throw "Page offset cannot exceed total."
  return { items, total, limit, offset }

/-- A `PageDTO`. -/
structure PageDTO (α : Type) : Type where
  items : List α
  total : ℕ
  limit : ℕ
  offset : ℕ
  pagination_mode : String
deriving DecidableEq, Repr

/-- `PageDTO(items, total, limit, offset, pagination_mode)`. -/
def PageDTO.of {α : Type} (items : List α) (total limit offset : ℕ) (pagination_mode : String) :
    Except String (PageDTO α) := do
  if limit < 1 ∨ 100 < limit then
    throw "Page limit must be between 1 and 100."
  if 10000 < offset then
    throw "Page offset must be between 0 and 10000."
  if pagination_mode ∉ ["offset", "cursor"] then
    throw "Page pagination_mode must be 'offset' or 'cursor'."
  if pagination_mode = "cursor" ∧ offset ≠ 0 then
    throw "Cursor pagination cannot carry a nonzero offset."
  if limit < items.length then
    throw "Page items cannot exceed the page limit."
  if total < items.length then
    throw "Page total cannot be less than the number of items."
  return { items, total, limit, offset, pagination_mode }

section Querysets

variable {ρ α : Type}

/-- `queryset[page.offset : page.offset + page.limit]`. -/
def PageRequest.slice (page : PageRequest) (queryset : List ρ) : List ρ :=
  (queryset.drop page.offset).take page.limit

/-- `_page_queryset`, on the rows of the queryset in their order. -/
def _page_queryset (_to_domain : ρ → Except Raised α) (queryset : List ρ) (page : PageRequest) :
    Except Raised (Page α) := do
  let total := queryset.length
  let objs := page.slice queryset
  orValueError (Page.of (← objs.mapM _to_domain) total page.limit page.offset)

end Querysets

/-! ### The lists of the repositories -/

section Lists

variable {ρ : Type}

/-- `order_by("-created_at", "id")`. -/
def newestFirst (created_at : ρ → Datetime) (id : ρ → UUID) (first second : ρ) : Bool :=
  created_at second < created_at first ∨ created_at first = created_at second ∧ id first ≤ id second

/-- `order_by("order", "id")`. -/
def byOrder (first second : PortfolioImage) : Bool :=
  first.order < second.order ∨ first.order = second.order ∧ first.id ≤ second.id

/-- What a search reads besides its rows: the `icontains` lookup of the database, from a column
and the text searched. -/
structure SearchLibrary : Type where
  text : TextLibrary
  icontains : String → String → Bool

variable (library : TextLibrary) (lookups : SearchLibrary)

/-- The queryset of `DjangoVendorProfileRepository.list_by_status`. -/
def profileQueryset (profiles : List VendorProfile) (status : VendorStatus) : List VendorProfile :=
  (profiles.filter fun profile => profile.status = status).mergeSort
    (newestFirst VendorProfile.created_at VendorProfile.id)

/-- `DjangoVendorProfileRepository.list_by_status`. -/
def VendorProfile.list_by_status (profiles : List VendorProfile) (status : VendorStatus)
    (page : PageRequest) : Except Raised (Page VendorProfile) :=
  _page_queryset (VendorProfile._to_domain library) (profileQueryset profiles status) page

/-- The queryset of `DjangoServicePackageRepository.search`. -/
def packageQueryset (packages : List ServicePackage) (vendor_id : UUID)
    (query tier_filter : Option String) : List ServicePackage :=
  let search_text := strip (query.getD "")
  let tier := lookups.text.lower (strip (tier_filter.getD ""))
  (packages.filter fun package => package.vendor_id = vendor_id ∧
    (search_text = "" ∨ lookups.icontains package.name search_text ∨
      lookups.icontains package.description search_text ∨
      lookups.icontains package.currency search_text) ∧
    (tier = "" ∨ package.package_tier.value = tier)).mergeSort
      (newestFirst ServicePackage.created_at ServicePackage.id)

/-- `DjangoServicePackageRepository.search`. -/
def ServicePackage.search (packages : List ServicePackage) (vendor_id : UUID)
    (query tier_filter : Option String) (page : PageRequest) :
    Except Raised (Page ServicePackage) :=
  _page_queryset (ServicePackage._to_domain lookups.text)
    (packageQueryset lookups packages vendor_id query tier_filter) page

/-- The queryset of `DjangoServicePackageRepository.list_by_vendor`. -/
def vendorPackages (packages : List ServicePackage) (vendor_id : UUID) : List ServicePackage :=
  (packages.filter fun package => package.vendor_id = vendor_id).mergeSort
    (newestFirst ServicePackage.created_at ServicePackage.id)

/-- `DjangoServicePackageRepository.list_by_vendor`. -/
def ServicePackage.list_by_vendor (packages : List ServicePackage) (vendor_id : UUID)
    (page : PageRequest) : Except Raised (Page ServicePackage) :=
  _page_queryset (ServicePackage._to_domain library) (vendorPackages packages vendor_id) page

/-- The queryset of `DjangoPortfolioImageRepository.list_by_vendor`. -/
def imageQueryset (images : List PortfolioImage) (vendor_id : UUID) : List PortfolioImage :=
  (images.filter fun image => image.vendor_id = vendor_id).mergeSort byOrder

/-- `DjangoPortfolioImageRepository.list_by_vendor`. -/
def PortfolioImage.list_by_vendor (images : List PortfolioImage) (vendor_id : UUID)
    (page : PageRequest) : Except Raised (Page PortfolioImage) :=
  _page_queryset (PortfolioImage._to_domain library) (imageQueryset images vendor_id) page

/-- What a search of the inquiries filters by. The dates of the range are the boundaries that
`_date_range_boundary` makes of them. -/
structure InquirySearch : Type where
  query : Option String
  status_filter : Option String
  date_range : Option (Option Datetime × Option Datetime)

/-- The filter of `DjangoInquiryRepository.search` on `is_read`. -/
def statusMatches (status : String) (inquiry : Inquiry) : Bool :=
  if status = "unread" then ¬inquiry.is_read
  else if status ∈ ["read", "read_unanswered"] then inquiry.is_read
  else status ≠ "answered"

/-- The filter of `DjangoInquiryRepository.search` on `created_at`. -/
def dateMatches (date_range : Option (Option Datetime × Option Datetime)) (inquiry : Inquiry) :
    Bool :=
  match date_range with
  | some (start, last) =>
    (start.all fun boundary => boundary ≤ inquiry.created_at) ∧
      last.all fun boundary => inquiry.created_at ≤ boundary
  | none => true

/-- The queryset of `DjangoInquiryRepository.search`. -/
def inquiryQueryset (inquiries : List Inquiry) (vendor_id : UUID) (search : InquirySearch) :
    List Inquiry :=
  let search_text := strip (search.query.getD "")
  let status := lookups.text.lower (strip (search.status_filter.getD ""))
  (inquiries.filter fun inquiry => inquiry.vendor_id = vendor_id ∧
    (search_text = "" ∨ lookups.icontains inquiry.client_name search_text ∨
      lookups.icontains inquiry.client_email search_text ∨
      (inquiry.client_phone.any fun phone => lookups.icontains phone search_text) ∨
      lookups.icontains inquiry.message search_text) ∧
    statusMatches status inquiry ∧ dateMatches search.date_range inquiry).mergeSort
      (newestFirst Inquiry.created_at Inquiry.id)

/-- `DjangoInquiryRepository.search`. -/
def Inquiry.search (inquiries : List Inquiry) (vendor_id : UUID) (search : InquirySearch)
    (page : PageRequest) : Except Raised (Page Inquiry) :=
  _page_queryset (Inquiry._to_domain lookups.text)
    (inquiryQueryset lookups inquiries vendor_id search) page

/-- The queryset of `DjangoInquiryRepository.list_by_vendor`. -/
def vendorInquiries (inquiries : List Inquiry) (vendor_id : UUID) : List Inquiry :=
  (inquiries.filter fun inquiry => inquiry.vendor_id = vendor_id).mergeSort
    (newestFirst Inquiry.created_at Inquiry.id)

/-- `DjangoInquiryRepository.list_by_vendor`. -/
def Inquiry.list_by_vendor (inquiries : List Inquiry) (vendor_id : UUID) (page : PageRequest) :
    Except Raised (Page Inquiry) :=
  _page_queryset (Inquiry._to_domain library) (vendorInquiries inquiries vendor_id) page

/-- A `ServicePackageDTO`: the columns that the read repository selects. -/
structure ServicePackageDTO : Type where
  id : UUID
  vendor_id : UUID
  name : String
  description : String
  price : Decimal
  currency : String
  package_tier : String
  approval_status : String
  rejection_reason : Option String
  is_active : Bool
  is_deleted : Bool
  deleted_at : Option Datetime
  last_approved_at : Option Datetime
  last_vendor_public_edit_at : Option Datetime
  next_vendor_edit_allowed_at : Option Datetime
  version : ℕ

/-- `ServicePackageDTO(**row)`. -/
def ServicePackage.toDTO (row : ServicePackage) : ServicePackageDTO where
  id := row.id
  vendor_id := row.vendor_id
  name := row.name
  description := row.description
  price := row.price
  currency := row.currency
  package_tier := row.package_tier.value
  approval_status := row.approval_status.value
  rejection_reason := row.rejection_reason
  is_active := row.is_active
  is_deleted := row.is_deleted
  deleted_at := row.deleted_at
  last_approved_at := row.last_approved_at
  last_vendor_public_edit_at := row.last_vendor_public_edit_at
  next_vendor_edit_allowed_at := row.next_vendor_edit_allowed_at
  version := row.version

/-- The queryset of `DjangoVendorReadRepository.list_service_packages`. -/
def readQueryset (packages : List ServicePackage) (vendor_id : UUID) : List ServicePackage :=
  (packages.filter fun package => package.vendor_id = vendor_id ∧ ¬package.is_deleted).mergeSort
    (newestFirst ServicePackage.created_at ServicePackage.id)

/-- `DjangoVendorReadRepository.list_service_packages`, which answers with a `PageDTO`. -/
def list_service_packages (profiles : List VendorProfile) (packages : List ServicePackage)
    (vendor_id : UUID) (page : PageRequest) : Except Raised (PageDTO ServicePackageDTO) := do
  if ∀ profile ∈ profiles, profile.id ≠ vendor_id then
    throw (.domainError "vendor_not_found" "Vendor not found." [])
  let queryset := readQueryset packages vendor_id
  orValueError (PageDTO.of ((page.slice queryset).map ServicePackage.toDTO) queryset.length
    page.limit page.offset (if page.cursor.isSome then "cursor" else "offset"))

end Lists

/-! ### Exact pages -/

section Exact

variable {ρ α : Type} {read : ρ → Except Raised α} {queryset : List ρ} {page : PageRequest}

/-- The answer is the page of the request: its items are the objects of the rows from the offset
on, as many as the limit allows. -/
def HoldsPage (read : ρ → Except Raised α) (queryset : List ρ) (page : PageRequest)
    (answer : Except Raised (Page α)) : Prop :=
  ∃ items, answer = .ok ⟨items, queryset.length, page.limit, page.offset⟩ ∧
    List.Forall₂ (fun row item => read row = .ok item) (page.slice queryset) items

/-- Every row of the page can be rebuilt as a domain object. -/
def Rebuilds (read : ρ → Except Raised α) (queryset : List ρ) (page : PageRequest) : Prop :=
  ∀ row ∈ page.slice queryset, ∃ item, read row = .ok item

/-- The offset of the request is within the queryset, or there is nothing to page. -/
def WithinTotal (queryset : List ρ) (page : PageRequest) : Prop :=
  page.offset ≤ queryset.length ∨ queryset = []

theorem PageRequest.of_again (page : PageRequest) :
    ∃ request, PageRequest.of (.int page.limit) (.int page.offset) .none = .ok request := by
  have hpos := page.limit_pos
  have hlimit : page.limit ≤ 100 := page.limit_le
  have hoffset : page.offset ≤ 10000 := page.offset_le
  rw [PageRequest.of, dif_neg (by omega), dif_neg (by omega)]
  exact ⟨_, rfl⟩

theorem length_slice_le (page : PageRequest) (queryset : List ρ) :
    (page.slice queryset).length ≤ page.limit ∧
      (page.slice queryset).length ≤ queryset.length := by
  rw [PageRequest.slice, List.length_take, List.length_drop]
  omega

/-- Items that are no more than the limit and the total make a page, unless the offset is beyond
the total. -/
theorem pageOf_eq_ok_iff {items : List α} {total : ℕ} (hlimit : items.length ≤ page.limit)
    (htotal : items.length ≤ total) {result : Page α} :
    Page.of items total page.limit page.offset = .ok result ↔
      (page.offset ≤ total ∨ total = 0) ∧
        result = ⟨items, total, page.limit, page.offset⟩ := by
  obtain ⟨request, hrequest⟩ := page.of_again
  rw [Page.of, hrequest]
  change (do
    if page.limit < items.length then
      throw "Page items cannot exceed the page limit."
    if total < items.length then
      throw "Page total cannot be less than the number of items."
    if total < page.offset ∧ total ≠ 0 then
      throw "Page offset cannot exceed total."
    return (⟨items, total, page.limit, page.offset⟩ : Page α)) = Except.ok result ↔ _
  simp only [guard_eq_ok_iff, pure_eq_ok_iff]
  constructor
  · rintro ⟨-, -, hoffset, heq⟩
    exact ⟨by omega, heq.symm⟩
  · rintro ⟨hoffset, heq⟩
    exact ⟨by omega, by omega, by omega, heq.symm⟩

theorem orValueError_eq_ok_iff {result : Except String α} {value : α} :
    orValueError result = .ok value ↔ result = .ok value := by
  cases result with
  | error message => exact ⟨nofun, nofun⟩
  | ok result => exact Iff.of_eq (by rw [orValueError, Except.ok.injEq, Except.ok.injEq])

/-- A page is exact when its offset is within the queryset and its rows can be rebuilt. -/
theorem holdsPage_iff : HoldsPage read queryset page (_page_queryset read queryset page) ↔
    WithinTotal queryset page ∧ Rebuilds read queryset page := by
  obtain ⟨hlimit, htotal⟩ := length_slice_le page queryset
  constructor
  · rintro ⟨items, hanswer, hitems⟩
    rw [_page_queryset, bind_eq_ok_iff] at hanswer
    obtain ⟨items', hread, hpage⟩ := hanswer
    have hlength := (mapM_eq_ok_iff.mp hread).length_eq
    obtain ⟨hoffset, -⟩ := (pageOf_eq_ok_iff (by omega) (by omega)).mp
      (orValueError_eq_ok_iff.mp hpage)
    exact ⟨hoffset.imp_right List.length_eq_zero_iff.mp,
      exists_mapM_ok_iff.mp ⟨items', hread⟩⟩
  · rintro ⟨hoffset, hrebuilds⟩
    obtain ⟨items, hread⟩ := exists_mapM_ok_iff.mpr hrebuilds
    have hitems := mapM_eq_ok_iff.mp hread
    have hlength := hitems.length_eq
    have hpage : Page.of items queryset.length page.limit page.offset =
        .ok ⟨items, queryset.length, page.limit, page.offset⟩ :=
      (pageOf_eq_ok_iff (by omega) (by omega)).mpr
        ⟨hoffset.imp_right List.length_eq_zero_iff.mpr, rfl⟩
    refine ⟨items, ?_, hitems⟩
    rw [_page_queryset, bind_eq_ok_iff]
    exact ⟨items, hread, orValueError_eq_ok_iff.mpr hpage⟩

end Exact

/-- The read repository answers with the page of the request exactly when the vendor exists. -/
theorem list_service_packages_holds_iff (profiles : List VendorProfile)
    (packages : List ServicePackage) (vendor_id : UUID) (page : PageRequest) :
    (∃ mode, list_service_packages profiles packages vendor_id page = .ok {
      items := (page.slice (readQueryset packages vendor_id)).map ServicePackage.toDTO
      total := (readQueryset packages vendor_id).length
      limit := page.limit
      offset := page.offset
      pagination_mode := mode }) ↔ ∃ profile ∈ profiles, profile.id = vendor_id := by
  have hcursor : ∀ mode, mode = (if page.cursor.isSome then "cursor" else "offset") →
      mode ∈ ["offset", "cursor"] ∧ ¬(mode = "cursor" ∧ page.offset ≠ 0) := by
    rintro _ rfl
    cases hnone : page.cursor with
    | none => exact ⟨by decide, fun h => absurd h.1 (by decide)⟩
    | some text =>
      have hoffset := page.cursor_offset (by rw [hnone]; exact Option.some_ne_none text)
      rw [Option.isSome_some, if_pos rfl]
      exact ⟨by decide, fun h => h.2 hoffset⟩
  obtain ⟨hmode, hzero⟩ := hcursor _ rfl
  obtain ⟨hlimit, htotal⟩ := length_slice_le page (readQueryset packages vendor_id)
  have hpos := page.limit_pos
  have hbound : page.limit ≤ 100 := page.limit_le
  have hoffset : page.offset ≤ 10000 := page.offset_le
  simp only [list_service_packages, guard_eq_ok_iff, orValueError_eq_ok_iff, PageDTO.of,
    pure_eq_ok_iff, List.length_map, not_forall, not_not, exists_prop]
  constructor
  · rintro ⟨_, hvendor, -⟩
    exact hvendor
  · intro hvendor
    exact ⟨_, hvendor, by omega, by omega, hmode, hzero, by omega, by omega, rfl⟩

/-- Each list of the four repositories holds the page of the request exactly when the offset is
within the stored collection and the rows of the page can be rebuilt. -/
theorem vendor_lists_exact (library : TextLibrary) (lookups : SearchLibrary) (page : PageRequest) :
    (∀ profiles status,
      HoldsPage (VendorProfile._to_domain library) (profileQueryset profiles status) page
          (VendorProfile.list_by_status library profiles status page) ↔
        WithinTotal (profileQueryset profiles status) page ∧
          Rebuilds (VendorProfile._to_domain library) (profileQueryset profiles status) page) ∧
    (∀ packages vendor_id,
      HoldsPage (ServicePackage._to_domain library) (vendorPackages packages vendor_id) page
          (ServicePackage.list_by_vendor library packages vendor_id page) ↔
        WithinTotal (vendorPackages packages vendor_id) page ∧
          Rebuilds (ServicePackage._to_domain library) (vendorPackages packages vendor_id) page) ∧
    (∀ packages vendor_id query tier,
      HoldsPage (ServicePackage._to_domain lookups.text)
          (packageQueryset lookups packages vendor_id query tier) page
          (ServicePackage.search lookups packages vendor_id query tier page) ↔
        WithinTotal (packageQueryset lookups packages vendor_id query tier) page ∧
          Rebuilds (ServicePackage._to_domain lookups.text)
            (packageQueryset lookups packages vendor_id query tier) page) ∧
    (∀ images vendor_id,
      HoldsPage (PortfolioImage._to_domain library) (imageQueryset images vendor_id) page
          (PortfolioImage.list_by_vendor library images vendor_id page) ↔
        WithinTotal (imageQueryset images vendor_id) page ∧
          Rebuilds (PortfolioImage._to_domain library) (imageQueryset images vendor_id) page) ∧
    (∀ inquiries vendor_id,
      HoldsPage (Inquiry._to_domain library) (vendorInquiries inquiries vendor_id) page
          (Inquiry.list_by_vendor library inquiries vendor_id page) ↔
        WithinTotal (vendorInquiries inquiries vendor_id) page ∧
          Rebuilds (Inquiry._to_domain library) (vendorInquiries inquiries vendor_id) page) ∧
    (∀ inquiries vendor_id search,
      HoldsPage (Inquiry._to_domain lookups.text)
          (inquiryQueryset lookups inquiries vendor_id search) page
          (Inquiry.search lookups inquiries vendor_id search page) ↔
        WithinTotal (inquiryQueryset lookups inquiries vendor_id search) page ∧
          Rebuilds (Inquiry._to_domain lookups.text)
            (inquiryQueryset lookups inquiries vendor_id search) page) ∧
    ∀ profiles packages vendor_id,
      (∃ mode, list_service_packages profiles packages vendor_id page = .ok {
        items := (page.slice (readQueryset packages vendor_id)).map ServicePackage.toDTO
        total := (readQueryset packages vendor_id).length
        limit := page.limit
        offset := page.offset
        pagination_mode := mode }) ↔ ∃ profile ∈ profiles, profile.id = vendor_id := by
  refine ⟨?_, ?_, ?_, ?_, ?_, ?_, ?_⟩
  · intro profiles status
    exact holdsPage_iff
  · intro packages vendor_id
    exact holdsPage_iff
  · intro packages vendor_id query tier
    exact holdsPage_iff
  · intro images vendor_id
    exact holdsPage_iff
  · intro inquiries vendor_id
    exact holdsPage_iff
  · intro inquiries vendor_id search
    exact holdsPage_iff
  · intro profiles packages vendor_id
    exact list_service_packages_holds_iff profiles packages vendor_id page

/-- A request for the third page, ten items each. -/
def thirdPage : PageRequest where
  limit := 10
  offset := 20
  cursor := none
  limit_pos := by decide
  limit_le := by decide
  offset_le := by decide
  cursor_ne := nofun
  cursor_length := nofun
  cursor_offset := nofun

/-- An inquiry that has been stored. -/
def storedInquiry : Inquiry where
  id := 1
  vendor_id := 2
  client_name := "Aline"
  client_email := "aline@example.rw"
  message := "Is the hall free in June?"
  client_phone := none
  event_date := none
  is_read := false
  version := 0
  created_at := 0
  requester_user_id := none

/-- A vendor with one inquiry: the third page is not empty, it raises. -/
theorem page_beyond_total_raises :
    Inquiry.list_by_vendor asciiLibrary [storedInquiry] 2 thirdPage =
        .error (.valueError "Page offset cannot exceed total.") ∧
      ¬HoldsPage (Inquiry._to_domain asciiLibrary) (vendorInquiries [storedInquiry] 2) thirdPage
        (Inquiry.list_by_vendor asciiLibrary [storedInquiry] 2 thirdPage) := by
  have hqueryset : vendorInquiries [storedInquiry] 2 = [storedInquiry] := by
    simp [vendorInquiries, storedInquiry]
  have hanswer : Inquiry.list_by_vendor asciiLibrary [storedInquiry] 2 thirdPage =
      .error (.valueError "Page offset cannot exceed total.") := by
    rw [Inquiry.list_by_vendor, hqueryset]
    rfl
  refine ⟨hanswer, ?_⟩
  rintro ⟨_, hitems, -⟩
  cases hanswer.symm.trans hitems

end Linkapro.Vendors
