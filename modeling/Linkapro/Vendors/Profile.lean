import Linkapro.Vendors.Revalidation

/-!
# Vendor profiles

The `VendorProfile` aggregate: its construction from arbitrary field values, the rules that
tie its status to its timestamps, and its operations.
-/

namespace Linkapro.Vendors

open Lib (Checked Stable)

inductive VendorStatus : Type where
  | draft
  | pending_review
  | approved
  | rejected
  | suspended
deriving DecidableEq, Repr

namespace VendorStatus

def all : List VendorStatus := [draft, pending_review, approved, rejected, suspended]

def value : VendorStatus → String
  | draft => "draft"
  | pending_review => "pending_review"
  | approved => "approved"
  | rejected => "rejected"
  | suspended => "suspended"

@[simp] theorem _normalize_value (field_name : String) (status : VendorStatus) :
    _normalize_enum field_name all value (.text status.value) = .valid status :=
  _normalize_enum_valueOf (by cases status <;> rfl)

end VendorStatus

inductive ServiceCategory : Type where
  | photography
  | catering
  | decor
  | venue
  | entertainment
  | transportation
  | attire
  | other
deriving DecidableEq, Repr

namespace ServiceCategory

def all : List ServiceCategory :=
  [photography, catering, decor, venue, entertainment, transportation, attire, other]

def value : ServiceCategory → String
  | photography => "photography"
  | catering => "catering"
  | decor => "decor"
  | venue => "venue"
  | entertainment => "entertainment"
  | transportation => "transportation"
  | attire => "attire"
  | other => "other"

@[simp] theorem _normalize_value (field_name : String) (category : ServiceCategory) :
    _normalize_enum field_name all value (.text category.value) = .valid category :=
  _normalize_enum_valueOf (by cases category <;> rfl)

end ServiceCategory

/-- The arguments of the dataclass constructor. -/
structure ProfileArguments : Type where
  id : Value
  user_id : Value
  business_name : Value
  category : Value
  description : Value
  service_area : Value
  contact_email : Value
  contact_phone : Value
  custom_category : Value := .none
  website : Value := .none
  profile_image_url : Value := .none
  profile_image_public_id : Value := .none
  cover_image_url : Value := .none
  cover_image_public_id : Value := .none
  status : Value := .text "draft"
  submitted_at : Value := .none
  approved_at : Value := .none
  rejected_at : Value := .none
  rejection_reason : Value := .none
  version : Value := .int 0
  created_at : Value
  updated_at : Value

/-- A vendor profile whose fields have passed their checks. -/
structure VendorProfile : Type where
  id : UUID
  user_id : UUID
  business_name : String
  category : ServiceCategory
  description : String
  service_area : String
  contact_email : String
  contact_phone : String
  custom_category : Option String
  website : Option String
  profile_image_url : Option String
  profile_image_public_id : Option String
  cover_image_url : Option String
  cover_image_public_id : Option String
  status : VendorStatus
  submitted_at : Option Datetime
  approved_at : Option Datetime
  rejected_at : Option Datetime
  rejection_reason : Option String
  version : ℕ
  created_at : Datetime
  updated_at : Datetime
deriving DecidableEq, Repr

/-- The fields of a profile as constructor arguments, as `dataclasses.replace` passes them. -/
def VendorProfile.arguments (self : VendorProfile) : ProfileArguments where
  id := .uuid self.id
  user_id := .uuid self.user_id
  business_name := .text self.business_name
  category := .text self.category.value
  description := .text self.description
  service_area := .text self.service_area
  contact_email := .text self.contact_email
  contact_phone := .text self.contact_phone
  custom_category := .ofText self.custom_category
  website := .ofText self.website
  profile_image_url := .ofText self.profile_image_url
  profile_image_public_id := .ofText self.profile_image_public_id
  cover_image_url := .ofText self.cover_image_url
  cover_image_public_id := .ofText self.cover_image_public_id
  status := .text self.status.value
  submitted_at := .ofDatetime self.submitted_at
  approved_at := .ofDatetime self.approved_at
  rejected_at := .ofDatetime self.rejected_at
  rejection_reason := .ofText self.rejection_reason
  version := .int self.version
  created_at := .datetime self.created_at
  updated_at := .datetime self.updated_at

inductive ProfileEvent : Type where
  | VendorSubmittedForReview (vendor_id user_id : UUID)
  | VendorApproved (vendor_id : UUID)
  | VendorRejected (vendor_id : UUID) (reason : String)
  | VendorSuspended (vendor_id : UUID) (reason : Option String)
  | VendorReinstated (vendor_id : UUID)
  | VendorProfileUpdated (vendor_id user_id : UUID)
deriving DecidableEq, Repr

/-- The code of `VendorProfileValidationError`. -/
def profileInvalid : String := "vendor_profile_invalid"

/-- `InvalidVendorTransition(message)`. -/
def InvalidVendorTransition (message : String) : Raised :=
  .transition "vendor_transition_invalid" message

namespace VendorProfile

variable (library : TextLibrary)

/-- The rules on the submission, approval and rejection of one status: which of the three
instants it requires and which it excludes. -/
def lifecycleErrors (self : VendorProfile) : List FieldError :=
  match self.status with
  | .draft =>
    complain (self.submitted_at ≠ none) "submitted_at"
      "Draft vendors cannot have submission metadata." ++
    complain (self.approved_at ≠ none) "approved_at"
      "Draft vendors cannot have approval metadata." ++
    complain (self.rejected_at ≠ none) "rejected_at"
      "Draft vendors cannot have rejection metadata."
  | .pending_review =>
    complain (self.submitted_at = none) "submitted_at" "Pending vendors require submitted_at." ++
    complain (self.approved_at ≠ none) "approved_at"
      "Pending vendors cannot have approval metadata." ++
    complain (self.rejected_at ≠ none) "rejected_at"
      "Pending vendors cannot have rejection metadata."
  | .approved =>
    complain (self.submitted_at = none) "submitted_at" "Approved vendors require submitted_at." ++
    complain (self.approved_at = none) "approved_at" "Approved vendors require approved_at." ++
    complain (self.rejected_at ≠ none) "rejected_at"
      "Approved vendors cannot have rejection metadata."
  | .rejected =>
    complain (self.submitted_at = none) "submitted_at" "Rejected vendors require submitted_at." ++
    complain (nonEmpty self.rejection_reason = none) "rejection_reason"
      "Rejection reason is required." ++
    complain (self.rejected_at = none) "rejected_at" "Rejected vendors require rejected_at." ++
    complain (self.approved_at ≠ none) "approved_at"
      "Rejected vendors cannot have approval metadata."
  | .suspended =>
    complain (self.submitted_at = none) "submitted_at" "Suspended vendors require submitted_at." ++
    complain (self.approved_at = none) "approved_at"
      "Suspended vendors require previous approval metadata." ++
    complain (self.rejected_at ≠ none) "rejected_at"
      "Suspended vendors cannot have rejection metadata."

/-- `value and value > self.updated_at` of a lifecycle timestamp. -/
def lateErrors (self : VendorProfile) (field_name : String) (instant : Option Datetime) :
    List FieldError :=
  complain (instant.any fun instant => self.updated_at < instant) field_name
    "Lifecycle timestamp cannot be after updated_at."

/-- The rules of `validate_invariants` that look at more than one field. The source adds
their complaints to those of single fields; here they follow once every field has passed. -/
def invariantErrors (_library : TextLibrary) (self : VendorProfile) : List FieldError :=
  complain (self.category = .other ∧ nonEmpty self.custom_category = none) "custom_category"
    "Tell us what service you provide when choosing Other." ++
  complain (self.category ≠ .other ∧ nonEmpty self.custom_category ≠ none) "custom_category"
    "Custom category is only allowed when category is Other." ++
  _validate_public_id_url_pair self.profile_image_url self.profile_image_public_id
    "profile_image_url" "profile_image_public_id" ++
  _validate_public_id_url_pair self.cover_image_url self.cover_image_public_id
    "cover_image_url" "cover_image_public_id" ++
  self.lifecycleErrors ++
  complain (self.status ≠ .rejected ∧ nonEmpty self.rejection_reason ≠ none) "rejection_reason"
    "Only rejected vendors can have rejection metadata." ++
  complain (self.submitted_at.any fun submitted => submitted < self.created_at) "submitted_at"
    "Submission cannot happen before creation." ++
  complain (self.approved_at.any fun approved => self.submitted_at.any fun submitted =>
    approved < submitted) "approved_at" "Approval cannot happen before submission." ++
  complain (self.rejected_at.any fun rejected => self.submitted_at.any fun submitted =>
    rejected < submitted) "rejected_at" "Rejection cannot happen before submission." ++
  self.lateErrors "submitted_at" self.submitted_at ++
  self.lateErrors "approved_at" self.approved_at ++
  self.lateErrors "rejected_at" self.rejected_at ++
  complain (self.description.length < MIN_VENDOR_DESCRIPTION_LENGTH) "description"
    "Use at least 20 characters for your description." ++
  complain (self.updated_at < self.created_at) "updated_at"
    "Updated timestamp cannot be before creation."

/-- The checks of the single fields. -/
def checkedFields (arguments : ProfileArguments) : Checked FieldError VendorProfile :=
  VendorProfile.mk
    <$> _normalize_uuid library "id" arguments.id
    <*> _normalize_uuid library "user_id" arguments.user_id
    <*> _normalize_text library "business_name" TEXT_LIMITS.business_name 1
      arguments.business_name
    <*> _normalize_enum "category" ServiceCategory.all ServiceCategory.value arguments.category
    <*> _normalize_text library "description" TEXT_LIMITS.description 1 arguments.description
    <*> _normalize_text library "service_area" TEXT_LIMITS.service_area 1 arguments.service_area
    <*> _normalize_email library "contact_email" arguments.contact_email
    <*> _normalize_phone library "contact_phone" arguments.contact_phone
    <*> _normalize_optional_text library "custom_category" TEXT_LIMITS.custom_category
      arguments.custom_category
    <*> _normalize_safe_url library "website" TEXT_LIMITS.website arguments.website
    <*> _normalize_public_media_url library "profile_image_url" TEXT_LIMITS.profile_image_url
      arguments.profile_image_url
    <*> _normalize_optional_text library "profile_image_public_id" TEXT_LIMITS.public_id
      arguments.profile_image_public_id
    <*> _normalize_public_media_url library "cover_image_url" TEXT_LIMITS.cover_image_url
      arguments.cover_image_url
    <*> _normalize_optional_text library "cover_image_public_id" TEXT_LIMITS.public_id
      arguments.cover_image_public_id
    <*> _normalize_enum "status" VendorStatus.all VendorStatus.value arguments.status
    <*> _normalize_datetime "submitted_at" arguments.submitted_at
    <*> _normalize_datetime "approved_at" arguments.approved_at
    <*> _normalize_datetime "rejected_at" arguments.rejected_at
    <*> _normalize_optional_text library "rejection_reason" TEXT_LIMITS.rejection_reason
      arguments.rejection_reason
    <*> _normalize_version arguments.version
    <*> _normalize_required_datetime "created_at" arguments.created_at
    <*> _normalize_required_datetime "updated_at" arguments.updated_at

/-- The constructor: the dataclass fields, then `validate_invariants`. -/
def construct (arguments : ProfileArguments) : Except Raised VendorProfile :=
  ((checkedFields library arguments).ensure (invariantErrors library)).toExcept
    (Raised.invalid profileInvalid)

end VendorProfile

/-- Every field of a constructed profile is the accepted form of its argument, and the rules
about the whole profile have no complaint. -/
structure ProfileArguments.Yield (library : TextLibrary) (arguments : ProfileArguments) (profile :
    VendorProfile) : Prop where
  id : _normalize_uuid library "id" arguments.id = .valid profile.id
  user_id : _normalize_uuid library "user_id" arguments.user_id = .valid profile.user_id
  business_name : _normalize_text library "business_name" TEXT_LIMITS.business_name 1
    arguments.business_name = .valid profile.business_name
  category : _normalize_enum "category" ServiceCategory.all ServiceCategory.value
    arguments.category = .valid profile.category
  description : _normalize_text library "description" TEXT_LIMITS.description 1
    arguments.description = .valid profile.description
  service_area : _normalize_text library "service_area" TEXT_LIMITS.service_area 1
    arguments.service_area = .valid profile.service_area
  contact_email : _normalize_email library "contact_email" arguments.contact_email = .valid
    profile.contact_email
  contact_phone : _normalize_phone library "contact_phone" arguments.contact_phone = .valid
    profile.contact_phone
  custom_category : _normalize_optional_text library "custom_category" TEXT_LIMITS.custom_category
    arguments.custom_category = .valid profile.custom_category
  website : _normalize_safe_url library "website" TEXT_LIMITS.website arguments.website = .valid
    profile.website
  profile_image_url : _normalize_public_media_url library "profile_image_url"
    TEXT_LIMITS.profile_image_url arguments.profile_image_url = .valid profile.profile_image_url
  profile_image_public_id : _normalize_optional_text library "profile_image_public_id"
    TEXT_LIMITS.public_id arguments.profile_image_public_id = .valid
    profile.profile_image_public_id
  cover_image_url : _normalize_public_media_url library "cover_image_url"
    TEXT_LIMITS.cover_image_url arguments.cover_image_url = .valid profile.cover_image_url
  cover_image_public_id : _normalize_optional_text library "cover_image_public_id"
    TEXT_LIMITS.public_id arguments.cover_image_public_id = .valid profile.cover_image_public_id
  status : _normalize_enum "status" VendorStatus.all VendorStatus.value arguments.status = .valid
    profile.status
  submitted_at : _normalize_datetime "submitted_at" arguments.submitted_at = .valid
    profile.submitted_at
  approved_at : _normalize_datetime "approved_at" arguments.approved_at = .valid
    profile.approved_at
  rejected_at : _normalize_datetime "rejected_at" arguments.rejected_at = .valid
    profile.rejected_at
  rejection_reason : _normalize_optional_text library "rejection_reason"
    TEXT_LIMITS.rejection_reason arguments.rejection_reason = .valid profile.rejection_reason
  version : _normalize_version arguments.version = .valid profile.version
  created_at : _normalize_required_datetime "created_at" arguments.created_at = .valid
    profile.created_at
  updated_at : _normalize_required_datetime "updated_at" arguments.updated_at = .valid
    profile.updated_at
  rules : VendorProfile.invariantErrors library profile = []

namespace VendorProfile

variable (library : TextLibrary)

variable {library} in
theorem construct_eq_ok_iff {arguments : ProfileArguments} {profile : VendorProfile} :
    construct library arguments = .ok profile ↔ arguments.Yield library profile := by
  rw [construct, Checked.toExcept_eq_ok_iff, Checked.ensure_eq_valid_iff, checkedFields,
    Checked.eq_valid_iff_gives]
  simp only [Checked.gives_seq, Checked.gives_map]
  constructor
  · rintro ⟨hfields, hrules⟩
    obtain ⟨_, hid, _, huser_id, _, hbusiness_name, _, hcategory, _, hdescription,
      _, hservice_area, _, hcontact_email, _, hcontact_phone, _, hcustom_category, _, hwebsite,
      hfields⟩ := hfields
    obtain ⟨_, hprofile_image_url, _, hprofile_image_public_id, _, hcover_image_url,
      _, hcover_image_public_id, _, hstatus, _, hsubmitted_at, _, happroved_at, _, hrejected_at,
      _, hrejection_reason, _, hversion, hfields⟩ := hfields
    obtain ⟨_, hcreated_at, _, hupdated_at, hprofile⟩ := hfields
    subst hprofile
    exact ⟨hid, huser_id, hbusiness_name, hcategory, hdescription, hservice_area, hcontact_email,
      hcontact_phone, hcustom_category, hwebsite, hprofile_image_url, hprofile_image_public_id,
      hcover_image_url, hcover_image_public_id, hstatus, hsubmitted_at, happroved_at,
      hrejected_at, hrejection_reason, hversion, hcreated_at, hupdated_at, hrules⟩
  · intro h
    exact ⟨⟨_, h.id, _, h.user_id, _, h.business_name, _, h.category, _, h.description,
      _, h.service_area, _, h.contact_email, _, h.contact_phone, _, h.custom_category,
      _, h.website, _, h.profile_image_url, _, h.profile_image_public_id, _, h.cover_image_url,
      _, h.cover_image_public_id, _, h.status, _, h.submitted_at, _, h.approved_at,
      _, h.rejected_at, _, h.rejection_reason, _, h.version, _, h.created_at, _, h.updated_at,
      rfl⟩, h.rules⟩

-- What a construction gives is read off `construct_eq_ok_iff` from here on.
attribute [irreducible] construct

/-- `self.validate_invariants()`: the fields are checked as they stand, and normalised. -/
def validate_invariants (self : VendorProfile) : Except Raised VendorProfile :=
  construct library self.arguments

/-- A profile that construction has accepted passes its validation when its e-mail address
passes its check again, and nothing but the address may change. An address is put into lower
case after its length has been checked, so that it need not pass. -/
theorem validate_of_construct {library : TextLibrary} (hlibrary : library.Documented)
    {arguments : ProfileArguments} {profile : VendorProfile}
    (h : construct library arguments = .ok profile) {email : String}
    (hemail : validate_email library (.text profile.contact_email) = .ok email) :
    profile.validate_invariants library = .ok { profile with contact_email := email } := by
  have h := construct_eq_ok_iff.mp h
  exact construct_eq_ok_iff.mpr {
    id := stable_normalize_uuid _ h.id
    user_id := stable_normalize_uuid _ h.user_id
    business_name := stable_normalize_text hlibrary _ _ _ h.business_name
    category := ServiceCategory._normalize_value _ _
    description := stable_normalize_text hlibrary _ _ _ h.description
    service_area := stable_normalize_text hlibrary _ _ _ h.service_area
    contact_email := underField_eq_valid_iff.mpr hemail
    contact_phone := stable_normalize_phone hlibrary _ h.contact_phone
    custom_category := stable_normalize_optional_text hlibrary _ _ h.custom_category
    website := stable_normalize_safe_url hlibrary _ _ h.website
    profile_image_url := stable_normalize_public_media_url hlibrary _ _ h.profile_image_url
    profile_image_public_id :=
      stable_normalize_optional_text hlibrary _ _ h.profile_image_public_id
    cover_image_url := stable_normalize_public_media_url hlibrary _ _ h.cover_image_url
    cover_image_public_id := stable_normalize_optional_text hlibrary _ _ h.cover_image_public_id
    status := VendorStatus._normalize_value _ _
    submitted_at := stable_normalize_datetime _ h.submitted_at
    approved_at := stable_normalize_datetime _ h.approved_at
    rejected_at := stable_normalize_datetime _ h.rejected_at
    rejection_reason := stable_normalize_optional_text hlibrary _ _ h.rejection_reason
    version := stable_normalize_version h.version
    created_at := stable_normalize_required_datetime _ h.created_at
    updated_at := stable_normalize_required_datetime _ h.updated_at
    rules := h.rules }

/-- A constructed profile that has passed its validation passes every later one. -/
theorem validate_of_validate {library : TextLibrary} (hlibrary : library.Documented)
    {arguments : ProfileArguments} {profile entity : VendorProfile}
    (hconstruct : construct library arguments = .ok profile)
    (hvalid : profile.validate_invariants library = .ok entity) :
    entity.validate_invariants library = .ok entity := by
  have hfirst := (construct_eq_ok_iff.mp hconstruct).contact_email
  have hsecond := (construct_eq_ok_iff.mp hvalid).contact_email
  exact validate_of_construct hlibrary hvalid (validate_email_again hlibrary
    (underField_eq_valid_iff.mp hfirst) (underField_eq_valid_iff.mp hsecond))

/-- The version takes no part in the validation. -/
theorem validate_setVersion {library : TextLibrary} {profile : VendorProfile}
    (h : profile.validate_invariants library = .ok profile) (version : ℕ) :
    validate_invariants library { profile with version } = .ok { profile with version } :=
  construct_eq_ok_iff.mpr
    { construct_eq_ok_iff.mp h with version := _normalize_version_int version }

/-- A profile as `_commit_candidate` handles it. -/
def kind : EntityKind VendorProfile where
  validate_invariants := validate_invariants library
  version := VendorProfile.version
  setVersion self version := { self with version }
  version_setVersion _ _ := rfl

/-- `_validate_rehydrate_input`. -/
def rehydrateInputErrors (row : VendorProfile) : List FieldError :=
  complain (row.status = .pending_review ∧ row.submitted_at = none) "submitted_at"
    "Pending vendors require submitted_at." ++
  complain (row.status = .approved ∧ row.approved_at = none) "approved_at"
    "Approved vendors require approved_at." ++
  complain (row.status = .rejected ∧ row.rejected_at = none) "rejected_at"
    "Rejected vendors require rejected_at." ++
  complain (row.status = .rejected ∧ nonEmpty row.rejection_reason = none) "rejection_reason"
    "Rejected vendors require rejection_reason."

/-- `VendorProfile.rehydrate` of a stored row. What `_validate_strict_rehydration` looks at
after the construction has passed `validate_invariants`. -/
def rehydrate (row : VendorProfile) : Except Raised (Aggregate VendorProfile ProfileEvent) := do
  if rehydrateInputErrors row ≠ [] then
    throw (.invalid profileInvalid (rehydrateInputErrors row))
  let profile ← validate_invariants library row
  return { entity := profile, events := [] }

/-- `get_profile_completion_errors`. -/
def get_profile_completion_errors (self : VendorProfile) : List FieldError :=
  complain (isBlank self.business_name) "business_name" "This field is required." ++
  (if self.description ≠ "" ∧ (strip self.description).length < MIN_VENDOR_DESCRIPTION_LENGTH then
    [("description", "Use at least 20 characters for your description.")]
  else complain (isBlank self.description) "description" "This field is required.") ++
  complain (isBlank self.service_area) "service_area" "This field is required." ++
  complain (isBlank self.contact_email) "contact_email" "This field is required." ++
  complain (isBlank self.contact_phone) "contact_phone" "This field is required." ++
  complain (self.category = .other ∧ isBlank (self.custom_category.getD "")) "custom_category"
    "Tell us what service you provide when choosing Other."

/-- The event an operation records, at the given instant. -/
def recorded (self : VendorProfile) (reading : Reading) (content : ProfileEvent) :
    Option (ℕ → VendorDomainEvent ProfileEvent) :=
  some fun version => {
    event_id := reading.event_id
    occurred_at := reading.now
    aggregate_id := self.id
    aggregate_version := version
    content }

end VendorProfile

/-- The arguments of `update_details`; a missing one is `_UNSET`. -/
structure ProfileDetails : Type where
  business_name : Option Value := none
  category : Option Value := none
  description : Option Value := none
  service_area : Option Value := none
  contact_email : Option Value := none
  contact_phone : Option Value := none
  custom_category : Option Value := none
  website : Option Value := none
  profile_image_url : Option Value := none
  profile_image_public_id : Option Value := none
  cover_image_url : Option Value := none
  cover_image_public_id : Option Value := none
deriving DecidableEq, Repr

namespace VendorProfile

variable (library : TextLibrary)

/-- The arguments of the first candidate of `update_details`. -/
def updated (self : VendorProfile) (details : ProfileDetails) : ProfileArguments :=
  { self.arguments with
    business_name := details.business_name.getD self.arguments.business_name
    category := details.category.getD self.arguments.category
    description := details.description.getD self.arguments.description
    service_area := details.service_area.getD self.arguments.service_area
    contact_email := details.contact_email.getD self.arguments.contact_email
    contact_phone := details.contact_phone.getD self.arguments.contact_phone
    custom_category := details.custom_category.getD self.arguments.custom_category
    website := details.website.getD self.arguments.website
    profile_image_url := details.profile_image_url.getD self.arguments.profile_image_url
    profile_image_public_id :=
      details.profile_image_public_id.getD self.arguments.profile_image_public_id
    cover_image_url := details.cover_image_url.getD self.arguments.cover_image_url
    cover_image_public_id :=
      details.cover_image_public_id.getD self.arguments.cover_image_public_id }

/-- The two agree in every field of `changed_fields`. -/
def SameDetails (candidate self : VendorProfile) : Prop :=
  candidate.business_name = self.business_name ∧ candidate.category = self.category ∧
    candidate.description = self.description ∧ candidate.service_area = self.service_area ∧
    candidate.contact_email = self.contact_email ∧
    candidate.contact_phone = self.contact_phone ∧
    candidate.custom_category = self.custom_category ∧ candidate.website = self.website ∧
    candidate.profile_image_url = self.profile_image_url ∧
    candidate.profile_image_public_id = self.profile_image_public_id ∧
    candidate.cover_image_url = self.cover_image_url ∧
    candidate.cover_image_public_id = self.cover_image_public_id

instance (candidate self : VendorProfile) : Decidable (SameDetails candidate self) := by
  unfold SameDetails
  exact inferInstance

def update_details (reading : Reading) (details : ProfileDetails) :
    Operation VendorProfile ProfileEvent := fun self => do
  let first ← construct library (self.updated details)
  if SameDetails first self then
    return .unchanged
  let candidate ← construct library { first.arguments with updated_at := .datetime reading.now }
  return .commit candidate
    (recorded self reading (.VendorProfileUpdated self.id self.user_id))

def submit_for_review (reading : Reading) : Operation VendorProfile ProfileEvent := fun self => do
  if self.status ∉ [.draft, .rejected] then
    throw (InvalidVendorTransition s!"Cannot submit from status {self.status.value}")
  if self.get_profile_completion_errors ≠ [] then
    throw (.domainError profileInvalid "Vendor profile setup is incomplete."
      self.get_profile_completion_errors)
  let candidate ← construct library { self.arguments with
    status := .text VendorStatus.pending_review.value
    submitted_at := .datetime reading.now
    approved_at := .none
    rejected_at := .none
    rejection_reason := .none
    updated_at := .datetime reading.now }
  return .commit candidate
    (recorded self reading (.VendorSubmittedForReview self.id self.user_id))

def approve (reading : Reading) : Operation VendorProfile ProfileEvent := fun self => do
  if self.status ≠ .pending_review then
    throw (InvalidVendorTransition "Only pending profiles can be approved")
  let candidate ← construct library { self.arguments with
    status := .text VendorStatus.approved.value
    approved_at := .datetime reading.now
    rejected_at := .none
    rejection_reason := .none
    updated_at := .datetime reading.now }
  return .commit candidate (recorded self reading (.VendorApproved self.id))

def reject (reading : Reading) (reason : Value) : Operation VendorProfile ProfileEvent :=
  fun self => do
  if self.status ≠ .pending_review then
    throw (InvalidVendorTransition "Only pending profiles can be rejected")
  let clean_reason ← _validated_transition_reason library "rejection_reason" profileInvalid reason
  let candidate ← construct library { self.arguments with
    status := .text VendorStatus.rejected.value
    approved_at := .none
    rejected_at := .datetime reading.now
    rejection_reason := .text clean_reason
    updated_at := .datetime reading.now }
  return .commit candidate (recorded self reading (.VendorRejected self.id clean_reason))

/-- The reason of a suspension; `None` stands for none. -/
def suspensionReason (reason : Value) : Except Raised (Option String) :=
  if reason = .none then .ok none
  else some <$> _validated_transition_reason library "reason" profileInvalid reason

def suspend (reading : Reading) (reason : Value) : Operation VendorProfile ProfileEvent :=
  fun self => do
  if self.status ≠ .approved then
    throw (InvalidVendorTransition "Only approved vendors can be suspended")
  let reason ← suspensionReason library reason
  let candidate ← construct library { self.arguments with
    status := .text VendorStatus.suspended.value
    updated_at := .datetime reading.now }
  return .commit candidate (recorded self reading (.VendorSuspended self.id reason))

def reinstate (reading : Reading) : Operation VendorProfile ProfileEvent := fun self => do
  if self.status ≠ .suspended then
    throw (InvalidVendorTransition "Only suspended vendors can be reinstated")
  let candidate ← construct library { self.arguments with
    status := .text VendorStatus.approved.value
    updated_at := .datetime reading.now }
  return .commit candidate (recorded self reading (.VendorReinstated self.id))

end VendorProfile

/-- A call of a domain operation of a profile. -/
inductive ProfileOperation : Type where
  | update_details (details : ProfileDetails)
  | submit_for_review
  | approve
  | reject (reason : Value)
  | suspend (reason : Value)
  | reinstate
deriving DecidableEq, Repr

/-- The operation a call runs. -/
def ProfileOperation.run (library : TextLibrary) (reading : Reading) :
    ProfileOperation → Operation VendorProfile ProfileEvent
  | update_details details => VendorProfile.update_details library reading details
  | submit_for_review => VendorProfile.submit_for_review library reading
  | approve => VendorProfile.approve library reading
  | reject reason => VendorProfile.reject library reading reason
  | suspend reason => VendorProfile.suspend library reading reason
  | reinstate => VendorProfile.reinstate library reading

/-- One call in a run of a profile. -/
abbrev ProfileCall : Type := Performed ProfileOperation VendorProfile ProfileEvent

/-- The calls of a run on a profile object, in order. -/
def profileHistory (library : TextLibrary) (self : Aggregate VendorProfile ProfileEvent)
    (calls : List (ProfileOperation × Reading)) : List ProfileCall :=
  self.history (VendorProfile.kind library) (fun reading => ProfileOperation.run library reading)
    calls

end Linkapro.Vendors
