import Mathlib.Data.List.Infix
import Linkapro.Vendors.Revalidation

/-!
# Service packages

The `ServicePackage` aggregate: its construction from arbitrary field values, the tier and
cooldown rules of `packages/rules.py`, and its operations.
-/

namespace Linkapro.Vendors

open Lib (Checked Stable)

inductive PackageTier : Type where
  | standard
  | premier
  | gold
deriving DecidableEq, Repr

namespace PackageTier

def all : List PackageTier := [standard, premier, gold]

def value : PackageTier → String
  | standard => "standard"
  | premier => "premier"
  | gold => "gold"

/-- `PACKAGE_TIER_LABELS`. -/
def label : PackageTier → String
  | standard => "Standard"
  | premier => "Premier"
  | gold => "Gold"

/-- `PACKAGE_TIER_RULES[…]["min_price"]`. -/
def min_price : PackageTier → ℚ
  | standard => 1
  | premier => 50000
  | gold => 100000

/-- The same bound as the message shows it. -/
def min_price_text : PackageTier → String
  | standard => "1"
  | premier => "50,000"
  | gold => "100,000"

/-- `PACKAGE_TIER_RULES[…]["min_description_length"]`. -/
def min_description_length : PackageTier → ℕ
  | standard => 30
  | premier => 50
  | gold => 80

@[simp] theorem _normalize_value (field_name : String) (tier : PackageTier) :
    _normalize_enum field_name all value (.text tier.value) = .valid tier :=
  _normalize_enum_valueOf (by cases tier <;> rfl)

end PackageTier

inductive PackageApprovalStatus : Type where
  | waiting_approval
  | approved
  | rejected
deriving DecidableEq, Repr

namespace PackageApprovalStatus

def all : List PackageApprovalStatus := [waiting_approval, approved, rejected]

def value : PackageApprovalStatus → String
  | waiting_approval => "waiting_approval"
  | approved => "approved"
  | rejected => "rejected"

@[simp] theorem _normalize_value (field_name : String) (status : PackageApprovalStatus) :
    _normalize_enum field_name all value (.text status.value) = .valid status :=
  _normalize_enum_valueOf (by cases status <;> rfl)

end PackageApprovalStatus

/-- The arguments of the dataclass constructor. -/
structure PackageArguments : Type where
  id : Value
  vendor_id : Value
  name : Value
  description : Value
  price : Value
  currency : Value := .text "RWF"
  package_tier : Value := .text "standard"
  approval_status : Value := .text "waiting_approval"
  rejection_reason : Value := .none
  is_active : Value := .bool false
  is_deleted : Value := .bool false
  deleted_at : Value := .none
  last_approved_at : Value := .none
  last_vendor_public_edit_at : Value := .none
  next_vendor_edit_allowed_at : Value := .none
  version : Value := .int 0
  created_at : Value
  updated_at : Value

/-- A package whose fields have passed their checks. -/
structure ServicePackage : Type where
  id : UUID
  vendor_id : UUID
  name : String
  description : String
  price : Decimal
  currency : String
  package_tier : PackageTier
  approval_status : PackageApprovalStatus
  rejection_reason : Option String
  is_active : Bool
  is_deleted : Bool
  deleted_at : Option Datetime
  last_approved_at : Option Datetime
  last_vendor_public_edit_at : Option Datetime
  next_vendor_edit_allowed_at : Option Datetime
  version : ℕ
  created_at : Datetime
  updated_at : Datetime
deriving DecidableEq, Repr

/-- The fields of a package as constructor arguments, as `dataclasses.replace` passes them. -/
def ServicePackage.arguments (self : ServicePackage) : PackageArguments where
  id := .uuid self.id
  vendor_id := .uuid self.vendor_id
  name := .text self.name
  description := .text self.description
  price := .decimal self.price
  currency := .text self.currency
  package_tier := .text self.package_tier.value
  approval_status := .text self.approval_status.value
  rejection_reason := .ofText self.rejection_reason
  is_active := .bool self.is_active
  is_deleted := .bool self.is_deleted
  deleted_at := .ofDatetime self.deleted_at
  last_approved_at := .ofDatetime self.last_approved_at
  last_vendor_public_edit_at := .ofDatetime self.last_vendor_public_edit_at
  next_vendor_edit_allowed_at := .ofDatetime self.next_vendor_edit_allowed_at
  version := .int self.version
  created_at := .datetime self.created_at
  updated_at := .datetime self.updated_at

inductive PackageEvent : Type where
  | ServicePackageCreated (package_id vendor_id : UUID)
  | ServicePackageUpdated (package_id vendor_id : UUID)
  | ServicePackageSubmittedForApproval (package_id vendor_id : UUID)
  | ServicePackageApproved (package_id vendor_id : UUID)
  | ServicePackageRejected (package_id vendor_id : UUID) (reason : String)
  | ServicePackageActivated (package_id vendor_id : UUID)
  | ServicePackageDeactivated (package_id vendor_id : UUID)
deriving DecidableEq, Repr

/-! ### `packages/rules.py` -/

def RESTRICTED_STANDARD_TERMS : List String := ["premium", "premier", "exclusive", "vip", "gold"]

def MISLEADING_GUARANTEE_TERMS : List String :=
  ["guaranteed approval", "guaranteed success", "risk-free guarantee"]

def VENDOR_PACKAGE_EDIT_COOLDOWN : Timedelta := days 15

/-- The code of `PackageValidationError`. -/
def packageInvalid : String := "service_package_invalid"

/-- `InvalidPackageTransition(message)`. -/
def InvalidPackageTransition (message : String) : Raised :=
  .transition "service_package_transition_invalid" message

/-- `term in text`. -/
def mentions (text term : String) : Bool := decide (term.toList <:+: text.toList)

section Rules

variable (library : TextLibrary)

/-- The complaint about the price that `positive_decimal` leads to. -/
def priceComplaint (message : String) : String :=
  if mentions message "finite" then "Package price must be a finite amount."
  else if mentions message "decimal places" then
    "Package price must use no more than 2 decimal places."
  else if mentions message "no more" then "Package price must not exceed RWF 9,999,999,999.99."
  else "Package price must be greater than 0."

/-- `validate_service_package_rules`, with the complaints it raises. The tier is one of the
enumeration by then. -/
def validate_service_package_rules (name description : String) (price : Decimal)
    (tier : PackageTier) : List FieldError :=
  let nameText := bounded_text library TEXT_LIMITS.package_name 1 (.text name)
  let descriptionText := bounded_text library TEXT_LIMITS.package_description 1 (.text description)
  let priceValue := positive_decimal library (.decimal price)
  let clean_name := nameText.toOption.getD (strip name)
  let clean_description := descriptionText.toOption.getD (strip description)
  let lowered_name := library.lower clean_name
  let advertised := lowered_name ++ " " ++ library.lower clean_description
  (match nameText with
    | .ok _ => []
    | .error message =>
      [("name", if strip name = "" then "Package name is required." else message)]) ++
  (match descriptionText with
    | .ok _ => []
    | .error message => [("description", message)]) ++
  (match priceValue with
    | .ok amount => complain (amount.value < tier.min_price) "price"
      s!"{tier.label} packages must be priced at least RWF {tier.min_price_text}."
    | .error message => [("price", priceComplaint message)]) ++
  complain (clean_description ≠ "" ∧ clean_description.length < tier.min_description_length)
    "description" (s!"{tier.label} packages must include at least {tier.min_description_length} " ++
      "characters explaining deliverables and terms.") ++
  complain (has_control_characters clean_description) "description"
    "Control characters are not allowed." ++
  complain (tier = .standard ∧ RESTRICTED_STANDARD_TERMS.any (mentions lowered_name)) "name"
    "Standard packages cannot claim premium, exclusive, VIP, or Gold positioning." ++
  complain (tier = .gold ∧ MISLEADING_GUARANTEE_TERMS.any (mentions advertised)) "description"
    "Gold packages must avoid misleading guarantee claims."

/-- `coerce_package_price(value)`. -/
def coerce_package_price (value : Value) : Except String Decimal :=
  match positive_decimal library value with
  | .ok price => .ok price
  | .error _ => .error "Package price must be a valid decimal amount."

/-- `_normalize_public_text(value)`. -/
def _normalize_public_text (value : Value) : Except String String :=
  strip <$> bounded_text library 5000 1 value

/-- Let a `ValueError` through. -/
def orValueError {α : Type} : Except String α → Except Raised α
  | .ok value => .ok value
  | .error message => .error (.valueError message)

/-- `(value or "").strip().lower()`. -/
def loweredTier (value : Value) : Except Raised String :=
  if value.truthy then
    match value with
    | .text text => .ok (library.lower (strip text))
    | _ => .error .attributeError
  else .ok ""

/-- The fields that the public sees, as they arrive at an edit. -/
structure PublicFields : Type where
  name : Value
  description : Value
  price : Value
  currency : Value
  package_tier : Value
deriving DecidableEq, Repr

/-- `package_public_fields_changed(package, …)` with all five values given. -/
def package_public_fields_changed (package : ServicePackage) (next : PublicFields) :
    Except Raised Bool := do
  let name ← orValueError (_normalize_public_text library next.name)
  if name ≠ (← orValueError (_normalize_public_text library (.text package.name))) then
    return true
  let description ← orValueError (_normalize_public_text library next.description)
  if description ≠
      (← orValueError (_normalize_public_text library (.text package.description))) then
    return true
  match coerce_package_price library next.price with
  | .error message => throw (.invalid packageInvalid [("price", message)])
  | .ok price =>
    if price.value ≠ package.price.value then
      return true
    let currency ← orValueError (normalize_currency library next.currency)
    if currency ≠ (← orValueError (normalize_currency library (.text package.currency))) then
      return true
    return (← loweredTier library next.package_tier) ≠
      (← loweredTier library (.text package.package_tier.value))

end Rules

/-- `approval_based_next_edit_allowed_at(package)`. -/
def approval_based_next_edit_allowed_at (package : ServicePackage) : Option Datetime :=
  if package.approval_status = .approved then
    some (package.last_approved_at.getD package.updated_at + VENDOR_PACKAGE_EDIT_COOLDOWN)
  else none

/-- `effective_next_edit_allowed_at(package)`. -/
def effective_next_edit_allowed_at (package : ServicePackage) : Except Raised (Option Datetime) :=
  let stored := package.next_vendor_edit_allowed_at
  let approval := approval_based_next_edit_allowed_at package
  if stored.any fun next => package.last_vendor_public_edit_at.any fun last => next < last then
    .error (.invalid packageInvalid
      [("next_vendor_edit_allowed_at", "Next edit time cannot be before the last edit.")])
  else
    match stored, approval with
    | some stored, some approval => .ok (some (max stored approval))
    | some stored, none => .ok (some stored)
    | none, approval => .ok approval

/-- `ensure_vendor_package_edit_allowed(package, public_fields_changed=True, now=now)`. -/
def ensure_vendor_package_edit_allowed (package : ServicePackage) (now : Datetime) :
    Except Raised Unit := do
  if let some next_allowed ← effective_next_edit_allowed_at package then
    if now < next_allowed then
      throw (.packageEditCooldown next_allowed)

/-! ### The aggregate -/

namespace ServicePackage

variable (library : TextLibrary)

/-- The rules of `validate_invariants` that look at more than one field. The source adds
their complaints to those of single fields; here they follow once every field has passed. -/
def invariantErrors (self : ServicePackage) : List FieldError :=
  complain (self.is_deleted ∧ self.is_active) "is_active" "Deleted packages must be inactive." ++
  complain (self.is_deleted ∧ self.deleted_at = none) "deleted_at"
    "Deleted packages require deleted_at." ++
  complain (self.approval_status = .approved ∧ self.last_approved_at = none) "last_approved_at"
    "Approved packages require last_approved_at." ++
  complain (self.approval_status = .waiting_approval ∧ self.is_active) "is_active"
    "Waiting approval packages cannot be active." ++
  complain (self.approval_status = .rejected ∧ self.is_active) "is_active"
    "Rejected packages cannot be active." ++
  complain (self.approval_status = .rejected ∧ nonEmpty self.rejection_reason = none)
    "rejection_reason" "Rejected packages require rejection_reason." ++
  complain (self.approval_status ≠ .rejected ∧ nonEmpty self.rejection_reason ≠ none)
    "rejection_reason" "Only rejected packages can have rejection metadata." ++
  complain (self.next_vendor_edit_allowed_at.any fun next =>
      self.last_vendor_public_edit_at.any fun last => next < last)
    "next_vendor_edit_allowed_at" "Next edit time cannot be before the last edit." ++
  validate_service_package_rules library self.name self.description self.price self.package_tier

/-- The checks of the single fields. -/
def checkedFields (arguments : PackageArguments) : Checked FieldError ServicePackage :=
  ServicePackage.mk
    <$> _normalize_uuid library "id" arguments.id
    <*> _normalize_uuid library "vendor_id" arguments.vendor_id
    <*> _normalize_text library "name" TEXT_LIMITS.package_name 1 arguments.name
    <*> _normalize_text library "description" TEXT_LIMITS.package_description 1
      arguments.description
    <*> _normalize_price library arguments.price
    <*> _normalize_currency_value library arguments.currency
    <*> _normalize_enum "package_tier" PackageTier.all PackageTier.value arguments.package_tier
    <*> _normalize_enum "approval_status" PackageApprovalStatus.all PackageApprovalStatus.value
      arguments.approval_status
    <*> _normalize_optional_text library "rejection_reason" TEXT_LIMITS.rejection_reason
      arguments.rejection_reason
    <*> _normalize_bool "is_active" arguments.is_active
    <*> _normalize_bool "is_deleted" arguments.is_deleted
    <*> _normalize_datetime "deleted_at" arguments.deleted_at
    <*> _normalize_datetime "last_approved_at" arguments.last_approved_at
    <*> _normalize_datetime "last_vendor_public_edit_at" arguments.last_vendor_public_edit_at
    <*> _normalize_datetime "next_vendor_edit_allowed_at" arguments.next_vendor_edit_allowed_at
    <*> _normalize_version arguments.version
    <*> _normalize_required_datetime "created_at" arguments.created_at
    <*> _normalize_required_datetime "updated_at" arguments.updated_at

/-- The constructor: the dataclass fields, then `validate_invariants`. -/
def construct (arguments : PackageArguments) : Except Raised ServicePackage :=
  ((checkedFields library arguments).ensure (invariantErrors library)).toExcept
    (Raised.invalid packageInvalid)

end ServicePackage

/-- Every field of a constructed package is the accepted form of its argument, and the rules
about the whole package have no complaint. -/
structure PackageArguments.Yield (library : TextLibrary) (arguments : PackageArguments)
    (package : ServicePackage) : Prop where
  id : _normalize_uuid library "id" arguments.id = .valid package.id
  vendor_id : _normalize_uuid library "vendor_id" arguments.vendor_id = .valid package.vendor_id
  name : _normalize_text library "name" TEXT_LIMITS.package_name 1 arguments.name =
    .valid package.name
  description : _normalize_text library "description" TEXT_LIMITS.package_description 1
    arguments.description = .valid package.description
  price : _normalize_price library arguments.price = .valid package.price
  currency : _normalize_currency_value library arguments.currency = .valid package.currency
  package_tier : _normalize_enum "package_tier" PackageTier.all PackageTier.value
    arguments.package_tier = .valid package.package_tier
  approval_status : _normalize_enum "approval_status" PackageApprovalStatus.all
    PackageApprovalStatus.value arguments.approval_status = .valid package.approval_status
  rejection_reason : _normalize_optional_text library "rejection_reason"
    TEXT_LIMITS.rejection_reason arguments.rejection_reason = .valid package.rejection_reason
  is_active : _normalize_bool "is_active" arguments.is_active = .valid package.is_active
  is_deleted : _normalize_bool "is_deleted" arguments.is_deleted = .valid package.is_deleted
  deleted_at : _normalize_datetime "deleted_at" arguments.deleted_at = .valid package.deleted_at
  last_approved_at : _normalize_datetime "last_approved_at" arguments.last_approved_at =
    .valid package.last_approved_at
  last_vendor_public_edit_at : _normalize_datetime "last_vendor_public_edit_at"
    arguments.last_vendor_public_edit_at = .valid package.last_vendor_public_edit_at
  next_vendor_edit_allowed_at : _normalize_datetime "next_vendor_edit_allowed_at"
    arguments.next_vendor_edit_allowed_at = .valid package.next_vendor_edit_allowed_at
  version : _normalize_version arguments.version = .valid package.version
  created_at : _normalize_required_datetime "created_at" arguments.created_at =
    .valid package.created_at
  updated_at : _normalize_required_datetime "updated_at" arguments.updated_at =
    .valid package.updated_at
  rules : ServicePackage.invariantErrors library package = []

namespace ServicePackage

variable (library : TextLibrary)

variable {library} in
theorem construct_eq_ok_iff {arguments : PackageArguments} {package : ServicePackage} :
    construct library arguments = .ok package ↔ arguments.Yield library package := by
  rw [construct, Checked.toExcept_eq_ok_iff, Checked.ensure_eq_valid_iff, checkedFields,
    Checked.eq_valid_iff_gives]
  simp only [Checked.gives_seq, Checked.gives_map]
  constructor
  · rintro ⟨hfields, hrules⟩
    obtain ⟨_, hid, _, hvendor_id, _, hname, _, hdescription, _, hprice, _, hcurrency,
      _, hpackage_tier, _, happroval_status, _, hrejection_reason, hfields⟩ := hfields
    obtain ⟨_, his_active, _, his_deleted, _, hdeleted_at, _, hlast_approved_at,
      _, hlast_vendor_public_edit_at, _, hnext_vendor_edit_allowed_at, _, hversion,
      _, hcreated_at, _, hupdated_at, hpackage⟩ := hfields
    subst hpackage
    exact ⟨hid, hvendor_id, hname, hdescription, hprice, hcurrency, hpackage_tier,
      happroval_status, hrejection_reason, his_active, his_deleted, hdeleted_at,
      hlast_approved_at, hlast_vendor_public_edit_at, hnext_vendor_edit_allowed_at, hversion,
      hcreated_at, hupdated_at, hrules⟩
  · intro h
    exact ⟨⟨_, h.id, _, h.vendor_id, _, h.name, _, h.description, _, h.price, _, h.currency,
      _, h.package_tier, _, h.approval_status, _, h.rejection_reason, _, h.is_active,
      _, h.is_deleted, _, h.deleted_at, _, h.last_approved_at, _, h.last_vendor_public_edit_at,
      _, h.next_vendor_edit_allowed_at, _, h.version, _, h.created_at, _, h.updated_at, rfl⟩,
      h.rules⟩

-- What a construction gives is read off `construct_eq_ok_iff` from here on.
attribute [irreducible] construct

/-- `self.validate_invariants()`: the fields are checked as they stand, and normalised. -/
def validate_invariants (self : ServicePackage) : Except Raised ServicePackage :=
  construct library self.arguments

/-- A package that construction has accepted passes its validation unchanged. -/
theorem validate_of_construct {library : TextLibrary} (hlibrary : library.Documented)
    {arguments : PackageArguments} {package : ServicePackage}
    (h : construct library arguments = .ok package) :
    package.validate_invariants library = .ok package := by
  have h := construct_eq_ok_iff.mp h
  exact construct_eq_ok_iff.mpr {
    id := stable_normalize_uuid _ h.id
    vendor_id := stable_normalize_uuid _ h.vendor_id
    name := stable_normalize_text hlibrary _ _ _ h.name
    description := stable_normalize_text hlibrary _ _ _ h.description
    price := stable_normalize_price h.price
    currency := stable_normalize_currency_value hlibrary h.currency
    package_tier := PackageTier._normalize_value _ _
    approval_status := PackageApprovalStatus._normalize_value _ _
    rejection_reason := stable_normalize_optional_text hlibrary _ _ h.rejection_reason
    is_active := stable_normalize_bool _ h.is_active
    is_deleted := stable_normalize_bool _ h.is_deleted
    deleted_at := stable_normalize_datetime _ h.deleted_at
    last_approved_at := stable_normalize_datetime _ h.last_approved_at
    last_vendor_public_edit_at := stable_normalize_datetime _ h.last_vendor_public_edit_at
    next_vendor_edit_allowed_at := stable_normalize_datetime _ h.next_vendor_edit_allowed_at
    version := stable_normalize_version h.version
    created_at := stable_normalize_required_datetime _ h.created_at
    updated_at := stable_normalize_required_datetime _ h.updated_at
    rules := h.rules }

/-- The version takes no part in the validation. -/
theorem validate_setVersion {library : TextLibrary} {package : ServicePackage}
    (h : package.validate_invariants library = .ok package) (version : ℕ) :
    validate_invariants library { package with version } = .ok { package with version } :=
  construct_eq_ok_iff.mpr
    { construct_eq_ok_iff.mp h with version := _normalize_version_int version }

/-- A package as `_commit_candidate` handles it. -/
def kind : EntityKind ServicePackage where
  validate_invariants := validate_invariants library
  version := ServicePackage.version
  setVersion self version := { self with version }
  version_setVersion _ _ := rfl

/-- `ServicePackage.create`, with the identifier and the two clock readings of the defaults. -/
def create (id : UUID) (created_at updated_at : Datetime) (event_id : UUID)
    (vendor_id : Value) (fields : PublicFields) :
    Except Raised (Aggregate ServicePackage PackageEvent) := do
  let package ← construct library {
    id := .uuid id
    vendor_id
    name := fields.name
    description := fields.description
    price := fields.price
    currency := fields.currency
    package_tier := fields.package_tier
    created_at := .datetime created_at
    updated_at := .datetime updated_at }
  return {
    entity := package
    events := [{
      event_id
      occurred_at := package.created_at
      aggregate_id := package.id
      aggregate_version := package.version
      content := .ServicePackageCreated package.id package.vendor_id }] }

/-- `_validate_rehydrate_input` and `_validate_strict_rehydration` make the same two checks
before and after the construction. -/
def rehydrationErrors (self : ServicePackage) : List FieldError :=
  complain (self.approval_status = .approved ∧ self.last_approved_at = none) "last_approved_at"
    "Approved packages require last_approved_at." ++
  complain (self.is_deleted ∧ self.deleted_at = none) "deleted_at"
    "Deleted packages require deleted_at."

/-- `ServicePackage.rehydrate` of a stored row. -/
def rehydrate (row : ServicePackage) : Except Raised (Aggregate ServicePackage PackageEvent) := do
  if rehydrationErrors row ≠ [] then
    throw (.invalid packageInvalid (rehydrationErrors row))
  let package ← validate_invariants library row
  return { entity := package, events := [] }

/-- The event an operation records, about the package and at the given instant. -/
def recorded (self : ServicePackage) (reading : Reading) (occurred_at : Datetime)
    (content : UUID → UUID → PackageEvent) : Option (ℕ → VendorDomainEvent PackageEvent) :=
  some fun version => {
    event_id := reading.event_id
    occurred_at
    aggregate_id := self.id
    aggregate_version := version
    content := content self.id self.vendor_id }

/-- The arguments of `update_details`; a missing one stands for the current value. -/
def nextFields (self : ServicePackage) (fields : PublicFields) : PublicFields where
  name := if fields.name = .none then .text self.name else fields.name
  description := if fields.description = .none then .text self.description else fields.description
  price := if fields.price = .none then .decimal self.price else fields.price
  currency := if fields.currency = .none then .text self.currency else fields.currency
  package_tier :=
    if fields.package_tier = .none then .text self.package_tier.value else fields.package_tier

def update_details (reading : Reading) (fields : PublicFields) :
    Operation ServicePackage PackageEvent := fun self => do
  if self.is_deleted then
    throw (InvalidPackageTransition "Deleted packages cannot be edited.")
  let next := nextFields self fields
  if ¬(← package_public_fields_changed library self next) then
    return .unchanged
  -- `mark_vendor_package_public_edit` checks the cooldown and gives the markers.
  ensure_vendor_package_edit_allowed self reading.now
  let candidate ← construct library { self.arguments with
    name := next.name
    description := next.description
    price := next.price
    currency := next.currency
    package_tier := next.package_tier
    updated_at := .datetime reading.now
    approval_status := .text PackageApprovalStatus.waiting_approval.value
    rejection_reason := .none
    is_active := .bool false
    last_vendor_public_edit_at := .datetime reading.now
    next_vendor_edit_allowed_at := .datetime (reading.now + VENDOR_PACKAGE_EDIT_COOLDOWN) }
  return .commit candidate
    (recorded self reading candidate.updated_at .ServicePackageUpdated)

def submit_for_approval (reading : Reading) : Operation ServicePackage PackageEvent :=
  fun self => do
  if self.is_deleted then
    throw (InvalidPackageTransition "Deleted packages cannot be submitted.")
  if self.approval_status = .waiting_approval then
    return .unchanged
  let candidate ← construct library { self.arguments with
    approval_status := .text PackageApprovalStatus.waiting_approval.value
    rejection_reason := .none
    is_active := .bool false
    updated_at := .datetime reading.now }
  return .commit candidate
    (recorded self reading candidate.updated_at .ServicePackageSubmittedForApproval)

def approve (reading : Reading) : Operation ServicePackage PackageEvent := fun self => do
  if self.is_deleted then
    throw (InvalidPackageTransition "Deleted packages cannot be approved.")
  if self.approval_status ≠ .waiting_approval then
    throw (InvalidPackageTransition "Only waiting packages can be approved.")
  let candidate ← construct library { self.arguments with
    approval_status := .text PackageApprovalStatus.approved.value
    rejection_reason := .none
    last_approved_at := .datetime reading.now
    is_active := .bool false
    updated_at := .datetime reading.now }
  return .commit candidate (recorded self reading reading.now .ServicePackageApproved)

def reject (reading : Reading) (reason : Value) : Operation ServicePackage PackageEvent :=
  fun self => do
  if self.is_deleted then
    throw (InvalidPackageTransition "Deleted packages cannot be rejected.")
  if self.approval_status ≠ .waiting_approval then
    throw (InvalidPackageTransition "Only waiting packages can be rejected.")
  let clean_reason ← _validated_transition_reason library "rejection_reason" packageInvalid reason
  let candidate ← construct library { self.arguments with
    approval_status := .text PackageApprovalStatus.rejected.value
    rejection_reason := .text clean_reason
    is_active := .bool false
    updated_at := .datetime reading.now }
  return .commit candidate (recorded self reading candidate.updated_at fun package_id vendor_id =>
    .ServicePackageRejected package_id vendor_id clean_reason)

def restore_to_waiting_approval (reading : Reading) : Operation ServicePackage PackageEvent :=
  fun self => do
  if self.is_deleted then
    throw (InvalidPackageTransition "Deleted packages cannot be restored.")
  if self.approval_status = .waiting_approval ∧ ¬self.is_active then
    return .unchanged
  let candidate ← construct library { self.arguments with
    approval_status := .text PackageApprovalStatus.waiting_approval.value
    rejection_reason := .none
    is_active := .bool false
    updated_at := .datetime reading.now }
  return .commit candidate
    (recorded self reading candidate.updated_at .ServicePackageSubmittedForApproval)

def deactivate (reading : Reading) : Operation ServicePackage PackageEvent := fun self => do
  if self.is_deleted ∧ ¬self.is_active then
    return .unchanged
  let candidate ← construct library { self.arguments with
    is_active := .bool false
    is_deleted := .bool true
    deleted_at := .datetime reading.now
    updated_at := .datetime reading.again }
  return .commit candidate
    (recorded self reading candidate.updated_at .ServicePackageDeactivated)

def activate (reading : Reading) : Operation ServicePackage PackageEvent := fun self => do
  if self.is_deleted then
    throw (InvalidPackageTransition "Deleted packages cannot be activated.")
  if self.approval_status ≠ .approved then
    throw (InvalidPackageTransition "Only approved packages can be activated.")
  if self.is_active then
    return .unchanged
  let candidate ← construct library { self.arguments with
    is_active := .bool true
    updated_at := .datetime reading.now }
  return .commit candidate (recorded self reading candidate.updated_at .ServicePackageActivated)

end ServicePackage

/-- A call of a domain operation of a package. -/
inductive PackageOperation : Type where
  | update_details (fields : PublicFields)
  | submit_for_approval
  | approve
  | reject (reason : Value)
  | restore_to_waiting_approval
  | deactivate
  | activate
deriving DecidableEq, Repr

/-- The operation a call runs. -/
def PackageOperation.run (library : TextLibrary) (reading : Reading) :
    PackageOperation → Operation ServicePackage PackageEvent
  | update_details fields => ServicePackage.update_details library reading fields
  | submit_for_approval => ServicePackage.submit_for_approval library reading
  | approve => ServicePackage.approve library reading
  | reject reason => ServicePackage.reject library reading reason
  | restore_to_waiting_approval => ServicePackage.restore_to_waiting_approval library reading
  | deactivate => ServicePackage.deactivate library reading
  | activate => ServicePackage.activate library reading

/-- One call in a run of a package. -/
abbrev PackageCall : Type := Performed PackageOperation ServicePackage PackageEvent

/-- The calls of a run on a package object, in order. -/
def packageHistory (library : TextLibrary) (self : Aggregate ServicePackage PackageEvent)
    (calls : List (PackageOperation × Reading)) : List PackageCall :=
  self.history (ServicePackage.kind library) (fun reading => PackageOperation.run library reading)
    calls

end Linkapro.Vendors
