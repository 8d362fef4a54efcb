import Linkapro.Vendors.PackageCooldown
import Linkapro.Vendors.Portfolio
import Linkapro.Vendors.Profile

/-!
# Three ways to approve a package

A package is approved by the endpoint of the administrators, together with its vendor, or by
the domain command. The first two write the row and activate the package; the command goes
through the aggregate and leaves activation to a command of its own.
-/

namespace Linkapro.Vendors

open Lib (Checked)

variable {library : TextLibrary}

/-! ### The endpoint and the command -/

/-- What the three ways leave of a package. -/
structure ApprovalValues : Type where
  approval_status : PackageApprovalStatus
  is_active : Bool
  rejection_reason : Option String
  last_approved_at : Option Datetime
  next_vendor_edit_allowed_at : Option Datetime
  version : ℕ
deriving DecidableEq, Repr

namespace ServicePackage

def approvalValues (row : ServicePackage) : ApprovalValues where
  approval_status := row.approval_status
  is_active := row.is_active
  rejection_reason := row.rejection_reason
  last_approved_at := row.last_approved_at
  next_vendor_edit_allowed_at := row.next_vendor_edit_allowed_at
  version := row.version

/-- The values that the endpoint and the approval of the vendor leave. -/
def activeApproval (now : Datetime) (row : ServicePackage) : ApprovalValues where
  approval_status := .approved
  is_active := true
  rejection_reason := none
  last_approved_at := some now
  next_vendor_edit_allowed_at := some (now + VENDOR_PACKAGE_EDIT_COOLDOWN)
  version := row.version

/-- `AdminVendorPackageApproveView.post`: the default manager does not find deleted rows. -/
def endpointApprove (reading : Reading) (row : ServicePackage) : Option ServicePackage :=
  if row.is_deleted then none else row.adminApprove reading

/-- `approve_service_package`, with the version that the command expects. -/
def commandApprove (library : TextLibrary) (reading : Reading) (expected_version : ℕ)
    (row : ServicePackage) : Option ServicePackage :=
  if row.version = expected_version then row.transition library reading .approve else none

end ServicePackage

/-! ### Approval together with the vendor -/

/-- The places that the active images of the vendors take. -/
def activeOrders (images : List PortfolioImage) : List (UUID × ℤ) :=
  (images.filter fun image => image.is_active ∧ ¬image.is_deleted).map fun image =>
    (image.vendor_id, image.order)

/-- The tables that the workflow works on, with their constraints. -/
structure VendorTables : Type where
  vendors : List VendorProfile
  packages : List ServicePackage
  images : List PortfolioImage
  packages_checked : ∀ row ∈ packages, row.meetsConstraints
  orders_unique : (activeOrders images).Nodup

/-- Look a package up by its primary key. -/
def VendorTables.package (tables : VendorTables) (id : UUID) : Option ServicePackage :=
  tables.packages.find? fun row => row.id = id

def VendorTables.vendor (tables : VendorTables) (id : UUID) : Option VendorProfile :=
  tables.vendors.find? fun vendor => vendor.id = id

/-- `is_safe_public_portfolio_url(url)`. -/
def is_safe_public_portfolio_url (url : String) : Bool :=
  let value := strip url
  value ≠ "" ∧ ¬startsWith value "/media/" ∧ ¬mentions value "vendor_portfolio_uploads"

/-- `public_portfolio_display_url(image)`, when there is such a URL. -/
def public_portfolio_display_url (image : PortfolioImage) : Option String :=
  ([image.cloudinary_secure_url.getD "", image.secure_url].find? is_safe_public_portfolio_url).map
    strip

/-- The approval of a vendor, with the columns that the override of `save` adds. -/
def VendorProfile.approvedRow (reading : Reading) (row : VendorProfile) : VendorProfile :=
  { row with
    status := .approved
    submitted_at := some (row.submitted_at.getD reading.again)
    approved_at := some reading.now
    rejected_at := none
    rejection_reason := none
    updated_at := reading.again }

/-- The packages that are approved with their vendor. -/
def ServicePackage.IsSubmitted (vendor_id : UUID) (row : ServicePackage) : Prop :=
  row.vendor_id = vendor_id ∧ row.approval_status = .waiting_approval ∧ row.is_deleted = false

instance (vendor_id : UUID) (row : ServicePackage) : Decidable (row.IsSubmitted vendor_id) :=
  inferInstanceAs (Decidable (_ ∧ _ ∧ _))

/-- What becomes of a package when the vendor is approved. -/
def ServicePackage.approvedRow (now : Datetime) (vendor_id : UUID) (row : ServicePackage) :
    ServicePackage :=
  if row.IsSubmitted vendor_id then
    { row with
      approval_status := .approved
      rejection_reason := none
      is_active := true
      last_approved_at := some now
      next_vendor_edit_allowed_at := some (now + VENDOR_PACKAGE_EDIT_COOLDOWN)
      updated_at := now }
  else row

/-- The images that are looked at with their vendor. -/
def PortfolioImage.IsCandidate (vendor_id : UUID) (row : PortfolioImage) : Prop :=
  row.vendor_id = vendor_id ∧ row.is_deleted = false ∧ row.upload_status = .uploaded ∧
    row.quality_status = .passed ∧
    (row.visibility_status = .private ∨ row.visibility_status = .waiting_approval)

instance (vendor_id : UUID) (row : PortfolioImage) : Decidable (row.IsCandidate vendor_id) :=
  inferInstanceAs (Decidable (_ ∧ _ ∧ _ ∧ _ ∧ (_ ∨ _)))

/-- What becomes of an image when the vendor is approved. -/
def PortfolioImage.approvedRow (now : Datetime) (vendor_id : UUID) (row : PortfolioImage) :
    PortfolioImage :=
  if row.IsCandidate vendor_id ∧ public_portfolio_display_url row ≠ none then
    { row with
      visibility_status := .approved
      rejection_reason := none
      is_active := true
      updated_at := now }
  else row

/-- `VendorApprovalResult`, apart from the vendor itself. -/
structure VendorApprovalResult : Type where
  packages_approved : ℕ
  portfolio_items_approved : ℕ
  portfolio_items_skipped : ℕ
deriving DecidableEq, Repr

/-- Why the approval of a vendor is refused. -/
inductive ApprovalRefused : Type where
  | valueError (message : String)
  | integrityError
deriving DecidableEq, Repr

/-- An approved package that is not deleted keeps the check constraints. -/
theorem ServicePackage.meetsConstraints_of_approved {row : ServicePackage}
    (hcurrency : row.currency = "RWF") (hdeleted : row.is_deleted = false)
    (hstatus : row.approval_status = .approved) (hat : row.last_approved_at ≠ none)
    (hreason : row.rejection_reason = none) : row.meetsConstraints := by
  simp [meetsConstraints, hcurrency, hdeleted, hstatus, hat, hreason, nonEmpty]

theorem ServicePackage.currency_of_meetsConstraints {row : ServicePackage}
    (h : row.meetsConstraints) : row.currency = "RWF" := by
  simp only [meetsConstraints, decide_eq_true_eq] at h
  exact h.1

theorem ServicePackage.approvedRow_meetsConstraints (now : Datetime) (vendor_id : UUID)
    {row : ServicePackage} (h : row.meetsConstraints) :
    (row.approvedRow now vendor_id).meetsConstraints := by
  by_cases hsubmitted : row.IsSubmitted vendor_id
  · have hcurrency := currency_of_meetsConstraints h
    rw [approvedRow, if_pos hsubmitted]
    exact meetsConstraints_of_approved hcurrency hsubmitted.2.2 rfl (Option.some_ne_none _) rfl
  · rw [approvedRow, if_neg hsubmitted]
    exact h

/-- `approve_pending_vendor_submission(vendor_id)`, in one transaction. -/
def approve_pending_vendor_submission (reading : Reading) (vendor_id : UUID)
    (tables : VendorTables) : Except ApprovalRefused (VendorTables × VendorApprovalResult) :=
  match tables.vendor vendor_id with
  | none => .error (.valueError "Vendor not found.")
  | some vendor =>
    if vendor.status ≠ .pending_review then
      .error (.valueError "Vendor must be submitted for review before approval.")
    else
      let images := tables.images.map fun row => row.approvedRow reading.now vendor_id
      if horders : (activeOrders images).Nodup then
        let candidates := tables.images.filter fun row => row.IsCandidate vendor_id
        let eligible := candidates.filter fun row => public_portfolio_display_url row ≠ none
        .ok ({
          vendors := tables.vendors.map fun row =>
            if row.id = vendor_id then row.approvedRow reading else row
          packages := tables.packages.map fun row => row.approvedRow reading.now vendor_id
          images
          packages_checked := by
            intro row hrow
            obtain ⟨before, hbefore, rfl⟩ := List.mem_map.mp hrow
            exact ServicePackage.approvedRow_meetsConstraints _ _
              (tables.packages_checked before hbefore)
          orders_unique := horders }, {
          packages_approved := (tables.packages.filter fun row => row.IsSubmitted vendor_id).length
          portfolio_items_approved := eligible.length
          portfolio_items_skipped := candidates.length - eligible.length })
      else .error .integrityError

/-! ### What each way does to a package -/

/-- The workflow goes through for a pending vendor whose images keep distinct places. -/
theorem approve_pending_isOk_iff {reading : Reading} {vendor_id : UUID} {tables : VendorTables} :
    (∃ result, approve_pending_vendor_submission reading vendor_id tables = .ok result) ↔
      (∃ vendor, tables.vendor vendor_id = some vendor ∧ vendor.status = .pending_review) ∧
        (activeOrders (tables.images.map fun row =>
          row.approvedRow reading.now vendor_id)).Nodup := by
  rw [approve_pending_vendor_submission]
  cases tables.vendor vendor_id with
  | none => simp
  | some vendor =>
    by_cases hstatus : vendor.status = .pending_review
    · simp only [hstatus, ne_eq, not_true_eq_false, if_false]
      split
      · rename_i horders
        simp [hstatus, horders]
      · rename_i horders
        simp [horders]
    · simp [hstatus]

theorem packages_of_approve_pending {reading : Reading} {vendor_id : UUID}
    {tables after : VendorTables} {result : VendorApprovalResult}
    (h : approve_pending_vendor_submission reading vendor_id tables = .ok (after, result)) :
    after.packages = tables.packages.map fun row => row.approvedRow reading.now vendor_id := by
  rw [approve_pending_vendor_submission] at h
  split at h
  · cases h
  · split at h
    · cases h
    · simp only at h
      split at h
      · cases h
        rfl
      · cases h

@[simp] theorem ServicePackage.approvedRow_id (now : Datetime) (vendor_id : UUID)
    (row : ServicePackage) : (row.approvedRow now vendor_id).id = row.id := by
  rw [approvedRow]
  split <;> rfl

/-- The row of a package after its vendor has been approved. -/
theorem package_of_approve_pending {reading : Reading} {vendor_id id : UUID}
    {tables after : VendorTables} {result : VendorApprovalResult} {row : ServicePackage}
    (h : approve_pending_vendor_submission reading vendor_id tables = .ok (after, result))
    (hrow : tables.package id = some row) :
    after.package id = some (row.approvedRow reading.now vendor_id) := by
  rw [VendorTables.package, packages_of_approve_pending h, List.find?_map]
  simp only [Function.comp_def, ServicePackage.approvedRow_id]
  rw [← VendorTables.package, hrow]
  rfl

/-! ### The command -/

namespace ServicePackage

/-- What `approve` makes of a waiting package. -/
def approvedByCommand (now : Datetime) (self : ServicePackage) : ServicePackage :=
  { self with
    approval_status := .approved
    rejection_reason := none
    is_active := false
    last_approved_at := some now
    updated_at := now }

/-- A valid package may be approved. -/
theorem construct_approved {self : ServicePackage}
    (hvalid : self.validate_invariants library = .ok self) (now : Datetime) :
    construct library { self.arguments with
        approval_status := .text PackageApprovalStatus.approved.value
        rejection_reason := .none
        last_approved_at := .datetime now
        is_active := .bool false
        updated_at := .datetime now } = .ok (self.approvedByCommand now) := by
  have hyield := construct_eq_ok_iff.mp hvalid
  have hrules := hyield.rules
  simp only [invariantErrors, List.append_eq_nil_iff, complain_eq_nil_iff] at hrules
  obtain ⟨⟨⟨⟨⟨⟨⟨⟨-, hdeleted_at⟩, -⟩, -⟩, -⟩, -⟩, -⟩, hmarkers⟩, htier⟩ := hrules
  refine construct_eq_ok_iff.mpr { hyield with
    approval_status := PackageApprovalStatus._normalize_value _ _
    rejection_reason := rfl
    last_approved_at := rfl
    is_active := rfl
    updated_at := rfl
    rules := ?_ }
  simp only [invariantErrors, List.append_eq_nil_iff, complain_eq_nil_iff, approvedByCommand]
  simp [complain, hdeleted_at, hmarkers, htier, nonEmpty]

theorem currency_of_construct {arguments : PackageArguments} {package : ServicePackage}
    (h : construct library arguments = .ok package) : package.currency = "RWF" := by
  have hcurrency := underField_eq_valid_iff.mp (construct_eq_ok_iff.mp h).currency
  simp only [normalize_currency, bind_eq_ok_iff, guard_eq_ok_iff, pure_eq_ok_iff,
    not_not] at hcurrency
  obtain ⟨_, -, hsupported, hcurrency⟩ := hcurrency
  rw [← hcurrency]
  exact List.mem_singleton.mp hsupported

/-- A rebuilt package is valid and has the status, the flags and the version of its row. -/
theorem rehydrate_spec (hlibrary : library.Documented) {row : ServicePackage}
    {package : Aggregate ServicePackage PackageEvent} (h : rehydrate library row = .ok package) :
    package.entity.validate_invariants library = .ok package.entity ∧
      package.entity.approval_status = row.approval_status ∧
      package.entity.is_deleted = row.is_deleted ∧ package.entity.version = row.version := by
  rw [rehydrate, guard_eq_ok_iff, bind_eq_ok_iff] at h
  obtain ⟨-, entity, hvalid, hpackage⟩ := h
  obtain rfl := pure_eq_ok_iff.mp hpackage
  have hyield := construct_eq_ok_iff.mp hvalid
  exact ⟨validate_of_construct hlibrary hvalid,
    Checked.eq_of_valid hyield.approval_status (PackageApprovalStatus._normalize_value _ _),
    Checked.eq_of_valid hyield.is_deleted (_normalize_bool_bool _),
    Checked.eq_of_valid hyield.version (_normalize_version_int _)⟩

/-- The command approves a waiting package that can be rebuilt from its row. -/
theorem transition_approve (hlibrary : library.Documented) {row : ServicePackage}
    {package : Aggregate ServicePackage PackageEvent} (h : rehydrate library row = .ok package)
    (hwaiting : row.approval_status = .waiting_approval) (hdeleted : row.is_deleted = false)
    (reading : Reading) :
    row.transition library reading .approve =
      some ((kind library).bump_version (package.entity.approvedByCommand reading.now)) := by
  obtain ⟨hvalid, hstatus, hflag, -⟩ := rehydrate_spec hlibrary h
  have happroved := construct_approved hvalid reading.now
  have hrun : PackageOperation.run library reading .approve package.entity =
      .ok (.commit (package.entity.approvedByCommand reading.now)
        (recorded package.entity reading reading.now .ServicePackageApproved)) := by
    simp only [PackageOperation.run, approve, bind_eq_ok_iff, guard_eq_ok_iff, pure_eq_ok_iff]
    exact ⟨by rw [hflag, hdeleted]; decide, by rw [hstatus, hwaiting]; decide, _, happroved, rfl⟩
  have hcall := Aggregate.call_of_commit (kind library) hrun
    (validate_of_construct hlibrary happroved)
  have hcurrency : package.entity.currency = "RWF" := currency_of_construct hvalid
  have hchecked : ((kind library).bump_version
      (package.entity.approvedByCommand reading.now)).meetsConstraints :=
    meetsConstraints_of_approved hcurrency (hflag.trans hdeleted) rfl (Option.some_ne_none _) rfl
  have hchanged : package.entity.version + 1 ≠ package.entity.version := Nat.succ_ne_self _
  rw [transition, h]
  simp only [hcall]
  exact (if_neg hchanged).trans (if_pos hchecked)

/-- The command refuses a package that is deleted or does not wait. -/
theorem transition_approve_eq_none (hlibrary : library.Documented) {row : ServicePackage}
    (h : row.is_deleted = true ∨ row.approval_status ≠ .waiting_approval) (reading : Reading) :
    row.transition library reading .approve = none := by
  rw [transition]
  cases hpackage : rehydrate library row with
  | error _ => rfl
  | ok package =>
    obtain ⟨-, hstatus, hflag, -⟩ := rehydrate_spec hlibrary hpackage
    obtain ⟨_, hcall⟩ | ⟨hrun, -⟩ | ⟨_, _, _, hrun, -, -⟩ :=
      package.call_cases (kind library) (PackageOperation.run library reading .approve)
    · simp only [hcall]
    · simp only [PackageOperation.run, approve, bind_eq_ok_iff, guard_eq_ok_iff, pure_eq_ok_iff,
        reduceCtorEq, and_false, exists_false] at hrun
    · simp only [PackageOperation.run, approve, guard_eq_ok_iff, not_not] at hrun
      obtain ⟨hdeleted, hwaiting, -⟩ := hrun
      obtain h | h := h
      · exact absurd (hflag.trans h) hdeleted
      · exact absurd (hstatus.symm.trans hwaiting) h

theorem adminApprove_eq_some (reading : Reading) {row : ServicePackage}
    (hchecked : row.meetsConstraints) (hdeleted : row.is_deleted = false) :
    ∃ after, row.adminApprove reading = some after ∧
      after.approvalValues = row.activeApproval reading.now := by
  have hcurrency := currency_of_meetsConstraints hchecked
  refine ⟨_, if_pos ?_, rfl⟩
  exact meetsConstraints_of_approved hcurrency hdeleted rfl (Option.some_ne_none _) rfl

end ServicePackage

/-! ### The three ways together -/

/-- All three ways leave a deleted package alone, and the command and the approval of the
vendor also one that does not wait. A waiting package is approved by each of them; the
endpoint and the approval of the vendor leave the same values, and the command leaves the
package inactive. -/
theorem approvals_agree (hlibrary : library.Documented) (tables : VendorTables) {id : UUID}
    {row : ServicePackage} (hrow : tables.package id = some row) (reading : Reading) :
    (row.is_deleted = true → row.endpointApprove reading = none) ∧
    (row.is_deleted = true ∨ row.approval_status ≠ .waiting_approval →
      (∀ vendor_id after result, approve_pending_vendor_submission reading vendor_id tables =
        .ok (after, result) → after.package id = some row) ∧
      ∀ expected_version, row.commandApprove library reading expected_version = none) ∧
    (row.is_deleted = false → row.approval_status = .waiting_approval →
      (∃ after, row.endpointApprove reading = some after ∧
        after.approvalValues = row.activeApproval reading.now) ∧
      (∀ after result, approve_pending_vendor_submission reading row.vendor_id tables =
        .ok (after, result) → ∃ approved, after.package id = some approved ∧
          approved.approvalValues = row.activeApproval reading.now) ∧
      ∀ package, ServicePackage.rehydrate library row = .ok package →
        ∃ after, row.commandApprove library reading row.version = some after ∧
          after.approval_status = .approved ∧ after.rejection_reason = none ∧
          after.last_approved_at = some reading.now ∧ after.is_active = false) ∧
    ((∃ result, approve_pending_vendor_submission reading row.vendor_id tables = .ok result) ↔
      (∃ vendor, tables.vendor row.vendor_id = some vendor ∧ vendor.status = .pending_review) ∧
        (activeOrders (tables.images.map fun image =>
          image.approvedRow reading.now row.vendor_id)).Nodup) := by
  have hchecked := tables.packages_checked row (List.mem_of_find?_eq_some hrow)
  refine ⟨?_, ?_, ?_, approve_pending_isOk_iff⟩
  · intro hdeleted
    rw [ServicePackage.endpointApprove, if_pos hdeleted]
  · intro hother
    constructor
    · intro vendor_id after result hafter
      rw [package_of_approve_pending hafter hrow, ServicePackage.approvedRow, if_neg]
      rintro ⟨-, hwaiting, hdeleted⟩
      obtain h | h := hother
      · rw [hdeleted] at h
        cases h
      · exact h hwaiting
    · intro expected_version
      rw [ServicePackage.commandApprove,
        ServicePackage.transition_approve_eq_none hlibrary hother, ite_self]
  · intro hdeleted hwaiting
    refine ⟨?_, ?_, ?_⟩
    · rw [ServicePackage.endpointApprove, hdeleted]
      exact ServicePackage.adminApprove_eq_some reading hchecked hdeleted
    · intro after result hafter
      refine ⟨_, package_of_approve_pending hafter hrow, ?_⟩
      rw [ServicePackage.approvedRow, if_pos ⟨rfl, hwaiting, hdeleted⟩]
      rfl
    · intro package hpackage
      rw [ServicePackage.commandApprove, if_pos rfl,
        ServicePackage.transition_approve hlibrary hpackage hwaiting hdeleted reading]
      exact ⟨_, rfl, rfl, rfl, rfl, rfl⟩

/-- The tables with the sample package alone. -/
def sampleTables : VendorTables where
  vendors := []
  packages := [samplePackage.entity]
  images := []
  packages_checked := by decide
  orders_unique := by decide

/-- For the sample package the endpoint and the command both go through. -/
theorem approvals_agree_sample :
    (∃ after, samplePackage.entity.endpointApprove (onDay 1 .approve).2 = some after ∧
      after.approvalValues = samplePackage.entity.activeApproval (days 1)) ∧
    ∃ after, samplePackage.entity.commandApprove asciiLibrary (onDay 1 .approve).2 0 =
        some after ∧
      after.approval_status = .approved ∧ after.rejection_reason = none ∧
      after.last_approved_at = some (days 1) ∧ after.is_active = false := by
  have hrow : sampleTables.package 1 = some samplePackage.entity := by decide
  have hpackage : ServicePackage.rehydrate asciiLibrary samplePackage.entity =
      .ok samplePackage := by decide +kernel
  obtain ⟨-, -, hwaiting, -⟩ :=
    approvals_agree asciiLibrary_documented sampleTables hrow (onDay 1 .approve).2
  obtain ⟨hendpoint, -, hcommand⟩ := hwaiting rfl rfl
  exact ⟨hendpoint, hcommand samplePackage hpackage⟩

/-- The endpoint activates the sample package, and the command does not. -/
theorem approved_active_or_not :
    ((samplePackage.entity.endpointApprove (onDay 1 .approve).2).map fun row => row.is_active) =
        some true ∧
      ((samplePackage.entity.commandApprove asciiLibrary (onDay 1 .approve).2 0).map
        fun row => row.is_active) = some false := by
  decide +kernel

end Linkapro.Vendors
