import Linkapro.Columns
import Linkapro.Vendors.PackageCooldown
import Linkapro.Vendors.Repositories

/-!
# Columns of the vendor tables

The columns have limits of their own, and so has `save` of the Django models, which completes
the row it is given and sets an `auto_now` column. A repository adds a new object through
`create`, and writes a changed one over its row with one `UPDATE`.
-/

namespace Linkapro.Vendors

/-! ### Columns -/

/-- The number that `DecimalField(max_digits=12, decimal_places=2)` stores for a decimal. A
decimal with more places would be rounded. -/
def Decimal.quantised : Decimal → Decimal
  | finite coefficient exponent => .finite (coefficient * 10 ^ (exponent + 2).toNat) (-2)
  | special => special

/-- `DecimalField(max_digits=12, decimal_places=2)` takes the decimal as it is. -/
def decimalField : Decimal → Bool
  | .finite coefficient exponent => -2 ≤ exponent ∧
    (coefficient * 10 ^ (exponent + 2).toNat).natAbs < 10 ^ 12
  | .special => false

/-- The columns of `VendorProfile` take the fields. -/
def VendorProfile.fits (row : VendorProfile) : Bool :=
  charField 200 row.business_name ∧ charField 30 row.category.value ∧
  row.custom_category.all (charField 120) ∧ nulFree row.description ∧
  charField 200 row.service_area ∧ charField emailLength row.contact_email ∧
  charField 30 row.contact_phone ∧ row.website.all (charField urlLength) ∧
  row.profile_image_url.all (charField urlLength) ∧
  row.profile_image_public_id.all (charField 255) ∧
  row.cover_image_url.all (charField urlLength) ∧
  row.cover_image_public_id.all (charField 255) ∧ charField 20 row.status.value ∧
  row.rejection_reason.all nulFree ∧ positiveInteger row.version

/-- The columns of `PortfolioImage` take the fields. -/
def PortfolioImage.fits (row : PortfolioImage) : Bool :=
  charField 200 row.public_id ∧ charField urlLength row.secure_url ∧
  charField 10 row.media_type.value ∧ row.caption.all (charField 500) ∧
  positiveInteger row.order ∧ charField 30 row.upload_status.value ∧
  charField 30 row.quality_status.value ∧ charField 30 row.visibility_status.value ∧
  row.upload_error.all nulFree ∧ row.failure_reason.all nulFree ∧
  row.rejection_reason.all nulFree ∧ row.original_filename.all (charField 255) ∧
  charField 100 row.mime_type ∧ positiveInteger row.file_size ∧
  row.local_preview_url.all (charField urlLength) ∧
  row.cloudinary_public_id.all (charField 255) ∧
  row.cloudinary_secure_url.all (charField urlLength) ∧ row.width.all positiveInteger ∧
  row.height.all positiveInteger ∧ row.duration_seconds.all positiveInteger ∧
  row.analyzer_score.all positiveSmallInteger ∧ row.analyzer_summary.all nulFree ∧
  positiveInteger row.version

/-- The columns of `ServicePackage` take the fields. -/
def ServicePackage.fits (row : ServicePackage) : Bool :=
  charField 200 row.name ∧ nulFree row.description ∧ decimalField row.price ∧
  charField 3 row.currency ∧ charField 20 row.package_tier.value ∧
  charField 30 row.approval_status.value ∧ row.rejection_reason.all nulFree ∧
  positiveInteger row.version

/-- The columns of `Inquiry` take the fields. -/
def Inquiry.fits (row : Inquiry) : Bool :=
  charField 200 row.client_name ∧ charField emailLength row.client_email ∧
  row.client_phone.all (charField 30) ∧ nulFree row.message ∧ positiveInteger row.version

/-! ### Storing -/

/-- How an object is stored: as a new row, with the clock of `save` and that of an `auto_now`
column, or over the row that the update finds under its identifier and its owner. -/
inductive Storing (σ : Type) : Type where
  | add (now again : Datetime)
  | save (before : σ)

/-- The override of `save` in the model `VendorProfile`. -/
def VendorProfile.modelSave (now : Datetime) (row : VendorProfile) : VendorProfile :=
  match row.status with
  | .pending_review => { row with submitted_at := some (row.submitted_at.getD now) }
  | .approved => { row with
      submitted_at := some (row.submitted_at.getD now)
      approved_at := some (row.approved_at.getD now)
      rejected_at := none
      rejection_reason := none }
  | .rejected => { row with rejected_at := some (row.rejected_at.getD now) }
  | _ => row

/-- The row that is stored for a profile. An update leaves the creation as it is and counts the
version itself. -/
def VendorProfile.row (domain : VendorProfile) : Storing VendorProfile → Option VendorProfile
  | .add now again =>
    let row := { domain.modelSave now with updated_at := again }
    if row.fits then some row else none
  | .save before =>
    let row := { domain with created_at := before.created_at, version := before.version + 1 }
    if before.id = domain.id ∧ before.user_id = domain.user_id ∧ row.fits then some row else none

/-- The override of `save` in the model `ServicePackage`. -/
def ServicePackage.modelSave (now : Datetime) (row : ServicePackage) : ServicePackage :=
  if row.approval_status = .approved then
    let approved_at := row.last_approved_at.getD now
    { row with
      last_approved_at := some approved_at
      next_vendor_edit_allowed_at :=
        some (row.next_vendor_edit_allowed_at.getD (approved_at + VENDOR_PACKAGE_EDIT_COOLDOWN))
      rejection_reason := none }
  else row

/-- The row that is stored for a package, under the constraints of its table. -/
def ServicePackage.row (domain : ServicePackage) : Storing ServicePackage → Option ServicePackage
  | .add now again =>
    let row := { domain.modelSave now with updated_at := again }
    if row.fits ∧ row.meetsConstraints then some { row with price := row.price.quantised } else none
  | .save before =>
    let row := { domain with created_at := before.created_at, version := before.version + 1 }
    if before.id = domain.id ∧ before.vendor_id = domain.vendor_id ∧ row.fits ∧
        row.meetsConstraints then
      some { row with price := row.price.quantised }
    else none

/-- The image takes part in the order of the portfolio. -/
def PortfolioImage.isOrdered (image : PortfolioImage) : Bool := image.is_active ∧ ¬image.is_deleted

/-- The override of `save` in the model `PortfolioImage`: an order that another active image of
the vendor has is replaced by the next free one. -/
def PortfolioImage.modelSave (others : List ℤ) (row : PortfolioImage) : PortfolioImage :=
  if row.isOrdered ∧ row.order ∈ others then { row with order := others.foldl max (-1) + 1 }
  else row

/-- The row that is stored for an image, beside the orders of the other active images of the
vendor. An update that takes an order twice breaks the unique constraint. -/
def PortfolioImage.row (others : List ℤ) (domain : PortfolioImage) :
    Storing PortfolioImage → Option PortfolioImage
  | .add _ again =>
    let row := { domain.modelSave others with updated_at := again }
    if row.fits then some row else none
  | .save before =>
    let row := { domain with created_at := before.created_at, version := before.version + 1 }
    if before.id = domain.id ∧ before.vendor_id = domain.vendor_id ∧ row.fits ∧
        ¬(row.isOrdered ∧ row.order ∈ others) then some row else none

/-- The row that is stored for an inquiry. -/
def Inquiry.row (domain : Inquiry) : Storing Inquiry → Option Inquiry
  | .add _ _ => if domain.fits then some domain else none
  | .save before =>
    let row := { domain with created_at := before.created_at, version := before.version + 1 }
    if before.id = domain.id ∧ before.vendor_id = domain.vendor_id ∧ row.fits then some row else none

end Linkapro.Vendors
