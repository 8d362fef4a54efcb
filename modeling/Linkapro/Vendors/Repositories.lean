import Linkapro.Vendors.Packages
import Linkapro.Vendors.Portfolio
import Linkapro.Vendors.Profile
import Linkapro.Vendors.Inquiries

/-!
# Stored vendor objects

The four Django repositories rebuild a domain object from a row of their table. A row has the
columns of the entity; a profile and a package go through `rehydrate`, an image and an inquiry
through the constructor.
-/

namespace Linkapro.Vendors

variable (library : TextLibrary)

/-- `lifecycle_values`. -/
def VendorProfile.lifecycle_values (model : VendorProfile) : List Datetime :=
  [model.submitted_at, model.approved_at, model.rejected_at].reduceOption

/-- The `updated_at` that `_to_domain` passes on: no lifecycle instant is later. -/
def VendorProfile.hydratedUpdatedAt (model : VendorProfile) : Datetime :=
  model.lifecycle_values.foldl max model.updated_at

/-- `DjangoVendorProfileRepository._to_domain`. -/
def VendorProfile._to_domain (model : VendorProfile) : Except Raised VendorProfile :=
  Aggregate.entity <$>
    VendorProfile.rehydrate library { model with updated_at := model.hydratedUpdatedAt }

/-- `DjangoServicePackageRepository._to_domain`. -/
def ServicePackage._to_domain (model : ServicePackage) : Except Raised ServicePackage :=
  Aggregate.entity <$> ServicePackage.rehydrate library model

/-- `DjangoPortfolioImageRepository._to_domain`. -/
def PortfolioImage._to_domain (model : PortfolioImage) : Except Raised PortfolioImage :=
  PortfolioImage.construct library model.arguments

/-- `DjangoInquiryRepository._to_domain`. -/
def Inquiry._to_domain (model : Inquiry) : Except Raised Inquiry :=
  Inquiry.construct library model.arguments

end Linkapro.Vendors
