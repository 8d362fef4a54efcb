import Linkapro.Vendors.Revalidation

/-!
# Portfolio images

The `PortfolioImage` aggregate: its construction from arbitrary field values, and its
operations over the three status dimensions upload, quality and visibility.
-/

namespace Linkapro.Vendors

open Lib (Checked Stable)

inductive PortfolioMediaType : Type where
  | image
  | video
deriving DecidableEq, Repr

namespace PortfolioMediaType

def all : List PortfolioMediaType := [image, video]

def value : PortfolioMediaType → String
  | image => "image"
  | video => "video"

@[simp] theorem _normalize_value (field_name : String) (media_type : PortfolioMediaType) :
    _normalize_enum field_name all value (.text media_type.value) = .valid media_type :=
  _normalize_enum_valueOf (by cases media_type <;> rfl)

end PortfolioMediaType

inductive PortfolioUploadStatus : Type where
  | staged
  | queued
  | processing
  | uploaded
  | processing_deferred
  | failed
deriving DecidableEq, Repr

namespace PortfolioUploadStatus

def all : List PortfolioUploadStatus :=
  [staged, queued, processing, uploaded, processing_deferred, failed]

def value : PortfolioUploadStatus → String
  | staged => "staged"
  | queued => "queued"
  | processing => "processing"
  | uploaded => "uploaded"
  | processing_deferred => "processing_deferred"
  | failed => "failed"

@[simp] theorem _normalize_value (field_name : String) (status : PortfolioUploadStatus) :
    _normalize_enum field_name all value (.text status.value) = .valid status :=
  _normalize_enum_valueOf (by cases status <;> rfl)

end PortfolioUploadStatus

inductive PortfolioQualityStatus : Type where
  | pending_analysis
  | passed
  | failed
  | needs_manual_review
deriving DecidableEq, Repr

namespace PortfolioQualityStatus

def all : List PortfolioQualityStatus := [pending_analysis, passed, failed, needs_manual_review]

def value : PortfolioQualityStatus → String
  | pending_analysis => "pending_analysis"
  | passed => "passed"
  | failed => "failed"
  | needs_manual_review => "needs_manual_review"

@[simp] theorem _normalize_value (field_name : String) (status : PortfolioQualityStatus) :
    _normalize_enum field_name all value (.text status.value) = .valid status :=
  _normalize_enum_valueOf (by cases status <;> rfl)

end PortfolioQualityStatus

inductive PortfolioVisibilityStatus : Type where
  | «private»
  | waiting_approval
  | approved
  | rejected
deriving DecidableEq, Repr

namespace PortfolioVisibilityStatus

def all : List PortfolioVisibilityStatus := [«private», waiting_approval, approved, rejected]

def value : PortfolioVisibilityStatus → String
  | «private» => "private"
  | waiting_approval => "waiting_approval"
  | approved => "approved"
  | rejected => "rejected"

@[simp] theorem _normalize_value (field_name : String) (status : PortfolioVisibilityStatus) :
    _normalize_enum field_name all value (.text status.value) = .valid status :=
  _normalize_enum_valueOf (by cases status <;> rfl)

end PortfolioVisibilityStatus

/-- The arguments of the dataclass constructor. -/
structure PortfolioArguments : Type where
  id : Value
  vendor_id : Value
  public_id : Value := .text ""
  secure_url : Value := .text ""
  caption : Value := .none
  order : Value := .int 0
  media_type : Value := .text "image"
  upload_status : Value := .text "staged"
  quality_status : Value := .text "pending_analysis"
  visibility_status : Value := .text "private"
  upload_error : Value := .none
  failure_reason : Value := .none
  rejection_reason : Value := .none
  original_filename : Value := .none
  mime_type : Value := .text ""
  file_size : Value := .int 0
  local_preview_url : Value := .none
  cloudinary_public_id : Value := .none
  cloudinary_secure_url : Value := .none
  width : Value := .none
  height : Value := .none
  duration_seconds : Value := .none
  analyzer_score : Value := .none
  analyzer_summary : Value := .none
  is_active : Value := .bool true
  is_deleted : Value := .bool false
  deleted_at : Value := .none
  version : Value := .int 0
  created_at : Value
  updated_at : Value

/-- A portfolio image whose fields have passed their checks. -/
structure PortfolioImage : Type where
  id : UUID
  vendor_id : UUID
  public_id : String
  secure_url : String
  caption : Option String
  order : ℤ
  media_type : PortfolioMediaType
  upload_status : PortfolioUploadStatus
  quality_status : PortfolioQualityStatus
  visibility_status : PortfolioVisibilityStatus
  upload_error : Option String
  failure_reason : Option String
  rejection_reason : Option String
  original_filename : Option String
  mime_type : String
  file_size : ℤ
  local_preview_url : Option String
  cloudinary_public_id : Option String
  cloudinary_secure_url : Option String
  width : Option ℤ
  height : Option ℤ
  duration_seconds : Option ℤ
  analyzer_score : Option ℤ
  analyzer_summary : Option String
  is_active : Bool
  is_deleted : Bool
  deleted_at : Option Datetime
  version : ℕ
  created_at : Datetime
  updated_at : Datetime
deriving DecidableEq, Repr

/-- The fields of an image as constructor arguments, as `dataclasses.replace` passes them. -/
def PortfolioImage.arguments (self : PortfolioImage) : PortfolioArguments where
  id := .uuid self.id
  vendor_id := .uuid self.vendor_id
  public_id := .text self.public_id
  secure_url := .text self.secure_url
  caption := .ofText self.caption
  order := .int self.order
  media_type := .text self.media_type.value
  upload_status := .text self.upload_status.value
  quality_status := .text self.quality_status.value
  visibility_status := .text self.visibility_status.value
  upload_error := .ofText self.upload_error
  failure_reason := .ofText self.failure_reason
  rejection_reason := .ofText self.rejection_reason
  original_filename := .ofText self.original_filename
  mime_type := .text self.mime_type
  file_size := .int self.file_size
  local_preview_url := .ofText self.local_preview_url
  cloudinary_public_id := .ofText self.cloudinary_public_id
  cloudinary_secure_url := .ofText self.cloudinary_secure_url
  width := .ofInt self.width
  height := .ofInt self.height
  duration_seconds := .ofInt self.duration_seconds
  analyzer_score := .ofInt self.analyzer_score
  analyzer_summary := .ofText self.analyzer_summary
  is_active := .bool self.is_active
  is_deleted := .bool self.is_deleted
  deleted_at := .ofDatetime self.deleted_at
  version := .int self.version
  created_at := .datetime self.created_at
  updated_at := .datetime self.updated_at

inductive PortfolioEvent : Type where
  | PortfolioMediaQueued (image_id vendor_id : UUID)
  | PortfolioMediaProcessingStarted (image_id vendor_id : UUID)
  | PortfolioMediaUploaded (image_id vendor_id : UUID)
  | PortfolioMediaFailed (image_id vendor_id : UUID) (reason : String)
  | PortfolioMediaSubmittedForApproval (image_id vendor_id : UUID)
  | PortfolioMediaApproved (image_id vendor_id : UUID)
  | PortfolioMediaRejected (image_id vendor_id : UUID) (reason : String)
  | PortfolioMediaDeactivated (image_id vendor_id : UUID)
  | PortfolioMediaReordered (image_id vendor_id : UUID) (order : ℤ)
  | PortfolioCaptionUpdated (image_id vendor_id : UUID)
deriving DecidableEq, Repr

/-- The code of `PortfolioValidationError`. -/
def portfolioInvalid : String := "portfolio_media_invalid"

/-- `InvalidPortfolioTransition(message)`. -/
def InvalidPortfolioTransition (message : String) : Raised :=
  .transition "portfolio_media_transition_invalid" message

/-- `checked or ""`. -/
def orEmpty (checked : Checked FieldError (Option String)) : Checked FieldError String :=
  (fun text => text.getD "") <$> checked

theorem orEmpty_eq_valid_iff {checked : Checked FieldError (Option String)} {text : String} :
    orEmpty checked = .valid text ↔ ∃ given, checked = .valid given ∧ given.getD "" = text :=
  Checked.eq_valid_iff_gives.trans Checked.gives_map

/-- A text field that falls back to the empty text is stable when the optional one is. -/
theorem stable_orEmpty {check : Value → Checked FieldError (Option String)}
    (hstable : Stable Value.ofText check) (hempty : check (.text "") = .valid (some "")) :
    Stable Value.text fun value => orEmpty (check value) := by
  intro value text h
  obtain ⟨given, hgiven, rfl⟩ := orEmpty_eq_valid_iff.mp h
  cases given with
  | none => exact orEmpty_eq_valid_iff.mpr ⟨some "", hempty, rfl⟩
  | some given => exact orEmpty_eq_valid_iff.mpr ⟨some given, hstable hgiven, rfl⟩

theorem stable_orEmpty_text {library : TextLibrary} (hlibrary : library.Documented)
    (field_name : String) (max_length : ℕ) : Stable Value.text fun value =>
      orEmpty (_normalize_optional_text library field_name max_length value) := by
  have hempty : _normalize_optional_text library field_name max_length (.text "") =
      .valid (some "") := by
    rw [_normalize_optional_text, bounded_optional_text_empty hlibrary max_length]
    rfl
  intro _ _
  exact stable_orEmpty (stable_normalize_optional_text hlibrary field_name max_length) hempty

theorem stable_orEmpty_url {library : TextLibrary} (hlibrary : library.Documented)
    (field_name : String) (max_length : ℕ) : Stable Value.text fun value =>
      orEmpty (_normalize_public_media_url library field_name max_length value) := by
  have hempty : _normalize_public_media_url library field_name max_length (.text "") =
      .valid (some "") := by
    rw [_normalize_public_media_url, validate_public_media_url, validate_safe_url,
      bounded_optional_text_empty hlibrary max_length]
    rfl
  intro _ _
  exact stable_orEmpty (stable_normalize_public_media_url hlibrary field_name max_length) hempty

/-- A `MediaAsset`; its fields have passed their checks. -/
structure MediaAsset : Type where
  public_id : String
  secure_url : String
deriving DecidableEq, Repr

/-- The MIME types that `validate_invariants` allows. -/
def portfolioMimeTypes : List String :=
  ["image/jpeg", "image/png", "image/webp", "video/mp4", "video/webm", "video/quicktime"]

/-- `text.startswith(start)`. -/
def startsWith (text start : String) : Bool := start.toList.isPrefixOf text.toList

namespace PortfolioImage

variable (library : TextLibrary)

/-- `self.cloudinary_secure_url or self.secure_url`, when there is such a URL. -/
def publicUrl (self : PortfolioImage) : Option String :=
  (nonEmpty self.cloudinary_secure_url).or (nonEmpty (some self.secure_url))

/-- The rules of `validate_invariants` that look at more than one field. The source adds
their complaints to those of single fields; here they follow once every field has passed. -/
def invariantErrors (_library : TextLibrary) (self : PortfolioImage) : List FieldError :=
  complain (MAX_PORTFOLIO_FILE_SIZE < self.file_size) "file_size"
    s!"File size must be no more than {MAX_PORTFOLIO_FILE_SIZE} bytes." ++
  complain (self.mime_type ≠ "" ∧ self.mime_type ∉ portfolioMimeTypes) "mime_type"
    "Unsupported portfolio media MIME type." ++
  complain (self.mime_type ≠ "" ∧ self.media_type = .image ∧ ¬startsWith self.mime_type "image/")
    "mime_type" "Image media must use an image MIME type." ++
  complain (self.mime_type ≠ "" ∧ self.media_type = .video ∧ ¬startsWith self.mime_type "video/")
    "mime_type" "Video media must use a video MIME type." ++
  complain (self.media_type = .image ∧ self.duration_seconds.any fun seconds => seconds ≠ 0)
    "duration_seconds" "Image media cannot have duration." ++
  _validate_public_id_url_pair (some self.secure_url) (some self.public_id) "secure_url"
    "public_id" ++
  complain (self.public_id ≠ "" ∧ (nonEmpty self.cloudinary_public_id).any fun id =>
    self.public_id ≠ id) "cloudinary_public_id" "Legacy and Cloudinary public IDs must match." ++
  complain (self.secure_url ≠ "" ∧ (nonEmpty self.cloudinary_secure_url).any fun url =>
    self.secure_url ≠ url) "cloudinary_secure_url"
    "Legacy and Cloudinary secure URLs must match." ++
  _validate_public_id_url_pair self.cloudinary_secure_url self.cloudinary_public_id
    "cloudinary_secure_url" "cloudinary_public_id" ++
  complain (self.visibility_status = .approved ∧ (¬self.is_active ∨ self.is_deleted ∨
      self.upload_status ≠ .uploaded ∨ self.quality_status ≠ .passed ∨ self.publicUrl = none))
    "visibility_status" "Approved media must be active, uploaded, passed, and public." ++
  complain (self.upload_status = .failed ∧ self.visibility_status ≠ .private) "visibility_status"
    "Failed uploads must remain private." ++
  complain (self.is_deleted ∧ self.is_active) "is_active" "Deleted media must be inactive." ++
  complain (self.is_deleted ∧ self.visibility_status = .approved) "visibility_status"
    "Deleted media cannot be public." ++
  complain (self.is_deleted ∧ self.deleted_at = none) "deleted_at"
    "Deleted media require deleted_at."

/-- The checks of the single fields. -/
def checkedFields (arguments : PortfolioArguments) : Checked FieldError PortfolioImage :=
  PortfolioImage.mk
    <$> _normalize_uuid library "id" arguments.id
    <*> _normalize_uuid library "vendor_id" arguments.vendor_id
    <*> orEmpty (_normalize_optional_text library "public_id" TEXT_LIMITS.public_id
      arguments.public_id)
    <*> orEmpty (_normalize_public_media_url library "secure_url" 1000 arguments.secure_url)
    <*> _normalize_optional_text library "caption" TEXT_LIMITS.caption arguments.caption
    <*> _normalize_int "order" 0 (some MAX_PORTFOLIO_ORDER) arguments.order
    <*> _normalize_enum "media_type" PortfolioMediaType.all PortfolioMediaType.value
      arguments.media_type
    <*> _normalize_enum "upload_status" PortfolioUploadStatus.all PortfolioUploadStatus.value
      arguments.upload_status
    <*> _normalize_enum "quality_status" PortfolioQualityStatus.all PortfolioQualityStatus.value
      arguments.quality_status
    <*> _normalize_enum "visibility_status" PortfolioVisibilityStatus.all
      PortfolioVisibilityStatus.value arguments.visibility_status
    <*> _normalize_optional_text library "upload_error" 1000 arguments.upload_error
    <*> _normalize_optional_text library "failure_reason" 1000 arguments.failure_reason
    <*> _normalize_optional_text library "rejection_reason" TEXT_LIMITS.rejection_reason
      arguments.rejection_reason
    <*> _normalize_optional_text library "original_filename" 255 arguments.original_filename
    <*> orEmpty (_normalize_optional_text library "mime_type" 100 arguments.mime_type)
    <*> _normalize_int "file_size" 0 none arguments.file_size
    <*> _normalize_safe_url library "local_preview_url" 1000 arguments.local_preview_url
    <*> _normalize_optional_text library "cloudinary_public_id" TEXT_LIMITS.public_id
      arguments.cloudinary_public_id
    <*> _normalize_public_media_url library "cloudinary_secure_url" 1000
      arguments.cloudinary_secure_url
    <*> _normalize_optional_int "width" 1 (some MAX_PORTFOLIO_DIMENSION) arguments.width
    <*> _normalize_optional_int "height" 1 (some MAX_PORTFOLIO_DIMENSION) arguments.height
    <*> _normalize_optional_int "duration_seconds" 0 (some MAX_VIDEO_DURATION_SECONDS)
      arguments.duration_seconds
    <*> _normalize_optional_int "analyzer_score" 0 (some 100) arguments.analyzer_score
    <*> _normalize_optional_text library "analyzer_summary" 2000 arguments.analyzer_summary
    <*> _normalize_bool "is_active" arguments.is_active
    <*> _normalize_bool "is_deleted" arguments.is_deleted
    <*> _normalize_datetime "deleted_at" arguments.deleted_at
    <*> _normalize_version arguments.version
    <*> _normalize_required_datetime "created_at" arguments.created_at
    <*> _normalize_required_datetime "updated_at" arguments.updated_at

/-- The constructor: the dataclass fields, then `validate_invariants`. -/
def construct (arguments : PortfolioArguments) : Except Raised PortfolioImage :=
  ((checkedFields library arguments).ensure (invariantErrors library)).toExcept
    (Raised.invalid portfolioInvalid)

end PortfolioImage

/-- Every field of a constructed image is the accepted form of its argument, and the rules
about the whole image have no complaint. -/
structure PortfolioArguments.Yield (library : TextLibrary) (arguments : PortfolioArguments) (image
    : PortfolioImage) : Prop where
  id : _normalize_uuid library "id" arguments.id = .valid image.id
  vendor_id : _normalize_uuid library "vendor_id" arguments.vendor_id = .valid image.vendor_id
  public_id : orEmpty (_normalize_optional_text library "public_id" TEXT_LIMITS.public_id
    arguments.public_id) = .valid image.public_id
  secure_url : orEmpty (_normalize_public_media_url library "secure_url" 1000
    arguments.secure_url) = .valid image.secure_url
  caption : _normalize_optional_text library "caption" TEXT_LIMITS.caption arguments.caption =
    .valid image.caption
  order : _normalize_int "order" 0 (some MAX_PORTFOLIO_ORDER) arguments.order = .valid image.order
  media_type : _normalize_enum "media_type" PortfolioMediaType.all PortfolioMediaType.value
    arguments.media_type = .valid image.media_type
  upload_status : _normalize_enum "upload_status" PortfolioUploadStatus.all
    PortfolioUploadStatus.value arguments.upload_status = .valid image.upload_status
  quality_status : _normalize_enum "quality_status" PortfolioQualityStatus.all
    PortfolioQualityStatus.value arguments.quality_status = .valid image.quality_status
  visibility_status : _normalize_enum "visibility_status" PortfolioVisibilityStatus.all
    PortfolioVisibilityStatus.value arguments.visibility_status = .valid image.visibility_status
  upload_error : _normalize_optional_text library "upload_error" 1000 arguments.upload_error =
    .valid image.upload_error
  failure_reason : _normalize_optional_text library "failure_reason" 1000 arguments.failure_reason =
    .valid image.failure_reason
  rejection_reason : _normalize_optional_text library "rejection_reason"
    TEXT_LIMITS.rejection_reason arguments.rejection_reason = .valid image.rejection_reason
  original_filename : _normalize_optional_text library "original_filename" 255
    arguments.original_filename = .valid image.original_filename
  mime_type : orEmpty (_normalize_optional_text library "mime_type" 100 arguments.mime_type) =
    .valid image.mime_type
  file_size : _normalize_int "file_size" 0 none arguments.file_size = .valid image.file_size
  local_preview_url : _normalize_safe_url library "local_preview_url" 1000
    arguments.local_preview_url = .valid image.local_preview_url
  cloudinary_public_id : _normalize_optional_text library "cloudinary_public_id"
    TEXT_LIMITS.public_id arguments.cloudinary_public_id = .valid image.cloudinary_public_id
  cloudinary_secure_url : _normalize_public_media_url library "cloudinary_secure_url" 1000
    arguments.cloudinary_secure_url = .valid image.cloudinary_secure_url
  width : _normalize_optional_int "width" 1 (some MAX_PORTFOLIO_DIMENSION) arguments.width =
    .valid image.width
  height : _normalize_optional_int "height" 1 (some MAX_PORTFOLIO_DIMENSION) arguments.height =
    .valid image.height
  duration_seconds : _normalize_optional_int "duration_seconds" 0 (some
    MAX_VIDEO_DURATION_SECONDS) arguments.duration_seconds = .valid image.duration_seconds
  analyzer_score : _normalize_optional_int "analyzer_score" 0 (some 100) arguments.analyzer_score =
    .valid image.analyzer_score
  analyzer_summary : _normalize_optional_text library "analyzer_summary" 2000
    arguments.analyzer_summary = .valid image.analyzer_summary
  is_active : _normalize_bool "is_active" arguments.is_active = .valid image.is_active
  is_deleted : _normalize_bool "is_deleted" arguments.is_deleted = .valid image.is_deleted
  deleted_at : _normalize_datetime "deleted_at" arguments.deleted_at = .valid image.deleted_at
  version : _normalize_version arguments.version = .valid image.version
  created_at : _normalize_required_datetime "created_at" arguments.created_at =
    .valid image.created_at
  updated_at : _normalize_required_datetime "updated_at" arguments.updated_at =
    .valid image.updated_at
  rules : PortfolioImage.invariantErrors library image = []

namespace PortfolioImage

variable (library : TextLibrary)

variable {library} in
theorem construct_eq_ok_iff {arguments : PortfolioArguments} {image : PortfolioImage} :
    construct library arguments = .ok image ↔ arguments.Yield library image := by
  rw [construct, Checked.toExcept_eq_ok_iff, Checked.ensure_eq_valid_iff, checkedFields,
    Checked.eq_valid_iff_gives]
  simp only [Checked.gives_seq, Checked.gives_map]
  constructor
  · rintro ⟨hfields, hrules⟩
    obtain ⟨_, hid, _, hvendor_id, _, hpublic_id, _, hsecure_url, _, hcaption, _, horder,
      _, hmedia_type, _, hupload_status, _, hquality_status, _, hvisibility_status,
      hfields⟩ := hfields
    obtain ⟨_, hupload_error, _, hfailure_reason, _, hrejection_reason, _, horiginal_filename,
      _, hmime_type, _, hfile_size, _, hlocal_preview_url, _, hcloudinary_public_id,
      _, hcloudinary_secure_url, _, hwidth, hfields⟩ := hfields
    obtain ⟨_, hheight, _, hduration_seconds, _, hanalyzer_score, _, hanalyzer_summary,
      _, his_active, _, his_deleted, _, hdeleted_at, _, hversion, _, hcreated_at, _, hupdated_at,
      himage⟩ := hfields
    subst himage
    exact ⟨hid, hvendor_id, hpublic_id, hsecure_url, hcaption, horder, hmedia_type,
      hupload_status, hquality_status, hvisibility_status, hupload_error, hfailure_reason,
      hrejection_reason, horiginal_filename, hmime_type, hfile_size, hlocal_preview_url,
      hcloudinary_public_id, hcloudinary_secure_url, hwidth, hheight, hduration_seconds,
      hanalyzer_score, hanalyzer_summary, his_active, his_deleted, hdeleted_at, hversion,
      hcreated_at, hupdated_at, hrules⟩
  · intro h
    exact ⟨⟨_, h.id, _, h.vendor_id, _, h.public_id, _, h.secure_url, _, h.caption, _, h.order,
      _, h.media_type, _, h.upload_status, _, h.quality_status, _, h.visibility_status,
      _, h.upload_error, _, h.failure_reason, _, h.rejection_reason, _, h.original_filename,
      _, h.mime_type, _, h.file_size, _, h.local_preview_url, _, h.cloudinary_public_id,
      _, h.cloudinary_secure_url, _, h.width, _, h.height, _, h.duration_seconds,
      _, h.analyzer_score, _, h.analyzer_summary, _, h.is_active, _, h.is_deleted,
      _, h.deleted_at, _, h.version, _, h.created_at, _, h.updated_at, rfl⟩, h.rules⟩

-- What a construction gives is read off `construct_eq_ok_iff` from here on.
attribute [irreducible] construct

/-- `self.validate_invariants()`: the fields are checked as they stand, and normalised. -/
def validate_invariants (self : PortfolioImage) : Except Raised PortfolioImage :=
  construct library self.arguments

/-- An image that construction has accepted passes its validation unchanged. -/
theorem validate_of_construct {library : TextLibrary} (hlibrary : library.Documented)
    {arguments : PortfolioArguments} {image : PortfolioImage}
    (h : construct library arguments = .ok image) :
    image.validate_invariants library = .ok image := by
  have h := construct_eq_ok_iff.mp h
  exact construct_eq_ok_iff.mpr {
    id := stable_normalize_uuid _ h.id
    vendor_id := stable_normalize_uuid _ h.vendor_id
    public_id := stable_orEmpty_text hlibrary _ _ h.public_id
    secure_url := stable_orEmpty_url hlibrary _ _ h.secure_url
    caption := stable_normalize_optional_text hlibrary _ _ h.caption
    order := stable_normalize_int _ _ _ h.order
    media_type := PortfolioMediaType._normalize_value _ _
    upload_status := PortfolioUploadStatus._normalize_value _ _
    quality_status := PortfolioQualityStatus._normalize_value _ _
    visibility_status := PortfolioVisibilityStatus._normalize_value _ _
    upload_error := stable_normalize_optional_text hlibrary _ _ h.upload_error
    failure_reason := stable_normalize_optional_text hlibrary _ _ h.failure_reason
    rejection_reason := stable_normalize_optional_text hlibrary _ _ h.rejection_reason
    original_filename := stable_normalize_optional_text hlibrary _ _ h.original_filename
    mime_type := stable_orEmpty_text hlibrary _ _ h.mime_type
    file_size := stable_normalize_int _ _ _ h.file_size
    local_preview_url := stable_normalize_safe_url hlibrary _ _ h.local_preview_url
    cloudinary_public_id := stable_normalize_optional_text hlibrary _ _ h.cloudinary_public_id
    cloudinary_secure_url := stable_normalize_public_media_url hlibrary _ _ h.cloudinary_secure_url
    width := stable_normalize_optional_int _ _ _ h.width
    height := stable_normalize_optional_int _ _ _ h.height
    duration_seconds := stable_normalize_optional_int _ _ _ h.duration_seconds
    analyzer_score := stable_normalize_optional_int _ _ _ h.analyzer_score
    analyzer_summary := stable_normalize_optional_text hlibrary _ _ h.analyzer_summary
    is_active := stable_normalize_bool _ h.is_active
    is_deleted := stable_normalize_bool _ h.is_deleted
    deleted_at := stable_normalize_datetime _ h.deleted_at
    version := stable_normalize_version h.version
    created_at := stable_normalize_required_datetime _ h.created_at
    updated_at := stable_normalize_required_datetime _ h.updated_at
    rules := h.rules }

/-- The version takes no part in the validation. -/
theorem validate_setVersion {library : TextLibrary} {image : PortfolioImage}
    (h : image.validate_invariants library = .ok image) (version : ℕ) :
    validate_invariants library { image with version } = .ok { image with version } :=
  construct_eq_ok_iff.mpr
    { construct_eq_ok_iff.mp h with version := _normalize_version_int version }

/-- An image as `_commit_candidate` handles it. -/
def kind : EntityKind PortfolioImage where
  validate_invariants := validate_invariants library
  version := PortfolioImage.version
  setVersion self version := { self with version }
  version_setVersion _ _ := rfl

/-- `MediaAsset(public_id=…, secure_url=…)`. -/
def mediaAsset (public_id secure_url : Value) : Except Raised MediaAsset :=
  Checked.toExcept (Raised.invalid portfolioInvalid) (MediaAsset.mk
    <$> _normalize_text library "public_id" TEXT_LIMITS.public_id 1 public_id
    <*> underField "secure_url" (validate_required_media_url library 1000 secure_url))

/-- The event an operation records, about the image. -/
def recorded (self : PortfolioImage) (reading : Reading) (occurred_at : Datetime)
    (content : UUID → UUID → PortfolioEvent) : Option (ℕ → VendorDomainEvent PortfolioEvent) :=
  some fun version => {
    event_id := reading.event_id
    occurred_at
    aggregate_id := self.id
    aggregate_version := version
    content := content self.id self.vendor_id }

/-- `_ensure_mutable`. -/
def ensure_mutable (self : PortfolioImage) : Except Raised Unit :=
  if self.is_deleted then
    .error (InvalidPortfolioTransition "Deleted portfolio media cannot be changed.")
  else .ok ()

def attach_cloudinary_asset (reading : Reading) (public_id secure_url : Value) :
    Operation PortfolioImage PortfolioEvent := fun self => do
  self.ensure_mutable
  let asset ← mediaAsset library public_id secure_url
  let underway := self.upload_status ∈ [.queued, .processing]
  let candidate ← construct library { self.arguments with
    public_id := .text asset.public_id
    secure_url := .text asset.secure_url
    cloudinary_public_id := .text asset.public_id
    cloudinary_secure_url := .text asset.secure_url
    quality_status := .text (if underway then self.quality_status.value
      else PortfolioQualityStatus.pending_analysis.value)
    visibility_status := .text (if underway then self.visibility_status.value
      else PortfolioVisibilityStatus.private.value)
    rejection_reason := .none
    updated_at := .datetime reading.now }
  return .commit candidate none

def mark_queued (reading : Reading) : Operation PortfolioImage PortfolioEvent := fun self => do
  self.ensure_mutable
  if self.upload_status ≠ .staged then
    throw (InvalidPortfolioTransition "Only staged media can be queued.")
  let candidate ← construct library { self.arguments with
    upload_status := .text PortfolioUploadStatus.queued.value
    quality_status := .text PortfolioQualityStatus.pending_analysis.value
    visibility_status := .text PortfolioVisibilityStatus.private.value
    upload_error := .none
    failure_reason := .none
    updated_at := .datetime reading.now }
  return .commit candidate (recorded self reading candidate.updated_at .PortfolioMediaQueued)

def mark_processing (reading : Reading) : Operation PortfolioImage PortfolioEvent := fun self => do
  self.ensure_mutable
  if self.upload_status ∉ [.queued, .processing_deferred] then
    throw (InvalidPortfolioTransition "Only queued media can start processing.")
  let candidate ← construct library { self.arguments with
    upload_status := .text PortfolioUploadStatus.processing.value
    visibility_status := .text PortfolioVisibilityStatus.private.value
    updated_at := .datetime reading.now }
  return .commit candidate
    (recorded self reading candidate.updated_at .PortfolioMediaProcessingStarted)

def mark_uploaded (reading : Reading) (public_id secure_url : Value) :
    Operation PortfolioImage PortfolioEvent := fun self => do
  self.ensure_mutable
  if self.upload_status ≠ .processing then
    throw (InvalidPortfolioTransition "Only processing media can be marked uploaded.")
  if public_id = .none ∨ secure_url = .none then
    throw (.invalid portfolioInvalid [("secure_url", "Uploaded media requires a valid asset.")])
  let asset ← mediaAsset library public_id secure_url
  let candidate ← construct library { self.arguments with
    public_id := .text asset.public_id
    secure_url := .text asset.secure_url
    cloudinary_public_id := .text asset.public_id
    cloudinary_secure_url := .text asset.secure_url
    upload_status := .text PortfolioUploadStatus.uploaded.value
    quality_status := .text PortfolioQualityStatus.pending_analysis.value
    visibility_status := .text PortfolioVisibilityStatus.private.value
    upload_error := .none
    failure_reason := .none
    updated_at := .datetime reading.now }
  return .commit candidate (recorded self reading candidate.updated_at .PortfolioMediaUploaded)

def mark_quality_passed (reading : Reading) : Operation PortfolioImage PortfolioEvent :=
  fun self => do
  self.ensure_mutable
  if self.upload_status ≠ .uploaded then
    throw (InvalidPortfolioTransition "Only uploaded media can pass quality review.")
  let candidate ← construct library { self.arguments with
    quality_status := .text PortfolioQualityStatus.passed.value
    visibility_status := .text PortfolioVisibilityStatus.private.value
    upload_error := .none
    failure_reason := .none
    updated_at := .datetime reading.now }
  return .commit candidate none

def mark_quality_failed (reading : Reading) (reason : Value) :
    Operation PortfolioImage PortfolioEvent := fun self => do
  self.ensure_mutable
  if self.upload_status ≠ .uploaded then
    throw (InvalidPortfolioTransition "Only uploaded media can fail quality review.")
  let clean_reason ← _validated_transition_reason library "failure_reason" portfolioInvalid reason
  let candidate ← construct library { self.arguments with
    quality_status := .text PortfolioQualityStatus.failed.value
    visibility_status := .text PortfolioVisibilityStatus.private.value
    upload_error := .text clean_reason
    failure_reason := .text clean_reason
    updated_at := .datetime reading.now }
  return .commit candidate none

def mark_failed (reading : Reading) (reason : Value) : Operation PortfolioImage PortfolioEvent :=
  fun self => do
  self.ensure_mutable
  if self.upload_status ∉ [.processing, .processing_deferred] then
    throw (InvalidPortfolioTransition "Only processing media can fail.")
  let clean_reason ← _validated_transition_reason library "failure_reason" portfolioInvalid reason
  let candidate ← construct library { self.arguments with
    upload_status := .text PortfolioUploadStatus.failed.value
    quality_status := .text PortfolioQualityStatus.failed.value
    visibility_status := .text PortfolioVisibilityStatus.private.value
    upload_error := .text clean_reason
    failure_reason := .text clean_reason
    updated_at := .datetime reading.now }
  return .commit candidate (recorded self reading candidate.updated_at fun image_id vendor_id =>
    .PortfolioMediaFailed image_id vendor_id clean_reason)

def submit_for_approval (reading : Reading) : Operation PortfolioImage PortfolioEvent :=
  fun self => do
  self.ensure_mutable
  if self.upload_status ≠ .uploaded ∨ self.quality_status ≠ .passed ∨
      self.visibility_status ≠ .private ∨ ¬self.is_active ∨ self.is_deleted then
    throw (InvalidPortfolioTransition
      "Only active uploaded media that passed quality review can be submitted.")
  let candidate ← construct library { self.arguments with
    visibility_status := .text PortfolioVisibilityStatus.waiting_approval.value
    updated_at := .datetime reading.now }
  return .commit candidate
    (recorded self reading candidate.updated_at .PortfolioMediaSubmittedForApproval)

def approve (reading : Reading) : Operation PortfolioImage PortfolioEvent := fun self => do
  self.ensure_mutable
  if self.visibility_status ≠ .waiting_approval then
    throw (InvalidPortfolioTransition "Only waiting portfolio media can be approved.")
  let candidate ← construct library { self.arguments with
    visibility_status := .text PortfolioVisibilityStatus.approved.value
    rejection_reason := .none
    updated_at := .datetime reading.now }
  return .commit candidate (recorded self reading candidate.updated_at .PortfolioMediaApproved)

def reject (reading : Reading) (reason : Value) : Operation PortfolioImage PortfolioEvent :=
  fun self => do
  self.ensure_mutable
  if self.visibility_status ≠ .waiting_approval then
    throw (InvalidPortfolioTransition "Only waiting portfolio media can be rejected.")
  let clean_reason ← _validated_transition_reason library "rejection_reason" portfolioInvalid reason
  let candidate ← construct library { self.arguments with
    visibility_status := .text PortfolioVisibilityStatus.rejected.value
    rejection_reason := .text clean_reason
    updated_at := .datetime reading.now }
  return .commit candidate (recorded self reading candidate.updated_at fun image_id vendor_id =>
    .PortfolioMediaRejected image_id vendor_id clean_reason)

def deactivate (reading : Reading) : Operation PortfolioImage PortfolioEvent := fun self => do
  if self.is_deleted ∧ ¬self.is_active then
    return .unchanged
  let candidate ← construct library { self.arguments with
    is_active := .bool false
    is_deleted := .bool true
    visibility_status := .text PortfolioVisibilityStatus.private.value
    deleted_at := .datetime reading.now
    updated_at := .datetime reading.again }
  return .commit candidate (recorded self reading candidate.updated_at .PortfolioMediaDeactivated)

def reorder (reading : Reading) (new_order : Value) : Operation PortfolioImage PortfolioEvent :=
  fun self => do
  self.ensure_mutable
  let candidate ← construct library { self.arguments with
    order := new_order
    updated_at := .datetime reading.now }
  return .commit candidate (recorded self reading candidate.updated_at fun image_id vendor_id =>
    .PortfolioMediaReordered image_id vendor_id candidate.order)

def update_caption (reading : Reading) (caption : Value) :
    Operation PortfolioImage PortfolioEvent := fun self => do
  self.ensure_mutable
  if caption = .ofText self.caption then
    return .unchanged
  let candidate ← construct library { self.arguments with
    caption
    visibility_status := .text (if self.visibility_status = .approved then
      PortfolioVisibilityStatus.waiting_approval.value else self.visibility_status.value)
    updated_at := .datetime reading.now }
  return .commit candidate (recorded self reading candidate.updated_at .PortfolioCaptionUpdated)

end PortfolioImage

/-- A call of a domain operation of a portfolio image. -/
inductive PortfolioOperation : Type where
  | attach_cloudinary_asset (public_id secure_url : Value)
  | mark_queued
  | mark_processing
  | mark_uploaded (public_id secure_url : Value)
  | mark_quality_passed
  | mark_quality_failed (reason : Value)
  | mark_failed (reason : Value)
  | submit_for_approval
  | approve
  | reject (reason : Value)
  | deactivate
  | reorder (new_order : Value)
  | update_caption (caption : Value)
deriving DecidableEq, Repr

/-- The operation a call runs. -/
def PortfolioOperation.run (library : TextLibrary) (reading : Reading) :
    PortfolioOperation → Operation PortfolioImage PortfolioEvent
  | attach_cloudinary_asset public_id secure_url =>
    PortfolioImage.attach_cloudinary_asset library reading public_id secure_url
  | mark_queued => PortfolioImage.mark_queued library reading
  | mark_processing => PortfolioImage.mark_processing library reading
  | mark_uploaded public_id secure_url =>
    PortfolioImage.mark_uploaded library reading public_id secure_url
  | mark_quality_passed => PortfolioImage.mark_quality_passed library reading
  | mark_quality_failed reason => PortfolioImage.mark_quality_failed library reading reason
  | mark_failed reason => PortfolioImage.mark_failed library reading reason
  | submit_for_approval => PortfolioImage.submit_for_approval library reading
  | approve => PortfolioImage.approve library reading
  | reject reason => PortfolioImage.reject library reading reason
  | deactivate => PortfolioImage.deactivate library reading
  | reorder new_order => PortfolioImage.reorder library reading new_order
  | update_caption caption => PortfolioImage.update_caption library reading caption

/-- One call in a run of an image. -/
abbrev PortfolioCall : Type := Performed PortfolioOperation PortfolioImage PortfolioEvent

section Runs

variable (library) (self : Aggregate PortfolioImage PortfolioEvent)
  (calls : List (PortfolioOperation × Reading))

/-- The calls of a run on an image object, in order. -/
def portfolioHistory : List PortfolioCall :=
  self.history (PortfolioImage.kind library)
    (fun reading => PortfolioOperation.run library reading) calls

/-- The image object a run leaves. -/
def portfolioFinal : Aggregate PortfolioImage PortfolioEvent :=
  self.final (PortfolioImage.kind library)
    (fun reading => PortfolioOperation.run library reading) calls

end Runs

end Linkapro.Vendors
