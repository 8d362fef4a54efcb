import Linkapro.Vendors.Portfolio

/-!
# How portfolio images become public

An image that a vendor adds starts out staged or queued, and private. It reaches approval
only through an upload, a passed quality review, a submission and an approval, and every
change of its asset or its quality sends it back to private.
-/

namespace Linkapro.Vendors

open Lib (Checked)

variable {library : TextLibrary}

/-! ### What an operation does to the statuses -/

/-- The image is under review for the public, or public. -/
def Shown (image : PortfolioImage) : Prop :=
  image.visibility_status = .waiting_approval ∨ image.visibility_status = .approved

/-- What the public may see: an active, stored, uploaded image that has passed its quality
review and has a URL. -/
structure ReadyForPublic (image : PortfolioImage) : Prop where
  is_active : image.is_active = true
  not_deleted : image.is_deleted = false
  uploaded : image.upload_status = .uploaded
  passed : image.quality_status = .passed
  url : image.publicUrl ≠ none

/-- The asset, its quality and the place of the image stay the same. -/
structure SameMedia (before candidate : PortfolioImage) : Prop where
  public_id : candidate.public_id = before.public_id
  secure_url : candidate.secure_url = before.secure_url
  cloudinary_public_id : candidate.cloudinary_public_id = before.cloudinary_public_id
  cloudinary_secure_url : candidate.cloudinary_secure_url = before.cloudinary_secure_url
  upload_status : candidate.upload_status = before.upload_status
  quality_status : candidate.quality_status = before.quality_status
  is_active : candidate.is_active = before.is_active
  is_deleted : candidate.is_deleted = before.is_deleted

theorem SameMedia.publicUrl {self candidate : PortfolioImage} (h : SameMedia self candidate) :
    candidate.publicUrl = self.publicUrl := by
  rw [PortfolioImage.publicUrl, h.cloudinary_secure_url, h.secure_url, PortfolioImage.publicUrl]

theorem SameMedia.ready {self candidate : PortfolioImage} (h : SameMedia self candidate)
    (hready : ReadyForPublic self) : ReadyForPublic candidate := by
  refine ⟨?_, ?_, ?_, ?_, ?_⟩
  · exact h.is_active.trans hready.is_active
  · exact h.is_deleted.trans hready.not_deleted
  · exact h.upload_status.trans hready.uploaded
  · exact h.quality_status.trans hready.passed
  · exact h.publicUrl ▸ hready.url

/-- When the image is uploaded after the operation, it has a URL then, or it was uploaded
before and has the URL it had. -/
def KeepsUrl (self candidate : PortfolioImage) : Prop :=
  candidate.upload_status = .uploaded → candidate.publicUrl ≠ none ∨
    self.upload_status = .uploaded ∧ candidate.publicUrl = self.publicUrl

/-- The operations that set the asset or the quality of an image. -/
def PortfolioOperation.setsMedia : PortfolioOperation → Bool
  | attach_cloudinary_asset _ _ => true
  | mark_queued => true
  | mark_uploaded _ _ => true
  | mark_quality_passed => true
  | mark_quality_failed _ => true
  | mark_failed _ => true
  | _ => false

/-- What a committing operation does to the visibility. -/
inductive VisibilityEffect (self candidate : PortfolioImage) : PortfolioOperation → Prop
  | hidden {operation : PortfolioOperation} (visibility : ¬Shown candidate)
      (url : KeepsUrl self candidate) : VisibilityEffect self candidate operation
  | underway {public_id secure_url : Value} (not_uploaded : self.upload_status ≠ .uploaded)
      (upload : candidate.upload_status = self.upload_status)
      (visibility : candidate.visibility_status = self.visibility_status) :
      VisibilityEffect self candidate (.attach_cloudinary_asset public_id secure_url)
  | submitted (is_active : self.is_active = true) (not_deleted : self.is_deleted = false)
      (uploaded : self.upload_status = .uploaded) (passed : self.quality_status = .passed)
      (visibility : candidate.visibility_status = .waiting_approval)
      (media : SameMedia self candidate) : VisibilityEffect self candidate .submit_for_approval
  | approved (waiting : self.visibility_status = .waiting_approval)
      (visibility : candidate.visibility_status = .approved)
      (media : SameMedia self candidate) : VisibilityEffect self candidate .approve
  | kept {operation : PortfolioOperation} (plain : operation.setsMedia = false)
      (visibility : candidate.visibility_status = self.visibility_status ∨
        self.visibility_status = .approved ∧ candidate.visibility_status = .waiting_approval)
      (media : SameMedia self candidate) : VisibilityEffect self candidate operation

open PortfolioImage (construct_eq_ok_iff)

section Statuses

variable {field_name : String}

/-- A status that is set is the one found. -/
theorem visibility_set {status result : PortfolioVisibilityStatus}
    (h : _normalize_enum field_name PortfolioVisibilityStatus.all PortfolioVisibilityStatus.value
      (.text status.value) = .valid result) : result = status :=
  Checked.eq_of_valid h (PortfolioVisibilityStatus._normalize_value field_name status)

theorem upload_set {status result : PortfolioUploadStatus}
    (h : _normalize_enum field_name PortfolioUploadStatus.all PortfolioUploadStatus.value
      (.text status.value) = .valid result) : result = status :=
  Checked.eq_of_valid h (PortfolioUploadStatus._normalize_value field_name status)

end Statuses

/-- The arguments for the asset, its quality and the place of the image. -/
def PortfolioArguments.media (arguments : PortfolioArguments) : List Value :=
  [arguments.public_id, arguments.secure_url, arguments.cloudinary_public_id,
    arguments.cloudinary_secure_url, arguments.upload_status, arguments.quality_status,
    arguments.is_active, arguments.is_deleted]

section Kept

variable {arguments : PortfolioArguments} {self candidate : PortfolioImage}

/-- Arguments that are passed on give the fields they come from. -/
theorem sameMedia_of_yield (hself : self.arguments.Yield library self)
    (hyield : arguments.Yield library candidate)
    (hmedia : arguments.media = self.arguments.media) : SameMedia self candidate := by
  simp only [PortfolioArguments.media, List.cons.injEq, and_true] at hmedia
  obtain ⟨hpublic_id, hsecure_url, hcloudinary_public_id, hcloudinary_secure_url, hupload,
    hquality, hactive, hdeleted⟩ := hmedia
  refine ⟨?_, ?_, ?_, ?_, ?_, ?_, ?_, ?_⟩
  · exact Checked.eq_of_valid (hpublic_id ▸ hyield.public_id) hself.public_id
  · exact Checked.eq_of_valid (hsecure_url ▸ hyield.secure_url) hself.secure_url
  · exact Checked.eq_of_valid (hcloudinary_public_id ▸ hyield.cloudinary_public_id)
      hself.cloudinary_public_id
  · exact Checked.eq_of_valid (hcloudinary_secure_url ▸ hyield.cloudinary_secure_url)
      hself.cloudinary_secure_url
  · exact Checked.eq_of_valid (hupload ▸ hyield.upload_status) hself.upload_status
  · exact Checked.eq_of_valid (hquality ▸ hyield.quality_status) hself.quality_status
  · exact Checked.eq_of_valid (hactive ▸ hyield.is_active) hself.is_active
  · exact Checked.eq_of_valid (hdeleted ▸ hyield.is_deleted) hself.is_deleted

theorem keepsUrl_of_yield (hself : self.arguments.Yield library self)
    (hyield : arguments.Yield library candidate)
    (hsecure_url : arguments.secure_url = self.arguments.secure_url)
    (hcloudinary : arguments.cloudinary_secure_url = self.arguments.cloudinary_secure_url)
    (hupload : arguments.upload_status = self.arguments.upload_status) :
    KeepsUrl self candidate := by
  have hsecure_url : candidate.secure_url = self.secure_url :=
    Checked.eq_of_valid (hsecure_url ▸ hyield.secure_url) hself.secure_url
  have hcloudinary : candidate.cloudinary_secure_url = self.cloudinary_secure_url :=
    Checked.eq_of_valid (hcloudinary ▸ hyield.cloudinary_secure_url) hself.cloudinary_secure_url
  have hupload : candidate.upload_status = self.upload_status :=
    Checked.eq_of_valid (hupload ▸ hyield.upload_status) hself.upload_status
  intro huploaded
  refine .inr ⟨hupload.symm.trans huploaded, ?_⟩
  rw [PortfolioImage.publicUrl, hcloudinary, hsecure_url, PortfolioImage.publicUrl]

theorem keepsUrl_of_not_uploaded {status : PortfolioUploadStatus}
    (hupload : candidate.upload_status = status) (hstatus : status ≠ .uploaded) :
    KeepsUrl self candidate :=
  fun huploaded => absurd (hupload.symm.trans huploaded) hstatus

/-- An attached asset has a URL. -/
theorem publicUrl_of_mediaAsset (hlibrary : library.Documented) {public_id secure_url : Value}
    {asset : MediaAsset}
    (hasset : PortfolioImage.mediaAsset library public_id secure_url = .ok asset)
    (hyield : arguments.Yield library candidate)
    (hset : arguments.cloudinary_secure_url = .text asset.secure_url) :
    candidate.publicUrl ≠ none := by
  rw [PortfolioImage.mediaAsset, Checked.toExcept_eq_ok_iff, Checked.eq_valid_iff_gives] at hasset
  simp only [Checked.gives_seq, Checked.gives_map] at hasset
  obtain ⟨_, -, url, hurl, rfl⟩ := hasset
  rw [underField_eq_valid_iff, validate_required_media_url, bind_eq_ok_iff] at hurl
  obtain ⟨text, htext, hurl⟩ := hurl
  rw [bind_eq_ok_iff] at hurl
  obtain ⟨safe, hsafe, hurl⟩ := hurl
  obtain rfl := safe_url_eq hsafe
  obtain rfl := https_url_eq hurl
  have hcloudinary : candidate.cloudinary_secure_url = some url :=
    media_url_of_bounded_text hlibrary htext (hset ▸ hyield.cloudinary_secure_url)
  have hne : url ≠ "" := ne_empty_of_bounded_text htext
  rw [PortfolioImage.publicUrl, hcloudinary]
  simp [nonEmpty, hne]

end Kept

/-- A private image is not shown. -/
theorem not_shown_of_status {image : PortfolioImage} {status : PortfolioVisibilityStatus}
    (hstatus : image.visibility_status = status) (hwaiting : status ≠ .waiting_approval)
    (happroved : status ≠ .approved) : ¬Shown image := by
  rintro (h | h)
  · exact hwaiting (hstatus.symm.trans h)
  · exact happroved (hstatus.symm.trans h)

/-- An operation that commits has constructed the candidate. -/
theorem visibilityEffect (hlibrary : library.Documented) {operation : PortfolioOperation}
    {reading : Reading} {self candidate : PortfolioImage}
    {event_factory : Option (ℕ → VendorDomainEvent PortfolioEvent)}
    (hvalid : self.validate_invariants library = .ok self)
    (h : operation.run library reading self = .ok (.commit candidate event_factory)) :
    candidate.validate_invariants library = .ok candidate ∧
      VisibilityEffect self candidate operation := by
  have hself := construct_eq_ok_iff.mp hvalid
  cases operation with
  | attach_cloudinary_asset public_id secure_url =>
    simp only [PortfolioOperation.run, PortfolioImage.attach_cloudinary_asset, bind_eq_ok_iff,
      pure_eq_ok_iff, Change.commit.injEq] at h
    obtain ⟨-, -, asset, hasset, _, hconstruct, rfl, -⟩ := h
    have hyield := construct_eq_ok_iff.mp hconstruct
    refine ⟨PortfolioImage.validate_of_construct hlibrary hconstruct, ?_⟩
    have hvisibility := hyield.visibility_status
    by_cases hunderway : self.upload_status ∈ [.queued, .processing]
    · simp only [if_pos hunderway] at hvisibility
      refine .underway ?_ ?_ (visibility_set hvisibility)
      · intro huploaded
        rw [huploaded] at hunderway
        simp at hunderway
      · exact Checked.eq_of_valid hyield.upload_status hself.upload_status
    · simp only [if_neg hunderway] at hvisibility
      have hhidden := visibility_set hvisibility
      refine .hidden (not_shown_of_status hhidden (by simp) (by simp)) ?_
      exact fun _ => .inl (publicUrl_of_mediaAsset hlibrary hasset hyield rfl)
  | mark_queued =>
    simp only [PortfolioOperation.run, PortfolioImage.mark_queued, bind_eq_ok_iff,
      guard_eq_ok_iff, pure_eq_ok_iff, Change.commit.injEq] at h
    obtain ⟨-, -, -, _, hconstruct, rfl, -⟩ := h
    have hyield := construct_eq_ok_iff.mp hconstruct
    refine ⟨PortfolioImage.validate_of_construct hlibrary hconstruct, ?_⟩
    have hhidden := visibility_set hyield.visibility_status
    refine .hidden (not_shown_of_status hhidden (by simp) (by simp)) ?_
    exact keepsUrl_of_not_uploaded (upload_set hyield.upload_status) (by simp)
  | mark_processing =>
    simp only [PortfolioOperation.run, PortfolioImage.mark_processing, bind_eq_ok_iff,
      guard_eq_ok_iff, pure_eq_ok_iff, Change.commit.injEq] at h
    obtain ⟨-, -, -, _, hconstruct, rfl, -⟩ := h
    have hyield := construct_eq_ok_iff.mp hconstruct
    refine ⟨PortfolioImage.validate_of_construct hlibrary hconstruct, ?_⟩
    have hhidden := visibility_set hyield.visibility_status
    refine .hidden (not_shown_of_status hhidden (by simp) (by simp)) ?_
    exact keepsUrl_of_not_uploaded (upload_set hyield.upload_status) (by simp)
  | mark_uploaded public_id secure_url =>
    simp only [PortfolioOperation.run, PortfolioImage.mark_uploaded, bind_eq_ok_iff,
      guard_eq_ok_iff, pure_eq_ok_iff, Change.commit.injEq] at h
    obtain ⟨-, -, -, -, asset, hasset, _, hconstruct, rfl, -⟩ := h
    have hyield := construct_eq_ok_iff.mp hconstruct
    refine ⟨PortfolioImage.validate_of_construct hlibrary hconstruct, ?_⟩
    have hhidden := visibility_set hyield.visibility_status
    refine .hidden (not_shown_of_status hhidden (by simp) (by simp)) ?_
    exact fun _ => .inl (publicUrl_of_mediaAsset hlibrary hasset hyield rfl)
  | mark_quality_passed =>
    simp only [PortfolioOperation.run, PortfolioImage.mark_quality_passed, bind_eq_ok_iff,
      guard_eq_ok_iff, pure_eq_ok_iff, Change.commit.injEq] at h
    obtain ⟨-, -, -, _, hconstruct, rfl, -⟩ := h
    have hyield := construct_eq_ok_iff.mp hconstruct
    refine ⟨PortfolioImage.validate_of_construct hlibrary hconstruct, ?_⟩
    have hhidden := visibility_set hyield.visibility_status
    refine .hidden (not_shown_of_status hhidden (by simp) (by simp)) ?_
    exact keepsUrl_of_yield hself hyield rfl rfl rfl
  | mark_quality_failed reason =>
    simp only [PortfolioOperation.run, PortfolioImage.mark_quality_failed, bind_eq_ok_iff,
      guard_eq_ok_iff, pure_eq_ok_iff, Change.commit.injEq] at h
    obtain ⟨-, -, -, _, -, _, hconstruct, rfl, -⟩ := h
    have hyield := construct_eq_ok_iff.mp hconstruct
    refine ⟨PortfolioImage.validate_of_construct hlibrary hconstruct, ?_⟩
    have hhidden := visibility_set hyield.visibility_status
    refine .hidden (not_shown_of_status hhidden (by simp) (by simp)) ?_
    exact keepsUrl_of_yield hself hyield rfl rfl rfl
  | mark_failed reason =>
    simp only [PortfolioOperation.run, PortfolioImage.mark_failed, bind_eq_ok_iff,
      guard_eq_ok_iff, pure_eq_ok_iff, Change.commit.injEq] at h
    obtain ⟨-, -, -, _, -, _, hconstruct, rfl, -⟩ := h
    have hyield := construct_eq_ok_iff.mp hconstruct
    refine ⟨PortfolioImage.validate_of_construct hlibrary hconstruct, ?_⟩
    have hhidden := visibility_set hyield.visibility_status
    refine .hidden (not_shown_of_status hhidden (by simp) (by simp)) ?_
    exact keepsUrl_of_not_uploaded (upload_set hyield.upload_status) (by simp)
  | submit_for_approval =>
    simp only [PortfolioOperation.run, PortfolioImage.submit_for_approval, bind_eq_ok_iff,
      guard_eq_ok_iff, pure_eq_ok_iff, Change.commit.injEq] at h
    obtain ⟨-, -, hready, _, hconstruct, rfl, -⟩ := h
    have hyield := construct_eq_ok_iff.mp hconstruct
    refine ⟨PortfolioImage.validate_of_construct hlibrary hconstruct, ?_⟩
    simp only [not_or, not_not] at hready
    obtain ⟨huploaded, hpassed, -, hactive, hdeleted⟩ := hready
    exact .submitted hactive (Bool.not_eq_true _ ▸ hdeleted) huploaded hpassed
      (visibility_set hyield.visibility_status) (sameMedia_of_yield hself hyield rfl)
  | approve =>
    simp only [PortfolioOperation.run, PortfolioImage.approve, bind_eq_ok_iff,
      guard_eq_ok_iff, pure_eq_ok_iff, Change.commit.injEq] at h
    obtain ⟨-, -, hwaiting, _, hconstruct, rfl, -⟩ := h
    have hyield := construct_eq_ok_iff.mp hconstruct
    refine ⟨PortfolioImage.validate_of_construct hlibrary hconstruct, ?_⟩
    exact .approved (not_not.mp hwaiting) (visibility_set hyield.visibility_status)
      (sameMedia_of_yield hself hyield rfl)
  | reject reason =>
    simp only [PortfolioOperation.run, PortfolioImage.reject, bind_eq_ok_iff,
      guard_eq_ok_iff, pure_eq_ok_iff, Change.commit.injEq] at h
    obtain ⟨-, -, -, _, -, _, hconstruct, rfl, -⟩ := h
    have hyield := construct_eq_ok_iff.mp hconstruct
    refine ⟨PortfolioImage.validate_of_construct hlibrary hconstruct, ?_⟩
    have hhidden := visibility_set hyield.visibility_status
    refine .hidden (not_shown_of_status hhidden (by simp) (by simp)) ?_
    exact keepsUrl_of_yield hself hyield rfl rfl rfl
  | deactivate =>
    simp only [PortfolioOperation.run, PortfolioImage.deactivate, early_return_eq_commit_iff,
      bind_eq_ok_iff, pure_eq_ok_iff, Change.commit.injEq] at h
    obtain ⟨-, _, hconstruct, rfl, -⟩ := h
    have hyield := construct_eq_ok_iff.mp hconstruct
    refine ⟨PortfolioImage.validate_of_construct hlibrary hconstruct, ?_⟩
    have hhidden := visibility_set hyield.visibility_status
    refine .hidden (not_shown_of_status hhidden (by simp) (by simp)) ?_
    exact keepsUrl_of_yield hself hyield rfl rfl rfl
  | reorder new_order =>
    simp only [PortfolioOperation.run, PortfolioImage.reorder, bind_eq_ok_iff, pure_eq_ok_iff,
      Change.commit.injEq] at h
    obtain ⟨-, -, _, hconstruct, rfl, -⟩ := h
    have hyield := construct_eq_ok_iff.mp hconstruct
    refine ⟨PortfolioImage.validate_of_construct hlibrary hconstruct, ?_⟩
    exact .kept rfl (.inl (visibility_set hyield.visibility_status))
      (sameMedia_of_yield hself hyield rfl)
  | update_caption caption =>
    simp only [PortfolioOperation.run, PortfolioImage.update_caption, bind_eq_ok_iff,
      early_return_eq_commit_iff, pure_eq_ok_iff, Change.commit.injEq] at h
    obtain ⟨-, -, -, _, hconstruct, rfl, -⟩ := h
    have hyield := construct_eq_ok_iff.mp hconstruct
    refine ⟨PortfolioImage.validate_of_construct hlibrary hconstruct, ?_⟩
    have hvisibility := hyield.visibility_status
    refine .kept rfl ?_ (sameMedia_of_yield hself hyield rfl)
    by_cases happroved : self.visibility_status = .approved
    · simp only [if_pos happroved] at hvisibility
      exact .inr ⟨happroved, visibility_set hvisibility⟩
    · simp only [if_neg happroved] at hvisibility
      exact .inl (visibility_set hvisibility)

/-- The operations that set the asset or the quality do not return early. -/
theorem setsMedia_of_unchanged {operation : PortfolioOperation} {reading : Reading}
    {self : PortfolioImage} (h : operation.run library reading self = .ok .unchanged) :
    operation.setsMedia = false := by
  cases operation with
  | attach_cloudinary_asset public_id secure_url =>
    simp only [PortfolioOperation.run, PortfolioImage.attach_cloudinary_asset, bind_eq_ok_iff,
      pure_eq_ok_iff, reduceCtorEq, and_false, exists_false] at h
  | mark_queued =>
    simp only [PortfolioOperation.run, PortfolioImage.mark_queued, bind_eq_ok_iff,
      guard_eq_ok_iff, pure_eq_ok_iff, reduceCtorEq, and_false, exists_false] at h
  | mark_uploaded public_id secure_url =>
    simp only [PortfolioOperation.run, PortfolioImage.mark_uploaded, bind_eq_ok_iff,
      guard_eq_ok_iff, pure_eq_ok_iff, reduceCtorEq, and_false, exists_false] at h
  | mark_quality_passed =>
    simp only [PortfolioOperation.run, PortfolioImage.mark_quality_passed, bind_eq_ok_iff,
      guard_eq_ok_iff, pure_eq_ok_iff, reduceCtorEq, and_false, exists_false] at h
  | mark_quality_failed reason =>
    simp only [PortfolioOperation.run, PortfolioImage.mark_quality_failed, bind_eq_ok_iff,
      guard_eq_ok_iff, pure_eq_ok_iff, reduceCtorEq, and_false, exists_false] at h
  | mark_failed reason =>
    simp only [PortfolioOperation.run, PortfolioImage.mark_failed, bind_eq_ok_iff,
      guard_eq_ok_iff, pure_eq_ok_iff, reduceCtorEq, and_false, exists_false] at h
  | _ => rfl

/-! ### Every image that is shown is ready -/

/-- What holds of an image in every state of its life. -/
structure SoundImage (library : TextLibrary) (image : PortfolioImage) : Prop where
  valid : image.validate_invariants library = .ok image
  url : image.upload_status = .uploaded → image.publicUrl ≠ none
  ready : Shown image → ReadyForPublic image

theorem SoundImage.step (hlibrary : library.Documented) {operation : PortfolioOperation}
    {reading : Reading} {self candidate : PortfolioImage}
    {event_factory : Option (ℕ → VendorDomainEvent PortfolioEvent)}
    (hsound : SoundImage library self)
    (h : operation.run library reading self = .ok (.commit candidate event_factory)) :
    SoundImage library candidate := by
  have hkept : SameMedia self candidate → candidate.upload_status = .uploaded →
      candidate.publicUrl ≠ none := by
    intro hmedia huploaded
    rw [hmedia.publicUrl]
    exact hsound.url (hmedia.upload_status.symm.trans huploaded)
  obtain ⟨hvalid, heffect⟩ := visibilityEffect hlibrary hsound.valid h
  cases heffect with
  | hidden hhidden hurl =>
    refine ⟨hvalid, ?_, fun hshown => absurd hshown hhidden⟩
    intro huploaded
    obtain hnew | ⟨hbefore, hsame⟩ := hurl huploaded
    · exact hnew
    · rw [hsame]
      exact hsound.url hbefore
  | underway hnot hupload hvisibility =>
    refine ⟨hvalid, fun huploaded => absurd (hupload.symm.trans huploaded) hnot, ?_⟩
    intro hshown
    rw [Shown, hvisibility] at hshown
    exact absurd (hsound.ready hshown).uploaded hnot
  | submitted hactive hdeleted huploaded hpassed _ hmedia =>
    refine ⟨hvalid, hkept hmedia, fun _ => hmedia.ready ?_⟩
    exact ⟨hactive, hdeleted, huploaded, hpassed, hsound.url huploaded⟩
  | approved hwaiting _ hmedia =>
    exact ⟨hvalid, hkept hmedia, fun _ => hmedia.ready (hsound.ready (.inl hwaiting))⟩
  | kept _ hvisibility hmedia =>
    refine ⟨hvalid, hkept hmedia, fun hshown => hmedia.ready (hsound.ready ?_)⟩
    obtain hsame | ⟨happroved, -⟩ := hvisibility
    · rwa [Shown, hsame] at hshown
    · exact .inr happroved

/-- The version does not matter. -/
theorem SoundImage.setVersion {image : PortfolioImage} (hsound : SoundImage library image)
    (version : ℕ) : SoundImage library { image with version } where
  valid := PortfolioImage.validate_setVersion hsound.valid version
  url := hsound.url
  ready hshown := { hsound.ready hshown with }

/-! ### Runs of one image object -/

/-- The call has succeeded and has set the asset or the quality of the image. -/
def ChangesMedia (step : PortfolioCall) : Prop :=
  step.answer = .ok () ∧
    (step.operation.setsMedia ∨
      (step.after.entity.public_id, step.after.entity.secure_url,
        step.after.entity.cloudinary_public_id, step.after.entity.cloudinary_secure_url,
        step.after.entity.quality_status) ≠
      (step.before.entity.public_id, step.before.entity.secure_url,
        step.before.entity.cloudinary_public_id, step.before.entity.cloudinary_secure_url,
        step.before.entity.quality_status))

instance (step : PortfolioCall) : Decidable (ChangesMedia step) :=
  inferInstanceAs (Decidable (_ ∧ (_ ∨ _)))

/-- A call that leaves the asset and the quality alone, of an operation that does not set
them. -/
theorem not_changesMedia {step : PortfolioCall} (hplain : step.operation.setsMedia = false)
    (hmedia : SameMedia step.before.entity step.after.entity) : ¬ChangesMedia step := by
  rintro ⟨-, hsets | hchange⟩
  · rw [hplain] at hsets
    cases hsets
  · refine hchange ?_
    rw [hmedia.public_id, hmedia.secure_url, hmedia.cloudinary_public_id,
      hmedia.cloudinary_secure_url, hmedia.quality_status]

theorem SameMedia.refl (image : PortfolioImage) : SameMedia image image :=
  ⟨rfl, rfl, rfl, rfl, rfl, rfl, rfl, rfl⟩

/-- A submission has gone through, nothing since then has changed the asset or the quality,
and the calls after the submission have the property. -/
def ReviewedSince (history : List PortfolioCall) (property : List PortfolioCall → Prop) : Prop :=
  ∃ earlier submission later, history = earlier ++ submission :: later ∧
    submission.operation = .submit_for_approval ∧ submission.answer = .ok () ∧
    (∀ step ∈ submission :: later, ¬ChangesMedia step) ∧ property later

/-- An approval among these calls has gone through. -/
def HasApproval (later : List PortfolioCall) : Prop :=
  ∃ approval ∈ later, approval.operation = .approve ∧ approval.answer = .ok ()

theorem ReviewedSince.concat {history : List PortfolioCall}
    {property property' : List PortfolioCall → Prop} {step : PortfolioCall}
    (h : ReviewedSince history property) (hstep : ¬ChangesMedia step)
    (hproperty : ∀ later, property later → property' (later ++ [step])) :
    ReviewedSince (history ++ [step]) property' := by
  obtain ⟨earlier, submission, later, rfl, hsubmission, hanswer, hlater, hholds⟩ := h
  refine ⟨earlier, submission, later ++ [step], by simp, hsubmission, hanswer, ?_,
    hproperty later hholds⟩
  intro other hother
  rw [← List.cons_append, List.mem_append, List.mem_singleton] at hother
  obtain hother | rfl := hother
  · exact hlater other hother
  · exact hstep

/-- What the history of an image tells about its visibility. -/
structure ReviewedImage (library : TextLibrary) (history : List PortfolioCall)
    (image : PortfolioImage) : Prop where
  sound : SoundImage library image
  waiting : image.visibility_status = .waiting_approval → ReviewedSince history fun _ => True
  approved : image.visibility_status = .approved → ReviewedSince history HasApproval

/-- A call that leaves the image alone. -/
theorem ReviewedImage.same {history : List PortfolioCall} {image : PortfolioImage}
    {step : PortfolioCall} (h : ReviewedImage library history image)
    (hstep : ¬ChangesMedia step) : ReviewedImage library (history ++ [step]) image where
  sound := h.sound
  waiting hwaiting := (h.waiting hwaiting).concat hstep fun _ _ => trivial
  approved happroved := (h.approved happroved).concat hstep fun _ ⟨approval, hmem, hrest⟩ =>
    ⟨approval, List.mem_append_left _ hmem, hrest⟩

theorem ReviewedImage.step (hlibrary : library.Documented) {history : List PortfolioCall}
    {self : Aggregate PortfolioImage PortfolioEvent}
    (h : ReviewedImage library history self.entity) (operation : PortfolioOperation)
    (reading : Reading) :
    let result := self.call (PortfolioImage.kind library) (operation.run library reading)
    ReviewedImage library (history ++ [⟨operation, reading, self, result.1, result.2⟩])
      result.2.entity := by
  obtain ⟨raised, hcall⟩ | ⟨hrun, hcall⟩ | ⟨candidate, _, entity, hrun, hvalid, hcall⟩ :=
    self.call_cases (PortfolioImage.kind library) (operation.run library reading)
  · rw [hcall]
    exact h.same fun ⟨hanswer, _⟩ => by cases hanswer
  · rw [hcall]
    exact h.same (not_changesMedia (setsMedia_of_unchanged hrun) (SameMedia.refl self.entity))
  · rw [hcall]
    obtain ⟨hsame, heffect⟩ := visibilityEffect hlibrary h.sound.valid hrun
    obtain rfl : candidate = entity := Except.ok.inj (hsame.symm.trans hvalid)
    have hsound := (h.sound.step hlibrary hrun).setVersion (candidate.version + 1)
    cases heffect with
    | hidden hhidden _ =>
      exact ⟨hsound, fun hshown => absurd (.inl hshown) hhidden,
        fun hshown => absurd (.inr hshown) hhidden⟩
    | underway hnot hupload hvisibility =>
      have hhidden : ¬Shown candidate := fun hshown =>
        hnot (hupload.symm.trans (hsound.ready hshown).uploaded)
      exact ⟨hsound, fun hshown => absurd (.inl hshown) hhidden,
        fun hshown => absurd (.inr hshown) hhidden⟩
    | submitted _ _ _ _ hvisibility hmedia =>
      refine ⟨hsound, fun _ => ⟨history, _, [], rfl, rfl, rfl, ?_, trivial⟩, ?_⟩
      · intro step hstep
        obtain rfl := List.mem_singleton.mp hstep
        exact not_changesMedia rfl { hmedia with }
      · intro happroved
        cases hvisibility.symm.trans happroved
    | approved hwaiting hvisibility hmedia =>
      refine ⟨hsound, ?_, fun _ => ?_⟩
      · intro hstill
        cases hvisibility.symm.trans hstill
      · refine (h.waiting hwaiting).concat (not_changesMedia rfl { hmedia with }) ?_
        exact fun later _ => ⟨_, List.mem_append_right _ List.mem_cons_self, rfl, rfl⟩
    | kept hplain hvisibility hmedia =>
      obtain hsame | ⟨happroved, hwaiting⟩ := hvisibility
      · refine ⟨hsound, fun hwaiting => ?_, fun happroved => ?_⟩
        · exact (h.waiting (hsame.symm.trans hwaiting)).concat
            (not_changesMedia hplain { hmedia with }) fun _ _ => trivial
        · refine (h.approved (hsame.symm.trans happroved)).concat
            (not_changesMedia hplain { hmedia with }) ?_
          exact fun _ ⟨approval, hmem, hrest⟩ => ⟨approval, List.mem_append_left _ hmem, hrest⟩
      · refine ⟨hsound, fun _ => ?_, fun hstill => ?_⟩
        · exact (h.approved happroved).concat (not_changesMedia hplain { hmedia with })
            fun _ _ => trivial
        · cases hwaiting.symm.trans hstill

/-- What the view passes for a new image without an asset. -/
def sampleUpload : PortfolioArguments where
  id := .uuid 1
  vendor_id := .uuid 2
  caption := .text "A table by the lake"
  mime_type := .text "image/jpeg"
  file_size := .int 4096
  created_at := .datetime 0
  updated_at := .datetime 0

/-- The image constructed from it. -/
def sampleImage : PortfolioImage where
  id := 1
  vendor_id := 2
  public_id := ""
  secure_url := ""
  caption := some "A table by the lake"
  order := 0
  media_type := .image
  upload_status := .staged
  quality_status := .pending_analysis
  visibility_status := .private
  upload_error := none
  failure_reason := none
  rejection_reason := none
  original_filename := none
  mime_type := "image/jpeg"
  file_size := 4096
  local_preview_url := none
  cloudinary_public_id := none
  cloudinary_secure_url := none
  width := none
  height := none
  duration_seconds := none
  analyzer_score := none
  analyzer_summary := none
  is_active := true
  is_deleted := false
  deleted_at := none
  version := 0
  created_at := 0
  updated_at := 0

/-- A call at a fixed time. -/
def atNoon (operation : PortfolioOperation) : PortfolioOperation × Reading :=
  (operation, { now := hours 12, again := hours 12, event_id := 7 })

/-- The way of an image from its upload to its approval. -/
def sampleReview : List (PortfolioOperation × Reading) :=
  [atNoon .mark_queued, atNoon .mark_processing,
    atNoon (.mark_uploaded (.text "media/1") (.text "https://media.example/1.jpg")),
    atNoon .mark_quality_passed, atNoon .submit_for_approval, atNoon .approve]

/-- An image that has been created staged or queued, and private, is shown only when it is
ready for the public, and approved only after a submission and an approval since the last
change of its asset or quality. -/
theorem shown_images_reviewed (hlibrary : library.Documented) {arguments : PortfolioArguments}
    {image : PortfolioImage} (hcreated : PortfolioImage.construct library arguments = .ok image)
    (hupload : image.upload_status = .staged ∨ image.upload_status = .queued)
    (hprivate : image.visibility_status = .private)
    (calls : List (PortfolioOperation × Reading)) :
    (Shown (portfolioFinal library ⟨image, []⟩ calls).entity →
      ReadyForPublic (portfolioFinal library ⟨image, []⟩ calls).entity) ∧
    ((portfolioFinal library ⟨image, []⟩ calls).entity.visibility_status = .approved →
      ReviewedSince (portfolioHistory library ⟨image, []⟩ calls) HasApproval) := by
  have hreviewed : ReviewedImage library (portfolioHistory library ⟨image, []⟩ calls)
      (portfolioFinal library ⟨image, []⟩ calls).entity := by
    induction calls using List.reverseRecOn with
    | nil =>
      have hhidden : ¬Shown image := not_shown_of_status hprivate (by simp) (by simp)
      refine ⟨⟨PortfolioImage.validate_of_construct hlibrary hcreated, ?_, ?_⟩, ?_, ?_⟩
      · intro huploaded
        change image.upload_status = .uploaded at huploaded
        rw [huploaded] at hupload
        simp at hupload
      · exact fun hshown => absurd hshown hhidden
      · exact fun hshown => absurd (.inl hshown) hhidden
      · exact fun hshown => absurd (.inr hshown) hhidden
    | append_singleton calls call ih =>
      obtain ⟨operation, reading⟩ := call
      rw [portfolioHistory, portfolioFinal, Aggregate.history_concat, Aggregate.final_concat]
      exact ih.step hlibrary operation reading
  exact ⟨hreviewed.sound.ready, hreviewed.approved⟩

/-- An image that has gone all the way is public. -/
theorem shown_images_reviewed_sample :
    (Shown (portfolioFinal asciiLibrary ⟨sampleImage, []⟩ sampleReview).entity →
      ReadyForPublic (portfolioFinal asciiLibrary ⟨sampleImage, []⟩ sampleReview).entity) ∧
    ((portfolioFinal asciiLibrary ⟨sampleImage, []⟩ sampleReview).entity.visibility_status =
      .approved →
        ReviewedSince (portfolioHistory asciiLibrary ⟨sampleImage, []⟩ sampleReview)
          HasApproval) := by
  have hcreated : PortfolioImage.construct asciiLibrary sampleUpload = .ok sampleImage := by
    decide +kernel
  exact shown_images_reviewed asciiLibrary_documented hcreated (.inl rfl) rfl sampleReview

end Linkapro.Vendors
