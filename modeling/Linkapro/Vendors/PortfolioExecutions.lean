import Linkapro.Lib.Copies
import Linkapro.Vendors.Portfolio

/-!
# Executions on a portfolio image

The media task, media recovery and the two decisions of an administrator, statement by
statement, on one row and the temporary files it refers to. The task reads the row once
and saves columns of its copy after the analysis and the upload. The statements on other
tables, the log and the dispatch of further tasks are left out; a dispatched or retried
task is one more execution.
-/

namespace Linkapro.Vendors

open Lib

/-- The columns of a stored image that the executions look at. A text column is `none`
when it is null or empty. -/
structure PortfolioRow : Type where
  public_id : Option String
  secure_url : Option String
  upload_status : PortfolioUploadStatus
  quality_status : PortfolioQualityStatus
  visibility_status : PortfolioVisibilityStatus
  upload_error : Option String
  failure_reason : Option String
  rejection_reason : Option String
  temp_upload_path : Option String
  local_preview_url : Option String
  cloudinary_public_id : Option String
  cloudinary_secure_url : Option String
  is_active : Bool
deriving DecidableEq, Repr

namespace PortfolioRow

/-- `image.cloudinary_secure_url or image.secure_url`. -/
def file_url (image : PortfolioRow) : Option String :=
  image.cloudinary_secure_url.or image.secure_url

/-- `_cloudinary_public_id`. -/
def _cloudinary_public_id (image : PortfolioRow) : Option String :=
  image.cloudinary_public_id.or image.public_id

/-- `_is_complete`, which is also the first check of the task. -/
def _is_complete (image : PortfolioRow) : Bool :=
  image.upload_status = .uploaded ∧ image.file_url.isSome ∧
    image.quality_status ∈ [.passed, .needs_manual_review, .failed]

/-- `default_storage.exists(image.temp_upload_path)`. -/
def fileExists (files : List String) (image : PortfolioRow) : Bool :=
  image.temp_upload_path.any fun path => path ∈ files

/-- The columns that `_mark_failed` and `_mark_unrecoverable` save. -/
def _mark_failed (message : String) (row : PortfolioRow) : PortfolioRow :=
  { row with
    upload_status := .failed
    upload_error := some message
    failure_reason := some message
    local_preview_url := none
    visibility_status := .private }

end PortfolioRow

/-- `_quality_status_for_result`. -/
def _quality_status_for_result (status : String) : PortfolioQualityStatus :=
  if lower status = "passed" then .passed
  else if lower status = "failed" then .failed
  else .needs_manual_review

/-- `UNRECOVERABLE_MESSAGE`. -/
def UNRECOVERABLE_MESSAGE : String :=
  "Portfolio media source is no longer available. Upload the file again to continue review."

/-- What the task knows about the uploaded file. -/
structure UploadResult : Type where
  public_id : Option String
  secure_url : String
deriving DecidableEq, Repr

/-- The columns that the task saves at its end. -/
def finishUpload (image : PortfolioRow) (quality_status : PortfolioQualityStatus)
    (result : UploadResult) (row : PortfolioRow) : PortfolioRow :=
  { row with
    public_id := result.public_id.or image.public_id
    secure_url := some result.secure_url
    cloudinary_public_id := result.public_id.or image.cloudinary_public_id
    cloudinary_secure_url := some result.secure_url
    upload_status := .uploaded
    quality_status
    visibility_status := if quality_status = .passed then .waiting_approval else .private
    upload_error := none
    failure_reason := none
    local_preview_url := none
    temp_upload_path := none }

/-- The columns that recovery updates before it requeues an image. -/
inductive MediaUpdates : Type where
  | existing (secure_url cloudinary_secure_url : String)
  | restored (public_id cloudinary_public_id : Option String) (secure_url : String)
  | uploaded (asset : MediaAsset)
deriving DecidableEq, Repr

/-- The update of the columns. -/
def MediaUpdates.apply : MediaUpdates → PortfolioRow → PortfolioRow
  | existing secure_url cloudinary_secure_url, row =>
    { row with
      secure_url := some secure_url
      cloudinary_secure_url := some cloudinary_secure_url }
  | restored public_id cloudinary_public_id secure_url, row =>
    { row with
      public_id
      secure_url := some secure_url
      cloudinary_public_id
      cloudinary_secure_url := some secure_url }
  | uploaded asset, row =>
    { row with
      public_id := some asset.public_id
      secure_url := some asset.secure_url
      cloudinary_public_id := some asset.public_id
      cloudinary_secure_url := some asset.secure_url
      temp_upload_path := none
      local_preview_url := none }

/-- `_prepare_for_processing`. -/
def _prepare_for_processing (updates : MediaUpdates) (row : PortfolioRow) : PortfolioRow :=
  { updates.apply row with
    upload_status := .queued
    quality_status := .pending_analysis
    visibility_status := .private
    upload_error := none
    failure_reason := none }

/-- How far an execution has come. Each phase is named after its next statement. -/
inductive PortfolioPhase : Type where
  /-- `process_vendor_portfolio_media_task`. -/
  | processing
  | checkingFile (image : PortfolioRow)
  | claiming (image : PortfolioRow)
  | analyzing (image : PortfolioRow)
  | uploading (image : PortfolioRow) (quality_status : PortfolioQualityStatus)
  | finishing (image : PortfolioRow) (quality_status : PortfolioQualityStatus)
      (result : UploadResult)
  | failing (message : String)
  | cleaning (path : Option String)
  /-- `recover_stuck_portfolio_media`, for one image. -/
  | scanning (dry_run : Bool)
  | lookingUp (image : PortfolioRow)
  | lookingFor (image : PortfolioRow)
  | recovering (image : PortfolioRow)
  | requeueing (updates : MediaUpdates) (path : Option String)
  | condemning
  /-- `AdminVendorPortfolioApproveView`. -/
  | approving
  | accepting
  /-- `AdminVendorPortfolioRejectView`. -/
  | rejecting (admin_reason : Option String)
  | declining (reason : String)
  | ended
deriving DecidableEq, Repr

/-- What happens at a statement. -/
structure MediaChoice : Type where
  /-- The worker is lost, or the statement raises. -/
  interrupted : Bool := false
  /-- The status of `MediaQualityAnalyzer().analyze`. -/
  analysis : String := "passed"
  /-- The answer of Cloudinary to an upload, unless it fails. -/
  asset : Option MediaAsset := none
  /-- The URL that Cloudinary knows, unless the lookup fails. -/
  resource : Option (Option String) := none

/-- The task has read the row. -/
def afterTaskRead (image : PortfolioRow) : PortfolioPhase :=
  if image._is_complete then .ended
  else if image.file_url.isSome then .claiming image
  else if image.temp_upload_path.isSome then .checkingFile image
  else .failing "Uploaded media is no longer available."

/-- Recovery has read the row, among the active ones. A dry run writes nothing. -/
def _recover_portfolio_image (dry_run : Bool) (image : PortfolioRow) : PortfolioPhase :=
  if ¬ image.is_active ∨ image._is_complete ∨ dry_run then .ended
  else
    match image.file_url with
    | some url =>
      .requeueing (.existing (image.secure_url.getD url) (image.cloudinary_secure_url.getD url))
        none
    | none => if image._cloudinary_public_id.isSome then .lookingUp image else .lookingFor image

/-- The approval has read the row. -/
def afterApprovalRead (media : PortfolioRow) : PortfolioPhase :=
  if media.upload_status ≠ .uploaded then .ended
  else if media.quality_status = .failed then .ended
  else .accepting

/-- The reason that `generate_governance_reason` gives for a rejection. -/
def rejectionReason (admin_reason : Option String) : String :=
  (nonEmpty (admin_reason.map strip)).getD
    ("Portfolio item rejected because the uploaded media does not meet marketplace quality, " ++
      "relevance, or trust standards.")

/-- A statement that is not interrupted. -/
def portfolioDeed (files : List String) (choice : MediaChoice) :
    PortfolioPhase → Deed PortfolioRow (List String) PortfolioPhase
  | .processing => .reads afterTaskRead
  | .checkingFile image =>
    .works files (if image.fileExists files then .claiming image
      else .failing "Uploaded media is no longer available.")
  | .claiming image =>
    .saves (fun row =>
      { row with upload_status := .processing, upload_error := none, failure_reason := none })
      (.analyzing image)
  | .analyzing image =>
    let quality_status := _quality_status_for_result choice.analysis
    .works files
      (match image.file_url with
      | some url => .finishing image quality_status ⟨image._cloudinary_public_id, url⟩
      | none => .uploading image quality_status)
  | .uploading image quality_status =>
    .works files
      (match choice.asset.filter fun _ => image.fileExists files with
      | some asset => .finishing image quality_status ⟨some asset.public_id, asset.secure_url⟩
      | none => .failing "Portfolio media upload failed. Please try again.")
  | .finishing image quality_status result =>
    .saves (finishUpload image quality_status result) (.cleaning image.temp_upload_path)
  | .failing message => .saves (PortfolioRow._mark_failed message) .ended
  | .cleaning path => .works (files.filter fun file => some file ≠ path) .ended
  | .scanning dry_run => .reads (_recover_portfolio_image dry_run)
  | .lookingUp image =>
    .works files
      (match choice.resource with
      | some (some url) =>
        .requeueing (.restored (image.public_id.or image._cloudinary_public_id)
          (image.cloudinary_public_id.or image._cloudinary_public_id) url) none
      | some none => .lookingFor image
      | none => if image.fileExists files then .lookingFor image else .ended)
  | .lookingFor image =>
    .works files (if image.fileExists files then .recovering image else .condemning)
  | .recovering image =>
    .works files
      (match choice.asset.filter fun _ => image.fileExists files with
      | some asset => .requeueing (.uploaded asset) image.temp_upload_path
      | none => .ended)
  | .requeueing updates path => .saves (_prepare_for_processing updates) (.cleaning path)
  | .condemning => .saves (PortfolioRow._mark_failed UNRECOVERABLE_MESSAGE) .ended
  | .approving => .reads afterApprovalRead
  | .accepting =>
    .decides (fun row =>
      { row with visibility_status := .approved, rejection_reason := none, is_active := true })
      .ended
  | .rejecting admin_reason => .reads fun _ => .declining (rejectionReason admin_reason)
  | .declining reason =>
    .decides (fun row =>
      { row with visibility_status := .rejected, rejection_reason := some reason,
                 is_active := false })
      .ended
  | .ended => .works files .ended

/-! ### The life cycle of an image -/

/-- The place of a status in the life cycle of an upload. -/
def PortfolioUploadStatus.stage : PortfolioUploadStatus → ℕ
  | staged => 0
  | queued | processing_deferred => 1
  | processing => 2
  | uploaded | failed => 3

/-- The place of a status in the life cycle of a quality review. -/
def PortfolioQualityStatus.stage : PortfolioQualityStatus → ℕ
  | pending_analysis => 0
  | passed | failed | needs_manual_review => 1

/-- The place of a status on the way to the public. -/
def PortfolioVisibilityStatus.stage : PortfolioVisibilityStatus → ℕ
  | «private» => 0
  | waiting_approval => 1
  | approved | rejected => 2

/-- An upload is over. -/
def PortfolioUploadStatus.isFinal : PortfolioUploadStatus → Bool
  | uploaded | failed => true
  | _ => false

/-- The save of a phase leads an image that has been decided back: every save of an outcome
does, and that of PROCESSING does when the upload is over. -/
def PortfolioPhase.undoes : PortfolioPhase → PortfolioRow → Bool
  | claiming _, row => row.upload_status.isFinal
  | finishing _ _ _, _ | failing _, _ | requeueing _ _, _ | condemning, _ => true
  | _, _ => false

/-- The save of a phase says that the upload has failed. -/
def PortfolioPhase.fails : PortfolioPhase → Bool
  | failing _ | condemning => true
  | _ => false

/-- The executions on a portfolio image that nothing interrupts. -/
def portfolioStatements : CopyWork PortfolioRow (List String) PortfolioPhase MediaChoice where
  deed files phase choice := portfolioDeed files choice phase
  stages := [fun row => row.upload_status.stage, fun row => row.quality_status.stage,
    fun row => row.visibility_status.stage]
  decided row := row.visibility_status = .approved ∨ row.visibility_status = .rejected
  completes row := row.upload_status = .uploaded ∧ row.file_url.isSome
  failed row := row.upload_status = .failed
  undoes := PortfolioPhase.undoes
  fails := PortfolioPhase.fails

/-- The executions on a portfolio image. -/
def portfolioWork : CopyWork PortfolioRow (List String) PortfolioPhase MediaChoice :=
  portfolioStatements.interruptible MediaChoice.interrupted .ended

/-! ### The laws of the executions -/

/-- An execution that never gives up: it has seen a URL, or it does not need one. -/
def PortfolioPhase.knows : PortfolioPhase → Bool
  | claiming image | analyzing image => image.file_url.isSome
  | finishing _ _ _ | cleaning _ | requeueing _ _ | accepting | declining _ | ended => true
  | _ => false

section Laws

variable {files : List String} {choice : MediaChoice} {phase : PortfolioPhase} {row : PortfolioRow}

theorem PortfolioUploadStatus.isFinal_iff {status : PortfolioUploadStatus} :
    status.isFinal = true ↔ processing.stage < status.stage := by
  cases status <;> decide

/-- The save of an outcome takes the image off the public. -/
theorem portfolioDeed_visibility (hsave : (portfolioDeed files choice phase).isSave = true)
    (hnot : ∀ image, phase ≠ .claiming image) : phase.undoes row = true ∧
      ((portfolioDeed files choice phase).result row).visibility_status.stage < 2 := by
  cases phase with
  | claiming image => exact absurd rfl (hnot image)
  | finishing image quality_status result =>
    refine ⟨rfl, ?_⟩
    simp only [portfolioDeed, Deed.result, finishUpload]
    split
    · exact Nat.one_lt_two
    · exact Nat.zero_lt_two
  | failing | requeueing | condemning => exact ⟨rfl, Nat.zero_lt_two⟩
  | _ => cases hsave

/-- The table of `PortfolioPhase.undoes` is right. -/
theorem portfolioDeed_undoes (hsave : (portfolioDeed files choice phase).isSave = true)
    (hdecided : portfolioStatements.decided row = true) : phase.undoes row = true ↔
      ∃ stage ∈ portfolioStatements.stages,
        stage ((portfolioDeed files choice phase).result row) < stage row := by
  by_cases hclaiming : ∃ image, phase = .claiming image
  · obtain ⟨image, rfl⟩ := hclaiming
    refine PortfolioUploadStatus.isFinal_iff.trans ?_
    constructor
    · intro hlt
      exact ⟨_, List.mem_cons_self, hlt⟩
    · -- the other two columns stay as they are
      rintro ⟨stage, hmem, hlt⟩
      rcases List.mem_cons.mp hmem with rfl | hmem
      · exact hlt
      · rcases List.mem_cons.mp hmem with rfl | hmem
        · exact absurd hlt (lt_irrefl _)
        · rw [List.mem_singleton.mp hmem] at hlt
          exact absurd hlt (lt_irrefl _)
  · have hnot : ∀ image, phase ≠ .claiming image := fun image heq => hclaiming ⟨image, heq⟩
    have hback : phase.undoes row = true ∧
        ((portfolioDeed files choice phase).result row).visibility_status.stage < 2 :=
      portfolioDeed_visibility hsave hnot
    have hstage : row.visibility_status.stage = 2 := by
      rcases of_decide_eq_true hdecided with happroved | hrejected
      · rw [happroved]
        rfl
      · rw [hrejected]
        rfl
    refine iff_of_true hback.1 ⟨fun row => row.visibility_status.stage, ?_, ?_⟩
    · exact List.mem_cons_of_mem _ (List.mem_cons_of_mem _ List.mem_cons_self)
    · exact hback.2.trans_eq hstage.symm

/-- A failure comes only from a save that says so. -/
theorem portfolioDeed_failed :
    portfolioStatements.failed ((portfolioDeed files choice phase).result row) =
      if (portfolioDeed files choice phase).isSave then phase.fails
        else portfolioStatements.failed row := by
  cases phase <;> rfl

/-- No statement loses the URL of the row. -/
theorem portfolioDeed_file_url (h : row.file_url.isSome = true) :
    ((portfolioDeed files choice phase).result row).file_url.isSome = true := by
  cases phase with
  | requeueing updates path => cases updates <;> rfl
  | finishing => rfl
  | _ => exact h

/-- A task that reads a URL goes on without the temporary file. -/
theorem knows_afterTaskRead (h : row.file_url.isSome = true) :
    (afterTaskRead row).knows = true := by
  unfold afterTaskRead
  rw [if_pos h]
  split
  · rfl
  · exact h

theorem knows_recover (dry_run : Bool) (h : row.file_url.isSome = true) :
    (_recover_portfolio_image dry_run row).knows = true := by
  obtain ⟨url, hurl⟩ := Option.isSome_iff_exists.mp h
  simp only [_recover_portfolio_image, hurl]
  split <;> rfl

theorem knows_afterApprovalRead : (afterApprovalRead row).knows = true := by
  unfold afterApprovalRead
  split
  · rfl
  · split <;> rfl

theorem portfolioDeed_reads (hread : (portfolioDeed files choice phase).isRead = true)
    (h : row.file_url.isSome = true) :
    ((portfolioDeed files choice phase).after row).knows = true := by
  cases phase with
  | processing => exact knows_afterTaskRead h
  | scanning dry_run => exact knows_recover dry_run h
  | approving => exact knows_afterApprovalRead
  | rejecting admin_reason => rfl
  | _ => cases hread

theorem portfolioDeed_knows (h : phase.knows = true) :
    ((portfolioDeed files choice phase).after row).knows = true := by
  cases phase with
  | claiming image => exact h
  | analyzing image =>
    obtain ⟨url, hurl⟩ := Option.isSome_iff_exists.mp h
    simp only [portfolioDeed, Deed.after, hurl]
    rfl
  | finishing | cleaning | requeueing | accepting | declining | ended => rfl
  | _ => cases h

/-- The executions on a portfolio image keep the laws of copies. -/
theorem portfolioStatements_lawful :
    portfolioStatements.Lawful (fun row => row.file_url.isSome) PortfolioPhase.knows where
  undoes _ _ _ _ := portfolioDeed_undoes
  failed _ _ _ _ := portfolioDeed_failed
  not_failed row hcompletes := by
    have huploaded := (of_decide_eq_true hcompletes).1
    refine decide_eq_false fun hfailed => ?_
    rw [hfailed] at huploaded
    cases huploaded
  completes _ hcompletes := (of_decide_eq_true hcompletes).2
  result _ _ _ _ := portfolioDeed_file_url
  reads _ _ _ _ := portfolioDeed_reads
  after _ _ _ _ := portfolioDeed_knows
  not_fails phase hknows := by
    cases phase with
    | failing | condemning => cases hknows
    | _ => rfl

theorem portfolioWork_lawful :
    portfolioWork.Lawful (fun row => row.file_url.isSome) PortfolioPhase.knows :=
  portfolioStatements_lawful.interruptible _ rfl

end Laws

end Linkapro.Vendors
