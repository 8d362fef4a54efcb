import Linkapro.Lib.Copies
import Linkapro.Vendors.Portfolio

/-!
# Executions on a verification document

The verification document task, statement by statement, on one row and the temporary
files it refers to. Nothing in the application writes the status `verified`, which it only
reads; a decision of an administrator is modelled as a write of this column or of its
counterpart `rejected`.
-/

namespace Linkapro.Vendors

open Lib

inductive DocumentUploadStatus : Type where
  | pending
  | queued
  | processing
  | processing_deferred
  | completed
  | failed
deriving DecidableEq, Repr

inductive VerificationStatus : Type where
  | pending_review
  | needs_manual_review
  | verified
  | rejected
  | failed
deriving DecidableEq, Repr

inductive FraudStatus : Type where
  | pending
  | passed
  | review_required
  | rejected
deriving DecidableEq, Repr

/-- `DocumentVerificationResult`. -/
structure DocumentVerificationResult : Type where
  status : String
  score : Option ℕ := none
  summary : Option String := none
deriving DecidableEq, Repr

/-- The columns of a stored document that the task looks at. A text column is `none` when
it is null or empty. -/
structure DocumentRow : Type where
  secure_url : Option String
  cloudinary_public_id : Option String
  cloudinary_secure_url : Option String
  upload_status : DocumentUploadStatus
  verification_status : VerificationStatus
  failure_reason : Option String
  temp_upload_path : Option String
  odcr_status : Option String
  odcr_score : Option ℕ
  odcr_result_summary : Option String
  fraud_status : FraudStatus
  fraud_reasons : List String
deriving DecidableEq, Repr

namespace DocumentRow

/-- `document.cloudinary_secure_url or document.secure_url`. -/
def file_url (document : DocumentRow) : Option String :=
  document.cloudinary_secure_url.or document.secure_url

/-- The first check of the task. -/
def isComplete (document : DocumentRow) : Bool :=
  document.upload_status = .completed ∧ document.file_url.isSome ∧
    document.verification_status ∈ [.pending_review, .needs_manual_review, .verified, .rejected]

/-- `_apply_verification_result`. -/
def _apply_verification_result (status : String) (document : DocumentRow) : DocumentRow :=
  if lower status ∈ ["passed", "pass", "approved"] then
    { document with
      verification_status := .pending_review
      fraud_status := .review_required
      fraud_reasons := ["Automated preflight passed; awaiting admin review."] }
  else if lower status ∈ ["rejected", "failed", "invalid"] then
    { document with
      verification_status := .rejected
      fraud_status := .rejected
      fraud_reasons := ["Automated preflight flagged the document for rejection."] }
  else
    { document with
      verification_status := .needs_manual_review
      fraud_status := .review_required
      fraud_reasons := ["Automated preflight unavailable or uncertain; awaiting manual review."] }

/-- The columns that `_mark_document_upload_failed` saves. -/
def _mark_document_upload_failed (message : String) (row : DocumentRow) : DocumentRow :=
  { row with
    upload_status := .failed
    verification_status := .failed
    failure_reason := some message }

end DocumentRow

/-- A copy of a document whose file has been uploaded. -/
structure UploadedDocument : Type where
  document : DocumentRow
  has_url : document.file_url.isSome = true

/-- The columns that the task saves at its end. -/
def finishVerification (copy : UploadedDocument) (result : DocumentVerificationResult)
    (row : DocumentRow) : DocumentRow :=
  DocumentRow._apply_verification_result result.status
    { row with
      cloudinary_public_id := copy.document.cloudinary_public_id
      cloudinary_secure_url := copy.document.cloudinary_secure_url
      secure_url := copy.document.secure_url
      upload_status := .completed
      odcr_status := nonEmpty (some result.status)
      odcr_score := result.score
      odcr_result_summary := result.summary
      failure_reason := none
      temp_upload_path := none }

/-- How far an execution has come. Each phase is named after its next statement. -/
inductive DocumentPhase : Type where
  /-- `process_vendor_verification_document_task`. -/
  | processing
  | claiming (document : DocumentRow)
  | uploading (document : DocumentRow)
  | verifying (copy : UploadedDocument)
  | finishing (copy : UploadedDocument) (result : DocumentVerificationResult)
  | failing (message : String)
  | cleaning (path : Option String)
  /-- The decision of an administrator. -/
  | deciding (verified : Bool)
  | ended

/-- What happens at a statement. -/
structure DocumentChoice : Type where
  /-- The worker is lost, or the statement raises. -/
  interrupted : Bool := false
  /-- The answer of Cloudinary to an upload, unless it fails. -/
  asset : Option MediaAsset := none
  /-- `self.request.retries < self.max_retries`. -/
  retries_left : Bool := false
  /-- The answer of `DocumentVerificationAdapter().verify`. -/
  verification : DocumentVerificationResult := { status := "unavailable" }

/-- The task has read the row. -/
def afterDocumentRead (document : DocumentRow) : DocumentPhase :=
  if document.isComplete then .ended
  else if document.file_url.isSome then .claiming document
  else if document.temp_upload_path.isSome then .claiming document
  else .failing "Uploaded document is no longer available."

/-- The document as the upload leaves it. -/
def UploadedDocument.ofAsset (document : DocumentRow) (asset : MediaAsset) : UploadedDocument where
  document :=
    { document with
      cloudinary_public_id := some asset.public_id
      cloudinary_secure_url := some asset.secure_url
      secure_url := some asset.secure_url }
  has_url := rfl

/-- A statement that is not interrupted. -/
def documentDeed (files : List String) (choice : DocumentChoice) :
    DocumentPhase → Deed DocumentRow (List String) DocumentPhase
  | .processing => .reads afterDocumentRead
  | .claiming document =>
    .saves (fun row => { row with upload_status := .processing, failure_reason := none })
      (if h : document.file_url.isSome = true then .verifying ⟨document, h⟩
        else .uploading document)
  | .uploading document =>
    .works files
      (match choice.asset.filter fun _ => document.temp_upload_path.any (· ∈ files) with
      | some asset => .verifying (.ofAsset document asset)
      | none =>
        if choice.retries_left then .ended
        else .failing "Verification document upload failed. Please try again.")
  | .verifying copy => .works files (.finishing copy choice.verification)
  | .finishing copy result =>
    .saves (finishVerification copy result) (.cleaning copy.document.temp_upload_path)
  | .failing message => .saves (DocumentRow._mark_document_upload_failed message) .ended
  | .cleaning path => .works (files.filter fun file => some file ≠ path) .ended
  | .deciding verified =>
    .decides (fun row =>
      { row with verification_status := if verified then .verified else .rejected }) .ended
  | .ended => .works files .ended

/-! ### The life cycle of a document -/

/-- The place of a status in the life cycle of an upload. -/
def DocumentUploadStatus.stage : DocumentUploadStatus → ℕ
  | pending => 0
  | queued | processing_deferred => 1
  | processing => 2
  | completed | failed => 3

/-- The place of a status in the life cycle of a review. -/
def VerificationStatus.stage : VerificationStatus → ℕ
  | pending_review | failed => 0
  | needs_manual_review => 1
  | verified | rejected => 2

/-- An upload is over. -/
def DocumentUploadStatus.isFinal : DocumentUploadStatus → Bool
  | completed | failed => true
  | _ => false

/-- The save of a phase leads a document that has been decided back: that of an outcome does
unless it rejects the document, and that of PROCESSING does when the upload is over. -/
def DocumentPhase.undoes : DocumentPhase → DocumentRow → Bool
  | claiming _, row => row.upload_status.isFinal
  | finishing _ result, _ => lower result.status ∉ ["rejected", "failed", "invalid"]
  | failing _, _ => true
  | _, _ => false

/-- The save of a phase says that the upload has failed. -/
def DocumentPhase.fails : DocumentPhase → Bool
  | failing _ => true
  | _ => false

/-- The executions on a document that nothing interrupts. -/
def documentStatements : CopyWork DocumentRow (List String) DocumentPhase DocumentChoice where
  deed files phase choice := documentDeed files choice phase
  stages := [fun row => row.upload_status.stage, fun row => row.verification_status.stage]
  decided row := row.verification_status = .verified ∨ row.verification_status = .rejected
  completes row := row.upload_status = .completed ∧ row.file_url.isSome
  failed row := row.upload_status = .failed
  undoes := DocumentPhase.undoes
  fails := DocumentPhase.fails

/-- The executions on a document. -/
def documentWork : CopyWork DocumentRow (List String) DocumentPhase DocumentChoice :=
  documentStatements.interruptible DocumentChoice.interrupted .ended

/-! ### The laws of the executions -/

/-- An execution that never gives up: it has seen a URL, or it does not need one. -/
def DocumentPhase.knows : DocumentPhase → Bool
  | claiming document => document.file_url.isSome
  | verifying _ | finishing _ _ | cleaning _ | deciding _ | ended => true
  | _ => false

section Laws

variable {files : List String} {choice : DocumentChoice} {phase : DocumentPhase}
  {row : DocumentRow} {status : String}

theorem DocumentUploadStatus.isFinal_iff {status : DocumentUploadStatus} :
    status.isFinal = true ↔ processing.stage < status.stage := by
  cases status <;> decide

theorem DocumentUploadStatus.stage_le (status : DocumentUploadStatus) :
    status.stage ≤ completed.stage := by
  cases status <;> decide

/-- The result of the verification leaves the upload and the URLs alone. -/
theorem upload_status_applied :
    (row._apply_verification_result status).upload_status = row.upload_status := by
  unfold DocumentRow._apply_verification_result
  split
  · rfl
  · split <;> rfl

theorem file_url_applied : (row._apply_verification_result status).file_url = row.file_url := by
  unfold DocumentRow._apply_verification_result
  split
  · rfl
  · split <;> rfl

/-- The three groups of results exclude one another. -/
theorem not_rejects_of_passes {text : String} (h : text ∈ ["passed", "pass", "approved"]) :
    text ∉ ["rejected", "failed", "invalid"] := by
  rcases List.mem_cons.mp h with rfl | h
  · decide
  · rcases List.mem_cons.mp h with rfl | h
    · decide
    · rw [List.mem_singleton.mp h]
      decide

/-- Only a rejecting result leaves a decided document decided. -/
theorem stage_applied : (row._apply_verification_result status).verification_status.stage < 2 ↔
    lower status ∉ ["rejected", "failed", "invalid"] := by
  unfold DocumentRow._apply_verification_result
  split
  · next hpasses => exact iff_of_true Nat.zero_lt_two (not_rejects_of_passes hpasses)
  · split
    · next hrejects => exact iff_of_false (lt_irrefl _) (not_not_intro hrejects)
    · next hother => exact iff_of_true Nat.one_lt_two hother

/-- Whether the row has come back in one of its two columns. -/
theorem exists_documentStage {after : DocumentRow} :
    (∃ stage ∈ documentStatements.stages, stage after < stage row) ↔
      after.upload_status.stage < row.upload_status.stage ∨
        after.verification_status.stage < row.verification_status.stage := by
  simp only [documentStatements, List.mem_cons, List.not_mem_nil, or_false, exists_eq_or_imp,
    exists_eq_left]

/-- The table of `DocumentPhase.undoes` is right. -/
theorem documentDeed_undoes (hsave : (documentDeed files choice phase).isSave = true)
    (hdecided : documentStatements.decided row = true) : phase.undoes row = true ↔
      ∃ stage ∈ documentStatements.stages,
        stage ((documentDeed files choice phase).result row) < stage row := by
  have hstage : row.verification_status.stage = 2 := by
    rcases of_decide_eq_true hdecided with hverified | hrejected
    · rw [hverified]
      rfl
    · rw [hrejected]
      rfl
  rw [exists_documentStage]
  cases phase with
  | claiming document =>
    refine DocumentUploadStatus.isFinal_iff.trans ⟨Or.inl, ?_⟩
    rintro (hupload | hverification)
    · exact hupload
    · exact absurd hverification (lt_irrefl _)
  | finishing copy result =>
    rw [hstage]
    refine decide_eq_true_iff.trans (stage_applied.symm.trans ⟨Or.inr, ?_⟩)
    rintro (hupload | hverification)
    · have hle := DocumentUploadStatus.stage_le row.upload_status
      have hupload' : DocumentUploadStatus.completed.stage < row.upload_status.stage := by
        simp only [documentDeed, Deed.result, finishVerification, upload_status_applied] at hupload
        exact hupload
      exact absurd hle (not_le.mpr hupload')
    · exact hverification
  | failing message =>
    rw [hstage]
    exact iff_of_true rfl (Or.inr Nat.zero_lt_two)
  | _ => cases hsave

/-- A failure comes only from a save that says so. -/
theorem documentDeed_failed :
    documentStatements.failed ((documentDeed files choice phase).result row) =
      if (documentDeed files choice phase).isSave then phase.fails
        else documentStatements.failed row := by
  cases phase with
  | finishing copy result =>
    simp only [documentStatements, documentDeed, Deed.result, finishVerification,
      upload_status_applied]
    rfl
  | _ => rfl

/-- No statement loses the URL of the row. -/
theorem documentDeed_file_url (h : row.file_url.isSome = true) :
    ((documentDeed files choice phase).result row).file_url.isSome = true := by
  cases phase with
  | finishing copy result =>
    simp only [documentDeed, Deed.result, finishVerification, file_url_applied]
    exact copy.has_url
  | _ => exact h

theorem documentDeed_reads (hread : (documentDeed files choice phase).isRead = true)
    (h : row.file_url.isSome = true) :
    ((documentDeed files choice phase).after row).knows = true := by
  cases phase with
  | processing =>
    change (afterDocumentRead row).knows = true
    unfold afterDocumentRead
    rw [if_pos h]
    split
    · rfl
    · exact h
  | _ => cases hread

theorem documentDeed_knows (h : phase.knows = true) :
    ((documentDeed files choice phase).after row).knows = true := by
  cases phase with
  | claiming document =>
    have hurl : document.file_url.isSome = true := h
    simp only [documentDeed, Deed.after]
    rw [dif_pos hurl]
    rfl
  | verifying | finishing | cleaning | deciding | ended => rfl
  | _ => cases h

/-- The executions on a document keep the laws of copies. -/
theorem documentStatements_lawful :
    documentStatements.Lawful (fun row => row.file_url.isSome) DocumentPhase.knows where
  undoes _ _ _ _ := documentDeed_undoes
  failed _ _ _ _ := documentDeed_failed
  not_failed row hcompletes := by
    have hcompleted := (of_decide_eq_true hcompletes).1
    refine decide_eq_false fun hfailed => ?_
    rw [hfailed] at hcompleted
    cases hcompleted
  completes _ hcompletes := (of_decide_eq_true hcompletes).2
  result _ _ _ _ := documentDeed_file_url
  reads _ _ _ _ := documentDeed_reads
  after _ _ _ _ := documentDeed_knows
  not_fails phase hknows := by
    cases phase with
    | failing => cases hknows
    | _ => rfl

theorem documentWork_lawful :
    documentWork.Lawful (fun row => row.file_url.isSome) DocumentPhase.knows :=
  documentStatements_lawful.interruptible _ rfl

end Laws

end Linkapro.Vendors
