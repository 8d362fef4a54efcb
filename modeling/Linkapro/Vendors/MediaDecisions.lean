import Linkapro.Vendors.DocumentExecutions
import Linkapro.Vendors.PortfolioExecutions

/-!
# Decisions about media under way

Any number of copies of the tasks and of recovery run beside the decisions of
administrators. An execution saves the columns of the copy it has read at its start, so a
decision or a completed upload stands exactly as long as no older copy is saved over it.
-/

namespace Linkapro.Vendors

open Lib

/-- Who takes part in the work on a portfolio image. -/
inductive PortfolioActor : Type where
  | task
  | recovery (dry_run : Bool)
  | approval
  | rejection (admin_reason : Option String)
deriving DecidableEq, Repr

/-- The first statement of an actor. -/
def PortfolioActor.start : PortfolioActor → PortfolioPhase
  | task => .processing
  | recovery dry_run => .scanning dry_run
  | approval => .approving
  | rejection admin_reason => .rejecting admin_reason

/-- Who takes part in the work on a document. -/
inductive DocumentActor : Type where
  | task
  | administrator (verified : Bool)
deriving DecidableEq, Repr

/-- The first statement of an actor. -/
def DocumentActor.start : DocumentActor → DocumentPhase
  | task => .processing
  | administrator verified => .deciding verified

variable {ι : Type} [DecidableEq ι]

/-- In every interleaving, on an image as on a document, no older execution leads the item back
from a decision and no completed upload fails, exactly if every save comes from a copy that
was read after what it would undo. -/
theorem media_decisions_stand_iff :
    (∀ (actor : ι → PortfolioActor) (row : PortfolioRow) (files : List String)
        (turns : List (ι × MediaChoice)),
      let start := portfolioWork.start row files fun i => (actor i).start
      Sessions.Always portfolioWork.statement portfolioWork.Sound start turns ↔
        Sessions.Always portfolioWork.statement portfolioWork.Fresh start turns) ∧
    ∀ (actor : ι → DocumentActor) (row : DocumentRow) (files : List String)
        (turns : List (ι × DocumentChoice)),
      let start := documentWork.start row files fun i => (actor i).start
      Sessions.Always documentWork.statement documentWork.Sound start turns ↔
        Sessions.Always documentWork.statement documentWork.Fresh start turns := by
  constructor
  · intro actor row files turns start
    have hknown := portfolioWork_lawful.known_start row files fun i => (actor i).start
    exact hknown.always_iff portfolioWork_lawful turns
  · intro actor row files turns start
    have hknown := documentWork_lawful.known_start row files fun i => (actor i).start
    exact hknown.always_iff documentWork_lawful turns

/-- An image that has just been queued. -/
def queuedImage : PortfolioRow where
  public_id := none
  secure_url := none
  upload_status := .queued
  quality_status := .pending_analysis
  visibility_status := .private
  upload_error := none
  failure_reason := none
  rejection_reason := none
  temp_upload_path := some "vendor_portfolio/tmp/7.jpg"
  local_preview_url := none
  cloudinary_public_id := none
  cloudinary_secure_url := none
  is_active := true

/-- Two deliveries of the task and an approval. -/
def twoDeliveries : Fin 3 → PortfolioActor
  | 0 | 1 => .task
  | 2 => .approval

/-- Both deliveries read the queued row. The first finishes and the image is approved; then
the second goes on as far as its upload. -/
def approvedMeanwhile : List (Fin 3 × MediaChoice) :=
  let works : MediaChoice := { asset := some ⟨"vendor_portfolio/7", "https://media.example/7"⟩ }
  [(0, works), (1, works), (1, works), (0, works), (0, works), (0, works), (0, works), (0, works),
    (0, works), (2, works), (2, works), (1, works), (1, works), (1, works), (1, works)]

/-- The first delivery has deleted the temporary file, so the second marks the approved and
uploaded image as failed. -/
theorem approved_image_fails :
    let start := portfolioWork.start queuedImage ["vendor_portfolio/tmp/7.jpg"] fun i =>
      (twoDeliveries i).start
    let final := start.run portfolioWork.statement approvedMeanwhile
    final.store.completed = true ∧ final.store.row.upload_status = .failed ∧
      final.store.row.visibility_status = .private ∧
      ¬ Sessions.Always portfolioWork.statement portfolioWork.Sound start approvedMeanwhile := by
  decide +kernel

end Linkapro.Vendors
