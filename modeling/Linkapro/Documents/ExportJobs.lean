import Linkapro.Lib.Sessions
import Linkapro.Lib.Table
import Linkapro.Shared

/-!
# Documents: the export tasks

A task reads its job, stores it as processing, makes and uploads the file, stores the job as
completed and inserts an event into the outbox. Celery delivers a task again after a failure and
may deliver it twice, so that any number of executions work on one job. They take turns at their
statements, each of which is a transaction of its own.
-/

namespace Linkapro.Documents

open Lib

inductive ExportType : Type where
  | event_brief
  | timeline
  | budget
  | guest_list
deriving DecidableEq, Repr

inductive ExportStatus : Type where
  | pending
  | processing
  | completed
  | failed
deriving DecidableEq, Repr

/-- A job, stored or in memory. -/
structure ExportJob where
  id : UUID
  event_id : UUID
  requested_by : UUID
  export_type : ExportType
  status : ExportStatus
  file_url : Option String
  error_message : Option String
deriving DecidableEq

namespace ExportJob

def mark_processing (job : ExportJob) : ExportJob := { job with status := .processing }

def complete (file_url : String) (job : ExportJob) : ExportJob :=
  { job with status := .completed, file_url := some file_url }

def fail (error : String) (job : ExportJob) : ExportJob :=
  { job with status := .failed, error_message := some error }

end ExportJob

/-- The event `ExportCompleted`. -/
structure ExportCompleted where
  job_id : UUID
  event_id : UUID
  outbox_event_id : UUID
  export_type : ExportType
  requested_by : UUID
  file_url : Option String
deriving DecidableEq

/-- A row of `DocumentDomainEventOutbox`. -/
structure OutboxRow where
  event_id : UUID
  aggregate_id : UUID
  event_type : String
  payload : ExportCompleted
deriving DecidableEq

/-- The row that `_dispatch_export_completed` inserts. -/
def ExportJob.completedRow (job : ExportJob) : OutboxRow where
  event_id := job.id
  aggregate_id := job.id
  event_type := "ExportCompleted"
  payload := {
    job_id := job.id
    event_id := job.event_id
    outbox_event_id := job.id
    export_type := job.export_type
    requested_by := job.requested_by
    file_url := job.file_url }

/-- The jobs and the outbox of their events. -/
structure DocumentStore where
  jobs : Table ExportJob.id
  outbox : Table OutboxRow.event_id
  /-- Only the tasks insert rows. -/
  dispatched : ∀ row ∈ outbox.rows, ∃ job : ExportJob, row = job.completedRow

/-- An exception at a statement, which may have taken effect all the same. -/
structure Fault where
  message : String
  applied : Bool

/-- The column of the file takes 200 characters. -/
def ExportJob.fits (job : ExportJob) : Bool := job.file_url.all fun url => url.length ≤ 200

/-- A save of the job takes effect. -/
def ExportJob.takesEffect (job : ExportJob) (fault : Option Fault) : Bool :=
  job.fits && fault.all Fault.applied

namespace DocumentStore

def put (s : DocumentStore) (job : ExportJob) : DocumentStore :=
  { s with jobs := s.jobs.upsert job }

/-- `DjangoExportJobRepository.save`, with the text of its exception. -/
def save (s : DocumentStore) (job : ExportJob) (fault : Option Fault) :
    DocumentStore × Option String :=
  (if job.takesEffect fault then s.put job else s,
    if job.fits then fault.map Fault.message
    else some "value too long for type character varying(200)")

/-- The insertion of the event of a job, which the outbox does not hold yet. -/
def insert (s : DocumentStore) (job : ExportJob) : DocumentStore where
  jobs := s.jobs
  outbox := s.outbox.upsert job.completedRow
  dispatched row hrow := by
    rcases Table.mem_upsert_iff.mp hrow with rfl | ⟨hrow, _⟩
    · exact ⟨job, rfl⟩
    · exact s.dispatched row hrow

/-- The job is stored as completed. -/
def Completed (s : DocumentStore) (id : UUID) : Prop :=
  ∃ job ∈ s.jobs.rows, job.id = id ∧ job.status = .completed

instance (s : DocumentStore) (id : UUID) : Decidable (s.Completed id) :=
  inferInstanceAs (Decidable (∃ _ ∈ _, _))

/-- The stored `ExportCompleted` events of a job. -/
def completedEvents (s : DocumentStore) (id : UUID) : List OutboxRow :=
  s.outbox.rows.filter fun row => row.event_type = "ExportCompleted" ∧ row.aggregate_id = id

end DocumentStore

/-- The export type that a task tests for, and the one that it takes the others for. -/
structure ExportTask where
  tested : String
  otherwise : String

def generate_pdf_task : ExportTask := ⟨"event_brief", "timeline"⟩

def generate_excel_task : ExportTask := ⟨"budget", "guest_list"⟩

/-- A delivery of a task. -/
structure ExportDelivery where
  task : ExportTask
  job_id : UUID
  event_id : UUID
  export_type : String

/-- The name of the file without its suffix. -/
def ExportDelivery.public_id (delivery : ExportDelivery) : String :=
  (if delivery.export_type = delivery.task.tested then delivery.task.tested
    else delivery.task.otherwise) ++ "_" ++ uuidText delivery.event_id

/-- How an execution ends. -/
inductive ExportEnd : Type where
  | returned
  /-- An exception that is not caught. -/
  | raised
  /-- `self.retry`. -/
  | retried (error : String)

/-- How far an execution has come. Each phase is named after its next statement. -/
inductive ExportPhase : Type where
  /-- `repo.get_by_id`. -/
  | reading
  /-- `repo.save` of the job that is marked as processing. -/
  | starting (job : ExportJob)
  /-- The queries for the event, and the rendering. -/
  | loading (job : ExportJob)
  /-- `adapter.upload_file`. -/
  | uploading (job : ExportJob)
  /-- `repo.save` of the completed job. -/
  | completing (job : ExportJob) (file_url : String)
  /-- The insertion into the outbox. -/
  | dispatching (job : ExportJob)
  /-- Whether a refused event is stored. -/
  | inspecting (job : ExportJob) (error : String)
  /-- `repo.save` of the failed job. -/
  | failing (job : ExportJob) (error : String)
  | ended (outcome : ExportEnd)

/-- What happens at a statement. -/
structure ExportChoice where
  fault : Option Fault := none
  /-- The URL that Cloudinary answers for a name. -/
  secure_url : String → String := fun public_id => public_id
  /-- The text of an `IntegrityError`. -/
  refusal : String := "duplicate key value violates unique constraint"

/-- The executions between two statements. -/
abbrev Exports (ι : Type) : Type := Sessions ι DocumentStore ExportPhase

section Statements

variable {ι : Type}

/-- The phase after a statement that may raise within the `try` of the task. -/
def tried (job : ExportJob) (error : Option String) (next : ExportPhase) : ExportPhase :=
  error.elim next (.failing job)

/-- The next statement of an execution. -/
def exportStatement (deliveries : ι → ExportDelivery) :
    Statement ι DocumentStore ExportPhase ExportChoice := fun s i choice =>
  let error := choice.fault.map Fault.message
  match s.phase i with
  | .reading =>
    (s.store,
      match choice.fault with
      | some _ => .ended .raised
      | none => (s.store.jobs.lookup (deliveries i).job_id).elim (.ended .returned) .starting)
  | .starting job =>
    let saved := s.store.save job.mark_processing choice.fault
    (saved.1, saved.2.elim (.loading job.mark_processing) fun _ => .ended .raised)
  | .loading job => (s.store, tried job error (.uploading job))
  | .uploading job =>
    (s.store, tried job error (.completing job (choice.secure_url (deliveries i).public_id)))
  | .completing job file_url =>
    let saved := s.store.save (job.complete file_url) choice.fault
    (saved.1, tried (job.complete file_url) saved.2 (.dispatching (job.complete file_url)))
  | .dispatching job =>
    match s.store.outbox.lookup job.id with
    | none =>
      (if choice.fault.all Fault.applied then s.store.insert job else s.store,
        tried job error (.ended .returned))
    | some _ => (s.store, tried job error (.inspecting job choice.refusal))
  | .inspecting job refusal =>
    (s.store, tried job error
      (if (s.store.outbox.lookup job.id).isSome then .ended .returned else .failing job refusal))
  | .failing job error =>
    let saved := s.store.save (job.fail error) choice.fault
    (saved.1, .ended (saved.2.elim (.retried error) fun _ => .raised))
  | .ended outcome => (s.store, .ended outcome)

/-- Every task has just been delivered. -/
def delivered (store : DocumentStore) : Exports ι := ⟨store, fun _ => .reading⟩

/-- The job that a phase saves. -/
def ExportPhase.saved : ExportPhase → Option ExportJob
  | .starting job => some job.mark_processing
  | .completing job file_url => some (job.complete file_url)
  | .failing job error => some (job.fail error)
  | _ => none

/-- The job that a turn writes. -/
def written (s : Exports ι) (turn : ι × ExportChoice) : Option ExportJob :=
  (s.phase turn.1).saved.filter fun job => job.takesEffect turn.2.fault

/-- The next statement of an execution inserts the event of the job. -/
def Dispatching (s : Exports ι) (id : UUID) : Prop :=
  ∃ i job, s.phase i = .dispatching job ∧ job.id = id

/-- What is promised of the completed jobs after a statement, apart from the event: none has left
its status, and each has a file and no error. No job has two events. -/
structure CompletedKept (before after : DocumentStore) : Prop where
  stays : ∀ id, before.Completed id → after.Completed id
  file_url : ∀ job ∈ after.jobs.rows, job.status = .completed → job.file_url ≠ none
  error_message : ∀ job ∈ after.jobs.rows, job.status = .completed → job.error_message = none
  one_event : ∀ id, (after.completedEvents id).length ≤ 1

/-- The whole promise: the event of a completed job is stored as well. -/
structure CompletedPromised (before after : DocumentStore) : Prop
    extends CompletedKept before after where
  event : ∀ job ∈ after.jobs.rows, job.status = .completed → after.completedEvents job.id ≠ []

/-- A turn does not write another status over a completed job, and completes only a job that was
read without an error message. -/
def Careful (s : Exports ι) (turn : ι × ExportChoice) : Prop :=
  ∀ job ∈ written s turn, (job.status ≠ .completed → ¬ s.store.Completed job.id) ∧
    (job.status = .completed → job.error_message = none)

instance (s : Exports ι) (turn : ι × ExportChoice) : Decidable (Careful s turn) :=
  inferInstanceAs (Decidable (∀ _ ∈ _, _))

/-- A turn completes only a job whose event is stored. -/
def Announced (s : Exports ι) (turn : ι × ExportChoice) : Prop :=
  ∀ job ∈ written s turn, job.status = .completed → s.store.completedEvents job.id ≠ []

/-- Neither the save of a completed job that takes effect nor the insertion of its event raises. -/
def Finishes (s : Exports ι) (turn : ι × ExportChoice) : Prop :=
  match s.phase turn.1 with
  | .completing _ _ => turn.2.fault.all (fun fault => ¬ fault.applied) = true
  | .dispatching _ => turn.2.fault.isNone = true
  | _ => True

instance (s : Exports ι) (turn : ι × ExportChoice) : Decidable (Finishes s turn) := by
  unfold Finishes
  split <;> infer_instance

end Statements

end Linkapro.Documents
