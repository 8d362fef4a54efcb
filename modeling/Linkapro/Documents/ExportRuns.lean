import Linkapro.Documents.ExportJobs

/-!
# Documents: runs of the export tasks

No statement looks at the status of the stored job, so that a repeated task undoes a completion,
and a failed attempt leaves its message behind. The promise about completed jobs is kept by the
turns that happen to avoid this, and by no others.
-/

namespace Linkapro.Documents

open Lib

variable {ι : Type} {deliveries : ι → ExportDelivery} {store : DocumentStore} {s : Exports ι}
  {i : ι} {choice : ExportChoice} {job : ExportJob} {row : OutboxRow} {id : UUID}

namespace DocumentStore

/-- The events of a job are the row under its id. -/
theorem mem_completedEvents_iff : row ∈ store.completedEvents id ↔
    row ∈ store.outbox.rows ∧ row.event_id = id := by
  unfold completedEvents
  rw [List.mem_filter, decide_eq_true_eq]
  refine and_congr_right fun hrow => ?_
  obtain ⟨job, rfl⟩ := store.dispatched row hrow
  exact and_iff_right rfl

/-- The outbox holds at most one event of a job. -/
theorem length_completedEvents_le : (store.completedEvents id).length ≤ 1 := by
  have hkeys : ((store.completedEvents id).map OutboxRow.event_id).Nodup :=
    store.outbox.nodup.sublist (List.filter_sublist.map _)
  have hsame : ∀ key ∈ (store.completedEvents id).map OutboxRow.event_id, key = id := by
    intro key hkey
    obtain ⟨row, hrow, rfl⟩ := List.mem_map.mp hkey
    exact (mem_completedEvents_iff.mp hrow).2
  rw [← List.length_map OutboxRow.event_id]
  rw [List.eq_replicate_of_mem hsame] at hkeys
  exact List.nodup_replicate.mp hkeys

theorem completedEvents_ne_nil_iff :
    store.completedEvents id ≠ [] ↔ (store.outbox.lookup id).isSome = true := by
  rw [Option.isSome_iff_exists]
  constructor
  · intro h
    obtain ⟨row, hrow⟩ := List.exists_mem_of_ne_nil _ h
    obtain ⟨hmem, hkey⟩ := mem_completedEvents_iff.mp hrow
    exact ⟨row, Table.lookup_eq_some_iff.mpr ⟨hmem, hkey⟩⟩
  · rintro ⟨row, hrow⟩
    obtain ⟨hmem, hkey⟩ := Table.lookup_eq_some_iff.mp hrow
    exact List.ne_nil_of_mem (mem_completedEvents_iff.mpr ⟨hmem, hkey⟩)

/-- The event of a job is stored after its insertion. -/
theorem completedEvents_insert_self : (store.insert job).completedEvents job.id ≠ [] :=
  completedEvents_ne_nil_iff.mpr (by
    rw [insert, show job.id = job.completedRow.event_id from rfl, Table.lookup_upsert_self]
    rfl)

/-- An insertion keeps the events. -/
theorem completedEvents_insert (h : store.completedEvents id ≠ []) :
    (store.insert job).completedEvents id ≠ [] := by
  rw [completedEvents_ne_nil_iff] at h ⊢
  change ((store.outbox.upsert job.completedRow).lookup id).isSome = true
  rw [Table.lookup_upsert]
  split
  · rfl
  · exact h

end DocumentStore

/-- A completed job that a phase saves has a file. -/
theorem file_url_of_saved {phase : ExportPhase} (h : phase.saved = some job)
    (hcompleted : job.status = .completed) : job.file_url ≠ none := by
  cases phase with
  | completing earlier file_url =>
    cases h
    exact Option.some_ne_none _
  | starting earlier =>
    cases h
    cases hcompleted
  | failing earlier error =>
    cases h
    cases hcompleted
  | _ => cases h

/-- The jobs after a statement are the earlier ones with the written job, and every event stays. -/
theorem exportStatement_jobs :
    (exportStatement deliveries s i choice).1.jobs =
      (written s (i, choice)).elim s.store.jobs s.store.jobs.upsert := by
  unfold exportStatement written
  cases s.phase i with
  | starting job | failing job error | completing job file_url =>
    dsimp only [DocumentStore.save, ExportPhase.saved]
    rw [Option.filter_some]
    split <;> rfl
  | dispatching job =>
    dsimp only
    cases s.store.outbox.lookup job.id with
    | none =>
      dsimp only
      split <;> rfl
    | some row => rfl
  | _ => rfl

theorem exportStatement_events (h : s.store.completedEvents id ≠ []) :
    (exportStatement deliveries s i choice).1.completedEvents id ≠ [] := by
  unfold exportStatement
  cases s.phase i with
  | starting job | failing job error | completing job file_url =>
    dsimp only [DocumentStore.save]
    split <;> exact h
  | dispatching job =>
    dsimp only
    cases s.store.outbox.lookup job.id with
    | none =>
      dsimp only
      split
      · exact DocumentStore.completedEvents_insert h
      · exact h
    | some row => exact h
  | _ => exact h

theorem saved_of_written (h : written s (i, choice) = some job) :
    (s.phase i).saved = some job :=
  (Option.filter_eq_some_iff.mp h).1

/-- A statement that writes a job leaves the outbox. -/
theorem exportStatement_outbox (h : written s (i, choice) = some job) :
    (exportStatement deliveries s i choice).1.outbox = s.store.outbox := by
  have hsaved := saved_of_written h
  unfold exportStatement
  cases hphase : s.phase i with
  | starting job | failing job error | completing job file_url =>
    dsimp only [DocumentStore.save]
    split <;> rfl
  | dispatching job =>
    rw [hphase] at hsaved
    cases hsaved
  | _ => rfl

/-- The stored jobs after a statement that writes one. -/
theorem mem_jobs_of_written (h : written s (i, choice) = some job) {other : ExportJob} :
    other ∈ (exportStatement deliveries s i choice).1.jobs.rows ↔
      other = job ∨ (other ∈ s.store.jobs.rows ∧ other.id ≠ job.id) := by
  rw [exportStatement_jobs, h]
  exact Table.mem_upsert_iff

variable (deliveries) in
theorem jobs_of_not_written (h : written s (i, choice) = none) :
    (exportStatement deliveries s i choice).1.jobs = s.store.jobs := by
  rw [exportStatement_jobs, h]
  rfl

variable (deliveries) in
/-- A careful turn keeps what is promised apart from the events. -/
theorem completedKept_step (hcareful : Careful s (i, choice))
    (h : CompletedKept s.store s.store) :
    CompletedKept s.store (exportStatement deliveries s i choice).1 := by
  cases hwritten : written s (i, choice) with
  | none =>
    have hjobs := jobs_of_not_written deliveries hwritten
    refine ⟨fun id hid => ?_, ?_, ?_, fun id => DocumentStore.length_completedEvents_le⟩
    · unfold DocumentStore.Completed
      rw [hjobs]
      exact hid
    · rw [hjobs]
      exact h.file_url
    · rw [hjobs]
      exact h.error_message
  | some job =>
    obtain ⟨hother, hfresh⟩ := hcareful job hwritten
    refine ⟨fun id hid => ?_, fun other hmem hcompleted => ?_, fun other hmem hcompleted => ?_,
      fun id => DocumentStore.length_completedEvents_le⟩
    · obtain ⟨other, hmem, rfl, hcompleted⟩ := hid
      by_cases hid : other.id = job.id
      · -- The written job replaces a completed one, so that it is completed itself.
        have hjob : job.status = .completed := by
          by_contra hne
          exact hother hne ⟨other, hmem, hid, hcompleted⟩
        exact ⟨job, (mem_jobs_of_written hwritten).mpr (.inl rfl), hid.symm, hjob⟩
      · exact ⟨other, (mem_jobs_of_written hwritten).mpr (.inr ⟨hmem, hid⟩), rfl, hcompleted⟩
    · rcases (mem_jobs_of_written hwritten).mp hmem with rfl | ⟨hmem, _⟩
      · exact file_url_of_saved (saved_of_written hwritten) hcompleted
      · exact h.file_url other hmem hcompleted
    · rcases (mem_jobs_of_written hwritten).mp hmem with rfl | ⟨hmem, _⟩
      · exact hfresh hcompleted
      · exact h.error_message other hmem hcompleted

/-- What is kept by a statement is careful. -/
theorem careful_of_completedKept
    (h : CompletedKept s.store (exportStatement deliveries s i choice).1) :
    Careful s (i, choice) := by
  intro job hwritten
  have hmem : job ∈ (exportStatement deliveries s i choice).1.jobs.rows :=
    (mem_jobs_of_written hwritten).mpr (.inl rfl)
  refine ⟨fun hstatus hcompleted => ?_, h.error_message job hmem⟩
  obtain ⟨other, hother, hid, hstays⟩ := h.stays job.id hcompleted
  rcases (mem_jobs_of_written hwritten).mp hother with rfl | ⟨_, hne⟩
  · exact hstatus hstays
  · exact hne hid

variable (deliveries) in
/-- The promise is kept exactly by the turns that are careful and complete announced jobs. -/
theorem completedPromised_step_iff (h : CompletedPromised s.store s.store) :
    CompletedPromised s.store (exportStatement deliveries s i choice).1 ↔
      Careful s (i, choice) ∧ Announced s (i, choice) := by
  constructor
  · intro hstep
    refine ⟨careful_of_completedKept hstep.toCompletedKept, fun job hwritten hcompleted => ?_⟩
    have hmem : job ∈ (exportStatement deliveries s i choice).1.jobs.rows :=
      (mem_jobs_of_written hwritten).mpr (.inl rfl)
    have hevent := hstep.event job hmem hcompleted
    rw [DocumentStore.completedEvents, exportStatement_outbox hwritten] at hevent
    exact hevent
  · rintro ⟨hcareful, hannounced⟩
    refine ⟨completedKept_step deliveries hcareful h.toCompletedKept, fun other hmem hcompleted => ?_⟩
    apply exportStatement_events
    cases hwritten : written s (i, choice) with
    | none =>
      rw [jobs_of_not_written deliveries hwritten] at hmem
      exact h.event other hmem hcompleted
    | some job =>
      rcases (mem_jobs_of_written hwritten).mp hmem with rfl | ⟨hmem, _⟩
      · exact hannounced other hwritten hcompleted
      · exact h.event other hmem hcompleted

/-- What a statement leaves behind, it leaves behind for good. -/
theorem CompletedKept.again {before after : DocumentStore} (h : CompletedKept before after) :
    CompletedKept after after :=
  ⟨fun _ => id, h.file_url, h.error_message, h.one_event⟩

theorem CompletedPromised.again {before after : DocumentStore}
    (h : CompletedPromised before after) : CompletedPromised after after :=
  ⟨h.toCompletedKept.again, h.event⟩

/-- The event of each completed job is stored, or about to be inserted. -/
def EventDue (s : Exports ι) : Prop :=
  ∀ job ∈ s.store.jobs.rows, job.status = .completed →
    s.store.completedEvents job.id ≠ [] ∨ Dispatching s job.id

variable [DecidableEq ι]

/-- An execution that is about to insert an event stays there at the turns of others, and has
inserted it after its own one. -/
theorem dispatching_step (hfinishes : Finishes s (i, choice)) (h : Dispatching s id) :
    (exportStatement deliveries s i choice).1.completedEvents id ≠ [] ∨
      Dispatching (s.step (exportStatement deliveries) (i, choice)) id := by
  obtain ⟨j, job, hphase, rfl⟩ := h
  by_cases hji : j = i
  · subst hji
    left
    unfold Finishes at hfinishes
    simp only [hphase] at hfinishes
    have hfault : choice.fault = none := Option.isNone_iff_eq_none.mp hfinishes
    unfold exportStatement
    simp only [hphase, hfault]
    cases hlookup : s.store.outbox.lookup job.id with
    | none => exact DocumentStore.completedEvents_insert_self
    | some row =>
      refine DocumentStore.completedEvents_ne_nil_iff.mpr ?_
      rw [hlookup]
      rfl
  · exact .inr ⟨j, job, by rw [Sessions.step_phase_of_ne hji, hphase], rfl⟩

/-- A job that a finishing turn completes has its event inserted next. -/
theorem dispatching_of_written (hfinishes : Finishes s (i, choice))
    (hwritten : written s (i, choice) = some job) (hcompleted : job.status = .completed) :
    Dispatching (s.step (exportStatement deliveries) (i, choice)) job.id := by
  refine ⟨i, job, ?_, rfl⟩
  have hsaved := saved_of_written hwritten
  rw [Sessions.step_phase_self]
  unfold Finishes at hfinishes
  unfold exportStatement
  cases hphase : s.phase i with
  | starting earlier | failing earlier error =>
    rw [hphase] at hsaved
    cases hsaved
    cases hcompleted
  | completing earlier file_url =>
    rw [hphase] at hsaved
    cases hsaved
    simp only [hphase] at hfinishes
    obtain ⟨_, heffect⟩ := Option.filter_eq_some_iff.mp hwritten
    obtain ⟨hfits, hfault⟩ := Bool.and_eq_true_iff.mp heffect
    have hnone : choice.fault = none := by
      cases hchoice : choice.fault with
      | none => rfl
      | some fault =>
        rw [hchoice, Option.all_some] at hfault hfinishes
        exact absurd hfault (of_decide_eq_true hfinishes)
    dsimp only [DocumentStore.save]
    rw [if_pos hfits, hnone]
    rfl
  | _ =>
    rw [hphase] at hsaved
    cases hsaved

variable (deliveries) in
theorem eventDue_step (hfinishes : Finishes s (i, choice)) (h : EventDue s) :
    EventDue (s.step (exportStatement deliveries) (i, choice)) := by
  intro other hmem hcompleted
  have hold (hstored : other ∈ s.store.jobs.rows) :
      (s.step (exportStatement deliveries) (i, choice)).store.completedEvents other.id ≠ [] ∨
        Dispatching (s.step (exportStatement deliveries) (i, choice)) other.id := by
    rcases h other hstored hcompleted with hevent | hdispatching
    · exact .inl (exportStatement_events hevent)
    · exact dispatching_step hfinishes hdispatching
  cases hwritten : written s (i, choice) with
  | none =>
    rw [Sessions.step_store, jobs_of_not_written deliveries hwritten] at hmem
    exact hold hmem
  | some job =>
    rcases (mem_jobs_of_written hwritten).mp hmem with rfl | ⟨hmem, _⟩
    · exact .inr (dispatching_of_written hfinishes hwritten hcompleted)
    · exact hold hmem

/-- A requested export, and nothing else. -/
def requestedExport : DocumentStore where
  jobs := Table.empty.upsert {
    id := 1
    event_id := 2
    requested_by := 3
    export_type := .timeline
    status := .pending
    file_url := none
    error_message := none }
  outbox := Table.empty
  dispatched := nofun

/-- Two deliveries of the task. -/
def timelineTwice (_ : Bool) : ExportDelivery := ⟨generate_pdf_task, 1, 2, "timeline"⟩

/-- A statement that succeeds, and one that raises. -/
def succeeds : ExportChoice where
  secure_url _ := "https://files/timeline"

def raises : ExportChoice := { succeeds with fault := some ⟨"timeout", false⟩ }

/-- Two executions, one of which stops after it has stored the job as processing. -/
def overlappingTurns : List (Bool × ExportChoice) :=
  [(false, succeeds), (true, succeeds), (false, succeeds), (true, succeeds), (false, succeeds),
    (false, succeeds), (false, succeeds), (false, succeeds)]

theorem requestedExport_promised : CompletedPromised requestedExport requestedExport where
  stays _ := id
  file_url := by decide +kernel
  error_message := by decide +kernel
  one_event _ := DocumentStore.length_completedEvents_le
  event := by decide +kernel

/-- The six statements of an execution that nothing disturbs. -/
def wholeExport (i : Bool) : List (Bool × ExportChoice) := List.replicate 6 (i, succeeds)

/-- An execution whose upload fails. -/
def failedExport (i : Bool) : List (Bool × ExportChoice) :=
  [(i, succeeds), (i, succeeds), (i, succeeds), (i, raises), (i, succeeds)]

/-- An execution whose event is not inserted. -/
def unannouncedExport (i : Bool) : List (Bool × ExportChoice) :=
  [(i, succeeds), (i, succeeds), (i, succeeds), (i, succeeds), (i, succeeds), (i, raises),
    (i, succeeds)]

/-- The status and the message of the job after some turns. -/
def jobAfter (turns : List (Bool × ExportChoice)) : Option (ExportStatus × Option String) :=
  (((delivered requestedExport).run (exportStatement timelineTwice) turns).store.jobs.lookup 1).map
    fun job => (job.status, job.error_message)

end Linkapro.Documents
