import Linkapro.Vendors.Packages

/-!
# The edit cooldown of packages

A public edit of a package sets a marker fifteen days ahead, and an approval is meant to
hold off edits for as long. The marker of the last edit survives every other operation and
both writers. The hold after an approval is derived from the status, so it lasts while the
package stays approved, and a detour through another status drops it.
-/

namespace Linkapro.Vendors

variable {library : TextLibrary}

/-- What the public sees of a package; prices are compared as amounts. -/
def ServicePackage.publicView (self : ServicePackage) :
    String × String × ℚ × String × PackageTier :=
  (self.name, self.description, self.price.value, self.currency, self.package_tier)

/-! ### What an operation does to the markers -/

/-- The cooldown lets a public edit pass at this instant. -/
structure EditAllowed (package : ServicePackage) (now : Datetime) : Prop where
  marker : ∀ next ∈ package.next_vendor_edit_allowed_at, next ≤ now
  approval : package.approval_status = .approved → ∀ approved_at ∈ package.last_approved_at,
    approved_at + VENDOR_PACKAGE_EDIT_COOLDOWN ≤ now

theorem editAllowed_of_ensure {package : ServicePackage} {now : Datetime}
    (h : ensure_vendor_package_edit_allowed package now = .ok ()) : EditAllowed package now := by
  rw [ensure_vendor_package_edit_allowed, bind_eq_ok_iff] at h
  obtain ⟨limit, hlimit, h⟩ := h
  have hpassed : ∀ next ∈ limit, next ≤ now := by
    rintro next ⟨⟩
    by_contra hlate
    simp only [if_pos (not_le.mp hlate)] at h
    cases h
  rw [effective_next_edit_allowed_at] at hlimit
  split at hlimit
  · cases hlimit
  · constructor
    · intro next hnext
      rw [Option.mem_def.mp hnext] at hlimit
      cases happroval : approval_based_next_edit_allowed_at package with
      | none =>
        rw [happroval] at hlimit
        cases hlimit
        exact hpassed next rfl
      | some approval =>
        rw [happroval] at hlimit
        cases hlimit
        exact le_trans (le_max_left next approval) (hpassed _ rfl)
    · intro hstatus approved_at happroved
      have happroval : approval_based_next_edit_allowed_at package =
          some (approved_at + VENDOR_PACKAGE_EDIT_COOLDOWN) := by
        rw [approval_based_next_edit_allowed_at, if_pos hstatus, Option.mem_def.mp happroved,
          Option.getD_some]
      rw [happroval] at hlimit
      cases hstored : package.next_vendor_edit_allowed_at with
      | none =>
        rw [hstored] at hlimit
        cases hlimit
        exact hpassed _ rfl
      | some stored =>
        rw [hstored] at hlimit
        cases hlimit
        exact le_trans (le_max_right stored _) (hpassed _ rfl)

/-- What a committing operation does to the markers: an edit has been allowed and sets the
edit markers, an approval sets its own, and nothing else touches any of them. -/
inductive MarkerEffect (self candidate : ServicePackage) (now : Datetime) :
    PackageOperation → Prop
  | edit {fields : PublicFields} (allowed : EditAllowed self now)
      (last_approved_at : candidate.last_approved_at = self.last_approved_at)
      (next_vendor_edit_allowed_at : candidate.next_vendor_edit_allowed_at =
        some (now + VENDOR_PACKAGE_EDIT_COOLDOWN)) :
      MarkerEffect self candidate now (.update_details fields)
  | approval (last_approved_at : candidate.last_approved_at = some now)
      (next_vendor_edit_allowed_at : candidate.next_vendor_edit_allowed_at =
        self.next_vendor_edit_allowed_at) :
      MarkerEffect self candidate now .approve
  | other {operation : PackageOperation} (not_edit : ∀ fields, operation ≠ .update_details fields)
      (not_approval : operation ≠ .approve)
      (last_approved_at : candidate.last_approved_at = self.last_approved_at)
      (next_vendor_edit_allowed_at : candidate.next_vendor_edit_allowed_at =
        self.next_vendor_edit_allowed_at) :
      MarkerEffect self candidate now operation

theorem markerEffect {operation : PackageOperation} {reading : Reading}
    {self candidate : ServicePackage}
    {event_factory : Option (ℕ → VendorDomainEvent PackageEvent)}
    (h : operation.run library reading self = .ok (.commit candidate event_factory)) :
    MarkerEffect self candidate reading.now operation := by
  cases operation with
  | update_details fields =>
    simp only [PackageOperation.run, ServicePackage.update_details, guard_eq_ok_iff,
      bind_eq_ok_iff, early_return_eq_commit_iff, pure_eq_ok_iff, Change.commit.injEq] at h
    obtain ⟨-, _, -, -, _, hallowed, _, hconstruct, rfl, -⟩ := h
    have hyield := ServicePackage.construct_eq_ok_iff.mp hconstruct
    exact .edit (editAllowed_of_ensure hallowed) (datetime_kept hyield.last_approved_at)
      (datetime_set hyield.next_vendor_edit_allowed_at)
  | submit_for_approval =>
    simp only [PackageOperation.run, ServicePackage.submit_for_approval, guard_eq_ok_iff,
      bind_eq_ok_iff, early_return_eq_commit_iff, pure_eq_ok_iff, Change.commit.injEq] at h
    obtain ⟨-, -, _, hconstruct, rfl, -⟩ := h
    have hyield := ServicePackage.construct_eq_ok_iff.mp hconstruct
    exact .other (fun _ h => by cases h) (fun h => by cases h)
      (datetime_kept hyield.last_approved_at) (datetime_kept hyield.next_vendor_edit_allowed_at)
  | approve =>
    simp only [PackageOperation.run, ServicePackage.approve, guard_eq_ok_iff,
      bind_eq_ok_iff, pure_eq_ok_iff, Change.commit.injEq] at h
    obtain ⟨-, -, _, hconstruct, rfl, -⟩ := h
    have hyield := ServicePackage.construct_eq_ok_iff.mp hconstruct
    exact .approval (datetime_set hyield.last_approved_at)
      (datetime_kept hyield.next_vendor_edit_allowed_at)
  | reject reason =>
    simp only [PackageOperation.run, ServicePackage.reject, guard_eq_ok_iff,
      bind_eq_ok_iff, pure_eq_ok_iff, Change.commit.injEq] at h
    obtain ⟨-, -, _, -, _, hconstruct, rfl, -⟩ := h
    have hyield := ServicePackage.construct_eq_ok_iff.mp hconstruct
    exact .other (fun _ h => by cases h) (fun h => by cases h)
      (datetime_kept hyield.last_approved_at) (datetime_kept hyield.next_vendor_edit_allowed_at)
  | restore_to_waiting_approval =>
    simp only [PackageOperation.run, ServicePackage.restore_to_waiting_approval, guard_eq_ok_iff,
      bind_eq_ok_iff, early_return_eq_commit_iff, pure_eq_ok_iff, Change.commit.injEq] at h
    obtain ⟨-, -, _, hconstruct, rfl, -⟩ := h
    have hyield := ServicePackage.construct_eq_ok_iff.mp hconstruct
    exact .other (fun _ h => by cases h) (fun h => by cases h)
      (datetime_kept hyield.last_approved_at) (datetime_kept hyield.next_vendor_edit_allowed_at)
  | deactivate =>
    simp only [PackageOperation.run, ServicePackage.deactivate,
      bind_eq_ok_iff, early_return_eq_commit_iff, pure_eq_ok_iff, Change.commit.injEq] at h
    obtain ⟨-, _, hconstruct, rfl, -⟩ := h
    have hyield := ServicePackage.construct_eq_ok_iff.mp hconstruct
    exact .other (fun _ h => by cases h) (fun h => by cases h)
      (datetime_kept hyield.last_approved_at) (datetime_kept hyield.next_vendor_edit_allowed_at)
  | activate =>
    simp only [PackageOperation.run, ServicePackage.activate, guard_eq_ok_iff,
      bind_eq_ok_iff, early_return_eq_commit_iff, pure_eq_ok_iff, Change.commit.injEq] at h
    obtain ⟨-, -, -, _, hconstruct, rfl, -⟩ := h
    have hyield := ServicePackage.construct_eq_ok_iff.mp hconstruct
    exact .other (fun _ h => by cases h) (fun h => by cases h)
      (datetime_kept hyield.last_approved_at) (datetime_kept hyield.next_vendor_edit_allowed_at)

/-! ### Runs of one package object -/

/-- The call is an edit. -/
def PackageOperation.isEdit : PackageOperation → Bool
  | update_details _ => true
  | _ => false

/-- The call is an edit that succeeded and changed a public field. -/
def EditsPublicField (step : PackageCall) : Prop :=
  step.operation.isEdit ∧ step.answer = .ok () ∧
    step.before.entity.publicView ≠ step.after.entity.publicView

/-- The call is an approval that succeeded. -/
def Approves (step : PackageCall) : Prop := step.operation = .approve ∧ step.answer = .ok ()

instance (step : PackageCall) : Decidable (EditsPublicField step) :=
  inferInstanceAs (Decidable (_ ∧ _ ∧ _))

instance (step : PackageCall) : Decidable (Approves step) := inferInstanceAs (Decidable (_ ∧ _))

/-- The cooldown of an approval is over at the later call, if that is a public edit. -/
def WaitsAfterApproval (earlier later : PackageCall) : Prop :=
  Approves earlier → EditsPublicField later →
    earlier.reading.now + VENDOR_PACKAGE_EDIT_COOLDOWN ≤ later.reading.now

instance (earlier later : PackageCall) : Decidable (WaitsAfterApproval earlier later) :=
  inferInstanceAs (Decidable (_ → _ → _))

/-- The validation of a candidate keeps its markers. -/
theorem ServicePackage.markers_of_validate {candidate entity : ServicePackage}
    (h : candidate.validate_invariants library = .ok entity) :
    entity.last_approved_at = candidate.last_approved_at ∧
      entity.next_vendor_edit_allowed_at = candidate.next_vendor_edit_allowed_at := by
  have hyield := construct_eq_ok_iff.mp h
  exact ⟨datetime_kept hyield.last_approved_at, datetime_kept hyield.next_vendor_edit_allowed_at⟩

variable (library) in
/-- A call leaves the object alone, or does to the markers what its operation does. -/
theorem markerEffect_of_call (self : Aggregate ServicePackage PackageEvent)
    (operation : PackageOperation) (reading : Reading) :
    (self.call (ServicePackage.kind library) (operation.run library reading)).2 = self ∨
      MarkerEffect self.entity
        (self.call (ServicePackage.kind library) (operation.run library reading)).2.entity
        reading.now operation := by
  obtain ⟨_, hcall⟩ | ⟨-, hcall⟩ | ⟨candidate, _, entity, hrun, hvalid, hcall⟩ :=
    self.call_cases (ServicePackage.kind library) (operation.run library reading)
  · exact .inl (by rw [hcall])
  · exact .inl (by rw [hcall])
  · right
    rw [hcall]
    obtain ⟨happroved, hnext⟩ := ServicePackage.markers_of_validate hvalid
    cases markerEffect hrun with
    | edit allowed hsame hset => exact .edit allowed (happroved.trans hsame) (hnext.trans hset)
    | approval hset hsame => exact .approval (happroved.trans hset) (hnext.trans hsame)
    | other hedit happroval hsame hsame' =>
      exact .other hedit happroval (happroved.trans hsame) (hnext.trans hsame')

/-- The hold that an approval puts on edits has not been lost at this instant: the package
is still approved, or the fifteen days are over, or the marker of an edit holds longer. -/
def HoldKept (package : ServicePackage) (now : Datetime) : Prop :=
  package.approval_status = .approved ∨
    (∀ approved_at ∈ package.last_approved_at,
      approved_at + VENDOR_PACKAGE_EDIT_COOLDOWN ≤ now) ∨
    ∃ next ∈ package.next_vendor_edit_allowed_at, now < next

instance (package : ServicePackage) (now : Datetime) : Decidable (HoldKept package now) := by
  unfold HoldKept
  exact inferInstance

/-- An edit that passes while the hold is kept waits for the end of the cooldown. -/
theorem HoldKept.waits {package : ServicePackage} {now approved_at : Datetime}
    (hkept : HoldKept package now) (hallowed : EditAllowed package now)
    (happroved : approved_at ∈ package.last_approved_at) :
    approved_at + VENDOR_PACKAGE_EDIT_COOLDOWN ≤ now := by
  obtain hstatus | hover | ⟨next, hnext, hlate⟩ := hkept
  · exact hallowed.approval hstatus approved_at happroved
  · exact hover approved_at happroved
  · exact absurd (hallowed.marker next hnext) (not_le.mpr hlate)

/-- From an approval at `approved` or later on, every public edit waits. -/
theorem edits_wait {approved : Datetime} (calls : List (PackageOperation × Reading))
    (hclock : ∀ call ∈ calls, approved ≤ call.2.now) :
    ∀ self : Aggregate ServicePackage PackageEvent,
      (∃ last ∈ self.entity.last_approved_at, approved ≤ last) →
      (∀ step ∈ packageHistory library self calls, step.operation.isEdit →
        HoldKept step.before.entity step.reading.now) →
      ∀ step ∈ packageHistory library self calls, EditsPublicField step →
        approved + VENDOR_PACKAGE_EDIT_COOLDOWN ≤ step.reading.now := by
  induction calls with
  | nil =>
    intro _ _ _ step hstep
    cases hstep
  | cons call calls ih =>
    obtain ⟨operation, reading⟩ := call
    intro self ⟨last, hlast, hle⟩ hkept step hstep hedits
    rw [packageHistory, Aggregate.history_cons] at hkept hstep
    obtain ⟨hfirst, hkeptRest⟩ := List.forall_mem_cons.mp hkept
    have hnow : approved ≤ reading.now := hclock _ List.mem_cons_self
    obtain rfl | hrest := List.mem_cons.mp hstep
    · obtain ⟨hedit, -, hchange⟩ := hedits
      obtain hsame | heffect := markerEffect_of_call library self operation reading
      · exact absurd (by rw [hsame]) hchange
      · cases heffect with
        | edit hallowed _ _ =>
          exact le_trans (Int.add_le_add_right hle _) ((hfirst rfl).waits hallowed hlast)
        | approval _ _ => cases hedit
        | other hnot _ _ _ =>
          cases operation with
          | update_details fields => exact absurd rfl (hnot fields)
          | _ => cases hedit
    · refine ih (fun call hcall => hclock call (List.mem_cons_of_mem _ hcall)) _ ?_ hkeptRest step
        hrest hedits
      obtain hsame | heffect := markerEffect_of_call library self operation reading
      · exact ⟨last, by rwa [hsame], hle⟩
      · cases heffect with
        | edit _ hsame _ => exact ⟨last, by rwa [hsame], hle⟩
        | approval hset _ => exact ⟨reading.now, hset, hnow⟩
        | other _ _ hsame _ => exact ⟨last, by rwa [hsame], hle⟩

/-- An approval does not return early. -/
theorem approve_ne_unchanged (reading : Reading) (self : ServicePackage) :
    PackageOperation.approve.run library reading self ≠ .ok .unchanged := by
  intro hrun
  simp only [PackageOperation.run, ServicePackage.approve, guard_eq_ok_iff,
    bind_eq_ok_iff, pure_eq_ok_iff, reduceCtorEq, and_false, exists_false] at hrun

/-- A successful approval stores its instant. -/
theorem last_approved_at_of_approve (self : Aggregate ServicePackage PackageEvent)
    {operation : PackageOperation} {reading : Reading} (happrove : operation = .approve)
    (hanswer : (self.call (ServicePackage.kind library) (operation.run library reading)).1 =
      .ok ()) :
    (self.call (ServicePackage.kind library)
      (operation.run library reading)).2.entity.last_approved_at = some reading.now := by
  obtain ⟨_, hcall⟩ | ⟨hrun, -⟩ | ⟨_, _, _, hrun, hvalid, hcall⟩ :=
    self.call_cases (ServicePackage.kind library) (operation.run library reading)
  · rw [hcall] at hanswer
    cases hanswer
  · rw [happrove] at hrun
    exact absurd hrun (approve_ne_unchanged reading self.entity)
  · rw [hcall]
    cases markerEffect hrun with
    | approval hset _ => exact (ServicePackage.markers_of_validate hvalid).1.trans hset
    | edit _ _ _ => cases happrove
    | other _ hnot _ _ => exact absurd happrove hnot

/-- A package object that waits for its first approval. -/
def samplePackage : Aggregate ServicePackage PackageEvent where
  entity := {
    id := 1
    vendor_id := 2
    name := "Day package"
    description := "Photography from noon to dusk."
    price := .finite 60000 0
    currency := "RWF"
    package_tier := .standard
    approval_status := .waiting_approval
    rejection_reason := none
    is_active := false
    is_deleted := false
    deleted_at := none
    last_approved_at := none
    last_vendor_public_edit_at := none
    next_vendor_edit_allowed_at := none
    version := 0
    created_at := 0
    updated_at := 0 }
  events := []

/-- A call that reads the clock at the start of the given day. -/
def onDay (day : ℤ) (operation : PackageOperation) : PackageOperation × Reading :=
  (operation, { now := days day, again := days day, event_id := 7 })

/-- An edit of the name alone. -/
def rename (name : String) : PackageOperation :=
  .update_details {
    name := .text name, description := .none, price := .none, currency := .none
    package_tier := .none }

/-- When every edit of a run finds the hold of the last approval kept, every public edit of
the run comes at least fifteen days after every approval before it. -/
theorem public_edits_wait_after_approval (self : Aggregate ServicePackage PackageEvent)
    (calls : List (PackageOperation × Reading))
    (hclock : calls.Pairwise fun earlier later => earlier.2.now ≤ later.2.now)
    (hkept : ∀ step ∈ packageHistory library self calls, step.operation.isEdit →
      HoldKept step.before.entity step.reading.now) :
    (packageHistory library self calls).Pairwise WaitsAfterApproval := by
  induction calls generalizing self with
  | nil => exact List.Pairwise.nil
  | cons call calls ih =>
    obtain ⟨operation, reading⟩ := call
    obtain ⟨hfirst, hclockRest⟩ := List.pairwise_cons.mp hclock
    rw [packageHistory, Aggregate.history_cons] at hkept ⊢
    obtain ⟨-, hkeptRest⟩ := List.forall_mem_cons.mp hkept
    refine List.pairwise_cons.mpr ⟨?_, ih _ hclockRest hkeptRest⟩
    intro later hlater ⟨happrove, hanswer⟩ hedits
    exact edits_wait calls hfirst _
      ⟨reading.now, last_approved_at_of_approve self happrove hanswer, le_rfl⟩ hkeptRest later
      hlater hedits

/-- The hold of an approval ends after fifteen days. -/
theorem public_edits_wait_after_approval_early_late :
    (packageHistory asciiLibrary samplePackage
      [onDay 1 .approve, onDay 9 (rename "Early"), onDay 16 (rename "Late")]).Pairwise
        WaitsAfterApproval :=
  public_edits_wait_after_approval samplePackage _ (by decide +kernel) (by decide +kernel)

/-- An approved package that is put back to waiting can be edited the next day: the edit of
day three follows the approval of day one. -/
theorem edit_soon_after_approval :
    ¬(packageHistory asciiLibrary samplePackage
      [onDay 1 .approve, onDay 2 .restore_to_waiting_approval,
        onDay 3 (rename "Soon")]).Pairwise WaitsAfterApproval := by
  decide +kernel

/-! ### Stored packages and their two writers -/

/-- The check constraints of the table. -/
def ServicePackage.meetsConstraints (row : ServicePackage) : Bool :=
  row.currency = "RWF" ∧
  (row.is_deleted = false ∨ row.is_active = false) ∧
  (row.is_deleted = false ∨ row.deleted_at ≠ none) ∧
  (row.approval_status ≠ .waiting_approval ∨ row.is_active = false) ∧
  (row.approval_status ≠ .approved ∨ row.last_approved_at ≠ none) ∧
  (row.approval_status ≠ .rejected ∨ row.is_active = false) ∧
  (row.approval_status ≠ .rejected ∨ nonEmpty row.rejection_reason ≠ none) ∧
  (row.approval_status = .rejected ∨ nonEmpty row.rejection_reason = none)

/-- A write goes through when the row keeps the constraints. -/
def ServicePackage.stored (row : ServicePackage) : Option ServicePackage :=
  if row.meetsConstraints then some row else none

/-- `approve` of the Django model. The override of `save` finds nothing to add. -/
def ServicePackage.adminApprove (reading : Reading) (row : ServicePackage) :
    Option ServicePackage :=
  stored { row with
    approval_status := .approved
    rejection_reason := none
    is_active := true
    last_approved_at := some reading.now
    next_vendor_edit_allowed_at := some (reading.now + VENDOR_PACKAGE_EDIT_COOLDOWN)
    updated_at := reading.again }

/-- `reject` of the Django model. -/
def ServicePackage.adminReject (reading : Reading) (reason : String) (row : ServicePackage) :
    Option ServicePackage :=
  stored { row with
    approval_status := .rejected
    rejection_reason := some reason
    is_active := false
    updated_at := reading.again }

/-- A domain operation on a stored package: the row is rebuilt as an object, the operation
runs, and `_save_if_changed` writes the object back when its version has risen. -/
def ServicePackage.transition (library : TextLibrary) (reading : Reading)
    (operation : PackageOperation) (row : ServicePackage) : Option ServicePackage :=
  match rehydrate library row with
  | .error _ => none
  | .ok package =>
    match package.call (kind library) (operation.run library reading) with
    | (.error _, _) => none
    | (.ok (), after) =>
      if after.entity.version = package.entity.version then some row else stored after.entity

/-- A write to a stored package. -/
inductive PackageWrite : Type where
  | domain (operation : PackageOperation)
  | admin_approve
  | admin_reject (reason : String)
deriving DecidableEq, Repr

/-- The row a write leaves; `none` when the write is refused. -/
def PackageWrite.run (library : TextLibrary) (reading : Reading) (row : ServicePackage) :
    PackageWrite → Option ServicePackage
  | domain operation => row.transition library reading operation
  | admin_approve => row.adminApprove reading
  | admin_reject reason => row.adminReject reading reason

/-- One write in a run. -/
structure PerformedWrite : Type where
  write : PackageWrite
  reading : Reading
  before : ServicePackage
  result : Option ServicePackage

/-- The writes of a run, in order; a refused write leaves the row as it was. -/
def rowHistory (library : TextLibrary) :
    ServicePackage → List (PackageWrite × Reading) → List PerformedWrite
  | _, [] => []
  | row, (write, reading) :: rest =>
    let result := write.run library reading row
    ⟨write, reading, row, result⟩ :: rowHistory library (result.getD row) rest

/-- The write is a vendor's edit. -/
def PackageWrite.isEdit : PackageWrite → Bool
  | domain operation => operation.isEdit
  | _ => false

/-- The write is an edit that went through and changed a public field. -/
def EditsPublicRow (step : PerformedWrite) : Prop :=
  step.write.isEdit ∧ ∃ after ∈ step.result, step.before.publicView ≠ after.publicView

/-- Two public edits are fifteen days apart. -/
def FarApart (earlier later : PerformedWrite) : Prop :=
  EditsPublicRow earlier → EditsPublicRow later →
    earlier.reading.now + VENDOR_PACKAGE_EDIT_COOLDOWN ≤ later.reading.now

instance (step : PerformedWrite) : Decidable (EditsPublicRow step) :=
  inferInstanceAs (Decidable (_ ∧ _))

instance (earlier later : PerformedWrite) : Decidable (FarApart earlier later) :=
  inferInstanceAs (Decidable (_ → _ → _))

theorem ServicePackage.eq_of_stored {row after : ServicePackage} (h : row.stored = some after) :
    after = row := by
  rw [stored] at h
  split at h
  · exact (Option.some.inj h).symm
  · cases h

/-- A rebuilt package has the marker of its row. -/
theorem ServicePackage.next_of_rehydrate {row : ServicePackage}
    {package : Aggregate ServicePackage PackageEvent}
    (h : rehydrate library row = .ok package) :
    package.entity.next_vendor_edit_allowed_at = row.next_vendor_edit_allowed_at := by
  rw [rehydrate, guard_eq_ok_iff, bind_eq_ok_iff] at h
  obtain ⟨-, entity, hvalid, hpackage⟩ := h
  cases hpackage
  exact (markers_of_validate hvalid).2

/-- What a write that goes through does to the marker: an edit that writes has found the
marker past and sets it ahead, an admin approval sets it ahead, and the others keep it. -/
inductive NextMarker (row after : ServicePackage) (now : Datetime) (write : PackageWrite) : Prop
  | same (unchanged : write.isEdit → after = row)
      (next : after.next_vendor_edit_allowed_at = row.next_vendor_edit_allowed_at)
  | ahead (passed : write.isEdit → ∀ next ∈ row.next_vendor_edit_allowed_at, next ≤ now)
      (next : after.next_vendor_edit_allowed_at = some (now + VENDOR_PACKAGE_EDIT_COOLDOWN))

theorem nextMarker_of_transition {row after : ServicePackage} {reading : Reading}
    {operation : PackageOperation} (h : row.transition library reading operation = some after) :
    NextMarker row after reading.now (.domain operation) := by
  rw [ServicePackage.transition] at h
  cases hrow : ServicePackage.rehydrate library row with
  | error raised =>
    rw [hrow] at h
    cases h
  | ok package =>
    have hnext := ServicePackage.next_of_rehydrate hrow
    have heffect := markerEffect_of_call library package operation reading
    rw [hrow] at h
    cases hcall : package.call (ServicePackage.kind library) (operation.run library reading) with
    | mk answer left =>
      rw [hcall] at heffect
      cases answer with
      | error raised =>
        simp only [hcall, reduceCtorEq] at h
      | ok _ =>
        simp only [hcall] at h
        split at h
        · cases h
          exact .same (fun _ => rfl) rfl
        · rename_i hversion
          obtain rfl := ServicePackage.eq_of_stored h
          obtain hsame | heffect := heffect
          · exact absurd (congrArg (fun object => object.entity.version) hsame) hversion
          · cases heffect with
            | edit hallowed _ hset =>
              exact .ahead (fun _ next hmem => hallowed.marker next (hnext ▸ hmem)) hset
            | approval _ hkeep => exact .same nofun (hkeep.trans hnext)
            | other hnot _ _ hkeep =>
              refine .same (fun hedit => ?_) (hkeep.trans hnext)
              cases operation with
              | update_details fields => exact absurd rfl (hnot fields)
              | _ => cases hedit

theorem nextMarker_of_run {row after : ServicePackage} {reading : Reading} {write : PackageWrite}
    (h : write.run library reading row = some after) :
    NextMarker row after reading.now write := by
  cases write with
  | domain operation => exact nextMarker_of_transition h
  | admin_approve =>
    obtain rfl := ServicePackage.eq_of_stored h
    exact .ahead nofun rfl
  | admin_reject reason =>
    obtain rfl := ServicePackage.eq_of_stored h
    exact .same nofun rfl

/-- After an edit at `edited`, the marker stays at least fifteen days past it, so that every
public edit waits for that long. -/
theorem edits_far_from {edited : Datetime} (writes : List (PackageWrite × Reading))
    (hclock : ∀ write ∈ writes, edited ≤ write.2.now) :
    ∀ row : ServicePackage,
      (∃ next ∈ row.next_vendor_edit_allowed_at, edited + VENDOR_PACKAGE_EDIT_COOLDOWN ≤ next) →
      ∀ step ∈ rowHistory library row writes, EditsPublicRow step →
        edited + VENDOR_PACKAGE_EDIT_COOLDOWN ≤ step.reading.now := by
  induction writes with
  | nil =>
    intro _ _ step hstep
    cases hstep
  | cons write writes ih =>
    obtain ⟨write, reading⟩ := write
    intro row ⟨next, hnext, hle⟩ step hstep hedits
    rw [rowHistory] at hstep
    have hnow : edited ≤ reading.now := hclock _ List.mem_cons_self
    obtain rfl | hrest := List.mem_cons.mp hstep
    · obtain ⟨hedit, after, hafter, hchange⟩ := hedits
      cases nextMarker_of_run hafter with
      | same hsame _ => exact absurd (by rw [hsame hedit]) hchange
      | ahead hpassed _ => exact le_trans hle (hpassed hedit next hnext)
    · refine ih (fun write hwrite => hclock write (List.mem_cons_of_mem _ hwrite)) _ ?_ step
        hrest hedits
      cases hresult : write.run library reading row with
      | none => exact ⟨next, hnext, hle⟩
      | some after =>
        cases nextMarker_of_run hresult with
        | same _ hkeep => exact ⟨next, hkeep.trans hnext, hle⟩
        | ahead _ hset => exact ⟨_, hset, Int.add_le_add_right hnow _⟩

/-- Any two public edits of a stored package are at least fifteen days apart, whatever the
domain operations and the admin model do in between. -/
theorem public_edits_far_apart (row : ServicePackage) (writes : List (PackageWrite × Reading))
    (hclock : writes.Pairwise fun earlier later => earlier.2.now ≤ later.2.now) :
    (rowHistory library row writes).Pairwise FarApart := by
  induction writes generalizing row with
  | nil => exact List.Pairwise.nil
  | cons write writes ih =>
    obtain ⟨write, reading⟩ := write
    obtain ⟨hfirst, hclockRest⟩ := List.pairwise_cons.mp hclock
    rw [rowHistory]
    refine List.pairwise_cons.mpr ⟨?_, ih _ hclockRest⟩
    intro later hlater ⟨hedit, after, hafter, hchange⟩ hedits
    refine edits_far_from writes hfirst _ ?_ later hlater hedits
    rw [show write.run library reading row = some after from hafter]
    cases nextMarker_of_run hafter with
    | same hsame _ => exact absurd (by rw [hsame hedit]) hchange
    | ahead _ hset => exact ⟨_, hset, le_rfl⟩

/-- An approval by an administrator between two edits keeps them apart. -/
theorem public_edits_far_apart_approved :
    (rowHistory asciiLibrary samplePackage.entity
      [(.domain (rename "First"), (onDay 1 .approve).2), (.admin_approve, (onDay 2 .approve).2),
        (.domain (rename "Second"), (onDay 17 .approve).2)]).Pairwise FarApart :=
  public_edits_far_apart samplePackage.entity _ (by decide)

end Linkapro.Vendors
