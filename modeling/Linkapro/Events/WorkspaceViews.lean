import Linkapro.Events.WorkspaceRows

/-!
# Views of an event workspace

The collection and detail views find the event of the planner first and the row in it. They check
the stage of the data against the event. The vendor of a requirement is checked when a row is
changed but not when it is created, so that a new requirement can name a vendor that is not
approved.
-/

namespace Linkapro.Events

open Lib (Table)
open Payments (pythonInt)
open Vendors (VendorStatus)

/-! ### Rows and responses -/

/-- The rows that the views read and write. -/
structure WorkspaceDb (κ : Type) : Type where
  events : Table fun event : Event => event.id
  stages : Table fun stage : EventStage => stage.id
  rows : Table fun row : WorkspaceRow κ => (row.model, row.id)
  activity : List ActivityRow

/-- A row as its serializer represents it. -/
structure ShownRow (κ : Type) : Type where
  row : WorkspaceRow κ
  stage_name : Option String
  assigned_vendor_name : Option String
deriving DecidableEq, Repr

/-- A response, or an exception that escapes the view. -/
inductive WorkspaceResponse (κ : Type) : Type where
  | forbidden
  | notFound
  | methodNotAllowed
  /-- The status is 400 and the body is `{field: [message]}`. -/
  | refused (field message : String)
  /-- The status is 400 and the body holds `serializer.errors`. -/
  | invalid (errors : SerializerErrors)
  /-- The status is 400 since the data are no dictionary. -/
  | noDictionary
  | raised
  | page (count : ℕ) (page page_size : ℤ) (results : List (ShownRow κ))
  | created (shown : ShownRow κ)
  | updated (shown : ShownRow κ)
  | stageUpdated (stage : EventStage)
  | noContent

/-- The rows that a response holds. -/
def WorkspaceResponse.shown {κ : Type} : WorkspaceResponse κ → List (ShownRow κ)
  | page _ _ _ results => results
  | created shown | updated shown => [shown]
  | _ => []

/-- The stages that a response holds. -/
def WorkspaceResponse.stages {κ : Type} : WorkspaceResponse κ → List EventStage
  | stageUpdated stage => [stage]
  | _ => []

/-- The query parameters of a collection. -/
structure CollectionQuery : Type where
  stage_id : Option String
  status : Option String
  page : Option String
  page_size : Option String

/-- A request to an endpoint of the workspaces. -/
inductive WorkspaceRequest : Type where
  | list (model : WorkspaceModel) (event_id : UUID) (query : CollectionQuery)
  | create (model : WorkspaceModel) (event_id : UUID) (data : RequestData)
  | update (model : WorkspaceModel) (event_id object_id : UUID) (data : RequestData)
  | delete (model : WorkspaceModel) (event_id object_id : UUID)
  | updateStage (event_id stage_id : UUID) (data : RequestData)

/-- A request of a user, with the vendor profiles and the value of `uuid4()` while it is
answered. -/
structure WorkspaceTurn : Type where
  user : UUID
  isPlanner : Bool
  vendors : VendorProfiles
  fresh_id : UUID
  request : WorkspaceRequest

/-- What the check of a stage gives. -/
inductive StageCheck : Type where
  | raised
  | missing
  | found

/-! ### Views -/

variable {κ : Type} (serializers : WorkspaceSerializers κ)

namespace WorkspaceDb

/-- `planner_event(event_id, user)`. -/
def planner_event (db : WorkspaceDb κ) (event_id user : UUID) : Option Event :=
  (db.events.lookup event_id).filter fun event => event.planner_id = user

/-- `event__planner_id=planner_id` of a row of an event. -/
def plannedBy (db : WorkspaceDb κ) (event_id planner_id : UUID) : Bool :=
  (db.planner_event event_id planner_id).isSome

/-- `stage_for_event(event, stage_id)` for a UUID. -/
def stage_for_event (db : WorkspaceDb κ) (event : Event) (stage_id : UUID) : Option EventStage :=
  (db.stages.lookup stage_id).filter fun stage =>
    stage.event_id = event.id ∧ db.plannedBy stage.event_id event.planner_id

/-- `stage_for_event(event, value)`. -/
def checkStage (db : WorkspaceDb κ) (event : Event) (value : Datum) : StageCheck :=
  if value = .null then .missing
  else
    match value.to_python with
    | none => .raised
    | some id => if (db.stage_for_event event id).isSome then .found else .missing

/-- The stages are known by their ids. -/
def knownStage (db : WorkspaceDb κ) (id : UUID) : Bool := (db.stages.lookup id).isSome

/-- `serializer_class(row).data`. -/
def represent (db : WorkspaceDb κ) (vendors : VendorProfiles) (row : WorkspaceRow κ) :
    ShownRow κ where
  row
  stage_name :=
    if row.model = .questionAnswer then none
    else (row.stage_id.bind db.stages.lookup).map EventStage.name
  assigned_vendor_name :=
    if row.model = .vendorRequirement then
      (row.assigned_vendor.bind vendors.find).map AssignableVendor.business_name
    else none

/-- `WorkspaceCollectionView.queryset(event)`. -/
def queryset (db : WorkspaceDb κ) (model : WorkspaceModel) (event : Event) :
    List (WorkspaceRow κ) :=
  db.rows.rows.filter fun row => row.model = model ∧ row.event_id = event.id ∧
    db.plannedBy row.event_id event.planner_id

/-- The numbers that `paginated_response` reads. -/
def pageOf (query : CollectionQuery) : ℤ × ℤ :=
  match query.page.elim (some 1) pythonInt, query.page_size.elim (some 50) pythonInt with
  | some page, some page_size => (max page 1, min (max page_size 1) 100)
  | _, _ => (1, 50)

/-- `paginated_response`. A database counts offsets in 64 bits. -/
def paginated_response (db : WorkspaceDb κ) (vendors : VendorProfiles) (model : WorkspaceModel)
    (query : CollectionQuery) (rows : List (WorkspaceRow κ)) : WorkspaceResponse κ :=
  let (page, page_size) := pageOf query
  let start := (page - 1) * page_size
  let sorted := rows.insertionSort fun row row' => serializers.before model db.stages.rows row row'
  if 2 ^ 63 ≤ start then .raised
  else .page rows.length page page_size
    (((sorted.drop start.toNat).take page_size.toNat).map (db.represent vendors))

/-- `get` of the collections. -/
def listView (db : WorkspaceDb κ) (user : UUID) (vendors : VendorProfiles) (model : WorkspaceModel)
    (event_id : UUID) (query : CollectionQuery) : WorkspaceResponse κ :=
  match db.planner_event event_id user with
  | none => .notFound
  | some event =>
    let rows := db.queryset model event
    let ofStatus (rows : List (WorkspaceRow κ)) : List (WorkspaceRow κ) :=
      match query.status.filter (· ≠ "") with
      | some status => if model.hasStatus then
          rows.filter fun row => serializers.status row.columns = status
        else rows
      | none => rows
    match query.stage_id.filter (· ≠ "") with
    | none => db.paginated_response serializers vendors model query (ofStatus rows)
    | some text =>
      match uuidOf text with
      | none => .raised
      | some stage_id => db.paginated_response serializers vendors model query
          (ofStatus (rows.filter fun row => row.stage_id = some stage_id))

/-- The activity that a view logs. -/
def logged (user : UUID) (event : Event) (action entity_type : String) (entity_id : UUID)
    (details : List (String × String)) : ActivityRow where
  event_id := event.id
  actor_id := user
  action
  entity_type
  entity_id
  details

/-- A written row and its activity. -/
def write (db : WorkspaceDb κ) (row : WorkspaceRow κ) (activity : ActivityRow) : WorkspaceDb κ :=
  { db with rows := db.rows.upsert row, activity := db.activity ++ [activity] }

def stageNotFound : WorkspaceResponse κ := .refused "stage" "Stage not found for this event."

/-- `WorkspaceCollectionView.post`. -/
def createView (db : WorkspaceDb κ) (turn : WorkspaceTurn) (model : WorkspaceModel)
    (event_id : UUID) (data : RequestData) : WorkspaceResponse κ × WorkspaceDb κ :=
  if model = .questionAnswer then (.methodNotAllowed, db)
  else
    match db.planner_event event_id turn.user, data with
    | none, _ => (.notFound, db)
    | some _, .other _ => (.raised, db)
    | some event, .entries entries =>
      let stage := (entries.lookup "stage").getD .null
      match if stage.isTruthy then db.checkStage event stage else .found with
      | .raised => (.raised, db)
      | .missing => (stageNotFound, db)
      | .found =>
        match validated (stageOf model db.knownStage none entries)
            (vendorOf model turn.vendors none entries) (serializers.create model entries) with
        | .error errors => (.invalid errors, db)
        | .ok valid =>
          if (db.rows.lookup (model, turn.fresh_id)).isSome then (.raised, db)
          else
            let row : WorkspaceRow κ := {
              model
              id := turn.fresh_id
              event_id := event.id
              stage_id := valid.stage_id
              assigned_vendor := valid.assigned_vendor
              columns := valid.columns }
            let after := db.write row
              (logged turn.user event (model.model_name ++ "_created") model.model_name row.id [])
            (.created (after.represent turn.vendors row), after)

/-- `WorkspaceDetailView.get_object(event, object_id)`. -/
def get_object (db : WorkspaceDb κ) (model : WorkspaceModel) (event : Event) (object_id : UUID) :
    Option (WorkspaceRow κ) :=
  (db.rows.lookup (model, object_id)).filter fun row => row.event_id = event.id ∧
    db.plannedBy row.event_id event.planner_id

/-- The checks of `WorkspaceDetailView.patch` before its serializer, with what it answers when they
fail. -/
def patchRefusal (db : WorkspaceDb κ) (vendors : VendorProfiles) (model : WorkspaceModel)
    (event : Event) (entries : Entries) : Option (WorkspaceResponse κ) :=
  match (entries.lookup "stage").elim .found (db.checkStage event) with
  | .raised => some .raised
  | .missing => some stageNotFound
  | .found =>
    let vendor := (entries.lookup "assigned_vendor").getD .null
    if model = .vendorRequirement ∧ vendor.isTruthy then
      match vendor.to_python with
      | none => some .raised
      | some id =>
        if (vendors.find id).any fun vendor => vendor.status = .approved then none
        else some (.refused "assigned_vendor" "Choose an approved vendor.")
    else none

/-- `WorkspaceDetailView.patch`. -/
def updateView (db : WorkspaceDb κ) (turn : WorkspaceTurn) (model : WorkspaceModel)
    (event_id object_id : UUID) (data : RequestData) : WorkspaceResponse κ × WorkspaceDb κ :=
  match db.planner_event event_id turn.user with
  | none => (.notFound, db)
  | some event =>
    match db.get_object model event object_id, data with
    | none, _ => (.notFound, db)
    | some _, .other containsStage =>
      if containsStage = some false ∧ model ≠ .vendorRequirement then (.noDictionary, db)
      else (.raised, db)
    | some instance_, .entries entries =>
      match db.patchRefusal turn.vendors model event entries with
      | some response => (response, db)
      | none =>
        match validated (stageOf model db.knownStage (some instance_.stage_id) entries)
            (vendorOf model turn.vendors (some instance_.assigned_vendor) entries)
            (serializers.update model instance_.columns entries) with
        | .error errors => (.invalid errors, db)
        | .ok valid =>
          let row := { instance_ with
            stage_id := valid.stage_id
            assigned_vendor := valid.assigned_vendor
            columns := valid.columns }
          let after := db.write row
            (logged turn.user event (model.model_name ++ "_updated") model.model_name row.id [])
          (.updated (after.represent turn.vendors row), after)

/-- `WorkspaceDetailView.delete`. -/
def deleteView (db : WorkspaceDb κ) (user : UUID) (model : WorkspaceModel)
    (event_id object_id : UUID) : WorkspaceResponse κ × WorkspaceDb κ :=
  match db.planner_event event_id user with
  | none => (.notFound, db)
  | some event =>
    match db.get_object model event object_id with
    | none => (.notFound, db)
    | some _ => (.noContent, { db with
        rows := db.rows.filter fun row => (row.model, row.id) ≠ (model, object_id)
        activity := db.activity ++
          [logged user event (model.model_name ++ "_deleted") model.model_name object_id []] })

/-- `EventStageDetailView.patch`. -/
def updateStageView (db : WorkspaceDb κ) (user event_id stage_id : UUID) (data : RequestData) :
    WorkspaceResponse κ × WorkspaceDb κ :=
  match db.planner_event event_id user with
  | none => (.notFound, db)
  | some event =>
    match db.stage_for_event event stage_id, data with
    | none, _ => (.notFound, db)
    | some _, .other _ => (.noDictionary, db)
    | some stage, .entries entries =>
      match serializers.updateStage entries with
      | .error errors => (.invalid errors, db)
      | .ok changes =>
        let stage := { stage with
          name := changes.name.getD stage.name
          description := changes.description.getD stage.description
          status := changes.status.getD stage.status }
        (.stageUpdated stage, { db with
          stages := db.stages.upsert stage
          activity := db.activity ++
            [logged user event "stage_updated" "eventstage" stage.id
              [("status", stage.status)]] })

/-- The response to a turn and the rows afterwards. -/
def respond (db : WorkspaceDb κ) (turn : WorkspaceTurn) : WorkspaceResponse κ × WorkspaceDb κ :=
  if turn.isPlanner = false then (.forbidden, db)
  else
    match turn.request with
    | .list model event_id query =>
      (db.listView serializers turn.user turn.vendors model event_id query, db)
    | .create model event_id data => db.createView serializers turn model event_id data
    | .update model event_id object_id data =>
      db.updateView serializers turn model event_id object_id data
    | .delete model event_id object_id => db.deleteView turn.user model event_id object_id
    | .updateStage event_id stage_id data =>
      db.updateStageView serializers turn.user event_id stage_id data

end WorkspaceDb

/-! ### Lawful and safe runs -/

/-- The user is the planner of the event. -/
def WorkspaceDb.Owns (db : WorkspaceDb κ) (user event_id : UUID) : Prop :=
  ∃ event, db.events.lookup event_id = some event ∧ event.planner_id = user

/-- The stage of each row, if it has one, is a stage of its event. `uuid4` never gives the nil
id. -/
structure WorkspaceDb.Sound (db : WorkspaceDb κ) : Prop where
  stages : ∀ row ∈ db.rows.rows, ∀ stage_id ∈ row.stage_id,
    ∃ stage, db.stages.lookup stage_id = some stage ∧ stage.event_id = row.event_id
  no_nil : db.stages.lookup 0 = none

/-- What a request of a user may do to the rows and what it may return. -/
structure Lawful (vendors : VendorProfiles) (user : UUID) (db : WorkspaceDb κ)
    (outcome : WorkspaceResponse κ × WorkspaceDb κ) : Prop where
  sound : outcome.2.Sound
  /-- A vendor was assigned before or is approved. -/
  approved : ∀ row ∈ outcome.2.rows.rows, ∀ vendor_id ∈ row.assigned_vendor,
    (∃ old ∈ db.rows.rows, (old.model, old.id) = (row.model, row.id) ∧
      old.assigned_vendor = some vendor_id) ∨
    ∃ vendor, vendors.find vendor_id = some vendor ∧ vendor.status = .approved
  /-- The rows of other planners stay. -/
  rows : ∀ row, ¬db.Owns user row.event_id → (row ∈ outcome.2.rows.rows ↔ row ∈ db.rows.rows)
  stages : ∀ stage, ¬db.Owns user stage.event_id →
    (stage ∈ outcome.2.stages.rows ↔ stage ∈ db.stages.rows)
  activity : ∃ added, outcome.2.activity = db.activity ++ added ∧
    ∀ row ∈ added, db.Owns user row.event_id
  events : outcome.2.events = db.events
  /-- What is returned is of events of the user. -/
  shown : ∀ shown ∈ outcome.1.shown, db.Owns user shown.row.event_id ∧
    ∀ name ∈ shown.stage_name, ∃ stage ∈ outcome.2.stages.rows,
      stage.name = name ∧ db.Owns user stage.event_id
  shownStages : ∀ stage ∈ outcome.1.stages, db.Owns user stage.event_id

/-- The data for a new requirement of an own event name no vendor that is not approved. -/
def WorkspaceDb.NamesApproved (db : WorkspaceDb κ) (turn : WorkspaceTurn) (event_id : UUID)
    (entries : Entries) : Prop :=
  (db.planner_event event_id turn.user).isSome → ∀ vendor_id vendor,
    vendorOf .vendorRequirement turn.vendors none entries = .ok (some vendor_id) →
    turn.vendors.find vendor_id = some vendor → vendor.status = .approved

/-- A turn creates no requirement with a vendor that is not approved. -/
def WorkspaceTurn.Safe (db : WorkspaceDb κ) (turn : WorkspaceTurn) : Prop :=
  match turn.request with
  | .create .vendorRequirement event_id (.entries entries) =>
    turn.isPlanner = true → db.NamesApproved turn event_id entries
  | _ => True

/-- Every turn of a run is lawful. -/
def AllLawful : WorkspaceDb κ → List WorkspaceTurn → Prop
  | _, [] => True
  | db, turn :: turns =>
    Lawful turn.vendors turn.user db (db.respond serializers turn) ∧
      AllLawful (db.respond serializers turn).2 turns

/-- Every turn of a run is safe in the state before it. -/
def AllTurnsSafe : WorkspaceDb κ → List WorkspaceTurn → Prop
  | _, [] => True
  | db, turn :: turns => turn.Safe db ∧ AllTurnsSafe (db.respond serializers turn).2 turns

/-! ### The event and the stage of a request -/

variable {serializers} {db : WorkspaceDb κ} {vendors : VendorProfiles} {turn : WorkspaceTurn}
  {user event_id : UUID} {event : Event} {model : WorkspaceModel} {entries : Entries}

namespace WorkspaceDb

theorem planner_event_eq_some (h : db.planner_event event_id user = some event) :
    event.id = event_id ∧ event.planner_id = user ∧ db.Owns user event.id := by
  obtain ⟨hlookup, hplanner⟩ := Option.filter_eq_some_iff.mp h
  have hid : event.id = event_id := Table.key_of_lookup hlookup
  have hplanner' := of_decide_eq_true hplanner
  exact ⟨hid, hplanner', event, hid ▸ hlookup, hplanner'⟩

theorem stage_for_event_eq_some {stage_id : UUID} {stage : EventStage}
    (h : db.stage_for_event event stage_id = some stage) :
    db.stages.lookup stage_id = some stage ∧ stage.event_id = event.id := by
  obtain ⟨hlookup, hevent⟩ := Option.filter_eq_some_iff.mp h
  exact ⟨hlookup, (of_decide_eq_true hevent).1⟩

theorem get_object_eq_some {object_id : UUID} {row : WorkspaceRow κ}
    (h : db.get_object model event object_id = some row) :
    row ∈ db.rows.rows ∧ (row.model, row.id) = (model, object_id) ∧ row.event_id = event.id := by
  obtain ⟨hlookup, hevent⟩ := Option.filter_eq_some_iff.mp h
  obtain ⟨hmem, hkey⟩ := Table.lookup_eq_some_iff.mp hlookup
  exact ⟨hmem, hkey, (of_decide_eq_true hevent).1⟩

/-- A stage that was found is of the event, and the value is its id. -/
theorem stage_of_checkStage {value : Datum} (h : db.checkStage event value = .found) :
    ∃ stage_id stage, value.to_python = some stage_id ∧
      db.stages.lookup stage_id = some stage ∧ stage.event_id = event.id := by
  rw [checkStage] at h
  split at h
  · cases h
  · cases hpython : value.to_python with
    | none =>
      rw [hpython] at h
      cases h
    | some stage_id =>
      simp only [hpython] at h
      split at h
      · next hsome =>
        obtain ⟨stage, hstage⟩ := Option.isSome_iff_exists.mp hsome
        exact ⟨stage_id, stage, rfl, stage_for_event_eq_some hstage⟩
      · cases h

/-- The stage of validated data is of the event if the given value was checked. -/
theorem stage_of_relatedField {allow_null : Bool} {value : Datum} {stage_id : UUID}
    (hsound : db.Sound) (hcheck : value.isTruthy = true → db.checkStage event value = .found)
    (h : relatedField allow_null db.knownStage value = .ok (some stage_id)) :
    ∃ stage, db.stages.lookup stage_id = some stage ∧ stage.event_id = event.id := by
  obtain ⟨-, hkey⟩ := relatedKey_of_relatedField h
  obtain ⟨-, hpython, hknown⟩ := relatedKey_eq_ok hkey
  cases htruthy : value.isTruthy with
  | true =>
    obtain ⟨stage_id', stage, hpython', hlookup, hevent⟩ := stage_of_checkStage (hcheck htruthy)
    obtain rfl := Option.some.inj (hpython.symm.trans hpython')
    exact ⟨stage, hlookup, hevent⟩
  | false =>
    -- the nil id, which no stage has
    rw [nil_of_relatedField htruthy h, knownStage, hsound.no_nil] at hknown
    cases hknown

/-- The stage that a serializer gives a row is of its event. -/
theorem stage_of_stageOf {current : Option (Option UUID)} {stage_id : UUID} (hsound : db.Sound)
    (hcheck : ∀ value ∈ entries.lookup "stage", value.isTruthy = true →
      db.checkStage event value = .found)
    (hcurrent : current = some (some stage_id) →
      ∃ stage, db.stages.lookup stage_id = some stage ∧ stage.event_id = event.id)
    (h : stageOf model db.knownStage current entries = .ok (some stage_id)) :
    ∃ stage, db.stages.lookup stage_id = some stage ∧ stage.event_id = event.id := by
  rw [stageOf] at h
  split at h
  · cases current with
    | none => cases h
    | some current => exact hcurrent (congrArg some (Except.ok.inj h))
  · cases hvalue : entries.lookup "stage" with
    | some value =>
      rw [hvalue] at h
      exact stage_of_relatedField hsound (hcheck value hvalue) h
    | none =>
      rw [hvalue] at h
      cases current with
      | some current => exact hcurrent (congrArg some (Except.ok.inj h))
      | none =>
        simp only [foreignKey] at h
        split at h <;> cases h

/-- The checks of a change find the given stage. -/
theorem stage_of_patch {value : Datum}
    (hchecked : db.patchRefusal vendors model event entries = none)
    (hvalue : value ∈ entries.lookup "stage") : db.checkStage event value = .found := by
  rw [patchRefusal, Option.mem_def.mp hvalue, Option.elim_some] at hchecked
  split at hchecked
  · cases hchecked
  · cases hchecked
  · next hfound => exact hfound

/-- A refusal shows no row. -/
theorem shown_of_patchRefusal {response : WorkspaceResponse κ}
    (h : db.patchRefusal vendors model event entries = some response) :
    response.shown = [] ∧ response.stages = [] := by
  simp only [patchRefusal, stageNotFound] at h
  split at h
  · cases h
    exact ⟨rfl, rfl⟩
  · cases h
    exact ⟨rfl, rfl⟩
  · split at h
    · split at h
      · cases h
        exact ⟨rfl, rfl⟩
      · split at h
        · cases h
        · cases h
          exact ⟨rfl, rfl⟩
    · cases h

/-- The vendor of a changed row was assigned before or is approved. -/
theorem vendor_of_patch {current : Option UUID} {vendor_id : UUID}
    (hchecked : db.patchRefusal vendors model event entries = none)
    (h : vendorOf model vendors (some current) entries = .ok (some vendor_id)) :
    current = some vendor_id ∨
      ∃ vendor, vendors.find vendor_id = some vendor ∧ vendor.status = .approved := by
  rw [vendorOf] at h
  split at h
  · next hmodel =>
    cases hvalue : entries.lookup "assigned_vendor" with
    | none =>
      rw [hvalue] at h
      exact .inl (Except.ok.inj h)
    | some value =>
      rw [hvalue] at h
      obtain ⟨-, hkey⟩ := relatedKey_of_relatedField h
      obtain ⟨-, hpython, hknown⟩ := relatedKey_eq_ok hkey
      cases htruthy : value.isTruthy with
      | false =>
        rw [nil_of_relatedField htruthy h, vendors.find_nil] at hknown
        cases hknown
      | true =>
        simp only [patchRefusal, hvalue, Option.getD_some, hmodel, htruthy, and_self, if_true,
          hpython] at hchecked
        split at hchecked
        · cases hchecked
        · cases hchecked
        · split at hchecked
          · next happroved =>
            obtain ⟨vendor, hvendor, hstatus⟩ := (Option.any_eq_true _ _).mp happroved
            exact .inr ⟨vendor, hvendor, of_decide_eq_true hstatus⟩
          · cases hchecked
  · cases h

/-! ### What the views write and show -/

theorem lawful_of_same {response : WorkspaceResponse κ} (hsound : db.Sound)
    (hshown : response.shown = []) (hstages : response.stages = []) :
    Lawful vendors user db (response, db) where
  sound := hsound
  approved row hrow vendor_id hvendor := .inl ⟨row, hrow, rfl, hvendor⟩
  rows _ _ := Iff.rfl
  stages _ _ := Iff.rfl
  activity := ⟨[], (List.append_nil _).symm, List.forall_mem_nil _⟩
  events := rfl
  shown := by
    rw [hshown]
    exact List.forall_mem_nil _
  shownStages := by
    rw [hstages]
    exact List.forall_mem_nil _

/-- A stored row of the user is shown with the name of a stage of its event. -/
theorem shown_represent (vendors : VendorProfiles) {row : WorkspaceRow κ} (hsound : db.Sound)
    (hrow : row ∈ db.rows.rows)
    (howned : db.Owns user row.event_id) :
    db.Owns user (db.represent vendors row).row.event_id ∧
      ∀ name ∈ (db.represent vendors row).stage_name, ∃ stage ∈ db.stages.rows,
        stage.name = name ∧ db.Owns user stage.event_id := by
  refine ⟨howned, fun name hname => ?_⟩
  simp only [represent, Option.mem_def] at hname
  split at hname
  · cases hname
  · obtain ⟨stage, hstage, hstage_name⟩ := Option.map_eq_some_iff.mp hname
    obtain ⟨stage_id, hid, hlookup⟩ := Option.bind_eq_some_iff.mp hstage
    obtain ⟨stage', hlookup', hevent⟩ := hsound.stages row hrow stage_id hid
    obtain rfl := Option.some.inj (hlookup.symm.trans hlookup')
    exact ⟨stage, Table.mem_of_lookup hlookup, hstage_name, hevent ▸ howned⟩

/-- A row of the user is written, over a row of the user if there is one under its key. -/
theorem lawful_write {row : WorkspaceRow κ} {activity : ActivityRow}
    {response : WorkspaceResponse κ} (hsound : db.Sound) (howned : db.Owns user row.event_id)
    (hold : ∀ old ∈ db.rows.rows, (old.model, old.id) = (row.model, row.id) →
      db.Owns user old.event_id)
    (hstage : ∀ stage_id ∈ row.stage_id,
      ∃ stage, db.stages.lookup stage_id = some stage ∧ stage.event_id = row.event_id)
    (hvendor : ∀ vendor_id ∈ row.assigned_vendor,
      (∃ old ∈ db.rows.rows, (old.model, old.id) = (row.model, row.id) ∧
        old.assigned_vendor = some vendor_id) ∨
      ∃ vendor, vendors.find vendor_id = some vendor ∧ vendor.status = .approved)
    (hactivity : db.Owns user activity.event_id)
    (hshown : response.shown = [(db.write row activity).represent vendors row])
    (hstages : response.stages = []) :
    Lawful vendors user db (response, db.write row activity) := by
  have hafter : (db.write row activity).Sound := by
    refine ⟨fun row' hrow' => ?_, hsound.no_nil⟩
    rcases Table.mem_upsert_iff.mp hrow' with rfl | ⟨hmem, -⟩
    · exact hstage
    · exact hsound.stages row' hmem
  refine ⟨hafter, ?_, ?_, fun _ _ => Iff.rfl, ⟨[activity], rfl, ?_⟩, rfl, ?_, ?_⟩
  · intro row' hrow' vendor_id hid
    rcases Table.mem_upsert_iff.mp hrow' with rfl | ⟨hmem, -⟩
    · exact hvendor vendor_id hid
    · exact .inl ⟨row', hmem, rfl, hid⟩
  · intro row' hother
    refine Table.mem_upsert_iff.trans ⟨?_, fun hmem => .inr ⟨hmem, fun heq => ?_⟩⟩
    · rintro (rfl | ⟨hmem, -⟩)
      · exact absurd howned hother
      · exact hmem
    · exact hother (hold row' hmem heq)
  · exact List.forall_mem_singleton.mpr hactivity
  · rw [hshown, List.forall_mem_singleton]
    have hrow : row ∈ (db.write row activity).rows.rows := Table.mem_upsert_iff.mpr (.inl rfl)
    have hrow_shown := shown_represent vendors hafter hrow howned
    exact hrow_shown
  · rw [hstages]
    exact List.forall_mem_nil _

/-- The rows of a query are rows of the event. -/
theorem mem_queryset {row : WorkspaceRow κ} (h : row ∈ db.queryset model event) :
    row ∈ db.rows.rows ∧ row.event_id = event.id := by
  obtain ⟨hmem, hrow⟩ := List.mem_filter.mp h
  exact ⟨hmem, (of_decide_eq_true hrow).2.1⟩

/-- A page of rows of the event is lawful. -/
theorem lawful_paginated {query : CollectionQuery} {rows : List (WorkspaceRow κ)}
    (hsound : db.Sound) (howned : db.Owns user event.id)
    (hrows : ∀ row ∈ rows, row ∈ db.queryset model event) :
    Lawful vendors user db (db.paginated_response serializers vendors model query rows, db) := by
  simp only [paginated_response]
  split
  · exact lawful_of_same hsound rfl rfl
  · have hsame : Lawful vendors user db (.notFound, db) := lawful_of_same hsound rfl rfl
    refine { hsame with shown := ?_, shownStages := List.forall_mem_nil _ }
    intro shown hshown
    obtain ⟨row, hrow, rfl⟩ := List.mem_map.mp hshown
    have hsorted := List.mem_of_mem_drop (List.mem_of_mem_take hrow)
    obtain ⟨hmem, hevent⟩ := mem_queryset (hrows row ((List.mem_insertionSort _).mp hsorted))
    exact shown_represent vendors hsound hmem (hevent ▸ howned)

theorem listView_lawful {query : CollectionQuery} (hsound : db.Sound) :
    Lawful vendors user db (db.listView serializers user vendors model event_id query, db) := by
  simp only [listView]
  split
  · exact lawful_of_same hsound rfl rfl
  · next event hevent =>
    have howned := (planner_event_eq_some hevent).2.2
    split
    · refine lawful_paginated hsound howned fun row hrow => ?_
      split at hrow
      · split at hrow
        · exact List.mem_of_mem_filter hrow
        · exact hrow
      · exact hrow
    · split
      · exact lawful_of_same hsound rfl rfl
      · refine lawful_paginated hsound howned fun row hrow => ?_
        split at hrow
        · split at hrow
          · exact List.mem_of_mem_filter (List.mem_of_mem_filter hrow)
          · exact List.mem_of_mem_filter hrow
        · exact List.mem_of_mem_filter hrow

/-- The vendor of a new row is approved. -/
theorem vendor_of_create {vendor_id : UUID}
    (hevent : db.planner_event event_id turn.user = some event)
    (hsafe : model = .vendorRequirement → db.NamesApproved turn event_id entries)
    (h : vendorOf model turn.vendors none entries = .ok (some vendor_id)) :
    ∃ vendor, turn.vendors.find vendor_id = some vendor ∧ vendor.status = .approved := by
  by_cases hmodel : model = .vendorRequirement
  · have hnamed := hsafe hmodel (by rw [hevent]; rfl)
    rw [hmodel] at h
    have hknown : (turn.vendors.find vendor_id).isSome = true := by
      rw [vendorOf, if_pos rfl] at h
      cases hvalue : entries.lookup "assigned_vendor" with
      | none =>
        rw [hvalue] at h
        cases h
      | some value =>
        rw [hvalue] at h
        exact (relatedKey_eq_ok (relatedKey_of_relatedField h).2).2.2
    obtain ⟨vendor, hvendor⟩ := Option.isSome_iff_exists.mp hknown
    exact ⟨vendor, hvendor, hnamed vendor_id vendor h hvendor⟩
  · rw [vendorOf, if_neg hmodel] at h
    cases h

theorem createView_lawful {data : RequestData} (hsound : db.Sound)
    (hsafe : ∀ entries, model = .vendorRequirement → data = .entries entries →
      db.NamesApproved turn event_id entries) :
    Lawful turn.vendors turn.user db (db.createView serializers turn model event_id data) := by
  unfold createView
  split
  · exact lawful_of_same hsound rfl rfl
  cases hevent : db.planner_event event_id turn.user with
  | none => exact lawful_of_same hsound rfl rfl
  | some event =>
    have howned := (planner_event_eq_some hevent).2.2
    cases data with
    | other containsStage => exact lawful_of_same hsound rfl rfl
    | entries entries =>
      dsimp only
      split
      · exact lawful_of_same hsound rfl rfl
      · exact lawful_of_same hsound rfl rfl
      · next hcheck =>
        split
        · exact lawful_of_same hsound rfl rfl
        · next valid hvalid =>
          obtain ⟨hstage, hvendor, -⟩ := validated_eq_ok_iff.mp hvalid
          split
          · exact lawful_of_same hsound rfl rfl
          · next hfree =>
            refine lawful_write hsound howned ?_ ?_ ?_ howned rfl rfl
            · intro old hold hkey
              refine absurd ?_ hfree
              rw [← hkey, Table.lookup_of_mem hold]
              rfl
            · intro stage_id hid
              have hgiven := hstage.trans (congrArg Except.ok hid)
              refine stage_of_stageOf hsound (fun value hvalue htruthy => ?_)
                (fun hcurrent => ?_) hgiven
              · rw [Option.mem_def.mp hvalue, Option.getD_some, htruthy, if_pos rfl] at hcheck
                exact hcheck
              · cases hcurrent
            · intro vendor_id hid
              have hgiven := hvendor.trans (congrArg Except.ok hid)
              exact .inr (vendor_of_create hevent (fun hmodel => hsafe entries hmodel rfl) hgiven)

/-- A changed row of the event stays a row of the event. -/
theorem updateView_lawful {object_id : UUID} {data : RequestData} (hsound : db.Sound) :
    Lawful turn.vendors turn.user db
      (db.updateView serializers turn model event_id object_id data) := by
  unfold updateView
  cases hevent : db.planner_event event_id turn.user with
  | none => exact lawful_of_same hsound rfl rfl
  | some event =>
    have howned := (planner_event_eq_some hevent).2.2
    dsimp only
    cases hobject : db.get_object model event object_id with
    | none => exact lawful_of_same hsound rfl rfl
    | some stored =>
      obtain ⟨hmem, -, hstored⟩ := get_object_eq_some hobject
      cases data with
      | other containsStage =>
        dsimp only
        split
        · exact lawful_of_same hsound rfl rfl
        · exact lawful_of_same hsound rfl rfl
      | entries entries =>
        dsimp only
        split
        · next response hrefused =>
          obtain ⟨hshown, hstages⟩ := shown_of_patchRefusal hrefused
          exact lawful_of_same hsound hshown hstages
        · next hchecked =>
          split
          · exact lawful_of_same hsound rfl rfl
          · next valid hvalid =>
            obtain ⟨hstage, hvendor, -⟩ := validated_eq_ok_iff.mp hvalid
            refine lawful_write hsound (hstored ▸ howned) ?_ ?_ ?_ howned rfl rfl
            · intro old hold hold_key
              have hsame := (Table.lookup_of_mem hold).symm.trans
                (hold_key ▸ Table.lookup_of_mem hmem)
              exact Option.some.inj hsame ▸ hstored ▸ howned
            · intro stage_id hid
              have hgiven := hstage.trans (congrArg Except.ok hid)
              rw [hstored]
              refine stage_of_stageOf hsound
                (fun value hvalue _ => stage_of_patch hchecked hvalue) (fun hcurrent => ?_) hgiven
              have hkept := hsound.stages stored hmem stage_id (Option.some.inj hcurrent)
              rwa [hstored] at hkept
            · intro vendor_id hid
              have hgiven := hvendor.trans (congrArg Except.ok hid)
              rcases vendor_of_patch hchecked hgiven with hcurrent | happroved
              · exact .inl ⟨stored, hmem, rfl, hcurrent⟩
              · exact .inr happroved

theorem deleteView_lawful {object_id : UUID} (hsound : db.Sound) :
    Lawful vendors user db (db.deleteView user model event_id object_id) := by
  unfold deleteView
  cases hevent : db.planner_event event_id user with
  | none => exact lawful_of_same hsound rfl rfl
  | some event =>
    have howned := (planner_event_eq_some hevent).2.2
    dsimp only
    cases hobject : db.get_object model event object_id with
    | none => exact lawful_of_same hsound rfl rfl
    | some stored =>
      obtain ⟨hmem, hkey, hstored⟩ := get_object_eq_some hobject
      refine ⟨⟨fun row hrow => ?_, hsound.no_nil⟩, ?_, ?_, fun _ _ => Iff.rfl,
        ⟨[_], rfl, List.forall_mem_singleton.mpr howned⟩, rfl, List.forall_mem_nil _,
        List.forall_mem_nil _⟩
      · exact hsound.stages row (List.mem_of_mem_filter hrow)
      · intro row hrow vendor_id hid
        exact .inl ⟨row, List.mem_of_mem_filter hrow, rfl, hid⟩
      · intro row hother
        refine ⟨List.mem_of_mem_filter, fun hrow => List.mem_filter.mpr ⟨hrow, ?_⟩⟩
        refine decide_eq_true fun hrow_key => hother ?_
        have hsame := (Table.lookup_of_mem hrow).symm.trans
          (hrow_key.trans hkey.symm ▸ Table.lookup_of_mem hmem)
        exact Option.some.inj hsame ▸ hstored ▸ howned

/-- A stage of the user is changed under its id and its event. -/
theorem lawful_write_stage {stage stage' : EventStage} {activity : ActivityRow}
    (hsound : db.Sound) (howned : db.Owns user stage.event_id)
    (hlookup : db.stages.lookup stage'.id = some stage)
    (hevent : stage'.event_id = stage.event_id) (hactivity : db.Owns user activity.event_id) :
    Lawful vendors user db (.stageUpdated stage', { db with
      stages := db.stages.upsert stage'
      activity := db.activity ++ [activity] }) := by
  refine ⟨⟨fun row hrow stage_id hid => ?_, ?_⟩, fun row hrow _ hid => .inl ⟨row, hrow, rfl, hid⟩,
    fun _ _ => Iff.rfl, ?_, ⟨[activity], rfl, List.forall_mem_singleton.mpr hactivity⟩, rfl,
    List.forall_mem_nil _, List.forall_mem_singleton.mpr (hevent ▸ howned)⟩
  · obtain ⟨old, hold, hold_event⟩ := hsound.stages row hrow stage_id hid
    rw [Table.lookup_upsert]
    split
    · next hsame =>
      obtain rfl := Option.some.inj ((hsame ▸ hlookup).symm.trans hold)
      exact ⟨stage', rfl, hevent.trans hold_event⟩
    · exact ⟨old, hold, hold_event⟩
  · rw [Table.lookup_upsert]
    split
    · next hnil =>
      rw [hnil, hsound.no_nil] at hlookup
      cases hlookup
    · exact hsound.no_nil
  · intro other hother
    refine Table.mem_upsert_iff.trans ⟨?_, fun hmem => .inr ⟨hmem, fun hkey => hother ?_⟩⟩
    · rintro (rfl | ⟨hmem, -⟩)
      · exact absurd (hevent ▸ howned) hother
      · exact hmem
    · have hsame := (Table.lookup_of_mem hmem).symm.trans (hkey ▸ hlookup)
      exact Option.some.inj hsame ▸ howned

theorem updateStageView_lawful {stage_id : UUID} {data : RequestData} (hsound : db.Sound) :
    Lawful vendors user db (db.updateStageView serializers user event_id stage_id data) := by
  unfold updateStageView
  cases hevent : db.planner_event event_id user with
  | none => exact lawful_of_same hsound rfl rfl
  | some event =>
    have howned := (planner_event_eq_some hevent).2.2
    dsimp only
    cases hstage : db.stage_for_event event stage_id with
    | none => exact lawful_of_same hsound rfl rfl
    | some stage =>
      obtain ⟨hlookup, hstage_event⟩ := stage_for_event_eq_some hstage
      cases data with
      | other containsStage => exact lawful_of_same hsound rfl rfl
      | entries entries =>
        dsimp only
        split
        · exact lawful_of_same hsound rfl rfl
        · have hself : db.stages.lookup stage.id = some stage :=
            Table.lookup_of_mem (Table.mem_of_lookup hlookup)
          exact lawful_write_stage hsound (hstage_event ▸ howned) hself rfl howned

/-- A safe turn is lawful. -/
theorem respond_lawful (hsound : db.Sound) (hsafe : turn.Safe db) :
    Lawful turn.vendors turn.user db (db.respond serializers turn) := by
  rw [respond]
  split
  · exact lawful_of_same hsound rfl rfl
  · next hplanner =>
    rw [WorkspaceTurn.Safe] at hsafe
    cases hrequest : turn.request with
    | list model event_id query => exact listView_lawful hsound
    | create model event_id data =>
      refine createView_lawful hsound ?_
      rintro entries rfl rfl
      rw [hrequest] at hsafe
      exact hsafe (eq_true_of_ne_false hplanner)
    | update model event_id object_id data => exact updateView_lawful hsound
    | delete model event_id object_id => exact deleteView_lawful hsound
    | updateStage event_id stage_id data => exact updateStageView_lawful hsound

end WorkspaceDb

/-! ### Runs of requests -/

/-- In a run of safe turns every turn is lawful. -/
theorem workspace_runs_lawful (serializers : WorkspaceSerializers κ) {db : WorkspaceDb κ}
    {turns : List WorkspaceTurn} (hsound : db.Sound) (hsafe : AllTurnsSafe serializers db turns) :
    AllLawful serializers db turns := by
  induction turns generalizing db with
  | nil => trivial
  | cons turn turns ih =>
    have hlawful : Lawful turn.vendors turn.user db (db.respond serializers turn) :=
      WorkspaceDb.respond_lawful hsound hsafe.1
    exact ⟨hlawful, ih hlawful.sound hsafe.2⟩

/-- The requirements keep their title, the one field of theirs that has to be given. -/
def titleSerializers : WorkspaceSerializers String where
  create _ entries :=
    match entries.lookup "title" with
    | some (.text title) => .ok title
    | _ => .error [("title", .required)]
  update _ title entries :=
    match entries.lookup "title" with
    | some (.text title) => .ok title
    | _ => .ok title
  updateStage _ := .ok ⟨none, none, none⟩
  status _ := "open"
  before _ _ row row' := row.id ≤ row'.id

/-- A wedding with one stage. -/
def newWedding : WorkspaceDb String where
  events := Table.empty.upsert ⟨1, 7, "wedding", 738000, "Rwanda"⟩
  stages := Table.empty.upsert
    ⟨5, 1, none, "Civil Marriage", "civil-marriage", "", "not_started", 3⟩
  rows := Table.empty
  activity := []

theorem newWedding_sound : newWedding.Sound := ⟨List.forall_mem_nil _, by decide⟩

/-- One vendor. -/
def photographer (status : VendorStatus) : VendorProfiles where
  find id := if id = 9 then some ⟨status, "Photographer"⟩ else none
  find_nil := if_neg (by decide)

/-- A new requirement that names the vendor. -/
def photographerTurn (status : VendorStatus) : WorkspaceTurn where
  user := 7
  isPlanner := true
  vendors := photographer status
  fresh_id := 20
  request := .create .vendorRequirement 1 (.entries [
    ("stage", .text "00000000-0000-0000-0000-000000000005"),
    ("title", .text "Find a photography vendor"),
    ("assigned_vendor", .text "00000000-0000-0000-0000-000000000009")])

theorem approved_photographer_lawful :
    AllLawful titleSerializers newWedding [photographerTurn .approved] := by
  refine workspace_runs_lawful titleSerializers newWedding_sound ⟨?_, trivial⟩
  intro _ _ vendor_id vendor _ hvendor
  simp only [photographerTurn, photographer] at hvendor
  split at hvendor
  · exact Option.some.inj hvendor ▸ rfl
  · cases hvendor

/-- A vendor that is not approved is assigned to a new requirement. -/
theorem draft_photographer_assigned :
    ¬AllLawful titleSerializers newWedding [photographerTurn .draft] := by
  rintro ⟨hlawful, -⟩
  have hrow : (⟨.vendorRequirement, 20, 1, some 5, some 9, "Find a photography vendor"⟩ :
      WorkspaceRow String) ∈
        (newWedding.respond titleSerializers (photographerTurn .draft)).2.rows.rows := by
    decide +kernel
  rcases hlawful.approved _ hrow 9 rfl with ⟨old, hold, -⟩ | ⟨vendor, hvendor, hstatus⟩
  · cases hold
  · obtain rfl := Option.some.inj hvendor
    cases hstatus

end Linkapro.Events
