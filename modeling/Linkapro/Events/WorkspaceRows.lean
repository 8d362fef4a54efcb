import Linkapro.Events.Generation
import Linkapro.Payments.HmacRequests
import Linkapro.Uuids
import Linkapro.Vendors.Profile

/-!
# Rows of an event workspace and their serializers

Six models share their views. A row belongs to an event and, unless its column is empty, to a
stage. The serializers read the stage and the vendor of a row as keys of any stage and of any
vendor. What they make of the other fields of the data is a parameter.
-/

namespace Linkapro.Events

open Lib (Table)
open Vendors (VendorStatus)

/-! ### Data of a request -/

/-- A value in the data of a request. -/
inductive Datum : Type where
  | null
  | bool (value : Bool)
  | int (value : ℤ)
  | text (value : String)
  /-- A float, a list, a dictionary or a file. -/
  | other (truthy : Bool)
deriving DecidableEq, Repr

namespace Datum

/-- `bool(value)`. -/
def isTruthy : Datum → Bool
  | null => false
  | bool value => value
  | int value => value ≠ 0
  | text value => value ≠ ""
  | other truthy => truthy

def isBool : Datum → Bool
  | bool _ => true
  | _ => false

/-- `UUIDField.to_python` of a value that is not `None`, with `none` for `ValidationError`. -/
def to_python : Datum → Option UUID
  | null => none
  | bool value => some (if value then 1 else 0)
  | int value => if 0 ≤ value ∧ value < 2 ^ 128 then some (BitVec.ofInt 128 value) else none
  | text value => uuidOf value
  | other _ => none

end Datum

/-- The keys of a JSON object, or of a form with their last values. -/
abbrev Entries : Type := List (String × Datum)

/-- `request.data`. -/
inductive RequestData : Type where
  | entries (entries : Entries)
  /-- Another JSON value, with `"stage" in value` unless that raises. -/
  | other (containsStage : Option Bool)

/-! ### Models -/

inductive WorkspaceModel : Type where
  | task
  | budgetItem
  | vendorRequirement
  | questionAnswer
  | timelineItem
  | document
deriving DecidableEq, Repr

namespace WorkspaceModel

/-- `model._meta.model_name`. -/
def model_name : WorkspaceModel → String
  | task => "eventtask"
  | budgetItem => "eventbudgetitem"
  | vendorRequirement => "eventvendorrequirement"
  | questionAnswer => "eventquestionanswer"
  | timelineItem => "eventtimelineitem"
  | document => "eventdocument"

/-- The column `stage` takes `NULL`. -/
def nullStage : WorkspaceModel → Bool
  | timelineItem | document => true
  | _ => false

/-- The model has a field `status`. -/
def hasStatus : WorkspaceModel → Bool
  | questionAnswer | document => false
  | _ => true

end WorkspaceModel

/-- A row of one of the models; `κ` holds the columns that only its serializer reads. -/
structure WorkspaceRow (κ : Type) : Type where
  model : WorkspaceModel
  id : UUID
  event_id : UUID
  stage_id : Option UUID
  assigned_vendor : Option UUID
  columns : κ
deriving DecidableEq, Repr

/-- A row of `EventActivityLog`. -/
structure ActivityRow : Type where
  event_id : UUID
  actor_id : UUID
  action : String
  entity_type : String
  entity_id : UUID
  details : List (String × String)
deriving DecidableEq, Repr

/-- The columns of `VendorProfile` that a requirement reads. -/
structure AssignableVendor : Type where
  status : VendorStatus
  business_name : String

/-- The vendor profiles. `uuid4` never gives the nil id. -/
structure VendorProfiles : Type where
  find : UUID → Option AssignableVendor
  find_nil : find 0 = none

/-! ### Serializers -/

inductive FieldError : Type where
  | required
  | null
  | incorrectType
  | doesNotExist
  | invalid
deriving DecidableEq, Repr

/-- `serializer.errors`. -/
abbrev SerializerErrors : Type := List (String × FieldError)

/-- `PrimaryKeyRelatedField.to_internal_value(value)` over the keys of a table. -/
def relatedKey (known : UUID → Bool) (value : Datum) : Except FieldError UUID :=
  if value.isBool then .error .incorrectType
  else
    match value.to_python with
    | none => .error .invalid
    | some id => if known id then .ok id else .error .doesNotExist

/-- `PrimaryKeyRelatedField.run_validation(value)`. -/
def relatedField (allow_null : Bool) (known : UUID → Bool) (value : Datum) :
    Except FieldError (Option UUID) :=
  if value = .null ∨ value = .text "" then if allow_null then .ok none else .error .null
  else some <$> relatedKey known value

/-- The value of a foreign key. An update keeps the `current` value of a key that is not given. -/
def foreignKey (allow_null : Bool) (known : UUID → Bool) (current : Option (Option UUID)) :
    Option Datum → Except FieldError (Option UUID)
  | some value => relatedField allow_null known value
  | none =>
    match current with
    | some value => .ok value
    | none => if allow_null then .ok none else .error .required

/-- The fields of a stage that `EventStageSerializer` writes, where they are given. -/
structure StageChanges : Type where
  name : Option String
  description : Option String
  status : Option String

/-- What the serializers make of the other fields, and the order of the rows of a query. -/
structure WorkspaceSerializers (κ : Type) : Type where
  create : WorkspaceModel → Entries → Except SerializerErrors κ
  update : WorkspaceModel → κ → Entries → Except SerializerErrors κ
  updateStage : Entries → Except SerializerErrors StageChanges
  /-- The value of the column `status`. -/
  status : κ → String
  /-- `Meta.ordering`. -/
  before : WorkspaceModel → List EventStage → WorkspaceRow κ → WorkspaceRow κ → Bool

/-- The errors of a field. -/
def fieldErrors {α : Type} (field : String) : Except FieldError α → SerializerErrors
  | .ok _ => []
  | .error error => [(field, error)]

/-- The validated data of a row. -/
structure ValidatedRow (κ : Type) : Type where
  stage_id : Option UUID
  assigned_vendor : Option UUID
  columns : κ

/-- The data are valid when all their fields are. -/
def validated {κ : Type} (stage_id assigned_vendor : Except FieldError (Option UUID))
    (columns : Except SerializerErrors κ) : Except SerializerErrors (ValidatedRow κ) :=
  match stage_id, assigned_vendor, columns with
  | .ok stage_id, .ok assigned_vendor, .ok columns => .ok ⟨stage_id, assigned_vendor, columns⟩
  | stage_id, assigned_vendor, columns =>
    .error (fieldErrors "stage" stage_id ++ fieldErrors "assigned_vendor" assigned_vendor ++
      match columns with
      | .ok _ => []
      | .error errors => errors)

/-- The stage that a serializer gives a row. The answers have it read-only. -/
def stageOf (model : WorkspaceModel) (known : UUID → Bool) (current : Option (Option UUID))
    (entries : Entries) : Except FieldError (Option UUID) :=
  if model = .questionAnswer then .ok (current.getD none)
  else foreignKey model.nullStage known current (entries.lookup "stage")

/-- The vendor that a serializer gives a row. Only the requirements have one. -/
def vendorOf (model : WorkspaceModel) (vendors : VendorProfiles) (current : Option (Option UUID))
    (entries : Entries) : Except FieldError (Option UUID) :=
  if model = .vendorRequirement then
    foreignKey true (fun id => (vendors.find id).isSome) current (entries.lookup "assigned_vendor")
  else .ok none

/-! ### What a serializer accepts -/

section Accepted

variable {κ : Type} {allow_null : Bool} {known : UUID → Bool} {value : Datum} {id : UUID}

theorem validated_eq_ok_iff {stage_id assigned_vendor : Except FieldError (Option UUID)}
    {columns : Except SerializerErrors κ} {row : ValidatedRow κ} :
    validated stage_id assigned_vendor columns = .ok row ↔
      stage_id = .ok row.stage_id ∧ assigned_vendor = .ok row.assigned_vendor ∧
        columns = .ok row.columns := by
  obtain ⟨stage, vendor, values⟩ := row
  constructor
  · intro h
    unfold validated at h
    split at h
    · cases h
      exact ⟨rfl, rfl, rfl⟩
    · cases h
  · rintro ⟨rfl, rfl, rfl⟩
    rfl

theorem relatedKey_eq_ok (h : relatedKey known value = .ok id) :
    value.isBool = false ∧ value.to_python = some id ∧ known id = true := by
  rw [relatedKey] at h
  split at h
  · cases h
  · next hbool =>
    cases hpython : value.to_python with
    | none =>
      rw [hpython] at h
      cases h
    | some id' =>
      simp only [hpython] at h
      split at h
      · next hknown =>
        obtain rfl := Except.ok.inj h
        exact ⟨eq_false_of_ne_true hbool, rfl, hknown⟩
      · cases h

/-- An accepted key is that of the value, and a known one. -/
theorem relatedKey_of_relatedField (h : relatedField allow_null known value = .ok (some id)) :
    value ≠ .text "" ∧ relatedKey known value = .ok id := by
  rw [relatedField] at h
  split at h
  · split at h <;> cases h
  · next hgiven =>
    cases hkey : relatedKey known value with
    | error error =>
      rw [hkey] at h
      cases h
    | ok id' =>
      rw [hkey] at h
      obtain rfl := Option.some.inj (Except.ok.inj h)
      exact ⟨fun heq => hgiven (.inr heq), rfl⟩

/-- A value that is not truthy gives no key but the nil one. -/
theorem nil_of_relatedField (hfalsy : value.isTruthy = false)
    (h : relatedField allow_null known value = .ok (some id)) : id = 0 := by
  obtain ⟨htext, hkey⟩ := relatedKey_of_relatedField h
  obtain ⟨hbool, hpython, -⟩ := relatedKey_eq_ok hkey
  cases value with
  | null => cases hpython
  | bool value => cases hbool
  | int value =>
    have hzero : value = 0 := by simpa [Datum.isTruthy] using hfalsy
    rw [hzero] at hpython
    exact (Option.some.inj hpython).symm
  | text value =>
    have hempty : value = "" := by simpa [Datum.isTruthy] using hfalsy
    exact absurd (congrArg Datum.text hempty) htext
  | other truthy => cases hpython

end Accepted

end Linkapro.Events
