import Linkapro.Vendors.Revalidation

/-!
# Inquiries

The `Inquiry` aggregate: its construction from arbitrary field values, its creation for a
new request, and its one operation.
-/

namespace Linkapro.Vendors

open Lib (Checked Stable)

/-- The arguments of the dataclass constructor. -/
structure InquiryArguments : Type where
  id : Value
  vendor_id : Value
  client_name : Value
  client_email : Value
  message : Value
  client_phone : Value := .none
  event_date : Value := .none
  is_read : Value := .bool false
  version : Value := .int 0
  created_at : Value
  requester_user_id : Value := .none

/-- An inquiry whose fields have passed their checks. -/
structure Inquiry : Type where
  id : UUID
  vendor_id : UUID
  client_name : String
  client_email : String
  message : String
  client_phone : Option String
  event_date : Option Date
  is_read : Bool
  version : ℕ
  created_at : Datetime
  requester_user_id : Option UUID
deriving DecidableEq, Repr

/-- The fields of an inquiry as constructor arguments, as `dataclasses.replace` passes them. -/
def Inquiry.arguments (self : Inquiry) : InquiryArguments where
  id := .uuid self.id
  vendor_id := .uuid self.vendor_id
  client_name := .text self.client_name
  client_email := .text self.client_email
  message := .text self.message
  client_phone := .ofText self.client_phone
  event_date := .ofDate self.event_date
  is_read := .bool self.is_read
  version := .int self.version
  created_at := .datetime self.created_at
  requester_user_id := .ofUuid self.requester_user_id

inductive InquiryEvent : Type where
  | InquiryReceived (inquiry_id vendor_id : UUID)
  | InquiryRead (inquiry_id vendor_id : UUID)
deriving DecidableEq, Repr

/-- The code of `InquiryValidationError`. -/
def inquiryInvalid : String := "inquiry_invalid"

/-- The check of `requester_user_id`: a missing one stays, and the zero UUID is refused. -/
def _normalize_requester (library : TextLibrary) : Value → Checked FieldError (Option UUID)
  | .none => .valid none
  | value => (some <$> _normalize_uuid library "requester_user_id" value).ensure fun id =>
    complain (id = some 0) "requester_user_id" "Enter a valid UUID."

theorem stable_normalize_requester {library : TextLibrary} :
    Stable Value.ofUuid (_normalize_requester library) := by
  intro value requester h
  cases requester with
  | none => rfl
  | some id =>
    have hrule : complain (some id = some (0 : UUID)) "requester_user_id" "Enter a valid UUID." =
        [] := by
      cases value with
      | none => cases h
      | _ =>
        simp only [_normalize_requester, Checked.ensure_eq_valid_iff] at h
        exact h.2
    simp only [Value.ofUuid, _normalize_requester, Checked.ensure_eq_valid_iff]
    exact ⟨rfl, hrule⟩

namespace Inquiry

variable (library : TextLibrary)

/-- The checks of the single fields. -/
def checkedFields (arguments : InquiryArguments) : Checked FieldError Inquiry :=
  Inquiry.mk
    <$> _normalize_uuid library "id" arguments.id
    <*> _normalize_uuid library "vendor_id" arguments.vendor_id
    <*> _normalize_text library "client_name" TEXT_LIMITS.client_name 1 arguments.client_name
    <*> _normalize_email library "client_email" arguments.client_email
    <*> _normalize_text library "message" TEXT_LIMITS.message MIN_INQUIRY_MESSAGE_LENGTH
      arguments.message
    <*> _normalize_optional_phone library "client_phone" arguments.client_phone
    <*> _normalize_event_date "event_date" arguments.event_date
    <*> _normalize_bool "is_read" arguments.is_read
    <*> _normalize_version arguments.version
    <*> _normalize_required_datetime "created_at" arguments.created_at
    <*> _normalize_requester library arguments.requester_user_id

/-- The constructor: the dataclass fields, then `validate_invariants`. -/
def construct (arguments : InquiryArguments) : Except Raised Inquiry :=
  (checkedFields library arguments).toExcept (Raised.invalid inquiryInvalid)

end Inquiry

/-- Every field of a constructed inquiry is the accepted form of its argument. -/
structure InquiryArguments.Yield (library : TextLibrary) (arguments : InquiryArguments) (inquiry :
    Inquiry) : Prop where
  id : _normalize_uuid library "id" arguments.id = .valid inquiry.id
  vendor_id : _normalize_uuid library "vendor_id" arguments.vendor_id = .valid inquiry.vendor_id
  client_name : _normalize_text library "client_name" TEXT_LIMITS.client_name 1
    arguments.client_name = .valid inquiry.client_name
  client_email : _normalize_email library "client_email" arguments.client_email = .valid
    inquiry.client_email
  message : _normalize_text library "message" TEXT_LIMITS.message MIN_INQUIRY_MESSAGE_LENGTH
    arguments.message = .valid inquiry.message
  client_phone : _normalize_optional_phone library "client_phone" arguments.client_phone = .valid
    inquiry.client_phone
  event_date : _normalize_event_date "event_date" arguments.event_date = .valid inquiry.event_date
  is_read : _normalize_bool "is_read" arguments.is_read = .valid inquiry.is_read
  version : _normalize_version arguments.version = .valid inquiry.version
  created_at : _normalize_required_datetime "created_at" arguments.created_at = .valid
    inquiry.created_at
  requester_user_id : _normalize_requester library arguments.requester_user_id = .valid
    inquiry.requester_user_id

namespace Inquiry

variable (library : TextLibrary)

variable {library} in
theorem construct_eq_ok_iff {arguments : InquiryArguments} {inquiry : Inquiry} :
    construct library arguments = .ok inquiry ↔ arguments.Yield library inquiry := by
  rw [construct, Checked.toExcept_eq_ok_iff, checkedFields, Checked.eq_valid_iff_gives]
  simp only [Checked.gives_seq, Checked.gives_map]
  constructor
  · intro hfields
    obtain ⟨_, hid, _, hvendor_id, _, hclient_name, _, hclient_email, _, hmessage,
      _, hclient_phone, _, hevent_date, _, his_read, _, hversion, _, hcreated_at,
      _, hrequester_user_id, hinquiry⟩ := hfields
    subst hinquiry
    exact ⟨hid, hvendor_id, hclient_name, hclient_email, hmessage, hclient_phone, hevent_date,
      his_read, hversion, hcreated_at, hrequester_user_id⟩
  · intro h
    exact ⟨_, h.id, _, h.vendor_id, _, h.client_name, _, h.client_email, _, h.message,
      _, h.client_phone, _, h.event_date, _, h.is_read, _, h.version, _, h.created_at,
      _, h.requester_user_id, rfl⟩

-- What a construction gives is read off `construct_eq_ok_iff` from here on.
attribute [irreducible] construct

/-- `self.validate_invariants()`: the fields are checked as they stand, and normalised. -/
def validate_invariants (self : Inquiry) : Except Raised Inquiry :=
  construct library self.arguments

/-- An inquiry that construction has accepted passes its validation when its e-mail address
passes its check again, and nothing but the address may change. An address is put into lower
case after its length has been checked, so that it need not pass. -/
theorem validate_of_construct {library : TextLibrary} (hlibrary : library.Documented)
    {arguments : InquiryArguments} {inquiry : Inquiry}
    (h : construct library arguments = .ok inquiry) {email : String}
    (hemail : validate_email library (.text inquiry.client_email) = .ok email) :
    inquiry.validate_invariants library = .ok { inquiry with client_email := email } := by
  have h := construct_eq_ok_iff.mp h
  exact construct_eq_ok_iff.mpr {
    id := stable_normalize_uuid _ h.id
    vendor_id := stable_normalize_uuid _ h.vendor_id
    client_name := stable_normalize_text hlibrary _ _ _ h.client_name
    client_email := underField_eq_valid_iff.mpr hemail
    message := stable_normalize_text hlibrary _ _ _ h.message
    client_phone := stable_normalize_optional_phone hlibrary _ h.client_phone
    event_date := stable_normalize_event_date _ h.event_date
    is_read := stable_normalize_bool _ h.is_read
    version := stable_normalize_version h.version
    created_at := stable_normalize_required_datetime _ h.created_at
    requester_user_id := stable_normalize_requester h.requester_user_id }

/-- A constructed inquiry that has passed its validation passes every later one. -/
theorem validate_of_validate {library : TextLibrary} (hlibrary : library.Documented)
    {arguments : InquiryArguments} {inquiry entity : Inquiry}
    (hconstruct : construct library arguments = .ok inquiry)
    (hvalid : inquiry.validate_invariants library = .ok entity) :
    entity.validate_invariants library = .ok entity := by
  have hfirst := (construct_eq_ok_iff.mp hconstruct).client_email
  have hsecond := (construct_eq_ok_iff.mp hvalid).client_email
  exact validate_of_construct hlibrary hvalid (validate_email_again hlibrary
    (underField_eq_valid_iff.mp hfirst) (underField_eq_valid_iff.mp hsecond))

/-- The version takes no part in the validation. -/
theorem validate_setVersion {library : TextLibrary} {inquiry : Inquiry}
    (h : inquiry.validate_invariants library = .ok inquiry) (version : ℕ) :
    validate_invariants library { inquiry with version } = .ok { inquiry with version } :=
  construct_eq_ok_iff.mpr
    { construct_eq_ok_iff.mp h with version := _normalize_version_int version }

/-- An inquiry as `_commit_candidate` handles it. -/
def kind : EntityKind Inquiry where
  validate_invariants := validate_invariants library
  version := Inquiry.version
  setVersion self version := { self with version }
  version_setVersion _ _ := rfl

/-- What a client sends with a new inquiry. -/
structure Request : Type where
  client_name : Value
  client_email : Value
  message : Value
  client_phone : Value := .none
  event_date : Value := .none
deriving DecidableEq, Repr

/-- `Inquiry.create`, with the new identifier, the day and the instant it reads. -/
def create (id : UUID) (today : Date) (now : Datetime) (event_id : UUID)
    (vendor_id requester_user_id : Value) (request : Request) :
    Except Raised (Aggregate Inquiry InquiryEvent) := do
  match normalize_event_date request.event_date >>= validate_new_event_date_bounds today with
  | .error message => throw (.invalid inquiryInvalid [("event_date", message)])
  | .ok checked_event_date =>
    let inquiry ← construct library {
      id := .uuid id
      vendor_id
      client_name := request.client_name
      client_email := request.client_email
      message := request.message
      requester_user_id
      client_phone := request.client_phone
      event_date := .ofDate checked_event_date
      created_at := .datetime now }
    return {
      entity := inquiry
      events := [{
        event_id
        occurred_at := inquiry.created_at
        aggregate_id := inquiry.id
        aggregate_version := inquiry.version
        content := .InquiryReceived inquiry.id inquiry.vendor_id }] }

def mark_read (reading : Reading) : Operation Inquiry InquiryEvent := fun self => do
  if self.is_read then
    return .unchanged
  let candidate ← construct library { self.arguments with is_read := .bool true }
  return .commit candidate (some fun version => {
    event_id := reading.event_id
    occurred_at := reading.now
    aggregate_id := self.id
    aggregate_version := version
    content := .InquiryRead self.id self.vendor_id })

end Inquiry

/-- A call of the one domain operation of an inquiry. -/
inductive InquiryOperation : Type where
  | mark_read
deriving DecidableEq, Repr

/-- The operation a call runs. -/
def InquiryOperation.run (library : TextLibrary) (reading : Reading) :
    InquiryOperation → Operation Inquiry InquiryEvent
  | mark_read => Inquiry.mark_read library reading

/-- One call in a run of an inquiry. -/
abbrev InquiryCall : Type := Performed InquiryOperation Inquiry InquiryEvent

/-- The calls of a run on an inquiry object, in order. -/
def inquiryHistory (library : TextLibrary) (self : Aggregate Inquiry InquiryEvent)
    (calls : List (InquiryOperation × Reading)) : List InquiryCall :=
  self.history (Inquiry.kind library) (fun reading => InquiryOperation.run library reading) calls

end Linkapro.Vendors
