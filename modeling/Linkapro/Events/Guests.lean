import Linkapro.Events.Templates

/-!
# Guests of an event

A guest entry is stored as a row with plain texts. `_to_domain` rebuilds the entity of a row,
which raises when a text is no member of its enumeration or the name is blank. The
serializers check lengths and the RSVP status; the dietary restrictions reach the handlers
as any texts.
-/

namespace Linkapro.Events

open Lib (ok_bind exists_mapM_ok_iff exists_of_mapM_error)

/-- What the code of the event planning raises. -/
inductive Raised : Type where
  /-- `ValueError` of an enumeration that has no member with the text. -/
  | notAMember (enumeration text : String)
  | invalidGuestEntry (message : String)
  | guestNotFound (message : String)
  | invalidTimelineRange (message : String)
  /-- `Event.DoesNotExist`. -/
  | eventDoesNotExist
  /-- A row that its columns do not take. -/
  | dataError
deriving DecidableEq, Repr

/-- The member of an enumeration of texts with the given value. -/
def memberOf {α : Type} (enumeration : String) (members : List α) (value : α → String)
    (text : String) : Except Raised α :=
  match members.find? fun member => value member = text with
  | some member => .ok member
  | none => .error (.notAMember enumeration text)

/-! ### `domain/events/guests` -/

inductive RSVPStatus : Type where
  | pending
  | accepted
  | declined
  | maybe
deriving DecidableEq, Repr

def RSVPStatus.members : List RSVPStatus := [pending, accepted, declined, maybe]

def RSVPStatus.value : RSVPStatus → String
  | pending => "pending"
  | accepted => "accepted"
  | declined => "declined"
  | maybe => "maybe"

/-- `RSVPStatus(text)`. -/
def RSVPStatus.ofValue : String → Except Raised RSVPStatus := memberOf "RSVPStatus" members value

inductive DietaryRestriction : Type where
  | none
  | vegetarian
  | vegan
  | gluten_free
  | halal
  | kosher
  | other
deriving DecidableEq, Repr

def DietaryRestriction.members : List DietaryRestriction :=
  [none, vegetarian, vegan, gluten_free, halal, kosher, other]

def DietaryRestriction.value : DietaryRestriction → String
  | none => "none"
  | vegetarian => "vegetarian"
  | vegan => "vegan"
  | gluten_free => "gluten_free"
  | halal => "halal"
  | kosher => "kosher"
  | other => "other"

/-- `DietaryRestriction(text)`. -/
def DietaryRestriction.ofValue : String → Except Raised DietaryRestriction :=
  memberOf "DietaryRestriction" members value

/-- A guest entry; its name has passed `_validate_full_name`. -/
structure GuestEntry : Type where
  id : UUID
  event_id : UUID
  full_name : String
  email : Option String
  phone : Option String
  rsvp_status : RSVPStatus
  dietary_restrictions : List DietaryRestriction
  plus_one : Bool
  table_assignment : Option String
  notes : Option String
  created_at : Datetime
  updated_at : Datetime
  named : isBlank full_name = false

/-- A name that `_validate_full_name` has passed. -/
def validate_full_name (full_name : String) :
    Except Raised {name : String // name = full_name ∧ isBlank name = false} :=
  if h : isBlank full_name = false then .ok ⟨full_name, rfl, h⟩
  else .error (.invalidGuestEntry "Guest full name must not be blank")

/-- The guest under the name that is given. -/
def GuestEntry.renamed (guest : GuestEntry) : Option String → Except Raised GuestEntry
  | none => .ok guest
  | some full_name => do
    let ⟨full_name, _, named⟩ ← validate_full_name full_name
    return { guest with full_name, named }

/-- `guest.update_contact(full_name, email, phone)`. -/
def GuestEntry.update_contact (guest : GuestEntry) (now : Datetime)
    (full_name email phone : Option String) : Except Raised GuestEntry := do
  let guest ← guest.renamed full_name
  let guest := { guest with email := email.or guest.email, phone := phone.or guest.phone }
  if full_name.isSome ∨ email.isSome ∨ phone.isSome then
    return { guest with updated_at := now }
  return guest

/-! ### `interface/events/models.py` -/

/-- A row of `GuestEntry`. -/
structure GuestRow : Type where
  id : UUID
  event_id : UUID
  full_name : String
  email : Option String
  phone : Option String
  rsvp_status : String
  dietary_restrictions : List String
  plus_one : Bool
  table_assignment : Option String
  notes : Option String
  created_at : Datetime
  updated_at : Datetime
deriving DecidableEq, Repr

/-- The columns take the row. -/
def GuestRow.fits (row : GuestRow) : Bool :=
  charField 200 row.full_name ∧ row.email.all (charField emailLength) ∧
  row.phone.all (charField 30) ∧ charField 20 row.rsvp_status ∧
  row.table_assignment.all (charField 50) ∧ row.notes.all nulFree

/-! ### `DjangoGuestEntryRepository` -/

/-- `_to_domain(row)`. -/
def GuestRow.to_domain (row : GuestRow) : Except Raised GuestEntry := do
  let restrictions ← row.dietary_restrictions.mapM DietaryRestriction.ofValue
  let rsvp_status ← RSVPStatus.ofValue row.rsvp_status
  let ⟨full_name, _, named⟩ ← validate_full_name row.full_name
  return {
    id := row.id
    event_id := row.event_id
    full_name
    email := row.email
    phone := row.phone
    rsvp_status
    dietary_restrictions := restrictions
    plus_one := row.plus_one
    table_assignment := row.table_assignment
    notes := row.notes
    created_at := row.created_at
    updated_at := row.updated_at
    named }

/-- The row that `save` writes for an entity, over the stored row if there is one. -/
def GuestEntry.row (guest : GuestEntry) (now : Datetime) (stored : Option GuestRow) : GuestRow where
  id := guest.id
  event_id := guest.event_id
  full_name := guest.full_name
  email := guest.email
  phone := guest.phone
  rsvp_status := guest.rsvp_status.value
  dietary_restrictions := guest.dietary_restrictions.map DietaryRestriction.value
  plus_one := guest.plus_one
  table_assignment := guest.table_assignment
  notes := guest.notes
  created_at := (stored.map GuestRow.created_at).getD now
  updated_at := now

/-! ### `interface/events/serializers.py` and `application/events/guests` -/

/-- The validated data of an `AddGuestSerializer`. -/
structure AddGuestData : Type where
  full_name : String
  email : Option String
  phone : Option String
  dietary_restrictions : List String
  plus_one : Bool
  notes : Option String
  named : isBlank full_name = false
  full_name_fits : charField 200 full_name = true
  email_clean : email.all nulFree = true
  phone_fits : phone.all (charField 30) = true
  notes_clean : notes.all nulFree = true

/-- The validated data of an `UpdateGuestSerializer`. A field that is absent or null is `none`
for the command. -/
structure UpdateGuestData : Type where
  full_name : Option String
  email : Option String
  phone : Option String
  rsvp_status : Option String
  dietary_restrictions : Option (List String)
  plus_one : Option Bool
  table_assignment : Option String
  notes : Option String
  named : ∀ name ∈ full_name, isBlank name = false
  full_name_fits : full_name.all (charField 200) = true
  email_clean : email.all nulFree = true
  phone_fits : phone.all (charField 30) = true
  rsvp_choice : ∀ status ∈ rsvp_status, status ∈ ["pending", "accepted", "declined", "maybe"]
  table_fits : table_assignment.all (charField 50) = true
  notes_clean : notes.all nulFree = true

/-- A clock reading and the value of `uuid4()`. -/
structure Reading : Type where
  now : Datetime
  id : UUID

/-- The entity that `add_guest` saves. -/
def AddGuestData.guest (data : AddGuestData) (reading : Reading) (event_id : UUID) :
    Except Raised GuestEntry := do
  let restrictions ← data.dietary_restrictions.mapM DietaryRestriction.ofValue
  let ⟨full_name, _, named⟩ ← validate_full_name data.full_name
  return {
    id := reading.id
    event_id
    full_name
    email := data.email
    phone := data.phone
    rsvp_status := .pending
    dietary_restrictions := restrictions
    plus_one := data.plus_one
    table_assignment := none
    notes := data.notes
    created_at := reading.now
    updated_at := reading.now
    named }

/-- The current value, or what is read of a given one. -/
def orRead {α β : Type} (read : β → Except Raised α) (current : α) : Option β → Except Raised α
  | none => .ok current
  | some given => read given

/-- The entity that `update_guest` saves for the stored one. -/
def UpdateGuestData.apply (data : UpdateGuestData) (now : Datetime) (guest : GuestEntry) :
    Except Raised GuestEntry := do
  let guest ← guest.update_contact now data.full_name data.email data.phone
  let rsvp_status ← orRead RSVPStatus.ofValue guest.rsvp_status data.rsvp_status
  let dietary_restrictions ← orRead (·.mapM DietaryRestriction.ofValue)
    guest.dietary_restrictions data.dietary_restrictions
  return { guest with
    rsvp_status
    dietary_restrictions
    plus_one := data.plus_one.getD guest.plus_one
    table_assignment := data.table_assignment.or guest.table_assignment
    notes := data.notes.or guest.notes }

/-- A `GuestEntryDTO`. -/
structure GuestEntryDTO : Type where
  id : UUID
  event_id : UUID
  full_name : String
  email : Option String
  phone : Option String
  rsvp_status : String
  dietary_restrictions : List String
  plus_one : Bool
  table_assignment : Option String
  notes : Option String
deriving DecidableEq, Repr

/-- `to_guest_dto(guest)`. -/
def to_guest_dto (guest : GuestEntry) : GuestEntryDTO where
  id := guest.id
  event_id := guest.event_id
  full_name := guest.full_name
  email := guest.email
  phone := guest.phone
  rsvp_status := guest.rsvp_status.value
  dietary_restrictions := guest.dietary_restrictions.map DietaryRestriction.value
  plus_one := guest.plus_one
  table_assignment := guest.table_assignment
  notes := guest.notes

/-! ### Enumerations -/

section Members

variable {α : Type} {enumeration text : String} {members : List α} {value : α → String}

theorem exists_memberOf_iff :
    (∃ member, memberOf enumeration members value text = .ok member) ↔
      text ∈ members.map value := by
  rw [memberOf]
  cases hfind : members.find? fun member => decide (value member = text) with
  | none =>
    constructor
    · rintro ⟨member, h⟩
      cases h
    · intro hmem
      obtain ⟨member, hmember, hvalue⟩ := List.mem_map.mp hmem
      have hnot := List.find?_eq_none.mp hfind member hmember
      exact absurd (decide_eq_true hvalue) hnot
  | some member =>
    have hsome := List.find?_some hfind
    have hvalue : value member = text := of_decide_eq_true hsome
    constructor
    · intro _
      exact hvalue ▸ List.mem_map_of_mem (List.mem_of_find?_eq_some hfind)
    · intro _
      exact ⟨member, rfl⟩

theorem eq_of_memberOf_error {raised : Raised}
    (h : memberOf enumeration members value text = .error raised) :
    raised = .notAMember enumeration text := by
  rw [memberOf] at h
  split at h
  · cases h
  · exact (Except.error.inj h).symm

theorem mapM_map_value {ofValue : String → Except Raised α}
    (h : ∀ member, ofValue (value member) = .ok member) (members : List α) :
    (members.map value).mapM ofValue = .ok members := by
  induction members with
  | nil => rfl
  | cons member members ih =>
    rw [List.map_cons, List.mapM_cons, h, ih]
    rfl

end Members

theorem RSVPStatus.ofValue_value (status : RSVPStatus) : ofValue status.value = .ok status := by
  cases status <;> rfl

theorem DietaryRestriction.ofValue_value (restriction : DietaryRestriction) :
    ofValue restriction.value = .ok restriction := by
  cases restriction <;> rfl

/-- The texts of all dietary restrictions. -/
def DietaryRestriction.values : List String := members.map value

/-- The texts are dietary restrictions. -/
def KnownRestrictions (texts : List String) : Prop :=
  ∀ text ∈ texts, text ∈ DietaryRestriction.values

theorem DietaryRestriction.exists_mapM_ofValue_iff {texts : List String} :
    (∃ restrictions, texts.mapM ofValue = .ok restrictions) ↔ KnownRestrictions texts := by
  rw [exists_mapM_ok_iff]
  exact forall₂_congr fun _ _ => exists_memberOf_iff

theorem validate_full_name_of_named {full_name : String} (h : isBlank full_name = false) :
    validate_full_name full_name = .ok ⟨full_name, rfl, h⟩ := dif_pos h

/-! ### Rows of entities -/

/-- The row of an entity is rebuilt, whatever it was written over. -/
theorem GuestEntry.to_domain_row (guest : GuestEntry) (now : Datetime)
    (stored : Option GuestRow) : ∃ rebuilt, (guest.row now stored).to_domain = .ok rebuilt := by
  rw [GuestRow.to_domain]
  simp only [GuestEntry.row, mapM_map_value DietaryRestriction.ofValue_value,
    RSVPStatus.ofValue_value, validate_full_name_of_named guest.named]
  exact ⟨_, rfl⟩

/-- The texts of a new guest are members of their enumerations. -/
theorem AddGuestData.exists_guest_iff {data : AddGuestData} {reading : Reading} {event_id : UUID} :
    (∃ guest, data.guest reading event_id = .ok guest) ↔
      KnownRestrictions data.dietary_restrictions := by
  rw [← DietaryRestriction.exists_mapM_ofValue_iff]
  simp only [AddGuestData.guest, validate_full_name_of_named data.named]
  cases data.dietary_restrictions.mapM DietaryRestriction.ofValue with
  | error raised =>
    constructor
    · rintro ⟨guest, h⟩
      cases h
    · rintro ⟨restrictions, h⟩
      cases h
  | ok restrictions => exact ⟨fun _ => ⟨_, rfl⟩, fun _ => ⟨_, rfl⟩⟩

variable {now : Datetime} {guest guest' : GuestEntry}

theorem GuestEntry.exists_update_contact (guest : GuestEntry) (now : Datetime)
    {full_name : Option String} (email phone : Option String)
    (h : ∀ name ∈ full_name, isBlank name = false) :
    ∃ updated, guest.update_contact now full_name email phone = .ok updated ∧
      updated.id = guest.id ∧ updated.event_id = guest.event_id ∧
      updated.full_name = full_name.getD guest.full_name ∧
      updated.email = email.or guest.email ∧ updated.phone = phone.or guest.phone ∧
      updated.table_assignment = guest.table_assignment ∧ updated.notes = guest.notes := by
  have hrenamed : ∃ named, guest.renamed full_name =
      .ok { guest with full_name := full_name.getD guest.full_name, named } := by
    cases full_name with
    | none => exact ⟨guest.named, rfl⟩
    | some name =>
      rw [renamed, validate_full_name_of_named (h name rfl)]
      exact ⟨h name rfl, rfl⟩
  obtain ⟨named, hok⟩ := hrenamed
  rw [update_contact, hok, ok_bind]
  split
  · exact ⟨_, rfl, rfl, rfl, rfl, rfl, rfl, rfl, rfl⟩
  · exact ⟨_, rfl, rfl, rfl, rfl, rfl, rfl, rfl, rfl⟩

/-- The fields of an updated guest. -/
structure UpdateGuestData.Applied (data : UpdateGuestData) (guest guest' : GuestEntry) : Prop where
  id : guest'.id = guest.id
  event_id : guest'.event_id = guest.event_id
  full_name : guest'.full_name = data.full_name.getD guest.full_name
  email : guest'.email = data.email.or guest.email
  phone : guest'.phone = data.phone.or guest.phone
  table_assignment : guest'.table_assignment = data.table_assignment.or guest.table_assignment
  notes : guest'.notes = data.notes.or guest.notes

/-- The first two steps of an update succeed, since the serializer has checked the name and the
status; the third one decides. -/
theorem UpdateGuestData.apply_cases (data : UpdateGuestData) (now : Datetime) (guest : GuestEntry) :
    (∃ guest', data.apply now guest = .ok guest' ∧ data.Applied guest guest' ∧
      ∀ texts ∈ data.dietary_restrictions, KnownRestrictions texts) ∨
    ((∃ text, data.apply now guest = .error (.notAMember "DietaryRestriction" text)) ∧
      ¬∀ texts ∈ data.dietary_restrictions, KnownRestrictions texts) := by
  obtain ⟨updated, hcontact, hid, hevent, hname, hemail, hphone, htable, hnotes⟩ :=
    guest.exists_update_contact now data.email data.phone data.named
  obtain ⟨status, hstatus⟩ : ∃ status,
      orRead RSVPStatus.ofValue updated.rsvp_status data.rsvp_status = .ok status := by
    cases hchoice : data.rsvp_status with
    | none => exact ⟨_, rfl⟩
    | some status => exact exists_memberOf_iff.mpr (data.rsvp_choice status hchoice)
  have hfields (restrictions : List DietaryRestriction) : data.Applied guest { updated with
      rsvp_status := status
      dietary_restrictions := restrictions
      plus_one := data.plus_one.getD updated.plus_one
      table_assignment := data.table_assignment.or updated.table_assignment
      notes := data.notes.or updated.notes } := by
    constructor
    · exact hid
    · exact hevent
    · exact hname
    · exact hemail
    · exact hphone
    · rw [htable]
    · rw [hnotes]
  unfold apply
  rw [hcontact, ok_bind, hstatus, ok_bind]
  cases hgiven : data.dietary_restrictions with
  | none => exact .inl ⟨_, rfl, hfields _, fun _ h => by cases h⟩
  | some texts =>
    cases hread : texts.mapM DietaryRestriction.ofValue with
    | ok restrictions =>
      left
      refine ⟨_, by rw [orRead, hread]; rfl, hfields restrictions, ?_⟩
      rintro _ ⟨⟩
      exact DietaryRestriction.exists_mapM_ofValue_iff.mp ⟨restrictions, hread⟩
    | error raised =>
      right
      obtain ⟨text, -, htext⟩ := exists_of_mapM_error hread
      obtain rfl := eq_of_memberOf_error htext
      refine ⟨⟨text, by rw [orRead, hread]; rfl⟩, fun hall => ?_⟩
      obtain ⟨restrictions, hok⟩ :=
        DietaryRestriction.exists_mapM_ofValue_iff.mpr (hall texts rfl)
      rw [hread] at hok
      cases hok

/-! ### Columns -/

variable {row : GuestRow} {stored : Option GuestRow}

/-- The columns take the texts of the guest, apart from the length of the e-mail address. -/
structure GuestEntry.Storable (guest : GuestEntry) : Prop where
  full_name : charField 200 guest.full_name = true
  email : guest.email.all nulFree = true
  phone : guest.phone.all (charField 30) = true
  table_assignment : guest.table_assignment.all (charField 50) = true
  notes : guest.notes.all nulFree = true

/-- The column takes the e-mail address, if one is given. -/
def shortEmail (email : Option String) : Prop := ∀ text ∈ email, text.length ≤ emailLength

theorem all_charField_iff_shortEmail {email : Option String} (h : email.all nulFree = true) :
    email.all (charField emailLength) = true ↔ shortEmail email := by
  cases email with
  | none => exact ⟨fun _ _ hmem => (by cases hmem), fun _ => rfl⟩
  | some text =>
    constructor
    · rintro hfits _ ⟨⟩
      exact (charField_eq_true_iff.mp hfits).1
    · exact fun hshort => charField_eq_true_iff.mpr ⟨hshort text rfl, h⟩

theorem RSVPStatus.charField_value (status : RSVPStatus) : charField 20 status.value = true := by
  cases status <;> decide

theorem GuestEntry.Storable.row_fits_iff (h : guest.Storable) :
    (guest.row now stored).fits = true ↔ shortEmail guest.email := by
  rw [GuestRow.fits, decide_eq_true_eq, ← all_charField_iff_shortEmail h.email]
  constructor
  · rintro ⟨-, hemail, -⟩
    exact hemail
  · exact fun hemail => ⟨h.full_name, hemail, h.phone, guest.rsvp_status.charField_value,
      h.table_assignment, h.notes⟩

/-- The texts of a rebuilt guest are those of its row. -/
theorem GuestRow.texts_of_to_domain (h : row.to_domain = .ok guest) :
    guest.id = row.id ∧ guest.event_id = row.event_id ∧ guest.full_name = row.full_name ∧
      guest.email = row.email ∧ guest.phone = row.phone ∧
      guest.table_assignment = row.table_assignment ∧ guest.notes = row.notes := by
  rw [to_domain] at h
  cases hrestrictions : row.dietary_restrictions.mapM DietaryRestriction.ofValue with
  | error raised =>
    rw [hrestrictions] at h
    cases h
  | ok restrictions =>
    cases hstatus : RSVPStatus.ofValue row.rsvp_status with
    | error raised =>
      rw [hrestrictions, hstatus] at h
      cases h
    | ok status =>
      rw [hrestrictions, hstatus, ok_bind, ok_bind] at h
      by_cases hnamed : isBlank row.full_name = false
      · rw [validate_full_name_of_named hnamed] at h
        obtain rfl := Except.ok.inj h
        exact ⟨rfl, rfl, rfl, rfl, rfl, rfl, rfl⟩
      · rw [validate_full_name, dif_neg hnamed] at h
        cases h

/-- A stored guest is storable again. -/
theorem GuestRow.storable_of_to_domain (hfits : row.fits = true) (h : row.to_domain = .ok guest) :
    guest.Storable ∧ shortEmail guest.email := by
  obtain ⟨-, -, hname, hemail, hphone, htable, hnotes⟩ := texts_of_to_domain h
  rw [fits, decide_eq_true_eq, ← hname, ← hemail, ← hphone, ← htable, ← hnotes] at hfits
  obtain ⟨hname, hemail, hphone, -, htable, hnotes⟩ := hfits
  have hclean : guest.email.all nulFree = true := by
    cases hgiven : guest.email with
    | none => rfl
    | some text =>
      rw [hgiven] at hemail
      exact nulFree_of_charField hemail
  exact ⟨⟨hname, hclean, hphone, htable, hnotes⟩, (all_charField_iff_shortEmail hclean).mp hemail⟩

/-- A new guest is storable apart from its e-mail address. -/
theorem AddGuestData.storable {data : AddGuestData} {reading : Reading} {event_id : UUID}
    (h : data.guest reading event_id = .ok guest) :
    guest.Storable ∧ guest.event_id = event_id ∧ guest.email = data.email := by
  rw [AddGuestData.guest, validate_full_name_of_named data.named] at h
  cases hrestrictions : data.dietary_restrictions.mapM DietaryRestriction.ofValue with
  | error raised =>
    rw [hrestrictions] at h
    cases h
  | ok restrictions =>
    rw [hrestrictions] at h
    obtain rfl := Except.ok.inj h
    exact ⟨⟨data.full_name_fits, data.email_clean, data.phone_fits, rfl, data.notes_clean⟩,
      rfl, rfl⟩

theorem all_or {p : String → Bool} {given current : Option String} (hgiven : given.all p = true)
    (hcurrent : current.all p = true) : (given.or current).all p = true := by
  cases given with
  | none => exact hcurrent
  | some text => exact hgiven

/-- An updated guest is storable apart from a new e-mail address. -/
theorem UpdateGuestData.Applied.storable {data : UpdateGuestData} (h : data.Applied guest guest')
    (hguest : guest.Storable) : guest'.Storable := by
  constructor
  · rw [h.full_name]
    cases hname : data.full_name with
    | none => exact hguest.full_name
    | some name =>
      have hfits := data.full_name_fits
      rw [hname] at hfits
      exact hfits
  · rw [h.email]
    exact all_or data.email_clean hguest.email
  · rw [h.phone]
    exact all_or data.phone_fits hguest.phone
  · rw [h.table_assignment]
    exact all_or data.table_fits hguest.table_assignment
  · rw [h.notes]
    exact all_or data.notes_clean hguest.notes

theorem UpdateGuestData.Applied.shortEmail_iff {data : UpdateGuestData}
    (h : data.Applied guest guest') (hguest : shortEmail guest.email) :
    shortEmail guest'.email ↔ shortEmail data.email := by
  rw [h.email]
  cases hemail : data.email with
  | none => exact ⟨fun _ _ hmem => (by cases hmem), fun _ => hguest⟩
  | some text => exact Iff.rfl

end Linkapro.Events
