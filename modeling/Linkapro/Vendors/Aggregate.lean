import Linkapro.Vendors.Values

/-!
# Aggregates of the vendor domain

The parts every vendor entity shares: the errors a call may raise, the normalisation of one
field, domain events, and the commit of a candidate. An operation of an entity looks at the
entity and either raises, returns at once, or hands a candidate to `commit_candidate`, which
validates it again, copies it over the entity, raises the version and records the event.
-/

namespace Linkapro.Vendors

open Lib (Checked Stable)

/-- A message under the field it complains about. -/
abbrev FieldError : Type := String × String

/-- What a vendor operation may raise. -/
inductive Raised : Type where
  /-- A `VendorDomainError` with its code, message and field errors. -/
  | domainError (code message : String) (field_errors : List FieldError)
  /-- A `PackageEditCooldownError`. -/
  | packageEditCooldown (next_allowed_at : Datetime)
  | valueError (message : String)
  | attributeError
deriving DecidableEq, Repr

/-- An error that carries field errors; its message is its code. -/
def Raised.invalid (code : String) (field_errors : List FieldError) : Raised :=
  .domainError code code field_errors

/-- A refused transition. -/
def Raised.transition (code message : String) : Raised := .domainError code message []

/-- One complaint, when the condition holds. -/
def complain (condition : Prop) [Decidable condition] (field_name message : String) :
    List FieldError :=
  if condition then [(field_name, message)] else []

theorem complain_eq_nil_iff {condition : Prop} [Decidable condition] {field_name message : String} :
    complain condition field_name message = [] ↔ ¬condition := by
  by_cases h : condition
  · simp [complain, h]
  · simp [complain, h]

/-! ### Normalisation of one field -/

/-- Put the message of a failed check under the field. -/
def underField {α : Type} (field_name : String) : Except String α → Checked FieldError α
  | .ok value => .valid value
  | .error message => .invalid [(field_name, message)]

section Normalisation

variable (library : TextLibrary) (field_name : String)

def _normalize_uuid (value : Value) : Checked FieldError UUID :=
  underField field_name (validate_uuid library value)

def _normalize_text (max_length min_length : ℕ) (value : Value) : Checked FieldError String :=
  match bounded_text library max_length min_length value with
  | .ok text => .valid text
  | .error message =>
    if field_name = "name" ∧ message = "This field is required." then
      .invalid [(field_name, "Package name is required.")]
    else .invalid [(field_name, message)]

def _normalize_optional_text (max_length : ℕ) (value : Value) :
    Checked FieldError (Option String) :=
  underField field_name (bounded_optional_text library max_length value)

def _normalize_email (value : Value) : Checked FieldError String :=
  underField field_name (validate_email library value)

def _normalize_phone (value : Value) : Checked FieldError String :=
  underField field_name (normalize_phone library value)

def _normalize_optional_phone (value : Value) : Checked FieldError (Option String) :=
  underField field_name (normalize_optional_phone library value)

def _normalize_safe_url (max_length : ℕ) (value : Value) : Checked FieldError (Option String) :=
  underField field_name (validate_safe_url library max_length value)

def _normalize_public_media_url (max_length : ℕ) (value : Value) :
    Checked FieldError (Option String) :=
  underField field_name (validate_public_media_url library max_length value)

/-- `_normalize_datetime(value, field_name, errors)`. -/
def _normalize_datetime (value : Value) : Checked FieldError (Option Datetime) :=
  underField field_name (aware_utc_datetime value)

/-- `_normalize_datetime(value, field_name, errors, required=True)`. -/
def _normalize_required_datetime (value : Value) : Checked FieldError Datetime :=
  underField field_name (required_utc_datetime value)

def _normalize_event_date (value : Value) : Checked FieldError (Option Date) :=
  underField field_name (normalize_event_date value)

def _normalize_bool (value : Value) : Checked FieldError Bool :=
  underField field_name (validate_bool value)

def _normalize_int (minimum : ℤ) (maximum : Option ℤ) (value : Value) : Checked FieldError ℤ :=
  underField field_name (validate_int minimum maximum value)

def _normalize_optional_int (minimum : ℤ) (maximum : Option ℤ) (value : Value) :
    Checked FieldError (Option ℤ) :=
  underField field_name (validate_optional_int minimum maximum value)

/-- `_normalize_version`, with the accepted number as a natural one. -/
def _normalize_version (value : Value) : Checked FieldError ℕ :=
  Int.toNat <$> underField "version" (validate_int 0 none value)

def _normalize_price (value : Value) : Checked FieldError Decimal :=
  underField "price" (positive_decimal library value)

def _normalize_currency_value (value : Value) : Checked FieldError String :=
  underField "currency" (normalize_currency library value)

/-- `_normalize_enum` and `_normalize_enum_value`: the member of an enumeration whose value
is the text. -/
def _normalize_enum {α : Type} (members : List α) (valueOf : α → String) :
    Value → Checked FieldError α
  | .text text => match members.find? fun member => valueOf member = text with
    | some member => .valid member
    | none => .invalid [(field_name, s!"Choose a valid {field_name}.")]
  | _ => .invalid [(field_name, s!"Choose a valid {field_name}.")]

/-- `_validated_transition_reason(reason, field_name, error_cls)`. -/
def _validated_transition_reason (code : String) (reason : Value) : Except Raised String :=
  (_normalize_text library field_name TEXT_LIMITS.rejection_reason 1 reason).toExcept
    (Raised.invalid code)

end Normalisation

/-- `bool(url) != bool(public_id)` for optional texts. -/
def _validate_public_id_url_pair (url public_id : Option String)
    (url_field public_id_field : String) : List FieldError :=
  complain ((nonEmpty url).isSome ≠ (nonEmpty public_id).isSome)
    (if (nonEmpty url).isSome then public_id_field else url_field)
    "Public ID and URL must be stored together."

/-! ### What passes a normalisation -/

section Accepted

variable {field_name : String}

@[simp] theorem underField_eq_valid_iff {α : Type} {result : Except String α} {value : α} :
    underField field_name result = .valid value ↔ result = .ok value := by
  cases result <;> simp [underField]

@[simp] theorem _normalize_datetime_datetime (instant : Datetime) :
    _normalize_datetime field_name (.datetime instant) = .valid (some instant) := rfl

@[simp] theorem _normalize_datetime_ofDatetime (instant : Option Datetime) :
    _normalize_datetime field_name (.ofDatetime instant) = .valid instant := by
  cases instant <;> rfl

/-- An instant that is passed on stays the same. -/
theorem datetime_kept {instant result : Option Datetime}
    (h : _normalize_datetime field_name (.ofDatetime instant) = .valid result) :
    result = instant := by
  rw [_normalize_datetime_ofDatetime] at h
  exact (Checked.valid.inj h).symm

/-- An instant that is set is the one found. -/
theorem datetime_set {instant : Datetime} {result : Option Datetime}
    (h : _normalize_datetime field_name (.datetime instant) = .valid result) :
    result = some instant := (Checked.valid.inj h).symm

@[simp] theorem _normalize_required_datetime_datetime (instant : Datetime) :
    _normalize_required_datetime field_name (.datetime instant) = .valid instant := rfl

@[simp] theorem _normalize_bool_bool (value : Bool) :
    _normalize_bool field_name (.bool value) = .valid value := rfl

@[simp] theorem _normalize_uuid_uuid (library : TextLibrary) (id : UUID) :
    _normalize_uuid library field_name (.uuid id) = .valid id := rfl

@[simp] theorem _normalize_optional_text_none (library : TextLibrary) (max_length : ℕ) :
    _normalize_optional_text library field_name max_length .none = .valid none := rfl

@[simp] theorem _normalize_version_int (version : ℕ) :
    _normalize_version (.int version) = .valid version := by
  have hsign : ¬(version : ℤ) < 0 := not_lt.mpr (Int.natCast_nonneg version)
  simp only [_normalize_version, validate_int, if_neg hsign]
  rfl

/-- The text of a member names that member, when no earlier one has the same text. -/
theorem _normalize_enum_valueOf {α : Type} {members : List α} {valueOf : α → String} {member : α}
    (h : (members.find? fun other => valueOf other = valueOf member) = some member) :
    _normalize_enum field_name members valueOf (.text (valueOf member)) = .valid member := by
  rw [_normalize_enum, h]

end Accepted

/-! ### Events and changes -/

/-- What a call reads from outside: the clock, a later reading of it within the same call,
and a fresh identifier. -/
structure Reading : Type where
  now : Datetime
  again : Datetime
  event_id : UUID
deriving DecidableEq, Repr

/-- A domain event. The types make its `__post_init__` checks hold. -/
structure VendorDomainEvent (κ : Type) : Type where
  event_id : UUID
  occurred_at : Datetime
  aggregate_id : UUID
  aggregate_version : ℕ
  content : κ
deriving DecidableEq, Repr

/-- An entity object with its pending events. -/
structure Aggregate (σ κ : Type) : Type where
  entity : σ
  events : List (VendorDomainEvent κ)
deriving DecidableEq, Repr

/-- How an operation that does not raise goes on. -/
inductive Change (σ κ : Type) : Type where
  | unchanged
  | commit (candidate : σ) (event_factory : Option (ℕ → VendorDomainEvent κ))

/-- An operation as a function of the entity it is called on. -/
abbrev Operation (σ κ : Type) : Type := σ → Except Raised (Change σ κ)

/-! ### Steps of an operation -/

section Steps

variable {ε α β : Type}

/-- A computation succeeds when its first part does, and its rest on the result of that. -/
theorem bind_eq_ok_iff {first : Except ε α} {rest : α → Except ε β} {result : β} :
    (first >>= rest) = .ok result ↔ ∃ value, first = .ok value ∧ rest value = .ok result := by
  cases first with
  | error raised => exact ⟨nofun, fun ⟨_, h, _⟩ => nomatch h⟩
  | ok value =>
    constructor
    · exact fun h => ⟨value, rfl, h⟩
    · rintro ⟨_, hvalue, hrest⟩
      cases hvalue
      exact hrest

/-- A guard that raises lets only the other case through. -/
theorem guard_eq_ok_iff {condition : Prop} [Decidable condition] {raised : ε}
    {jump : α → Except ε β} {rest : Except ε β} {result : β} :
    (if condition then throw raised >>= jump else rest) = .ok result ↔
      ¬condition ∧ rest = .ok result := by
  by_cases h : condition
  · rw [if_pos h]
    exact ⟨nofun, fun ⟨hnot, _⟩ => absurd h hnot⟩
  · rw [if_neg h]
    exact ⟨fun hrest => ⟨h, hrest⟩, And.right⟩

@[simp] theorem pure_eq_ok_iff {value result : α} :
    (pure value : Except ε α) = .ok result ↔ value = result := by
  change Except.ok value = Except.ok result ↔ _
  rw [Except.ok.injEq]

/-- A committing operation has not returned early. -/
theorem early_return_eq_commit_iff {σ κ : Type} {condition : Prop} [Decidable condition]
    {rest : Except ε (Change σ κ)} {candidate : σ}
    {event_factory : Option (ℕ → VendorDomainEvent κ)} :
    (if condition then pure .unchanged else rest) = .ok (.commit candidate event_factory) ↔
      ¬condition ∧ rest = .ok (.commit candidate event_factory) := by
  by_cases h : condition
  · rw [if_pos h]
    exact ⟨nofun, fun ⟨hnot, _⟩ => absurd h hnot⟩
  · rw [if_neg h]
    exact ⟨fun hrest => ⟨h, hrest⟩, And.right⟩

/-- A computation that may return early returns unchanged there, or in its rest. -/
theorem early_return_eq_unchanged_iff {σ κ : Type} {condition : Prop} [Decidable condition]
    {rest : Except ε (Change σ κ)} :
    (if condition then pure .unchanged else rest) = .ok .unchanged ↔
      condition ∨ rest = .ok .unchanged := by
  by_cases h : condition
  · rw [if_pos h]
    exact ⟨fun _ => .inl h, fun _ => rfl⟩
  · rw [if_neg h]
    exact ⟨.inr, fun hrest => hrest.resolve_left h⟩

end Steps

/-! ### Commits -/

/-- What the commit needs of an entity. -/
structure EntityKind (σ : Type) : Type where
  validate_invariants : σ → Except Raised σ
  version : σ → ℕ
  setVersion : σ → ℕ → σ
  version_setVersion : ∀ entity number, version (setVersion entity number) = number

section Commit

variable {σ κ : Type} (kind : EntityKind σ)

/-- `DomainAggregate._bump_version`. -/
def EntityKind.bump_version (entity : σ) : σ := kind.setVersion entity (kind.version entity + 1)

/-- `DomainAggregate._commit_candidate`. The pending events are kept, and the new event is
made from the version after the rise. -/
def Aggregate.commit_candidate (self : Aggregate σ κ) (candidate : σ)
    (event_factory : Option (ℕ → VendorDomainEvent κ)) : Except Raised (Aggregate σ κ) := do
  let entity := kind.bump_version (← kind.validate_invariants candidate)
  return { entity, events := self.events ++
    (event_factory.map fun factory => factory (kind.version entity)).toList }

/-- A call of an operation: the answer, and the object after it. -/
def Aggregate.call (operation : Operation σ κ) (self : Aggregate σ κ) :
    Except Raised Unit × Aggregate σ κ :=
  match operation self.entity with
  | .error raised => (.error raised, self)
  | .ok .unchanged => (.ok (), self)
  | .ok (.commit candidate event_factory) =>
    match self.commit_candidate kind candidate event_factory with
    | .error raised => (.error raised, self)
    | .ok after => (.ok (), after)

/-- What a call can do: raise, return at once, or commit a candidate. -/
theorem Aggregate.call_cases (operation : Operation σ κ) (self : Aggregate σ κ) :
    (∃ raised, self.call kind operation = (.error raised, self)) ∨
    (operation self.entity = .ok .unchanged ∧ self.call kind operation = (.ok (), self)) ∨
    ∃ candidate event_factory entity,
      operation self.entity = .ok (.commit candidate event_factory) ∧
        kind.validate_invariants candidate = .ok entity ∧
        self.call kind operation = (.ok (), {
          entity := kind.bump_version entity
          events := self.events ++
            (event_factory.map fun factory => factory (kind.version entity + 1)).toList }) := by
  unfold Aggregate.call
  cases hoperation : operation self.entity with
  | error raised => exact .inl ⟨raised, rfl⟩
  | ok change =>
    cases change with
    | unchanged => exact .inr (.inl ⟨rfl, rfl⟩)
    | commit candidate event_factory =>
      cases hvalid : kind.validate_invariants candidate with
      | error raised =>
        refine .inl ⟨raised, ?_⟩
        simp only [commit_candidate, hvalid, bind, Except.bind]
      | ok entity =>
        refine .inr (.inr ⟨candidate, event_factory, entity, rfl, hvalid, ?_⟩)
        simp only [commit_candidate, hvalid, bind, Except.bind, pure, Except.pure,
          EntityKind.bump_version, kind.version_setVersion]

/-- A call whose candidate passes its validation commits it. -/
theorem Aggregate.call_of_commit {operation : Operation σ κ} {self : Aggregate σ κ}
    {candidate entity : σ} {event_factory : Option (ℕ → VendorDomainEvent κ)}
    (h : operation self.entity = .ok (.commit candidate event_factory))
    (hvalid : kind.validate_invariants candidate = .ok entity) :
    self.call kind operation = (.ok (), {
      entity := kind.bump_version entity
      events := self.events ++
        (event_factory.map fun factory => factory (kind.version entity + 1)).toList }) := by
  simp only [Aggregate.call, h, commit_candidate, hvalid, bind, Except.bind, pure, Except.pure,
    EntityKind.bump_version, kind.version_setVersion]

/-- A call that raises leaves the object as it was. -/
theorem Aggregate.call_of_error {operation : Operation σ κ} {self after : Aggregate σ κ}
    {raised : Raised} (h : self.call kind operation = (.error raised, after)) : after = self := by
  obtain ⟨_, hcall⟩ | ⟨-, hcall⟩ | ⟨_, _, _, -, -, hcall⟩ := self.call_cases kind operation <;>
    rw [hcall] at h <;> cases h
  rfl

/-- One call in a run: what was called, what it read, and the object before and after. -/
structure Performed (ω σ κ : Type) : Type where
  operation : ω
  reading : Reading
  before : Aggregate σ κ
  answer : Except Raised Unit
  after : Aggregate σ κ

/-- The calls of a run, in order, each on the object the one before it left. -/
def Aggregate.history {ω : Type} (run : Reading → ω → Operation σ κ) :
    Aggregate σ κ → List (ω × Reading) → List (Performed ω σ κ)
  | _, [] => []
  | self, (operation, reading) :: rest =>
    let result := self.call kind (run reading operation)
    ⟨operation, reading, self, result.1, result.2⟩ :: history run result.2 rest

/-- The first call of a run, and the run of the others on what it leaves. -/
theorem Aggregate.history_cons {ω : Type} (run : Reading → ω → Operation σ κ)
    (self : Aggregate σ κ) (operation : ω) (reading : Reading) (rest : List (ω × Reading)) :
    self.history kind run ((operation, reading) :: rest) =
      ⟨operation, reading, self, (self.call kind (run reading operation)).1,
        (self.call kind (run reading operation)).2⟩ ::
      (self.call kind (run reading operation)).2.history kind run rest := rfl

/-- The object a run leaves. -/
def Aggregate.final {ω : Type} (run : Reading → ω → Operation σ κ) :
    Aggregate σ κ → List (ω × Reading) → Aggregate σ κ
  | self, [] => self
  | self, (operation, reading) :: rest => final run (self.call kind (run reading operation)).2 rest

theorem Aggregate.final_concat {ω : Type} (run : Reading → ω → Operation σ κ)
    (self : Aggregate σ κ) (calls : List (ω × Reading)) (operation : ω) (reading : Reading) :
    self.final kind run (calls ++ [(operation, reading)]) =
      ((self.final kind run calls).call kind (run reading operation)).2 := by
  induction calls generalizing self with
  | nil => rfl
  | cons call calls ih => exact ih _

/-- The last call of a run is made on what the others leave. -/
theorem Aggregate.history_concat {ω : Type} (run : Reading → ω → Operation σ κ)
    (self : Aggregate σ κ) (calls : List (ω × Reading)) (operation : ω) (reading : Reading) :
    self.history kind run (calls ++ [(operation, reading)]) =
      self.history kind run calls ++
        [⟨operation, reading, self.final kind run calls,
          ((self.final kind run calls).call kind (run reading operation)).1,
          ((self.final kind run calls).call kind (run reading operation)).2⟩] := by
  induction calls generalizing self with
  | nil => rfl
  | cons call calls ih => exact congrArg _ (ih _)

end Commit

end Linkapro.Vendors
