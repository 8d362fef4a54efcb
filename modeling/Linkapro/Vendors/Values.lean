import Linkapro.Shared
import Linkapro.Lib.Checked
import Mathlib.Data.Rat.Defs
import Mathlib.Algebra.Order.Field.Rat

/-!
# Values that reach the vendor domain

The vendor entities are Python dataclasses: whatever the caller passes becomes a field, and
validation decides what stays. `Value` is such a value, as far as the checks of
`shared/validation.py` tell values apart. Unicode tables, URL parsing and the readers of
`Decimal` and `uuid.UUID` come with Python; they form a `TextLibrary`.
-/

namespace Linkapro.Vendors

open Lib (Checked Stable)

/-- A `date`, counted in days. -/
abbrev Date : Type := ℤ

/-- A `Decimal`: a coefficient with an exponent of ten, or one that is not finite. -/
inductive Decimal : Type where
  | finite (coefficient exponent : ℤ)
  | special
deriving DecidableEq, Repr

/-- The amount a decimal stands for. -/
def Decimal.value : Decimal → ℚ
  | finite coefficient exponent => coefficient * (10 : ℚ) ^ exponent
  | special => 0

/-- A value in a field or an argument. A member of an enumeration of `str` values is its text. -/
inductive Value : Type where
  | none
  | bool (value : Bool)
  | int (value : ℤ)
  | text (value : String)
  | uuid (value : UUID)
  | decimal (value : Decimal)
  | datetime (value : Datetime)
  | naiveDatetime
  | date (value : Date)
  | other (rendering : String) (truthy : Bool)
deriving DecidableEq, Repr

namespace Value

/-- `bool(value)`. -/
def truthy : Value → Bool
  | none => false
  | bool value => value
  | int value => value ≠ 0
  | text value => value ≠ ""
  | decimal (.finite coefficient _) => coefficient ≠ 0
  | other _ truthy => truthy
  | _ => true

/-- An optional text as a value. -/
def ofText : Option String → Value
  | .some value => text value
  | .none => none

/-- An optional instant as a value. -/
def ofDatetime : Option Datetime → Value
  | .some value => datetime value
  | .none => none

/-- An optional date as a value. -/
def ofDate : Option Date → Value
  | .some value => date value
  | .none => none

/-- An optional integer as a value. -/
def ofInt : Option ℤ → Value
  | .some value => int value
  | .none => none

/-- An optional identifier as a value. -/
def ofUuid : Option UUID → Value
  | .some value => uuid value
  | .none => none

end Value

/-- What `urlparse` reads off a URL. Reading the port may raise `ValueError`. -/
structure ParsedUrl : Type where
  scheme : String
  netloc : String
  username : Option String
  password : Option String
  port : Except String (Option ℕ)
  hostname : Option String

/-- The text functions of Python that the checks rest on. -/
structure TextLibrary : Type where
  /-- `unicodedata.normalize("NFC", text)`. -/
  nfc : String → String
  /-- `unicodedata.category(char) == "Cf"`. -/
  isFormat : Char → Bool
  /-- `text.lower()`. -/
  lower : String → String
  /-- `text.upper()`. -/
  upper : String → String
  /-- `urlparse(text)`, with `none` for `ValueError`. -/
  urlparse : String → Option ParsedUrl
  /-- `uuid.UUID(text)`, with `none` for `ValueError`. -/
  uuidOf : String → Option UUID
  /-- `Decimal(text)`, with `none` for `InvalidOperation`. -/
  decimalOf : String → Option Decimal
  /-- `str(value)` of a value that is not a text. -/
  render : Value → String

/-- A text of ASCII characters. -/
def IsAscii (text : String) : Prop := ∀ c ∈ text.toList, c.toNat < 128

instance (text : String) : Decidable (IsAscii text) :=
  List.decidableBAll (fun c : Char => c.toNat < 128) text.toList

/-- `text.upper()` of an ASCII text. -/
def upperAscii (text : String) : String := String.ofList (text.toList.map Char.toUpper)

/-- What Unicode documents of the text functions. -/
structure TextLibrary.Documented (library : TextLibrary) : Prop where
  /-- A part of a normalised text is normalised. -/
  nfc_strip : ∀ text, library.nfc (strip (library.nfc text)) = strip (library.nfc text)
  nfc_ascii : ∀ text, IsAscii text → library.nfc text = text
  isFormat_ascii : ∀ c : Char, c.toNat < 128 → library.isFormat c = false
  /-- Normalising a lower case text leaves it in lower case. -/
  lower_nfc_lower : ∀ text, library.lower (library.nfc (library.lower text)) =
    library.nfc (library.lower text)
  /-- White space has no case. -/
  strip_lower : ∀ text, strip (library.lower text) = library.lower (strip text)
  upper_ascii : ∀ text, IsAscii text → library.upper text = upperAscii text

/-- `str(value)`. -/
def TextLibrary.str (library : TextLibrary) : Value → String
  | .text value => value
  | value => library.render value

/-- A library that serves ASCII texts and plain `https` URLs. -/
def asciiLibrary : TextLibrary where
  nfc := id
  isFormat _ := false
  lower := lower
  upper := upperAscii
  urlparse text :=
    if "https://".toList.isPrefixOf text.toList then
      let netloc := String.ofList ((text.toList.drop 8).takeWhile fun c => c ≠ '/')
      some {
        scheme := "https", netloc, username := none, password := none, port := .ok none
        hostname := some (lower netloc) }
    else some {
      scheme := "", netloc := "", username := none, password := none, port := .ok none
      hostname := none }
  uuidOf _ := none
  decimalOf _ := none
  render _ := ""

/-! ### `shared/validation.py` -/

def MIN_INQUIRY_MESSAGE_LENGTH : ℕ := 3
def MIN_VENDOR_DESCRIPTION_LENGTH : ℕ := 20
def MAX_PORTFOLIO_ORDER : ℤ := 10000
def MAX_PORTFOLIO_FILE_SIZE : ℤ := 100 * 1024 * 1024
def MAX_PORTFOLIO_DIMENSION : ℤ := 20000
def MAX_VIDEO_DURATION_SECONDS : ℤ := 4 * 60 * 60
def MAX_PAGE_LIMIT : ℕ := 100
def MAX_PAGE_OFFSET : ℕ := 10000
/-- `Decimal("9999999999.99")`. -/
def MAX_PACKAGE_PRICE : Decimal := .finite 999999999999 (-2)
def PACKAGE_PRICE_SCALE : ℤ := 2
def SUPPORTED_CURRENCIES : List String := ["RWF"]
def PRIVATE_HOSTS : List String := ["localhost", "0.0.0.0", "127.0.0.1", "::1"]
def EVENT_DATE_MAX_FUTURE_DAYS : ℤ := 730
def EVENT_DATE_MAX_PAST_DAYS : ℤ := 1

/-- The table `TEXT_LIMITS`. -/
structure TextLimits : Type where
  business_name : ℕ
  description : ℕ
  service_area : ℕ
  contact_email : ℕ
  contact_phone : ℕ
  custom_category : ℕ
  website : ℕ
  profile_image_url : ℕ
  cover_image_url : ℕ
  package_name : ℕ
  package_description : ℕ
  caption : ℕ
  rejection_reason : ℕ
  client_name : ℕ
  message : ℕ
  public_id : ℕ

def TEXT_LIMITS : TextLimits where
  business_name := 200
  description := 5000
  service_area := 255
  contact_email := 254
  contact_phone := 20
  custom_category := 100
  website := 500
  profile_image_url := 1000
  cover_image_url := 1000
  package_name := 200
  package_description := 5000
  caption := 500
  rejection_reason := 1000
  client_name := 200
  message := 5000
  public_id := 255

section Validation

variable (library : TextLibrary)

def require_string : Value → Except String String
  | .text value => .ok (library.nfc value)
  | _ => .error "Value must be a string."

def has_control_characters (text : String) : Bool :=
  text.toList.any fun c => c.toNat ≤ 0x1f ∨ c.toNat = 0x7f

def has_dangerous_formatting (text : String) : Bool := text.toList.any library.isFormat

/-- The checks that `bounded_text` makes of a stripped text that is not empty. -/
def limited_text (max_length min_length : ℕ) (text : String) : Except String String := do
  if has_control_characters text then
    throw "Control characters are not allowed."
  if has_dangerous_formatting library text then
    throw "Invisible or bidi formatting controls are not allowed."
  if text.length < min_length then
    throw s!"Use at least {min_length} characters."
  if max_length < text.length then
    throw s!"Use {max_length} characters or fewer."
  return text

/-- `bounded_text(…)` of a required text. -/
def bounded_text (max_length min_length : ℕ) : Value → Except String String
  | .none => .error "This field is required."
  | value => do
    let text := strip (← require_string library value)
    if text = "" then
      throw "This field is required."
    limited_text library max_length min_length text

/-- `bounded_text(…, required=False)`. -/
def bounded_optional_text (max_length : ℕ) : Value → Except String (Option String)
  | .none => .ok none
  | value => do
    let text := strip (← require_string library value)
    if text = "" then
      return some ""
    return some (← limited_text library max_length 1 text)

/-- Return a missing or empty text at once, and go on with any other. -/
def whenGiven (rest : String → Except String String) :
    Option String → Except String (Option String)
  | none => .ok none
  | some text => if text = "" then .ok (some "") else some <$> rest text

/-- `_EMAIL_RE.match(text)` of a stripped text: one `@`, no white space, and a dot inside
the host. -/
def matches_email (text : String) : Bool :=
  match text.toList.splitOn '@' with
  | [name, host] =>
    name ≠ [] ∧ (name ++ host).all (fun c => ¬isSpace c) ∧ '.' ∈ (host.drop 1).dropLast
  | _ => false

def validate_email (value : Value) : Except String String := do
  let email ← bounded_text library TEXT_LIMITS.contact_email 1 value
  if ¬matches_email email then
    throw "Enter a valid email address."
  return library.lower email

/-- `re.sub(r"[\s().-]+", "", phone)`. -/
def compactPhone (phone : String) : String :=
  String.ofList (phone.toList.filter fun c => ¬(isSpace c ∨ c ∈ ['(', ')', '.', '-']))

/-- `_PHONE_ALLOWED_RE.match(text)`: an optional plus and three to twenty ASCII digits. -/
def matches_phone (text : String) : Bool :=
  let digits := match text.toList with
    | '+' :: digits => digits
    | digits => digits
  3 ≤ digits.length ∧ digits.length ≤ 20 ∧ digits.all Char.isDigit

/-- The part of `normalize_phone` after the length check. -/
def compact_phone (phone : String) : Except String String := do
  let normalized := compactPhone phone
  if ¬matches_phone normalized then
    throw "Enter a valid phone number."
  return normalized

/-- `normalize_phone(value)`. -/
def normalize_phone (value : Value) : Except String String := do
  compact_phone (← bounded_text library TEXT_LIMITS.contact_phone 1 value)

/-- `normalize_phone(value, required=False)`. -/
def normalize_optional_phone (value : Value) : Except String (Option String) := do
  whenGiven compact_phone (← bounded_optional_text library TEXT_LIMITS.contact_phone value)

/-- `re.match(r"^172\.(1[6-9]|2\d|3[0-1])\.", hostname)`. -/
def inPrivate172 (hostname : String) : Bool :=
  match hostname.toList with
  | '1' :: '7' :: '2' :: '.' :: a :: b :: '.' :: _ =>
    (a = '1' ∧ b ∈ ['6', '7', '8', '9']) ∨ (a = '2' ∧ isDecimal b) ∨ (a = '3' ∧ b ∈ ['0', '1'])
  | _ => false

/-- `text.strip("[]")`. -/
def stripBrackets (text : String) : String :=
  let bracket := fun c : Char => decide (c = '[' ∨ c = ']')
  String.ofList ((text.toList.dropWhile bracket).reverse.dropWhile bracket).reverse

/-- The checks that `validate_safe_url` makes of a URL that is not empty. -/
def safe_url (url : String) : Except String String := do
  match library.urlparse url with
  | none => throw "Invalid IPv6 URL"
  | some parsed =>
    if parsed.scheme ∉ ["http", "https"] ∨ parsed.netloc = "" then
      throw "Enter a valid HTTP or HTTPS URL."
    if (nonEmpty parsed.username).isSome ∨ (nonEmpty parsed.password).isSome then
      throw "URL credentials are not allowed."
    if let .error _ := parsed.port then
      throw "URL port is invalid."
    let hostname := stripBrackets (library.lower (parsed.hostname.getD ""))
    if hostname ∈ PRIVATE_HOSTS then
      throw "Local or private URLs are not allowed."
    if ["10.", "192.168.", "169.254."].any (fun start => start.toList.isPrefixOf hostname.toList) ∨
        inPrivate172 hostname then
      throw "Local or private URLs are not allowed."
    if hostname = "" ∨ '.' ∉ hostname.toList then
      throw "URL host must be public."
    return url

/-- The check of `validate_public_media_url` beyond `validate_safe_url`. -/
def https_url (url : String) : Except String String := do
  if ((library.urlparse url).map ParsedUrl.scheme) ≠ some "https" then
    throw "Public media URLs must use HTTPS."
  return url

/-- `validate_safe_url(value, field_name=…)`, with the limit of the field. -/
def validate_safe_url (max_length : ℕ) (value : Value) : Except String (Option String) := do
  whenGiven (safe_url library) (← bounded_optional_text library max_length value)

/-- `validate_public_media_url(value, field_name=…)`, with the limit of the field. -/
def validate_public_media_url (max_length : ℕ) (value : Value) : Except String (Option String) := do
  whenGiven (https_url library) (← validate_safe_url library max_length value)

/-- `validate_public_media_url(value, field_name=…, required=True)`. -/
def validate_required_media_url (max_length : ℕ) (value : Value) : Except String String := do
  let url ← bounded_text library max_length 1 value
  https_url library (← safe_url library url)

def validate_uuid : Value → Except String UUID
  | .uuid value => .ok value
  | value => match library.uuidOf (library.str value) with
    | some id => .ok id
    | none => .error "Enter a valid UUID."

/-- `aware_utc_datetime(value, field_name=…)`. -/
def aware_utc_datetime : Value → Except String (Option Datetime)
  | .none => .ok none
  | .datetime value => .ok (some value)
  | .naiveDatetime => .error "Datetime must be timezone-aware."
  | _ => .error "Enter a valid datetime."

/-- `aware_utc_datetime(value, field_name=…, required=True)`. -/
def required_utc_datetime (value : Value) : Except String Datetime := do
  match ← aware_utc_datetime value with
  | some instant => return instant
  | none => throw "This timestamp is required."

def normalize_event_date : Value → Except String (Option Date)
  | .none => .ok none
  | .date value => .ok (some value)
  | .datetime _ => .error "Event date must be a date, not a datetime."
  | .naiveDatetime => .error "Event date must be a date, not a datetime."
  | _ => .error "Enter a valid event date."

def validate_new_event_date_bounds (today : Date) : Option Date → Except String (Option Date)
  | none => .ok none
  | some value => do
    if value < today - EVENT_DATE_MAX_PAST_DAYS then
      throw "Event date is too far in the past."
    if today + EVENT_DATE_MAX_FUTURE_DAYS < value then
      throw "Event date is too far in the future."
    return some value

/-- `Decimal(str(value))`. The text of a `Decimal` reads back as that `Decimal`. -/
def decimalOf : Value → Option Decimal
  | .decimal value => some value
  | .int value => some (.finite value 0)
  | value => library.decimalOf (library.str value)

def positive_decimal (value : Value) : Except String Decimal := do
  match decimalOf library value with
  | none => throw "Enter a valid decimal amount."
  | some .special => throw "Enter a finite decimal amount."
  | some (.finite coefficient exponent) =>
    let amount := Decimal.finite coefficient exponent
    if coefficient ≤ 0 then
      throw "Amount must be greater than 0."
    if exponent < -PACKAGE_PRICE_SCALE then
      throw s!"Use no more than {PACKAGE_PRICE_SCALE} decimal places."
    if MAX_PACKAGE_PRICE.value < amount.value then
      throw "Amount must be no more than 9999999999.99."
    return amount

def normalize_currency (value : Value) : Except String String := do
  let normalized := library.upper (← bounded_text library 3 1 value)
  if normalized ∉ SUPPORTED_CURRENCIES then
    throw "Choose a supported currency."
  return normalized

def validate_bool : Value → Except String Bool
  | .bool value => .ok value
  | _ => .error "Value must be a boolean."

/-- `validate_int(value, field_name=…, minimum=minimum, maximum=maximum)`. -/
def validate_int (minimum : ℤ) (maximum : Option ℤ) : Value → Except String ℤ
  | .int value => do
    if value < minimum then
      throw s!"Value must be at least {minimum}."
    if let some maximum := maximum then
      if maximum < value then
        throw s!"Value must be no more than {maximum}."
    return value
  | _ => .error "Value must be an integer."

/-- `validate_optional_int(value, field_name=…, minimum=minimum, maximum=maximum)`. -/
def validate_optional_int (minimum : ℤ) (maximum : Option ℤ) : Value → Except String (Option ℤ)
  | .none => .ok none
  | value => some <$> validate_int minimum maximum value

end Validation

end Linkapro.Vendors
