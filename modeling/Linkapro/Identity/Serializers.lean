import Linkapro.Identity.VerificationRuns

/-!
# Identity: the fields of a request body

What a serializer makes of the values of a JSON body: a text field coerces numbers, strips its
value and checks its length, and answers with every message that applies.
-/

namespace Linkapro.Identity

/-- A value of a JSON body. A number comes with the text and the truth of its Python value. -/
inductive BodyValue : Type where
  | null
  | bool (value : Bool)
  | number (rendering : String) (truthy : Bool)
  | text (value : String)
  | list (items : List BodyValue)
  | object (fields : List (String × BodyValue))

/-- `bool(value)`. -/
def BodyValue.isTruthy : BodyValue → Bool
  | .null => false
  | .bool value => value
  | .number _ truthy => truthy
  | .text value => value ≠ ""
  | .list items => !items.isEmpty
  | .object fields => !fields.isEmpty

/-- `CharField` of Django REST framework. -/
structure CharField where
  trim_whitespace : Bool := true
  max_length : Option ℕ := none
  min_length : Option ℕ := none

namespace CharField

/-- The messages of the validators. -/
def messages (field : CharField) (value : String) : List String :=
  (match field.max_length with
    | some limit =>
      if limit < value.length then
        ["Ensure this field has no more than " ++ limit.repr ++ " characters."]
      else []
    | none => []) ++
  (match field.min_length with
    | some limit =>
      if value.length < limit then
        ["Ensure this field has at least " ++ limit.repr ++ " characters."]
      else []
    | none => []) ++
  if value.toList.contains '\x00' then ["Null characters are not allowed."] else []

/-- The value of a text, or its messages. -/
def validateText (field : CharField) (value : String) : Except (List String) String :=
  if value = "" ∨ (field.trim_whitespace ∧ strip value = "") then
    .error ["This field may not be blank."]
  else
    let value := if field.trim_whitespace then strip value else value
    match field.messages value with
    | [] => .ok value
    | messages => .error messages

/-- `run_validation` of a required field. -/
def validate (field : CharField) : Option BodyValue → Except (List String) String
  | none => .error ["This field is required."]
  | some .null => .error ["This field may not be null."]
  | some (.number rendering _) => field.validateText rendering
  | some (.text value) => field.validateText value
  | some (.bool _) | some (.list _) | some (.object _) => .error ["Not a valid string."]

end CharField

/-- The entry of a field in `serializer.errors`. -/
def fieldErrors {α : Type} (name : String) :
    Except (List String) α → List (String × List String)
  | .ok _ => []
  | .error messages => [(name, messages)]

/-- `VerificationCode(value)`, or the message of its error. -/
def VerificationCode.of (value : String) : Except String VerificationCode :=
  if hempty : strip value = "" then .error "Verification code is required"
  else if hstrip : strip value ≠ value then
    .error "Verification code cannot have leading or trailing whitespace"
  else if hcontrol : (value.toList.any fun c => c.toNat < 32) = true then
    .error "Verification code cannot contain control characters"
  else if hlength : 4096 < value.length then .error "Verification code is too long"
  else
    .ok {
      value
      not_empty := fun h => hempty (by rw [h]; decide)
      stripped := not_not.mp hstrip
      no_control := Bool.eq_false_iff.mpr hcontrol
      length_le := Nat.le_of_not_lt hlength }

/-- The validated data of `TwoFactorLoginSerializer`. -/
structure TwoFactorLoginData where
  temp_token : String
  token : String

/-- `TwoFactorLoginSerializer(data=fields)`: its validated data or its errors. -/
def TwoFactorLoginSerializer (fields : List (String × BodyValue)) :
    Except (List (String × List String)) TwoFactorLoginData :=
  let temp_token := (CharField.mk true none none).validate (fields.lookup "temp_token")
  let token := (CharField.mk true (some 6) (some 6)).validate (fields.lookup "token")
  match temp_token, token with
  | .ok temp_token, .ok token => .ok ⟨temp_token, token⟩
  | _, _ => .error (fieldErrors "temp_token" temp_token ++ fieldErrors "token" token)

/-- A text that is not white space and longer than the field allows is refused. -/
theorem CharField.validate_too_long {field : CharField} {value : String} {limit : ℕ}
    (hmax : field.max_length = some limit) (hmin : field.min_length.all (· ≤ limit) = true)
    (hstrip : strip value = value) (hlong : limit < value.length)
    (hplain : '\x00' ∉ value.toList) :
    field.validate (some (.text value)) =
      .error ["Ensure this field has no more than " ++ limit.repr ++ " characters."] := by
  have hne : value ≠ "" := by
    rintro rfl
    exact absurd hlong (Nat.not_lt_zero _)
  have hmessages : field.messages value =
      ["Ensure this field has no more than " ++ limit.repr ++ " characters."] := by
    unfold messages
    rw [hmax]
    cases hfield : field.min_length with
    | none => simp [hlong, hplain]
    | some least =>
      rw [hfield] at hmin
      have hleast : least ≤ limit := by simpa using hmin
      simp [hlong, hplain, Nat.not_lt.mpr (hleast.trans hlong.le)]
  unfold validate validateText
  dsimp only
  rw [hstrip, if_neg (by simp [hne]), ite_self, hmessages]

end Linkapro.Identity
