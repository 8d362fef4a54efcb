import Linkapro.Identity.CookieOrigins
import Linkapro.Identity.RecoveryLogins

/-!
# Identity: the bodies of the requests

What the serializers of the identity views make of any JSON body, and which of the values that they
accept the constructors of the domain refuse.
-/

namespace Linkapro.IdentityViews

open Identity

/-- The parts of Django that the serializers call, besides those of `UrlLibrary`. -/
structure ViewLibrary extends UrlLibrary where
  /-- `EmailValidator()(text)` does not raise. -/
  isEmailAddress : String → Bool
  /-- The messages of `validate_password(text)`. -/
  passwordMessages : String → List String
  /-- `str(value)` of a value that is no text. -/
  render : BodyValue → String

/-- The entries of `serializer.errors`. -/
abbrev FieldErrors : Type := List (String × List String)

section Values

/-- The name of the Python type of a value. -/
def typeName : BodyValue → String
  | .null => "NoneType"
  | .bool _ => "bool"
  | .number rendering _ =>
    if rendering.toList.all fun c => c.isDigit ∨ c = '-' then "int" else "float"
  | .text _ => "str"
  | .list _ => "list"
  | .object _ => "dict"

/-- `str(value)`. -/
def ViewLibrary.str (library : ViewLibrary) : BodyValue → String
  | .text value => value
  | value => library.render value

/-- `request.data.get(key)`. -/
def bodyGet (data : BodyValue) (key : String) : Except String (Option BodyValue) :=
  match data with
  | .object fields => .ok (fields.lookup key)
  | data => .error ("AttributeError: '" ++ typeName data ++ "' object has no attribute 'get'")

/-- `str(value or "").strip()`. -/
def ViewLibrary.strippedText (library : ViewLibrary) (value : Option BodyValue) : String :=
  strip (((value.filter BodyValue.isTruthy).map library.str).getD "")

/-- What a serializer makes of a body that may be no object. -/
def ofBody {α : Type} (data : BodyValue)
    (serializer : List (String × BodyValue) → Except FieldErrors α) : Except FieldErrors α :=
  match data with
  | .object fields => serializer fields
  | .null => .error [("non_field_errors", ["No data provided"])]
  | data => .error [("non_field_errors",
      ["Invalid data. Expected a dictionary, but got " ++ typeName data ++ "."])]

end Values

section Passwords

/-- `PlainPassword`. -/
structure PlainPassword where
  value : String
  safe : containsControlCharacter value = false
  stripped : strip value = value

theorem stripped_of_not_ne {value : String} (h : ¬ strip value ≠ value) : strip value = value :=
  not_not.mp h

/-- `PlainPassword(value)`. -/
def PlainPassword.of (value : String) : Except String PlainPassword :=
  if hcontrol : containsControlCharacter value = true then
    .error "Password contains unsafe control characters"
  else if hstrip : strip value ≠ value then
    .error "Password cannot start or end with whitespace"
  else .ok ⟨value, Bool.eq_false_iff.mpr hcontrol, stripped_of_not_ne hstrip⟩

/-- A password without control characters and surrounding white space. -/
structure PasswordPlain (value : String) : Prop where
  safe : containsControlCharacter value = false
  stripped : strip value = value

instance (value : String) : Decidable (PasswordPlain value) :=
  decidable_of_iff (containsControlCharacter value = false ∧ strip value = value)
    ⟨fun h => ⟨h.1, h.2⟩, fun h => ⟨h.safe, h.stripped⟩⟩

theorem PlainPassword.of_plain {value : String} (h : PasswordPlain value) :
    PlainPassword.of value = .ok ⟨value, h.safe, h.stripped⟩ := by
  unfold PlainPassword.of
  rw [dif_neg (by rw [h.safe]; exact Bool.false_ne_true), dif_neg (not_not.mpr h.stripped)]

theorem PlainPassword.of_not_plain {value : String} (h : ¬ PasswordPlain value) :
    ∃ error, PlainPassword.of value = .error error := by
  unfold PlainPassword.of
  split
  · exact ⟨_, rfl⟩
  · next hcontrol =>
    split
    · exact ⟨_, rfl⟩
    · next hstrip => exact absurd ⟨Bool.eq_false_iff.mpr hcontrol, stripped_of_not_ne hstrip⟩ h

/-- The text of an error. -/
def errorText : AccountError → String
  | .valueError message | .userNotFound message | .invalidEmail message
  | .invalidSecurityReason message | .invalidCredentials message | .weakPassword message
  | .passwordReuseNotAllowed message | .accountCannotBeActivated message
  | .roleAssignmentRequiresActor message | .roleAssignmentDenied message
  | .roleCannotBeSelfAssigned message | .invalidVerificationCode message
  | .invalidTwoFactorCode message | .invalidPasswordResetToken message
  | .passwordResetUserInactive message | .oauthRelinkRequiresStepUp message
  | .duplicateUser message | .googleOAuthAdapter message
  | .multipleObjectsReturned message | .database message => message

/-- `validate_plain_password`. -/
def validate_plain_password (library : ViewLibrary) (value : String) :
    Except (List String) String :=
  match PlainPassword.of value with
  | .error message => .error [message]
  | .ok _ =>
    match validatePassword value with
    | .error error => .error [errorText error]
    | .ok () =>
      match library.passwordMessages value with
      | [] => .ok value
      | messages => .error messages

end Passwords

section Fields

variable (library : ViewLibrary)

/-- `EmailField`, with the checks of a text field before its own. -/
def emailField (value : Option BodyValue) : Except (List String) String :=
  let validateText (value : String) : Except (List String) String :=
    if strip value = "" then .error ["This field may not be blank."]
    else
      match (CharField.mk true none none).messages (strip value) ++
          (if library.isEmailAddress (strip value) then []
            else ["Enter a valid email address."]) with
      | [] => .ok (strip value)
      | messages => .error messages
  match value with
  | none => .error ["This field is required."]
  | some .null => .error ["This field may not be null."]
  | some (.number rendering _) => validateText rendering
  | some (.text value) => validateText value
  | some (.bool _) | some (.list _) | some (.object _) => .error ["Not a valid string."]

/-- `ChoiceField(choices=["planner", "vendor"])`. -/
def roleField (value : Option BodyValue) : Except (List String) UserRole :=
  match value with
  | none => .error ["This field is required."]
  | some .null => .error ["This field may not be null."]
  | some value =>
    if library.str value = UserRole.planner.value then .ok .planner
    else if library.str value = UserRole.vendor.value then .ok .vendor
    else .error ["\"" ++ library.str value ++ "\" is not a valid choice."]

/-- A field of a serializer and the check of its own. -/
def withCheck (field : Except (List String) String)
    (check : String → Except (List String) String) : Except (List String) String :=
  match field with
  | .error messages => .error messages
  | .ok value => check value

/-- The validated data of `LoginSerializer`. -/
structure LoginData where
  email : String
  password : String

/-- `LoginSerializer`. -/
def LoginSerializer (fields : List (String × BodyValue)) : Except FieldErrors LoginData :=
  let email := emailField library (fields.lookup "email")
  let password := (CharField.mk false none none).validate (fields.lookup "password")
  match email, password with
  | .ok email, .ok password => .ok ⟨email, password⟩
  | _, _ => .error (fieldErrors "email" email ++ fieldErrors "password" password)

/-- The validated data of `RegisterSerializer`. -/
structure RegisterData where
  email : String
  password : String
  first_name : String
  last_name : String
  role : UserRole

/-- `validate_email`. -/
def validate_email (value : String) : Except (List String) String :=
  match Email.of value with
  | .error error => .error [errorText error]
  | .ok _ => .ok value

/-- `RegisterSerializer`. -/
def RegisterSerializer (fields : List (String × BodyValue)) : Except FieldErrors RegisterData :=
  let email := withCheck (emailField library (fields.lookup "email")) validate_email
  let password := withCheck ((CharField.mk true none (some 8)).validate (fields.lookup "password"))
    (validate_plain_password library)
  let first_name := (CharField.mk true (some 150) none).validate (fields.lookup "first_name")
  let last_name := (CharField.mk true (some 150) none).validate (fields.lookup "last_name")
  let role := roleField library (fields.lookup "role")
  match email, password, first_name, last_name, role with
  | .ok email, .ok password, .ok first_name, .ok last_name, .ok role =>
    .ok ⟨email, password, first_name, last_name, role⟩
  | _, _, _, _, _ =>
    .error (fieldErrors "email" email ++ fieldErrors "password" password ++
      fieldErrors "first_name" first_name ++ fieldErrors "last_name" last_name ++
      fieldErrors "role" role)

/-- A field that may be missing. -/
def optionalField (field : CharField) (value : Option BodyValue) :
    Except (List String) (Option String) :=
  match value with
  | none => .ok none
  | some value => (field.validate (some value)).map some

/-- The validated data of `UpdateProfileSerializer`. -/
structure ProfileData where
  first_name : Option String
  last_name : Option String

/-- `UpdateProfileSerializer`. -/
def UpdateProfileSerializer (fields : List (String × BodyValue)) :
    Except FieldErrors ProfileData :=
  let first_name := optionalField (CharField.mk true (some 150) none) (fields.lookup "first_name")
  let last_name := optionalField (CharField.mk true (some 150) none) (fields.lookup "last_name")
  match first_name, last_name with
  | .ok first_name, .ok last_name => .ok ⟨first_name, last_name⟩
  | _, _ => .error (fieldErrors "first_name" first_name ++ fieldErrors "last_name" last_name)

/-- The validated data of `ChangePasswordSerializer`. -/
structure ChangePasswordData where
  current_password : String
  new_password : String

/-- `ChangePasswordSerializer`. -/
def ChangePasswordSerializer (fields : List (String × BodyValue)) :
    Except FieldErrors ChangePasswordData :=
  let current_password :=
    (CharField.mk false none none).validate (fields.lookup "current_password")
  let new_password := withCheck
    ((CharField.mk true none (some 8)).validate (fields.lookup "new_password"))
    (validate_plain_password library)
  match current_password, new_password with
  | .ok current_password, .ok new_password => .ok ⟨current_password, new_password⟩
  | _, _ => .error (fieldErrors "current_password" current_password ++
      fieldErrors "new_password" new_password)

end Fields

section Accepted

variable {library : ViewLibrary}

/-- What a text field accepts has passed its validators. -/
theorem validateText_ok {field : CharField} {value text : String}
    (h : field.validateText value = .ok text) :
    field.messages text = [] ∧
      (field.trim_whitespace = true → strip text = text ∧ text ≠ "") := by
  unfold CharField.validateText at h
  by_cases hblank : value = "" ∨ field.trim_whitespace = true ∧ strip value = ""
  · rw [if_pos hblank] at h
    cases h
  · rw [if_neg hblank] at h
    dsimp only at h
    split at h
    · next hmessages =>
      cases h
      refine ⟨hmessages, fun htrim => ?_⟩
      rw [if_pos htrim]
      exact ⟨strip_strip value, fun hempty => hblank (.inr ⟨htrim, hempty⟩)⟩
    · cases h

theorem validate_ok {field : CharField} {value : Option BodyValue} {text : String}
    (h : field.validate value = .ok text) :
    field.messages text = [] ∧
      (field.trim_whitespace = true → strip text = text ∧ text ≠ "") := by
  unfold CharField.validate at h
  split at h
  · cases h
  · cases h
  · exact validateText_ok h
  · exact validateText_ok h
  all_goals cases h

/-- A text field that trims its value accepts no blank. -/
theorem validate_stripped {field : CharField} {value : Option BodyValue} {text : String}
    (htrim : field.trim_whitespace = true) (h : field.validate value = .ok text) :
    strip text = text ∧ text ≠ "" :=
  (validate_ok h).2 htrim

/-- A text field accepts no text that is too long. -/
theorem length_le_of_validate {field : CharField} {value : Option BodyValue} {text : String}
    {limit : ℕ} (hmax : field.max_length = some limit) (h : field.validate value = .ok text) :
    text.length ≤ limit := by
  have hmessages := (validate_ok h).1
  unfold CharField.messages at hmessages
  rw [hmax] at hmessages
  by_contra hlong
  simp only [if_pos (Nat.lt_of_not_le hlong)] at hmessages
  cases hmessages

/-- A password that the check accepts is one for the domain. -/
theorem plain_of_validated {field : Except (List String) String} {value : String}
    (h : withCheck field (validate_plain_password library) = .ok value) : PasswordPlain value := by
  unfold withCheck at h
  split at h
  · cases h
  · next text =>
    unfold validate_plain_password at h
    split at h
    · cases h
    · next password hpassword =>
      split at h
      · cases h
      · split at h
        · cases h
          by_contra hplain
          obtain ⟨error, herror⟩ := PlainPassword.of_not_plain hplain
          rw [herror] at hpassword
          cases hpassword
        · cases h

/-- An address that the check accepts is one for the domain. -/
theorem email_of_validated {field : Except (List String) String} {value : String}
    (h : withCheck field validate_email = .ok value) : ∃ email, Email.of value = .ok email := by
  unfold withCheck at h
  split at h
  · cases h
  · next text =>
    unfold validate_email at h
    split at h
    · cases h
    · next email hemail =>
      cases h
      exact ⟨email, hemail⟩

/-- The name of an account from two fields. -/
theorem personName_of_stripped {firstName lastName : String}
    (hfirst : strip firstName = firstName ∧ firstName ≠ "")
    (hlast : strip lastName = lastName ∧ lastName ≠ "") :
    PersonName.of firstName lastName =
      .ok ⟨firstName, lastName, hfirst.2, hlast.2, hfirst.1, hlast.1⟩ :=
  PersonName.of_parts ⟨firstName, lastName, hfirst.2, hlast.2, hfirst.1, hlast.1⟩

/-- What the registration accepts the domain accepts. -/
theorem RegisterSerializer_ok {fields : List (String × BodyValue)} {data : RegisterData}
    (h : RegisterSerializer library fields = .ok data) :
    (∃ email, Email.of data.email = .ok email) ∧ PasswordPlain data.password ∧
      ∃ name, PersonName.of data.first_name data.last_name = .ok name := by
  unfold RegisterSerializer at h
  dsimp only at h
  split at h
  · next email password first_name last_name role hemail hpassword hfirst hlast hrole =>
    cases h
    exact ⟨email_of_validated hemail, plain_of_validated hpassword, _,
      personName_of_stripped (validate_stripped rfl hfirst) (validate_stripped rfl hlast)⟩
  · cases h

theorem optionalField_stripped {field : CharField} {value : Option BodyValue} {text : String}
    (htrim : field.trim_whitespace = true) (h : optionalField field value = .ok (some text)) :
    strip text = text ∧ text ≠ "" := by
  unfold optionalField at h
  cases value with
  | none => cases h
  | some value =>
    dsimp only at h
    cases hvalue : field.validate (some value) with
    | error messages =>
      rw [hvalue] at h
      cases h
    | ok other =>
      rw [hvalue] at h
      cases h
      exact validate_stripped htrim hvalue

/-- What the profile accepts makes a name with what the account has. -/
theorem UpdateProfileSerializer_ok {fields : List (String × BodyValue)} {data : ProfileData}
    (h : UpdateProfileSerializer fields = .ok data) (name : PersonName) :
    ∃ updated, PersonName.of (data.first_name.getD name.firstName)
      (data.last_name.getD name.lastName) = .ok updated := by
  unfold UpdateProfileSerializer at h
  dsimp only at h
  split at h
  · next first_name last_name hfirst hlast =>
    cases h
    refine ⟨_, personName_of_stripped ?_ ?_⟩
    · cases first_name with
      | none => exact ⟨name.firstName_stripped, name.firstName_nonempty⟩
      | some text => exact optionalField_stripped rfl hfirst
    · cases last_name with
      | none => exact ⟨name.lastName_stripped, name.lastName_nonempty⟩
      | some text => exact optionalField_stripped rfl hlast
  · cases h

/-- The new password that is accepted is one for the domain. -/
theorem ChangePasswordSerializer_ok {fields : List (String × BodyValue)}
    {data : ChangePasswordData} (h : ChangePasswordSerializer library fields = .ok data) :
    PasswordPlain data.new_password := by
  unfold ChangePasswordSerializer at h
  dsimp only at h
  split at h
  · next current_password new_password _ hnew =>
    cases h
    exact plain_of_validated hnew
  · cases h

/-- The token of the second factor is stripped and not empty. -/
theorem TwoFactorLoginSerializer_ok {fields : List (String × BodyValue)} {data : TwoFactorLoginData}
    (h : TwoFactorLoginSerializer fields = .ok data) :
    strip data.token = data.token ∧ data.token ≠ "" ∧ data.token.length ≤ 6 := by
  unfold TwoFactorLoginSerializer at h
  dsimp only at h
  split at h
  · next temp_token token _ htoken =>
    cases h
    obtain ⟨hstrip, hempty⟩ := validate_stripped rfl htoken
    exact ⟨hstrip, hempty, length_le_of_validate rfl htoken⟩
  · cases h

end Accepted

end Linkapro.IdentityViews
