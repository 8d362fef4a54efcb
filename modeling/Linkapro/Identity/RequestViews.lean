import Linkapro.Identity.RequestBodies

/-!
# Identity: the answers of the views

The views of the identity endpoints from the body and the headers of a request to its answer. The
throttles and the readers of tokens look into the body before it is validated, and the constructors
of the domain are called outside of the handlers of errors.
-/

namespace Linkapro.IdentityViews

open Identity

/-- The views. -/
inductive IdentityView : Type where
  | login | register | twoFactorLogin | tokenRefresh | tokenRevoke | profileUpdate | passwordChange

/-- A request: its body, its headers and its cookies. -/
structure ViewRequest extends OriginHeaders where
  data : BodyValue
  refresh_token : Option String
  mfa_temp_token : Option String

/-- An answer of `api_success` or `api_error`. -/
structure ApiResponse where
  status : ℕ
  code : String
  message : String
  field_errors : FieldErrors

/-- What becomes of a change of the password. -/
inductive PasswordChange : Type where
  | changed | invalidCredentials | reused

/-- What the throttles and the use cases answer. -/
structure UseCases where
  /-- A throttle of the view refuses the request with this fingerprint. -/
  limited : IdentityView → String → Bool
  is_mfa_locked_out : String → Bool
  login_user : Email → PlainPassword → AuthenticationStatus
  login_two_factor : String → VerificationCode → AuthenticationStatus
  /-- An account has the address. -/
  existing : Email → Bool
  /-- The refresh token is rotated, or `AuthenticationError` or `SessionError` is raised. -/
  refreshes : String → Bool
  /-- The account of the user of the request. -/
  account : Option PersonName
  change_password : PlainPassword → PlainPassword → PasswordChange

section Views

variable (library : ViewLibrary) (settings : CookieAuthSettings) (useCases : UseCases)
  (request : ViewRequest)

/-- The answer to a body that is not valid. -/
def invalid (code : String) (field_errors : FieldErrors) : ApiResponse :=
  ⟨400, code, "Please fix the highlighted fields.", field_errors⟩

/-- `_auth_error_response`. -/
def _auth_error_response : AuthenticationStatus → ApiResponse
  | .userNotFound | .passwordMismatch | .inactive | .socialLoginOnly =>
    ⟨401, "invalid_credentials", "Invalid email or password.", []⟩
  | .invalidMfaCode =>
    ⟨401, "invalid_mfa_code", "Invalid verification code.",
      [("token", ["Invalid verification code."])]⟩
  | .invalidTempToken =>
    ⟨401, "invalid_mfa_session", "Your verification session has expired. Please sign in again.",
      [("temp_token", ["Verification session expired."])]⟩
  | .locked =>
    ⟨423, "account_locked", "Too many sign-in attempts. Please try again later.", []⟩
  | .authenticated | .mfaRequired =>
    ⟨401, "authentication_failed", "Authentication failed.", []⟩

/-- `_email_domain`. -/
def _email_domain (email : String) : String :=
  if '@' ∈ email.toList then
    String.ofList (email.toList.reverse.takeWhile fun c => c ≠ '@').reverse
  else ""

/-- `extract_refresh_token`. -/
def extract_refresh_token : Except String (Option String) :=
  (bodyGet request.data "refresh").map fun value =>
    (((value.filter BodyValue.isTruthy).map library.str).or (nonEmpty request.refresh_token)).map
      strip

/-- What the throttles of a view make their fingerprint of. -/
def throttleText : IdentityView → Except String String
  | .login =>
    (bodyGet request.data "email").map fun email => lower (library.strippedText email)
  | .register =>
    (bodyGet request.data "email").map fun email =>
      _email_domain (lower (library.strippedText email))
  | .twoFactorLogin => (bodyGet request.data "temp_token").map library.strippedText
  | .tokenRefresh | .tokenRevoke =>
    (extract_refresh_token library request).map fun token => token.getD ""
  | .profileUpdate | .passwordChange => .ok ""

/-- A view behind its throttles. -/
def throttled (view : IdentityView) (limited : ApiResponse)
    (post : Except String ApiResponse) : Except String ApiResponse :=
  match throttleText library request view with
  | .error error => .error error
  | .ok text => if useCases.limited view text then .ok limited else post

/-- `LoginView.post`. -/
def postLogin : Except String ApiResponse :=
  match ofBody request.data (LoginSerializer library) with
  | .error field_errors => .ok (invalid "login_validation_failed" field_errors)
  | .ok data =>
    match Email.of data.email, PlainPassword.of data.password with
    | .error error, _ => .error (errorText error)
    | _, .error error => .error error
    | .ok email, .ok plain_password =>
      match useCases.login_user email plain_password with
      | .mfaRequired =>
        .ok ⟨200, "mfa_required", "Two-factor authentication is required.", []⟩
      | .authenticated => .ok ⟨200, "login_completed", "Signed in successfully.", []⟩
      | status => .ok (_auth_error_response status)

/-- `RegisterView.post`, with the name of the account as `User.register_new` makes it. -/
def postRegister : Except String ApiResponse :=
  match ofBody request.data (RegisterSerializer library) with
  | .error field_errors => .ok (invalid "registration_validation_failed" field_errors)
  | .ok data =>
    match Email.of data.email, PlainPassword.of data.password with
    | .error error, _ => .error (errorText error)
    | _, .error error => .error error
    | .ok email, .ok _ =>
      if useCases.existing email then
        .ok (invalid "registration_validation_failed"
          [("email", ["Unable to create an account with these details."])])
      else
        match PersonName.of data.first_name data.last_name with
        | .error error => .error (errorText error)
        | .ok _ => .ok ⟨201, "registration_completed", "Account created successfully.", []⟩

/-- `LoginTwoFactorView.post`. -/
def postTwoFactorLogin : Except String ApiResponse :=
  match request.data with
  | .object fields =>
    match TwoFactorLoginSerializer (TwoFactorRequest.data ⟨fields, request.mfa_temp_token⟩) with
    | .error field_errors => .ok (invalid "mfa_validation_failed" field_errors)
    | .ok data =>
      if useCases.is_mfa_locked_out data.temp_token then
        .ok ⟨429, "mfa_rate_limited", "Too many verification attempts. Please try again later.", []⟩
      else
        match VerificationCode.of data.token with
        | .error error => .error error
        | .ok token =>
          match useCases.login_two_factor data.temp_token token with
          | .authenticated => .ok ⟨200, "mfa_login_completed", "Signed in successfully.", []⟩
          | status => .ok (_auth_error_response status)
  | data => .error ("AttributeError: '" ++ typeName data ++ "' object has no attribute 'get'")

/-- `_cookie_session_forbidden`. -/
def _cookie_session_forbidden : ApiResponse :=
  ⟨403, "cookie_session_forbidden", "Session request blocked by origin protection.", []⟩

/-- A view behind the protection of cookies, with the refresh token of the request. -/
def withRefreshToken (post : Option String → ApiResponse) : Except String ApiResponse :=
  match cookie_session_request_is_allowed library.toUrlLibrary settings request.toOriginHeaders with
  | .error error => .error error
  | .ok false => .ok _cookie_session_forbidden
  | .ok true => (extract_refresh_token library request).map fun token => post (nonEmpty token)

/-- `TokenRefreshView.post`. -/
def postTokenRefresh : Except String ApiResponse :=
  withRefreshToken library settings request fun
    | none => ⟨401, "refresh_token_missing", "Authentication required.", []⟩
    | some session_token =>
      if useCases.refreshes session_token then
        ⟨200, "token_refreshed", "Session refreshed.", []⟩
      else ⟨401, "refresh_token_invalid", "Authentication required.", []⟩

/-- `TokenRevokeView.post`. -/
def postTokenRevoke : Except String ApiResponse :=
  withRefreshToken library settings request fun _ =>
    ⟨200, "session_revoked", "Signed out successfully.", []⟩

/-- `ProfileView.patch`. -/
def patchProfile : Except String ApiResponse :=
  match ofBody request.data UpdateProfileSerializer with
  | .error field_errors => .ok (invalid "profile_validation_failed" field_errors)
  | .ok data =>
    match useCases.account with
    | none => .ok ⟨400, "profile_update_failed", "Unable to update profile.", []⟩
    | some name =>
      match PersonName.of (data.first_name.getD name.firstName)
          (data.last_name.getD name.lastName) with
      | .error error => .error (errorText error)
      | .ok _ => .ok ⟨200, "profile_updated", "Profile updated successfully.", []⟩

/-- `ChangePasswordView.post`. -/
def postChangePassword : Except String ApiResponse :=
  match ofBody request.data (ChangePasswordSerializer library) with
  | .error field_errors => .ok (invalid "password_change_validation_failed" field_errors)
  | .ok data =>
    match PlainPassword.of data.current_password, PlainPassword.of data.new_password,
        useCases.account with
    | .error error, _, _ => .error error
    | _, .error error, _ => .error error
    | _, _, none => .error "User not found"
    | .ok current_password, .ok new_password, some _ =>
      match useCases.change_password current_password new_password with
      | .changed => .ok ⟨200, "password_changed", "Password changed successfully.", []⟩
      | .invalidCredentials =>
        .ok ⟨400, "invalid_credentials", "Invalid current password.",
          [("current_password", ["Invalid current password."])]⟩
      | .reused =>
        .ok (invalid "password_change_validation_failed"
          [("new_password", ["Choose a password you have not used recently."])])

/-- What a view makes of a request. -/
def respond (view : IdentityView) : Except String ApiResponse :=
  match view with
  | .login =>
    throttled library useCases request .login
      ⟨429, "login_rate_limited", "Too many sign-in attempts. Please try again later.", []⟩
      (postLogin library useCases request)
  | .register =>
    throttled library useCases request .register
      ⟨429, "registration_rate_limited",
        "Too many account creation attempts. Please try again later.", []⟩
      (postRegister library useCases request)
  | .twoFactorLogin =>
    throttled library useCases request .twoFactorLogin
      ⟨429, "mfa_rate_limited", "Too many verification attempts. Please try again later.", []⟩
      (postTwoFactorLogin useCases request)
  | .tokenRefresh =>
    throttled library useCases request .tokenRefresh
      ⟨429, "token_refresh_rate_limited",
        "Too many session refresh attempts. Please try again later.", []⟩
      (postTokenRefresh library settings useCases request)
  | .tokenRevoke =>
    throttled library useCases request .tokenRevoke
      ⟨429, "token_revoke_rate_limited", "Too many sign-out attempts. Please try again later.", []⟩
      (postTokenRevoke library settings request)
  | .profileUpdate => patchProfile useCases request
  | .passwordChange => postChangePassword library useCases request

/-- The answers of `_auth_error_response`. -/
def authErrors : List (ℕ × String) :=
  [(401, "invalid_credentials"), (401, "invalid_mfa_code"), (401, "invalid_mfa_session"),
    (423, "account_locked"), (401, "authentication_failed")]

/-- The responses that a view defines. -/
def definedResponses : IdentityView → List (ℕ × String)
  | .login =>
    (429, "login_rate_limited") :: (400, "login_validation_failed") :: (200, "mfa_required") ::
      (200, "login_completed") :: authErrors
  | .register =>
    [(429, "registration_rate_limited"), (400, "registration_validation_failed"),
      (201, "registration_completed")]
  | .twoFactorLogin =>
    (429, "mfa_rate_limited") :: (400, "mfa_validation_failed") :: (200, "mfa_login_completed") ::
      authErrors
  | .tokenRefresh =>
    [(429, "token_refresh_rate_limited"), (403, "cookie_session_forbidden"),
      (401, "refresh_token_missing"), (401, "refresh_token_invalid"), (200, "token_refreshed")]
  | .tokenRevoke =>
    [(429, "token_revoke_rate_limited"), (403, "cookie_session_forbidden"),
      (200, "session_revoked")]
  | .profileUpdate =>
    [(400, "profile_validation_failed"), (400, "profile_update_failed"), (200, "profile_updated")]
  | .passwordChange =>
    [(400, "password_change_validation_failed"), (400, "invalid_credentials"),
      (200, "password_changed")]

/-- The outcome is one of the responses. -/
def IsDefined (responses : List (ℕ × String)) (outcome : Except String ApiResponse) : Prop :=
  ∃ response, outcome = .ok response ∧ (response.status, response.code) ∈ responses

/-- The view answers with one of its responses. -/
def Answers (view : IdentityView) : Prop :=
  IsDefined (definedResponses view) (respond library settings useCases request view)

/-! ### The requests that are answered -/

/-- An address that the domain accepts. -/
structure EmailReadable (text : String) : Prop where
  short : (lower (strip text)).length ≤ 254
  valid : isEmail (lower (strip text)) = true

instance (text : String) : Decidable (EmailReadable text) :=
  decidable_of_iff ((lower (strip text)).length ≤ 254 ∧ isEmail (lower (strip text)) = true)
    ⟨fun h => ⟨h.1, h.2⟩, fun h => ⟨h.short, h.valid⟩⟩

/-- What the throttles of a view make their fingerprint of when the body is an object. -/
def fingerprint (fields : List (String × BodyValue)) : IdentityView → String
  | .login => lower (library.strippedText (fields.lookup "email"))
  | .register => _email_domain (lower (library.strippedText (fields.lookup "email")))
  | .twoFactorLogin => library.strippedText (fields.lookup "temp_token")
  | .tokenRefresh | .tokenRevoke =>
    (((((fields.lookup "refresh").filter BodyValue.isTruthy).map library.str).or
      (nonEmpty request.refresh_token)).map strip).getD ""
  | .profileUpdate | .passwordChange => ""

/-- The domain can read what the serializer of a view accepts, and the protection of cookies can
read the headers. -/
def Readable (fields : List (String × BodyValue)) : IdentityView → Prop
  | .login => ∀ data, LoginSerializer library fields = .ok data →
      EmailReadable data.email ∧ PasswordPlain data.password
  | .twoFactorLogin => ∀ data,
      TwoFactorLoginSerializer (TwoFactorRequest.data ⟨fields, request.mfa_temp_token⟩) = .ok data →
        useCases.is_mfa_locked_out data.temp_token = true ∨
          data.token.toList.any (fun c => c.toNat < 32) = false
  | .tokenRefresh | .tokenRevoke =>
    HeadersReadable library.toUrlLibrary settings request.toOriginHeaders
  | .passwordChange => ∀ data, ChangePasswordSerializer library fields = .ok data →
      PasswordPlain data.current_password ∧ useCases.account ≠ none
  | .register | .profileUpdate => True

/-- The requests that a view answers: those whose body is an object, where it is throttled, and
that are refused by a throttle or readable. -/
def Answerable : IdentityView → Prop
  | .profileUpdate => True
  | .passwordChange => ∀ fields, request.data = .object fields →
      Readable library settings useCases request fields .passwordChange
  | view => ∃ fields, request.data = .object fields ∧
      (useCases.limited view (fingerprint library request fields view) = true ∨
        Readable library settings useCases request fields view)

end Views

section Answered

variable {library : ViewLibrary} {settings : CookieAuthSettings} {useCases : UseCases}
  {request : ViewRequest} {fields : List (String × BodyValue)} {responses : List (ℕ × String)}

theorem not_isDefined_error {error : String} : ¬ IsDefined responses (.error error) := by
  rintro ⟨response, hresponse, _⟩
  cases hresponse

theorem isDefined_ok {response : ApiResponse} (h : (response.status, response.code) ∈ responses) :
    IsDefined responses (.ok response) :=
  ⟨response, rfl, h⟩

theorem throttleText_object (h : request.data = .object fields) (view : IdentityView) :
    throttleText library request view = .ok (fingerprint library request fields view) := by
  cases view
  all_goals
    unfold throttleText
    try unfold extract_refresh_token
    try rw [h]
    rfl

theorem bodyGet_not_object {data : BodyValue} (h : ∀ fields, data ≠ .object fields)
    (key : String) : ∃ error, bodyGet data key = .error error := by
  cases data with
  | object fields => exact absurd rfl (h fields)
  | _ => exact ⟨_, rfl⟩

/-- The throttles raise for every other body. -/
theorem throttled_not_object {view : IdentityView} {limited : ApiResponse}
    {post : Except String ApiResponse} (h : ∀ fields, request.data ≠ .object fields)
    (hview : view ≠ .profileUpdate ∧ view ≠ .passwordChange) :
    ¬ IsDefined responses (throttled library useCases request view limited post) := by
  have hraises : ∃ error, throttleText library request view = .error error := by
    unfold throttleText
    cases view with
    | profileUpdate => exact absurd rfl hview.1
    | passwordChange => exact absurd rfl hview.2
    | login | register =>
      obtain ⟨error, herror⟩ := bodyGet_not_object h "email"
      dsimp only
      rw [herror]
      exact ⟨error, rfl⟩
    | twoFactorLogin =>
      obtain ⟨error, herror⟩ := bodyGet_not_object h "temp_token"
      dsimp only
      rw [herror]
      exact ⟨error, rfl⟩
    | tokenRefresh | tokenRevoke =>
      obtain ⟨error, herror⟩ := bodyGet_not_object h "refresh"
      dsimp only
      rw [extract_refresh_token, herror]
      exact ⟨error, rfl⟩
  obtain ⟨error, herror⟩ := hraises
  unfold throttled
  rw [herror]
  exact not_isDefined_error

/-- A throttled view answers an object when a throttle refuses it or the view answers it. -/
theorem throttled_object_iff {view : IdentityView} {limited : ApiResponse}
    {post : Except String ApiResponse} (h : request.data = .object fields)
    (hlimited : (limited.status, limited.code) ∈ responses) :
    IsDefined responses (throttled library useCases request view limited post) ↔
      (useCases.limited view (fingerprint library request fields view) = true ∨
        IsDefined responses post) := by
  unfold throttled
  rw [throttleText_object h]
  dsimp only
  by_cases hlimit : useCases.limited view (fingerprint library request fields view) = true
  · rw [if_pos hlimit]
    exact ⟨fun _ => .inl hlimit, fun _ => isDefined_ok hlimited⟩
  · rw [if_neg hlimit]
    exact (or_iff_right hlimit).symm

/-- The throttled views. -/
theorem throttled_iff {view : IdentityView} {limited : ApiResponse}
    {post : Except String ApiResponse} {readable : List (String × BodyValue) → Prop}
    (hview : view ≠ .profileUpdate ∧ view ≠ .passwordChange)
    (hlimited : (limited.status, limited.code) ∈ responses)
    (hpost : ∀ fields, request.data = .object fields →
      (IsDefined responses post ↔ readable fields)) :
    IsDefined responses (throttled library useCases request view limited post) ↔
      ∃ fields, request.data = .object fields ∧
        (useCases.limited view (fingerprint library request fields view) = true ∨
          readable fields) := by
  by_cases hobject : ∃ fields, request.data = .object fields
  · obtain ⟨fields, hfields⟩ := hobject
    rw [throttled_object_iff hfields hlimited, hpost fields hfields]
    constructor
    · exact fun h => ⟨fields, hfields, h⟩
    · rintro ⟨other, hother, h⟩
      rw [hfields] at hother
      cases hother
      exact h
  · have hnot : ∀ fields, request.data ≠ .object fields := fun fields h => hobject ⟨fields, h⟩
    constructor
    · exact fun h => absurd h (throttled_not_object hnot hview)
    · rintro ⟨fields, hfields, _⟩
      exact absurd hfields (hnot fields)

theorem mem_authErrors (status : AuthenticationStatus) :
    ((_auth_error_response status).status, (_auth_error_response status).code) ∈ authErrors := by
  cases status <;> decide

/-- `Email` accepts the addresses that are short and valid. -/
theorem emailOf_iff {text : String} :
    (∃ email, Email.of text = .ok email) ↔ EmailReadable text := by
  unfold Email.of
  dsimp only
  constructor
  · rintro ⟨email, hemail⟩
    split at hemail
    · next hshort =>
      split at hemail
      · next hvalid => exact ⟨hshort, hvalid⟩
      · cases hemail
    · cases hemail
  · intro h
    rw [dif_pos h.short, dif_pos h.valid]
    exact ⟨_, rfl⟩

/-- The view of the login. -/
theorem postLogin_iff (h : request.data = .object fields) :
    IsDefined (definedResponses .login) (postLogin library useCases request) ↔
      Readable library settings useCases request fields .login := by
  unfold postLogin Readable
  rw [h, ofBody]
  cases hdata : LoginSerializer library fields with
  | error field_errors =>
    exact ⟨fun _ _ hdata => (nomatch hdata),
      fun _ => isDefined_ok (by simp [definedResponses, invalid])⟩
  | ok data =>
    dsimp only
    have hreadable : (∀ other, Except.ok data = (.ok other : Except FieldErrors LoginData) →
        EmailReadable other.email ∧ PasswordPlain other.password) ↔
          EmailReadable data.email ∧ PasswordPlain data.password :=
      ⟨fun h => h data rfl, fun h other hother => Except.ok.inj hother ▸ h⟩
    rw [hreadable]
    cases hemail : Email.of data.email with
    | error error =>
      refine ⟨fun h => absurd h not_isDefined_error, fun h => ?_⟩
      obtain ⟨email, hok⟩ := emailOf_iff.mpr h.1
      rw [hok] at hemail
      cases hemail
    | ok email =>
      have hemailReadable : EmailReadable data.email := emailOf_iff.mp ⟨email, hemail⟩
      by_cases hplain : PasswordPlain data.password
      · rw [PlainPassword.of_plain hplain]
        refine ⟨fun _ => ⟨hemailReadable, hplain⟩, fun _ => ?_⟩
        dsimp only
        split
        · exact isDefined_ok (by simp [definedResponses])
        · exact isDefined_ok (by simp [definedResponses])
        · refine isDefined_ok ?_
          simp only [definedResponses, List.mem_cons]
          exact .inr (.inr (.inr (.inr (mem_authErrors _))))
      · obtain ⟨error, herror⟩ := PlainPassword.of_not_plain hplain
        rw [herror]
        exact ⟨fun h => absurd h not_isDefined_error, fun h => absurd h.2 hplain⟩

/-- The view of the registration. -/
theorem postRegister_isDefined (h : request.data = .object fields) :
    IsDefined (definedResponses .register) (postRegister library useCases request) := by
  unfold postRegister
  rw [h, ofBody]
  cases hdata : RegisterSerializer library fields with
  | error field_errors => exact isDefined_ok (by simp [definedResponses, invalid])
  | ok data =>
    obtain ⟨⟨email, hemail⟩, hplain, name, hname⟩ := RegisterSerializer_ok hdata
    dsimp only
    rw [hemail, PlainPassword.of_plain hplain]
    dsimp only
    split
    · exact isDefined_ok (by simp [definedResponses, invalid])
    · rw [hname]
      exact isDefined_ok (by simp [definedResponses])

/-- A stripped token of six characters is one for the domain unless it has control characters. -/
theorem verificationCodeOf_iff {token : String}
    (h : strip token = token ∧ token ≠ "" ∧ token.length ≤ 6) :
    (∃ code, VerificationCode.of token = .ok code) ↔
      token.toList.any (fun c => c.toNat < 32) = false := by
  obtain ⟨hstrip, hempty, hlength⟩ := h
  unfold VerificationCode.of
  rw [dif_neg (by rwa [hstrip]), dif_neg (not_not.mpr hstrip)]
  constructor
  · rintro ⟨code, hcode⟩
    split at hcode
    · cases hcode
    · next hcontrol => exact Bool.eq_false_iff.mpr hcontrol
  · intro hcontrol
    rw [dif_neg (Bool.eq_false_iff.mp hcontrol), dif_neg (by omega)]
    exact ⟨_, rfl⟩

/-- The view of the second factor. -/
theorem postTwoFactorLogin_iff (h : request.data = .object fields) :
    IsDefined (definedResponses .twoFactorLogin) (postTwoFactorLogin useCases request) ↔
      Readable library settings useCases request fields .twoFactorLogin := by
  unfold postTwoFactorLogin Readable
  rw [h]
  dsimp only
  cases hdata : TwoFactorLoginSerializer (TwoFactorRequest.data ⟨fields, request.mfa_temp_token⟩)
    with
  | error field_errors =>
    exact ⟨fun _ _ hdata => (nomatch hdata),
      fun _ => isDefined_ok (by simp [definedResponses, invalid])⟩
  | ok data =>
    have hreadable :
        (∀ other, Except.ok data = (.ok other : Except FieldErrors TwoFactorLoginData) →
        useCases.is_mfa_locked_out other.temp_token = true ∨
          other.token.toList.any (fun c => c.toNat < 32) = false) ↔
        useCases.is_mfa_locked_out data.temp_token = true ∨
          data.token.toList.any (fun c => c.toNat < 32) = false :=
      ⟨fun h => h data rfl, fun h other hother => Except.ok.inj hother ▸ h⟩
    rw [hreadable]
    dsimp only
    by_cases hlocked : useCases.is_mfa_locked_out data.temp_token = true
    · rw [if_pos hlocked]
      exact ⟨fun _ => .inl hlocked, fun _ => isDefined_ok (by simp [definedResponses])⟩
    · rw [if_neg hlocked, ← verificationCodeOf_iff (TwoFactorLoginSerializer_ok hdata)]
      cases hcode : VerificationCode.of data.token with
      | error error =>
        refine ⟨fun h => absurd h not_isDefined_error, fun h => ?_⟩
        obtain ⟨code, hok⟩ := h.resolve_left hlocked
        cases hok
      | ok code =>
        refine ⟨fun _ => .inr ⟨code, rfl⟩, fun _ => ?_⟩
        dsimp only
        split
        · exact isDefined_ok (by simp [definedResponses])
        · refine isDefined_ok ?_
          simp only [definedResponses, List.mem_cons]
          exact .inr (.inr (.inr (mem_authErrors _)))

/-- The views behind the protection of cookies. -/
theorem withRefreshToken_iff {post : Option String → ApiResponse}
    (h : request.data = .object fields)
    (hforbidden : (403, "cookie_session_forbidden") ∈ responses)
    (hpost : ∀ token, ((post token).status, (post token).code) ∈ responses) :
    IsDefined responses (withRefreshToken library settings request post) ↔
      HeadersReadable library.toUrlLibrary settings request.toOriginHeaders := by
  rw [← cookie_session_returns_iff]
  unfold withRefreshToken extract_refresh_token
  rw [h]
  cases cookie_session_request_is_allowed library.toUrlLibrary settings
      request.toOriginHeaders with
  | error error =>
    exact ⟨fun h => absurd h not_isDefined_error, fun h => absurd h not_returns_error⟩
  | ok allowed =>
    refine ⟨fun _ => ⟨allowed, rfl⟩, fun _ => ?_⟩
    cases allowed with
    | false => exact isDefined_ok hforbidden
    | true => exact isDefined_ok (hpost _)

/-- The view of the profile. -/
theorem patchProfile_isDefined :
    IsDefined (definedResponses .profileUpdate) (patchProfile useCases request) := by
  unfold patchProfile
  cases hdata : ofBody request.data UpdateProfileSerializer with
  | error field_errors => exact isDefined_ok (by simp [definedResponses, invalid])
  | ok data =>
    dsimp only
    cases useCases.account with
    | none => exact isDefined_ok (by simp [definedResponses])
    | some name =>
      have hfields : ∃ fields, UpdateProfileSerializer fields = .ok data := by
        unfold ofBody at hdata
        split at hdata
        · exact ⟨_, hdata⟩
        · cases hdata
        · cases hdata
      obtain ⟨fields, hfields⟩ := hfields
      obtain ⟨updated, hupdated⟩ := UpdateProfileSerializer_ok hfields name
      dsimp only
      rw [hupdated]
      exact isDefined_ok (by simp [definedResponses])

/-- The view of the change of the password. -/
theorem postChangePassword_iff :
    IsDefined (definedResponses .passwordChange) (postChangePassword library useCases request) ↔
      ∀ fields, request.data = .object fields →
        Readable library settings useCases request fields .passwordChange := by
  unfold postChangePassword
  cases hbody : request.data with
  | object fields =>
    rw [ofBody]
    cases hdata : ChangePasswordSerializer library fields with
    | error field_errors =>
      refine ⟨fun _ other hother data hdata' => ?_,
        fun _ => isDefined_ok (by simp [definedResponses, invalid])⟩
      cases hother
      rw [hdata] at hdata'
      cases hdata'
    | ok data =>
      have hreadable : (∀ other, BodyValue.object fields = .object other →
          Readable library settings useCases request other .passwordChange) ↔
            PasswordPlain data.current_password ∧ useCases.account ≠ none := by
        constructor
        · exact fun h => h fields rfl data hdata
        · intro h other hother other_data hother_data
          cases hother
          rw [hdata] at hother_data
          cases hother_data
          exact h
      rw [hreadable]
      dsimp only
      rw [PlainPassword.of_plain (ChangePasswordSerializer_ok hdata)]
      by_cases hplain : PasswordPlain data.current_password
      · rw [PlainPassword.of_plain hplain]
        cases useCases.account with
        | none => exact ⟨fun h => absurd h not_isDefined_error, fun h => absurd rfl h.2⟩
        | some name =>
          refine ⟨fun _ => ⟨hplain, fun h => (nomatch h)⟩, fun _ => ?_⟩
          dsimp only
          split
          · exact isDefined_ok (by simp [definedResponses])
          · exact isDefined_ok (by simp [definedResponses])
          · exact isDefined_ok (by simp [definedResponses, invalid])
      · obtain ⟨error, herror⟩ := PlainPassword.of_not_plain hplain
        rw [herror]
        exact ⟨fun h => absurd h not_isDefined_error, fun h => absurd h.1 hplain⟩
  | _ =>
    exact ⟨fun _ _ h => (nomatch h), fun _ => isDefined_ok (by simp [definedResponses, invalid])⟩

theorem not_isDefined_of_isSome {outcome : Except String ApiResponse}
    (h : outcome.toOption.isSome = false) : ¬ IsDefined responses outcome := by
  rintro ⟨response, rfl, _⟩
  cases h

end Answered


/-! ### Requests that are not answered -/

/-- The parts of Django, as far as the requests below need them. -/
def sampleViewLibrary : ViewLibrary where
  nfkc := id
  isIPv6 _ := false
  isEmailAddress text := '@' ∈ text.toList
  passwordMessages _ := []
  render _ := ""

/-- Settings with one origin and two tokens. -/
def sampleCookieSettings : CookieAuthSettings where
  DEBUG := false
  ALLOW_MISSING_ORIGIN_IN_DEBUG := true
  COOKIE_AUTH_ALLOWED_ORIGINS := some ["http://a"]
  CSRF_TRUSTED_ORIGINS := []
  FRONTEND_URL := none
  COOKIE_AUTH_CSRF_DOUBLE_SUBMIT := true

/-- No throttle refuses, and every use case succeeds. -/
def sampleUseCases : UseCases where
  limited _ _ := false
  is_mfa_locked_out _ := false
  login_user _ _ := .authenticated
  login_two_factor _ _ := .authenticated
  existing _ := false
  refreshes _ := true
  account := some ⟨"A", "B", by decide, by decide, by decide, by decide⟩
  change_password _ _ := .changed

/-- A request with this body and without headers. -/
def requestOf (data : BodyValue) : ViewRequest :=
  ⟨⟨none, none, none, none⟩, data, none, none⟩

/-- A request with an origin and two equal tokens. -/
def requestFrom (origin token : String) : ViewRequest :=
  ⟨⟨some origin, none, some token, some token⟩, .object [], none, none⟩

end Linkapro.IdentityViews
