import Mathlib.Algebra.Order.Floor.Ring
import Linkapro.Shared

/-!
# Identity: refresh tokens

The claims of refresh and access tokens, how a presented refresh token is read,
the session policy and the pair that a rotation issues. Instants are taken from
any ordered field with a floor, in seconds since the epoch.
-/

namespace Linkapro.Identity

/-- The settings that the token service reads. -/
structure TokenSettings where
  /-- `settings.TOKEN_ENV`, stripped. -/
  tokenEnv : String
  /-- `settings.PAYMENT_ENV`. -/
  paymentEnv : Option String
  /-- `settings.ACCEPT_LEGACY_PAYMENT_ENV_TOKENS`. -/
  acceptLegacyPaymentEnvTokens : Bool

/-- `REFRESH_TOKEN_LIFETIME`, in seconds. -/
def refreshTokenLifetime : ℤ := 7 * 24 * 3600

/-- `ACCESS_TOKEN_LIFETIME`, in seconds. -/
def accessTokenLifetime : ℤ := 15 * 60

/-- The payload of a signed refresh token. -/
structure RefreshToken where
  jti : Option String
  family : Option String
  env : Option String
  userId : Option String
  sessionId : Option String
  issuedAt : Option ℤ
  authTokenVersion : Option ℤ
  /-- The claim `exp`, in seconds since the epoch. -/
  expiresAt : ℤ
  role : Option String
  scope : String
  stepUp : Bool
deriving DecidableEq, Repr

/-- The payload of a signed access token. -/
structure AccessToken where
  jti : String
  family : Option String
  env : Option String
  userId : Option String
  sessionId : Option String
  issuedAt : Option ℤ
  authTokenVersion : Option ℤ
  expiresAt : ℤ
  role : Option String
  scope : String
  stepUp : Bool
deriving DecidableEq, Repr

/-- `TokenFamily`. A blank id cannot be built. -/
@[ext] structure TokenFamily where
  id : String
  revoked : Bool
  not_blank : isBlank id = false

instance : DecidableEq TokenFamily := fun _ _ => decidable_of_iff _ TokenFamily.ext_iff.symm

/-- The errors of a refresh. -/
inductive RefreshError : Type where
  | malformedRefreshToken (message : String)
  | refreshTokenReuseDetected (message : String)
  | tokenFamilyRevoked (message : String)
  | sessionRevoked (message : String)
  | sessionVersionMismatch (message : String)
  | authenticationNotAllowed (message : String)
  | valueError (message : String)
deriving DecidableEq, Repr

/-- `TokenFamily(id)`. -/
def TokenFamily.create (id : String) : Except RefreshError TokenFamily :=
  if h : isBlank id = false then .ok { id, revoked := false, not_blank := h }
  else .error (.valueError "Token family id cannot be empty")

/-- `RefreshTokenClaims`. -/
structure RefreshTokenClaims where
  jti : String
  family : TokenFamily
  sessionId : Option String
  userId : Option String
  issuedAt : Option ℤ
  authTokenVersion : Option ℤ
  expiresAt : ℤ
  role : String
  scope : String
  stepUp : Bool
deriving DecidableEq

/-- `accepted_identity_token_env`. -/
def acceptedIdentityTokenEnv (settings : TokenSettings) (tokenEnv : Option String) :
    Except RefreshError (Option String) :=
  if settings.tokenEnv = "" then .error (.valueError "TOKEN_ENV must be configured")
  else if tokenEnv = some settings.tokenEnv then .ok (some settings.tokenEnv)
  else if settings.acceptLegacyPaymentEnvTokens ∧ (nonEmpty settings.paymentEnv).isSome ∧
      tokenEnv = settings.paymentEnv then
    .ok (some settings.tokenEnv)
  else .ok none

/-- `inspect_refresh_token` after the signature and the expiry have been verified. -/
def readClaims (settings : TokenSettings) (token : RefreshToken) :
    Except RefreshError RefreshTokenClaims :=
  match nonEmpty token.jti, nonEmpty token.family with
  | none, _ => .error (.malformedRefreshToken "Malformed refresh token")
  | some _, none => .error (.malformedRefreshToken "Malformed refresh token family")
  | some jti, some family =>
    match acceptedIdentityTokenEnv settings token.env with
    | .error error => .error error
    | .ok none => .error (.malformedRefreshToken "Token environment mismatch")
    | .ok (some _) =>
      match TokenFamily.create family with
      | .error error => .error error
      | .ok family =>
        .ok
          { jti, family
            sessionId := nonEmpty token.sessionId
            userId := nonEmpty token.userId
            issuedAt := token.issuedAt
            authTokenVersion := token.authTokenVersion
            expiresAt := token.expiresAt
            role := token.role.getD ""
            scope := token.scope
            stepUp := token.stepUp }

/-- The claims that a token has been read with are its own. -/
theorem readClaims_ok {settings : TokenSettings} {token : RefreshToken}
    {claims : RefreshTokenClaims} (h : readClaims settings token = .ok claims) :
    token.jti = some claims.jti ∧ token.family = some claims.family.id ∧
      claims.expiresAt = token.expiresAt ∧ claims.userId = nonEmpty token.userId ∧
      claims.authTokenVersion = token.authTokenVersion ∧ claims.family.revoked = false := by
  unfold readClaims at h
  cases hjti : nonEmpty token.jti with
  | none =>
    rw [hjti] at h
    cases h
  | some jti =>
    cases hfamily : nonEmpty token.family with
    | none =>
      rw [hjti, hfamily] at h
      cases h
    | some family =>
      rw [hjti, hfamily] at h
      have hjti' : token.jti = some jti := (Option.filter_eq_some_iff.mp hjti).1
      have hfamily' : token.family = some family := (Option.filter_eq_some_iff.mp hfamily).1
      cases haccepted : acceptedIdentityTokenEnv settings token.env with
      | error error =>
        simp only [haccepted] at h
        cases h
      | ok accepted =>
        cases accepted with
        | none =>
          simp only [haccepted] at h
          cases h
        | some env =>
          simp only [haccepted, TokenFamily.create] at h
          by_cases hblank : isBlank family = false
          · simp only [dif_pos hblank] at h
            cases h
            exact ⟨hjti', hfamily', rfl, rfl, rfl, rfl⟩
          · simp only [dif_neg hblank] at h
            cases h

/-- `RefreshRejectionReason`. -/
inductive RefreshRejectionReason : Type where
  | refreshReuseDetected | tokenFamilyRevoked | userSessionsRevoked | sessionVersionMismatch
  | userSignedOut
deriving DecidableEq, Repr

/-- The text of a rejection reason. -/
def RefreshRejectionReason.value : RefreshRejectionReason → String
  | .refreshReuseDetected => "refresh_reuse_detected"
  | .tokenFamilyRevoked => "token_family_revoked"
  | .userSessionsRevoked => "user_sessions_revoked"
  | .sessionVersionMismatch => "session_version_mismatch"
  | .userSignedOut => "user_signed_out"

/-- `RefreshRotationDecision`. -/
structure RefreshRotationDecision where
  allowed : Bool
  blacklistPresentedToken : Bool := false
  revokeFamily : Bool := false
  touchSession : Bool := false
  revokeSession : Bool := false
  reason : Option RefreshRejectionReason := none
  error : Option (String → RefreshError) := none

/-- `SessionPolicy.evaluate_refresh_rotation`. -/
def evaluateRefreshRotation (claims : RefreshTokenClaims) (tokenAlreadyUsed familyRevoked
    userSessionsRevoked tokenVersionMatchesActiveUser : Bool) : RefreshRotationDecision :=
  if tokenAlreadyUsed then
    { allowed := false
      revokeFamily := true
      revokeSession := true
      reason := some .refreshReuseDetected
      error := some .refreshTokenReuseDetected }
  else if familyRevoked || claims.family.revoked then
    { allowed := false
      blacklistPresentedToken := true
      revokeSession := true
      reason := some .tokenFamilyRevoked
      error := some .tokenFamilyRevoked }
  else if userSessionsRevoked then
    { allowed := false
      revokeFamily := true
      revokeSession := true
      reason := some .userSessionsRevoked
      error := some .sessionRevoked }
  else if ¬ tokenVersionMatchesActiveUser then
    { allowed := false
      revokeFamily := true
      revokeSession := true
      reason := some .sessionVersionMismatch
      error := some .sessionVersionMismatch }
  else
    { allowed := true
      blacklistPresentedToken := true
      touchSession := true }

/-- `raise_refresh_rejection`. -/
def refreshRejection (decision : RefreshRotationDecision) : RefreshError :=
  match decision.error with
  | some error => error "Token has been revoked"
  | none => .sessionRevoked "Token has been revoked"

/-- `TokenBootstrapClaims`, as far as tokens are filled from it. -/
structure BootstrapClaims where
  id : String
  authTokenVersion : Option ℤ
  sessionId : Option String
deriving DecidableEq, Repr

/-- `IssuedTokenPair`. -/
structure IssuedTokenPair where
  accessToken : AccessToken
  refreshToken : RefreshToken
  bootstrapClaims : BootstrapClaims
deriving DecidableEq

/-- `_apply_auth_token_version`. -/
def applyAuthTokenVersion (authTokenVersion : Option ℤ) (bootstrapClaims : BootstrapClaims) : ℤ :=
  bootstrapClaims.authTokenVersion.getD (authTokenVersion.getD 0)

section Time

variable {T : Type} [Field T] [LinearOrder T] [IsStrictOrderedRing T] [FloorRing T]

/-- `int(x)` of a float: rounding towards zero. -/
def truncate (x : T) : ℤ := if 0 ≤ x then ⌊x⌋ else ⌈x⌉

/-- `remaining_ttl`. -/
def remainingTtl (claims : RefreshTokenClaims) (now : T) : ℤ :=
  max (truncate ((claims.expiresAt : T) - now)) 1

/-- An entry written at `now` with the remaining lifetime lapses less than one second
before the token expires. -/
theorem expiresAt_lt_deadline (claims : RefreshTokenClaims) (now : T) :
    (claims.expiresAt : T) - 1 < now + remainingTtl claims now := by
  have hle : truncate ((claims.expiresAt : T) - now) ≤ remainingTtl claims now :=
    le_max_left _ _
  have hcast : ((truncate ((claims.expiresAt : T) - now) : ℤ) : T) ≤ remainingTtl claims now :=
    Int.cast_le.mpr hle
  have hlt : (claims.expiresAt : T) - now < truncate ((claims.expiresAt : T) - now) + 1 := by
    unfold truncate
    split
    · exact Int.lt_floor_add_one _
    · have hceil : (claims.expiresAt : T) - now ≤ ⌈(claims.expiresAt : T) - now⌉ := Int.le_ceil _
      linarith
  linarith

/-- `issue_rotated_pair` at the instant `now`. -/
def issueRotatedPair (settings : TokenSettings) (now : T) (claims : RefreshTokenClaims)
    (accessJti refreshJti : UUID) (bootstrapClaims : BootstrapClaims) : IssuedTokenPair :=
  let version := applyAuthTokenVersion claims.authTokenVersion bootstrapClaims
  let role := nonEmpty (some claims.role)
  { refreshToken :=
      { jti := some (uuidText refreshJti)
        family := some claims.family.id
        env := some settings.tokenEnv
        userId := claims.userId
        sessionId := claims.sessionId
        issuedAt := some ⌊now⌋
        authTokenVersion := some version
        expiresAt := ⌊now + refreshTokenLifetime⌋
        role
        scope := claims.scope
        stepUp := claims.stepUp }
    accessToken :=
      { jti := uuidText accessJti
        family := some claims.family.id
        env := some settings.tokenEnv
        userId := claims.userId
        sessionId := claims.sessionId
        issuedAt := some ⌊now⌋
        authTokenVersion := some version
        expiresAt := ⌊now + accessTokenLifetime⌋
        role
        scope := claims.scope
        stepUp := claims.stepUp }
    bootstrapClaims }

end Time

end Linkapro.Identity
