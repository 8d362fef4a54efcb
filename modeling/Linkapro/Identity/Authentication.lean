import Linkapro.Identity.RefreshSession

/-!
# Identity: who accepts a token

`HardenedJWTAuthentication.authenticate` for access tokens, the step-up token that is
issued for an access token, and what a refresh execution has seen before it issues a
pair.
-/

namespace Linkapro.Identity

open Lib Lib.Program

/-- The errors of the authentication of a request. -/
inductive AuthenticationError : Type where
  | invalidToken (message : String)
  | authenticationFailed (message : String)
  | valueError (message : String)
deriving DecidableEq

section Time

variable {T : Type} [Field T] [LinearOrder T] [IsStrictOrderedRing T] [FloorRing T]

namespace SessionState

/-- `token_version_matches_user`. -/
def tokenVersionMatchesUser (s : SessionState T) (userId : Option String)
    (tokenVersion : Option ℤ) : Bool :=
  match (nonEmpty userId).bind s.users with
  | none => false
  | some user => tokenVersion = some user.authTokenVersion

/-- `identity_session_is_active`. -/
def identitySessionIsActive (s : SessionState T) (sessionId tokenFamily : Option String) : Bool :=
  match nonEmpty sessionId with
  | none => true
  | some id => s.sessions.any (matchesSession (some id) (nonEmpty tokenFamily))

/-- A family is blacklisted. A token without a family is not asked for. -/
def familyRevoked (s : SessionState T) (family : Option String) : Bool :=
  (nonEmpty family).any fun familyId => (s.families.get s.clock familyId).isSome

end SessionState

/-- The checks of `authenticate` after the standard ones. -/
def checkAccessToken (settings : TokenSettings) (s : SessionState T) (token : AccessToken) :
    Except AuthenticationError Unit :=
  if token.jti = "" then .error (.invalidToken "Malformed token")
  else if (s.blacklist.get s.clock token.jti).isSome then
    .error (.invalidToken "Token has been revoked")
  else if s.familyRevoked token.family then
    .error (.invalidToken "Token family has been revoked")
  else if s.isTokenRevokedForUser token.userId token.issuedAt then
    .error (.invalidToken "Token has been revoked")
  else if ¬ s.tokenVersionMatchesUser token.userId token.authTokenVersion then
    .error (.invalidToken "Token session version mismatch")
  else if ¬ s.identitySessionIsActive token.sessionId token.family then
    .error (.invalidToken "Identity session has been revoked")
  else
    match acceptedIdentityTokenEnv settings token.env with
    | .error _ => .error (.valueError "TOKEN_ENV must be configured")
    | .ok none => .error (.invalidToken "Token environment mismatch")
    | .ok (some _) => .ok ()

/-- `HardenedJWTAuthentication.authenticate`: the standard authentication finds the token
signed and unexpired and its user active, then the token is checked. -/
def authenticate (settings : TokenSettings) (signed : List AccessToken) (s : SessionState T)
    (token : AccessToken) : Except AuthenticationError String :=
  if ¬ (token ∈ signed ∧ s.clock < (token.expiresAt : T)) then
    .error (.invalidToken "Given token not valid for any token type")
  else
    match token.userId with
    | none => .error (.invalidToken "Token contained no recognizable user identification")
    | some userId =>
      match s.users userId with
      | none => .error (.authenticationFailed "User not found")
      | some user =>
        if ¬ user.isActive then .error (.authenticationFailed "User is inactive")
        else (checkAccessToken settings s token).map fun _ => userId

/-- What an accepted access token has passed. -/
structure AccessAccepted (signed : List AccessToken) (s : SessionState T) (token : AccessToken) :
    Prop where
  signed_mem : token ∈ signed
  unexpired : s.clock < (token.expiresAt : T)
  family_open : s.familyRevoked token.family = false
  version : s.tokenVersionMatchesUser token.userId token.authTokenVersion = true
  session : s.identitySessionIsActive token.sessionId token.family = true

omit [IsStrictOrderedRing T] [FloorRing T] in
theorem checkAccessToken_ok {settings : TokenSettings} {s : SessionState T} {token : AccessToken}
    (h : checkAccessToken settings s token = .ok ()) :
    s.familyRevoked token.family = false ∧
      s.tokenVersionMatchesUser token.userId token.authTokenVersion = true ∧
      s.identitySessionIsActive token.sessionId token.family = true := by
  unfold checkAccessToken at h
  split at h
  · cases h
  · split at h
    · cases h
    · split at h
      · cases h
      · next hfamily =>
        split at h
        · cases h
        · split at h
          · cases h
          · next hversion =>
            split at h
            · cases h
            · next hsession =>
              exact ⟨Bool.eq_false_iff.mpr hfamily, not_not.mp hversion, not_not.mp hsession⟩

omit [IsStrictOrderedRing T] [FloorRing T] in
theorem authenticate_ok {settings : TokenSettings} {signed : List AccessToken}
    {s : SessionState T} {token : AccessToken} {userId : String}
    (h : authenticate settings signed s token = .ok userId) : AccessAccepted signed s token := by
  unfold authenticate at h
  split at h
  · cases h
  · next hstandard =>
    split at h
    · cases h
    · split at h
      · cases h
      · split at h
        · cases h
        · obtain ⟨_, hcheck, _⟩ := except_map_eq_ok_iff.mp h
          obtain ⟨hfamily, hversion, hsession⟩ := checkAccessToken_ok hcheck
          obtain ⟨hsigned, hunexpired⟩ := not_not.mp hstandard
          exact ⟨hsigned, hunexpired, hfamily, hversion, hsession⟩

/-- `issue_step_up_token` at the instant `now`, for an access token that has been read. -/
def issueStepUpToken (settings : TokenSettings) (now : T) (jti : UUID) (token : AccessToken)
    (family : String) : AccessToken where
  jti := uuidText jti
  family := some family
  env := some settings.tokenEnv
  userId := some ((nonEmpty token.userId).getD "")
  sessionId := nonEmpty token.sessionId
  issuedAt := some ⌊now⌋
  authTokenVersion := some (token.authTokenVersion.getD 0)
  expiresAt := ⌊now + 5 * 60⌋
  role := none
  scope := token.scope
  stepUp := true

/-- `IssueStepUpTokenUseCase.execute`. The access token has to be signed and unexpired, but
nobody asks whether it has been revoked. -/
def issueStepUp (settings : TokenSettings) (signed : List AccessToken) (now : T) (jti : UUID)
    (token : AccessToken) : Except RefreshError AccessToken :=
  if ¬ (token ∈ signed ∧ now < (token.expiresAt : T)) then
    .error (.malformedRefreshToken "Invalid access token")
  else
    match acceptedIdentityTokenEnv settings token.env with
    | .error error => .error error
    | .ok none => .error (.malformedRefreshToken "Token environment mismatch")
    | .ok (some _) =>
      match nonEmpty token.family with
      | none => .error (.malformedRefreshToken "Malformed token family")
      | some family =>
        (TokenFamily.create family).map fun _ => issueStepUpToken settings now jti token family

omit [IsStrictOrderedRing T] in
theorem issueStepUp_ok {settings : TokenSettings} {signed : List AccessToken} {now : T}
    {jti : UUID} {token stepUp : AccessToken}
    (h : issueStepUp settings signed now jti token = .ok stepUp) :
    token ∈ signed ∧ now < (token.expiresAt : T) ∧ ∃ family, token.family = some family ∧
      stepUp = issueStepUpToken settings now jti token family := by
  unfold issueStepUp at h
  split at h
  · cases h
  · next hstandard =>
    obtain ⟨hsigned, hunexpired⟩ := not_not.mp hstandard
    split at h
    · cases h
    · cases h
    · split at h
      · cases h
      · next family hfamily =>
        obtain ⟨_, _, heq⟩ := except_map_eq_ok_iff.mp h
        exact ⟨hsigned, hunexpired, family, (Option.filter_eq_some_iff.mp hfamily).1, heq.symm⟩

/-- The pair that a call has issued. -/
def issuedPair : SessionCall T → Option IssuedTokenPair
  | ⟨.issueRotatedPair _ _ _ _, pair⟩ => some pair
  | _ => none

/-- Every call is allowed. -/
def anyCall : Contract (SessionOp.Ret T) where
  allowed _ _ := True
  possible _ := True

/-- The outcome of a program that issues each pair that it returns. -/
def Returned (log : SessionLog T) (outcome : Except RefreshError IssuedTokenPair) : Prop :=
  ∀ pair, outcome = .ok pair → pair ∈ log.filterMap issuedPair

omit [Field T] [LinearOrder T] [IsStrictOrderedRing T] [FloorRing T] in
theorem issuePair_returns (claims : RefreshTokenClaims) (log : SessionLog T) :
    (issuePair claims).Follows anyCall log Returned := by
  refine follows_perform_bind_iff.mpr
    ⟨trivial, fun (bootstrapClaims : Option BootstrapClaims) _ => ?_⟩
  cases bootstrapClaims with
  | none => exact fun _ h => by cases h
  | some bootstrapClaims =>
    refine follows_perform_bind_iff.mpr ⟨trivial, fun (accessJti : UUID) _ => ?_⟩
    refine follows_perform_bind_iff.mpr ⟨trivial, fun (refreshJti : UUID) _ => ?_⟩
    refine follows_perform_bind_iff.mpr ⟨trivial, fun (pair : IssuedTokenPair) _ => ?_⟩
    rintro _ ⟨⟩
    exact List.mem_cons_self

omit [IsStrictOrderedRing T] in
theorem finishRefresh_returns (decision : RefreshRotationDecision) (claims : RefreshTokenClaims)
    (log : SessionLog T) : (finishRefresh decision claims).Follows anyCall log Returned := by
  have happly : (applyRefreshDecision decision claims).Follows anyCall log fun _ _ => True :=
    follows_of_allowed (fun _ _ => trivial) _ log
  refine follows_bind_iff.mpr (happly.mono fun log' _ _ => ?_)
  split
  · exact issuePair_returns claims log'
  · exact fun _ h => by cases h

omit [IsStrictOrderedRing T] in
/-- A pair that a refresh returns has been issued by one of its calls. -/
theorem refreshSession_returns (settings : TokenSettings) (token : RefreshToken) :
    (refreshSession (T := T) settings token).Follows anyCall [] Returned := by
  refine follows_perform_bind_iff.mpr ⟨trivial, fun (valid : Bool) _ => ?_⟩
  cases valid with
  | false => exact fun _ h => by cases h
  | true =>
    cases hread : readClaims settings token with
    | error error =>
      intro _ h
      cases h
    | ok claims =>
      refine follows_perform_bind_iff.mpr ⟨trivial, fun (used : Bool) _ => ?_⟩
      refine follows_perform_bind_iff.mpr ⟨trivial, fun (familyRevoked : Bool) _ => ?_⟩
      refine follows_perform_bind_iff.mpr ⟨trivial, fun (sessionsRevoked : Bool) _ => ?_⟩
      refine follows_perform_bind_iff.mpr ⟨trivial, fun (versionMatches : Bool) _ => ?_⟩
      exact finishRefresh_returns _ claims _

end Time

end Linkapro.Identity
