import Linkapro.Identity.Account

/-!
# Identity: provider identities

The link of an account to the identity of a provider, the policy that decides how a
provider identity meets an account, and what the Google adapter makes of the claims
that the provider returns.
-/

namespace Linkapro.Identity

/-- `OAuthProvider`. -/
inductive OAuthProvider : Type where
  | google
deriving DecidableEq

/-- The value of a provider. -/
def OAuthProvider.value : OAuthProvider → String
  | .google => "google"

/-- `OAuthToken`: a stored link to the identity of a provider. -/
structure OAuthToken where
  id : UUID
  userId : UUID
  provider : OAuthProvider
  providerUserId : String
  accessToken : String
  refreshToken : Option String
  expiresAt : Datetime
deriving DecidableEq

/-- `update_tokens`. -/
def OAuthToken.updateTokens (token : OAuthToken) (accessToken : String)
    (refreshToken : Option String) (expiresAt : Datetime) : OAuthToken :=
  { token with accessToken, refreshToken, expiresAt }

/-- `OAuthLinkingAction`. -/
inductive OAuthLinkingAction : Type where
  | createAccount
  | linkExistingAccount
  | relinkProviderIdentity
  | updateExistingLink
deriving DecidableEq

/-- `OAuthLinkingDecision`. -/
structure OAuthLinkingDecision where
  action : OAuthLinkingAction
  providerEmailVerificationTrusted : Bool
  canExistingPasswordAccountAutoLink : Bool
  stepUpRequired : Bool
  providerIdentityOwnedByAnotherAccount : Bool
deriving DecidableEq

/-- `is_provider_email_verification_trusted`: only an explicit `False` is not trusted. -/
def isProviderEmailVerificationTrusted (provider : OAuthProvider)
    (providerEmailVerified : Option Bool) : Bool :=
  provider = .google ∧ providerEmailVerified ≠ some false

/-- `can_existing_password_account_auto_link`. -/
def canExistingPasswordAccountAutoLink (account : User)
    (providerEmailVerificationTrusted : Bool) : Bool :=
  account.passwordHash.isSome ∧ providerEmailVerificationTrusted

/-- The action of `decide` for an existing account. -/
def linkingAction (ownedByOtherAccount : Bool) (existingAccountLink : Option OAuthToken) :
    OAuthLinkingAction :=
  if ownedByOtherAccount then .relinkProviderIdentity
  else if existingAccountLink.isSome then .updateExistingLink
  else .linkExistingAccount

/-- `OAuthLinkingPolicy.decide`. -/
def decideLinking (provider : OAuthProvider) (providerUserId : String) (account : Option User)
    (providerIdentityLink existingAccountLink : Option OAuthToken)
    (providerEmailVerified : Option Bool) : Except AccountError OAuthLinkingDecision :=
  let trusted := isProviderEmailVerificationTrusted provider providerEmailVerified
  match account with
  | none =>
    .ok
      { action := .createAccount
        providerEmailVerificationTrusted := trusted
        canExistingPasswordAccountAutoLink := false
        stepUpRequired := false
        providerIdentityOwnedByAnotherAccount := false }
  | some account =>
    if existingAccountLink.any fun link => link.providerUserId ≠ providerUserId then
      .error (.valueError "Google identity does not match existing linked account")
    else
      let ownedByOtherAccount := providerIdentityLink.any fun link => link.userId ≠ account.id
      .ok
        { action := linkingAction ownedByOtherAccount existingAccountLink
          providerEmailVerificationTrusted := trusted
          canExistingPasswordAccountAutoLink := canExistingPasswordAccountAutoLink account trusted
          stepUpRequired := false
          providerIdentityOwnedByAnotherAccount := ownedByOtherAccount }

/-- The policy creates an account exactly where there is none. -/
theorem decideLinking_createAccount {provider : OAuthProvider} {providerUserId : String}
    {account : Option User} {providerIdentityLink existingAccountLink : Option OAuthToken}
    {providerEmailVerified : Option Bool} {decision : OAuthLinkingDecision}
    (h : decideLinking provider providerUserId account providerIdentityLink existingAccountLink
      providerEmailVerified = .ok decision) :
    decision.action = .createAccount ↔ account = none := by
  cases account with
  | none =>
    cases h
    exact ⟨fun _ => rfl, fun _ => rfl⟩
  | some account =>
    unfold decideLinking at h
    split at h
    · next hnone => cases hnone
    · split at h
      · cases h
      · cases h
        refine ⟨fun h => ?_, fun h => by cases h⟩
        simp only [linkingAction] at h
        split at h
        · cases h
        · split at h
          · cases h
          · cases h

/-- `link_to`. -/
def OAuthToken.linkTo (token : OAuthToken) (accountId : UUID) (decision : OAuthLinkingDecision) :
    Except AccountError OAuthToken :=
  if accountId = token.userId then .ok token
  else if decision.action ≠ .relinkProviderIdentity ∨
      ¬ decision.providerIdentityOwnedByAnotherAccount then
    .error (.valueError "OAuth identity reassignment is not authorized")
  else .ok { token with userId := accountId }

/-- The claims that the userinfo endpoint returns. A missing claim is `None`. -/
structure GoogleClaims where
  sub : JsonValue
  email : JsonValue
  emailVerified : JsonValue
  name : JsonValue
  givenName : JsonValue
  familyName : JsonValue
deriving DecidableEq

/-- The response of the token endpoint. -/
structure GoogleTokenData where
  accessToken : JsonValue
  refreshToken : JsonValue
  expiresIn : Option ℤ
deriving DecidableEq

/-- What `get_user_info` returns. -/
structure GoogleUserInfo where
  googleId : JsonValue
  email : JsonValue
  name : JsonValue
  givenName : JsonValue
  familyName : JsonValue
  emailVerified : Bool

/-- `ProviderIdentity`. -/
structure ProviderIdentity where
  provider : OAuthProvider
  providerUserId : String
  email : Email
  firstName : String
  lastName : String
  emailVerified : Option Bool

/-- `GoogleLoginCommand`. -/
structure GoogleLoginCommand where
  identity : ProviderIdentity
  accessToken : String
  refreshToken : Option String
  expiresAt : Datetime
  signupRole : Option UserRole

/-- `str(value or "")`. -/
def textOr (value : JsonValue) : String := if value.isTruthy then value.render else ""

/-- The claims refuse the address: `email_verified` is false, as a value or as text. -/
def GoogleClaims.deniesEmail (claims : GoogleClaims) : Bool :=
  lower claims.emailVerified.render = "false"

/-- The claims assert that the address is verified. -/
def GoogleClaims.assertsEmail (claims : GoogleClaims) : Bool :=
  lower claims.emailVerified.render = "true"

/-- `get_user_info` after the response has been read. Claims that do not deny the address
count as verified. -/
def getUserInfo (claims : GoogleClaims) : Except AccountError GoogleUserInfo :=
  if ¬ claims.sub.isTruthy ∨ ¬ claims.email.isTruthy then
    .error (.googleOAuthAdapter "Google userinfo missing required identity fields")
  else if claims.deniesEmail then .error (.googleOAuthAdapter "Google email is not verified")
  else
    .ok
      { googleId := claims.sub
        email := claims.email
        name := claims.name
        givenName := claims.givenName
        familyName := claims.familyName
        emailVerified := true }

/-- `full_name.split(maxsplit=1)` of a text that is stripped and not empty. -/
def splitFullName (fullName : String) : String × String :=
  let first := fullName.toList.takeWhile fun c => ¬ isSpace c
  let rest := (fullName.toList.dropWhile fun c => ¬ isSpace c).dropWhile isSpace
  (String.ofList first, if rest = [] then "User" else String.ofList rest)

/-- `_split_name`. -/
def splitName (info : GoogleUserInfo) : String × String :=
  let firstName := strip (textOr info.givenName)
  let lastName := strip (textOr info.familyName)
  let fullName := strip (textOr info.name)
  if firstName ≠ "" then (firstName, if lastName = "" then "User" else lastName)
  else if fullName ≠ "" then splitFullName fullName
  else ("Google", "User")

/-- `_to_login_command` at the instant `now`. -/
def toLoginCommand (info : GoogleUserInfo) (tokenData : GoogleTokenData)
    (signupRole : Option UserRole) (now : Datetime) : Except AccountError GoogleLoginCommand := do
  let googleId := strip (textOr info.googleId)
  let email ← Email.of (lower (strip (textOr info.email)))
  if googleId = "" then
    .error (.googleOAuthAdapter "Google userinfo missing required identity fields")
  else if textOr tokenData.accessToken = "" then
    .error (.googleOAuthAdapter "Google token response missing access_token")
  else
    let expiresIn := (tokenData.expiresIn.filter fun n => n ≠ 0).getD 3600
    .ok
      { identity :=
          { provider := .google
            providerUserId := googleId
            email
            firstName := (splitName info).1
            lastName := (splitName info).2
            emailVerified := some info.emailVerified }
        accessToken := textOr tokenData.accessToken
        refreshToken := nonEmpty (some (textOr tokenData.refreshToken))
        expiresAt := now + seconds expiresIn
        signupRole }

end Linkapro.Identity
