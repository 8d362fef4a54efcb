import Linkapro.Identity.SelfService

/-!
# Identity: provider logins and the commands of the component

The login with a provider identity and the relinking of such an identity, and the
list of all commands that change an account, with the kinds of commands that differ
in what they may change.
-/

namespace Linkapro.Identity

open Lib Lib.Action

/-- `evaluate_oauth_login`. -/
def evaluateOAuthLogin (user : User) : AccountAction AuthenticationDecision :=
  let eligibility := evaluateAuthenticationEligibility user
  if eligibility.allowed then finalizeLogin user eligibility
  else pure { status := .inactive, user }

/-- What the first part of `GoogleLoginUseCase._execute` has settled. -/
structure LinkedAccount where
  user : User
  pending : List AccountStatement
  oauthTokenToSave : Option OAuthToken

/-- The link that a login command describes. -/
def GoogleLoginCommand.oauthToken (cmd : GoogleLoginCommand) (id userId : UUID) : OAuthToken where
  id := id
  userId := userId
  provider := cmd.identity.provider
  providerUserId := strip cmd.identity.providerUserId
  accessToken := cmd.accessToken
  refreshToken := cmd.refreshToken
  expiresAt := cmd.expiresAt

/-- A link with the tokens of a login command. -/
def GoogleLoginCommand.update (cmd : GoogleLoginCommand) (token : OAuthToken) : OAuthToken :=
  token.updateTokens cmd.accessToken cmd.refreshToken cmd.expiresAt

/-- The end of a branch that has linked the identity: the link is recorded and saved. -/
def recordLink (provider : OAuthProvider) (pending : List AccountStatement) (user : User)
    (oauthTokenToSave : Option OAuthToken) : AccountAction LinkedAccount := do
  let user := user.linkOAuthProvider provider.value
  let saved ← savePending pending user
  dispatchEvents user
  pure { user := { user with events := [] }, pending := saved.statements, oauthTokenToSave }

/-- The branch that creates an account, marked verified. -/
def createLinkedAccount (cmd : GoogleLoginCommand) : AccountAction LinkedAccount := do
  let id : UUID ← query .newId
  let role ← presentOr (.valueError "None is not a valid UserRole") cmd.signupRole
  let newUser ← orRaise (User.registerNew id cmd.identity.email none cmd.identity.firstName
    cmd.identity.lastName role true)
  let saved ← savePending [] newUser
  dispatchEvents newUser
  let tokenId : UUID ← serve .uuid4
  serve (.saveOAuthToken (cmd.oauthToken tokenId saved.user.id))
  recordLink cmd.identity.provider saved.statements saved.user none

/-- The link that an existing account gets: the stored one or a new one. -/
def linkFor (cmd : GoogleLoginCommand) (user : User) : Option OAuthToken → AccountAction OAuthToken
  | some link => pure link
  | none => do
    let tokenId : UUID ← serve .uuid4
    pure (cmd.oauthToken tokenId user.id)

/-- The branch that links an existing account. -/
def linkExistingAccount (cmd : GoogleLoginCommand) (user : User)
    (providerIdentityLink : Option OAuthToken) : AccountAction LinkedAccount := do
  let token ← linkFor cmd user providerIdentityLink
  recordLink cmd.identity.provider [] user (some (cmd.update token))

/-- The branches of `_execute` after the linking policy has decided. -/
def followDecision (cmd : GoogleLoginCommand) (decision : OAuthLinkingDecision)
    (account : Option User) (providerIdentityLink existingUserLink : Option OAuthToken) :
    AccountAction LinkedAccount :=
  match decision.action, account with
  | .createAccount, _ | _, none => createLinkedAccount cmd
  | .relinkProviderIdentity, some _ =>
    throw (.oauthRelinkRequiresStepUp "OAuth relink requires step-up verification")
  | .updateExistingLink, some user =>
    pure { user, pending := [], oauthTokenToSave := existingUserLink.map cmd.update }
  | .linkExistingAccount, some user => linkExistingAccount cmd user providerIdentityLink

/-- `_execute` after the decision of the session issuer, with the commit of the unit of
work. -/
def finishGoogleLogin (linked : LinkedAccount) (decision : AuthenticationDecision) :
    AccountAction AuthenticationDecision :=
  match decision.status with
  | .mfaRequired => do
    linked.oauthTokenToSave.toList.forM fun token => serve (.saveOAuthToken token)
    query (.commit linked.pending)
    pure decision
  | .authenticated => do
    linked.oauthTokenToSave.toList.forM fun token => serve (.saveOAuthToken token)
    let now : Datetime ← serve .utcNow
    let user := linked.user.recordLogin now
    let saved ← savePending linked.pending user
    dispatchEvents user
    query (.commit saved.statements)
    pure decision
  | status => throw (.valueError ("Authentication failed: " ++ status.value))

/-- The link of an account to the provider, if there is an account. -/
def existingLink (provider : OAuthProvider) : Option User → AccountAction (Option OAuthToken)
  | none => pure none
  | some user => serve (.getOAuthByUser user.id provider)

/-- `GoogleLoginUseCase.execute` after the account has been looked up. -/
def googleLoginFound (cmd : GoogleLoginCommand) (account : Option User) :
    AccountAction AuthenticationDecision := do
  let providerUserId := strip cmd.identity.providerUserId
  let providerIdentityLink : Option OAuthToken ←
    serve (.getOAuthByProviderUser cmd.identity.provider providerUserId)
  let existingUserLink ← existingLink cmd.identity.provider account
  let decision ← orRaise (decideLinking cmd.identity.provider providerUserId account
    providerIdentityLink existingUserLink cmd.identity.emailVerified)
  let linked ← followDecision cmd decision account providerIdentityLink existingUserLink
  let login ← evaluateOAuthLogin linked.user
  finishGoogleLogin linked login

/-- `GoogleLoginUseCase.execute`. -/
def googleLogin (cmd : GoogleLoginCommand) : AccountAction AuthenticationDecision := do
  if strip cmd.identity.providerUserId = "" then
    throw (.valueError "Google user data missing required fields")
  else
    let account ← getByEmail cmd.identity.email
    googleLoginFound cmd account

/-- A login with the claims of the provider: the adapter reads them, then the use case runs. -/
def signInWithGoogle (claims : GoogleClaims) (tokenData : GoogleTokenData)
    (signupRole : Option UserRole) : AccountAction AuthenticationDecision := do
  let info ← orRaise (getUserInfo claims)
  let now : Datetime ← serve .utcNow
  let cmd ← orRaise (toLoginCommand info tokenData signupRole now)
  googleLogin cmd

/-- `ConfirmOAuthRelinkCommand`. -/
structure ConfirmOAuthRelinkCommand where
  targetUserId : UUID
  provider : OAuthProvider
  providerUserId : String
  stepUpGrant : String
  providerEmailVerified : Option Bool
deriving DecidableEq

/-- `OAUTH_RELINK_STEP_UP_PURPOSE`. -/
def oauthRelinkStepUpPurpose : String := "oauth_relink"

/-- `_execute_locked` after the step-up grant has been verified, with the commit. -/
def relinkIdentity (cmd : ConfirmOAuthRelinkCommand) (account : User) (identity : OAuthToken)
    (decision : OAuthLinkingDecision) : AccountAction Unit := do
  let identity ← orRaise (identity.linkTo account.id decision)
  let account := account.linkOAuthProvider cmd.provider.value
  let saved ← savePending [] account
  serve (.saveOAuthToken identity)
  serve (.consumeStepUpGrant cmd.stepUpGrant account.id oauthRelinkStepUpPurpose)
  dispatchEvents account
  query (.commit saved.statements)

/-- `_execute_locked` after the account and the identity have been found. -/
def relinkFound (cmd : ConfirmOAuthRelinkCommand) (account : User) (identity : OAuthToken) :
    AccountAction Unit := do
  let existing : Option OAuthToken ← serve (.getOAuthByUser account.id cmd.provider)
  let decision ← orRaise (decideLinking cmd.provider cmd.providerUserId (some account)
    (some identity) existing cmd.providerEmailVerified)
  if decision.action ≠ .relinkProviderIdentity ∨ ¬ decision.providerIdentityOwnedByAnotherAccount then
    throw (.oauthRelinkRequiresStepUp "OAuth relink requires a cross-account provider identity")
  else if cmd.stepUpGrant = "" then
    throw (.oauthRelinkRequiresStepUp "OAuth relink requires step-up verification")
  else
    let granted : Bool ←
      serve (.verifyStepUpGrant cmd.stepUpGrant account.id oauthRelinkStepUpPurpose)
    if granted then relinkIdentity cmd account identity decision
    else throw (.oauthRelinkRequiresStepUp "OAuth relink requires step-up verification")

/-- `ConfirmOAuthRelinkUseCase.execute`. -/
def confirmOAuthRelink (cmd : ConfirmOAuthRelinkCommand) : AccountAction Unit := do
  let found ← getById cmd.targetUserId
  let account ← foundOr "User not found" found
  let identity : Option OAuthToken ←
    serve (.getOAuthByProviderUser cmd.provider cmd.providerUserId)
  let identity ← presentOr
    (.oauthRelinkRequiresStepUp "OAuth relink requires an existing provider identity") identity
  relinkFound cmd account identity

/-- One execution of any handler that changes an account. -/
inductive IdentityCommand : Type where
  | account (command : AccountCommand)
  | registerAccount (email : Email) (plainPassword firstName lastName : String) (role : UserRole)
  | verifyEmail (verificationToken : String)
  | setupPassword (userId : UUID) (plainPassword : String)
  | resetPassword (cmd : ResetPasswordCommand)
  | confirmMfaEnrollment (userId : UUID) (token : String)
  | disableMfa (userId : UUID)
  | completeMfaLogin (tempToken token : String)
  | googleLogin (claims : GoogleClaims) (tokenData : GoogleTokenData)
      (signupRole : Option UserRole)
  | confirmOAuthRelink (cmd : ConfirmOAuthRelinkCommand)
  | banUser (adminId userId : UUID)
  | suspendUser (adminId userId : UUID)
  | reinstateUser (adminId userId : UUID)
  | adminUserBan (adminId userId : UUID)
  | adminUserReinstate (adminId userId : UUID)
  | lockAccount (userId : UUID)
  | restoreAccount (userId actorUserId : UUID) (reason : Option String)
deriving DecidableEq

namespace IdentityCommand

/-- The program of an execution. -/
def program : IdentityCommand → AccountAction Unit
  | .account command => command.program
  | .registerAccount email plainPassword firstName lastName role =>
    Identity.registerAccount email plainPassword firstName lastName role
  | .verifyEmail verificationToken => Identity.verifyEmail verificationToken
  | .setupPassword userId plainPassword => Identity.setupPassword userId plainPassword
  | .resetPassword cmd => Identity.resetPassword cmd
  | .confirmMfaEnrollment userId token => Identity.confirmMfaEnrollment userId token
  | .disableMfa userId => Identity.disableMfa userId
  | .completeMfaLogin tempToken token => do
    let _ ← Identity.completeMfaLogin tempToken token
  | .googleLogin claims tokenData signupRole => do
    let _ ← signInWithGoogle claims tokenData signupRole
  | .confirmOAuthRelink cmd => Identity.confirmOAuthRelink cmd
  | .banUser adminId userId => Identity.banUser adminId userId
  | .suspendUser adminId userId => Identity.suspendUser adminId userId
  | .reinstateUser adminId userId => Identity.reinstateUser adminId userId
  | .adminUserBan adminId userId => Identity.adminUserBan adminId userId
  | .adminUserReinstate adminId userId => Identity.adminUserReinstate adminId userId
  | .lockAccount userId => changeStored userId User.lock
  | .restoreAccount userId actorUserId reason =>
    changeStored userId fun user => user.restore actorUserId reason

/-- The account that an explicit operation of an administrator makes active. -/
def activatedUser : IdentityCommand → Option UUID
  | .account command => command.activatedUser
  | .reinstateUser _ userId | .adminUserReinstate _ userId | .restoreAccount userId _ _ =>
    some userId
  | _ => none

/-- The commands that create an account. -/
def creates : IdentityCommand → Bool
  | .registerAccount _ _ _ _ _ | .googleLogin _ _ _ => true
  | _ => false

/-- The email verification, which makes an unverified account active. -/
def verifies : IdentityCommand → Bool
  | .verifyEmail _ => true
  | _ => false

/-- The confirmation of a new second factor. -/
def enrolls : IdentityCommand → Bool
  | .confirmMfaEnrollment _ _ => true
  | _ => false

/-- The account that an endpoint disables by its flag alone. -/
def flaggedUser : IdentityCommand → Option UUID
  | .adminUserBan _ userId => some userId
  | _ => none

end IdentityCommand

end Linkapro.Identity
