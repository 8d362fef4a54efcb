import Linkapro.Identity.AccountStore

/-!
# Identity: account handlers

The account use cases as programs over the table of users. Each of them loads the
aggregate, changes it in memory and saves every column of it. The part of a login
that opens a session and the revocation of all sessions are written for any monad
with the session services, since the session handlers share them.
-/

namespace Linkapro.Identity

open Lib Lib.Action

/-- A program of an account handler. -/
abbrev AccountAction (α : Type) : Type := Action AccountError AccountOp.Ret α

/-- A performed call of an account handler. -/
abbrev AccountCall : Type := Call (Raising AccountError AccountOp.Ret)

/-- The calls that one execution has performed, newest first. -/
abbrev AccountLog : Type := Log (Raising AccountError AccountOp.Ret)

/-- One call. -/
abbrev query (op : AccountOp) : AccountAction op.Ret := perform op

/-- One call on a service. -/
abbrev serve (call : ServiceCall) : AccountAction call.Ret := query (.service call)

/-- Continue with a computed value or raise its error. -/
def orRaise {α : Type} : Except AccountError α → AccountAction α
  | .ok value => pure value
  | .error error => throw error

/-- The aggregate of a row that a query has found. -/
def rowToDomain : Option UserRow → AccountAction (Option User)
  | none => pure none
  | some row => do
    let user ← orRaise row.toDomain
    pure (some user)

/-- `get_by_id`. -/
def getById (userId : UUID) : AccountAction (Option User) := do
  let row : Option UserRow ← query (.getById userId)
  rowToDomain row

/-- `get_by_email`. -/
def getByEmail (email : Email) : AccountAction (Option User) := do
  let row : Option UserRow ← query (.getByEmail email)
  rowToDomain row

/-- An aggregate that has to exist. -/
def foundOr (message : String) : Option User → AccountAction User
  | none => throw (.userNotFound message)
  | some user => pure user

/-- The password column of an aggregate that is saved. -/
def storedPassword (user : User) : AccountAction String :=
  match user.passwordHash with
  | some hash => pure hash.value
  | none => do
    let suffix : String ← serve .randomPasswordSuffix
    pure ("!" ++ suffix)

/-- The statement after `django_user.save()`: a new password is remembered. -/
def rememberNewPassword (user : User) (previousPassword : Option String) : List AccountStatement :=
  match user.passwordHash with
  | some hash =>
    if some hash.value ≠ previousPassword then [.rememberPasswordHash user.id hash.value] else []
  | none => []

/-- What `save` is going to write: the row and the statements that follow it. -/
structure SavePlan where
  row : UserRow
  remembered : List AccountStatement

/-- `save` up to its statements, which it derives from the aggregate and the stored row. -/
def prepareSave (pending : List AccountStatement) (user : User) : AccountAction SavePlan := do
  let stored : Option UserRow ← query (.getStored pending user.id)
  let password ← storedPassword user
  pure
    { row := UserRow.ofDomain user password stored
      remembered := rememberNewPassword user (stored.map UserRow.password) }

/-- `save` outside a unit of work: each statement commits on its own. -/
def save (user : User) : AccountAction User := do
  let plan ← prepareSave [] user
  query (.commit [.saveUser plan.row])
  plan.remembered.forM fun statement => query (.commit [statement])
  orRaise plan.row.toDomain

/-- What `save` inside a unit of work leaves: the saved aggregate and all statements of the
unit of work so far. -/
structure PendingSave where
  user : User
  statements : List AccountStatement

/-- `save` inside a unit of work: its statements join the pending ones. -/
def savePending (pending : List AccountStatement) (user : User) : AccountAction PendingSave := do
  let plan ← prepareSave pending user
  let saved ← orRaise plan.row.toDomain
  pure { user := saved, statements := pending ++ .saveUser plan.row :: plan.remembered }

/-- `for event in user.pull_events(): event_outbox.dispatch(event)`. -/
def dispatchEvents (user : User) : AccountAction Unit :=
  user.events.forM fun event => serve (.dispatch event)

/-- `save_and_dispatch`. -/
def saveAndDispatch (target : User) : AccountAction Unit := do
  let _ ← save target
  dispatchEvents target

/-- The session services, as far as account handlers and session handlers share them. -/
structure SessionServices (m : Type → Type) where
  uuid4 : m UUID
  createIdentitySession (userId tokenFamily : UUID) : m String
  createAccessToken (claims : TokenClaims) : m AccessToken
  createRefreshToken (claims : TokenClaims) : m RefreshToken
  listActiveIdentitySessions (userId : UUID) : m (List ActiveSession)
  blacklistFamily (tokenFamily : String) : m Unit
  revokeAllIdentitySessions (userId : UUID) (reason : String) : m ℕ

/-- The session services of an account handler. -/
def accountSessions : SessionServices AccountAction where
  uuid4 := serve .uuid4
  createIdentitySession userId tokenFamily := serve (.createIdentitySession userId tokenFamily)
  createAccessToken claims := query (.createAccessToken claims)
  createRefreshToken claims := query (.createRefreshToken claims)
  listActiveIdentitySessions userId := serve (.listActiveIdentitySessions userId)
  blacklistFamily tokenFamily := serve (.blacklistFamily tokenFamily)
  revokeAllIdentitySessions userId reason := serve (.revokeAllIdentitySessions userId reason)

/-- `RevokeAllSessionsUseCase.execute`. -/
def revokeAllSessions {m : Type → Type} [Monad m] (services : SessionServices m) (userId : UUID)
    (reason : String) : m ℕ := do
  let sessions ← services.listActiveIdentitySessions userId
  sessions.forM fun session => services.blacklistFamily session.tokenFamily
  services.revokeAllIdentitySessions userId reason

/-- `AuthenticationStatus`. -/
inductive AuthenticationStatus : Type where
  | authenticated
  | mfaRequired
  | userNotFound
  | passwordMismatch
  | inactive
  | socialLoginOnly
  | invalidTempToken
  | invalidMfaCode
  | locked
deriving DecidableEq

/-- The text of a status. -/
def AuthenticationStatus.value : AuthenticationStatus → String
  | .authenticated => "authenticated"
  | .mfaRequired => "mfa_required"
  | .userNotFound => "user_not_found"
  | .passwordMismatch => "password_mismatch"
  | .inactive => "inactive"
  | .socialLoginOnly => "social_login_only"
  | .invalidTempToken => "invalid_temp_token"
  | .invalidMfaCode => "invalid_mfa_code"
  | .locked => "locked"

/-- `AuthenticationDecision`. -/
structure AuthenticationDecision where
  status : AuthenticationStatus
  user : Option User := none
  accessToken : Option AccessToken := none
  refreshToken : Option RefreshToken := none
  tempToken : Option String := none

/-- `_issue_authenticated_tokens`. -/
def issueAuthenticatedTokens {m : Type → Type} [Monad m] (services : SessionServices m)
    (user : User) : m AuthenticationDecision := do
  let family ← services.uuid4
  let sessionId ← services.createIdentitySession user.id family
  let claims : TokenClaims :=
    { userId := user.id, role := user.role, family, sessionId
      authTokenVersion := user.authTokenVersion }
  let accessToken ← services.createAccessToken claims
  let refreshToken ← services.createRefreshToken claims
  pure { status := .authenticated, user, accessToken, refreshToken }

/-- `_finalize_login`. -/
def finalizeLogin (user : User) (eligibility : AuthenticationEligibility) :
    AccountAction AuthenticationDecision :=
  if eligibility.requiresMfa then do
    let now : Datetime ← serve .utcNow
    let challengeId : UUID ← serve .uuid4
    serve (.saveMfaChallenge (MfaChallenge.issue challengeId user.id .totp now))
    let tempToken : String ← serve (.createTempToken user.id challengeId)
    pure { status := .mfaRequired, user, tempToken }
  else issueAuthenticatedTokens accountSessions user

/-- `evaluate_password_login`. -/
def evaluatePasswordLogin (user : User) (plainPassword : String) :
    AccountAction AuthenticationDecision :=
  let eligibility := evaluateAuthenticationEligibility user
  if eligibility.allowed then
    match user.passwordHash with
    | none => pure { status := .socialLoginOnly, user }
    | some hash => do
      let matching : Bool ← serve (.verifyPassword plainPassword hash)
      if matching then finalizeLogin user eligibility
      else pure { status := .passwordMismatch, user }
  else pure { status := .inactive, user }

/-- `_record_invalid_credentials`. -/
def recordInvalidCredentials (accountKey : String) (user : Option User)
    (status : AuthenticationStatus) : AccountAction AuthenticationDecision := do
  let locked : Bool ← serve (.recordFailure accountKey)
  pure { status := if locked then .locked else status, user }

/-- `LoginWithPasswordUseCase.execute` after the decision of the session issuer. -/
def finishLogin (accountKey : String) (user : User) (decision : AuthenticationDecision) :
    AccountAction AuthenticationDecision :=
  match decision.status with
  | .passwordMismatch => recordInvalidCredentials accountKey user decision.status
  | .mfaRequired => do
    serve (.recordSuccess accountKey)
    pure decision
  | .authenticated => do
    serve (.recordSuccess accountKey)
    let now : Datetime ← serve .utcNow
    saveAndDispatch (user.recordLogin now)
    pure decision
  | _ => pure decision

/-- `LoginWithPasswordUseCase.execute` after the account has been looked up. An aggregate
always has a role. -/
def loginFound (accountKey plainPassword : String) :
    Option User → AccountAction AuthenticationDecision
  | none => do
    serve (.verifyAgainstDummy plainPassword)
    recordInvalidCredentials accountKey none .userNotFound
  | some user => do
    let decision ← evaluatePasswordLogin user plainPassword
    finishLogin accountKey user decision

/-- `LoginWithPasswordUseCase.execute`. -/
def loginWithPassword (email : Email) (plainPassword : String) :
    AccountAction AuthenticationDecision := do
  let locked : Bool ← serve (.isLocked email.value)
  if locked then pure { status := .locked }
  else
    let user ← getByEmail email
    loginFound email.value plainPassword user

/-- `UpdateAccountProfileUseCase.execute`. -/
def updateAccountProfile (userId : UUID) (firstName lastName : Option String) :
    AccountAction User := do
  let found ← getById userId
  let user ← foundOr "User not found" found
  let user ← orRaise (user.updateProfile firstName lastName)
  save user

/-- `AccountAdministrationContext`. -/
structure AccountAdministrationContext where
  actor : User
  target : User

/-- The actor of an administration, which may be missing from the command. -/
def loadActor : Option UUID → AccountAction User
  | none =>
    throw (.roleAssignmentRequiresActor "Account administration requires an authorizing actor")
  | some actorId => do
    let found ← getById actorId
    foundOr "Actor not found" found

/-- `load_authorized_account_administration_context`. -/
def loadAuthorizedContext (actorId : Option UUID) (targetUserId : UUID) :
    AccountAction AccountAdministrationContext := do
  let found ← getById targetUserId
  let target ← foundOr "User not found" found
  let actor ← loadActor actorId
  orRaise (ensureCanAssign
    { targetUserId := target.id, currentRole := target.role, newRole := target.role
      actorUserId := actor.id, actorRole := actor.role })
  pure { actor, target }

/-- The common course of the administrations: authorize, change the target, save it. -/
def administer (actorId : Option UUID) (targetUserId : UUID)
    (change : AccountAdministrationContext → Except AccountError User) : AccountAction User := do
  let context ← loadAuthorizedContext actorId targetUserId
  let target ← orRaise (change context)
  saveAndDispatch target
  pure target

/-- `AssignRoleUseCase.execute`. -/
def assignRole (actorId : Option UUID) (targetUserId : UUID) (newRole : UserRole)
    (reason : Option SecurityReason) : AccountAction Unit := do
  let _ ← administer actorId targetUserId fun context =>
    context.target.changeRole newRole context.actor.id context.actor.role reason

/-- `DeactivateAccountUseCase.execute`. -/
def deactivateAccount (actorId : Option UUID) (userId : UUID) (reason : Option String) :
    AccountAction Unit := do
  let target ← administer actorId userId fun context =>
    context.target.deactivate context.actor.id reason
  let _ ← revokeAllSessions accountSessions target.id "account_deactivated"

/-- `SuspendAccountUseCase.execute`. -/
def suspendAccount (actorId : Option UUID) (targetUserId : UUID) (reason : SecurityReason) :
    AccountAction Unit := do
  let target ← administer actorId targetUserId fun context =>
    context.target.suspend reason context.actor.id
  let _ ← revokeAllSessions accountSessions target.id "account_suspended"

/-- `ReactivateAccountUseCase.execute`. -/
def reactivateAccount (actorId : Option UUID) (targetUserId : UUID) (reason : Option String) :
    AccountAction Unit := do
  let _ ← administer actorId targetUserId fun context =>
    context.target.activate context.actor.id reason

/-- `UnlockAccountUseCase.execute`. -/
def unlockAccount (actorId : Option UUID) (targetUserId : UUID) (reason : Option String) :
    AccountAction Unit := do
  let _ ← administer actorId targetUserId fun context =>
    context.target.unlock context.actor.id reason

/-- The check of the current password. -/
def verifyCurrentPassword (user : User) (currentPassword : String) : AccountAction Unit :=
  match user.passwordHash with
  | none => throw (.invalidCredentials "Invalid credentials")
  | some hash => do
    let matching : Bool ← serve (.verifyPassword currentPassword hash)
    if matching then pure () else throw (.invalidCredentials "Invalid credentials")

/-- `get_password_history` of a stored row. -/
def passwordHistoryOf (userId : UUID) : Option UserRow → AccountAction (List PasswordHash)
  | none => pure []
  | some row => do
    let current ← orRaise row.passwordHash
    let former : List String ← query (.passwordHistory userId)
    let former ← orRaise (former.mapM PasswordHash.of)
    pure ((current.toList ++ former).take passwordHistoryLimit)

/-- `get_password_history`. -/
def getPasswordHistory (userId : UUID) : AccountAction (List PasswordHash) := do
  let row : Option UserRow ← query (.getById userId)
  passwordHistoryOf userId row

/-- `PasswordHistory.ensure_not_reused`. -/
def ensureNotReused (plainPassword : String) (history : List PasswordHash) : AccountAction Unit :=
  history.forM fun hash => do
    let matching : Bool ← serve (.verifyPassword plainPassword hash)
    if matching then throw (.passwordReuseNotAllowed "Password was used recently") else pure ()

/-- The unit of work of a password change. What it saves becomes visible when it commits. -/
def changePasswordUnitOfWork (user : User) (newPassword : String) (newPasswordHash : PasswordHash)
    (history : List PasswordHash) (reason : String) : AccountAction Unit := do
  ensureNotReused newPassword history
  let user := user.changePassword newPasswordHash
  let saved ← savePending [] user
  let _ ← revokeAllSessions accountSessions user.id reason
  dispatchEvents user
  query (.commit saved.statements)

/-- `ChangePasswordUseCase.execute`. -/
def changePassword (userId : UUID) (currentPassword newPassword : String) :
    AccountAction Unit := do
  let found ← getById userId
  let user ← foundOr "User not found" found
  verifyCurrentPassword user currentPassword
  orRaise (validatePassword newPassword)
  let history ← getPasswordHistory user.id
  let encoded : String ← serve (.hashPassword newPassword)
  let newPasswordHash ← orRaise (PasswordHash.of encoded)
  changePasswordUnitOfWork user newPassword newPasswordHash history "password_changed"

/-- `revoke_user_sessions`. The version that it reads afterwards is only logged. -/
def revokeUserSessions (userId : UUID) (bumpAuthTokenVersion : Bool) : AccountAction Unit := do
  if bumpAuthTokenVersion then
    let updated : ℕ ← query (.bumpAuthTokenVersion userId)
    if updated = 0 then pure ()
    else
      let _ : Option UserRow ← query (.getById userId)
  else
    let _ : Option UserRow ← query (.getById userId)
  serve (.cacheSessionRevocation userId)

/-- One execution of an account handler. -/
inductive AccountCommand : Type where
  | loginWithPassword (email : Email) (plainPassword : String)
  | updateAccountProfile (userId : UUID) (firstName lastName : Option String)
  | assignRole (actorId : Option UUID) (targetUserId : UUID) (newRole : UserRole)
      (reason : Option SecurityReason)
  | deactivateAccount (actorId : Option UUID) (userId : UUID) (reason : Option String)
  | suspendAccount (actorId : Option UUID) (targetUserId : UUID) (reason : SecurityReason)
  | reactivateAccount (actorId : Option UUID) (targetUserId : UUID) (reason : Option String)
  | unlockAccount (actorId : Option UUID) (targetUserId : UUID) (reason : Option String)
  | changePassword (userId : UUID) (currentPassword newPassword : String)
  | revokeUserSessions (userId : UUID) (bumpAuthTokenVersion : Bool)
deriving DecidableEq

namespace AccountCommand

/-- The program of an execution. -/
def program : AccountCommand → AccountAction Unit
  | .loginWithPassword email plainPassword => do
    let _ ← Identity.loginWithPassword email plainPassword
  | .updateAccountProfile userId firstName lastName => do
    let _ ← Identity.updateAccountProfile userId firstName lastName
  | .assignRole actorId targetUserId newRole reason =>
    Identity.assignRole actorId targetUserId newRole reason
  | .deactivateAccount actorId userId reason => Identity.deactivateAccount actorId userId reason
  | .suspendAccount actorId targetUserId reason =>
    Identity.suspendAccount actorId targetUserId reason
  | .reactivateAccount actorId targetUserId reason =>
    Identity.reactivateAccount actorId targetUserId reason
  | .unlockAccount actorId targetUserId reason => Identity.unlockAccount actorId targetUserId reason
  | .changePassword userId currentPassword newPassword =>
    Identity.changePassword userId currentPassword newPassword
  | .revokeUserSessions userId bumpAuthTokenVersion =>
    Identity.revokeUserSessions userId bumpAuthTokenVersion

/-- The account that an explicit operation of an administrator makes active. -/
def activatedUser : AccountCommand → Option UUID
  | .reactivateAccount _ targetUserId _ | .unlockAccount _ targetUserId _ => some targetUserId
  | _ => none

end AccountCommand

end Linkapro.Identity
