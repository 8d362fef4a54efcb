import Linkapro.Identity.AccountHandlers

/-!
# Identity: self-service and administration

The flows that an account holder starts without an administrator: registration,
email verification, password setup and reset, and the second factor. After them the
governance handlers and the admin endpoints that disable and enable accounts.
-/

namespace Linkapro.Identity

open Lib Lib.Action

/-- `RegisterAccountUseCase.execute`. -/
def registerAccount (email : Email) (plainPassword firstName lastName : String) (role : UserRole) :
    AccountAction Unit := do
  let existing ← getByEmail email
  if existing.isSome then throw (.duplicateUser "User with this email already exists")
  else
    let encoded : String ← serve (.hashPassword plainPassword)
    let id : UUID ← query .newId
    let passwordHash ← orRaise (PasswordHash.of encoded)
    let user ← orRaise (User.registerNew id email (some passwordHash) firstName lastName role false)
    let saved ← savePending [] user
    dispatchEvents user
    query (.commit saved.statements)

/-- `VerifyEmailUseCase.execute` after the challenge and the account have been found. -/
def verifyEmailFound (challenge : VerificationChallenge) (user : User) : AccountAction Unit := do
  let now : Datetime ← serve .utcNow
  let consumed := challenge.consume now
  if ¬ consumed.accepted then
    serve (.saveVerificationChallenge consumed.challenge)
    throw (.invalidCredentials "Invalid or expired verification token")
  else
    orRaise (ensureTerminalChallengeSucceeded consumed.challenge .email)
    let user := user.markVerified
    serve (.saveVerificationChallenge consumed.challenge)
    let _ ← save user
    consumed.events.forM fun event => serve (.dispatchVerification event)
    dispatchEvents user

/-- A value without which a flow ends with an error. -/
def presentOr {α : Type} (error : AccountError) : Option α → AccountAction α
  | none => throw error
  | some value => pure value

/-- `VerifyEmailUseCase.execute`. A text that is not a UUID counts as no challenge. -/
def verifyEmail (verificationToken : String) : AccountAction Unit := do
  let invalid := AccountError.invalidCredentials "Invalid or expired verification token"
  let challengeId : Option UUID ← serve (.verifyEmailVerificationToken verificationToken)
  let challengeId ← presentOr invalid challengeId
  let challenge : Option VerificationChallenge ← serve (.getVerificationChallenge challengeId)
  let challenge ← presentOr invalid challenge
  let found ← getById challenge.userId
  let user ← foundOr "User not found" found
  verifyEmailFound challenge user

/-- `SetupPasswordUseCase.execute`. It does not ask whether the account has a password. -/
def setupPassword (userId : UUID) (plainPassword : String) : AccountAction Unit := do
  let found ← getById userId
  let user ← foundOr "User not found" found
  orRaise (validatePassword plainPassword)
  let history ← getPasswordHistory user.id
  let encoded : String ← serve (.hashPassword plainPassword)
  let passwordHash ← orRaise (PasswordHash.of encoded)
  changePasswordUnitOfWork user plainPassword passwordHash history "password_setup"

/-- `ResetPasswordCommand`. -/
structure ResetPasswordCommand where
  token : String
  newPassword : String
  clientIpHash : String
  userAgentHash : String
deriving DecidableEq

/-- The mark of an expired token, which belongs to the unit of work that is rolled back. -/
def markIfExpired (token : PasswordResetToken) (now : Datetime) : AccountAction Unit :=
  if token.isExpired now then serve (.markTokenExpired token now) else pure ()

/-- The check of a presented reset token. -/
def ensureResetTokenUsable (token : PasswordResetToken) (now : Datetime) : AccountAction Unit :=
  match token.ensureCanBeUsed now with
  | .ok _ => pure ()
  | .error error => do
    markIfExpired token now
    throw error

/-- `get_password_history` of the password reset gateway. -/
def resetPasswordHistory (user : User) : AccountAction (List PasswordHash) := do
  let former : List String ← query (.passwordHistory user.id)
  let former ← orRaise (former.mapM PasswordHash.of)
  pure ((user.passwordHash.toList ++ former).take passwordHistoryLimit)

/-- `_handle_locked` after the user has been locked. -/
def resetPasswordLocked (cmd : ResetPasswordCommand) (token : PasswordResetToken)
    (now : Datetime) : AccountAction Unit := do
  let inactive := AccountError.passwordResetUserInactive "Invalid or expired reset token"
  let found ← getById token.userId
  let user ← presentOr inactive (found.filter User.isActive)
  orRaise (validatePassword cmd.newPassword)
  let history ← resetPasswordHistory user
  let encoded : String ← serve (.hashPassword cmd.newPassword)
  let newPasswordHash ← orRaise (PasswordHash.of encoded)
  ensureNotReused cmd.newPassword history
  let user := user.changePassword newPasswordHash
  let usedToken := token.markUsed now cmd.clientIpHash cmd.userAgentHash
  let saved ← savePending [] user
  dispatchEvents user
  let _ ← revokeAllSessions accountSessions token.userId "password_reset"
  serve (.persistUsedToken usedToken)
  serve (.revokeOtherActiveTokens user.id usedToken.id now)
  query (.commit saved.statements)

/-- `ResetPasswordCommandHandler.handle`. -/
def resetPassword (cmd : ResetPasswordCommand) : AccountAction Unit := do
  let now : Datetime ← serve .utcNow
  let verification : Option PasswordResetToken ← serve (.verifyResetToken cmd.token)
  let token ← presentOr (.invalidPasswordResetToken "Invalid or expired reset token") verification
  ensureResetTokenUsable token now
  let locked : Bool ← query (.lockActiveUser token.userId)
  if ¬ locked then throw (.passwordResetUserInactive "Invalid or expired reset token")
  else resetPasswordLocked cmd token now

/-- `ConfirmMfaEnrollmentUseCase.execute` after the code has been accepted. -/
def enrollTwoFactor (user : User) (secret : String) : AccountAction Unit := do
  let stored : String ← serve (.encryptTotpSecret secret)
  let pending := [.setTotpSecret user.id stored]
  let user := user.enableTwoFactor
  let saved ← savePending pending user
  dispatchEvents user
  serve (.consumeMfaEnrollment user.id)
  query (.commit saved.statements)

/-- `ConfirmMfaEnrollmentUseCase.execute` after the enrollment has been found. -/
def confirmEnrollment (user : User) (state : MfaEnrollmentState) (token : String) :
    AccountAction Unit := do
  let invalid := AccountError.invalidTwoFactorCode "Invalid TOTP token"
  let now : Datetime ← serve .utcNow
  let accepted : Bool ← serve (.verifyTotp state.secret token now)
  let result := state.challenge.verify accepted now
  if ¬ result.accepted then
    serve (.saveMfaEnrollment { state with challenge := result.challenge }
      (remainingSeconds result.challenge.expiresAt now))
    throw invalid
  else
    let used : Bool ← serve (.hasBeenUsed state.challenge.id token)
    if used then throw invalid
    else
      serve (.markUsed state.challenge.id token (remainingSeconds state.challenge.expiresAt now))
      enrollTwoFactor user state.secret

/-- `ConfirmMfaEnrollmentUseCase.execute`. -/
def confirmMfaEnrollment (userId : UUID) (token : String) : AccountAction Unit := do
  let found ← getById userId
  let user ← foundOr "User not found" found
  let state : Option MfaEnrollmentState ← serve (.getMfaEnrollment user.id)
  let state ← presentOr (.invalidTwoFactorCode "TOTP setup expired or not initiated") state
  confirmEnrollment user state token

/-- `DisableMfaUseCase.execute`. -/
def disableMfa (userId : UUID) : AccountAction Unit := do
  let found ← getById userId
  let user ← foundOr "User not found" found
  let pending := [.clearTotpSecret user.id]
  let user := user.disableTwoFactor
  let saved ← savePending pending user
  dispatchEvents user
  query (.commit saved.statements)

/-- `get_totp_secret` of a stored row. -/
def totpSecretOf : Option UserRow → AccountAction (Option String)
  | none => pure none
  | some row =>
    match nonEmpty row.totpSecret with
    | some stored => if row.twoFactorEnabled then serve (.decryptTotpSecret stored) else pure none
    | none => pure none

/-- `CompleteMfaLoginUseCase.execute` after the code has been accepted. -/
def finishMfaLogin (grant : MfaLoginGrant) (user : User) (challenge : MfaChallenge) :
    AccountAction AuthenticationDecision := do
  serve (.saveMfaChallenge challenge)
  let now : Datetime ← serve .utcNow
  let user := user.recordLogin now
  saveAndDispatch user
  let decision ← issueAuthenticatedTokens accountSessions user
  serve (.blacklistMfaGrant grant)
  pure decision

/-- A recovery code is consumed when the code of the device has not been accepted. -/
def tryRecoveryCode (user : User) (challenge : MfaChallenge) (token : String) (now : Datetime)
    (totpAccepted : Bool) : AccountAction Bool :=
  if ¬ totpAccepted ∧ challenge.canAttempt now then serve (.consumeRecoveryCode user.id token)
  else pure false

/-- `CompleteMfaLoginUseCase.execute` after the challenge has been found. -/
def checkMfaCode (grant : MfaLoginGrant) (user : User) (secret : String) (challenge : MfaChallenge)
    (token : String) : AccountAction AuthenticationDecision := do
  let now : Datetime ← serve .utcNow
  let totpAccepted : Bool ← serve (.verifyTotp secret token now)
  let recoveryAccepted ← tryRecoveryCode user challenge token now totpAccepted
  let result := challenge.verify (totpAccepted || recoveryAccepted) now
  if ¬ result.accepted then
    serve (.saveMfaChallenge result.challenge)
    pure { status := .invalidMfaCode }
  else if totpAccepted then
    let used : Bool ← serve (.hasBeenUsed challenge.id token)
    if used then pure { status := .invalidMfaCode }
    else
      serve (.markUsed challenge.id token (remainingSeconds challenge.expiresAt now))
      finishMfaLogin grant user result.challenge
  else finishMfaLogin grant user result.challenge

/-- `CompleteMfaLoginUseCase.execute` after the account has been found. -/
def completeMfaLoginFound (grant : MfaLoginGrant) (token : String) :
    Option User → AccountAction AuthenticationDecision
  | none => pure { status := .invalidTempToken }
  | some user =>
    if ¬ user.isActive then pure { status := .inactive }
    else do
      let row : Option UserRow ← query (.getById user.id)
      let secret ← totpSecretOf row
      match secret with
      | none => pure { status := .invalidTempToken }
      | some secret =>
        let challenge : Option MfaChallenge ← serve (.getMfaChallenge grant.challengeId)
        match challenge.filter fun challenge => challenge.userId = user.id with
        | none => pure { status := .invalidTempToken }
        | some challenge => checkMfaCode grant user secret challenge token

/-- `CompleteMfaLoginUseCase.execute`. -/
def completeMfaLogin (tempToken token : String) : AccountAction AuthenticationDecision := do
  let grant : Option MfaLoginGrant ← serve (.inspectMfaLoginGrant tempToken)
  match grant with
  | none => pure { status := .invalidTempToken }
  | some grant =>
    let blacklisted : Bool ← serve (.isMfaGrantBlacklisted grant)
    if blacklisted then pure { status := .invalidTempToken }
    else
      let found ← getById grant.accountId
      completeMfaLoginFound grant token found

/-- The course of `ban_user`, `suspend_user` and `reinstate_user`. -/
def govern (adminId userId : UUID) (actionType : String)
    (change : User → Except AccountError User) : AccountAction Unit := do
  let found ← getById userId
  let user ← presentOr (.valueError "User not found") found
  let user ← orRaise (change user)
  let _ ← save user
  serve (.logAction adminId actionType userId)

/-- `GovernanceCommandHandlers.ban_user`. -/
def banUser (adminId userId : UUID) : AccountAction Unit :=
  govern adminId userId "ban_user" fun user => user.deactivate none none

/-- `GovernanceCommandHandlers.suspend_user`, which has the effect of a ban. -/
def suspendUser (adminId userId : UUID) : AccountAction Unit :=
  govern adminId userId "suspend_user" fun user => user.deactivate none none

/-- `GovernanceCommandHandlers.reinstate_user`. -/
def reinstateUser (adminId userId : UUID) : AccountAction Unit :=
  govern adminId userId "reinstate_user" fun user => user.activate none none

/-- The course of `AdminUserBanView.post` and `AdminUserReinstateView.post`: the flag is
written alone, beside the aggregate. -/
def writeIsActive (adminId userId : UUID) (actionType : String) (isActive : Bool) :
    AccountAction Unit := do
  let row : Option UserRow ← query (.getById userId)
  match row with
  | none => pure ()
  | some row =>
    query (.commit [.updateIsActive row.id isActive])
    serve (.logAction adminId actionType row.id)

/-- `AdminUserBanView.post`. -/
def adminUserBan (adminId userId : UUID) : AccountAction Unit :=
  writeIsActive adminId userId "ban_user" false

/-- `AdminUserReinstateView.post`. -/
def adminUserReinstate (adminId userId : UUID) : AccountAction Unit :=
  writeIsActive adminId userId "reinstate_user" true

/-- An operation of the aggregate that no handler calls, between a load and a save. -/
def changeStored (userId : UUID) (change : User → Except AccountError User) :
    AccountAction Unit := do
  let found ← getById userId
  let user ← foundOr "User not found" found
  let user ← orRaise (change user)
  saveAndDispatch user

end Linkapro.Identity
