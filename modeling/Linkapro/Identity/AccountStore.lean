import Linkapro.Lib.Interleave
import Linkapro.Lib.Table
import Linkapro.Identity.Challenges
import Linkapro.Identity.OAuth
import Linkapro.Identity.Tokens

/-!
# Identity: the table of users

The user rows as `DjangoUserRepository` reads and writes them, and the tokens that
the token service signs for them. A statement outside a unit of work commits on its
own; the statements of a unit of work commit together. The other services of an
account handler answer what they like: none of them writes a user row.
-/

namespace Linkapro.Identity

open Lib

/-- The columns of a user row that the repository reads and writes. -/
structure UserRow where
  id : UUID
  email : String
  password : String
  firstName : String
  lastName : String
  role : String
  twoFactorEnabled : Bool
  totpSecret : Option String
  authTokenVersion : ℕ
  isActive : Bool
  isVerified : Bool
  lastLogin : Option Datetime
deriving DecidableEq

/-- `is_password_usable`. -/
def isPasswordUsable (encoded : String) : Bool := encoded.toList.head? ≠ some '!'

/-- The password of an aggregate that can be checked once it is stored. -/
def User.usablePassword (user : User) : Option String :=
  (user.passwordHash.map PasswordHash.value).filter isPasswordUsable

namespace UserRow

/-- `_status_from_model`. -/
def status (row : UserRow) : AccountStatus := .ofFlags row.isActive row.isVerified

/-- The password of a row that can be checked. -/
def usablePassword (row : UserRow) : Option String :=
  (some row.password).filter fun password => password ≠ "" ∧ isPasswordUsable password

/-- The password hash of a row, if it has a usable password. -/
def passwordHash (row : UserRow) : Except AccountError (Option PasswordHash) :=
  match row.usablePassword with
  | some password => (PasswordHash.of password).map some
  | none => .ok none

/-- `_to_domain`. A row without a valid role cannot become an aggregate. -/
def toDomain (row : UserRow) : Except AccountError User := do
  let email ← Email.of row.email
  let passwordHash ← row.passwordHash
  let role ← UserRole.of row.role
  let name ← PersonName.of row.firstName row.lastName
  .ok
    { id := row.id, email, passwordHash, name, role
      twoFactorEnabled := row.twoFactorEnabled
      authTokenVersion := row.authTokenVersion
      status := row.status
      lastLogin := row.lastLogin
      events := [] }

/-- The row that `save` writes for an aggregate. The columns that `save` does not set keep
what it has read in the stored row. -/
def ofDomain (user : User) (password : String) (stored : Option UserRow) : UserRow where
  id := user.id
  email := user.email.value
  password := password
  firstName := user.name.firstName
  lastName := user.name.lastName
  role := user.role.value
  twoFactorEnabled := user.twoFactorEnabled
  totpSecret := stored.bind totpSecret
  authTokenVersion := user.authTokenVersion
  isActive := user.isActive
  isVerified := user.isVerified
  lastLogin := stored.bind lastLogin

/-- What an aggregate has in common with a row. -/
structure Holds (row : UserRow) (user : User) : Prop where
  id_eq : user.id = row.id
  version_eq : user.authTokenVersion = row.authTokenVersion
  role_eq : user.role.value = row.role
  twoFactor_eq : user.twoFactorEnabled = row.twoFactorEnabled
  active_eq : user.isActive = row.isActive
  verified_eq : user.isVerified = row.isVerified
  password_eq : user.usablePassword = row.usablePassword

/-- The value of a role that has been read. -/
theorem value_of_role {value : String} {role : UserRole} (h : UserRole.of value = .ok role) :
    role.value = value := by
  unfold UserRole.of at h
  split at h
  · next found hfound =>
    cases h
    simpa using List.find?_some hfound
  · cases h

/-- The usable password of an aggregate that has been read. -/
theorem usablePassword_of_passwordHash {row : UserRow} {hash : Option PasswordHash}
    (h : row.passwordHash = .ok hash) :
    (hash.map PasswordHash.value).filter isPasswordUsable = row.usablePassword := by
  unfold passwordHash at h
  cases hpassword : row.usablePassword with
  | none =>
    simp only [hpassword] at h
    cases h
    rfl
  | some password =>
    simp only [hpassword] at h
    have husable := (Option.filter_eq_some_iff.mp hpassword).2
    rw [decide_eq_true_eq] at husable
    cases hhash : PasswordHash.of password with
    | error error =>
      rw [hhash] at h
      cases h
    | ok hash =>
      rw [hhash] at h
      cases h
      rw [Option.map_some, PasswordHash.value_of hhash]
      exact Option.filter_some_pos husable.2

/-- An aggregate has what its row holds. -/
theorem holds_of_toDomain {row : UserRow} {user : User} (h : row.toDomain = .ok user) :
    row.Holds user := by
  simp only [toDomain, except_bind_eq_ok_iff] at h
  obtain ⟨email, _, passwordHash, hpassword, role, hrole, name, _, h⟩ := h
  cases h
  exact
    { id_eq := rfl
      version_eq := rfl
      role_eq := value_of_role hrole
      twoFactor_eq := rfl
      active_eq := AccountStatus.isActive_ofFlags _ _
      verified_eq := AccountStatus.isVerified_ofFlags _ _
      password_eq := usablePassword_of_passwordHash hpassword }

end UserRow

/-- `TokenClaims`. -/
structure TokenClaims where
  userId : UUID
  role : UserRole
  family : UUID
  sessionId : String
  authTokenVersion : ℕ
deriving DecidableEq

/-- What the token service adds to the claims of a token. -/
structure TokenStamp where
  jti : UUID
  env : String
  issuedAt : ℤ
  expiresAt : ℤ

namespace TokenClaims

/-- `create_access_token`. -/
def accessToken (claims : TokenClaims) (stamp : TokenStamp) : AccessToken where
  jti := uuidText stamp.jti
  family := some (uuidText claims.family)
  env := some stamp.env
  userId := some (uuidText claims.userId)
  sessionId := some claims.sessionId
  issuedAt := some stamp.issuedAt
  authTokenVersion := some claims.authTokenVersion
  expiresAt := stamp.expiresAt
  role := some claims.role.value
  scope := ""
  stepUp := false

/-- `create_refresh_token`. -/
def refreshToken (claims : TokenClaims) (stamp : TokenStamp) : RefreshToken where
  jti := some (uuidText stamp.jti)
  family := some (uuidText claims.family)
  env := some stamp.env
  userId := some (uuidText claims.userId)
  sessionId := some claims.sessionId
  issuedAt := some stamp.issuedAt
  authTokenVersion := some claims.authTokenVersion
  expiresAt := stamp.expiresAt
  role := some claims.role.value
  scope := ""
  stepUp := false

end TokenClaims

/-- The tables of users and of their former passwords, with the tokens that have been
signed so far. -/
structure AccountState where
  users : Table UserRow.id
  /-- The remembered password hashes of each user, newest first. -/
  passwordHistory : UUID → List String
  accessTokens : List AccessToken
  refreshTokens : List RefreshToken

/-- `PASSWORD_HISTORY_LIMIT`, which no settings file sets. -/
def passwordHistoryLimit : ℕ := 5

/-- The largest value of a `PositiveIntegerField`. -/
def positiveIntegerMax : ℕ := 2147483647

/-- One statement on the tables. -/
inductive AccountStatement : Type where
  /-- `django_user.save()`. -/
  | saveUser (row : UserRow)
  /-- `_remember_password_hash`. -/
  | rememberPasswordHash (userId : UUID) (passwordHash : String)
  /-- The update of `set_totp_secret`. -/
  | setTotpSecret (userId : UUID) (totpSecret : String)
  /-- The update of `clear_totp_secret`. -/
  | clearTotpSecret (userId : UUID)
  /-- `user.save(update_fields=["is_active", "updated_at"])`. -/
  | updateIsActive (userId : UUID) (isActive : Bool)
deriving DecidableEq

namespace AccountStatement

/-- The row that a statement saves. -/
def savedRow : AccountStatement → Option UserRow
  | .saveUser row => some row
  | _ => none

/-- The user whose row a statement writes. -/
def target : AccountStatement → Option UUID
  | .saveUser row => some row.id
  | .rememberPasswordHash _ _ => none
  | .setTotpSecret userId _ | .clearTotpSecret userId | .updateIsActive userId _ => some userId

end AccountStatement

/-- The widths of the text columns of a user row. -/
def UserRow.fits (row : UserRow) : Bool :=
  row.email.length ≤ 254 ∧ row.password.length ≤ 128 ∧ row.firstName.length ≤ 150 ∧
    row.lastName.length ≤ 150

namespace AccountState

/-- Change the stored row of a user, if there is one. -/
def updateUser (s : AccountState) (userId : UUID) (change : UserRow → UserRow) : AccountState :=
  match s.users.lookup userId with
  | none => s
  | some row => { s with users := s.users.upsert (change row) }

/-- The effect of one statement. -/
def apply (s : AccountState) : AccountStatement → Except AccountError AccountState
  | .saveUser row =>
    if positiveIntegerMax < row.authTokenVersion then .error (.database "integer out of range")
    else if ¬ row.fits then .error (.database "value too long for type character varying")
    else if s.users.rows.any fun other => other.email = row.email ∧ other.id ≠ row.id then
      .error (.database "duplicate key value violates unique constraint")
    else .ok { s with users := s.users.upsert row }
  | .rememberPasswordHash userId passwordHash =>
    .ok { s with
      passwordHistory := Function.update s.passwordHistory userId
        ((passwordHash :: s.passwordHistory userId).take passwordHistoryLimit) }
  | .setTotpSecret userId totpSecret =>
    .ok (s.updateUser userId fun row =>
      { row with totpSecret := some totpSecret, twoFactorEnabled := true })
  | .clearTotpSecret userId =>
    .ok (s.updateUser userId fun row => { row with totpSecret := none, twoFactorEnabled := false })
  | .updateIsActive userId isActive => .ok (s.updateUser userId fun row => { row with isActive })

/-- The effect of the statements of one transaction. -/
def applyAll (s : AccountState) (statements : List AccountStatement) :
    Except AccountError AccountState :=
  statements.foldlM apply s

/-- The query of `get_by_email`. -/
def getByEmail (s : AccountState) (email : Email) : Except AccountError (Option UserRow) :=
  match s.users.rows.filter fun row => lower row.email = lower email.value with
  | [] => .ok none
  | [row] => .ok (some row)
  | _ :: _ :: _ => .error (.multipleObjectsReturned "get() returned more than one User")

/-- The update of `bump_user_auth_token_version`, which the database computes from the
stored row. It answers the number of updated rows. -/
def bumpAuthTokenVersion (s : AccountState) (userId : UUID) :
    Except AccountError (ℕ × AccountState) :=
  match s.users.lookup userId with
  | none => .ok (0, s)
  | some row =>
    if positiveIntegerMax < row.authTokenVersion + 1 then
      .error (.database "integer out of range")
    else
      .ok (1, { s with
        users := s.users.upsert { row with authTokenVersion := row.authTokenVersion + 1 } })

end AccountState

/-- A session as `list_active_identity_sessions` answers it. -/
structure ActiveSession where
  id : String
  tokenFamily : String
deriving DecidableEq

/-- `MfaLoginGrant`. -/
structure MfaLoginGrant where
  grantId : String
  accountId : UUID
  challengeId : UUID
  expiresAt : Datetime
deriving DecidableEq

/-- One call on a service that keeps no user row. -/
inductive ServiceCall : Type where
  | utcNow
  | uuid4
  | isLocked (accountKey : String)
  | recordFailure (accountKey : String)
  | recordSuccess (accountKey : String)
  | verifyAgainstDummy (plainPassword : String)
  | verifyPassword (plainPassword : String) (passwordHash : PasswordHash)
  | hashPassword (plainPassword : String)
  | randomPasswordSuffix
  | dispatch (event : IdentityEvent)
  | createIdentitySession (userId tokenFamily : UUID)
  | listActiveIdentitySessions (userId : UUID)
  | blacklistFamily (tokenFamily : String)
  | revokeAllIdentitySessions (userId : UUID) (reason : String)
  | cacheSessionRevocation (userId : UUID)
  | verifyEmailVerificationToken (verificationToken : String)
  | getVerificationChallenge (challengeId : UUID)
  | saveVerificationChallenge (challenge : VerificationChallenge)
  | dispatchVerification (event : VerificationEvent)
  | saveMfaChallenge (challenge : MfaChallenge)
  | getMfaChallenge (challengeId : UUID)
  | createTempToken (userId challengeId : UUID)
  | inspectMfaLoginGrant (tempToken : String)
  | isMfaGrantBlacklisted (grant : MfaLoginGrant)
  | blacklistMfaGrant (grant : MfaLoginGrant)
  | verifyTotp (secret token : String) (now : Datetime)
  | hasBeenUsed (challengeId : UUID) (token : String)
  | markUsed (challengeId : UUID) (token : String) (ttl : ℤ)
  | consumeRecoveryCode (userId : UUID) (code : String)
  | getMfaEnrollment (userId : UUID)
  | saveMfaEnrollment (state : MfaEnrollmentState) (ttl : ℤ)
  | consumeMfaEnrollment (userId : UUID)
  | encryptTotpSecret (secret : String)
  | decryptTotpSecret (stored : String)
  | verifyResetToken (rawToken : String)
  | markTokenExpired (token : PasswordResetToken) (now : Datetime)
  | persistUsedToken (token : PasswordResetToken)
  | revokeOtherActiveTokens (userId excludeTokenId : UUID) (now : Datetime)
  | getOAuthByProviderUser (provider : OAuthProvider) (providerUserId : String)
  | getOAuthByUser (userId : UUID) (provider : OAuthProvider)
  | saveOAuthToken (token : OAuthToken)
  | verifyStepUpGrant (stepUpGrant : String) (userId : UUID) (purpose : String)
  | consumeStepUpGrant (stepUpGrant : String) (userId : UUID) (purpose : String)
  | logAction (adminId : UUID) (actionType : String) (targetId : UUID)
deriving DecidableEq

/-- The answer of each service. -/
def ServiceCall.Ret : ServiceCall → Type
  | .utcNow => Datetime
  | .uuid4 => UUID
  | .isLocked _ | .recordFailure _ | .verifyPassword _ _ | .isMfaGrantBlacklisted _
  | .verifyTotp _ _ _ | .hasBeenUsed _ _ | .consumeRecoveryCode _ _
  | .verifyStepUpGrant _ _ _ => Bool
  | .hashPassword _ | .randomPasswordSuffix | .createTempToken _ _ | .createIdentitySession _ _
  | .encryptTotpSecret _ => String
  | .listActiveIdentitySessions _ => List ActiveSession
  | .revokeAllIdentitySessions _ _ => ℕ
  | .verifyEmailVerificationToken _ => Option UUID
  | .getVerificationChallenge _ => Option VerificationChallenge
  | .getMfaChallenge _ => Option MfaChallenge
  | .inspectMfaLoginGrant _ => Option MfaLoginGrant
  | .getMfaEnrollment _ => Option MfaEnrollmentState
  | .decryptTotpSecret _ => Option String
  | .verifyResetToken _ => Option PasswordResetToken
  | .getOAuthByProviderUser _ _ | .getOAuthByUser _ _ => Option OAuthToken
  | _ => Unit

/-- One call of an account handler. -/
inductive AccountOp : Type where
  | getById (userId : UUID)
  | getByEmail (email : Email)
  /-- The read inside `save`, which sees the statements of its own unit of work. -/
  | getStored (pending : List AccountStatement) (userId : UUID)
  | passwordHistory (userId : UUID)
  /-- `get_active_user_for_update`: whether there is an active row, which gets locked. -/
  | lockActiveUser (userId : UUID)
  | commit (statements : List AccountStatement)
  | bumpAuthTokenVersion (userId : UUID)
  /-- A random UUID for a new row. -/
  | newId
  | createAccessToken (claims : TokenClaims)
  | createRefreshToken (claims : TokenClaims)
  | service (call : ServiceCall)
deriving DecidableEq

/-- The answer of each call. -/
def AccountOp.Ret : AccountOp → Type
  | .getById _ | .getByEmail _ | .getStored _ _ => Option UserRow
  | .passwordHistory _ => List String
  | .lockActiveUser _ => Bool
  | .commit _ => Unit
  | .bumpAuthTokenVersion _ => ℕ
  | .newId => UUID
  | .createAccessToken _ => AccessToken
  | .createRefreshToken _ => RefreshToken
  | .service call => call.Ret

/-- The rows that an operation saves. -/
def AccountOp.savedRows : AccountOp → List UserRow
  | .commit statements => statements.filterMap AccountStatement.savedRow
  | _ => []

/-- A failed call. The statements of a failed commit may have been committed. -/
structure AccountFault where
  error : AccountError
  applied : Bool

/-- What a call leaves open: its failure, random values and the answers of the services. -/
structure AccountChoice where
  fault : Option AccountFault
  uuid : UUID
  stamp : TokenStamp
  answer : (call : ServiceCall) → call.Ret

namespace AccountState

/-- The outcome of a call that has been computed without a fault. -/
def faulty {α : Type} (choice : AccountChoice) (s : AccountState)
    (outcome : Except AccountError (α × AccountState)) : Except AccountError α × AccountState :=
  match outcome, choice.fault with
  | .error error, _ => (.error error, s)
  | .ok (answer, after), none => (.ok answer, after)
  | .ok (_, after), some fault => (.error fault.error, if fault.applied then after else s)

/-- A random UUID is not the key of a stored row. -/
def newId (s : AccountState) (uuid : UUID) : Except AccountError UUID :=
  if (s.users.lookup uuid).isSome then .error (.database "duplicate key value")
  else .ok uuid

/-- The effect of a call without a fault. -/
def effect (choice : AccountChoice) (s : AccountState) :
    (op : AccountOp) → Except AccountError (op.Ret × AccountState)
  | .getById userId => .ok (s.users.lookup userId, s)
  | .getByEmail email => (s.getByEmail email).map fun row => (row, s)
  | .getStored pending userId =>
    (s.applyAll pending).map fun inside => (inside.users.lookup userId, s)
  | .passwordHistory userId => .ok (s.passwordHistory userId, s)
  | .lockActiveUser userId => .ok ((s.users.lookup userId).any UserRow.isActive, s)
  | .commit statements => (s.applyAll statements).map fun after => ((), after)
  | .bumpAuthTokenVersion userId => s.bumpAuthTokenVersion userId
  | .newId => (s.newId choice.uuid).map fun id => (id, s)
  | .createAccessToken claims =>
    let token := claims.accessToken choice.stamp
    .ok (token, { s with accessTokens := token :: s.accessTokens })
  | .createRefreshToken claims =>
    let token := claims.refreshToken choice.stamp
    .ok (token, { s with refreshTokens := token :: s.refreshTokens })
  | .service call => .ok (choice.answer call, s)

/-- A call takes effect or fails. -/
def exec : Exec AccountState AccountChoice (Raising AccountError AccountOp.Ret) :=
  fun choice op s => faulty choice s (effect choice s op)

end AccountState

end Linkapro.Identity
