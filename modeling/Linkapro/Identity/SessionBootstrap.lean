import Linkapro.Isoformat
import Linkapro.Identity.SavedAccounts

/-!
# Identity: the payload that starts a session

The payload of a session is made of a loaded account at a login and of the user row at a
refresh. Loading an account strips its names, normalises its address and drops a password
that cannot be used; the refresh does none of this.
-/

namespace Linkapro.Identity

open Lib

/-- A user row with the instant of its creation. -/
structure StoredUser where
  row : UserRow
  createdAt : Datetime

/-- An account that has been loaded, with the instant of its creation. -/
structure LoadedAccount where
  user : User
  createdAt : Datetime
deriving DecidableEq

/-- `_to_domain`. -/
def StoredUser.toDomain (stored : StoredUser) : Except AccountError LoadedAccount := do
  let user ← stored.row.toDomain
  .ok { user, createdAt := stored.createdAt }

/-- The payload of a session. -/
structure SessionPayload where
  id : String
  email : String
  role : String
  firstName : String
  lastName : String
  displayName : String
  avatar : Option String
  isActive : Bool
  isVerified : Bool
  hasPassword : Bool
  requiresPasswordSetup : Bool
  twoFactorEnabled : Bool
  authTokenVersion : ℕ
  createdAt : Option String
  lastLogin : Option String
  isAuthenticated : Bool
  onboardingComplete : Bool
  /-- A payload without a session has no such key. -/
  sessionId : Option String
deriving DecidableEq

/-- `_display_name`. -/
def displayName (firstName lastName email : String) : String :=
  let fullName := strip (firstName ++ " " ++ lastName)
  if fullName ≠ "" then fullName
  else if firstName ≠ "" then firstName
  else if lastName ≠ "" then lastName
  else email

/-- The fields that are derived from others. -/
structure DerivedFields where
  displayName : String
  requiresPasswordSetup : Bool
  onboardingComplete : Bool

/-- `account_derived_fields`. -/
def accountDerivedFields (firstName lastName email : String) (isVerified hasPassword : Bool) :
    DerivedFields where
  displayName := displayName firstName lastName email
  requiresPasswordSetup := ¬ hasPassword
  onboardingComplete := isVerified ∧ hasPassword

/-- `session_bootstrap_payload`, through `to_session_bootstrap`. -/
def sessionBootstrapPayload (account : LoadedAccount) (sessionId : Option String) :
    SessionPayload :=
  let user := account.user
  let hasPassword := user.passwordHash.isSome
  let derived := accountDerivedFields user.name.firstName user.name.lastName user.email.value
    user.isVerified hasPassword
  { id := uuidText user.id
    email := user.email.value
    role := user.role.value
    firstName := user.name.firstName
    lastName := user.name.lastName
    displayName := derived.displayName
    avatar := none
    isActive := user.isActive
    isVerified := user.isVerified
    hasPassword
    requiresPasswordSetup := derived.requiresPasswordSetup
    twoFactorEnabled := user.twoFactorEnabled
    authTokenVersion := user.authTokenVersion
    createdAt := some (isoformat account.createdAt)
    lastLogin := user.lastLogin.map isoformat
    isAuthenticated := true
    onboardingComplete := derived.onboardingComplete
    sessionId := nonEmpty sessionId }

/-- `get_bootstrap_claims`, through `session_bootstrap_payload_from_values`. An inactive user
has none. -/
def getBootstrapClaims (stored : StoredUser) (sessionId : Option String) :
    Option SessionPayload :=
  let row := stored.row
  if ¬ row.isActive then none
  else
    let hasPassword : Bool := row.password ≠ ""
    let derived := accountDerivedFields row.firstName row.lastName row.email row.isVerified
      hasPassword
    some
      { id := uuidText row.id
        email := row.email
        role := row.role
        firstName := row.firstName
        lastName := row.lastName
        displayName := derived.displayName
        avatar := none
        isActive := row.isActive
        isVerified := row.isVerified
        hasPassword
        requiresPasswordSetup := derived.requiresPasswordSetup
        twoFactorEnabled := row.twoFactorEnabled
        authTokenVersion := row.authTokenVersion
        createdAt := some (isoformat stored.createdAt)
        lastLogin := row.lastLogin.map isoformat
        isAuthenticated := true
        onboardingComplete := derived.onboardingComplete
        sessionId := nonEmpty sessionId }

/-- Loading the row changes nothing that a payload shows. -/
structure UserRow.Plain (row : UserRow) : Prop where
  active : row.isActive = true
  password : row.password = "" ∨ isPasswordUsable row.password = true
  email : lower (strip row.email) = row.email
  firstName : strip row.firstName = row.firstName
  lastName : strip row.lastName = row.lastName

/-- The value of an address that has been read. -/
theorem Email.value_of {text : String} {email : Email} (h : Email.of text = .ok email) :
    email.value = lower (strip text) := by
  unfold Email.of at h
  generalize lower (strip text) = normalized at h ⊢
  dsimp only at h
  split at h
  · split at h
    · exact congrArg Email.value (Except.ok.inj h).symm
    · cases h
  · cases h

/-- The parts of a name that has been read. -/
theorem PersonName.parts_of {firstName lastName : String} {name : PersonName}
    (h : PersonName.of firstName lastName = .ok name) :
    name.firstName = strip firstName ∧ name.lastName = strip lastName := by
  unfold PersonName.of at h
  split at h
  · split at h
    · have hname := (Except.ok.inj h).symm
      exact ⟨congrArg PersonName.firstName hname, congrArg PersonName.lastName hname⟩
    · cases h
  · cases h

/-- A loaded account has a password if the row has one that can be used. -/
theorem isSome_of_passwordHash {row : UserRow} {hash : Option PasswordHash}
    (h : row.passwordHash = .ok hash) : hash.isSome = row.usablePassword.isSome := by
  unfold UserRow.passwordHash at h
  cases hpassword : row.usablePassword with
  | none =>
    simp only [hpassword] at h
    cases h
    rfl
  | some password =>
    simp only [hpassword] at h
    cases hhash : PasswordHash.of password with
    | error error =>
      rw [hhash] at h
      cases h
    | ok value =>
      rw [hhash] at h
      cases h
      rfl

/-- What a loaded account shows of its row. -/
structure Shows (stored : StoredUser) (account : LoadedAccount) : Prop where
  holds : stored.row.Holds account.user
  createdAt : account.createdAt = stored.createdAt
  lastLogin : account.user.lastLogin = stored.row.lastLogin
  email : account.user.email.value = lower (strip stored.row.email)
  firstName : account.user.name.firstName = strip stored.row.firstName
  lastName : account.user.name.lastName = strip stored.row.lastName
  hasPassword : account.user.passwordHash.isSome = stored.row.usablePassword.isSome

theorem shows_of_toDomain {stored : StoredUser} {account : LoadedAccount}
    (h : stored.toDomain = .ok account) : Shows stored account := by
  unfold StoredUser.toDomain at h
  rw [except_bind_eq_ok_iff] at h
  obtain ⟨user, huser, h⟩ := h
  cases h
  have hholds := UserRow.holds_of_toDomain huser
  simp only [UserRow.toDomain, except_bind_eq_ok_iff] at huser
  obtain ⟨email, hemail, passwordHash, hpassword, role, _, name, hname, huser⟩ := huser
  cases huser
  exact
    { holds := hholds
      createdAt := rfl
      lastLogin := rfl
      email := Email.value_of hemail
      firstName := (PersonName.parts_of hname).1
      lastName := (PersonName.parts_of hname).2
      hasPassword := isSome_of_passwordHash hpassword }

/-- A password that is stored can be used, unless it is marked. -/
theorem usablePassword_eq_iff (row : UserRow) :
    row.usablePassword.isSome = decide (row.password ≠ "") ↔
      row.password = "" ∨ isPasswordUsable row.password = true := by
  unfold UserRow.usablePassword
  by_cases hempty : row.password = ""
  · simp [hempty]
  · cases husable : isPasswordUsable row.password with
    | false => simp [hempty, husable]
    | true => simp [hempty, husable]

/-- The payload of a login and the one of a refresh agree exactly if the user is active, has no
unusable password, and loading changes neither the address nor the names. -/
theorem bootstrap_payloads_agree_iff (stored : StoredUser) (sessionId : Option String)
    (account : LoadedAccount) (h : stored.toDomain = .ok account) :
    getBootstrapClaims stored sessionId = some (sessionBootstrapPayload account sessionId) ↔
      stored.row.Plain := by
  have hshows := shows_of_toDomain h
  have hholds := hshows.holds
  constructor
  · intro hagree
    unfold getBootstrapClaims at hagree
    dsimp only at hagree
    split at hagree
    · cases hagree
    next hactive =>
    have hpayload := Option.some.inj hagree
    have hemail := congrArg SessionPayload.email hpayload
    have hfirst := congrArg SessionPayload.firstName hpayload
    have hlast := congrArg SessionPayload.lastName hpayload
    have hpassword := congrArg SessionPayload.hasPassword hpayload
    exact
      { active := not_not.mp hactive
        password := (usablePassword_eq_iff _).mp (hshows.hasPassword.symm.trans hpassword.symm)
        email := hshows.email.symm.trans hemail.symm
        firstName := hshows.firstName.symm.trans hfirst.symm
        lastName := hshows.lastName.symm.trans hlast.symm }
  · intro hplain
    have hpassword := hshows.hasPassword.trans ((usablePassword_eq_iff _).mpr hplain.password)
    unfold getBootstrapClaims sessionBootstrapPayload
    simp only [hplain.active, hpassword, hholds.id_eq, hholds.version_eq, hholds.role_eq,
      hholds.twoFactor_eq, hholds.active_eq, hholds.verified_eq, hshows.createdAt,
      hshows.lastLogin, hshows.email, hshows.firstName, hshows.lastName, hplain.email,
      hplain.firstName, hplain.lastName, not_true_eq_false, if_false]

/-- The payloads of the planner agree. -/
theorem bootstrap_payloads_agree_iff_sample :
    getBootstrapClaims ⟨sampleRow, 0⟩ none =
      some (sessionBootstrapPayload ⟨sampleUser, 0⟩ none) ↔ sampleRow.Plain :=
  bootstrap_payloads_agree_iff ⟨sampleRow, 0⟩ none ⟨sampleUser, 0⟩ (by decide +kernel)

/-- An account that signs in with a provider only has an unusable password. It has no password
at a login and has one at a refresh. -/
theorem unusable_password_shown :
    ¬ ∀ (stored : StoredUser) (sessionId : Option String) (account : LoadedAccount),
      stored.toDomain = .ok account →
        getBootstrapClaims stored sessionId = some (sessionBootstrapPayload account sessionId) := by
  intro h
  have hagree := h ⟨{ sampleRow with password := "!unusable" }, 0⟩ none
    ⟨{ sampleUser with passwordHash := none }, 0⟩ (by decide +kernel)
  revert hagree
  decide +kernel

end Linkapro.Identity
