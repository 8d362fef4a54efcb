import Linkapro.Shared
import Mathlib.Data.List.TakeDrop

/-!
# Identity: the account aggregate

The `User` aggregate with its value objects, its mutators and the policy that
authorizes account administration. A mutator changes the aggregate in memory and
records the event of the change. Nothing is stored here.
-/

namespace Linkapro.Identity

/-- The exceptions that an account handler raises, with their messages. -/
inductive AccountError : Type where
  | valueError (message : String)
  | userNotFound (message : String)
  | invalidEmail (message : String)
  | invalidSecurityReason (message : String)
  | invalidCredentials (message : String)
  | weakPassword (message : String)
  | passwordReuseNotAllowed (message : String)
  | accountCannotBeActivated (message : String)
  | roleAssignmentRequiresActor (message : String)
  | roleAssignmentDenied (message : String)
  | roleCannotBeSelfAssigned (message : String)
  | invalidVerificationCode (message : String)
  | invalidTwoFactorCode (message : String)
  | invalidPasswordResetToken (message : String)
  | passwordResetUserInactive (message : String)
  | oauthRelinkRequiresStepUp (message : String)
  | duplicateUser (message : String)
  | googleOAuthAdapter (message : String)
  | multipleObjectsReturned (message : String)
  | database (message : String)
deriving DecidableEq

/-- `UserRole`. -/
inductive UserRole : Type where
  | planner
  | vendor
  | admin
deriving DecidableEq

/-- The stored value of a role. -/
def UserRole.value : UserRole → String
  | .planner => "planner"
  | .vendor => "vendor"
  | .admin => "admin"

/-- `UserRole(value)`. -/
def UserRole.of (value : String) : Except AccountError UserRole :=
  match [UserRole.planner, .vendor, .admin].find? fun role => role.value = value with
  | some role => .ok role
  | none => .error (.valueError "not a valid UserRole")

/-- The stored value of a role is read back. -/
theorem UserRole.of_value (role : UserRole) : UserRole.of role.value = .ok role := by
  cases role <;> decide +kernel

/-- `AccountStatus`. -/
inductive AccountStatus : Type where
  | pendingVerification
  | active
  | deactivated
  | deactivatedPendingVerification
  | suspended
  | locked
deriving DecidableEq

namespace AccountStatus

/-- The property `is_active` of an account with this status. -/
def isActive : AccountStatus → Bool
  | .active | .pendingVerification => true
  | _ => false

/-- The property `is_verified` of an account with this status. -/
def isVerified : AccountStatus → Bool
  | .active | .deactivated | .suspended | .locked => true
  | _ => false

/-- The status that two stored flags stand for. -/
def ofFlags (isActive isVerified : Bool) : AccountStatus :=
  match isActive, isVerified with
  | true, true => .active
  | true, false => .pendingVerification
  | false, true => .deactivated
  | false, false => .deactivatedPendingVerification

/-- Flags become a status without a change of their values. -/
@[simp] theorem isActive_ofFlags (isActive isVerified : Bool) :
    (ofFlags isActive isVerified).isActive = isActive := by
  cases isActive <;> cases isVerified <;> rfl

@[simp] theorem isVerified_ofFlags (isActive isVerified : Bool) :
    (ofFlags isActive isVerified).isVerified = isVerified := by
  cases isActive <;> cases isVerified <;> rfl

end AccountStatus

/-- The characters before the `@` of an address. -/
def isLocalChar (c : Char) : Bool := c.isLower ∨ c.isDigit ∨ c ∈ ['_', '.', '+', '-']

/-- The characters of a domain up to its first dot. -/
def isLabelChar (c : Char) : Bool := c.isLower ∨ c.isDigit ∨ c = '-'

/-- The pattern `^[a-z0-9_.+-]+@[a-z0-9-]+\.[a-z0-9-.]+$`. Neither `@` nor the first
dot can belong to the part before it, so the pattern splits at these. -/
def isEmail (text : String) : Bool :=
  match text.toList.span isLocalChar with
  | (local_, '@' :: domain) =>
    match domain.span isLabelChar with
    | (label, '.' :: rest) =>
      local_ ≠ [] ∧ label ≠ [] ∧ rest ≠ [] ∧ rest.all fun c => isLabelChar c ∨ c = '.'
    | _ => false
  | _ => false

/-- The characters of an accepted address. -/
def IsEmailChar (c : Char) : Prop :=
  isLocalChar c = true ∨ c = '@' ∨ isLabelChar c = true ∨ c = '.'

instance (c : Char) : Decidable (IsEmailChar c) := by
  unfold IsEmailChar
  infer_instance

/-- A character of a list belongs to the accepted front or to the rest. -/
private theorem mem_span {p : Char → Bool} {characters : List Char} {c : Char}
    (h : c ∈ characters) : p c = true ∨ c ∈ (characters.span p).2 := by
  rw [List.span_eq_takeWhile_dropWhile]
  rw [← List.takeWhile_append_dropWhile (p := p) (l := characters), List.mem_append] at h
  exact h.imp_left List.mem_takeWhile_imp

/-- An accepted address has no other characters. -/
theorem isEmailChar_of_isEmail {text : String} (h : isEmail text = true) :
    ∀ c ∈ text.toList, IsEmailChar c := by
  intro c hc
  unfold isEmail at h
  have hlocal := mem_span (p := isLocalChar) hc
  cases hspan : text.toList.span isLocalChar with
  | mk local_ domain =>
    rw [hspan] at h hlocal
    rcases hlocal with hlocal | hc
    · exact Or.inl hlocal
    · split at h
      · next label heq =>
        cases heq
        rcases List.mem_cons.mp hc with hc | hc
        · exact Or.inr (Or.inl hc)
        · have hlabel := mem_span (p := isLabelChar) hc
          cases hspan' : label.span isLabelChar with
          | mk first rest =>
            rw [hspan'] at h hlabel
            rcases hlabel with hlabel | hc
            · exact Or.inr (Or.inr (Or.inl hlabel))
            · split at h
              · next last heq =>
                cases heq
                simp only [decide_eq_true_eq, List.all_eq_true] at h
                rcases List.mem_cons.mp hc with hc | hc
                · exact Or.inr (Or.inr (Or.inr hc))
                · exact Or.inr (Or.inr (h.2.2.2 c hc))
              · cases h
      · cases h

/-- The characters of an address are not white space and are lower case. -/
theorem IsEmailChar.plain {c : Char} (h : IsEmailChar c) :
    isSpace c = false ∧ lowerChar c = [c] := by
  have hascii : c.toNat < 128 := by
    have hrange : c.isLower = true ∨ c.isDigit = true ∨ c ∈ ['_', '.', '+', '-', '@'] := by
      simp only [IsEmailChar, isLocalChar, isLabelChar, decide_eq_true_eq, List.mem_cons] at h ⊢
      tauto
    rcases hrange with hlower | hdigit | hmem
    · delta Char.isLower at hlower
      simp only [Bool.and_eq_true, decide_eq_true_eq] at hlower
      have hle : c.val.toNat ≤ 122 := UInt32.le_iff_toNat_le.mp hlower.2
      exact Nat.lt_of_le_of_lt hle (by decide)
    · simp only [Char.isDigit, Bool.and_eq_true, decide_eq_true_eq] at hdigit
      have hle : c.val.toNat ≤ 57 := UInt32.le_iff_toNat_le.mp hdigit.2
      exact Nat.lt_of_le_of_lt hle (by decide)
    · have hall : (['_', '.', '+', '-', '@'].all fun c => c.toNat < 128) = true := by decide
      exact of_decide_eq_true (List.all_eq_true.mp hall c hmem)
  -- The characters below 128 are checked one by one.
  have hall : ∀ n < 128, IsEmailChar (Char.ofNat n) →
      isSpace (Char.ofNat n) = false ∧ lowerChar (Char.ofNat n) = [Char.ofNat n] := by
    decide +kernel
  have hc := hall c.toNat hascii
  rw [Char.ofNat_toNat] at hc
  exact hc h

/-- `Email`. -/
structure Email where
  value : String
  valid : isEmail value = true
  short : value.length ≤ 254
deriving DecidableEq

/-- `Email(text)`. -/
@[irreducible] def Email.of (text : String) : Except AccountError Email :=
  let normalized := lower (strip text)
  if short : normalized.length ≤ 254 then
    if valid : isEmail normalized = true then .ok ⟨normalized, valid, short⟩
    else .error (.invalidEmail "Invalid email")
  else .error (.invalidEmail "Email is too long")

/-- The value of an address is read back. -/
theorem Email.of_value (email : Email) : Email.of email.value = .ok email := by
  obtain ⟨value, valid, short⟩ := email
  have hplain : ∀ c ∈ value.toList, isSpace c = false ∧ lowerChar c = [c] := fun c hc =>
    (isEmailChar_of_isEmail valid c hc).plain
  have hnormalized : lower (strip value) = value := by
    rw [strip_eq_self fun c hc => (hplain c hc).1, lower_eq_self fun c hc => (hplain c hc).2]
  unfold Email.of
  simp only [hnormalized]
  rw [dif_pos short, dif_pos valid]

/-- `_contains_control_character`. -/
def containsControlCharacter (text : String) : Bool :=
  text.toList.any fun c => c.toNat < 32 ∨ c.toNat = 127

/-- `PasswordHash`. -/
structure PasswordHash where
  value : String
  nonempty : value ≠ ""
  safe : containsControlCharacter value = false
deriving DecidableEq

/-- `PasswordHash(value)`. -/
@[irreducible] def PasswordHash.of (value : String) : Except AccountError PasswordHash :=
  if nonempty : value ≠ "" then
    if safe : containsControlCharacter value = false then .ok ⟨value, nonempty, safe⟩
    else .error (.valueError "Password hash contains unsafe control characters")
  else .error (.valueError "Password hash cannot be empty")

/-- A password hash has the value that it was made of. -/
theorem PasswordHash.value_of {value : String} {hash : PasswordHash}
    (h : PasswordHash.of value = .ok hash) : hash.value = value := by
  unfold PasswordHash.of at h
  split at h
  · split at h
    · cases h
      rfl
    · cases h
  · cases h

/-- `PersonName`. -/
structure PersonName where
  firstName : String
  lastName : String
  firstName_nonempty : firstName ≠ ""
  lastName_nonempty : lastName ≠ ""
  firstName_stripped : strip firstName = firstName
  lastName_stripped : strip lastName = lastName
deriving DecidableEq

/-- `PersonName(first_name, last_name)`. -/
@[irreducible] def PersonName.of (firstName lastName : String) : Except AccountError PersonName :=
  if hfirst : strip firstName ≠ "" then
    if hlast : strip lastName ≠ "" then
      .ok ⟨strip firstName, strip lastName, hfirst, hlast, strip_strip _, strip_strip _⟩
    else .error (.valueError "Last name cannot be empty")
  else .error (.valueError "First name cannot be empty")

/-- The parts of a name are read back. -/
theorem PersonName.of_parts (name : PersonName) :
    PersonName.of name.firstName name.lastName = .ok name := by
  obtain ⟨firstName, lastName, hfirst, hlast, hfirst', hlast'⟩ := name
  unfold PersonName.of
  simp only [hfirst', hlast']
  rw [dif_pos hfirst, dif_pos hlast]

/-- `SecurityReason._FORBIDDEN_FRAGMENTS`. -/
def forbiddenFragments : List String := ["password", "token", "secret", "totp", "refresh"]

/-- `fragment in text`. -/
def occursIn (fragment text : String) : Bool :=
  text.toList.tails.any fun tail => fragment.toList.isPrefixOf tail

/-- `SecurityReason`. -/
structure SecurityReason where
  value : String
  nonempty : value ≠ ""
  safe : (forbiddenFragments.any fun fragment => occursIn fragment (lower value)) = false
deriving DecidableEq

/-- `SecurityReason(value)`. -/
@[irreducible] def SecurityReason.of (value : String) : Except AccountError SecurityReason :=
  if nonempty : strip value ≠ "" then
    if safe : (forbiddenFragments.any fun fragment =>
        occursIn fragment (lower (strip value))) = false then
      .ok ⟨strip value, nonempty, safe⟩
    else .error (.invalidSecurityReason "Security reason cannot contain secret-like text")
  else .error (.invalidSecurityReason "Security reason cannot be empty")

/-- `_normalize_reason` of a reason given as text. -/
def normalizeReason : Option String → Except AccountError (Option SecurityReason)
  | none => .ok none
  | some reason => (SecurityReason.of reason).map some

/-- `PasswordPolicy.validate`. -/
@[irreducible] def validatePassword (plainPassword : String) : Except AccountError Unit :=
  let characters := plainPassword.toList
  if characters.length < 8 then
    .error (.weakPassword "Password must be at least 8 characters long")
  else if 128 < characters.length then
    .error (.weakPassword "Password must be at most 128 characters long")
  else if ¬ characters.any Char.isUpper then
    .error (.weakPassword "Password must contain at least one uppercase letter")
  else if ¬ characters.any Char.isLower then
    .error (.weakPassword "Password must contain at least one lowercase letter")
  else if ¬ characters.any isDecimal then
    .error (.weakPassword "Password must contain at least one digit")
  else if ¬ characters.any fun c => ¬ (c.isAlphanum ∨ isSpace c) then
    .error (.weakPassword
      "Password must contain at least one non-whitespace special character")
  else .ok ()

/-- A password hash is read back. -/
theorem PasswordHash.of_value (hash : PasswordHash) : PasswordHash.of hash.value = .ok hash := by
  unfold PasswordHash.of
  simp only [dif_pos hash.nonempty, dif_pos hash.safe]

/-- What an event of the account tells beyond the account and its token version. -/
inductive IdentityEventDetail : Type where
  | userRegistered (email : Email) (role : UserRole)
  | userLoggedIn
  | userVerified
  | userPasswordChanged
  | userActivated (actorUserId : Option UUID) (reason : Option SecurityReason)
  | userDeactivated (actorUserId : Option UUID) (reason : Option SecurityReason)
  | userSuspended (actorUserId : Option UUID) (reason : SecurityReason)
  | userRestored (actorUserId : Option UUID) (reason : Option SecurityReason)
  | userLocked
  | userUnlocked (actorUserId : Option UUID) (reason : Option SecurityReason)
  | userRoleChanged (previousRole newRole : UserRole) (actorUserId : Option UUID)
      (reason : Option SecurityReason)
  | userTwoFactorEnabled
  | userTwoFactorDisabled
  | userOAuthLinked (provider : String)
deriving DecidableEq

/-- A recorded event of an account. -/
structure IdentityEvent where
  userId : UUID
  authTokenVersion : ℕ
  detail : IdentityEventDetail
deriving DecidableEq

/-- `Permission`. -/
inductive Permission : Type where
  | assignUserRole
  | assignAdminRole
deriving DecidableEq

/-- `permissions_for_role`. -/
def permissionsForRole : UserRole → List Permission
  | .planner | .vendor => []
  | .admin => [.assignUserRole, .assignAdminRole]

/-- `_ROLE_RANK`. -/
def roleRank : UserRole → ℕ
  | .planner | .vendor => 1
  | .admin => 2

/-- `RoleAssignmentContext.for_actor` without explicit permissions. -/
structure RoleAssignmentContext where
  targetUserId : UUID
  currentRole : UserRole
  newRole : UserRole
  actorUserId : UUID
  actorRole : UserRole

/-- The permissions of the context are those of the role of its actor. -/
def RoleAssignmentContext.permissions (context : RoleAssignmentContext) : List Permission :=
  permissionsForRole context.actorRole

/-- `RoleAssignmentPolicy.ensure_can_assign`. -/
def ensureCanAssign (context : RoleAssignmentContext) : Except AccountError Unit :=
  if .assignUserRole ∉ context.permissions then
    .error (.roleAssignmentDenied "Role assignment requires user role assignment permission")
  else if context.newRole = context.currentRole then .ok ()
  else if context.actorUserId = context.targetUserId ∧ context.newRole = .admin then
    .error (.roleCannotBeSelfAssigned "Users cannot assign themselves the admin role")
  else if roleRank context.currentRole < roleRank context.newRole ∧
      .assignAdminRole ∉ context.permissions then
    .error (.roleAssignmentDenied
      "Privilege escalation requires admin role assignment permission")
  else .ok ()

/-- The `User` aggregate with the events it has recorded. -/
structure User where
  id : UUID
  email : Email
  passwordHash : Option PasswordHash
  name : PersonName
  role : UserRole
  twoFactorEnabled : Bool
  authTokenVersion : ℕ
  status : AccountStatus
  lastLogin : Option Datetime
  events : List IdentityEvent
deriving DecidableEq

/-- `ensure_account_can_be_activated`. -/
def ensureAccountCanBeActivated (isVerified : Bool) : Except AccountError Unit :=
  if isVerified then .ok ()
  else .error (.accountCannotBeActivated "Account must be verified before activation")

namespace User

/-- `is_active`. -/
def isActive (user : User) : Bool := user.status.isActive

/-- `is_verified`. -/
def isVerified (user : User) : Bool := user.status.isVerified

/-- Record an event with the token version of the account. -/
def record (user : User) (detail : IdentityEventDetail) : User :=
  { user with
    events := user.events ++ [⟨user.id, user.authTokenVersion, detail⟩] }

/-- `rotate_auth_token_version`. -/
def rotateAuthTokenVersion (user : User) : User :=
  { user with authTokenVersion := user.authTokenVersion + 1 }

/-- The end of a mutator that changes the status and rotates the token version. -/
def moveTo (user : User) (status : AccountStatus) (detail : IdentityEventDetail) : User :=
  ({ user with status } : User).rotateAuthTokenVersion.record detail

/-- `register_new`. -/
def registerNew (id : UUID) (email : Email) (passwordHash : Option PasswordHash)
    (firstName lastName : String) (role : UserRole) (isVerified : Bool) :
    Except AccountError User :=
  if role = .admin then .error (.valueError "Role cannot self-register")
  else do
    let name ← PersonName.of firstName lastName
    let user : User :=
      { id, email, passwordHash, name, role
        twoFactorEnabled := false
        authTokenVersion := 0
        status := if isVerified then .active else .pendingVerification
        lastLogin := none
        events := [] }
    .ok (user.record (.userRegistered email role))

/-- `change_password`, after the history has been checked. -/
def changePassword (user : User) (newPasswordHash : PasswordHash) : User :=
  ({ user with passwordHash := some newPasswordHash } : User).rotateAuthTokenVersion.record
    .userPasswordChanged

/-- `mark_verified`, after the challenge has been checked. Every unverified account becomes
active, also a deactivated one. -/
def markVerified (user : User) : User :=
  if user.isVerified then user else ({ user with status := .active } : User).record .userVerified

/-- `deactivate`. -/
def deactivate (user : User) (actorUserId : Option UUID) (reason : Option String) :
    Except AccountError User :=
  if user.status = .deactivated ∨ user.status = .deactivatedPendingVerification then .ok user
  else do
    let reason ← normalizeReason reason
    let status : AccountStatus :=
      if user.isVerified then .deactivated else .deactivatedPendingVerification
    .ok (user.moveTo status (.userDeactivated actorUserId reason))

/-- `activate`, which does not rotate the token version. -/
def activate (user : User) (actorUserId : Option UUID) (reason : Option String) :
    Except AccountError User :=
  if user.status = .active then .ok user
  else do
    ensureAccountCanBeActivated user.isVerified
    let reason ← normalizeReason reason
    .ok (({ user with status := .active } : User).record (.userActivated actorUserId reason))

/-- `suspend`. -/
def suspend (user : User) (reason : SecurityReason) (actorUserId : Option UUID) :
    Except AccountError User :=
  if user.status = .suspended then .ok user
  else do
    ensureAccountCanBeActivated user.isVerified
    .ok (user.moveTo .suspended (.userSuspended actorUserId reason))

/-- `restore`. -/
def restore (user : User) (actorUserId : Option UUID) (reason : Option String) :
    Except AccountError User :=
  if user.status = .active then .ok user
  else do
    ensureAccountCanBeActivated user.isVerified
    let reason ← normalizeReason reason
    .ok (user.moveTo .active (.userRestored actorUserId reason))

/-- `lock`. -/
def lock (user : User) : Except AccountError User :=
  if user.status = .locked then .ok user
  else do
    ensureAccountCanBeActivated user.isVerified
    .ok (user.moveTo .locked .userLocked)

/-- `unlock`. -/
def unlock (user : User) (actorUserId : Option UUID) (reason : Option String) :
    Except AccountError User :=
  if user.status = .active then .ok user
  else do
    ensureAccountCanBeActivated user.isVerified
    let reason ← normalizeReason reason
    .ok (user.moveTo .active (.userUnlocked actorUserId reason))

/-- `change_role`. -/
def changeRole (user : User) (newRole : UserRole) (actorUserId : UUID) (actorRole : UserRole)
    (reason : Option SecurityReason) : Except AccountError User :=
  if newRole = user.role then .ok user
  else do
    ensureCanAssign
      { targetUserId := user.id, currentRole := user.role, newRole, actorUserId, actorRole }
    .ok (({ user with role := newRole } : User).rotateAuthTokenVersion.record
      (.userRoleChanged user.role newRole actorUserId reason))

/-- `update_profile`. -/
def updateProfile (user : User) (firstName lastName : Option String) :
    Except AccountError User := do
  let name ← PersonName.of (firstName.getD user.name.firstName) (lastName.getD user.name.lastName)
  .ok { user with name }

/-- `enable_two_factor`. -/
def enableTwoFactor (user : User) : User :=
  if user.twoFactorEnabled then user
  else
    ({ user with twoFactorEnabled := true } : User).rotateAuthTokenVersion.record
      .userTwoFactorEnabled

/-- `disable_two_factor`. -/
def disableTwoFactor (user : User) : User :=
  if user.twoFactorEnabled then
    ({ user with twoFactorEnabled := false } : User).rotateAuthTokenVersion.record
      .userTwoFactorDisabled
  else user

/-- `link_oauth_provider`. -/
def linkOAuthProvider (user : User) (provider : String) : User :=
  user.record (.userOAuthLinked provider)

/-- `record_login`. -/
def recordLogin (user : User) (now : Datetime) : User :=
  ({ user with lastLogin := some now } : User).record .userLoggedIn

end User

/-- `AuthenticationEligibility`. -/
structure AuthenticationEligibility where
  allowed : Bool
  requiresMfa : Bool

/-- `evaluate_authentication_eligibility`. -/
def evaluateAuthenticationEligibility (user : User) : AuthenticationEligibility :=
  let allowed := decide (user.status = .active)
  { allowed, requiresMfa := allowed && user.twoFactorEnabled }

end Linkapro.Identity
