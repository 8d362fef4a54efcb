import Mathlib.Data.Rat.Floor
import Linkapro.Identity.InterleavedAccounts
import Linkapro.Identity.SequentialRuns

/-!
# Identity: tokens of an older version

When an execution raises the token version of an account, nobody accepts the tokens
that were signed for the account before, whatever runs later. Roles, passwords, the
second factor and the active flag change with the version, with two exceptions: the
confirmation of another second factor and the flag that `AdminUserBanView` writes.
-/

namespace Linkapro.Identity

open Lib

section Rejection

variable (T : Type) [Field T] [LinearOrder T] [IsStrictOrderedRing T] [FloorRing T]

/-- No request is authenticated with an access token, whatever the session stores hold. -/
def AccessTokenRejected (s : AccountState) (token : AccessToken) : Prop :=
  ∀ (settings : TokenSettings) (signed : List AccessToken) (stores : SessionState T)
    (userId : String), authenticate settings signed (stores.withUsers s) token ≠ .ok userId

/-- No refresh yields a pair for a token, whatever the session stores hold. -/
def RefreshTokenRejected (s : AccountState) (token : RefreshToken) : Prop :=
  ∀ (settings : TokenSettings) (stores : SessionState T) (ticks : List (Tick T))
    (pair : IssuedTokenPair), (runRefresh settings token stores ticks s).value ≠ some (.ok pair)

/-- The tokens of a user that an earlier state has are rejected. -/
structure TokensRejected (userId : UUID) (earlier s : AccountState) : Prop where
  access : ∀ token ∈ earlier.accessTokens, token.userId = some (uuidText userId) →
    AccessTokenRejected T s token
  refresh : ∀ token ∈ earlier.refreshTokens, token.userId = some (uuidText userId) →
    RefreshTokenRejected T s token

variable {T}
variable {s earlier : AccountState} {userId : UUID} {row : UserRow}

/-- The token code finds the version of the stored row. -/
theorem version_of_tokenStates (hrow : s.users.lookup userId = some row) {state : UserTokenState}
    (h : s.tokenStates (uuidText userId) = some state) :
    state.authTokenVersion = row.authTokenVersion := by
  rw [AccountState.tokenStates_uuidText, hrow] at h
  cases h
  rfl

omit [IsStrictOrderedRing T] [FloorRing T] in
/-- A token with a lower version than the row of its user authenticates no request. -/
theorem accessTokenRejected_of_lt (hrow : s.users.lookup userId = some row) {token : AccessToken}
    (huser : token.userId = some (uuidText userId)) {version : ℕ}
    (hversion : token.authTokenVersion = some (version : ℤ))
    (hlt : version < row.authTokenVersion) : AccessTokenRejected T s token := by
  intro settings signed stores userId' haccepted
  have hmatches := (authenticate_ok haccepted).version
  unfold SessionState.tokenVersionMatchesUser at hmatches
  split at hmatches
  · cases hmatches
  · next state hstate =>
    rw [huser, nonEmpty_uuidText] at hstate
    have hcurrent := version_of_tokenStates hrow hstate
    rw [decide_eq_true_eq, hversion, hcurrent] at hmatches
    have heq := Option.some.inj hmatches
    omega

/-- A token with a lower version than the row of its user is not refreshed. -/
theorem refreshTokenRejected_of_lt (hrow : s.users.lookup userId = some row)
    {token : RefreshToken} (huser : token.userId = some (uuidText userId)) {version : ℕ}
    (hversion : token.authTokenVersion = some (version : ℤ))
    (hlt : version < row.authTokenVersion) : RefreshTokenRejected T s token := by
  intro settings stores ticks pair hreturned
  have hissued := issued_of_runRefresh hreturned
  obtain ⟨claims, text, state, hread, hstate, htext, hpresented, _⟩ :=
    (refreshDated_runRefresh settings token stores ticks s).pairs pair hissued
  obtain ⟨_, _, _, hclaimsUser, hclaimsVersion, _⟩ := readClaims_ok hread
  rw [hclaimsUser, huser, nonEmpty_uuidText] at htext
  rw [← Option.some.inj htext] at hstate
  have hcurrent := version_of_tokenStates hrow hstate
  rw [hclaimsVersion, hversion, hcurrent] at hpresented
  have heq := Option.some.inj hpresented
  omega

/-- A dated token of a user has a lower version than every later row of the user whose
version has risen. -/
theorem lt_of_dated {before : UserRow} (hbefore : earlier.users.lookup userId = some before)
    (hlt : before.authTokenVersion < row.authTokenVersion) {text : Option String}
    {tokenVersion : Option ℤ} (hdated : earlier.Dated (text, tokenVersion))
    (huser : text = some (uuidText userId)) :
    ∃ version : ℕ, tokenVersion = some (version : ℤ) ∧ version < row.authTokenVersion := by
  obtain ⟨userId', version, heq, hversion⟩ := hdated
  obtain ⟨htext, rfl⟩ := Prod.mk.inj heq
  have hsame : userId = userId' :=
    uuidText_injective (Option.some.inj (huser.symm.trans htext))
  subst hsame
  refine ⟨version, rfl, ?_⟩
  rcases hversion with rfl | ⟨row', hrow', hle⟩
  · omega
  · rw [hbefore] at hrow'
    cases hrow'
    omega

/-- The tokens of a user are rejected once its version has risen. -/
theorem tokensRejected_of_lt (hdated : AllDated earlier) {before : UserRow}
    (hbefore : earlier.users.lookup userId = some before) (hrow : s.users.lookup userId = some row)
    (hlt : before.authTokenVersion < row.authTokenVersion) :
    TokensRejected T userId earlier s where
  access token hmem huser := by
    have htoken := hdated _ (List.mem_append_left _ (List.mem_map_of_mem hmem))
    obtain ⟨version, hversion, hless⟩ := lt_of_dated hbefore hlt htoken huser
    exact accessTokenRejected_of_lt hrow huser hversion hless
  refresh token hmem huser := by
    have htoken := hdated _ (List.mem_append_right _ (List.mem_map_of_mem hmem))
    obtain ⟨version, hversion, hless⟩ := lt_of_dated hbefore hlt htoken huser
    exact refreshTokenRejected_of_lt hrow huser hversion hless

/-- Once a step has raised the version of a user, it stays above the old one and the older
tokens are rejected, whatever runs later. -/
theorem rejected_after_rise (hdated : AllDated s) (step : IdentityStep T)
    (later : List (IdentityStep T)) {before after : UserRow}
    (hbefore : s.users.lookup userId = some before)
    (hafter : (step.apply s).users.lookup userId = some after)
    (hlt : before.authTokenVersion < after.authTokenVersion) :
    (∃ last, (runSteps later (step.apply s)).users.lookup userId = some last ∧
      after.authTokenVersion ≤ last.authTokenVersion) ∧
      TokensRejected T userId s (runSteps later (step.apply s)) := by
  obtain ⟨last, hlast, hle⟩ := version_le_runSteps later (step.dated_apply hdated) hafter
  exact ⟨⟨last, hlast, hle⟩, tokensRejected_of_lt hdated hbefore hlast (hlt.trans_le hle)⟩

end Rejection

namespace IdentityStep

variable {T : Type} [Field T] [LinearOrder T] [IsStrictOrderedRing T] [FloorRing T]

/-- The confirmation of a new second factor. -/
def enrolls : IdentityStep T → Bool
  | .account command _ => command.enrolls
  | _ => false

/-- The account that an endpoint disables by its flag alone. -/
def flaggedUser : IdentityStep T → Option UUID
  | .account command _ => command.flaggedUser
  | _ => none

/-- A step has changed the role, the password or the second factor of a user. -/
def SecurityChange (step : IdentityStep T) (before after : UserRow) : Prop :=
  after.role ≠ before.role ∨ after.usablePassword ≠ before.usablePassword ∨
    after.twoFactorEnabled ≠ before.twoFactorEnabled ∨
    (step.enrolls = true ∧ after.totpSecret ≠ before.totpSecret)

instance (step : IdentityStep T) (before after : UserRow) :
    Decidable (step.SecurityChange before after) :=
  inferInstanceAs (Decidable (_ ∨ _))

omit [IsStrictOrderedRing T] [FloorRing T] in
/-- A security change raises the version, unless it replaces the second factor. -/
theorem version_lt_of_securityChange {step : IdentityStep T} {s : AccountState}
    {before after : UserRow} (hevolves : step.Evolves s before after)
    (hchange : step.SecurityChange before after)
    (hfactor : step.enrolls = true → before.twoFactorEnabled = false) :
    before.authTokenVersion < after.authTokenVersion := by
  refine lt_of_le_of_ne (version_le_of_evolves hevolves) fun heq => ?_
  cases step with
  | account command choices =>
    obtain ⟨hrole, htwoFactor, hpassword, _⟩ := hevolves.rotated heq.symm
    rcases hchange with hne | hne | hne | ⟨henrolls, hne⟩
    · exact hne hrole
    · exact hne hpassword
    · exact hne htwoFactor
    · exact hne (hevolves.secret henrolls (hfactor henrolls) heq.symm)
  | refresh settings token stores ticks =>
    cases hevolves
    simp [SecurityChange] at hchange
  | stepUp settings now jti token =>
    cases hevolves
    simp [SecurityChange] at hchange

omit [IsStrictOrderedRing T] [FloorRing T] in
/-- A step that disables an account raises its version, unless it writes the flag alone. -/
theorem version_lt_of_disabled {step : IdentityStep T} {s : AccountState} {before after : UserRow}
    (hevolves : step.Evolves s before after) (hbefore : before.isActive = true)
    (hafter : after.isActive = false) (hflag : step.flaggedUser ≠ some before.id) :
    before.authTokenVersion < after.authTokenVersion := by
  refine lt_of_le_of_ne (version_le_of_evolves hevolves) fun heq => ?_
  cases step with
  | account command choices =>
    obtain ⟨_, _, _, hactive⟩ := hevolves.rotated heq.symm
    rcases hactive hbefore with hstill | hflagged
    · exact Bool.false_ne_true (hafter.symm.trans hstill)
    · exact hflag hflagged
  | refresh settings token stores ticks =>
    cases hevolves
    exact Bool.false_ne_true (hafter.symm.trans hbefore)
  | stepUp settings now jti token =>
    cases hevolves
    exact Bool.false_ne_true (hafter.symm.trans hbefore)

end IdentityStep

section Theorems

variable {T : Type} [Field T] [LinearOrder T] [IsStrictOrderedRing T] [FloorRing T]
  {s : AccountState} {userId : UUID} {before after : UserRow}

theorem allDated_of_unminted (hs : s.minted = []) : AllDated s := by
  intro entry hentry
  rw [hs] at hentry
  cases hentry

/-- In a run that starts without tokens, a change of the role, the password or the second
factor raises the token version for good and has all older tokens rejected, unless it
replaces a second factor that is in use. -/
theorem tokens_rejected_after_change (hs : s.minted = []) (earlier later : List (IdentityStep T))
    (change : IdentityStep T) (hbefore : (runSteps earlier s).users.lookup userId = some before)
    (hafter : (change.apply (runSteps earlier s)).users.lookup userId = some after)
    (hchange : change.SecurityChange before after)
    (hfactor : change.enrolls = true → before.twoFactorEnabled = false) :
    before.authTokenVersion < after.authTokenVersion ∧
      (∃ last, (runSteps later (change.apply (runSteps earlier s))).users.lookup userId = some last ∧
        after.authTokenVersion ≤ last.authTokenVersion) ∧
      TokensRejected T userId (runSteps earlier s)
        (runSteps later (change.apply (runSteps earlier s))) := by
  have hdated := dated_runSteps earlier (allDated_of_unminted hs)
  obtain ⟨after', hafter', hevolves⟩ := change.evolves_apply hdated hbefore
  rw [hafter] at hafter'
  cases hafter'
  have hlt := IdentityStep.version_lt_of_securityChange hevolves hchange hfactor
  exact ⟨hlt, rejected_after_rise hdated change later hbefore hafter hlt⟩

/-- A second factor that has been asked for. -/
def sampleChallenge : MfaChallenge := MfaChallenge.issue 950 1 .totp 500

/-- Services that accept every code of a second factor and hold an enrollment. -/
def secondFactorAnswer : (call : ServiceCall) → call.Ret
  | .inspectMfaLoginGrant _ =>
    some { grantId := "grant", accountId := 1, challengeId := 950, expiresAt := 5000 }
  | .getMfaChallenge _ => some sampleChallenge
  | .decryptTotpSecret stored => some stored
  | .getMfaEnrollment _ => some { challenge := sampleChallenge, secret := "new" }
  | call => calmAnswer call

/-- An execution of a command with these services. -/
def sampleStep (command : IdentityCommand) : IdentityStep ℚ :=
  .account command (List.replicate 20 { calmChoice with answer := secondFactorAnswer })

/-- A planner with a second factor. -/
def enrolledRow : UserRow := { sampleRow with twoFactorEnabled := true, totpSecret := some "old" }

/-- The account of this planner, without a token. -/
def enrolledAccounts : AccountState := { sampleAccounts with users := Table.empty.upsert enrolledRow }

/-- The login with the second factor. -/
def sampleLogin : IdentityStep ℚ := sampleStep (.completeMfaLogin "temp" "123456")

/-- Session stores with the session of the login and without any revocation. -/
def openStores : SessionState ℚ where
  clock := 1500
  blacklist := fun _ => none
  families := fun _ => none
  revokedAfter := fun _ => none
  users := fun _ => none
  sessions := [⟨"session", uuidText 1, uuidText 900, 1000, none, ""⟩]
  signed := []
  signed_lifetime := fun _ h => by cases h

/-- The settings that the sample tokens are signed with. -/
def testSettings : TokenSettings :=
  { tokenEnv := "test", paymentEnv := none, acceptLegacyPaymentEnvTokens := false }

/-- The confirmation of a second enrollment replaces the stored secret, and an access token
from before it still authenticates requests. -/
theorem replaced_secret_keeps_tokens :
    let before := runSteps [sampleLogin] enrolledAccounts
    let change := sampleStep (.confirmMfaEnrollment 1 "123456")
    before.users.lookup 1 = some enrolledRow ∧
      (change.apply before).users.lookup 1 = some { enrolledRow with totpSecret := some "encrypted" } ∧
      change.SecurityChange enrolledRow { enrolledRow with totpSecret := some "encrypted" } ∧
      ¬ TokensRejected ℚ 1 before (runSteps ([] : List (IdentityStep ℚ)) (change.apply before)) := by
  refine ⟨by decide +kernel, by decide +kernel, by decide +kernel, fun h => ?_⟩
  obtain ⟨token, hmem, huser, haccepted⟩ :
      ∃ token ∈ (runSteps [sampleLogin] enrolledAccounts).accessTokens,
        token.userId = some (uuidText 1) ∧
          authenticate testSettings [token] (openStores.withUsers ((sampleStep
            (.confirmMfaEnrollment 1 "123456")).apply (runSteps [sampleLogin] enrolledAccounts)))
              token = .ok (uuidText 1) := by
    decide +kernel
  exact h.access token hmem huser testSettings [token] openStores (uuidText 1) haccepted

/-- The planner without the second factor. -/
def singleFactorRow : UserRow :=
  { enrolledRow with twoFactorEnabled := false, totpSecret := none, authTokenVersion := 1 }

/-- A login, the end of the second factor, and a new enrollment. -/
theorem tokens_rejected_after_change_sample :
    let before := runSteps [sampleLogin] enrolledAccounts
    let change := sampleStep (.disableMfa 1)
    let later := [sampleStep (.confirmMfaEnrollment 1 "123456")]
    enrolledRow.authTokenVersion < singleFactorRow.authTokenVersion ∧
      (∃ last, (runSteps later (change.apply before)).users.lookup 1 = some last ∧
        singleFactorRow.authTokenVersion ≤ last.authTokenVersion) ∧
      TokensRejected ℚ 1 before (runSteps later (change.apply before)) :=
  tokens_rejected_after_change rfl [sampleLogin] [sampleStep (.confirmMfaEnrollment 1 "123456")]
    (sampleStep (.disableMfa 1)) (by decide +kernel) (by decide +kernel) (by decide +kernel)
    (by decide)

/-- In a run that starts without tokens, a step that disables an account has all its older
tokens rejected for good, unless it writes the flag alone. -/
theorem tokens_rejected_after_disabling (hs : s.minted = [])
    (earlier later : List (IdentityStep T)) (disabling : IdentityStep T)
    (hbefore : (runSteps earlier s).users.lookup userId = some before)
    (hafter : (disabling.apply (runSteps earlier s)).users.lookup userId = some after)
    (hactive : before.isActive = true) (hdisabled : after.isActive = false)
    (hflag : disabling.flaggedUser ≠ some userId) :
    TokensRejected T userId (runSteps earlier s)
      (runSteps later (disabling.apply (runSteps earlier s))) := by
  have hdated := dated_runSteps earlier (allDated_of_unminted hs)
  obtain ⟨after', hafter', hevolves⟩ := disabling.evolves_apply hdated hbefore
  rw [hafter] at hafter'
  cases hafter'
  have hid : before.id = userId := Table.key_of_lookup hbefore
  have hlt := IdentityStep.version_lt_of_disabled hevolves hactive hdisabled (hid ▸ hflag)
  exact (rejected_after_rise hdated disabling later hbefore hafter hlt).2

/-- A token from before a ban by the endpoint authenticates requests after the reinstatement. -/
theorem banned_and_reinstated_keeps_tokens :
    let before := runSteps [sampleLogin] enrolledAccounts
    let ban := sampleStep (.adminUserBan 2 1)
    before.users.lookup 1 = some enrolledRow ∧
      (ban.apply before).users.lookup 1 = some { enrolledRow with isActive := false } ∧
      ¬ TokensRejected ℚ 1 before
        (runSteps [sampleStep (.adminUserReinstate 2 1)] (ban.apply before)) := by
  refine ⟨by decide +kernel, by decide +kernel, fun h => ?_⟩
  obtain ⟨token, hmem, huser, haccepted⟩ :
      ∃ token ∈ (runSteps [sampleLogin] enrolledAccounts).accessTokens,
        token.userId = some (uuidText 1) ∧
          authenticate testSettings [token] (openStores.withUsers
            (runSteps [sampleStep (.adminUserReinstate 2 1)] ((sampleStep (.adminUserBan 2 1)).apply
              (runSteps [sampleLogin] enrolledAccounts)))) token = .ok (uuidText 1) := by
    decide +kernel
  exact h.access token hmem huser testSettings [token] openStores (uuidText 1) haccepted

/-- A login, a ban by the governance handler and the reinstatement. -/
theorem tokens_rejected_after_disabling_sample :
    let before := runSteps [sampleLogin] enrolledAccounts
    TokensRejected ℚ 1 before
      (runSteps [sampleStep (.reinstateUser 2 1)] ((sampleStep (.banUser 2 1)).apply before)) := by
  have hbefore : (runSteps [sampleLogin] enrolledAccounts).users.lookup 1 = some enrolledRow := by
    decide +kernel
  have hafter : ((sampleStep (.banUser 2 1)).apply (runSteps [sampleLogin] enrolledAccounts)).users.lookup
      1 = some { enrolledRow with isActive := false, authTokenVersion := 1 } := by
    decide +kernel
  exact tokens_rejected_after_disabling rfl [sampleLogin] [sampleStep (.reinstateUser 2 1)]
    (sampleStep (.banUser 2 1)) hbefore hafter rfl rfl (by decide)

end Theorems

end Linkapro.Identity
