import Linkapro.Identity.AccountTransactions

/-!
# Identity: interleaved account handlers

Any number of executions share the table of users. A handler saves every column of
the aggregate that it has loaded, so a save brings back what the row has been at the
load. As long as each save finds a row that is not newer than the loaded one, no turn
lowers a token version and only an activation makes an account active.
-/

namespace Linkapro.Identity

open Lib

variable {ι : Type} [DecidableEq ι]

/-- A pool of executions over the table of users. -/
abbrev AccountPool (ι : Type) : Type :=
  Pool ι AccountState (Raising AccountError AccountOp.Ret) (Except AccountError Unit)

/-- The pool before any of the executions has performed a call. -/
def startCommands (s : AccountState) (commands : ι → IdentityCommand) : AccountPool ι :=
  Pool.start s fun i => (commands i).program.run

/-- The contracts of the executions. -/
abbrev accountContracts (commands : ι → IdentityCommand) (i : ι) :
    Contract (Raising AccountError AccountOp.Ret) :=
  accountContract (commands i)

/-- An execution may end with any outcome. -/
abbrev anyOutcome (_ : ι) (_ : AccountLog) (_ : Except AccountError Unit) : Prop := True

omit [DecidableEq ι] in
theorem answers_accountContracts (commands : ι → IdentityCommand) :
    Pool.Answers AccountState.exec (accountContracts commands) :=
  fun i choice op s => possible_exec (commands i) choice op s

theorem disciplined_startCommands {s : AccountState} {commands : ι → IdentityCommand} :
    Pool.Disciplined (accountContracts commands) anyOutcome (startCommands s commands) :=
  fun i => (commands i).safe

/-- The rows that the next call of an execution saves. -/
def nextSaves (pool : AccountPool ι) (i : ι) : List UserRow :=
  ((pool.next i).map AccountOp.savedRows).getD []

omit [DecidableEq ι] in
theorem nextSaves_of_call {pool : AccountPool ι} {i : ι} {op : AccountOp}
    {next : Except AccountError op.Ret → Program (Raising AccountError AccountOp.Ret)
      (Except AccountError Unit)} (h : pool.rest i = .call op next) :
    nextSaves pool i = op.savedRows := by
  rw [nextSaves, Pool.next_of_call h]
  rfl

/-- What a turn of a disciplined pool does to the row of a user. -/
theorem writes_step {commands : ι → IdentityCommand} {pool : AccountPool ι}
    (hpool : Pool.Disciplined (accountContracts commands) anyOutcome pool)
    (turn : ι × AccountChoice) (userId : UUID) :
    pool.state.users.lookup userId =
        (pool.step AccountState.exec turn).state.users.lookup userId ∨
      ∃ op next, pool.rest turn.1 = .call op next ∧
        Writes (commands turn.1) (pool.log turn.1) op userId (pool.state.users.lookup userId)
          ((pool.step AccountState.exec turn).state.users.lookup userId) := by
  obtain ⟨i, choice⟩ := turn
  cases hrest : pool.rest i with
  | done value =>
    rw [Pool.step_of_done hrest]
    exact Or.inl rfl
  | call op next =>
    refine Or.inr ⟨op, next, rfl, ?_⟩
    have hwrites := writes_exec (hpool.allowed_call hrest) choice pool.state userId
    rwa [Pool.step_of_call hrest]

/-- A row after a turn: its token version is not lower, and it has not been made active
unless the command is an activation of this account. -/
structure RowKept (command : IdentityCommand) (before after : UserRow) : Prop where
  version_le : before.authTokenVersion ≤ after.authTokenVersion
  active : after.isActive = true → before.isActive = true ∨ command.activatedUser = some before.id

instance (command : IdentityCommand) (before after : UserRow) :
    Decidable (RowKept command before after) :=
  decidable_of_iff (before.authTokenVersion ≤ after.authTokenVersion ∧
    (after.isActive = true → before.isActive = true ∨ command.activatedUser = some before.id))
    ⟨fun h => ⟨h.1, h.2⟩, fun h => ⟨h.version_le, h.active⟩⟩

/-- The turn keeps every stored row in this sense. -/
def RowsKept (commands : ι → IdentityCommand) (pool : AccountPool ι) (turn : ι × AccountChoice) :
    Prop :=
  ∀ before ∈ pool.state.users.rows,
    ∃ after ∈ (pool.step AccountState.exec turn).state.users.rows,
      after.id = before.id ∧ RowKept (commands turn.1) before after

instance (commands : ι → IdentityCommand) (pool : AccountPool ι) (turn : ι × AccountChoice) :
    Decidable (RowsKept commands pool turn) :=
  inferInstanceAs (Decidable (∀ _ ∈ _, _))

/-- When the turn saves a row, the stored row has no newer token version than the loaded
one, and it is active if that one is, unless the command is an activation of the account. -/
def SavesFresh (commands : ι → IdentityCommand) (pool : AccountPool ι) (turn : ι × AccountChoice) :
    Prop :=
  ∀ row ∈ nextSaves pool turn.1, ∀ held ∈ heldRow (pool.log turn.1),
    ∀ stored ∈ pool.state.users.lookup row.id,
      stored.authTokenVersion ≤ held.authTokenVersion ∧
        (held.isActive = true → stored.isActive = true ∨
          (commands turn.1).activatedUser = some stored.id)

instance (commands : ι → IdentityCommand) (pool : AccountPool ι) (turn : ι × AccountChoice) :
    Decidable (SavesFresh commands pool turn) :=
  inferInstanceAs (Decidable (∀ _ ∈ _, _))

/-- A saved row that has been evolved from a row as new as the stored one keeps it. -/
theorem rowKept_of_savable {command : IdentityCommand} {log : AccountLog} {stored row : UserRow}
    {user : User} (hcreates : command.creates = false) (hverifies : command.verifies = false)
    (hrow : row.Holds user) (huser : Savable command log user)
    (hfresh : ∀ held ∈ heldRow log, stored.authTokenVersion ≤ held.authTokenVersion ∧
      (held.isActive = true → stored.isActive = true ∨
        command.activatedUser = some stored.id)) (hid : row.id = stored.id) :
    RowKept command stored row := by
  cases huser with
  | created hcreates' => exact absurd (hcreates.symm.trans hcreates') Bool.false_ne_true
  | evolved held before hheld hbefore hevolves =>
    obtain ⟨hversion, hactive⟩ := hfresh held hheld
    have hbefore' := UserRow.holds_of_toDomain hbefore
    constructor
    · calc stored.authTokenVersion ≤ held.authTokenVersion := hversion
        _ = before.authTokenVersion := hbefore'.version_eq.symm
        _ ≤ user.authTokenVersion := hevolves.version_le
        _ = row.authTokenVersion := hrow.version_eq
    · intro hrowActive
      rcases hevolves.active (hrow.active_eq.trans hrowActive) with hwas | hactivates | ⟨h, _⟩
      · exact hactive (hbefore'.active_eq.symm.trans hwas)
      · rw [← hevolves.id_eq, hrow.id_eq, hid] at hactivates
        exact Or.inr hactivates
      · exact absurd (hverifies.symm.trans h) Bool.false_ne_true

/-- While every save is fresh, no turn of account handlers lowers a token version, and
none makes an account active but an activation. -/
theorem rows_kept_of_saves_fresh (s : AccountState) (commands : ι → AccountCommand)
    (schedule : List (ι × AccountChoice))
    (hfresh : Pool.Always AccountState.exec (SavesFresh fun i => .account (commands i))
      (startCommands s fun i => .account (commands i)) schedule) :
    Pool.Always AccountState.exec (RowsKept fun i => .account (commands i))
      (startCommands s fun i => .account (commands i)) schedule := by
  have hkeeps : Pool.Keeps AccountState.exec
      (accountContracts fun i => .account (commands i)) anyOutcome
      (SavesFresh fun i => .account (commands i)) (fun _ : AccountPool ι => True) :=
    fun _ _ _ _ _ _ _ _ _ _ => trivial
  refine hkeeps.always (answers_accountContracts _) disciplined_startCommands trivial hfresh ?_
  intro pool turn hpool _ hturn before hbefore
  have hlookup := Table.lookup_of_mem hbefore
  rcases writes_step hpool turn before.id with hsame | ⟨op, next, hrest, hwrites⟩
  · exact ⟨before, Table.mem_of_lookup (hsame.symm.trans hlookup), rfl, Nat.le_refl _, Or.inl⟩
  · rw [hlookup] at hwrites
    generalize hafter : (pool.step AccountState.exec turn).state.users.lookup before.id = after
      at hwrites
    cases hwrites with
    | leaves => exact ⟨before, Table.mem_of_lookup hafter, rfl, Nat.le_refl _, Or.inl⟩
    | @saves _ row user hsaved hid hrow huser =>
      refine ⟨row, Table.mem_of_lookup hafter, hid, ?_⟩
      refine rowKept_of_savable rfl rfl hrow huser (fun held hheld => ?_) hid
      exact hturn row (nextSaves_of_call hrest ▸ hsaved) held hheld before (hid ▸ hlookup)
    | @flags _ isActive hflags =>
      refine ⟨_, Table.mem_of_lookup hafter, rfl, Nat.le_refl _, fun hactive => Or.inr ?_⟩
      have hactive : isActive = true := hactive
      rwa [hactive, if_pos rfl] at hflags
    | bumps => exact ⟨_, Table.mem_of_lookup hafter, rfl, Nat.le_succ _, Or.inl⟩

/-- A hasher that writes the password down, and services that accept what they are given. -/
def calmAnswer : (call : ServiceCall) → call.Ret
  | .utcNow => (1000 : ℤ)
  | .uuid4 => (900 : UUID)
  | .isLocked _ | .recordFailure _ | .isMfaGrantBlacklisted _ | .hasBeenUsed _ _ => false
  | .verifyPassword plainPassword passwordHash =>
    decide (passwordHash.value = "pbkdf2_sha256$" ++ plainPassword)
  | .verifyTotp _ _ _ | .consumeRecoveryCode _ _ | .verifyStepUpGrant _ _ _ => true
  | .hashPassword plainPassword => "pbkdf2_sha256$" ++ plainPassword
  | .randomPasswordSuffix => "suffix"
  | .createTempToken _ _ => "temp"
  | .createIdentitySession _ _ => "session"
  | .encryptTotpSecret _ => "encrypted"
  | .listActiveIdentitySessions _ => []
  | .revokeAllIdentitySessions _ _ => (0 : ℕ)
  | .verifyEmailVerificationToken _ => none
  | .getVerificationChallenge _ => none
  | .getMfaChallenge _ => none
  | .inspectMfaLoginGrant _ => none
  | .getMfaEnrollment _ => none
  | .decryptTotpSecret _ => none
  | .verifyResetToken _ => none
  | .getOAuthByProviderUser _ _ | .getOAuthByUser _ _ => none
  | .recordSuccess _ | .verifyAgainstDummy _ | .dispatch _ | .blacklistFamily _
  | .cacheSessionRevocation _ | .saveVerificationChallenge _ | .dispatchVerification _
  | .saveMfaChallenge _ | .blacklistMfaGrant _ | .markUsed _ _ _ | .saveMfaEnrollment _ _
  | .consumeMfaEnrollment _ | .markTokenExpired _ _ | .persistUsedToken _
  | .revokeOtherActiveTokens _ _ _ | .saveOAuthToken _ | .consumeStepUpGrant _ _ _
  | .logAction _ _ _ => ()

/-- A call that succeeds. -/
def calmChoice : AccountChoice where
  fault := none
  uuid := 800
  stamp := { jti := 700, env := "test", issuedAt := 1000, expiresAt := 2000 }
  answer := calmAnswer

/-- A verified planner with a password. -/
def sampleRow : UserRow where
  id := 1
  email := "user@example.com"
  password := "pbkdf2_sha256$old"
  firstName := "Ada"
  lastName := "Byron"
  role := "planner"
  twoFactorEnabled := false
  totpSecret := none
  authTokenVersion := 0
  isActive := true
  isVerified := true
  lastLogin := none

/-- An administrator. -/
def adminRow : UserRow :=
  { sampleRow with id := 2, email := "admin@example.com", role := "admin" }

/-- The two accounts, without a token. -/
def sampleAccounts : AccountState where
  users := (Table.empty.upsert sampleRow).upsert adminRow
  passwordHistory _ := []
  accessTokens := []
  refreshTokens := []

/-- A profile update of the planner and the deactivation of the same account. -/
def updateAndDeactivate : Bool → AccountCommand
  | true => .updateAccountProfile 1 (some "Grace") none
  | false => .deactivateAccount (some 2) 1 none

/-- The update loads the account, the deactivation runs, then the update saves. -/
def deactivateInsideUpdate : List (Bool × AccountChoice) :=
  (true, calmChoice) :: List.replicate 7 (false, calmChoice) ++ List.replicate 2 (true, calmChoice)

/-- The stale save makes the account active again at its old token version. -/
theorem deactivated_account_active_again :
    ¬ Pool.Always AccountState.exec (RowsKept fun i => .account (updateAndDeactivate i))
      (startCommands sampleAccounts fun i => .account (updateAndDeactivate i))
      deactivateInsideUpdate := by
  decide +kernel

/-- When the update runs to its end first, every save is fresh. -/
theorem rows_kept_of_saves_fresh_sample :
    Pool.Always AccountState.exec (RowsKept fun i => .account (updateAndDeactivate i))
      (startCommands sampleAccounts fun i => .account (updateAndDeactivate i))
      (List.replicate 3 (true, calmChoice) ++ List.replicate 7 (false, calmChoice)) :=
  rows_kept_of_saves_fresh sampleAccounts updateAndDeactivate _ (by decide +kernel)

end Linkapro.Identity
