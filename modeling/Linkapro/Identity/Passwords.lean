import Linkapro.Identity.InterleavedAccounts

/-!
# Identity: who may replace a password

The stored usable password of an account is replaced under the authority of the
current password or of a reset token, as the log of the execution shows. Two things
break this: the password setup does not ask whether there is a password, and a stale
save brings an earlier password back.
-/

namespace Linkapro.Identity

open Lib

variable {ι : Type} [DecidableEq ι]

/-- The hash that a plain password has been found to match. -/
def matchedHash (plainPassword : String) : AccountCall → Option PasswordHash
  | ⟨.service (.verifyPassword plain hash), .ok true⟩ =>
    if plain = plainPassword then some hash else none
  | _ => none

/-- The reset token that a raw token has been found to be. -/
def verifiedToken (rawToken : String) : AccountCall → Option PasswordResetToken
  | ⟨.service (.verifyResetToken raw), .ok token⟩ => if raw = rawToken then token else none
  | _ => none

/-- The instant that a call has answered. -/
def answeredNow : AccountCall → Option Datetime
  | ⟨.service .utcNow, .ok now⟩ => some now
  | _ => none

/-- An execution that may replace the usable password of a stored row: it was given the
current password of the row, or an active, unexpired reset token of its account. A
password setup needs a row without a usable password. -/
def MayReplacePassword (command : IdentityCommand) (log : AccountLog) (stored : UserRow) : Prop :=
  match command with
  | .account (.changePassword _ currentPassword _) =>
    ∃ hash ∈ log.filterMap (matchedHash currentPassword), stored.usablePassword = some hash.value
  | .resetPassword cmd =>
    ∃ token ∈ log.filterMap (verifiedToken cmd.token), ∃ now ∈ log.filterMap answeredNow,
      token.userId = stored.id ∧ token.status = .active ∧ now < token.expiresAt
  | .setupPassword _ _ => stored.usablePassword = none
  | _ => False

instance (command : IdentityCommand) (log : AccountLog) (stored : UserRow) :
    Decidable (MayReplacePassword command log stored) := by
  unfold MayReplacePassword
  split
  all_goals infer_instance

/-- The turn replaces a usable password only under such an authority. -/
def PasswordsGuarded (commands : ι → IdentityCommand) (pool : AccountPool ι)
    (turn : ι × AccountChoice) : Prop :=
  ∀ before ∈ pool.state.users.rows,
    ∃ after ∈ (pool.step AccountState.exec turn).state.users.rows, after.id = before.id ∧
      (after.usablePassword = before.usablePassword ∨
        MayReplacePassword (commands turn.1) (pool.log turn.1) before)

instance (commands : ι → IdentityCommand) (pool : AccountPool ι) (turn : ι × AccountChoice) :
    Decidable (PasswordsGuarded commands pool turn) :=
  inferInstanceAs (Decidable (∀ _ ∈ _, _))

/-- The command sets up a password. -/
def IdentityCommand.setsUp : IdentityCommand → Bool
  | .setupPassword _ _ => true
  | _ => false

/-- When the turn saves a stored row, its usable password is still the loaded one, and a
password setup has loaded none. -/
def SavesLoadedPassword (commands : ι → IdentityCommand) (pool : AccountPool ι)
    (turn : ι × AccountChoice) : Prop :=
  ∀ row ∈ nextSaves pool turn.1, ∀ stored ∈ pool.state.users.lookup row.id,
    ∃ held ∈ heldRow (pool.log turn.1), held.usablePassword = stored.usablePassword ∧
      ((commands turn.1).setsUp = true → held.usablePassword = none)

instance (commands : ι → IdentityCommand) (pool : AccountPool ι) (turn : ι × AccountChoice) :
    Decidable (SavesLoadedPassword commands pool turn) :=
  inferInstanceAs (Decidable (∀ _ ∈ _, _))

/-- The hash of an aggregate that has been read is the usable password of its row. -/
theorem usablePassword_of_toDomain {row : UserRow} {user : User} {hash : PasswordHash}
    (h : row.toDomain = .ok user) (hhash : user.passwordHash = some hash) :
    row.usablePassword = some hash.value := by
  simp only [UserRow.toDomain, except_bind_eq_ok_iff] at h
  obtain ⟨_, _, passwordHash, hpassword, _, _, _, _, h⟩ := h
  cases h
  subst hhash
  unfold UserRow.passwordHash at hpassword
  cases hrow : row.usablePassword with
  | none =>
    simp only [hrow] at hpassword
    cases hpassword
  | some password =>
    simp only [hrow] at hpassword
    obtain ⟨hash', hof, heq⟩ := except_map_eq_ok_iff.mp hpassword
    cases heq
    rw [PasswordHash.value_of hof]

/-- An authority over a loaded aggregate is one over a stored row with the same usable
password. -/
theorem mayReplace_of_authority {command : IdentityCommand} {log : AccountLog}
    {held stored : UserRow} {before : User} (hbefore : held.toDomain = .ok before)
    (hid : before.id = stored.id) (hpassword : held.usablePassword = stored.usablePassword)
    (hsetup : command.setsUp = true → held.usablePassword = none)
    (h : PasswordAuthority command log before) : MayReplacePassword command log stored := by
  unfold PasswordAuthority at h
  split at h
  · obtain ⟨hash, hhash, hmem⟩ := h
    refine ⟨hash, List.mem_filterMap.mpr ⟨_, hmem, if_pos rfl⟩, ?_⟩
    exact hpassword.symm.trans (usablePassword_of_toDomain hbefore hhash)
  · obtain ⟨token, now, htoken, hnow, huser, hactive, hexpires⟩ := h
    exact ⟨token, List.mem_filterMap.mpr ⟨_, htoken, if_pos rfl⟩, now,
      List.mem_filterMap.mpr ⟨_, hnow, rfl⟩, huser.trans hid, hactive, hexpires⟩
  · exact hpassword.symm.trans (hsetup rfl)
  · exact h.elim

/-- A save over a row whose usable password is the loaded one. -/
theorem password_of_savable {command : IdentityCommand} {log : AccountLog} {stored row : UserRow}
    {user : User} (hid : row.id = stored.id) (hrow : row.Holds user)
    (huser : Savable command log user)
    (hloaded : ∃ held ∈ heldRow log, held.usablePassword = stored.usablePassword ∧
      (command.setsUp = true → held.usablePassword = none)) :
    row.usablePassword = stored.usablePassword ∨ MayReplacePassword command log stored := by
  obtain ⟨held, hheld, hpassword, hsetup⟩ := hloaded
  cases huser with
  | created _ hnone =>
    rw [hnone] at hheld
    cases hheld
  | evolved held' before hheld' hbefore hevolves =>
    have heq : held' = held := Option.some.inj (hheld'.symm.trans hheld)
    subst heq
    have hbefore' := UserRow.holds_of_toDomain hbefore
    refine hevolves.password.imp (fun hsame => ?_) fun hauthority => ?_
    · calc row.usablePassword = user.usablePassword := hrow.password_eq.symm
        _ = before.usablePassword := by rw [User.usablePassword, hsame, User.usablePassword]
        _ = held'.usablePassword := hbefore'.password_eq
        _ = stored.usablePassword := hpassword
    · have hid' : before.id = stored.id := by
        rw [← hid, ← hrow.id_eq, hevolves.id_eq]
      exact mayReplace_of_authority hbefore hid' hpassword hsetup hauthority

/-- While every save finds the loaded password, and a setup none, no turn of any handler
replaces a usable password without authority. -/
theorem passwords_guarded_of_loaded (s : AccountState) (commands : ι → IdentityCommand)
    (schedule : List (ι × AccountChoice))
    (hloaded : Pool.Always AccountState.exec (SavesLoadedPassword commands)
      (startCommands s commands) schedule) :
    Pool.Always AccountState.exec (PasswordsGuarded commands) (startCommands s commands)
      schedule := by
  have hkeeps : Pool.Keeps AccountState.exec (accountContracts commands) anyOutcome
      (SavesLoadedPassword commands) (fun _ : AccountPool ι => True) :=
    fun _ _ _ _ _ _ _ _ _ _ => trivial
  refine hkeeps.always (answers_accountContracts _) disciplined_startCommands trivial hloaded ?_
  intro pool turn hpool _ hturn before hbefore
  have hlookup := Table.lookup_of_mem hbefore
  rcases writes_step hpool turn before.id with hsame | ⟨op, next, hrest, hwrites⟩
  · exact ⟨before, Table.mem_of_lookup (hsame.symm.trans hlookup), rfl, Or.inl rfl⟩
  · rw [hlookup] at hwrites
    generalize hafter : (pool.step AccountState.exec turn).state.users.lookup before.id = after
      at hwrites
    cases hwrites with
    | leaves => exact ⟨before, Table.mem_of_lookup hafter, rfl, Or.inl rfl⟩
    | @saves _ row user hsaved hid hrow huser =>
      refine ⟨row, Table.mem_of_lookup hafter, hid, ?_⟩
      refine password_of_savable hid hrow huser ?_
      exact hturn row (nextSaves_of_call hrest ▸ hsaved) before (hid ▸ hlookup)
    | flags => exact ⟨_, Table.mem_of_lookup hafter, rfl, Or.inl rfl⟩
    | bumps => exact ⟨_, Table.mem_of_lookup hafter, rfl, Or.inl rfl⟩

/-- A password setup of the planner, who has a password. -/
def setupOnly (_ : Unit) : IdentityCommand := .setupPassword 1 "Passw0rd!xyz"

/-- A password setup of the administrator, who has none. -/
def setupOfAdmin (_ : Unit) : IdentityCommand := .setupPassword 2 "Passw0rd!xyz"

/-- The two accounts, where the administrator has no password. -/
def accountsWithoutPassword : AccountState :=
  { sampleAccounts with users := sampleAccounts.users.upsert { adminRow with password := "!none" } }

/-- The setup replaces a usable password without having been given it. -/
theorem setup_replaces_password :
    ¬ Pool.Always AccountState.exec (PasswordsGuarded setupOnly)
      (startCommands sampleAccounts setupOnly) (List.replicate 12 ((), calmChoice)) := by
  decide +kernel

/-- A setup of the first password. -/
theorem passwords_guarded_of_loaded_sample :
    Pool.Always AccountState.exec (PasswordsGuarded setupOfAdmin)
      (startCommands accountsWithoutPassword setupOfAdmin)
      (List.replicate 12 ((), calmChoice)) :=
  passwords_guarded_of_loaded accountsWithoutPassword setupOfAdmin _ (by decide +kernel)

end Linkapro.Identity
