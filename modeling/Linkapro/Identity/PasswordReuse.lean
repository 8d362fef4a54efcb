import Mathlib.Data.List.Forall2
import Mathlib.Data.List.Nodup
import Linkapro.Identity.AccountOutcomes
import Linkapro.Identity.InterleavedAccounts

/-!
# Identity: passwords that were used recently

The passwords of one account over all its password changes, setups and resets. The hash
of a new password is remembered by `save`, so that the current hash is both in the
password column and the newest remembered one. Of the five hashes that a new password
is compared with, the first two are therefore the same, and the oldest of the last five
passwords is accepted again.
-/

namespace Linkapro.Identity

open Lib Lib.Action

/-- `DjangoPasswordHasher`, which calls `make_password` and `check_password`. -/
structure PasswordHasher where
  /-- The texts that `make_password` may encode a plain password as. -/
  encodes : String → String → Prop
  verify : String → String → Bool
  verify_encoded : ∀ {plain encoded : String}, encodes plain encoded → verify plain encoded = true
  usable_encoded : ∀ {plain encoded : String}, encodes plain encoded →
    encoded ≠ "" ∧ isPasswordUsable encoded = true

/-- A choice in which the hasher answers. -/
structure Hashes (hasher : PasswordHasher) (choice : AccountChoice) : Prop where
  hashed : ∀ plain, hasher.encodes plain (choice.answer (.hashPassword plain))
  verified : ∀ plain hash,
    choice.answer (.verifyPassword plain hash) = hasher.verify plain hash.value

/-- A choice in which the hasher answers and every reset token is one of the account. -/
structure Conforms (hasher : PasswordHasher) (userId : UUID) (choice : AccountChoice) : Prop
    extends Hashes hasher choice where
  token : ∀ (raw : String) (token : PasswordResetToken),
    choice.answer (.verifyResetToken raw) = some token → token.userId = userId

/-- The ways in which an account gets a new password. -/
inductive PasswordCommand : Type where
  | changePassword (currentPassword newPassword : String)
  | setupPassword (plainPassword : String)
  | resetPassword (cmd : ResetPasswordCommand)

namespace PasswordCommand

/-- The new password of the account. -/
def newPassword : PasswordCommand → String
  | .changePassword _ newPassword => newPassword
  | .setupPassword plainPassword => plainPassword
  | .resetPassword cmd => cmd.newPassword

/-- The program of a command on an account. -/
def program (userId : UUID) : PasswordCommand → AccountAction Unit
  | .changePassword currentPassword newPassword =>
    Identity.changePassword userId currentPassword newPassword
  | .setupPassword plainPassword => Identity.setupPassword userId plainPassword
  | .resetPassword cmd => Identity.resetPassword cmd

end PasswordCommand

/-- The choices in a run on the passwords of an account. -/
def conforming (hasher : PasswordHasher) (userId : UUID) :
    AccountOp → AccountState → AccountChoice → Prop :=
  fun _ _ => Conforms hasher userId

/-- What is stored of the passwords of one account: the password column and the remembered
hashes, newest first. -/
structure StoredPasswords where
  password : Option String
  remembered : List String

namespace StoredPasswords

/-- The current hash, if a password can be checked against it. -/
def current (stored : StoredPasswords) : Option String :=
  stored.password.filter fun password => password ≠ "" ∧ isPasswordUsable password

/-- The hashes that a new password is compared with. -/
def history (stored : StoredPasswords) : List String :=
  (stored.current.toList ++ stored.remembered).take passwordHistoryLimit

/-- A new hash is written and, unless it is the old one, remembered. -/
def save (stored : StoredPasswords) (encoded : String) : StoredPasswords where
  password := some encoded
  remembered :=
    if some encoded ≠ stored.password then
      (encoded :: stored.remembered).take passwordHistoryLimit
    else stored.remembered

end StoredPasswords

/-- What is stored of the passwords of an account. -/
def AccountState.storedPasswords (s : AccountState) (userId : UUID) : StoredPasswords where
  password := (s.users.lookup userId).map UserRow.password
  remembered := s.passwordHistory userId

/-- What an execution makes of the stored passwords: it raises and leaves them, or it has found no
match of the new password in the history and stores a hash of it. -/
inductive PasswordOutcome (hasher : PasswordHasher) (newPassword : String)
    (before : StoredPasswords) : Except AccountError Unit → StoredPasswords → Prop where
  | refused (error : AccountError) : PasswordOutcome hasher newPassword before (.error error) before
  | replaced {outcome : Except AccountError Unit} {encoded : String}
      (hnew : ∀ hash ∈ before.history, hasher.verify newPassword hash = false)
      (hencoded : hasher.encodes newPassword encoded) :
      PasswordOutcome hasher newPassword before outcome (before.save encoded)

/-- The hashes of a history that has been read. -/
theorem map_value_of_mapM {texts : List String} {hashes : List PasswordHash}
    (h : texts.mapM PasswordHash.of = .ok hashes) : hashes.map PasswordHash.value = texts := by
  induction texts generalizing hashes with
  | nil =>
    cases h
    rfl
  | cons text texts ih =>
    rw [List.mapM_cons] at h
    obtain ⟨hash, hhash, h⟩ := except_bind_eq_ok_iff.mp h
    obtain ⟨rest, hrest, h⟩ := except_bind_eq_ok_iff.mp h
    cases h
    rw [List.map_cons, PasswordHash.value_of hhash, ih hrest]

/-- The text of the hash that a row has. -/
theorem map_value_of_passwordHash {row : UserRow} {hash : Option PasswordHash}
    (h : row.passwordHash = .ok hash) : hash.map PasswordHash.value = row.usablePassword := by
  unfold UserRow.passwordHash at h
  split at h
  · next password hpassword =>
    obtain ⟨hash', hhash, heq⟩ := except_map_eq_ok_iff.mp h
    rw [← heq, hpassword, Option.map_some, PasswordHash.value_of hhash]
  · next hpassword =>
    cases h
    exact hpassword.symm

/-- The history that is read when a row has the hash `current`. -/
theorem map_value_history {s : AccountState} {userId : UUID} {row : UserRow}
    {current : Option PasswordHash} {former : List PasswordHash}
    (hrow : s.users.lookup userId = some row) (hcurrent : row.passwordHash = .ok current)
    (hformer : (s.passwordHistory userId).mapM PasswordHash.of = .ok former) :
    ((current.toList ++ former).take passwordHistoryLimit).map PasswordHash.value =
      (s.storedPasswords userId).history := by
  have hvalue : (current.toList).map PasswordHash.value = row.usablePassword.toList := by
    rw [← map_value_of_passwordHash hcurrent]
    cases current <;> rfl
  rw [List.map_take, List.map_append, hvalue, map_value_of_mapM hformer]
  simp only [StoredPasswords.history, StoredPasswords.current, AccountState.storedPasswords, hrow,
    Option.map_some]
  rfl

section Outcomes

variable {hasher : PasswordHasher} {userId : UUID} {s : AccountState}
  {may : AccountOp → AccountState → AccountChoice → Prop}

/-- Neither part of the history that is read fails to be read. -/
theorem passwordHistory_reads {row : UserRow}
    {current : Option PasswordHash} (hrow : s.users.lookup userId = some row)
    (hcurrent : row.passwordHash = .ok current) :
    Reads AccountState.exec may (do
        let former : List String ← query (.passwordHistory userId)
        let former ← orRaise (former.mapM PasswordHash.of)
        pure ((current.toList ++ former).take passwordHistoryLimit)) s fun history =>
      history.map PasswordHash.value = (s.storedPasswords userId).history := by
  have hquery : (query (.passwordHistory userId)).Reads AccountState.exec may s fun former =>
      former = s.passwordHistory userId := query_reads fun _ _ _ _ heq => by
    cases heq
    exact ⟨rfl, rfl⟩
  refine hquery.bind fun former hformer => orRaise_reads.bind fun hashes hhashes => ?_
  exact reads_pure (map_value_history hrow hcurrent (hformer ▸ hhashes))

theorem getPasswordHistory_reads {row : UserRow}
    (hrow : s.users.lookup userId = some row) :
    (getPasswordHistory userId).Reads AccountState.exec may s fun history =>
      history.map PasswordHash.value = (s.storedPasswords userId).history := by
  have hquery : (query (.getById userId)).Reads AccountState.exec may s fun found =>
      found = s.users.lookup userId := query_reads fun _ _ _ _ heq => by
    cases heq
    exact ⟨rfl, rfl⟩
  refine hquery.bind fun found hfound => ?_
  rw [hfound, hrow]
  exact orRaise_reads.bind fun current hcurrent => passwordHistory_reads hrow hcurrent

theorem resetPasswordHistory_reads {row : UserRow} {user : User}
    (hrow : s.users.lookup userId = some row) (huser : row.toDomain = .ok user) :
    (resetPasswordHistory user).Reads AccountState.exec may s fun history =>
      history.map PasswordHash.value = (s.storedPasswords userId).history := by
  have hid : user.id = userId :=
    (UserRow.holds_of_toDomain huser).id_eq.trans (Table.key_of_lookup hrow)
  simp only [UserRow.toDomain, except_bind_eq_ok_iff] at huser
  obtain ⟨_, _, current, hcurrent, _, _, _, _, heq⟩ := huser
  cases heq
  unfold resetPasswordHistory
  dsimp only at hid ⊢
  rw [hid]
  exact passwordHistory_reads hrow hcurrent

/-- A candidate that passes matches no hash of the history. -/
theorem ensureNotReused_reads {newPassword : String} {history : List PasswordHash} :
    (ensureNotReused newPassword history).Reads AccountState.exec (conforming hasher userId) s
      fun _ => ∀ hash ∈ history, hasher.verify newPassword hash.value = false := by
  refine reads_forM history fun hash _ => serve_reads.bind fun matching hmatching => ?_
  obtain ⟨choice, hchoice, rfl⟩ := hmatching
  rw [hchoice.verified]
  cases hverify : hasher.verify newPassword hash.value with
  | true => exact reads_throw
  | false => exact reads_pure rfl

/-- A new hash is stored or the transaction takes no effect. -/
theorem commit_yields {statements : List AccountStatement}
    {post : Except AccountError Unit → AccountState → Prop} (hkept : ∀ error, post (.error error) s)
    (hcommitted : ∀ after outcome, s.applyAll statements = .ok after → post outcome after) :
    (query (.commit statements)).Yields AccountState.exec may s post := by
  refine yields_perform fun choice _ => ?_
  have heffect : AccountState.effect choice s (.commit statements) =
      (s.applyAll statements).map fun after => ((), after) := rfl
  unfold AccountState.exec AccountState.faulty
  rw [heffect]
  cases happly : s.applyAll statements with
  | error error => exact hkept error
  | ok after =>
    cases choice.fault with
    | none => exact hcommitted after _ happly
    | some fault =>
      obtain ⟨error, applied⟩ := fault
      cases applied with
      | true => exact hcommitted after _ happly
      | false => exact hkept error

/-- What the statements of a save make of the stored passwords. -/
theorem storedPasswords_of_applyAll {user : User} {hash : PasswordHash} {row : UserRow}
    {after : AccountState} (hrow : row.id = userId) (hid : user.id = userId)
    (hhash : user.passwordHash = some hash) (hpassword : row.password = hash.value)
    (h : s.applyAll (.saveUser row :: rememberNewPassword user
      (s.storedPasswords userId).password) = .ok after) :
    after.storedPasswords userId = (s.storedPasswords userId).save hash.value := by
  rw [AccountState.applyAll, List.foldlM_cons] at h
  obtain ⟨saved, hsaved, hrest⟩ := except_bind_eq_ok_iff.mp h
  have hwritten : saved.users.lookup userId = some row ∧
      saved.passwordHistory = s.passwordHistory := by
    unfold AccountState.apply at hsaved
    dsimp only at hsaved
    split_ifs at hsaved
    cases hsaved
    exact ⟨hrow ▸ Table.lookup_upsert_self, rfl⟩
  obtain ⟨hlookup, hhistory⟩ := hwritten
  unfold rememberNewPassword at hrest
  rw [hhash] at hrest
  dsimp only at hrest
  rw [StoredPasswords.save]
  by_cases hnew : some hash.value ≠ (s.storedPasswords userId).password
  · rw [if_pos hnew] at hrest ⊢
    cases hrest
    simp only [AccountState.storedPasswords, hlookup, hid, Function.update_self, Option.map_some,
      hpassword, hhistory]
  · rw [if_neg hnew] at hrest ⊢
    cases hrest
    simp only [AccountState.storedPasswords, hlookup, Option.map_some, hpassword, hhistory]

/-- A save inside a unit of work writes the hash of the aggregate. -/
theorem savePending_reads {user : User} {hash : PasswordHash}
    (hid : user.id = userId) (hhash : user.passwordHash = some hash) :
    (savePending [] user).Reads AccountState.exec may s fun saved =>
      ∀ after, s.applyAll saved.statements = .ok after →
        after.storedPasswords userId = (s.storedPasswords userId).save hash.value := by
  have hquery : (query (.getStored [] user.id)).Reads AccountState.exec may s fun found =>
      found = s.users.lookup userId := query_reads fun _ _ _ _ heq => by
    cases heq
    exact ⟨rfl, by rw [hid]⟩
  have hcolumn : (storedPassword user).Reads AccountState.exec may s fun password =>
      password = hash.value := by
    unfold storedPassword
    rw [hhash]
    exact reads_pure rfl
  have hplan : (prepareSave [] user).Reads AccountState.exec may s fun plan =>
      plan.row.id = userId ∧ plan.row.password = hash.value ∧
        plan.remembered = rememberNewPassword user (s.storedPasswords userId).password := by
    refine hquery.bind fun found hfound => hcolumn.bind fun password hpassword => ?_
    rw [hfound]
    exact reads_pure ⟨hid, hpassword, rfl⟩
  refine hplan.bind fun plan ⟨hrow, hpassword, hremembered⟩ => orRaise_reads.bind fun saved _ => ?_
  refine reads_pure fun after hafter => ?_
  rw [List.nil_append, hremembered] at hafter
  exact storedPasswords_of_applyAll hrow hid hhash hpassword hafter

/-- The outcome of a command on the passwords of an account. -/
def Handles (hasher : PasswordHasher) (userId : UUID) (newPassword : String) (s : AccountState)
    (program : AccountAction Unit) : Prop :=
  program.Yields AccountState.exec (conforming hasher userId) s fun outcome after =>
    PasswordOutcome hasher newPassword (s.storedPasswords userId) outcome
      (after.storedPasswords userId)

variable {newPassword : String} {α : Type}

/-- A part that only reads can raise before the new password is stored. -/
theorem Handles.of_reads {action : AccountAction α} {f : α → AccountAction Unit} {P : α → Prop}
    (h : action.Reads AccountState.exec (conforming hasher userId) s P)
    (hf : ∀ value, P value → Handles hasher userId newPassword s (f value)) :
    Handles hasher userId newPassword s (action >>= f) :=
  h.bind_yields hf fun error => .refused error

/-- The last call of a command commits what it has saved. -/
theorem Handles.commit {hash : PasswordHash} {statements : List AccountStatement}
    (hnew : ∀ hash ∈ (s.storedPasswords userId).history, hasher.verify newPassword hash = false)
    (hencoded : hasher.encodes newPassword hash.value)
    (hstatements : ∀ after, s.applyAll statements = .ok after →
      after.storedPasswords userId = (s.storedPasswords userId).save hash.value) :
    Handles hasher userId newPassword s (query (.commit statements)) := by
  refine commit_yields (fun error => .refused error) fun after outcome hafter => ?_
  rw [hstatements after hafter]
  exact .replaced hnew hencoded

/-- A new password that has been hashed. -/
theorem encodes_of_hashed {encoded : String} {hash : PasswordHash}
    (h : ∃ choice, Hashes hasher choice ∧ encoded = choice.answer (.hashPassword newPassword))
    (hhash : PasswordHash.of encoded = .ok hash) : hasher.encodes newPassword hash.value := by
  obtain ⟨choice, hchoice, rfl⟩ := h
  rw [PasswordHash.value_of hhash]
  exact hchoice.hashed newPassword

theorem encodes_of_conforms {encoded : String} {hash : PasswordHash}
    (h : ∃ choice, Conforms hasher userId choice ∧
      encoded = choice.answer (.hashPassword newPassword))
    (hhash : PasswordHash.of encoded = .ok hash) : hasher.encodes newPassword hash.value := by
  obtain ⟨choice, hchoice, heq⟩ := h
  exact encodes_of_hashed ⟨choice, hchoice.toHashes, heq⟩ hhash

/-- No hash of a history that has been read matches, so none of the stored ones does. -/
theorem forall_history {history : List PasswordHash}
    (hhistory : history.map PasswordHash.value = (s.storedPasswords userId).history)
    (h : ∀ hash ∈ history, hasher.verify newPassword hash.value = false) :
    ∀ hash ∈ (s.storedPasswords userId).history, hasher.verify newPassword hash = false := by
  rw [← hhistory]
  exact List.forall_mem_map.mpr h

theorem changePasswordUnitOfWork_handles {user : User} {hash : PasswordHash}
    {history : List PasswordHash} {reason : String} (hid : user.id = userId)
    (hencoded : hasher.encodes newPassword hash.value)
    (hhistory : history.map PasswordHash.value = (s.storedPasswords userId).history) :
    Handles hasher userId newPassword s
      (changePasswordUnitOfWork user newPassword hash history reason) := by
  refine .of_reads ensureNotReused_reads fun _ hnew => ?_
  have hsaved : (savePending [] (user.changePassword hash)).Reads AccountState.exec
      (conforming hasher userId) s fun saved => ∀ after, s.applyAll saved.statements = .ok after →
        after.storedPasswords userId = (s.storedPasswords userId).save hash.value :=
    savePending_reads hid rfl
  refine .of_reads hsaved fun saved hstatements => ?_
  refine .of_reads revokeAllSessions_reads fun _ _ => .of_reads dispatchEvents_reads fun _ _ => ?_
  exact .commit (forall_history hhistory hnew) hencoded hstatements

theorem changePassword_handles {currentPassword : String} :
    Handles hasher userId newPassword s (changePassword userId currentPassword newPassword) := by
  refine .of_reads getById_reads fun found hfound => .of_reads foundOr_reads fun user huser => ?_
  obtain ⟨row, hrow, hdomain⟩ := hfound user huser
  have hid : user.id = userId :=
    (UserRow.holds_of_toDomain hdomain).id_eq.trans (Table.key_of_lookup hrow)
  refine .of_reads verifyCurrentPassword_reads fun _ _ => .of_reads orRaise_reads fun _ _ => ?_
  rw [hid]
  refine .of_reads (getPasswordHistory_reads hrow) fun history hhistory => ?_
  refine .of_reads serve_reads fun encoded hencoded => .of_reads orRaise_reads fun hash hhash => ?_
  exact changePasswordUnitOfWork_handles hid (encodes_of_conforms hencoded hhash) hhistory

theorem setupPassword_handles : Handles hasher userId newPassword s
    (setupPassword userId newPassword) := by
  refine .of_reads getById_reads fun found hfound => .of_reads foundOr_reads fun user huser => ?_
  obtain ⟨row, hrow, hdomain⟩ := hfound user huser
  have hid : user.id = userId :=
    (UserRow.holds_of_toDomain hdomain).id_eq.trans (Table.key_of_lookup hrow)
  refine .of_reads orRaise_reads fun _ _ => ?_
  rw [hid]
  refine .of_reads (getPasswordHistory_reads hrow) fun history hhistory => ?_
  refine .of_reads serve_reads fun encoded hencoded => .of_reads orRaise_reads fun hash hhash => ?_
  exact changePasswordUnitOfWork_handles hid (encodes_of_conforms hencoded hhash) hhistory

theorem resetPasswordLocked_handles {cmd : ResetPasswordCommand} {token : PasswordResetToken}
    {now : Datetime} (htoken : token.userId = userId) :
    Handles hasher userId cmd.newPassword s (resetPasswordLocked cmd token now) := by
  refine .of_reads getById_reads fun found hfound => .of_reads presentOr_reads fun user huser => ?_
  obtain ⟨row, hrow, hdomain⟩ := hfound user (Option.filter_eq_some_iff.mp huser).1
  rw [htoken] at hrow
  have hid : user.id = userId :=
    (UserRow.holds_of_toDomain hdomain).id_eq.trans (Table.key_of_lookup hrow)
  refine .of_reads orRaise_reads fun _ _ => ?_
  refine .of_reads (resetPasswordHistory_reads hrow hdomain) fun history hhistory => ?_
  refine .of_reads serve_reads fun encoded hencoded => .of_reads orRaise_reads fun hash hhash => ?_
  refine .of_reads ensureNotReused_reads fun _ hnew => ?_
  have hsaved : (savePending [] (user.changePassword hash)).Reads AccountState.exec
      (conforming hasher userId) s fun saved => ∀ after, s.applyAll saved.statements = .ok after →
        after.storedPasswords userId = (s.storedPasswords userId).save hash.value :=
    savePending_reads hid rfl
  refine .of_reads hsaved fun saved hstatements => .of_reads dispatchEvents_reads fun _ _ => ?_
  refine .of_reads revokeAllSessions_reads fun _ _ => .of_reads serve_reads fun _ _ => ?_
  refine .of_reads serve_reads fun _ _ => ?_
  exact .commit (forall_history hhistory hnew) (encodes_of_conforms hencoded hhash) hstatements

theorem ensureResetTokenUsable_reads {token : PasswordResetToken}
    {now : Datetime} :
    (ensureResetTokenUsable token now).Reads AccountState.exec may s fun _ => True := by
  unfold ensureResetTokenUsable
  cases token.ensureCanBeUsed now with
  | ok _ => exact reads_pure trivial
  | error error =>
    refine Reads.bind (P := fun _ => True) ?_ fun _ _ => reads_throw
    refine Yields.ite (fun _ => ?_) fun _ => reads_pure trivial
    exact serve_reads.mono fun _ _ => trivial

theorem resetPassword_handles {cmd : ResetPasswordCommand} :
    Handles hasher userId cmd.newPassword s (resetPassword cmd) := by
  refine .of_reads serve_reads fun now _ => .of_reads serve_reads fun verification hverified => ?_
  refine .of_reads presentOr_reads fun token htoken => ?_
  have huser : token.userId = userId := by
    obtain ⟨choice, hchoice, heq⟩ := hverified
    exact hchoice.token cmd.token token (heq.symm.trans htoken)
  refine .of_reads ensureResetTokenUsable_reads fun _ _ => ?_
  have hlocked : (query (.lockActiveUser token.userId)).Reads AccountState.exec
      (conforming hasher userId) s fun _ => True := query_reads fun _ _ _ _ heq => by
    cases heq
    exact ⟨rfl, trivial⟩
  refine .of_reads hlocked fun locked _ => Yields.ite (fun _ => ?_) fun _ => ?_
  · exact yields_throw (.refused _)
  · exact resetPasswordLocked_handles huser

/-- A command on the passwords raises and leaves them, or it replaces a password that is not in
the history. -/
theorem program_handles (command : PasswordCommand) :
    Handles hasher userId command.newPassword s (command.program userId) := by
  cases command with
  | changePassword currentPassword newPassword => exact changePassword_handles
  | setupPassword plainPassword => exact setupPassword_handles
  | resetPassword cmd => exact resetPassword_handles

end Outcomes

/-- What is stored for an account when its first password is still to come or has just been set:
`save` has remembered the password of a registration, and an account of a provider has none. -/
inductive Started (hasher : PasswordHasher) : StoredPasswords → List String → Prop where
  | registered {plain encoded : String} (hencoded : hasher.encodes plain encoded) :
      Started hasher ⟨some encoded, [encoded]⟩ [plain]
  | withoutPassword {password : Option String}
      (hpassword : ∀ column ∈ password, isPasswordUsable column = false) :
      Started hasher ⟨password, []⟩ []

/-- The hashes of the passwords that an account has had, newest first, are what is stored, as far
as the limit goes, and the newest passwords differ. -/
structure Tracks (hasher : PasswordHasher) (stored : StoredPasswords)
    (passwords hashes : List String) : Prop where
  hashed : List.Forall₂ hasher.encodes passwords hashes
  current : stored.current = hashes.head?
  remembered : stored.remembered = hashes.take passwordHistoryLimit
  nodup : (passwords.take passwordHistoryLimit).Nodup

/-- The last distinct passwords of an account, newest first. -/
def lastDistinct (passwords : List String) : List String :=
  passwords.eraseDups.take passwordHistoryLimit

theorem eraseDups_of_nodup {passwords : List String} (h : passwords.Nodup) :
    passwords.eraseDups = passwords := by
  induction passwords with
  | nil => rfl
  | cons password passwords ih =>
    obtain ⟨hnew, hrest⟩ := List.nodup_cons.mp h
    have hkept : passwords.filter (fun other => !other == password) = passwords := by
      refine List.filter_eq_self.mpr fun other hother => ?_
      simpa using ne_of_mem_of_not_mem hother hnew
    rw [List.eraseDups_cons, hkept, ih hrest]

/-- Newest passwords that differ are the last distinct ones. -/
theorem lastDistinct_eq {passwords : List String}
    (h : (passwords.take passwordHistoryLimit).Nodup) :
    lastDistinct passwords = passwords.take passwordHistoryLimit := by
  have hsplit := List.take_append_drop passwordHistoryLimit passwords
  unfold lastDistinct
  conv_lhs => rw [← hsplit, List.eraseDups_append, eraseDups_of_nodup h]
  by_cases hlength : passwords.length ≤ passwordHistoryLimit
  · rw [List.drop_of_length_le hlength, List.removeAll]
    simp
  · refine List.take_left' ?_
    rw [List.length_take]
    omega

/-- A hash is a usable password. -/
theorem current_of_encodes {hasher : PasswordHasher} {plain encoded : String}
    (remembered : List String) (h : hasher.encodes plain encoded) :
    StoredPasswords.current ⟨some encoded, remembered⟩ = some encoded :=
  Option.filter_some_pos (decide_eq_true (hasher.usable_encoded h))

namespace Tracks

variable {hasher : PasswordHasher} {stored : StoredPasswords} {passwords hashes : List String}

theorem of_started (h : Started hasher stored passwords) :
    ∃ hashes, Tracks hasher stored passwords hashes := by
  cases h with
  | registered hencoded =>
    exact ⟨_, .cons hencoded .nil, current_of_encodes _ hencoded, rfl, List.nodup_singleton _⟩
  | withoutPassword hpassword =>
    refine ⟨[], .nil, ?_, rfl, List.nodup_nil⟩
    refine Option.filter_eq_none_iff.mpr fun column hcolumn => ?_
    rw [hpassword column hcolumn]
    simp

/-- A new password is compared with the hashes of all but the oldest of the remembered
passwords, since the newest remembered hash is the current one. -/
theorem mem_history_iff (h : Tracks hasher stored passwords hashes) {hash : String} :
    hash ∈ stored.history ↔ hash ∈ hashes.take (passwordHistoryLimit - 1) := by
  have hhistory : stored.history =
      (hashes.head?.toList ++ hashes.take passwordHistoryLimit).take passwordHistoryLimit := by
    rw [StoredPasswords.history, h.current, h.remembered]
  rw [hhistory]
  cases hashes with
  | nil => rfl
  | cons newest older => simp [passwordHistoryLimit, List.take_take]

/-- Each of the newer passwords is found in the history. -/
theorem exists_match (h : Tracks hasher stored passwords hashes) {plain : String}
    (hplain : plain ∈ passwords.take (passwordHistoryLimit - 1)) :
    ∃ hash ∈ stored.history, hasher.verify plain hash = true := by
  have hnewer := List.forall₂_take (passwordHistoryLimit - 1) h.hashed
  obtain ⟨i, hi, rfl⟩ := List.mem_iff_getElem.mp hplain
  have hi' := hnewer.length_eq ▸ hi
  refine ⟨_, h.mem_history_iff.mpr (List.getElem_mem hi'), hasher.verify_encoded ?_⟩
  exact (List.forall₂_iff_get.mp hnewer).2 i hi hi'

/-- A new password that matches nothing in the history is stored. -/
theorem save (h : Tracks hasher stored passwords hashes) {newPassword encoded : String}
    (hnew : ∀ hash ∈ stored.history, hasher.verify newPassword hash = false)
    (hencoded : hasher.encodes newPassword encoded) :
    (stored.save encoded).password ≠ stored.password ∧
      Tracks hasher (stored.save encoded) (newPassword :: passwords) (encoded :: hashes) := by
  have hdiffers : some encoded ≠ stored.password := by
    intro heq
    have hcurrent : stored.current = some encoded := by
      rw [StoredPasswords.current, ← heq]
      exact current_of_encodes [] hencoded
    have hmem : encoded ∈ stored.history := by
      rw [StoredPasswords.history, hcurrent]
      exact List.mem_cons_self
    have hverify := hasher.verify_encoded hencoded
    rw [hnew encoded hmem] at hverify
    cases hverify
  refine ⟨hdiffers, .cons hencoded h.hashed, current_of_encodes _ hencoded, ?_, ?_⟩
  · simp only [StoredPasswords.save, if_pos hdiffers, h.remembered]
    simp [passwordHistoryLimit, List.take_take]
  · have hfresh : newPassword ∉ passwords.take (passwordHistoryLimit - 1) := by
      intro hmem
      obtain ⟨hash, hhash, hverify⟩ := h.exists_match hmem
      rw [hnew hash hhash] at hverify
      cases hverify
    have hnodup : (passwords.take (passwordHistoryLimit - 1)).Nodup :=
      h.nodup.sublist (List.take_sublist_take_left (by decide))
    exact List.nodup_cons.mpr ⟨hfresh, hnodup⟩

end Tracks

/-- One execution of a command on the passwords of an account. -/
structure PasswordAttempt where
  command : PasswordCommand
  choices : ℕ → AccountChoice

/-- A state and the passwords that an account has had so far, newest first. -/
structure PasswordTrail where
  state : AccountState
  passwords : List String

/-- What an execution that runs to its end leaves. -/
def PasswordAttempt.finished (attempt : PasswordAttempt) (userId : UUID) (s : AccountState) :
    Finished AccountState (Except AccountError Unit) :=
  (attempt.command.program userId).runOn AccountState.exec attempt.choices 0 s

namespace PasswordTrail

/-- The trail after an execution. The account has a new password when its column has changed. -/
def next (userId : UUID) (trail : PasswordTrail) (attempt : PasswordAttempt) : PasswordTrail :=
  let after := (attempt.finished userId trail.state).state
  { state := after
    passwords :=
      if (after.storedPasswords userId).password = (trail.state.storedPasswords userId).password
      then trail.passwords
      else attempt.command.newPassword :: trail.passwords }

/-- The execution raises and leaves the passwords of the account. -/
def Refuses (userId : UUID) (trail : PasswordTrail) (attempt : PasswordAttempt) : Prop :=
  let finished := attempt.finished userId trail.state
  (∃ error, finished.value = .error error) ∧
    finished.state.storedPasswords userId = trail.state.storedPasswords userId

end PasswordTrail

section Trails

variable {hasher : PasswordHasher} {userId : UUID} {attempt : PasswordAttempt}

/-- What an attempt makes of the stored passwords. -/
theorem outcome_of_attempt (s : AccountState)
    (hattempt : ∀ k, Conforms hasher userId (attempt.choices k)) :
    PasswordOutcome hasher attempt.command.newPassword (s.storedPasswords userId)
      (attempt.finished userId s).value
      ((attempt.finished userId s).state.storedPasswords userId) :=
  Yields.runOn (program_handles attempt.command)
    (Program.along_of_forall (fun _ _ => hattempt) _ 0 s)

/-- The stored hashes are those of the passwords that the account has had. -/
def PasswordTrail.Tracked (hasher : PasswordHasher) (userId : UUID) (trail : PasswordTrail) :
    Prop :=
  ∃ hashes, Tracks hasher (trail.state.storedPasswords userId) trail.passwords hashes

theorem PasswordTrail.Tracked.next {trail : PasswordTrail} (h : trail.Tracked hasher userId)
    (hattempt : ∀ k, Conforms hasher userId (attempt.choices k)) :
    (trail.next userId attempt).Tracked hasher userId := by
  obtain ⟨hashes, htracks⟩ := h
  have houtcome := outcome_of_attempt trail.state hattempt
  unfold PasswordTrail.next PasswordTrail.Tracked
  dsimp only
  generalize (attempt.finished userId trail.state).value = value at houtcome
  generalize (attempt.finished userId trail.state).state.storedPasswords userId = after
    at houtcome ⊢
  cases houtcome with
  | refused error =>
    rw [if_pos rfl]
    exact ⟨hashes, htracks⟩
  | @replaced _ encoded hnew hencoded =>
    obtain ⟨hdiffers, hsaved⟩ := htracks.save hnew hencoded
    rw [if_neg hdiffers]
    exact ⟨encoded :: hashes, hsaved⟩

theorem PasswordTrail.Tracked.foldl {trail : PasswordTrail} {attempts : List PasswordAttempt}
    (h : trail.Tracked hasher userId)
    (hattempts : ∀ attempt ∈ attempts, ∀ k, Conforms hasher userId (attempt.choices k)) :
    (attempts.foldl (PasswordTrail.next userId) trail).Tracked hasher userId := by
  induction attempts generalizing trail with
  | nil => exact h
  | cons attempt attempts ih =>
    obtain ⟨hattempt, hrest⟩ := List.forall_mem_cons.mp hattempts
    exact ih (h.next hattempt) hrest

end Trails

/-- After every sequence of changes, setups and resets of the passwords of an account, a new
password that is one of the last distinct passwords but not the oldest of them is refused. -/
theorem recent_password_refused {hasher : PasswordHasher} {userId : UUID} {start : PasswordTrail}
    (hstart : Started hasher (start.state.storedPasswords userId) start.passwords)
    {attempts : List PasswordAttempt}
    (hattempts : ∀ attempt ∈ attempts, ∀ k, Conforms hasher userId (attempt.choices k))
    {attempt : PasswordAttempt} (hattempt : ∀ k, Conforms hasher userId (attempt.choices k)) :
    let trail := attempts.foldl (PasswordTrail.next userId) start
    attempt.command.newPassword ∈ lastDistinct trail.passwords →
      (lastDistinct trail.passwords)[passwordHistoryLimit - 1]? ≠ some attempt.command.newPassword →
        trail.Refuses userId attempt := by
  intro trail hrecent holdest
  have htracked : trail.Tracked hasher userId :=
    PasswordTrail.Tracked.foldl (Tracks.of_started hstart) hattempts
  obtain ⟨hashes, htracks⟩ := htracked
  rw [lastDistinct_eq htracks.nodup] at hrecent holdest
  have hnewer : attempt.command.newPassword ∈ trail.passwords.take (passwordHistoryLimit - 1) := by
    have hsplit : trail.passwords.take passwordHistoryLimit =
        trail.passwords.take (passwordHistoryLimit - 1) ++
          trail.passwords[passwordHistoryLimit - 1]?.toList := List.take_add_one
    rw [List.getElem?_take_of_lt (by decide)] at holdest
    rw [hsplit, List.mem_append, Option.mem_toList] at hrecent
    exact hrecent.resolve_right holdest
  obtain ⟨hash, hhash, hverify⟩ := htracks.exists_match hnewer
  have houtcome := outcome_of_attempt trail.state hattempt
  unfold PasswordTrail.Refuses
  dsimp only
  generalize (attempt.finished userId trail.state).value = value at houtcome ⊢
  generalize (attempt.finished userId trail.state).state.storedPasswords userId = after
    at houtcome ⊢
  cases houtcome with
  | refused error => exact ⟨⟨error, rfl⟩, rfl⟩
  | replaced hnew _ =>
    rw [hnew hash hhash] at hverify
    cases hverify

/-- The hasher of the sample choices, which writes the password down. -/
def plainHasher : PasswordHasher where
  encodes plain encoded := encoded = "pbkdf2_sha256$" ++ plain
  verify plain encoded := decide (encoded = "pbkdf2_sha256$" ++ plain)
  verify_encoded := decide_eq_true
  usable_encoded := by
    rintro plain _ rfl
    have hcharacters : ("pbkdf2_sha256$" ++ plain).toList =
        "pbkdf2_sha256$".toList ++ plain.toList := String.toList_append
    constructor
    · intro hempty
      rw [hempty] at hcharacters
      cases hcharacters
    · rw [isPasswordUsable, hcharacters]
      rfl

theorem conforms_calmChoice : Conforms plainHasher 1 calmChoice where
  hashed _ := rfl
  verified _ _ := rfl
  token _ _ h := by cases h

/-- The passwords of the planner. -/
def plannerPassword (n : ℕ) : String := "Passw0rd!" ++ toString n

/-- A change of the planner's password. -/
def changeTo (current new : ℕ) : PasswordAttempt where
  command := .changePassword (plannerPassword current) (plannerPassword new)
  choices _ := calmChoice

/-- The planner with a first password. -/
def plannerTrail : PasswordTrail where
  state :=
    { sampleAccounts with
      users := sampleAccounts.users.upsert
        { sampleRow with password := "pbkdf2_sha256$" ++ plannerPassword 0 }
      passwordHistory := fun _ => ["pbkdf2_sha256$" ++ plannerPassword 0] }
  passwords := [plannerPassword 0]

/-- Four changes of the planner's password. -/
def fourChanges : List PasswordAttempt :=
  [changeTo 0 1, changeTo 1 2, changeTo 2 3, changeTo 3 4]

theorem started_plannerTrail :
    Started plainHasher (plannerTrail.state.storedPasswords 1) plannerTrail.passwords :=
  .registered rfl

theorem conforms_fourChanges :
    ∀ attempt ∈ fourChanges, ∀ k, Conforms plainHasher 1 (attempt.choices k) := by
  simp only [fourChanges, List.forall_mem_cons]
  exact ⟨fun _ => conforms_calmChoice, fun _ => conforms_calmChoice, fun _ => conforms_calmChoice,
    fun _ => conforms_calmChoice, fun _ hmem => by cases hmem⟩

/-- After four changes the third password is refused. -/
theorem recent_password_refused_sample :
    (fourChanges.foldl (PasswordTrail.next 1) plannerTrail).Refuses 1 (changeTo 4 2) :=
  recent_password_refused started_plannerTrail conforms_fourChanges
    (fun _ => conforms_calmChoice) (by decide +kernel) (by decide +kernel)

/-- After four changes the first password is one of the last five, and it is accepted. -/
theorem first_password_accepted :
    Started plainHasher (plannerTrail.state.storedPasswords 1) plannerTrail.passwords ∧
      (∀ attempt ∈ fourChanges, ∀ k, Conforms plainHasher 1 (attempt.choices k)) ∧
      (∀ k, Conforms plainHasher 1 ((changeTo 4 0).choices k)) ∧
      plannerPassword 0 ∈
        lastDistinct (fourChanges.foldl (PasswordTrail.next 1) plannerTrail).passwords ∧
      ¬ (fourChanges.foldl (PasswordTrail.next 1) plannerTrail).Refuses 1 (changeTo 4 0) := by
  refine ⟨started_plannerTrail, conforms_fourChanges, fun _ => conforms_calmChoice,
    by decide +kernel, ?_⟩
  rintro ⟨⟨error, hraised⟩, _⟩
  have haccepted : ((changeTo 4 0).finished 1
      (fourChanges.foldl (PasswordTrail.next 1) plannerTrail).state).value = .ok () := by
    decide +kernel
  cases haccepted.symm.trans hraised

end Linkapro.Identity
