import Linkapro.Identity.IdentityCommands

/-!
# Identity: the contract of an account handler

An execution holds the row that it has loaded first, or the row that it has saved
last. It saves what its mutators make of the held row, or a row under a new id, and
it mints tokens for the held row only. What other executions have stored in the
meantime does not enter a saved row.
-/

namespace Linkapro.Identity

open Lib Lib.Action

/-- The row that a call has read. -/
def readRow : AccountCall → Option UserRow
  | ⟨.getById _, .ok row⟩ => row
  | ⟨.getByEmail _, .ok row⟩ => row
  | _ => none

/-- The statements write no user row. -/
def WritesNoUser (statements : List AccountStatement) : Prop :=
  ∀ statement ∈ statements, statement.target = none

instance (statements : List AccountStatement) : Decidable (WritesNoUser statements) := by
  unfold WritesNoUser
  infer_instance

/-- The row that the statements of a transaction save last. -/
def lastSaved (statements : List AccountStatement) : Option UserRow :=
  (statements.filterMap AccountStatement.savedRow).getLast?

/-- The row that an execution holds. After a failed commit it does not know the stored row. -/
def heldRow : AccountLog → Option UserRow
  | [] => none
  | ⟨.commit statements, .ok _⟩ :: log =>
    if WritesNoUser statements then heldRow log else lastSaved statements
  | ⟨.commit statements, .error _⟩ :: log =>
    if WritesNoUser statements then heldRow log else none
  | call :: log => (heldRow log).or (readRow call)

/-- The id has been drawn for a new row, and no row has been written since that the
execution does not hold. -/
def Drawn (id : UUID) : AccountLog → Prop
  | [] => False
  | ⟨.newId, answer⟩ :: log => answer = (.ok id : Except AccountError UUID) ∨ Drawn id log
  | ⟨.commit statements, .ok _⟩ :: log =>
    (WritesNoUser statements ∨ (lastSaved statements).isSome) ∧ Drawn id log
  | ⟨.commit statements, .error _⟩ :: log => WritesNoUser statements ∧ Drawn id log
  | _ :: log => Drawn id log

/-- A service call leaves the held row. -/
@[simp] theorem heldRow_service {log : AccountLog} {call : ServiceCall}
    {answer : Except AccountError call.Ret} :
    heldRow (⟨.service call, answer⟩ :: log) = heldRow log :=
  Option.or_none

/-- The password that a command is authorized to replace, as its log shows. -/
def PasswordAuthority (command : IdentityCommand) (log : AccountLog) (before : User) : Prop :=
  match command with
  | .account (.changePassword _ currentPassword _) =>
    ∃ hash, before.passwordHash = some hash ∧
      ⟨.service (.verifyPassword currentPassword hash), (.ok true : Except AccountError Bool)⟩ ∈ log
  | .resetPassword cmd =>
    ∃ (token : PasswordResetToken) (now : Datetime),
      ⟨.service (.verifyResetToken cmd.token),
        (.ok (some token) : Except AccountError (Option PasswordResetToken))⟩ ∈ log ∧
      ⟨.service .utcNow, (.ok now : Except AccountError Datetime)⟩ ∈ log ∧
      token.userId = before.id ∧ token.status = .active ∧ now < token.expiresAt
  | .setupPassword _ _ => True
  | _ => False

/-- An authority stays one. -/
theorem PasswordAuthority.mono {command : IdentityCommand} {log log' : AccountLog} {before : User}
    (h : PasswordAuthority command log before) (hlog : ∀ call ∈ log, call ∈ log') :
    PasswordAuthority command log' before := by
  unfold PasswordAuthority at h ⊢
  split at h
  · obtain ⟨hash, hhash, hmem⟩ := h
    exact ⟨hash, hhash, hlog _ hmem⟩
  · obtain ⟨token, now, htoken, hnow, h⟩ := h
    exact ⟨token, now, hlog _ htoken, hlog _ hnow, h⟩
  · trivial
  · exact h

/-- What a command may make of the aggregate that it has loaded. -/
structure Evolves (command : IdentityCommand) (log : AccountLog) (before after : User) : Prop where
  id_eq : after.id = before.id
  version_le : before.authTokenVersion ≤ after.authTokenVersion
  verified : before.isVerified = true → after.isVerified = true
  active : after.isActive = true → before.isActive = true ∨
    command.activatedUser = some before.id ∨
    (command.verifies = true ∧ before.isVerified = false)
  /-- What is kept by every operation that does not rotate the token version. -/
  rotated : after.authTokenVersion = before.authTokenVersion →
    after.role = before.role ∧ after.twoFactorEnabled = before.twoFactorEnabled ∧
      after.passwordHash = before.passwordHash ∧
      (before.isActive = true → after.isActive = true)
  enrolled : command.enrolls = true → after.twoFactorEnabled = true
  password : after.passwordHash = before.passwordHash ∨ PasswordAuthority command log before

/-- An aggregate that an execution may save. -/
inductive Savable (command : IdentityCommand) (log : AccountLog) (user : User) : Prop where
  | evolved (held : UserRow) (before : User) (hheld : heldRow log = some held)
      (hbefore : held.toDomain = .ok before) (hevolves : Evolves command log before user)
  | created (hcreates : command.creates = true) (hheld : heldRow log = none)
      (hid : Drawn user.id log)
      (hversion : user.authTokenVersion = 0)

/-- The transactions that an execution may commit. -/
inductive Commits (command : IdentityCommand) (log : AccountLog) :
    List AccountStatement → Prop where
  | quiet {statements : List AccountStatement} (h : WritesNoUser statements) :
      Commits command log statements
  | saves {front back : List AccountStatement} {row : UserRow} {user : User}
      (hfront : ∀ statement ∈ front, statement.target = none ∨ statement.target = some row.id)
      (hback : WritesNoUser back) (hrow : row.Holds user) (huser : Savable command log user) :
      Commits command log (front ++ .saveUser row :: back)
  | flags {userId : UUID} {isActive : Bool}
      (h : (if isActive then command.activatedUser else command.flaggedUser) = some userId) :
      Commits command log [.updateIsActive userId isActive]

/-- The tokens that an execution may mint: those of the held row. A new account has the
token version 0. -/
def Mints (log : AccountLog) (claims : TokenClaims) : Prop :=
  claims.authTokenVersion = 0 ∨ ∃ row, heldRow log = some row ∧ claims.userId = row.id ∧
    claims.authTokenVersion = row.authTokenVersion

/-- The contract of an execution. -/
def accountContract (command : IdentityCommand) : Contract (Raising AccountError AccountOp.Ret) where
  allowed log op :=
    match op with
    | .commit statements => Commits command log statements
    | .bumpAuthTokenVersion _ => heldRow log = none
    | .createAccessToken claims | .createRefreshToken claims => Mints log claims
    | _ => True
  possible
    | ⟨.getById userId, .ok (some row)⟩ => row.id = userId
    | _ => True

/-- The store answers a query by id with the row of this id. -/
theorem possible_exec (command : IdentityCommand) (choice : AccountChoice) (op : AccountOp)
    (s : AccountState) :
    (accountContract command).possible ⟨op, (AccountState.exec choice op s).1⟩ := by
  cases op with
  | getById userId =>
    simp only [AccountState.exec, AccountState.effect, AccountState.faulty]
    cases choice.fault with
    | some fault => trivial
    | none =>
      cases hrow : s.users.lookup userId with
      | none => trivial
      | some row => exact Table.key_of_lookup hrow
  | _ => trivial

/-- Calls have been added to a log, after which the execution holds the given row. -/
structure After (held : Option UserRow) (log log' : AccountLog) : Prop where
  subset : ∀ call ∈ log, call ∈ log'
  drawn : ∀ id, Drawn id log → Drawn id log'
  held_eq : heldRow log' = held

theorem After.trans {held held' : Option UserRow} {first second third : AccountLog}
    (h : After held first second) (h' : After held' second third) : After held' first third :=
  ⟨fun call hcall => h'.subset call (h.subset call hcall),
    fun id hid => h'.drawn id (h.drawn id hid), h'.held_eq⟩

/-- Later calls that leave the held row. -/
theorem After.andThen {held : Option UserRow} {first second third : AccountLog}
    (h : After held first second) (h' : After (heldRow second) second third) :
    After held first third :=
  h.trans (h.held_eq ▸ h')

/-- One call after which the execution holds the given row. -/
theorem After.cons {held : Option UserRow} {log : AccountLog} {call : AccountCall}
    (h : heldRow (call :: log) = held) (hdrawn : ∀ id, Drawn id log → Drawn id (call :: log)) :
    After held log (call :: log) :=
  ⟨fun _ => List.mem_cons_of_mem _, hdrawn, h⟩

/-- One call on a service. -/
theorem After.service {log : AccountLog} {call : ServiceCall}
    {answer : Except AccountError call.Ret} :
    After (heldRow log) log (⟨.service call, answer⟩ :: log) :=
  .cons heldRow_service fun _ => id

/-- What may be saved may be saved later, as long as the execution holds the same row. -/
theorem Savable.mono {command : IdentityCommand} {log log' : AccountLog} {user : User}
    (h : Savable command log user) (hlog : After (heldRow log) log log') :
    Savable command log' user := by
  cases h with
  | evolved held before hheld hbefore hevolves =>
    refine .evolved held before (hlog.held_eq.trans hheld) hbefore { hevolves with password := ?_ }
    exact hevolves.password.imp_right fun hpassword => hpassword.mono hlog.subset
  | created hcreates hheld hid hversion =>
    exact .created hcreates (hlog.held_eq.trans hheld) (hlog.drawn _ hid) hversion

section Evolves

variable {command : IdentityCommand} {log : AccountLog} {before after : User}

/-- An operation that keeps what the token version protects. -/
theorem Evolves.of_same (henrolls : command.enrolls = false) (hid : after.id = before.id)
    (hversion : after.authTokenVersion = before.authTokenVersion) (hrole : after.role = before.role)
    (htwoFactor : after.twoFactorEnabled = before.twoFactorEnabled)
    (hstatus : after.status = before.status) (hpassword : after.passwordHash = before.passwordHash) :
    Evolves command log before after := by
  have hactive : after.isActive = before.isActive := congrArg AccountStatus.isActive hstatus
  have hverified : after.isVerified = before.isVerified := congrArg AccountStatus.isVerified hstatus
  refine
    { id_eq := hid
      version_le := hversion ▸ Nat.le_refl _
      verified := hverified ▸ id
      active := fun h => Or.inl (hactive ▸ h)
      rotated := fun _ => ⟨hrole, htwoFactor, hpassword, hactive ▸ id⟩
      enrolled := fun h => ?_
      password := Or.inl hpassword }
  rw [henrolls] at h
  cases h

/-- An operation that rotates the token version. -/
theorem Evolves.of_rotated (henrolls : command.enrolls = false ∨ after.twoFactorEnabled = true)
    (hid : after.id = before.id) (hversion : before.authTokenVersion < after.authTokenVersion)
    (hverified : before.isVerified = true → after.isVerified = true)
    (hactive : after.isActive = true → before.isActive = true ∨
      command.activatedUser = some before.id)
    (hpassword : after.passwordHash = before.passwordHash ∨ PasswordAuthority command log before) :
    Evolves command log before after := by
  refine
    { id_eq := hid
      version_le := Nat.le_of_lt hversion
      verified := hverified
      active := fun h => (hactive h).imp_right Or.inl
      rotated := fun h => absurd h (Nat.ne_of_gt hversion)
      enrolled := fun h => ?_
      password := hpassword }
  rcases henrolls with henrolls | htwoFactor
  · rw [henrolls] at h
    cases h
  · exact htwoFactor

/-- A rotation into a status that is not active, or that the command may give. -/
theorem Evolves.moveTo {status : AccountStatus} {detail : IdentityEventDetail}
    (henrolls : command.enrolls = false)
    (hverified : before.isVerified = true → status.isVerified = true)
    (hactive : status.isActive = false ∨ command.activatedUser = some before.id) :
    Evolves command log before (before.moveTo status detail) := by
  refine .of_rotated (Or.inl henrolls) rfl (Nat.lt_succ_self _) hverified (fun h => ?_) (Or.inl rfl)
  rcases hactive with hactive | hactivates
  · exact absurd (hactive.symm.trans h) Bool.false_ne_true
  · exact Or.inr hactivates

variable {actorUserId : Option UUID} {reason : Option String}

theorem Evolves.deactivate (henrolls : command.enrolls = false)
    (h : before.deactivate actorUserId reason = .ok after) : Evolves command log before after := by
  unfold User.deactivate at h
  split at h
  · cases h
    exact .of_same henrolls rfl rfl rfl rfl rfl rfl
  · obtain ⟨_, _, h⟩ := except_bind_eq_ok_iff.mp h
    cases h
    refine .moveTo henrolls (fun hverified => ?_) (Or.inl ?_)
    · rw [if_pos hverified]
      rfl
    · split
      · rfl
      · rfl

theorem Evolves.suspend {reason : SecurityReason} (henrolls : command.enrolls = false)
    (h : before.suspend reason actorUserId = .ok after) : Evolves command log before after := by
  unfold User.suspend at h
  split at h
  · cases h
    exact .of_same henrolls rfl rfl rfl rfl rfl rfl
  · obtain ⟨_, _, h⟩ := except_bind_eq_ok_iff.mp h
    cases h
    exact .moveTo henrolls (fun _ => rfl) (Or.inl rfl)

theorem Evolves.lock (henrolls : command.enrolls = false) (h : before.lock = .ok after) :
    Evolves command log before after := by
  unfold User.lock at h
  split at h
  · cases h
    exact .of_same henrolls rfl rfl rfl rfl rfl rfl
  · obtain ⟨_, _, h⟩ := except_bind_eq_ok_iff.mp h
    cases h
    exact .moveTo henrolls (fun _ => rfl) (Or.inl rfl)

theorem Evolves.restore (henrolls : command.enrolls = false)
    (hactivates : command.activatedUser = some before.id)
    (h : before.restore actorUserId reason = .ok after) : Evolves command log before after := by
  unfold User.restore at h
  split at h
  · cases h
    exact .of_same henrolls rfl rfl rfl rfl rfl rfl
  · obtain ⟨_, _, h⟩ := except_bind_eq_ok_iff.mp h
    obtain ⟨_, _, h⟩ := except_bind_eq_ok_iff.mp h
    cases h
    exact .moveTo henrolls (fun _ => rfl) (Or.inr hactivates)

theorem Evolves.unlock (henrolls : command.enrolls = false)
    (hactivates : command.activatedUser = some before.id)
    (h : before.unlock actorUserId reason = .ok after) : Evolves command log before after := by
  unfold User.unlock at h
  split at h
  · cases h
    exact .of_same henrolls rfl rfl rfl rfl rfl rfl
  · obtain ⟨_, _, h⟩ := except_bind_eq_ok_iff.mp h
    obtain ⟨_, _, h⟩ := except_bind_eq_ok_iff.mp h
    cases h
    exact .moveTo henrolls (fun _ => rfl) (Or.inr hactivates)

/-- An activation keeps the token version. -/
theorem Evolves.activate (henrolls : command.enrolls = false)
    (hactivates : command.activatedUser = some before.id)
    (h : before.activate actorUserId reason = .ok after) :
    Evolves command log before after := by
  unfold User.activate at h
  split at h
  · cases h
    exact .of_same henrolls rfl rfl rfl rfl rfl rfl
  · obtain ⟨_, _, h⟩ := except_bind_eq_ok_iff.mp h
    obtain ⟨_, _, h⟩ := except_bind_eq_ok_iff.mp h
    cases h
    refine
      { id_eq := rfl
        version_le := Nat.le_refl _
        verified := fun _ => rfl
        active := fun _ => Or.inr (Or.inl hactivates)
        rotated := fun _ => ⟨rfl, rfl, rfl, fun _ => rfl⟩
        enrolled := fun h => ?_
        password := Or.inl rfl }
    rw [henrolls] at h
    cases h

/-- The verification of an unverified account makes it active, whatever it was before. -/
theorem Evolves.markVerified (henrolls : command.enrolls = false)
    (hverifies : command.verifies = true) : Evolves command log before before.markVerified := by
  unfold User.markVerified
  split
  · exact .of_same henrolls rfl rfl rfl rfl rfl rfl
  · next hunverified =>
    refine
      { id_eq := rfl
        version_le := Nat.le_refl _
        verified := fun _ => rfl
        active := fun _ => Or.inr (Or.inr ⟨hverifies, Bool.eq_false_iff.mpr hunverified⟩)
        rotated := fun _ => ⟨rfl, rfl, rfl, fun _ => rfl⟩
        enrolled := fun h => ?_
        password := Or.inl rfl }
    rw [henrolls] at h
    cases h

theorem Evolves.changeRole {newRole actorRole : UserRole} {actorUserId : UUID}
    {reason : Option SecurityReason} (henrolls : command.enrolls = false)
    (h : before.changeRole newRole actorUserId actorRole reason = .ok after) :
    Evolves command log before after := by
  unfold User.changeRole at h
  split at h
  · cases h
    exact .of_same henrolls rfl rfl rfl rfl rfl rfl
  · obtain ⟨_, _, h⟩ := except_bind_eq_ok_iff.mp h
    cases h
    exact .of_rotated (Or.inl henrolls) rfl (Nat.lt_succ_self _) id Or.inl (Or.inl rfl)

theorem Evolves.updateProfile {firstName lastName : Option String}
    (henrolls : command.enrolls = false) (h : before.updateProfile firstName lastName = .ok after) :
    Evolves command log before after := by
  obtain ⟨_, _, h⟩ := except_bind_eq_ok_iff.mp h
  cases h
  exact .of_same henrolls rfl rfl rfl rfl rfl rfl

theorem Evolves.changePassword {newPasswordHash : PasswordHash} (henrolls : command.enrolls = false)
    (h : PasswordAuthority command log before) :
    Evolves command log before (before.changePassword newPasswordHash) :=
  .of_rotated (Or.inl henrolls) rfl (Nat.lt_succ_self _) id Or.inl (Or.inr h)

theorem Evolves.enableTwoFactor : Evolves command log before before.enableTwoFactor := by
  unfold User.enableTwoFactor
  split
  · next henabled =>
    exact
      { id_eq := rfl
        version_le := Nat.le_refl _
        verified := id
        active := Or.inl
        rotated := fun _ => ⟨rfl, rfl, rfl, id⟩
        enrolled := fun _ => henabled
        password := Or.inl rfl }
  · exact .of_rotated (Or.inr rfl) rfl (Nat.lt_succ_self _) id Or.inl (Or.inl rfl)

theorem Evolves.disableTwoFactor (henrolls : command.enrolls = false) :
    Evolves command log before before.disableTwoFactor := by
  unfold User.disableTwoFactor
  split
  · exact .of_rotated (Or.inl henrolls) rfl (Nat.lt_succ_self _) id Or.inl (Or.inl rfl)
  · exact .of_same henrolls rfl rfl rfl rfl rfl rfl

end Evolves

/-- A part of an execution that commits no user row and reads none that it would hold. -/
structure Quiet {α : Type} (command : IdentityCommand) (held : Option UserRow)
    (action : AccountAction α) : Prop where
  follows : ∀ log, heldRow log = held →
    action.Follows (accountContract command) log fun log' _ => After held log log'

/-- An execution that may go on as it likes after a log. -/
def Safe {α : Type} (command : IdentityCommand) (log : AccountLog) (action : AccountAction α) :
    Prop :=
  action.Follows (accountContract command) log fun _ _ => True

section Rules

variable {command : IdentityCommand} {held : Option UserRow} {log : AccountLog} {α β : Type}

theorem After.refl (h : heldRow log = held) : After held log log := ⟨fun _ => id, fun _ => id, h⟩

theorem Quiet.pure (value : α) : Quiet command held (pure value : AccountAction α) :=
  ⟨fun _ => .refl⟩

theorem Quiet.throw (error : AccountError) : Quiet command held (throw error : AccountAction α) :=
  ⟨fun _ => .refl⟩

theorem Quiet.bind {action : AccountAction α} {f : α → AccountAction β}
    (h : Quiet command held action) (hf : ∀ value, Quiet command held (f value)) :
    Quiet command held (action >>= f) := by
  constructor
  intro log hlog
  refine Follows.bind (h.follows log hlog) (fun log' value hlog' => ?_) fun _ _ hlog' => hlog'
  exact ((hf value).follows log' hlog'.held_eq).mono fun _ _ => hlog'.trans

theorem Quiet.ite {c : Prop} [Decidable c] {first second : AccountAction α}
    (hfirst : Quiet command held first) (hsecond : Quiet command held second) :
    Quiet command held (if c then first else second) := by
  split
  · exact hfirst
  · exact hsecond

theorem Quiet.forM {items : List β} {f : β → AccountAction PUnit}
    (h : ∀ item ∈ items, Quiet command held (f item)) : Quiet command held (items.forM f) := by
  induction items with
  | nil => exact Quiet.pure _
  | cons item items ih =>
    have hitem := h item List.mem_cons_self
    have hitems := ih fun item hmem => h item (List.mem_cons_of_mem _ hmem)
    exact Quiet.bind hitem fun _ => hitems

theorem Quiet.orRaise (outcome : Except AccountError α) : Quiet command held (orRaise outcome) := by
  cases outcome with
  | ok value => exact Quiet.pure value
  | error error => exact Quiet.throw error

theorem Quiet.presentOr (error : AccountError) (value : Option α) :
    Quiet command held (presentOr error value) := by
  cases value with
  | none => exact Quiet.throw error
  | some value => exact Quiet.pure value

/-- A single call that leaves the held row. -/
theorem Quiet.query {op : AccountOp} (hallowed : ∀ log, heldRow log = held →
    (accountContract command).allowed log op)
    (hheld : ∀ log answer, heldRow log = held → heldRow (⟨op, answer⟩ :: log) = held)
    (hdrawn : ∀ log answer id, Drawn id log → Drawn id (⟨op, answer⟩ :: log)) :
    Quiet command held (query op) :=
  ⟨fun log hlog => ⟨hallowed log hlog, fun answer _ => .cons (hheld log answer hlog)
    (hdrawn log answer)⟩⟩

theorem Quiet.serve (call : ServiceCall) : Quiet command held (serve call) :=
  Quiet.query (fun _ _ => trivial) (fun _ _ hlog => heldRow_service.trans hlog) fun _ _ _ => id

theorem Quiet.getStored (pending : List AccountStatement) (userId : UUID) :
    Quiet command held (Identity.query (.getStored pending userId)) :=
  Quiet.query (fun _ _ => trivial) (fun _ _ hlog => Option.or_none.trans hlog) fun _ _ _ => id

theorem Quiet.passwordHistory (userId : UUID) :
    Quiet command held (Identity.query (.passwordHistory userId)) :=
  Quiet.query (fun _ _ => trivial) (fun _ _ hlog => Option.or_none.trans hlog) fun _ _ _ => id

theorem Quiet.newId : Quiet command held (Identity.query .newId) :=
  Quiet.query (fun _ _ => trivial) (fun _ _ hlog => Option.or_none.trans hlog) fun _ _ _ => Or.inr

/-- A second read does not replace the row that is held. -/
theorem Quiet.getById {row : UserRow} (userId : UUID) :
    Quiet command (some row) (Identity.query (.getById userId)) := by
  refine Quiet.query (fun _ _ => trivial) (fun log answer hlog => ?_) fun _ _ _ => id
  have hor : heldRow (⟨.getById userId, answer⟩ :: log) =
      (heldRow log).or (readRow ⟨.getById userId, answer⟩) := rfl
  rw [hor, hlog, Option.some_or]

/-- A transaction that writes no user row. -/
theorem Quiet.commit {statements : List AccountStatement} (h : WritesNoUser statements) :
    Quiet command held (Identity.query (.commit statements)) := by
  refine Quiet.query (fun _ _ => Commits.quiet h) (fun log answer hlog => ?_)
    fun log answer id hid => ?_
  · cases answer with
    | ok _ => exact (if_pos h).trans hlog
    | error _ => exact (if_pos h).trans hlog
  · cases answer with
    | ok _ => exact ⟨Or.inl h, hid⟩
    | error _ => exact ⟨h, hid⟩

/-- A quiet action is safe. -/
theorem Quiet.safe {action : AccountAction α} (h : Quiet command (heldRow log) action) :
    Safe command log action :=
  (h.follows log rfl).mono fun _ _ _ => trivial

/-- A quiet part before the rest of an execution. -/
theorem Quiet.bind_safe {action : AccountAction α} {f : α → AccountAction β}
    (h : Quiet command held action) (hlog : heldRow log = held)
    (hf : ∀ log' value, After held log log' → Safe command log' (f value)) :
    Safe command log (action >>= f) :=
  Follows.bind (h.follows log hlog) hf fun _ _ _ => trivial

/-- Continue with a computed value. -/
theorem orRaise_bind_safe {outcome : Except AccountError α} {f : α → AccountAction β}
    (hf : ∀ value, outcome = .ok value → Safe command log (f value)) :
    Safe command log (orRaise outcome >>= f) := by
  cases outcome with
  | ok value => exact hf value rfl
  | error error => trivial

/-- Continue with a value that has to be present. -/
theorem presentOr_bind_safe {error : AccountError} {found : Option α} {f : α → AccountAction β}
    (hf : ∀ value, found = some value → Safe command log (f value)) :
    Safe command log (presentOr error found >>= f) := by
  cases found with
  | some value => exact hf value rfl
  | none => trivial

/-- Continue with the answer of a service, which the log shows. -/
theorem serve_bind_safe {call : ServiceCall} {f : call.Ret → AccountAction β}
    (hf : ∀ log' (answer : call.Ret), After (heldRow log) log log' →
      ⟨.service call, .ok answer⟩ ∈ log' → Safe command log' (f answer)) :
    Safe command log (serve call >>= f) :=
  Follows.perform_bind trivial
    (fun answer _ => hf _ answer .service List.mem_cons_self) fun _ => trivial

end Rules

end Linkapro.Identity
