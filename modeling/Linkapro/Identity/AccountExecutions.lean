import Linkapro.Identity.AccountParts

/-!
# Identity: every execution follows its contract

The handlers one by one, assembled from the lemmas about their parts, and at the end
every command of the component.
-/

namespace Linkapro.Identity

open Lib Lib.Action

section Handlers

variable {command : IdentityCommand} {log : AccountLog} {row : UserRow} {user : User} {α : Type}

/-- A loaded aggregate and its row are the same account at the same token version. -/
theorem mintable (hdomain : row.toDomain = .ok user) : user.authTokenVersion = 0 ∨
    ∃ held, some row = some held ∧ user.id = held.id ∧
      user.authTokenVersion = held.authTokenVersion := by
  have hrow := UserRow.holds_of_toDomain hdomain
  exact Or.inr ⟨row, rfl, hrow.id_eq, hrow.version_eq⟩

theorem quiet_recordInvalidCredentials {held : Option UserRow} (accountKey : String)
    (user : Option User) (status : AuthenticationStatus) :
    Quiet command held (recordInvalidCredentials accountKey user status) :=
  Quiet.bind (Quiet.serve _) fun _ => Quiet.pure _

theorem quiet_evaluatePasswordLogin (hdomain : row.toDomain = .ok user) (plainPassword : String) :
    Quiet command (some row) (evaluatePasswordLogin user plainPassword) := by
  refine Quiet.ite ?_ (Quiet.pure _)
  split
  · exact Quiet.pure _
  · refine Quiet.bind (Quiet.serve _) fun _ => ?_
    exact Quiet.ite (quiet_finalizeLogin (mintable hdomain)) (Quiet.pure _)

theorem finishLogin_safe (henrolls : command.enrolls = false) (hlog : heldRow log = some row)
    (hdomain : row.toDomain = .ok user) (accountKey : String) (decision : AuthenticationDecision) :
    Safe command log (finishLogin accountKey user decision) := by
  unfold finishLogin
  split
  · exact (quiet_recordInvalidCredentials _ _ _).safe
  · exact (Quiet.bind (Quiet.serve _) fun _ => Quiet.pure _).safe
  · refine Quiet.bind_safe (Quiet.serve _) hlog fun log' _ hlog' => ?_
    refine Quiet.bind_safe (Quiet.serve _) hlog'.held_eq fun log'' now hlog'' => ?_
    have hsavable : Savable command log'' (user.recordLogin now) :=
      .evolved row user hlog''.held_eq hdomain (.of_same henrolls rfl rfl rfl rfl rfl rfl)
    exact saveAndDispatch_bind_safe hsavable fun _ _ => trivial
  · trivial

theorem loginWithPassword_safe (henrolls : command.enrolls = false) (hlog : heldRow log = none)
    (email : Email) (plainPassword : String) :
    Safe command log (loginWithPassword email plainPassword) := by
  refine Quiet.bind_safe (Quiet.serve _) hlog fun log' locked hlog' => ?_
  refine Follows.ite (fun _ => trivial) fun _ => ?_
  refine load_bind_safe (getByEmail_follows hlog'.held_eq) fun log'' found hfound => ?_
  cases found with
  | none =>
    refine Quiet.safe (Quiet.bind (Quiet.serve _) fun _ => ?_)
    exact quiet_recordInvalidCredentials _ _ _
  | some user =>
    obtain ⟨row, hlog'', hdomain, _⟩ := hfound
    refine Quiet.bind_safe (quiet_evaluatePasswordLogin hdomain plainPassword) hlog''.held_eq
      fun log₃ decision hlog₃ => ?_
    exact finishLogin_safe henrolls hlog₃.held_eq hdomain _ decision

theorem updateAccountProfile_safe (henrolls : command.enrolls = false)
    (hlog : heldRow log = none) (userId : UUID) (firstName lastName : Option String) :
    Safe command log (updateAccountProfile userId firstName lastName) := by
  refine loadOr_safe hlog fun log' row user hlog' hdomain => ?_
  refine orRaise_bind_safe fun user' huser' => ?_
  have hsavable : Savable command log' user' :=
    .evolved row user hlog'.held_eq hdomain (.updateProfile henrolls huser')
  exact (save_follows hsavable).mono fun _ _ _ => trivial

theorem quiet_rowToDomain {held found : Option UserRow} : Quiet command held (rowToDomain found) := by
  cases found with
  | none => exact Quiet.pure _
  | some found => exact Quiet.bind (Quiet.orRaise found.toDomain) fun _ => Quiet.pure _

theorem quiet_loadActor (actorId : Option UUID) : Quiet command (some row) (loadActor actorId) := by
  cases actorId with
  | none => exact Quiet.throw _
  | some actorId =>
    refine Quiet.bind (Quiet.bind (Quiet.getById actorId) fun _ => quiet_rowToDomain) fun found => ?_
    cases found with
    | none => exact Quiet.throw _
    | some actor => exact Quiet.pure _

/-- An administration: the target is loaded first and saved as its mutator has left it. -/
theorem administer_bind_safe {actorId : Option UUID} {targetUserId : UUID}
    {change : AccountAdministrationContext → Except AccountError User} {f : User → AccountAction α}
    (hlog : heldRow log = none)
    (hchange : ∀ log context target, context.target.id = targetUserId →
      change context = .ok target → Evolves command log context.target target)
    (hf : ∀ target, ∀ log' row, heldRow log' = some row → Safe command log' (f target)) :
    Safe command log (administer actorId targetUserId change >>= f) := by
  have hadminister : (administer actorId targetUserId change).Follows (accountContract command) log
      fun log' outcome => ∀ target, outcome = .ok target → ∃ row, heldRow log' = some row := by
    have hcontext : (loadAuthorizedContext actorId targetUserId).Follows (accountContract command)
        log fun log' outcome => ∀ context, outcome = .ok context →
          ∃ row, heldRow log' = some row ∧ row.toDomain = .ok context.target ∧
            row.id = targetUserId := by
      refine Follows.bind (getById_follows hlog) (fun log' found hfound => ?_)
        fun _ _ _ _ h => by cases h
      cases found with
      | none => exact fun _ h => by cases h
      | some target =>
        obtain ⟨row, hlog', hdomain, hid⟩ := hfound _ rfl
        refine foundOr_bind_follows ?_
        refine Follows.bind ((quiet_loadActor actorId).follows log' hlog'.held_eq)
          (fun log'' actor hlog'' => ?_) fun _ _ _ _ h => by cases h
        refine Follows.bind ((Quiet.orRaise _).follows log'' hlog''.held_eq)
          (fun log₃ _ hlog₃ => ?_) fun _ _ _ _ h => by cases h
        rintro context ⟨⟩
        exact ⟨row, hlog₃.held_eq, hdomain, hid⟩
    refine Follows.bind hcontext (fun log' context h => ?_) fun _ _ _ _ h => by cases h
    obtain ⟨row, hlog', hdomain, hid⟩ := h context rfl
    have hcontext := (UserRow.holds_of_toDomain hdomain).id_eq.trans hid
    cases htarget : change context with
    | error error => exact fun _ h => by cases h
    | ok target =>
      have hsavable : Savable command log' target :=
        .evolved row context.target hlog' hdomain (hchange _ _ _ hcontext htarget)
      refine orRaise_bind_follows ?_
      refine Follows.bind (saveAndDispatch_follows hsavable) (fun log'' _ h => ?_)
        fun _ _ _ _ h => by cases h
      obtain ⟨saved, hlog'', _⟩ := h rfl
      exact fun _ _ => ⟨saved, hlog''.held_eq⟩
  refine Follows.bind hadminister (fun log' target h => ?_) fun _ _ _ => trivial
  obtain ⟨row, hrow⟩ := h target rfl
  exact hf target log' row hrow

theorem changePasswordUnitOfWork_safe (henrolls : command.enrolls = false)
    (hlog : heldRow log = some row) (hdomain : row.toDomain = .ok user)
    (hauthority : PasswordAuthority command log user) (newPassword : String)
    (newPasswordHash : PasswordHash) (history : List PasswordHash) (reason : String) :
    Safe command log
      (changePasswordUnitOfWork user newPassword newPasswordHash history reason) := by
  have hsavable : Savable command log (user.changePassword newPasswordHash) :=
    .evolved row user hlog hdomain (.changePassword henrolls hauthority)
  refine Quiet.bind_safe (quiet_ensureNotReused _ _) rfl fun log' _ hlog' => ?_
  refine savePending_bind_safe fun log'' saved hlog'' hsaved => ?_
  refine Quiet.bind_safe (quiet_revokeAllSessions _ _) rfl fun log₃ _ hlog₃ => ?_
  refine Quiet.bind_safe (quiet_dispatchEvents _) rfl fun log₄ _ hlog₄ => ?_
  have hfinal := ((hsavable.mono hlog').mono hlog'').mono hlog₃
  exact commit_safe (hfinal.mono hlog₄) hsaved fun _ hmem => by cases hmem

theorem changePassword_safe (hlog : heldRow log = none) (userId : UUID)
    (currentPassword newPassword : String) :
    Safe (.account (.changePassword userId currentPassword newPassword)) log
      (changePassword userId currentPassword newPassword) := by
  refine loadOr_safe hlog fun log' row user hlog' hdomain => ?_
  refine Follows.bind verifyCurrentPassword_follows (fun log'' _ h => ?_) fun _ _ _ => trivial
  obtain ⟨hlog'', hash, hhash, hmem⟩ := h rfl
  have hheld : heldRow log'' = some row := hlog''.held_eq.trans hlog'.held_eq
  refine orRaise_bind_safe fun _ _ => ?_
  refine Quiet.bind_safe (quiet_getPasswordHistory user.id) hheld fun log₃ history hlog₃ => ?_
  refine Quiet.bind_safe (Quiet.serve _) hlog₃.held_eq fun log₄ encoded hlog₄ => ?_
  refine orRaise_bind_safe fun newPasswordHash _ => ?_
  have hauthority : PasswordAuthority (.account (.changePassword userId currentPassword newPassword))
      log₄ user := ⟨hash, hhash, hlog₄.subset _ (hlog₃.subset _ hmem)⟩
  exact changePasswordUnitOfWork_safe rfl hlog₄.held_eq hdomain hauthority _ _ _ _

theorem setupPassword_safe (hlog : heldRow log = none) (userId : UUID) (plainPassword : String) :
    Safe (.setupPassword userId plainPassword) log (setupPassword userId plainPassword) := by
  refine loadOr_safe hlog fun log' row user hlog' hdomain => ?_
  refine orRaise_bind_safe fun _ _ => ?_
  refine Quiet.bind_safe (quiet_getPasswordHistory user.id) hlog'.held_eq
    fun log'' history hlog'' => ?_
  refine Quiet.bind_safe (Quiet.serve _) hlog''.held_eq fun log₃ encoded hlog₃ => ?_
  refine orRaise_bind_safe fun passwordHash _ => ?_
  have hauthority : PasswordAuthority (.setupPassword userId plainPassword) log₃ user := trivial
  exact changePasswordUnitOfWork_safe rfl hlog₃.held_eq hdomain hauthority _ _ _ _

theorem revokeUserSessions_safe (hlog : heldRow log = none) (userId : UUID)
    (bumpAuthTokenVersion : Bool) :
    Safe command log (revokeUserSessions userId bumpAuthTokenVersion) := by
  have hread (log : AccountLog) : Safe command log (do
      let _ ← query (.getById userId)
      serve (.cacheSessionRevocation userId)) :=
    Follows.perform_bind trivial (fun _ _ => (Quiet.serve _).safe) fun _ => trivial
  refine Follows.ite (fun _ => ?_) fun _ => hread log
  refine Follows.perform_bind hlog (fun (updated : ℕ) _ => ?_) fun _ => trivial
  exact Follows.ite (fun _ => (Quiet.serve _).safe) fun _ => hread _

/-- A registered account has the given id and the token version 0. -/
theorem registerNew_ok {id : UUID} {email : Email} {passwordHash : Option PasswordHash}
    {firstName lastName : String} {role : UserRole} {isVerified : Bool}
    (h : User.registerNew id email passwordHash firstName lastName role isVerified = .ok user) :
    user.id = id ∧ user.authTokenVersion = 0 := by
  unfold User.registerNew at h
  split at h
  · cases h
  · obtain ⟨_, _, h⟩ := except_bind_eq_ok_iff.mp h
    cases h
    exact ⟨rfl, rfl⟩

theorem registerAccount_safe (hcreates : command.creates = true) (hlog : heldRow log = none) (email : Email)
    (plainPassword firstName lastName : String) (role : UserRole) :
    Safe command log (registerAccount email plainPassword firstName lastName role) := by
  refine load_bind_safe (getByEmail_follows hlog) fun log' found hfound => ?_
  cases found with
  | some user => trivial
  | none =>
    have hfound : After none log log' := hfound
    refine Quiet.bind_safe (Quiet.serve _) hfound.held_eq fun log'' encoded hlog'' => ?_
    refine Follows.perform_bind trivial (fun (id : UUID) _ => ?_) fun _ => trivial
    refine orRaise_bind_safe fun passwordHash _ => ?_
    refine orRaise_bind_safe fun user huser => ?_
    have huser' := registerNew_ok huser
    have hsavable : Savable command (⟨.newId, .ok id⟩ :: log'') user :=
      .created hcreates (Option.or_none.trans hlog''.held_eq) (huser'.1 ▸ Or.inl rfl)
        huser'.2
    refine savePending_bind_safe fun log₃ saved hlog₃ hsaved => ?_
    refine Quiet.bind_safe (quiet_dispatchEvents _) rfl fun log₄ _ hlog₄ => ?_
    exact commit_safe ((hsavable.mono hlog₃).mono hlog₄) hsaved fun _ hmem => by cases hmem

theorem verifyEmail_safe (henrolls : command.enrolls = false) (hverifies : command.verifies = true)
    (hlog : heldRow log = none) (verificationToken : String) :
    Safe command log (verifyEmail verificationToken) := by
  refine Quiet.bind_safe (Quiet.serve _) hlog fun log₁ challengeId hlog₁ => ?_
  refine presentOr_bind_safe fun challengeId _ => ?_
  refine Quiet.bind_safe (Quiet.serve _) hlog₁.held_eq fun log₂ challenge hlog₂ => ?_
  refine presentOr_bind_safe fun challenge _ => ?_
  refine loadOr_safe hlog₂.held_eq fun log₃ row user hlog₃ hdomain => ?_
  refine Quiet.bind_safe (Quiet.serve _) hlog₃.held_eq fun log₄ now hlog₄ => ?_
  refine Follows.ite (fun _ => ?_) fun _ => ?_
  · exact Quiet.safe (Quiet.bind (Quiet.serve _) fun _ => Quiet.throw _)
  · refine orRaise_bind_safe fun _ _ => ?_
    refine Quiet.bind_safe (Quiet.serve _) hlog₄.held_eq fun log₅ _ hlog₅ => ?_
    have hsavable : Savable command log₅ user.markVerified :=
      .evolved row user hlog₅.held_eq hdomain (.markVerified henrolls hverifies)
    refine save_bind_safe hsavable fun log₆ saved _ => ?_
    refine Quiet.safe (Quiet.bind (Quiet.forM fun _ _ => Quiet.serve _) fun _ => ?_)
    exact quiet_dispatchEvents _

/-- The rest of a reset runs with a token that may be used. -/
theorem ensureResetTokenUsable_bind_safe {token : PasswordResetToken} {now : Datetime}
    {f : Unit → AccountAction α}
    (hf : token.status = .active → now < token.expiresAt → Safe command log (f ())) :
    Safe command log (ensureResetTokenUsable token now >>= f) := by
  unfold ensureResetTokenUsable
  split
  · next husable =>
    obtain ⟨hactive, hexpires⟩ := PasswordResetToken.ensureCanBeUsed_ok husable
    exact hf hactive hexpires
  · next error _ =>
    have hraises : (markIfExpired token now >>= fun _ => throw error : AccountAction Unit).Follows
        (accountContract command) log fun _ outcome => outcome ≠ .ok () := by
      have hmark : Quiet command (heldRow log) (markIfExpired token now) :=
        Quiet.ite (Quiet.serve _) (Quiet.pure _)
      exact Follows.bind (hmark.follows log rfl) (fun _ _ _ h => by cases h)
        fun _ _ _ h => by cases h
    exact Follows.bind hraises (fun _ _ h => absurd rfl h) fun _ _ _ => trivial

theorem quiet_resetPasswordHistory {held : Option UserRow} (user : User) :
    Quiet command held (resetPasswordHistory user) := by
  refine Quiet.bind (Quiet.passwordHistory user.id) fun _ => ?_
  exact Quiet.bind (Quiet.orRaise _) fun _ => Quiet.pure _

theorem resetPasswordLocked_safe {cmd : ResetPasswordCommand} {token : PasswordResetToken}
    {now : Datetime} (hlog : heldRow log = none)
    (htoken : ⟨.service (.verifyResetToken cmd.token),
      (.ok (some token) : Except AccountError (Option PasswordResetToken))⟩ ∈ log)
    (hnow : ⟨.service .utcNow, (.ok now : Except AccountError Datetime)⟩ ∈ log)
    (hactive : token.status = .active) (hexpires : now < token.expiresAt) :
    Safe (.resetPassword cmd) log (resetPasswordLocked cmd token now) := by
  refine load_bind_safe (getById_follows hlog) fun log₁ found hfound => ?_
  refine presentOr_bind_safe fun user huser => ?_
  rw [(Option.filter_eq_some_iff.mp huser).1] at hfound
  obtain ⟨row, hlog₁, hdomain, hid⟩ := hfound
  refine orRaise_bind_safe fun _ _ => ?_
  refine Quiet.bind_safe (quiet_resetPasswordHistory user) hlog₁.held_eq fun log₂ history hlog₂ => ?_
  refine Quiet.bind_safe (Quiet.serve _) hlog₂.held_eq fun log₃ encoded hlog₃ => ?_
  refine orRaise_bind_safe fun newPasswordHash _ => ?_
  refine Quiet.bind_safe (quiet_ensureNotReused _ _) hlog₃.held_eq fun log₄ _ hlog₄ => ?_
  have hlater := ((hlog₁.trans hlog₂).trans hlog₃).trans hlog₄
  have hauthority : PasswordAuthority (.resetPassword cmd) log₄ user :=
    ⟨token, now, hlater.subset _ htoken, hlater.subset _ hnow,
      hid.symm.trans (UserRow.holds_of_toDomain hdomain).id_eq.symm, hactive, hexpires⟩
  have hsavable : Savable (.resetPassword cmd) log₄ (user.changePassword newPasswordHash) :=
    .evolved row user hlog₄.held_eq hdomain (.changePassword rfl hauthority)
  refine savePending_bind_safe fun log₅ saved hlog₅ hsaved => ?_
  refine Quiet.bind_safe (quiet_dispatchEvents _) rfl fun log₆ _ hlog₆ => ?_
  refine Quiet.bind_safe (quiet_revokeAllSessions _ _) rfl fun log₇ _ hlog₇ => ?_
  refine Quiet.bind_safe (Quiet.serve _) rfl fun log₈ _ hlog₈ => ?_
  refine Quiet.bind_safe (Quiet.serve _) rfl fun log₉ _ hlog₉ => ?_
  have hfinal := (((hsavable.mono hlog₅).mono hlog₆).mono hlog₇).mono hlog₈
  exact commit_safe (hfinal.mono hlog₉) hsaved fun _ hmem => by cases hmem

theorem resetPassword_safe (hlog : heldRow log = none) (cmd : ResetPasswordCommand) :
    Safe (.resetPassword cmd) log (resetPassword cmd) := by
  refine serve_bind_safe fun log₁ now hlog₁ hnow => ?_
  refine serve_bind_safe fun log₂ verification hlog₂ htoken => ?_
  refine presentOr_bind_safe fun token hfound => ?_
  subst hfound
  refine ensureResetTokenUsable_bind_safe fun hactive hexpires => ?_
  have hnone : heldRow log₂ = none := hlog₂.held_eq.trans (hlog₁.held_eq.trans hlog)
  refine Follows.perform_bind trivial (fun (locked : Bool) _ => ?_) fun _ => trivial
  refine Follows.ite (fun _ => trivial) fun _ => ?_
  exact resetPasswordLocked_safe (Option.or_none.trans hnone) (List.mem_cons_of_mem _ htoken)
    (List.mem_cons_of_mem _ (hlog₂.subset _ hnow)) hactive hexpires

/-- A unit of work that starts with a partial update of the account that it then saves. -/
theorem enrollTwoFactor_safe (hlog : heldRow log = some row) (hdomain : row.toDomain = .ok user)
    (secret : String) : Safe command log (enrollTwoFactor user secret) := by
  refine Quiet.bind_safe (Quiet.serve _) hlog fun log₁ stored hlog₁ => ?_
  have hsavable : Savable command log₁ user.enableTwoFactor :=
    .evolved row user hlog₁.held_eq hdomain .enableTwoFactor
  refine savePending_bind_safe fun log₂ saved hlog₂ hsaved => ?_
  refine Quiet.bind_safe (quiet_dispatchEvents _) rfl fun log₃ _ hlog₃ => ?_
  refine Quiet.bind_safe (Quiet.serve _) rfl fun log₄ _ hlog₄ => ?_
  refine commit_safe (((hsavable.mono hlog₂).mono hlog₃).mono hlog₄) hsaved fun statement hmem => ?_
  rw [List.mem_singleton.mp hmem]
  have hid : user.enableTwoFactor.id = user.id := by
    unfold User.enableTwoFactor
    split
    · rfl
    · rfl
  exact Or.inr (congrArg some hid.symm)

theorem confirmMfaEnrollment_safe (hlog : heldRow log = none) (userId : UUID) (token : String) :
    Safe command log (confirmMfaEnrollment userId token) := by
  refine loadOr_safe hlog fun log₁ row user hlog₁ hdomain => ?_
  refine Quiet.bind_safe (Quiet.serve _) hlog₁.held_eq fun log₂ state hlog₂ => ?_
  refine presentOr_bind_safe fun state _ => ?_
  refine Quiet.bind_safe (Quiet.serve _) hlog₂.held_eq fun log₃ now hlog₃ => ?_
  refine Quiet.bind_safe (Quiet.serve _) hlog₃.held_eq fun log₄ accepted hlog₄ => ?_
  refine Follows.ite (fun _ => ?_) fun _ => ?_
  · exact Quiet.safe (Quiet.bind (Quiet.serve _) fun _ => Quiet.throw _)
  · refine Quiet.bind_safe (Quiet.serve _) hlog₄.held_eq fun log₅ used hlog₅ => ?_
    refine Follows.ite (fun _ => trivial) fun _ => ?_
    refine Quiet.bind_safe (Quiet.serve _) hlog₅.held_eq fun log₆ _ hlog₆ => ?_
    exact enrollTwoFactor_safe hlog₆.held_eq hdomain state.secret

theorem disableMfa_safe (henrolls : command.enrolls = false) (hlog : heldRow log = none)
    (userId : UUID) : Safe command log (disableMfa userId) := by
  refine loadOr_safe hlog fun log₁ row user hlog₁ hdomain => ?_
  have hsavable : Savable command log₁ user.disableTwoFactor :=
    .evolved row user hlog₁.held_eq hdomain (.disableTwoFactor henrolls)
  refine savePending_bind_safe fun log₂ saved hlog₂ hsaved => ?_
  refine Quiet.bind_safe (quiet_dispatchEvents _) rfl fun log₃ _ hlog₃ => ?_
  refine commit_safe ((hsavable.mono hlog₂).mono hlog₃) hsaved fun statement hmem => ?_
  rw [List.mem_singleton.mp hmem]
  have hid : user.disableTwoFactor.id = user.id := by
    unfold User.disableTwoFactor
    split
    · rfl
    · rfl
  exact Or.inr (congrArg some hid.symm)

theorem quiet_totpSecretOf {held found : Option UserRow} :
    Quiet command held (totpSecretOf found) := by
  cases found with
  | none => exact Quiet.pure _
  | some found =>
    unfold totpSecretOf
    split
    · exact Quiet.pure _
    · split
      · exact Quiet.ite (Quiet.serve _) (Quiet.pure _)
      · exact Quiet.pure _

theorem finishMfaLogin_safe (henrolls : command.enrolls = false) (hlog : heldRow log = some row)
    (hdomain : row.toDomain = .ok user) (grant : MfaLoginGrant) (challenge : MfaChallenge) :
    Safe command log (finishMfaLogin grant user challenge) := by
  refine Quiet.bind_safe (Quiet.serve _) hlog fun log₁ _ hlog₁ => ?_
  refine Quiet.bind_safe (Quiet.serve _) hlog₁.held_eq fun log₂ now hlog₂ => ?_
  have hsavable : Savable command log₂ (user.recordLogin now) :=
    .evolved row user hlog₂.held_eq hdomain (.of_same henrolls rfl rfl rfl rfl rfl rfl)
  refine saveAndDispatch_bind_safe hsavable fun log₃ hsaves => ?_
  obtain ⟨saved, hlog₃, hrow⟩ := hsaves
  have hmintable : (user.recordLogin now).authTokenVersion = 0 ∨ ∃ held, some saved = some held ∧
      (user.recordLogin now).id = held.id ∧
        (user.recordLogin now).authTokenVersion = held.authTokenVersion :=
    Or.inr ⟨saved, rfl, hrow.id_eq, hrow.version_eq⟩
  refine Quiet.bind_safe (quiet_issueAuthenticatedTokens hmintable) hlog₃.held_eq
    fun log₄ decision _ => ?_
  exact (Quiet.bind (Quiet.serve _) fun _ => Quiet.pure _).safe

theorem checkMfaCode_safe (henrolls : command.enrolls = false) (hlog : heldRow log = some row)
    (hdomain : row.toDomain = .ok user) (grant : MfaLoginGrant) (secret : String)
    (challenge : MfaChallenge) (token : String) :
    Safe command log (checkMfaCode grant user secret challenge token) := by
  refine Quiet.bind_safe (Quiet.serve _) hlog fun log₁ now hlog₁ => ?_
  refine Quiet.bind_safe (Quiet.serve _) hlog₁.held_eq fun log₂ totpAccepted hlog₂ => ?_
  have hrecovery : Quiet command (some row)
      (tryRecoveryCode user challenge token now totpAccepted) :=
    Quiet.ite (Quiet.serve _) (Quiet.pure _)
  refine Quiet.bind_safe hrecovery hlog₂.held_eq fun log₃ recoveryAccepted hlog₃ => ?_
  refine Follows.ite (fun _ => ?_) fun _ => ?_
  · exact (Quiet.bind (Quiet.serve _) fun _ => Quiet.pure _).safe
  · refine Follows.ite (fun _ => ?_) fun _ => finishMfaLogin_safe henrolls hlog₃.held_eq hdomain _ _
    refine Quiet.bind_safe (Quiet.serve _) hlog₃.held_eq fun log₄ used hlog₄ => ?_
    refine Follows.ite (fun _ => trivial) fun _ => ?_
    refine Quiet.bind_safe (Quiet.serve _) hlog₄.held_eq fun log₅ _ hlog₅ => ?_
    exact finishMfaLogin_safe henrolls hlog₅.held_eq hdomain _ _

theorem completeMfaLogin_safe (henrolls : command.enrolls = false) (hlog : heldRow log = none)
    (tempToken token : String) : Safe command log (completeMfaLogin tempToken token) := by
  refine Quiet.bind_safe (Quiet.serve _) hlog fun log₁ grant hlog₁ => ?_
  cases grant with
  | none => trivial
  | some grant =>
    refine Quiet.bind_safe (Quiet.serve _) hlog₁.held_eq fun log₂ blacklisted hlog₂ => ?_
    refine Follows.ite (fun _ => trivial) fun _ => ?_
    refine load_bind_safe (getById_follows hlog₂.held_eq) fun log₃ found hfound => ?_
    cases found with
    | none => trivial
    | some user =>
      obtain ⟨row, hlog₃, hdomain, _⟩ := hfound
      refine Follows.ite (fun _ => trivial) fun _ => ?_
      refine Quiet.bind_safe (Quiet.getById user.id) hlog₃.held_eq fun log₄ stored hlog₄ => ?_
      refine Quiet.bind_safe quiet_totpSecretOf hlog₄.held_eq fun log₅ secret hlog₅ => ?_
      cases secret with
      | none => trivial
      | some secret =>
        refine Quiet.bind_safe (Quiet.serve _) hlog₅.held_eq fun log₆ challenge hlog₆ => ?_
        split
        · trivial
        · exact checkMfaCode_safe henrolls hlog₆.held_eq hdomain _ _ _ _

/-- A handler that changes the loaded aggregate and saves it. -/
theorem govern_safe {adminId userId : UUID} {actionType : String}
    {change : User → Except AccountError User} (hlog : heldRow log = none)
    (hchange : ∀ log user user', user.id = userId → change user = .ok user' →
      Evolves command log user user') :
    Safe command log (govern adminId userId actionType change) := by
  refine load_bind_safe (getById_follows hlog) fun log₁ found hfound => ?_
  refine presentOr_bind_safe fun user huser => ?_
  subst huser
  obtain ⟨row, hlog₁, hdomain, hid⟩ := hfound
  have huser := (UserRow.holds_of_toDomain hdomain).id_eq.trans hid
  refine orRaise_bind_safe fun user' huser' => ?_
  have hsavable : Savable command log₁ user' :=
    .evolved row user hlog₁.held_eq hdomain (hchange _ _ _ huser huser')
  exact save_bind_safe hsavable fun _ _ _ => (Quiet.serve _).safe

theorem changeStored_safe {userId : UUID} {change : User → Except AccountError User}
    (hlog : heldRow log = none)
    (hchange : ∀ log user user', user.id = userId → change user = .ok user' →
      Evolves command log user user') :
    Safe command log (changeStored userId change) := by
  refine load_bind_safe (getById_follows hlog) fun log₁ found hfound => ?_
  cases found with
  | none => trivial
  | some user =>
    obtain ⟨row, hlog₁, hdomain, hid⟩ := hfound
    have huser := (UserRow.holds_of_toDomain hdomain).id_eq.trans hid
    refine orRaise_bind_follows (orRaise_bind_safe fun user' huser' => ?_)
    exact saveAndDispatch_safe
      (.evolved row user hlog₁.held_eq hdomain (hchange _ _ _ huser huser'))

theorem writeIsActive_safe (isActive : Bool) {userId : UUID}
    (h : (if isActive then command.activatedUser else command.flaggedUser) = some userId)
    (adminId : UUID) (actionType : String) :
    Safe command log (writeIsActive adminId userId actionType isActive) := by
  refine Follows.perform_bind trivial (fun (row : Option UserRow) hpossible => ?_) fun _ => trivial
  cases row with
  | none => trivial
  | some row =>
    have hid : row.id = userId := hpossible
    rw [← hid] at h
    exact Follows.perform_bind (Commits.flags h) (fun _ _ => (Quiet.serve _).safe) fun _ => trivial

/-- A recorded event and a login time do not enter what may be saved. -/
theorem Savable.linkOAuthProvider (h : Savable command log user) (provider : String) :
    Savable command log (user.linkOAuthProvider provider) := by
  cases h with
  | evolved held before hheld hbefore hevolves =>
    exact .evolved held before hheld hbefore { hevolves with }
  | created hcreates hheld hid hversion => exact .created hcreates hheld hid hversion

theorem Savable.recordLogin (h : Savable command log user) (now : Datetime) :
    Savable command log (user.recordLogin now) := by
  cases h with
  | evolved held before hheld hbefore hevolves =>
    exact .evolved held before hheld hbefore { hevolves with }
  | created hcreates hheld hid hversion => exact .created hcreates hheld hid hversion

theorem Savable.clearEvents (h : Savable command log user) :
    Savable command log { user with events := [] } := by
  cases h with
  | evolved held before hheld hbefore hevolves =>
    exact .evolved held before hheld hbefore { hevolves with }
  | created hcreates hheld hid hversion => exact .created hcreates hheld hid hversion

/-- The first part of a provider login has settled an account that may be saved and whose
tokens may be minted, and a unit of work about this account alone. -/
structure Linked (command : IdentityCommand) (log : AccountLog) (linked : LinkedAccount) : Prop where
  savable : Savable command log linked.user
  mintable : linked.user.authTokenVersion = 0 ∨ ∃ row, heldRow log = some row ∧
    linked.user.id = row.id ∧ linked.user.authTokenVersion = row.authTokenVersion
  commits : ∀ log', After (heldRow log) log log' → Commits command log' linked.pending
  targets : ∀ statement ∈ linked.pending,
    statement.target = none ∨ statement.target = some linked.user.id

theorem Linked.mono {linked : LinkedAccount} {log' : AccountLog} (h : Linked command log linked)
    (hlog : After (heldRow log) log log') : Linked command log' linked where
  savable := h.savable.mono hlog
  mintable := by
    rw [hlog.held_eq]
    exact h.mintable
  commits := fun log'' hlog'' => h.commits log'' (hlog.andThen hlog'')
  targets := h.targets

/-- Recording the link saves the account once more. -/
theorem recordLink_follows {provider : OAuthProvider} {pending : List AccountStatement}
    {oauthTokenToSave : Option OAuthToken} (hsavable : Savable command log user)
    (hmintable : user.authTokenVersion = 0 ∨ ∃ row, heldRow log = some row ∧ user.id = row.id ∧
      user.authTokenVersion = row.authTokenVersion)
    (hpending : ∀ statement ∈ pending,
      statement.target = none ∨ statement.target = some user.id) :
    (recordLink provider pending user oauthTokenToSave).Follows (accountContract command) log
      fun log' outcome => ∀ linked, outcome = .ok linked → Linked command log' linked := by
  have hlinked := hsavable.linkOAuthProvider provider.value
  refine Follows.bind savePending_follows (fun log₁ saved hsaved => ?_) fun _ _ _ _ h => by cases h
  obtain ⟨hlog₁, hsaved⟩ := hsaved saved rfl
  obtain ⟨row, back, hstatements, hrow, hback, _⟩ := hsaved.statements
  refine Follows.bind ((quiet_dispatchEvents _).follows log₁ rfl) (fun log₂ _ hlog₂ => ?_)
    fun _ _ _ _ h => by cases h
  rintro linked ⟨⟩
  have hlater := hlog₁.andThen hlog₂
  have htargets : ∀ statement ∈ pending,
      statement.target = none ∨ statement.target = some row.id := fun statement hmem =>
    hrow.id_eq ▸ hpending statement hmem
  refine
    { savable := (hlinked.mono hlater).clearEvents
      mintable := by
        rw [hlater.held_eq]
        exact hmintable
      commits := fun log' hlog' => ?_
      targets := fun statement hmem => ?_ }
  · rw [hstatements]
    exact .saves htargets hback hrow ((hlinked.mono hlater).mono hlog')
  · rw [hstatements, List.mem_append, List.mem_cons] at hmem
    rcases hmem with hmem | rfl | hmem
    · exact hpending statement hmem
    · exact Or.inr (congrArg some hrow.id_eq.symm)
    · exact Or.inl (hback statement hmem)

theorem createLinkedAccount_follows {cmd : GoogleLoginCommand} (hcreates : command.creates = true)
    (hlog : heldRow log = none) :
    (createLinkedAccount cmd).Follows (accountContract command) log
      fun log' outcome => ∀ linked, outcome = .ok linked → Linked command log' linked := by
  refine Follows.perform_bind trivial (fun (id : UUID) _ => ?_) fun _ _ h => by cases h
  have hheld : heldRow (⟨.newId, .ok id⟩ :: log) = none := Option.or_none.trans hlog
  refine Follows.bind ((Quiet.presentOr _ _).follows _ hheld) (fun log₁ role hlog₁ => ?_)
    fun _ _ _ _ h => by cases h
  cases hnew : User.registerNew id cmd.identity.email none cmd.identity.firstName
      cmd.identity.lastName role true with
  | error error => exact fun _ h => by cases h
  | ok newUser =>
    obtain ⟨hid, hversion⟩ := registerNew_ok hnew
    have hdrawn : Drawn id log₁ := hlog₁.drawn id (Or.inl rfl)
    refine orRaise_bind_follows ?_
    refine Follows.bind savePending_follows (fun log₂ saved hsaved => ?_) fun _ _ _ _ h => by cases h
    obtain ⟨hlog₂, hsaved⟩ := hsaved saved rfl
    obtain ⟨row, back, hstatements, hrow, hback, hdomain⟩ := hsaved.statements
    have hsavedUser := UserRow.holds_of_toDomain hdomain
    have hid' : saved.user.id = id := hsavedUser.id_eq.trans (hrow.id_eq.symm.trans hid)
    have hversion' : saved.user.authTokenVersion = 0 :=
      hsavedUser.version_eq.trans (hrow.version_eq.symm.trans hversion)
    have hheld₂ : heldRow log₂ = none := hlog₂.held_eq.trans hlog₁.held_eq
    refine Follows.bind ((quiet_dispatchEvents _).follows log₂ hheld₂) (fun log₃ _ hlog₃ => ?_)
      fun _ _ _ _ h => by cases h
    refine Follows.bind ((Quiet.serve _).follows log₃ hlog₃.held_eq) (fun log₄ tokenId hlog₄ => ?_)
      fun _ _ _ _ h => by cases h
    refine Follows.bind ((Quiet.serve _).follows log₄ hlog₄.held_eq) (fun log₅ _ hlog₅ => ?_)
      fun _ _ _ _ h => by cases h
    have hlater := ((hlog₂.trans hlog₃).trans hlog₄).trans hlog₅
    refine recordLink_follows
      (.created hcreates hlog₅.held_eq (hid' ▸ hlater.drawn id hdrawn) hversion')
      (Or.inl hversion') fun statement hmem => ?_
    rw [hstatements, List.nil_append, List.mem_cons] at hmem
    rcases hmem with rfl | hmem
    · exact Or.inr (congrArg some hsavedUser.id_eq.symm)
    · exact Or.inl (hback statement hmem)

/-- The branches of a provider login, for an account that has been loaded or is created. -/
theorem followDecision_follows {cmd : GoogleLoginCommand} {decision : OAuthLinkingDecision}
    {account : Option User} {providerLink existingLink : Option OAuthToken} {P : UserRow → Prop}
    {log₀ : AccountLog} (henrolls : command.enrolls = false) (hcreates : command.creates = true)
    (hload : Loads P log₀ log account)
    (hdecision : decision.action = .createAccount ↔ account = none) :
    (followDecision cmd decision account providerLink existingLink).Follows
      (accountContract command) log
        fun log' outcome => ∀ linked, outcome = .ok linked → Linked command log' linked := by
  cases account with
  | none =>
    have haction := hdecision.mpr rfl
    unfold followDecision
    rw [haction]
    have hload : After none log₀ log := hload
    exact createLinkedAccount_follows hcreates hload.held_eq
  | some user =>
    obtain ⟨row, hlog, hdomain, _⟩ := hload
    have hheld := hlog.held_eq
    have hsavable : Savable command log user :=
      .evolved row user hheld hdomain (.of_same henrolls rfl rfl rfl rfl rfl rfl)
    have hmintable := mintable hdomain
    rw [← hheld] at hmintable
    unfold followDecision
    split
    · next haction => exact absurd (hdecision.mp haction) (Option.some_ne_none _)
    · next heq _ => cases heq
    · exact fun _ h => by cases h
    · next heq =>
      cases heq
      rintro linked ⟨⟩
      exact
        { savable := hsavable
          mintable := hmintable
          commits := fun _ _ => .quiet fun _ hmem => by cases hmem
          targets := fun _ hmem => by cases hmem }
    · next heq =>
      cases heq
      have hlink : Quiet command (some row) (linkFor cmd user providerLink) := by
        cases providerLink with
        | some link => exact Quiet.pure _
        | none => exact Quiet.bind (Quiet.serve _) fun _ => Quiet.pure _
      refine Follows.bind (hlink.follows log hheld) (fun log₁ token hlog₁ => ?_)
        fun _ _ _ _ h => by cases h
      have hafter : After (heldRow log) log log₁ := hheld ▸ hlog₁
      refine recordLink_follows (hsavable.mono hafter) ?_ fun _ hmem => by cases hmem
      rw [hafter.held_eq]
      exact hmintable

theorem finishGoogleLogin_safe {linked : LinkedAccount} (h : Linked command log linked)
    (decision : AuthenticationDecision) : Safe command log (finishGoogleLogin linked decision) := by
  have hsaveTokens (held : Option UserRow) : Quiet command held
      (linked.oauthTokenToSave.toList.forM fun token => serve (.saveOAuthToken token)) :=
    Quiet.forM fun _ _ => Quiet.serve _
  unfold finishGoogleLogin
  split
  · refine Quiet.bind_safe (hsaveTokens _) rfl fun log₁ _ hlog₁ => ?_
    exact Follows.perform_bind (h.commits log₁ hlog₁) (fun _ _ => trivial) fun _ => trivial
  · refine Quiet.bind_safe (hsaveTokens _) rfl fun log₁ _ hlog₁ => ?_
    refine Quiet.bind_safe (Quiet.serve _) rfl fun log₂ now hlog₂ => ?_
    have hsavable := ((h.mono hlog₁).mono hlog₂).savable.recordLogin now
    refine savePending_bind_safe fun log₃ saved hlog₃ hsaved => ?_
    refine Quiet.bind_safe (quiet_dispatchEvents _) rfl fun log₄ _ hlog₄ => ?_
    have hcommit := commit_safe ((hsavable.mono hlog₃).mono hlog₄) hsaved h.targets
    exact Follows.bind hcommit (fun _ _ _ => trivial) fun _ _ _ => trivial
  · trivial

theorem googleLogin_safe (henrolls : command.enrolls = false) (hcreates : command.creates = true)
    (hlog : heldRow log = none)
    (cmd : GoogleLoginCommand) : Safe command log (googleLogin cmd) := by
  refine Follows.ite (fun _ => trivial) fun _ => ?_
  refine load_bind_safe (getByEmail_follows hlog) fun log₁ account hload => ?_
  refine serve_bind_safe fun log₂ providerLink hlog₂ _ => ?_
  have hexisting (held : Option UserRow) :
      Quiet command held (existingLink cmd.identity.provider account) := by
    cases account with
    | none => exact Quiet.pure _
    | some user => exact Quiet.serve _
  refine Quiet.bind_safe (hexisting _) rfl fun log₃ existingUserLink hlog₃ => ?_
  refine orRaise_bind_safe fun decision hdecision => ?_
  have hlater := hlog₂.andThen hlog₃
  have hload₃ : Loads (fun _ => True) log log₃ account := by
    cases account with
    | none =>
      have hnone : After none log log₁ := hload
      exact hnone.andThen hlater
    | some user =>
      obtain ⟨row, hrow, hdomain, _⟩ := hload
      exact ⟨row, hrow.andThen hlater, hdomain, trivial⟩
  have haction := decideLinking_createAccount hdecision
  refine Follows.bind (followDecision_follows henrolls hcreates hload₃ haction)
    (fun log₄ linked h => ?_) fun _ _ _ => trivial
  have hlinked := h linked rfl
  have hevaluate : Quiet command (heldRow log₄) (evaluateOAuthLogin linked.user) :=
    Quiet.ite (quiet_finalizeLogin hlinked.mintable) (Quiet.pure _)
  refine Quiet.bind_safe hevaluate rfl fun log₅ decision hlog₅ => ?_
  exact finishGoogleLogin_safe (hlinked.mono hlog₅) decision

theorem signInWithGoogle_safe (henrolls : command.enrolls = false)
    (hcreates : command.creates = true) (hlog : heldRow log = none)
    (claims : GoogleClaims) (tokenData : GoogleTokenData) (signupRole : Option UserRole) :
    Safe command log (signInWithGoogle claims tokenData signupRole) := by
  refine orRaise_bind_safe fun info _ => ?_
  refine Quiet.bind_safe (Quiet.serve _) hlog fun log₁ now hlog₁ => ?_
  exact orRaise_bind_safe fun cmd _ => googleLogin_safe henrolls hcreates hlog₁.held_eq cmd

theorem confirmOAuthRelink_safe (henrolls : command.enrolls = false) (hlog : heldRow log = none)
    (cmd : ConfirmOAuthRelinkCommand) : Safe command log (confirmOAuthRelink cmd) := by
  refine loadOr_safe hlog fun log₁ row account hlog₁ hdomain => ?_
  refine Quiet.bind_safe (Quiet.serve _) hlog₁.held_eq fun log₂ identity hlog₂ => ?_
  refine presentOr_bind_safe fun identity _ => ?_
  refine Quiet.bind_safe (Quiet.serve _) hlog₂.held_eq fun log₃ existing hlog₃ => ?_
  refine orRaise_bind_safe fun decision _ => ?_
  refine Follows.ite (fun _ => trivial) fun _ => ?_
  refine Follows.ite (fun _ => trivial) fun _ => ?_
  refine Quiet.bind_safe (Quiet.serve _) hlog₃.held_eq fun log₄ granted hlog₄ => ?_
  refine Follows.ite (fun _ => ?_) fun _ => trivial
  refine orRaise_bind_safe fun identity _ => ?_
  have hsavable : Savable command log₄ (account.linkOAuthProvider cmd.provider.value) :=
    .evolved row account hlog₄.held_eq hdomain (.of_same henrolls rfl rfl rfl rfl rfl rfl)
  refine savePending_bind_safe fun log₅ saved hlog₅ hsaved => ?_
  refine Quiet.bind_safe (Quiet.serve _) rfl fun log₆ _ hlog₆ => ?_
  refine Quiet.bind_safe (Quiet.serve _) rfl fun log₇ _ hlog₇ => ?_
  refine Quiet.bind_safe (quiet_dispatchEvents _) rfl fun log₈ _ hlog₈ => ?_
  have hfinal := ((hsavable.mono hlog₅).mono hlog₆).mono hlog₇
  exact commit_safe (hfinal.mono hlog₈) hsaved fun _ hmem => by cases hmem

end Handlers

section Commands

variable {log : AccountLog} {α : Type}

/-- A command whose result is not used. -/
theorem Safe.ignore {command : IdentityCommand} {action : AccountAction α}
    (h : Safe command log action) :
    Safe command log (do
      let _ ← action) :=
  Follows.bind h (fun _ _ _ => trivial) fun _ _ _ => trivial

/-- The account handlers follow their contract. -/
theorem AccountCommand.safe (command : AccountCommand) :
    Safe (.account command) [] command.program := by
  have hnone : heldRow [] = none := rfl
  cases command with
  | loginWithPassword email plainPassword =>
    exact (loginWithPassword_safe rfl hnone email plainPassword).ignore
  | updateAccountProfile userId firstName lastName =>
    exact (updateAccountProfile_safe rfl hnone userId firstName lastName).ignore
  | assignRole actorId targetUserId newRole reason =>
    exact administer_bind_safe hnone (fun _ _ _ _ h => .changeRole rfl h) fun _ _ _ _ => trivial
  | deactivateAccount actorId userId reason =>
    refine administer_bind_safe hnone (fun _ _ _ _ h => .deactivate rfl h)
      fun target log row _ => ?_
    exact (quiet_revokeAllSessions _ _).safe.ignore
  | suspendAccount actorId targetUserId reason =>
    refine administer_bind_safe hnone (fun _ _ _ _ h => .suspend rfl h)
      fun target log row _ => ?_
    exact (quiet_revokeAllSessions _ _).safe.ignore
  | reactivateAccount actorId targetUserId reason =>
    exact administer_bind_safe hnone (fun _ _ _ hid h => .activate rfl (congrArg some hid.symm) h)
      fun _ _ _ _ => trivial
  | unlockAccount actorId targetUserId reason =>
    exact administer_bind_safe hnone (fun _ _ _ hid h => .unlock rfl (congrArg some hid.symm) h)
      fun _ _ _ _ => trivial
  | changePassword userId currentPassword newPassword =>
    exact changePassword_safe hnone userId currentPassword newPassword
  | revokeUserSessions userId bumpAuthTokenVersion =>
    exact revokeUserSessions_safe hnone userId bumpAuthTokenVersion

/-- Every command of the component follows its contract. -/
theorem IdentityCommand.safe (command : IdentityCommand) : Safe command [] command.program := by
  have hnone : heldRow [] = none := rfl
  cases command with
  | account command => exact command.safe
  | registerAccount email plainPassword firstName lastName role =>
    exact registerAccount_safe rfl hnone email plainPassword firstName lastName role
  | verifyEmail verificationToken => exact verifyEmail_safe rfl rfl hnone verificationToken
  | setupPassword userId plainPassword => exact setupPassword_safe hnone userId plainPassword
  | resetPassword cmd => exact resetPassword_safe hnone cmd
  | confirmMfaEnrollment userId token => exact confirmMfaEnrollment_safe hnone userId token
  | disableMfa userId => exact disableMfa_safe rfl hnone userId
  | completeMfaLogin tempToken token =>
    exact (completeMfaLogin_safe rfl hnone tempToken token).ignore
  | googleLogin claims tokenData signupRole =>
    exact (signInWithGoogle_safe rfl rfl hnone claims tokenData signupRole).ignore
  | confirmOAuthRelink cmd => exact confirmOAuthRelink_safe rfl hnone cmd
  | banUser adminId userId => exact govern_safe hnone fun _ _ _ _ h => .deactivate rfl h
  | suspendUser adminId userId => exact govern_safe hnone fun _ _ _ _ h => .deactivate rfl h
  | reinstateUser adminId userId =>
    exact govern_safe hnone fun _ _ _ hid h => .activate rfl (congrArg some hid.symm) h
  | adminUserBan adminId userId =>
    refine writeIsActive_safe false ?_ adminId _
    rfl
  | adminUserReinstate adminId userId =>
    refine writeIsActive_safe true ?_ adminId _
    rfl
  | lockAccount userId => exact changeStored_safe hnone fun _ _ _ _ h => .lock rfl h
  | restoreAccount userId actorUserId reason =>
    exact changeStored_safe hnone fun _ _ _ hid h => .restore rfl (congrArg some hid.symm) h

end Commands

end Linkapro.Identity
