import Linkapro.Identity.ContractRules
import Linkapro.Identity.InterleavedAccounts
import Linkapro.Identity.SequentialRuns

/-!
# Identity: who becomes an administrator

Roles enter through registrations, through provider logins that create an account and
through role assignments. A registration refuses the role of an administrator, a login
saves the role that it has read, and an assignment of this role has read an actor who
may assign it and who is another user.
-/

namespace Linkapro.Identity

open Lib Lib.Action

/-- The row of an administrator. -/
def UserRow.IsAdmin (row : UserRow) : Prop := row.role = UserRole.admin.value

instance (row : UserRow) : Decidable row.IsAdmin := inferInstanceAs (Decidable (_ = _))

/-- The role of this row may assign the role of an administrator. -/
def UserRow.MayAssignAdmin (row : UserRow) : Prop :=
  ∃ role, UserRole.of row.role = .ok role ∧ Permission.assignAdminRole ∈ permissionsForRole role

/-- The execution assigns the role of an administrator to a user, on behalf of another user
whose row it has read. -/
def AssignsAdmin (command : IdentityCommand) (log : AccountLog) (userId : UUID) : Prop :=
  ∃ actorId reason, command = .account (.assignRole (some actorId) userId .admin reason) ∧
    actorId ≠ userId ∧ ∃ row ∈ readRows log, row.id = actorId ∧ row.MayAssignAdmin

/-- The execution may save this user as an administrator. -/
def Entitled (command : IdentityCommand) (log : AccountLog) (userId : UUID) : Prop :=
  (∃ row ∈ readRows log, row.id = userId ∧ row.IsAdmin) ∨ AssignsAdmin command log userId

/-- Only entitled users are saved as administrators. -/
def EntitledSaves (command : IdentityCommand) (log : AccountLog)
    (statements : List AccountStatement) : Prop :=
  ∀ row ∈ statements.filterMap AccountStatement.savedRow, row.IsAdmin → Entitled command log row.id

/-- An aggregate that may be saved with its role. -/
def RoleEntitled (command : IdentityCommand) (log : AccountLog) (user : User) : Prop :=
  user.role = .admin → Entitled command log user.id

/-- The contract of an execution about roles. -/
def roleContract (command : IdentityCommand) : Contract (Raising AccountError AccountOp.Ret) where
  allowed log op :=
    match op with
    | .commit statements => EntitledSaves command log statements
    | _ => True
  possible := (accountContract command).possible

instance (command : IdentityCommand) : Admits (roleContract command) where
  plain log op hplain := by
    cases op with
    | commit statements => cases hplain
    | _ => trivial
  keyed _ _ h := h

/-- A part of an execution that keeps the contract about roles. -/
abbrev RoleRuled {α : Type} (command : IdentityCommand) (log : AccountLog)
    (action : AccountAction α) (P : AccountLog → α → Prop) : Prop :=
  Ruled List.IsSuffix (roleContract command) log action P

section Handlers

variable {command : IdentityCommand} {log log' : AccountLog} {user : User}

/-- Later calls take no entitlement away. -/
theorem Entitled.mono {userId : UUID} (h : Entitled command log userId) (hlog : log <:+ log') :
    Entitled command log' userId := by
  rcases h with ⟨row, hrow, h⟩ | ⟨actorId, reason, hcommand, hother, row, hrow, h⟩
  · exact Or.inl ⟨row, mem_readRows_mono hlog hrow, h⟩
  · exact Or.inr ⟨actorId, reason, hcommand, hother, row, mem_readRows_mono hlog hrow, h⟩

theorem EntitledSaves.mono {statements : List AccountStatement}
    (h : EntitledSaves command log statements) (hlog : log <:+ log') :
    EntitledSaves command log' statements :=
  fun row hrow hadmin => (h row hrow hadmin).mono hlog

theorem RoleEntitled.mono (h : RoleEntitled command log user) (hlog : log <:+ log') :
    RoleEntitled command log' user :=
  fun hrole => (h hrole).mono hlog

/-- An aggregate that has been read has the role of its row. -/
theorem RoleEntitled.of_read {row : UserRow} (hrow : row ∈ readRows log)
    (hdomain : row.toDomain = .ok user) : RoleEntitled command log user := by
  have hholds := UserRow.holds_of_toDomain hdomain
  intro hrole
  refine Or.inl ⟨row, hrow, hholds.id_eq.symm, ?_⟩
  rw [UserRow.IsAdmin, ← hholds.role_eq, hrole]

theorem RoleEntitled.of_ne (h : user.role ≠ .admin) : RoleEntitled command log user :=
  fun hadmin => absurd hadmin h

/-- A row that holds an aggregate is saved for an entitled user only. -/
theorem RoleEntitled.entitled {row : UserRow} (h : RoleEntitled command log user)
    (hholds : row.Holds user) (hadmin : row.IsAdmin) : Entitled command log row.id := by
  rw [← hholds.id_eq]
  refine h ?_
  rw [UserRow.IsAdmin, ← hholds.role_eq] at hadmin
  cases hvalue : user.role with
  | admin => rfl
  | _ =>
    rw [hvalue] at hadmin
    exact absurd hadmin (by decide)

theorem entitledSaves_nil : EntitledSaves command log [] := fun _ h => by cases h

theorem Ruled.commitEntitled {statements : List AccountStatement}
    (h : EntitledSaves command log statements) :
    RoleRuled command log (Identity.query (.commit statements)) fun _ _ => True :=
  (Ruled.call h fun _ => List.suffix_cons _ _).mono fun _ _ _ _ => trivial

theorem ruled_saveOAuthToken {token : OAuthToken} :
    RoleRuled command log (serve (.saveOAuthToken token)) fun _ _ => True :=
  (Ruled.call trivial fun _ => List.suffix_cons _ _).mono fun _ _ _ _ => trivial

/-- A save outside a unit of work. -/
theorem ruled_saveAndDispatch (huser : RoleEntitled command log user) :
    RoleRuled command log (saveAndDispatch user) fun _ _ => True := by
  have hsave : RoleRuled command log (save user) fun _ _ => True := by
    refine Ruled.bind ruled_prepareSave fun log' plan hlog' hplan => ?_
    refine Ruled.bind (Ruled.commitEntitled fun row hrow hadmin => ?_) fun _ _ _ _ => ?_
    · rw [List.mem_singleton.mp hrow] at hadmin ⊢
      exact (huser.mono hlog').entitled hplan.1 hadmin
    · refine Ruled.bind (Ruled.forM fun statement hmem _ => Ruled.commitEntitled ?_)
        fun _ _ _ _ => Ruled.orRaise.mono fun _ _ _ _ => trivial
      intro row hrow
      rw [savedRows_of_writesNoUser fun other hother => ?_] at hrow
      · cases hrow
      · rw [List.mem_singleton.mp hother]
        exact hplan.2 statement hmem
  exact Ruled.bind hsave fun _ _ _ _ => ruled_dispatchEvents

/-- A save inside a unit of work keeps its statements about entitled users. -/
theorem ruled_saveEntitled {pending : List AccountStatement}
    (hpending : EntitledSaves command log pending) (huser : RoleEntitled command log user) :
    RoleRuled command log (savePending pending user) fun log' saved =>
      RoleEntitled command log' saved.user ∧ EntitledSaves command log' saved.statements := by
  refine ruled_savePending.mono fun log' saved hlog' hsaved => ?_
  obtain ⟨row, hholds, hdomain, hrows⟩ := hsaved.savedRows
  have hentitled := (huser.mono hlog').entitled hholds
  constructor
  · have hread := UserRow.holds_of_toDomain hdomain
    intro hadmin
    rw [hread.id_eq]
    refine hentitled ?_
    rw [UserRow.IsAdmin, ← hread.role_eq, hadmin]
  · intro other hother
    rw [hrows, List.mem_append] at hother
    rcases hother with hother | hother
    · exact (hpending.mono hlog') other hother
    · rw [List.mem_singleton.mp hother]
      exact hentitled

/-- An account that is registered is no administrator. -/
theorem registerNew_role {id : UUID} {email : Email} {passwordHash : Option PasswordHash}
    {firstName lastName : String} {role : UserRole} {isVerified : Bool}
    (h : User.registerNew id email passwordHash firstName lastName role isVerified = .ok user) :
    user.role ≠ .admin := by
  unfold User.registerNew at h
  split at h
  · cases h
  · next hrole =>
    obtain ⟨_, _, h⟩ := except_bind_eq_ok_iff.mp h
    cases h
    exact hrole

/-- A registration saves no administrator. -/
theorem ruled_registerAccount (email : Email) (plainPassword firstName lastName : String)
    (role : UserRole) :
    RoleRuled command log (registerAccount email plainPassword firstName lastName role)
      fun _ _ => True := by
  refine Ruled.bind ruled_getByEmail fun _ existing _ _ => ?_
  refine Ruled.ite (fun _ => Ruled.throw) fun _ => ?_
  refine Ruled.bind (Ruled.query rfl) fun _ encoded _ _ => ?_
  refine Ruled.bind (Ruled.query rfl) fun _ id _ _ => ?_
  refine Ruled.bind Ruled.orRaise fun _ passwordHash _ _ => ?_
  refine Ruled.bind Ruled.orRaise fun _ user _ huser => ?_
  refine Ruled.bind (ruled_saveEntitled entitledSaves_nil (.of_ne (registerNew_role huser.2)))
    fun _ saved _ hsaved => ?_
  refine Ruled.bind ruled_dispatchEvents fun _ _ hlog _ => ?_
  exact Ruled.commitEntitled (hsaved.2.mono hlog)

/-- What a login has settled may be saved. -/
structure EntitledLink (command : IdentityCommand) (log : AccountLog) (linked : LinkedAccount) :
    Prop where
  user : RoleEntitled command log linked.user
  pending : EntitledSaves command log linked.pending

theorem ruled_recordLink {provider : OAuthProvider} {pending : List AccountStatement}
    {oauthTokenToSave : Option OAuthToken} (hpending : EntitledSaves command log pending)
    (huser : RoleEntitled command log user) :
    RoleRuled command log (recordLink provider pending user oauthTokenToSave)
      (EntitledLink command) := by
  have hlinked : RoleEntitled command log (user.linkOAuthProvider provider.value) := huser
  refine Ruled.bind (ruled_saveEntitled hpending hlinked) fun _ saved hlog hsaved => ?_
  refine Ruled.bind ruled_dispatchEvents fun _ _ hlog' _ => Ruled.pure ?_
  exact ⟨hlinked.mono (hlog.trans hlog'), hsaved.2.mono hlog'⟩

/-- An account that a login creates is no administrator. -/
theorem ruled_createLinkedAccount (cmd : GoogleLoginCommand) :
    RoleRuled command log (createLinkedAccount cmd) (EntitledLink command) := by
  refine Ruled.bind (Ruled.query rfl) fun _ id _ _ => ?_
  refine Ruled.bind Ruled.presentOr fun _ role _ _ => ?_
  refine Ruled.bind Ruled.orRaise fun _ newUser _ huser => ?_
  refine Ruled.bind (ruled_saveEntitled entitledSaves_nil (.of_ne (registerNew_role huser.2)))
    fun _ saved _ hsaved => ?_
  refine Ruled.bind ruled_dispatchEvents fun _ _ hlog _ => ?_
  refine Ruled.bind (Ruled.query rfl) fun _ tokenId hlog' _ => ?_
  refine Ruled.bind ruled_saveOAuthToken fun _ _ hlog'' _ => ?_
  have hlater := (hlog.trans hlog').trans hlog''
  exact ruled_recordLink (hsaved.2.mono hlater) (hsaved.1.mono hlater)

theorem ruled_followDecision (cmd : GoogleLoginCommand) (decision : OAuthLinkingDecision)
    {account : Option User} (providerIdentityLink existingUserLink : Option OAuthToken)
    (haccount : ∀ user, account = some user → RoleEntitled command log user) :
    RoleRuled command log
      (followDecision cmd decision account providerIdentityLink existingUserLink)
      (EntitledLink command) := by
  unfold followDecision
  split
  · exact ruled_createLinkedAccount cmd
  · exact ruled_createLinkedAccount cmd
  · exact Ruled.throw
  · exact Ruled.pure ⟨haccount _ rfl, entitledSaves_nil⟩
  · refine Ruled.bind ruled_linkFor fun _ token hlog _ => ?_
    exact ruled_recordLink entitledSaves_nil ((haccount _ rfl).mono hlog)

theorem ruled_finishGoogleLogin {linked : LinkedAccount} (hlinked : EntitledLink command log linked)
    (decision : AuthenticationDecision) :
    RoleRuled command log (finishGoogleLogin linked decision) fun _ _ => True := by
  have hlink : RoleRuled command log
      (linked.oauthTokenToSave.toList.forM fun token => serve (.saveOAuthToken token))
      fun _ _ => True :=
    Ruled.forM fun _ _ _ => ruled_saveOAuthToken
  unfold finishGoogleLogin
  split
  · refine Ruled.bind hlink fun _ _ hlog _ => ?_
    refine Ruled.bind (Ruled.commitEntitled (hlinked.pending.mono hlog)) fun _ _ _ _ => ?_
    exact Ruled.pure trivial
  · refine Ruled.bind hlink fun _ _ hlog _ => ?_
    refine Ruled.bind (Ruled.query rfl) fun log' (now : Datetime) hlog' _ => ?_
    have hlater := hlog.trans hlog'
    have hlogin : RoleEntitled command log' (linked.user.recordLogin now) :=
      hlinked.user.mono hlater
    refine Ruled.bind (ruled_saveEntitled (hlinked.pending.mono hlater) hlogin)
      fun _ saved _ hsaved => ?_
    refine Ruled.bind ruled_dispatchEvents fun _ _ hlog'' _ => ?_
    refine Ruled.bind (Ruled.commitEntitled (hsaved.2.mono hlog'')) fun _ _ _ _ => ?_
    exact Ruled.pure trivial
  · exact Ruled.throw

/-- A provider login saves the roles that it has read, or a new account. -/
theorem ruled_signInWithGoogle (claims : GoogleClaims) (tokenData : GoogleTokenData)
    (signupRole : Option UserRole) :
    RoleRuled command log (signInWithGoogle claims tokenData signupRole)
      fun _ _ => True := by
  refine Ruled.bind Ruled.orRaise fun _ info _ _ => ?_
  refine Ruled.bind (Ruled.query rfl) fun _ now _ _ => ?_
  refine Ruled.bind Ruled.orRaise fun _ cmd _ _ => ?_
  refine Ruled.ite (fun _ => Ruled.throw) fun _ => ?_
  refine Ruled.bind ruled_getByEmail fun log' account _ haccount => ?_
  have haccount (user : User) (huser : account = some user) : RoleEntitled command log' user := by
    obtain ⟨row, hrow, hdomain⟩ := haccount user huser
    exact .of_read hrow hdomain
  have hexisting (log'' : AccountLog) : RoleRuled command log''
      (existingLink cmd.identity.provider account) fun _ _ => True := by
    cases account with
    | none => exact Ruled.pure trivial
    | some user => exact (Ruled.query rfl).mono fun _ _ _ _ => trivial
  refine Ruled.bind (Ruled.query rfl) fun _ providerIdentityLink hlog _ => ?_
  refine Ruled.bind (hexisting _) fun _ existingUserLink hlog' _ => ?_
  refine Ruled.bind Ruled.orRaise fun _ decision hlog'' _ => ?_
  refine Ruled.bind (ruled_followDecision cmd decision _ _ fun user huser =>
    (haccount user huser).mono ((hlog.trans hlog').trans hlog'')) fun _ linked _ hlinked => ?_
  refine Ruled.bind ruled_evaluateOAuthLogin fun _ login hlog _ => ?_
  exact ruled_finishGoogleLogin ⟨hlinked.user.mono hlog, hlinked.pending.mono hlog⟩ login

/-- What the policy has checked when it lets a role be assigned. -/
theorem ensureCanAssign_ok {context : RoleAssignmentContext}
    (h : ensureCanAssign context = .ok ()) :
    Permission.assignUserRole ∈ context.permissions ∧ (context.newRole = context.currentRole ∨
      ¬ (context.actorUserId = context.targetUserId ∧ context.newRole = .admin)) := by
  unfold ensureCanAssign at h
  split_ifs at h with hdenied hsame hself hescalates
  · exact ⟨hdenied, Or.inl hsame⟩
  · exact ⟨hdenied, Or.inr hself⟩

/-- A change of the role to that of an administrator is one by another user who may assign it. -/
theorem changeRole_admin {newRole actorRole : UserRole} {actorUserId : UUID}
    {reason : Option SecurityReason} {after : User}
    (h : user.changeRole newRole actorUserId actorRole reason = .ok after)
    (hadmin : after.role = .admin) :
    after.id = user.id ∧ (user.role = .admin ∨ (newRole = .admin ∧ actorUserId ≠ user.id ∧
      Permission.assignAdminRole ∈ permissionsForRole actorRole)) := by
  unfold User.changeRole at h
  split at h
  · cases h
    exact ⟨rfl, Or.inl hadmin⟩
  · next hchange =>
    obtain ⟨_, hensured, h⟩ := except_bind_eq_ok_iff.mp h
    cases h
    have hnew : newRole = .admin := hadmin
    obtain ⟨hassign, hsame | hother⟩ := ensureCanAssign_ok hensured
    · exact absurd hsame hchange
    · refine ⟨rfl, Or.inr ⟨hnew, fun hself => hother ⟨hself, hnew⟩, ?_⟩⟩
      cases actorRole with
      | admin => decide
      | _ => cases hassign

/-- The actor and the target of an assignment have been read. -/
theorem ruled_loadAuthorizedContext {actorId : Option UUID} {targetUserId : UUID} :
    RoleRuled command log (loadAuthorizedContext actorId targetUserId)
      fun log' context => RoleEntitled command log' context.target ∧
        context.target.id = targetUserId ∧ ∃ actor, actorId = some actor ∧
          ∃ row ∈ readRows log', row.id = actor ∧ row.toDomain = .ok context.actor := by
  refine ruled_getById_foundOr fun log₁ target row _ hrow hid hdomain => ?_
  have hload : RoleRuled command log₁ (loadActor actorId) fun log' actor =>
      ∃ userId, actorId = some userId ∧
        ∃ row ∈ readRows log', row.id = userId ∧ row.toDomain = .ok actor := by
    cases actorId with
    | none => exact Ruled.throw
    | some userId =>
      refine Ruled.bind ruled_getById fun log₂ found _ hfound => ?_
      refine Ruled.foundOr.mono fun log₃ actor _ hactor => ⟨userId, rfl, ?_⟩
      rw [hactor.1]
      exact hfound actor hactor.2
  refine Ruled.bind hload fun log₂ actor hlog₂ hactor => ?_
  refine Ruled.bind Ruled.orRaise fun log₃ _ _ hensured => Ruled.pure ?_
  rw [hensured.1]
  refine ⟨?_, (UserRow.holds_of_toDomain hdomain).id_eq.trans hid, hactor⟩
  exact RoleEntitled.of_read (mem_readRows_mono hlog₂ hrow) hdomain

/-- An assignment saves the role that it has read, or the one that its actor may assign. -/
theorem ruled_assignRole (actorId : Option UUID) (targetUserId : UUID) (newRole : UserRole)
    (reason : Option SecurityReason)
    (hcommand : command = .account (.assignRole actorId targetUserId newRole reason)) :
    RoleRuled command log (assignRole actorId targetUserId newRole reason)
      fun _ _ => True := by
  have hadminister : RoleRuled command log (administer actorId targetUserId
      fun context => context.target.changeRole newRole context.actor.id context.actor.role reason)
      fun _ _ => True := by
    refine Ruled.bind ruled_loadAuthorizedContext fun log' context _ hcontext => ?_
    obtain ⟨htarget, hid, actorId', hactorId, row, hrow, hrowId, hactor⟩ := hcontext
    refine Ruled.bind Ruled.orRaise fun log'' target hlog'' hchanged => ?_
    have hentitled : RoleEntitled command log'' target := by
      intro hadmin
      obtain ⟨hsame, hwas | ⟨hnew, hother, hmay⟩⟩ := changeRole_admin hchanged.2 hadmin
      · rw [hsame]
        exact (htarget hwas).mono hlog''
      · have hholds := UserRow.holds_of_toDomain hactor
        rw [hid, hholds.id_eq, hrowId] at hother
        refine Or.inr ⟨actorId', reason, ?_, ?_, row, mem_readRows_mono hlog'' hrow, hrowId, ?_⟩
        · rw [hcommand, hactorId, hsame, hid, hnew]
        · rwa [hsame, hid]
        · exact ⟨_, hholds.role_eq ▸ UserRole.of_value _, hmay⟩
    exact Ruled.bind (ruled_saveAndDispatch hentitled) fun _ _ _ _ => Ruled.pure trivial
  exact Ruled.bind hadminister fun _ _ _ _ => Ruled.pure trivial

end Handlers

/-- A user of the table is an administrator. -/
def AccountState.IsAdmin (s : AccountState) (userId : UUID) : Prop :=
  ∃ row, s.users.lookup userId = some row ∧ row.IsAdmin

/-- A user of the table may assign the role of an administrator. -/
def AccountState.MayAssignAdmin (s : AccountState) (userId : UUID) : Prop :=
  ∃ row, s.users.lookup userId = some row ∧ row.MayAssignAdmin

/-- Only administrators may assign their role. -/
theorem UserRow.mayAssignAdmin_iff {row : UserRow} : row.MayAssignAdmin ↔ row.IsAdmin := by
  constructor
  · rintro ⟨role, hrole, hmay⟩
    rw [IsAdmin, ← value_of_role hrole]
    cases role with
    | admin => rfl
    | _ => cases hmay
  · intro hadmin
    exact ⟨.admin, hadmin.symm ▸ UserRole.of_value .admin, by decide⟩

/-- An administrator after a call was one before it or has been saved by it. -/
theorem AccountState.isAdmin_exec {s : AccountState} {userId : UUID} {choice : AccountChoice}
    {op : AccountOp} (hadmin : (exec choice op s).2.IsAdmin userId) :
    s.IsAdmin userId ∨ ∃ row ∈ op.savedRows, row.id = userId ∧ row.IsAdmin := by
  obtain ⟨row, hrow, hadmin⟩ := hadmin
  obtain ⟨stored, hstored | ⟨hmem, hid⟩, hsame⟩ := originates_exec hrow
  · exact Or.inl ⟨stored, hstored, hsame.role_eq.symm.trans hadmin⟩
  · exact Or.inr ⟨stored, hmem, hid, hsame.role_eq.symm.trans hadmin⟩

/-- An execution that starts in a state is an assignment of the role of an administrator to a
user by another user who may assign it. -/
def GrantsAdmin (command : IdentityCommand) (before : AccountState) (userId : UUID) : Prop :=
  ∃ actorId reason, command = .account (.assignRole (some actorId) userId .admin reason) ∧
    actorId ≠ userId ∧ before.MayAssignAdmin actorId

/-- The administrators that an execution alone has read or made: those of the state before it,
and the user to whom it assigns the role. -/
structure RolesAlone (command : IdentityCommand) (before : AccountState) (log : AccountLog)
    (s : AccountState) : Prop where
  users : ∀ userId, s.IsAdmin userId → before.IsAdmin userId ∨ GrantsAdmin command before userId
  reads : ∀ row ∈ readRows log, row.IsAdmin →
    before.IsAdmin row.id ∨ GrantsAdmin command before row.id

/-- An entitled user was an administrator before, or the execution assigns the role. -/
theorem RolesAlone.of_entitled {command : IdentityCommand} {before s : AccountState}
    {log : AccountLog} (h : RolesAlone command before log s) {userId : UUID}
    (hentitled : Entitled command log userId) :
    before.IsAdmin userId ∨ GrantsAdmin command before userId := by
  rcases hentitled with ⟨row, hrow, rfl, hadmin⟩ |
    ⟨actorId, reason, hcommand, hother, row, hrow, hid, hmay⟩
  · exact h.reads row hrow hadmin
  · refine Or.inr ⟨actorId, reason, hcommand, hother, ?_⟩
    subst hid
    rcases h.reads row hrow (UserRow.mayAssignAdmin_iff.mp hmay) with hbefore | hgrants
    · obtain ⟨stored, hstored, hadmin⟩ := hbefore
      exact ⟨stored, hstored, UserRow.mayAssignAdmin_iff.mpr hadmin⟩
    · -- The execution assigns the role to one user, who is not its actor.
      obtain ⟨actorId, reason', hcommand', hother', _⟩ := hgrants
      rw [hcommand] at hcommand'
      cases hcommand'
      exact absurd rfl hother

/-- The calls of an execution alone keep the administrators. -/
theorem keepsRolesAlone (command : IdentityCommand) (before : AccountState) :
    KeepsAlone AccountState.exec (roleContract command) (RolesAlone command before) := by
  intro log s choice op h hop
  refine ⟨possible_exec command choice op s, fun userId hadmin => ?_, fun row hrow hadmin => ?_⟩
  · rcases AccountState.isAdmin_exec hadmin with hbefore | ⟨row, hrow, rfl, hsaved⟩
    · exact h.users userId hbefore
    · cases op with
      | commit statements => exact h.of_entitled (hop row hrow hsaved)
      | _ => cases hrow
  · obtain ⟨call, hcall, hread⟩ := List.mem_filterMap.mp hrow
    rcases List.mem_cons.mp hcall with rfl | hcall
    · exact h.users row.id ⟨row, lookup_of_readRow hread, hadmin⟩
    · exact h.reads row (List.mem_filterMap.mpr ⟨call, hcall, hread⟩) hadmin

/-- A request that concerns roles, with the role as it is requested. -/
inductive RoleRequest : Type where
  | register (email : Email) (plainPassword firstName lastName : String) (role : String)
  | googleLogin (claims : GoogleClaims) (tokenData : GoogleTokenData) (signupRole : Option String)
  | assignRole (actorId : Option UUID) (targetUserId : UUID) (newRole : String)
      (reason : Option SecurityReason)

namespace RoleRequest

/-- The command of a request. A role that is not one of the known values raises. -/
def command : RoleRequest → Except AccountError IdentityCommand
  | .register email plainPassword firstName lastName role => do
    let role ← UserRole.of role
    .ok (.registerAccount email plainPassword firstName lastName role)
  | .googleLogin claims tokenData signupRole => do
    let signupRole ← signupRole.mapM UserRole.of
    .ok (.googleLogin claims tokenData signupRole)
  | .assignRole actorId targetUserId newRole reason => do
    let newRole ← UserRole.of newRole
    .ok (.account (.assignRole actorId targetUserId newRole reason))

/-- The state after a request alone. -/
def run (request : RoleRequest) (choices : List AccountChoice) (s : AccountState) : AccountState :=
  match request.command with
  | .ok command => (runCommand command choices s).state
  | .error _ => s

/-- The command of a request keeps the contract about roles. -/
theorem ruled_command {request : RoleRequest} {command : IdentityCommand}
    (h : request.command = .ok command) : RoleRuled command [] command.program fun _ _ => True := by
  cases request with
  | register email plainPassword firstName lastName role =>
    obtain ⟨role, _, h⟩ := except_bind_eq_ok_iff.mp h
    cases h
    exact ruled_registerAccount email plainPassword firstName lastName role
  | googleLogin claims tokenData signupRole =>
    obtain ⟨signupRole, _, h⟩ := except_bind_eq_ok_iff.mp h
    cases h
    exact Ruled.bind (ruled_signInWithGoogle claims tokenData signupRole) fun _ _ _ _ =>
      Ruled.pure trivial
  | assignRole actorId targetUserId newRole reason =>
    obtain ⟨newRole, _, h⟩ := except_bind_eq_ok_iff.mp h
    cases h
    exact ruled_assignRole actorId targetUserId newRole reason rfl

/-- An administrator after a request was one before it, or the request assigns the role. -/
theorem isAdmin_run (request : RoleRequest) (choices : List AccountChoice) {s : AccountState}
    {userId : UUID} (hadmin : (request.run choices s).IsAdmin userId) :
    s.IsAdmin userId ∨ ∃ actorId newRole reason,
      request = .assignRole (some actorId) userId newRole reason ∧ actorId ≠ userId ∧
        s.MayAssignAdmin actorId := by
  unfold run at hadmin
  split at hadmin
  · next command hcommand =>
    have hstart : RolesAlone command s [] s := ⟨fun _ => Or.inl, fun _ h => by cases h⟩
    have halone := (Program.Follows.runAlone (keepsRolesAlone command s) (ruled_command hcommand)
      hstart choices).1
    refine (halone.users userId hadmin).imp_right fun hgrants => ?_
    obtain ⟨actorId, reason, rfl, hother, hmay⟩ := hgrants
    cases request with
    | assignRole actorId' targetUserId newRole reason' =>
      obtain ⟨role, _, h⟩ := except_bind_eq_ok_iff.mp hcommand
      cases h
      exact ⟨actorId, newRole, reason, rfl, hother, hmay⟩
    | register email plainPassword firstName lastName role =>
      obtain ⟨role, _, h⟩ := except_bind_eq_ok_iff.mp hcommand
      cases h
    | googleLogin claims tokenData signupRole =>
      obtain ⟨signupRole, _, h⟩ := except_bind_eq_ok_iff.mp hcommand
      cases h
  · exact Or.inl hadmin

end RoleRequest

/-- The state after requests that are executed one after another. Each of them may fail or stop
at any of its calls. -/
def runRequests (requests : List (RoleRequest × List AccountChoice)) (s : AccountState) :
    AccountState :=
  requests.foldl (fun s request => request.1.run request.2 s) s

end Linkapro.Identity
