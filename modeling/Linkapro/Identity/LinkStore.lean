import Linkapro.Lib.Sequential
import Linkapro.Identity.ContractRules

/-!
# Identity: the table of provider identities

The commands that link, relink and unlink provider identities, over a state that holds
the accounts together with the table of identities. A unit of work writes its own view of
this table, which becomes the stored one with the commit. A run executes such commands
one after another.
-/

namespace Linkapro.Identity

open Lib Lib.Action

/-- What a call leaves open. The password hasher never answers an unusable password. -/
structure LinkChoice extends AccountChoice where
  hash_usable : ∀ plainPassword, isPasswordUsable (answer (.hashPassword plainPassword)) = true

/-- The accounts and the provider identities. -/
structure LinkState where
  accounts : AccountState
  /-- The stored identities, in the order in which they have been created. -/
  links : Table OAuthToken.id
  /-- The identities as the open unit of work sees them. -/
  working : Table OAuthToken.id

/-- The calls that take effect outside a unit of work, or end it. -/
def AccountOp.commits : AccountOp → Bool
  | .commit _ | .bumpAuthTokenVersion _ => true
  | _ => false

namespace LinkState

/-- `get_by_provider_and_user`. -/
def getByProviderUser (s : LinkState) (provider : OAuthProvider) (providerUserId : String) :
    Option OAuthToken :=
  s.working.rows.find? fun link => link.provider = provider ∧ link.providerUserId = providerUserId

/-- `get_by_user_and_provider`. -/
def getByUser (s : LinkState) (userId : UUID) (provider : OAuthProvider) : Option OAuthToken :=
  s.working.rows.find? fun link => link.userId = userId ∧ link.provider = provider

/-- `save` of an identity. No two identities share their provider and the user there. -/
def saveLink (s : LinkState) (token : OAuthToken) : Except AccountError LinkState :=
  if 255 < token.providerUserId.length then
    .error (.database "value too long for type character varying")
  else if s.working.rows.any fun other => other.provider = token.provider ∧
      other.providerUserId = token.providerUserId ∧ other.id ≠ token.id then
    .error (.database "duplicate key value violates unique constraint")
  else .ok { s with working := s.working.upsert token }

/-- The commit of a unit of work. The user of every identity has to exist. -/
def commit (s : LinkState) (statements : List AccountStatement) :
    Except AccountError LinkState := do
  let accounts ← s.accounts.applyAll statements
  if s.working.rows.all fun link => (accounts.users.lookup link.userId).isSome then
    .ok { accounts, links := s.working, working := s.working }
  else .error (.database "insert or update on table violates foreign key constraint")

/-- The effect of a call on a service without a fault. -/
def answerCall (choice : LinkChoice) (s : LinkState) :
    (call : ServiceCall) → Except AccountError (call.Ret × LinkState)
  | .getOAuthByProviderUser provider providerUserId =>
    .ok (s.getByProviderUser provider providerUserId, s)
  | .getOAuthByUser userId provider => .ok (s.getByUser userId provider, s)
  | .saveOAuthToken token => (s.saveLink token).map fun after => ((), after)
  | .uuid4 =>
    if (s.working.lookup (choice.answer .uuid4)).isSome then
      .error (.database "duplicate key value")
    else .ok (choice.answer .uuid4, s)
  | call => .ok (choice.answer call, s)

/-- The effect of a call without a fault. -/
def effect (choice : LinkChoice) (s : LinkState) :
    (op : AccountOp) → Except AccountError (op.Ret × LinkState)
  | .service call => s.answerCall choice call
  | .commit statements => (s.commit statements).map fun after => ((), after)
  | op =>
    (AccountState.effect choice.toAccountChoice s.accounts op).map fun outcome =>
      (outcome.1, { s with accounts := outcome.2 })

/-- A call takes effect or fails. What has failed inside a unit of work is rolled back. -/
def exec : Exec LinkState LinkChoice (Raising AccountError AccountOp.Ret) := fun choice op s =>
  match effect choice s op, choice.fault with
  | .error error, _ => (.error error, s)
  | .ok (answer, after), none => (.ok answer, after)
  | .ok (_, after), some fault =>
    (.error fault.error, if fault.applied ∧ op.commits then after else s)

end LinkState

/-- The exceptions of an unlinking, with their messages. -/
inductive UnlinkError : Type where
  | account (error : AccountError)
  | wouldRemoveOnlyAuthenticationMethod (message : String)

/-- One call of an unlinking. -/
inductive UnlinkOp : Type where
  | getById (userId : UUID)
  | listByUser (userId : UUID)
  | deleteForUser (userId : UUID) (provider : OAuthProvider)
deriving DecidableEq

/-- The answer of each call. -/
def UnlinkOp.Ret : UnlinkOp → Type
  | .getById _ => Option UserRow
  | .listByUser _ => List OAuthToken
  | .deleteForUser _ _ => Unit

/-- A program of an unlinking. -/
abbrev UnlinkAction (α : Type) : Type := Action UnlinkError UnlinkOp.Ret α

/-- One call of an unlinking. -/
abbrev unlinkQuery (op : UnlinkOp) : UnlinkAction op.Ret := perform op

/-- `delete_for_user` as a call. -/
def deleteIdentities (userId : UUID) (provider : OAuthProvider) : UnlinkAction Unit :=
  unlinkQuery (.deleteForUser userId provider)

/-- `UnlinkOAuthProviderUseCase.execute` after the identities have been listed. The deletion takes
all identities of the provider. -/
def unlinkListed (user : User) (provider : OAuthProvider) (linkedIdentities : List OAuthToken) :
    UnlinkAction Unit :=
  match linkedIdentities.find? fun identity => identity.provider = provider with
  | none => pure ()
  | some _ =>
    if user.passwordHash.isNone ∧ linkedIdentities.length ≤ 1 then
      throw (.wouldRemoveOnlyAuthenticationMethod "Cannot unlink the only authentication method")
    else deleteIdentities user.id provider

/-- The rest of `UnlinkOAuthProviderUseCase.execute` after the row has been looked up. -/
def unlinkFound (provider : OAuthProvider) (row : Option UserRow) : UnlinkAction Unit :=
  match row.map UserRow.toDomain with
  | none => throw (.account (.userNotFound "User not found"))
  | some (.error error) => throw (.account error)
  | some (.ok user) => do
    let linkedIdentities : List OAuthToken ← unlinkQuery (.listByUser user.id)
    unlinkListed user provider linkedIdentities

/-- `UnlinkOAuthProviderUseCase.execute`. -/
def unlinkOAuthProvider (userId : UUID) (provider : OAuthProvider) : UnlinkAction Unit := do
  let row : Option UserRow ← unlinkQuery (.getById userId)
  unlinkFound provider row

namespace LinkState

/-- The identities of a user. -/
def listByUser (s : LinkState) (userId : UUID) : List OAuthToken :=
  s.links.rows.filter fun link => link.userId = userId

/-- `delete_for_user`. -/
def deleteForUser (s : LinkState) (userId : UUID) (provider : OAuthProvider) : LinkState :=
  { s with links := s.links.filter fun link => ¬ (link.userId = userId ∧ link.provider = provider) }

/-- The effect of a call of an unlinking without a fault. -/
def unlinkEffect (s : LinkState) : (op : UnlinkOp) → op.Ret × LinkState
  | .getById userId => (s.accounts.users.lookup userId, s)
  | .listByUser userId => (s.listByUser userId, s)
  | .deleteForUser userId provider => ((), s.deleteForUser userId provider)

/-- A call of an unlinking takes effect or fails. -/
def unlinkExec : Exec LinkState (Option AccountFault) (Raising UnlinkError UnlinkOp.Ret) :=
  fun fault op s =>
    match fault with
    | none => (.ok (s.unlinkEffect op).1, (s.unlinkEffect op).2)
    | some fault =>
      (.error (.account fault.error), if fault.applied then (s.unlinkEffect op).2 else s)

end LinkState

/-- One command about provider identities or passwords. -/
inductive LinkCommand : Type where
  | googleLogin (claims : GoogleClaims) (tokenData : GoogleTokenData)
      (signupRole : Option UserRole)
  | confirmOAuthRelink (cmd : ConfirmOAuthRelinkCommand)
  | setupPassword (userId : UUID) (plainPassword : String)
  | changePassword (userId : UUID) (currentPassword newPassword : String)
  | resetPassword (cmd : ResetPasswordCommand)

/-- The command of the component. -/
def LinkCommand.command : LinkCommand → IdentityCommand
  | .googleLogin claims tokenData signupRole => .googleLogin claims tokenData signupRole
  | .confirmOAuthRelink cmd => .confirmOAuthRelink cmd
  | .setupPassword userId plainPassword => .setupPassword userId plainPassword
  | .changePassword userId currentPassword newPassword =>
    .account (.changePassword userId currentPassword newPassword)
  | .resetPassword cmd => .resetPassword cmd

/-- One execution of a run. It stops where its choices end. -/
inductive LinkStep : Type where
  | command (command : LinkCommand) (choices : List LinkChoice)
  | unlink (userId : UUID) (provider : OAuthProvider) (faults : List (Option AccountFault))

/-- The state after an execution. An open unit of work is gone with it. -/
def LinkStep.apply (s : LinkState) : LinkStep → LinkState
  | .command cmd choices =>
    (runAlone LinkState.exec choices cmd.command.program.run []
      { s with working := s.links }).state
  | .unlink userId provider faults =>
    (runAlone LinkState.unlinkExec faults (unlinkOAuthProvider userId provider).run [] s).state

/-- The state after executions one after another. -/
def runLinkSteps (steps : List LinkStep) (s : LinkState) : LinkState := steps.foldl LinkStep.apply s

namespace LinkState

/-- The user has a password that can be checked. -/
def HasPassword (s : LinkState) (userId : UUID) : Prop :=
  ((s.accounts.users.lookup userId).bind UserRow.usablePassword).isSome = true

/-- The user has a provider identity. -/
def HasLink (s : LinkState) (userId : UUID) : Prop := ∃ link ∈ s.links.rows, link.userId = userId

/-- Every account has a way to authenticate. -/
def AllCanAuthenticate (s : LinkState) : Prop :=
  ∀ row ∈ s.accounts.users.rows, s.HasPassword row.id ∨ s.HasLink row.id

instance (s : LinkState) (userId : UUID) : Decidable (s.HasPassword userId) :=
  inferInstanceAs (Decidable (_ = _))

instance (s : LinkState) (userId : UUID) : Decidable (s.HasLink userId) :=
  inferInstanceAs (Decidable (∃ _ ∈ _, _))

instance (s : LinkState) : Decidable s.AllCanAuthenticate :=
  inferInstanceAs (Decidable (∀ _ ∈ _, _))

end LinkState

namespace LinkStep

/-- A step takes no identity from an account that would keep no way to authenticate. -/
def LeavesAWay (s : LinkState) : LinkStep → Prop
  | .command (.confirmOAuthRelink cmd) _ =>
    ∀ link ∈ s.links.rows, link.provider = cmd.provider →
      link.providerUserId = cmd.providerUserId → link.userId ≠ cmd.targetUserId →
        s.HasPassword link.userId ∨
          ∃ other ∈ s.links.rows, other.userId = link.userId ∧ other.id ≠ link.id
  | .command _ _ => True
  | .unlink userId provider _ =>
    s.HasPassword userId ∨ (s.listByUser userId).length ≤ 1 ∨
      ∃ link ∈ s.links.rows, link.userId = userId ∧ link.provider ≠ provider

instance (s : LinkState) (step : LinkStep) : Decidable (step.LeavesAWay s) := by
  unfold LeavesAWay
  split
  all_goals infer_instance

end LinkStep

/-- Every step of a run leaves the accounts a way to authenticate. -/
def StepsLeaveAWay : List LinkStep → LinkState → Prop
  | [], _ => True
  | step :: steps, s => step.LeavesAWay s ∧ StepsLeaveAWay steps (step.apply s)

instance StepsLeaveAWay.decidable :
    ∀ (steps : List LinkStep) (s : LinkState), Decidable (StepsLeaveAWay steps s)
  | [], _ => isTrue trivial
  | step :: steps, s =>
    have := StepsLeaveAWay.decidable steps (step.apply s)
    inferInstanceAs (Decidable (step.LeavesAWay s ∧ StepsLeaveAWay steps (step.apply s)))

end Linkapro.Identity
