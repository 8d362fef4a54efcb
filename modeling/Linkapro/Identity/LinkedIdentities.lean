import Linkapro.Identity.LinkStore

/-!
# Identity: every account keeps a way to authenticate

An account authenticates with a password or with a provider identity. No command takes a
password away, and a login links an account before it commits it. Only the relinking
takes an identity from an account without asking what this account is left with.
-/

namespace Linkapro.Identity

open Lib Lib.Action

/-- The identity that a call has saved. -/
def savedToken : AccountCall → Option OAuthToken
  | ⟨.service (.saveOAuthToken token), .ok _⟩ => some token
  | _ => none

/-- The identities that an execution has saved, newest first. -/
def savedTokens (log : AccountLog) : List OAuthToken := log.filterMap savedToken

/-- The identity that a call has read. -/
def readLink : AccountCall → Option OAuthToken
  | ⟨.service (.getOAuthByProviderUser _ _), .ok link⟩ => link
  | ⟨.service (.getOAuthByUser _ _), .ok link⟩ => link
  | _ => none

/-- The identities that an execution has read. -/
def readLinks (log : AccountLog) : List OAuthToken := log.filterMap readLink

/-- The command gives an identity to a user. -/
def Relinks (command : IdentityCommand) (link : OAuthToken) (userId : UUID) : Prop :=
  ∃ cmd, command = .confirmOAuthRelink cmd ∧ link.provider = cmd.provider ∧
    link.providerUserId = cmd.providerUserId ∧ userId = cmd.targetUserId

/-- An identity may be saved that is new, or that has been read and keeps its user, or that the
command relinks. -/
def Linkable (command : IdentityCommand) (log : AccountLog) (token : OAuthToken) : Prop :=
  ⟨.service .uuid4, (.ok token.id : Except AccountError UUID)⟩ ∈ log ∨
    ∃ link ∈ readLinks log, token.id = link.id ∧
      (token.userId = link.userId ∨ Relinks command link token.userId)

/-- The row of a user may be saved without a password: the execution has read it so, or it has
saved an identity of the user. -/
def Excused (log : AccountLog) (userId : UUID) : Prop :=
  (∃ row ∈ readRows log, row.id = userId ∧ row.usablePassword = none) ∨
    ∃ token ∈ savedTokens log, token.userId = userId

/-- Only excused users are saved without a password. -/
def ExcusedSaves (log : AccountLog) (statements : List AccountStatement) : Prop :=
  ∀ row ∈ statements.filterMap AccountStatement.savedRow, row.usablePassword = none →
    Excused log row.id

/-- An aggregate that may be saved with its password or without one. -/
def ExcusedUser (log : AccountLog) (user : User) : Prop :=
  user.usablePassword = none → Excused log user.id

/-- The contract of an execution about the ways to authenticate. -/
def wayContract (command : IdentityCommand) : Contract (Raising AccountError AccountOp.Ret) where
  allowed log op :=
    match op with
    | .commit statements => ExcusedSaves log statements
    | .bumpAuthTokenVersion _ => False
    | .service (.saveOAuthToken token) => savedTokens log = [] ∧ Linkable command log token
    | _ => True
  possible
    | ⟨.getById userId, .ok (some row)⟩ => row.id = userId
    | ⟨.service (.getOAuthByProviderUser provider providerUserId), .ok (some link)⟩ =>
      link.provider = provider ∧ link.providerUserId = providerUserId
    | ⟨.service (.hashPassword _), .ok encoded⟩ => isPasswordUsable encoded = true
    | _ => True

instance (command : IdentityCommand) : Admits (wayContract command) where
  plain log op hplain := by
    cases op with
    | commit statements => cases hplain
    | bumpAuthTokenVersion userId => cases hplain
    | service call =>
      cases call with
      | saveOAuthToken token => cases hplain
      | _ => trivial
    | _ => trivial
  keyed _ _ h := h

/-- A part of an execution that keeps the contract about the ways to authenticate. -/
abbrev WayRuled {α : Type} (command : IdentityCommand) (log : AccountLog)
    (action : AccountAction α) (P : AccountLog → α → Prop) : Prop :=
  Ruled List.IsSuffix (wayContract command) log action P

/-- Plain calls save no identity. -/
theorem savedTokens_of_plain {log log' : AccountLog} (h : PlainExtension log log') :
    savedTokens log' = savedTokens log := by
  obtain ⟨calls, rfl, hcalls⟩ := h
  have hnone : calls.filterMap savedToken = [] := by
    refine List.filterMap_eq_nil_iff.mpr fun call hcall => ?_
    have hplain := hcalls call hcall
    unfold savedToken
    split
    · cases hplain
    · rfl
  rw [savedTokens, List.filterMap_append, hnone, List.nil_append, savedTokens]

section Handlers

variable {command : IdentityCommand} {log log' : AccountLog} {user : User}

/-- Later calls take no excuse away. -/
theorem Excused.mono {userId : UUID} (h : Excused log userId) (hlog : log <:+ log') :
    Excused log' userId := by
  rcases h with ⟨row, hrow, h⟩ | ⟨token, htoken, h⟩
  · exact Or.inl ⟨row, mem_readRows_mono hlog hrow, h⟩
  · exact Or.inr ⟨token, (hlog.filterMap savedToken).subset htoken, h⟩

theorem ExcusedSaves.mono {statements : List AccountStatement} (h : ExcusedSaves log statements)
    (hlog : log <:+ log') : ExcusedSaves log' statements :=
  fun row hrow hnone => (h row hrow hnone).mono hlog

theorem ExcusedUser.mono (h : ExcusedUser log user) (hlog : log <:+ log') :
    ExcusedUser log' user :=
  fun hnone => (h hnone).mono hlog

theorem Linkable.mono {token : OAuthToken} (h : Linkable command log token) (hlog : log <:+ log') :
    Linkable command log' token := by
  rcases h with hdrawn | ⟨link, hlink, h⟩
  · exact Or.inl (hlog.subset hdrawn)
  · exact Or.inr ⟨link, (hlog.filterMap readLink).subset hlink, h⟩

/-- An aggregate that has been read has the password of its row. -/
theorem ExcusedUser.of_read {row : UserRow} (hrow : row ∈ readRows log)
    (hdomain : row.toDomain = .ok user) : ExcusedUser log user := by
  have hholds := UserRow.holds_of_toDomain hdomain
  intro hnone
  exact Or.inl ⟨row, hrow, hholds.id_eq.symm, hholds.password_eq.symm.trans hnone⟩

theorem excusedSaves_nil : ExcusedSaves log [] := fun _ h => by cases h

theorem Ruled.commitExcused {statements : List AccountStatement} (h : ExcusedSaves log statements) :
    WayRuled command log (Identity.query (.commit statements)) fun _ _ => True :=
  (Ruled.call h fun _ => List.suffix_cons _ _).mono fun _ _ _ _ => trivial

/-- A save inside a unit of work keeps its statements about excused users. -/
theorem ruled_saveExcused {pending : List AccountStatement} (hpending : ExcusedSaves log pending)
    (huser : ExcusedUser log user) :
    WayRuled command log (savePending pending user) fun log' saved =>
      PlainExtension log log' ∧ ExcusedUser log' saved.user ∧
        ExcusedSaves log' saved.statements := by
  refine ruled_savePending.of_plain.mono fun log' saved hlog' hsaved => ⟨hsaved.1, ?_⟩
  obtain ⟨row, hholds, hdomain, hrows⟩ := hsaved.2.savedRows
  have hexcused (hnone : row.usablePassword = none) : Excused log' row.id := by
    rw [← hholds.id_eq]
    exact (huser (hholds.password_eq.trans hnone)).mono hlog'
  constructor
  · have hread := UserRow.holds_of_toDomain hdomain
    intro hnone
    rw [hread.id_eq]
    exact hexcused (hread.password_eq.symm.trans hnone)
  · intro other hother
    rw [hrows, List.mem_append] at hother
    rcases hother with hother | hother
    · exact (hpending.mono hlog') other hother
    · rw [List.mem_singleton.mp hother]
      exact hexcused

/-- A new password is usable. -/
theorem ruled_hashPassword {plainPassword : String} {f : PasswordHash → AccountAction Unit}
    (hf : ∀ log' (hash : PasswordHash), log <:+ log' → isPasswordUsable hash.value = true →
      WayRuled command log' (f hash) fun _ _ => True) :
    WayRuled command log
      (do
        let encoded : String ← serve (.hashPassword plainPassword)
        let passwordHash ← orRaise (PasswordHash.of encoded)
        f passwordHash) fun _ _ => True := by
  refine Ruled.bind (Ruled.query rfl) fun log' (encoded : String) hlog hencoded => ?_
  refine Ruled.bind Ruled.orRaise fun log'' hash hlog' hhash => ?_
  have husable : isPasswordUsable encoded = true := hencoded.2
  exact hf log'' hash (hlog.trans hlog') (PasswordHash.value_of hhash.2 ▸ husable)

/-- An account with a new password may be saved. -/
theorem excusedUser_changePassword {hash : PasswordHash}
    (husable : isPasswordUsable hash.value = true) :
    ExcusedUser log (user.changePassword hash) := by
  intro hnone
  have hsome : (user.changePassword hash).usablePassword = some hash.value :=
    Option.filter_some_pos husable
  cases hsome.symm.trans hnone

theorem ruled_changePasswordUnitOfWork {newPassword reason : String} {hash : PasswordHash}
    {history : List PasswordHash} (husable : isPasswordUsable hash.value = true) :
    WayRuled command log (changePasswordUnitOfWork user newPassword hash history reason)
      fun _ _ => True := by
  refine Ruled.bind ruled_ensureNotReused fun _ _ _ _ => ?_
  refine Ruled.bind (ruled_saveExcused excusedSaves_nil (excusedUser_changePassword husable))
    fun _ saved _ hsaved => ?_
  refine Ruled.bind ruled_revokeAllSessions fun _ _ hlog _ => ?_
  refine Ruled.bind ruled_dispatchEvents fun _ _ hlog' _ => ?_
  exact Ruled.commitExcused (hsaved.2.2.mono (hlog.trans hlog'))

theorem ruled_setupPassword (userId : UUID) (plainPassword : String) :
    WayRuled command log (setupPassword userId plainPassword) fun _ _ => True := by
  refine ruled_getById_foundOr fun _ user row _ _ _ _ => ?_
  refine Ruled.bind Ruled.orRaise fun _ _ _ _ => ?_
  refine Ruled.bind ruled_getPasswordHistory fun _ history _ _ => ?_
  exact ruled_hashPassword fun _ hash _ husable => ruled_changePasswordUnitOfWork husable

theorem ruled_changePassword (userId : UUID) (currentPassword newPassword : String) :
    WayRuled command log (changePassword userId currentPassword newPassword) fun _ _ => True := by
  refine ruled_getById_foundOr fun log' user row _ _ _ _ => ?_
  have hverify : WayRuled command log' (verifyCurrentPassword user currentPassword)
      fun _ _ => True := by
    unfold verifyCurrentPassword
    split
    · exact Ruled.throw
    · refine Ruled.bind (Ruled.query rfl) fun _ matching _ _ => ?_
      exact Ruled.ite (fun _ => Ruled.pure trivial) fun _ => Ruled.throw
  refine Ruled.bind hverify fun _ _ _ _ => ?_
  refine Ruled.bind Ruled.orRaise fun _ _ _ _ => ?_
  refine Ruled.bind ruled_getPasswordHistory fun _ history _ _ => ?_
  exact ruled_hashPassword fun _ hash _ husable => ruled_changePasswordUnitOfWork husable

theorem ruled_resetPassword (cmd : ResetPasswordCommand) :
    WayRuled command log (resetPassword cmd) fun _ _ => True := by
  refine Ruled.bind (Ruled.query rfl) fun _ (now : Datetime) _ _ => ?_
  refine Ruled.bind (Ruled.query rfl) fun _ verification _ _ => ?_
  refine Ruled.bind Ruled.presentOr fun log' token _ _ => ?_
  have hensure : WayRuled command log' (ensureResetTokenUsable token now) fun _ _ => True := by
    unfold ensureResetTokenUsable
    split
    · exact Ruled.pure trivial
    · refine Ruled.bind (P := fun _ _ => True) ?_ fun _ _ _ _ => Ruled.throw
      exact Ruled.ite (fun _ => (Ruled.query rfl).mono fun _ _ _ _ => trivial)
        fun _ => Ruled.pure trivial
  refine Ruled.bind hensure fun _ _ _ _ => ?_
  refine Ruled.bind (Ruled.query rfl) fun _ locked _ _ => ?_
  refine Ruled.ite (fun _ => Ruled.throw) fun _ => ?_
  refine Ruled.bind ruled_getById fun _ found _ _ => ?_
  refine Ruled.bind Ruled.presentOr fun log'' user _ _ => ?_
  refine Ruled.bind Ruled.orRaise fun log₃ _ _ _ => ?_
  have hhistory : WayRuled command log₃ (resetPasswordHistory user) fun _ _ => True := by
    refine Ruled.bind (Ruled.query rfl) fun _ former _ _ => ?_
    exact Ruled.bind Ruled.orRaise fun _ _ _ _ => Ruled.pure trivial
  refine Ruled.bind hhistory fun _ history _ _ => ?_
  refine ruled_hashPassword fun _ hash _ husable => ?_
  refine Ruled.bind ruled_ensureNotReused fun _ _ _ _ => ?_
  refine Ruled.bind (ruled_saveExcused excusedSaves_nil (excusedUser_changePassword husable))
    fun _ saved _ hsaved => ?_
  refine Ruled.bind ruled_dispatchEvents fun _ _ hlog _ => ?_
  refine Ruled.bind ruled_revokeAllSessions fun _ _ hlog' _ => ?_
  refine Ruled.bind (Ruled.query rfl) fun _ _ hlog'' _ => ?_
  refine Ruled.bind (Ruled.query rfl) fun _ _ hlog₃ _ => ?_
  exact Ruled.commitExcused
    (hsaved.2.2.mono (((hlog.trans hlog').trans hlog'').trans hlog₃))

/-- An identity that has been read keeps its user when its tokens are updated. -/
theorem linkable_update {cmd : GoogleLoginCommand} {link : OAuthToken} (h : link ∈ readLinks log) :
    Linkable command log (cmd.update link) :=
  Or.inr ⟨link, h, rfl, Or.inl rfl⟩

/-- What a login has settled: its account, its pending statements and the identity that it is
going to save, if it has not saved one. -/
structure WayLink (command : IdentityCommand) (log : AccountLog) (linked : LinkedAccount) :
    Prop where
  user : ExcusedUser log linked.user
  pending : ExcusedSaves log linked.pending
  token : ∀ token, linked.oauthTokenToSave = some token →
    savedTokens log = [] ∧ Linkable command log token

theorem WayLink.mono {linked : LinkedAccount} (h : WayLink command log linked)
    (hlog : PlainExtension log log') : WayLink command log' linked where
  user := h.user.mono (Frame.suffix hlog)
  pending := h.pending.mono (Frame.suffix hlog)
  token token htoken := by
    obtain ⟨hnone, hlinkable⟩ := h.token token htoken
    exact ⟨(savedTokens_of_plain hlog).trans hnone, hlinkable.mono (Frame.suffix hlog)⟩

theorem way_recordLink {provider : OAuthProvider} {pending : List AccountStatement}
    {oauthTokenToSave : Option OAuthToken} (hpending : ExcusedSaves log pending)
    (huser : ExcusedUser log user)
    (htoken : ∀ token, oauthTokenToSave = some token →
      savedTokens log = [] ∧ Linkable command log token) :
    WayRuled command log (recordLink provider pending user oauthTokenToSave)
      (WayLink command) := by
  have hlinked : ExcusedUser log (user.linkOAuthProvider provider.value) := huser
  refine Ruled.bind (ruled_saveExcused hpending hlinked) fun log₁ saved hlog₁ hsaved => ?_
  refine Ruled.bind ruled_dispatchEvents.of_plain fun log₂ _ hlog₂ hdispatch => Ruled.pure ?_
  refine ⟨hlinked.mono (hlog₁.trans hlog₂), hsaved.2.2.mono hlog₂, fun token htoken' => ?_⟩
  obtain ⟨hnone, hlinkable⟩ := htoken token htoken'
  refine ⟨?_, hlinkable.mono (hlog₁.trans hlog₂)⟩
  rw [savedTokens_of_plain hdispatch.1, savedTokens_of_plain hsaved.1, hnone]

/-- An account that a login creates is linked before it is committed. -/
theorem way_createLinkedAccount (cmd : GoogleLoginCommand) (hnone : savedTokens log = []) :
    WayRuled command log (createLinkedAccount cmd) (WayLink command) := by
  refine Ruled.bind (Ruled.query rfl).of_plain fun log₁ id _ hid => ?_
  refine Ruled.bind Ruled.presentOr fun log₂ role _ hrole => ?_
  refine Ruled.bind Ruled.orRaise fun log₃ newUser _ huser => ?_
  refine Ruled.bind ruled_savePending.of_plain fun log₄ saved _ hsaved => ?_
  refine Ruled.bind ruled_dispatchEvents.of_plain fun log₅ _ _ hdispatch => ?_
  refine Ruled.bind (Ruled.query rfl).of_plain fun log₆ (tokenId : UUID) hlog₆ htokenId => ?_
  have hsaved₆ : savedTokens log₆ = [] := by
    rw [savedTokens_of_plain htokenId.1, savedTokens_of_plain hdispatch.1,
      savedTokens_of_plain hsaved.1, huser.1, hrole.1, savedTokens_of_plain hid.1, hnone]
  have hallowed : (wayContract command).allowed log₆
      (.service (.saveOAuthToken (cmd.oauthToken tokenId saved.user.id))) :=
    ⟨hsaved₆, Or.inl htokenId.2.1⟩
  refine Ruled.bind (Ruled.call hallowed fun _ => List.suffix_cons _ _) fun log₇ _ _ hcall => ?_
  obtain ⟨row, hholds, hdomain, hrows⟩ := hsaved.2.savedRows
  have hread := UserRow.holds_of_toDomain hdomain
  have hexcused : Excused log₇ saved.user.id := by
    refine Or.inr ⟨cmd.oauthToken tokenId saved.user.id, ?_, rfl⟩
    rw [hcall.1]
    exact List.mem_cons_self
  refine way_recordLink (fun other hother _ => ?_) (fun _ => hexcused) fun _ h => by cases h
  rw [hrows, List.filterMap_nil, List.nil_append, List.mem_singleton] at hother
  rw [hother, ← hread.id_eq]
  exact hexcused

theorem way_followDecision (cmd : GoogleLoginCommand) (decision : OAuthLinkingDecision)
    {account : Option User} {providerIdentityLink existingUserLink : Option OAuthToken}
    (hnone : savedTokens log = [])
    (haccount : ∀ user, account = some user → ExcusedUser log user)
    (hprovider : ∀ link, providerIdentityLink = some link → link ∈ readLinks log)
    (hexisting : ∀ link, existingUserLink = some link → link ∈ readLinks log) :
    WayRuled command log
      (followDecision cmd decision account providerIdentityLink existingUserLink)
      (WayLink command) := by
  unfold followDecision
  split
  · exact way_createLinkedAccount cmd hnone
  · exact way_createLinkedAccount cmd hnone
  · exact Ruled.throw
  · refine Ruled.pure ⟨haccount _ rfl, excusedSaves_nil, fun token htoken => ⟨hnone, ?_⟩⟩
    obtain ⟨link, hlink, rfl⟩ := Option.map_eq_some_iff.mp htoken
    exact linkable_update (hexisting link hlink)
  · refine Ruled.bind ruled_linkFor.of_plain fun log₁ token hlog₁ htoken => ?_
    refine way_recordLink excusedSaves_nil ((haccount _ rfl).mono hlog₁) fun token' htoken' => ?_
    cases htoken'
    refine ⟨(savedTokens_of_plain htoken.1).trans hnone, ?_⟩
    rcases htoken.2 with hfound | ⟨_, _, hdrawn⟩
    · exact linkable_update ((hlog₁.filterMap readLink).subset (hprovider token hfound))
    · exact Or.inl hdrawn

theorem way_finishGoogleLogin {linked : LinkedAccount} (hlinked : WayLink command log linked)
    (decision : AuthenticationDecision) :
    WayRuled command log (finishGoogleLogin linked decision) fun _ _ => True := by
  have hlink : WayRuled command log
      (linked.oauthTokenToSave.toList.forM fun token => serve (.saveOAuthToken token))
      fun _ _ => True := by
    cases htoken : linked.oauthTokenToSave with
    | none => exact Ruled.pure trivial
    | some token =>
      refine Ruled.bind (Ruled.call (hlinked.token token htoken) fun _ => List.suffix_cons _ _)
        fun _ _ _ _ => Ruled.pure trivial
  unfold finishGoogleLogin
  split
  · refine Ruled.bind hlink fun _ _ hlog _ => ?_
    refine Ruled.bind (Ruled.commitExcused (hlinked.pending.mono hlog)) fun _ _ _ _ => ?_
    exact Ruled.pure trivial
  · refine Ruled.bind hlink fun _ _ hlog _ => ?_
    refine Ruled.bind (Ruled.query rfl) fun log₂ (now : Datetime) hlog₂ _ => ?_
    have hlater := hlog.trans hlog₂
    have hlogin : ExcusedUser log₂ (linked.user.recordLogin now) := hlinked.user.mono hlater
    refine Ruled.bind (ruled_saveExcused (hlinked.pending.mono hlater) hlogin)
      fun _ saved _ hsaved => ?_
    refine Ruled.bind ruled_dispatchEvents fun _ _ hlog₄ _ => ?_
    refine Ruled.bind (Ruled.commitExcused (hsaved.2.2.mono hlog₄)) fun _ _ _ _ => ?_
    exact Ruled.pure trivial
  · exact Ruled.throw

/-- An identity that a query has found has been read. -/
theorem mem_readLinks {call : AccountCall} {link : OAuthToken} (h : call ∈ log)
    (hread : readLink call = some link) : link ∈ readLinks log :=
  List.mem_filterMap.mpr ⟨call, h, hread⟩

/-- A provider login keeps passwords and users of identities, or links a new account. -/
theorem way_signInWithGoogle (claims : GoogleClaims) (tokenData : GoogleTokenData)
    (signupRole : Option UserRole) (hnone : savedTokens log = []) :
    WayRuled command log (signInWithGoogle claims tokenData signupRole) fun _ _ => True := by
  refine Ruled.bind Ruled.orRaise fun log₁ info _ hinfo => ?_
  refine Ruled.bind (Ruled.query rfl).of_plain fun log₂ now _ hnow => ?_
  refine Ruled.bind Ruled.orRaise fun log₃ cmd _ hcmd => ?_
  refine Ruled.ite (fun _ => Ruled.throw) fun _ => ?_
  refine Ruled.bind ruled_getByEmail.of_plain fun log₄ account _ haccount => ?_
  refine Ruled.bind (Ruled.query rfl).of_plain
    fun log₅ (providerLink : Option OAuthToken) hlog₅ hprovider => ?_
  have hexisting : Ruled PlainExtension (wayContract command) log₅
      (existingLink cmd.identity.provider account)
      fun log' link => ∀ token, link = some token → token ∈ readLinks log' := by
    cases account with
    | none => exact Ruled.pure fun _ h => by cases h
    | some user =>
      refine (Ruled.query rfl).mono fun log' link _ hlink token htoken => ?_
      exact mem_readLinks hlink.1 htoken
  refine Ruled.bind hexisting.of_plain fun log₆ existingUserLink hlog₆ hexisting => ?_
  refine Ruled.bind Ruled.orRaise fun log₇ decision _ hdecision => ?_
  obtain ⟨rfl, _⟩ := hdecision
  have hsaved : savedTokens log₇ = [] := by
    rw [savedTokens_of_plain hexisting.1, savedTokens_of_plain hprovider.1,
      savedTokens_of_plain haccount.1, hcmd.1, savedTokens_of_plain hnow.1, hinfo.1, hnone]
  refine Ruled.bind (way_followDecision cmd decision hsaved (fun user huser => ?_)
    (fun link hlink => ?_) hexisting.2) fun log₈ linked _ hlinked => ?_
  · obtain ⟨row, hrow, hdomain⟩ := haccount.2 user huser
    exact (ExcusedUser.of_read hrow hdomain).mono (hlog₅.trans hlog₆)
  · exact (hlog₆.filterMap readLink).subset (mem_readLinks hprovider.2.1 hlink)
  · refine Ruled.bind ruled_evaluateOAuthLogin.of_plain fun log₉ login _ hlogin => ?_
    exact way_finishGoogleLogin (hlinked.mono hlogin.1) login

/-- A relinking saves the identity that it has read, for the user of its command. -/
theorem way_confirmOAuthRelink (cmd : ConfirmOAuthRelinkCommand) (hnone : savedTokens log = [])
    (hcommand : command = .confirmOAuthRelink cmd) :
    WayRuled command log (confirmOAuthRelink cmd) fun _ _ => True := by
  refine Ruled.bind ruled_getById.of_plain fun log₁ found _ hfound => ?_
  refine Ruled.bind Ruled.foundOr fun log₂ account _ haccount => ?_
  obtain ⟨rfl, haccount⟩ := haccount
  obtain ⟨row, hrow, hid, hdomain⟩ := hfound.2 account haccount
  refine Ruled.bind (Ruled.query rfl).of_plain
    fun log₃ (link : Option OAuthToken) hlog₃ hlink => ?_
  refine Ruled.bind Ruled.presentOr fun log₄ identity _ hidentity => ?_
  obtain ⟨rfl, rfl⟩ := hidentity
  have hread : identity ∈ readLinks log₄ := mem_readLinks hlink.2.1 rfl
  have hkey : identity.provider = cmd.provider ∧ identity.providerUserId = cmd.providerUserId :=
    hlink.2.2
  refine Ruled.bind (Ruled.query rfl).of_plain
    fun log₅ (existing : Option OAuthToken) hlog₅ hexisting => ?_
  refine Ruled.bind Ruled.orRaise fun log₆ decision _ hdecision => ?_
  obtain ⟨rfl, _⟩ := hdecision
  refine Ruled.ite (fun _ => Ruled.throw) fun _ => ?_
  refine Ruled.ite (fun _ => Ruled.throw) fun _ => ?_
  refine Ruled.bind (Ruled.query rfl).of_plain fun log₇ (granted : Bool) hlog₇ hgranted => ?_
  refine Ruled.ite (fun _ => ?_) fun _ => Ruled.throw
  refine Ruled.bind Ruled.orRaise fun log₈ token _ htoken => ?_
  obtain ⟨rfl, htoken⟩ := htoken
  have hlinked : ExcusedUser log₈ (account.linkOAuthProvider cmd.provider.value) :=
    (ExcusedUser.of_read hrow hdomain).mono ((hlog₃.trans hlog₅).trans hlog₇)
  refine Ruled.bind (ruled_saveExcused excusedSaves_nil hlinked) fun log₉ saved hlog₉ hsaved => ?_
  have hnone₉ : savedTokens log₉ = [] := by
    rw [savedTokens_of_plain hsaved.1, savedTokens_of_plain hgranted.1,
      savedTokens_of_plain hexisting.1, savedTokens_of_plain hlink.1,
      savedTokens_of_plain hfound.1, hnone]
  have hlinkable : Linkable command log₉ token := by
    refine Or.inr ⟨identity, ?_, ?_⟩
    · exact (((hlog₅.trans hlog₇).trans hlog₉).filterMap readLink).subset hread
    · have haccountId : account.id = cmd.targetUserId :=
        (UserRow.holds_of_toDomain hdomain).id_eq.trans hid
      unfold OAuthToken.linkTo at htoken
      split_ifs at htoken with hsame
      · cases htoken
        exact ⟨rfl, Or.inl rfl⟩
      · cases htoken
        exact ⟨rfl, Or.inr ⟨cmd, hcommand, hkey.1, hkey.2, haccountId⟩⟩
  refine Ruled.bind (Ruled.call ⟨hnone₉, hlinkable⟩ fun _ => List.suffix_cons _ _)
    fun log₁₀ _ hlog₁₀ _ => ?_
  refine Ruled.bind (Ruled.query rfl) fun _ _ hlog₁₁ _ => ?_
  refine Ruled.bind ruled_dispatchEvents fun _ _ hlog₁₂ _ => ?_
  exact Ruled.commitExcused (hsaved.2.2.mono ((hlog₁₀.trans hlog₁₁).trans hlog₁₂))

/-- Every command keeps the contract about the ways to authenticate. -/
theorem LinkCommand.way (cmd : LinkCommand) :
    WayRuled cmd.command [] cmd.command.program fun _ _ => True := by
  cases cmd with
  | googleLogin claims tokenData signupRole =>
    exact Ruled.bind (way_signInWithGoogle claims tokenData signupRole rfl) fun _ _ _ _ =>
      Ruled.pure trivial
  | confirmOAuthRelink cmd => exact way_confirmOAuthRelink cmd rfl rfl
  | setupPassword userId plainPassword => exact ruled_setupPassword userId plainPassword
  | changePassword userId currentPassword newPassword =>
    exact ruled_changePassword userId currentPassword newPassword
  | resetPassword cmd => exact ruled_resetPassword cmd

end Handlers

end Linkapro.Identity
