import Linkapro.Identity.InterleavedAccounts

/-!
# Identity: when a provider login may touch an account

What a login with a Google identity logs in, links or saves, and what it has been told
before that: the claims of the provider, the account of the address, the stored links
and the decision of the linking policy. Claims without `email_verified` count as
verified, in the adapter and in the policy.
-/

namespace Linkapro.Identity

open Lib Lib.Action

/-- The accounts that a call logs in, links or saves. -/
def AccountOp.subjects : AccountOp → List UUID
  | .commit statements => (statements.filterMap AccountStatement.savedRow).map UserRow.id
  | .createAccessToken claims | .createRefreshToken claims => [claims.userId]
  | .service (.createTempToken userId _) => [userId]
  | .service (.saveOAuthToken token) => [token.userId]
  | _ => []

/-- The aggregate of a row that may be missing. -/
def accountOf : Option UserRow → Except AccountError (Option User)
  | none => .ok none
  | some row => row.toDomain.map some

/-- What an execution of a provider login has been told. -/
structure LoginFacts where
  info : GoogleUserInfo
  cmd : GoogleLoginCommand
  row : Option UserRow
  account : Option User
  providerIdentityLink : Option OAuthToken
  existingUserLink : Option OAuthToken
  decision : OAuthLinkingDecision

namespace LoginFacts

/-- The facts are those of the claims and of the answers in a log. -/
structure Hold (facts : LoginFacts) (claims : GoogleClaims) (tokenData : GoogleTokenData)
    (signupRole : Option UserRole) (log : AccountLog) : Prop where
  info_eq : getUserInfo claims = .ok facts.info
  cmd_eq : ∃ now, toLoginCommand facts.info tokenData signupRole now = .ok facts.cmd
  row_mem : ⟨.getByEmail facts.cmd.identity.email,
    (.ok facts.row : Except AccountError (Option UserRow))⟩ ∈ log
  account_eq : accountOf facts.row = .ok facts.account
  providerIdentityLink_mem : ⟨.service (.getOAuthByProviderUser facts.cmd.identity.provider
      (strip facts.cmd.identity.providerUserId)),
    (.ok facts.providerIdentityLink : Except AccountError (Option OAuthToken))⟩ ∈ log
  existingUserLink_mem : ∀ user, facts.account = some user →
    ⟨.service (.getOAuthByUser user.id facts.cmd.identity.provider),
      (.ok facts.existingUserLink : Except AccountError (Option OAuthToken))⟩ ∈ log
  decision_eq : decideLinking facts.cmd.identity.provider (strip facts.cmd.identity.providerUserId)
    facts.account facts.providerIdentityLink facts.existingUserLink
    facts.cmd.identity.emailVerified = .ok facts.decision

/-- The policy lets the identity into the account without a step-up: it trusts the address,
the identity belongs to no other account, and an account with a password may be linked. -/
structure Allow (facts : LoginFacts) : Prop where
  not_relink : facts.decision.action ≠ .relinkProviderIdentity
  not_owned : facts.decision.providerIdentityOwnedByAnotherAccount = false
  trusted : facts.decision.providerEmailVerificationTrusted = true
  auto_link : ∀ user, facts.account = some user → user.passwordHash.isSome = true →
    facts.decision.canExistingPasswordAccountAutoLink = true

/-- The facts are about this account: the one of the address or the one that its stored
link names. Without an account of the address, it is a new one. -/
def Cover (facts : LoginFacts) (log : AccountLog) (id : UUID) : Prop :=
  match facts.account with
  | none => ⟨.newId, (.ok id : Except AccountError UUID)⟩ ∈ log
  | some user => id = user.id ∨ ∃ link, facts.existingUserLink = some link ∧ id = link.userId

end LoginFacts

/-- A provider login may log in, link or save an account: the claims do not deny the
address, and the policy has allowed it for this account. -/
def MayEnter (claims : GoogleClaims) (tokenData : GoogleTokenData) (signupRole : Option UserRole)
    (log : AccountLog) (id : UUID) : Prop :=
  claims.deniesEmail = false ∧ ∃ facts : LoginFacts,
    facts.Hold claims tokenData signupRole log ∧ facts.Allow ∧ facts.Cover log id

/-- The contract of a provider login. -/
def providerLoginContract (claims : GoogleClaims) (tokenData : GoogleTokenData)
    (signupRole : Option UserRole) : Contract (Raising AccountError AccountOp.Ret) where
  allowed log op := ∀ id ∈ op.subjects, MayEnter claims tokenData signupRole log id
  possible _ := True

/-- What the policy has decided for the identity. -/
theorem decideLinking_ok {provider : OAuthProvider} {providerUserId : String}
    {account : Option User} {providerIdentityLink existingUserLink : Option OAuthToken}
    {emailVerified : Option Bool} {decision : OAuthLinkingDecision}
    (h : decideLinking provider providerUserId account providerIdentityLink existingUserLink
      emailVerified = .ok decision) :
    decision.providerEmailVerificationTrusted =
        isProviderEmailVerificationTrusted provider emailVerified ∧
      (decision.action = .relinkProviderIdentity ↔
        decision.providerIdentityOwnedByAnotherAccount = true) ∧
      ∀ user, account = some user →
        decision.canExistingPasswordAccountAutoLink = canExistingPasswordAccountAutoLink user
          decision.providerEmailVerificationTrusted ∧
        decision.providerIdentityOwnedByAnotherAccount =
          providerIdentityLink.any fun link => link.userId ≠ user.id := by
  cases account with
  | none =>
    cases h
    exact ⟨rfl, by simp, fun _ h => by cases h⟩
  | some account =>
    unfold decideLinking at h
    split at h
    · next hnone => cases hnone
    · next hsome =>
      cases hsome
      split at h
      · cases h
      · cases h
        refine ⟨rfl, ?_, ?_⟩
        · simp only [linkingAction]
          split
          · next howned => exact ⟨fun _ => howned, fun _ => rfl⟩
          · next howned =>
            refine ⟨fun h => ?_, fun h => absurd h howned⟩
            split at h
            · cases h
            · cases h
        · rintro user ⟨⟩
          exact ⟨rfl, rfl⟩

/-- The adapter passes on claims that do not deny the address, as verified. -/
theorem getUserInfo_ok {claims : GoogleClaims} {info : GoogleUserInfo}
    (h : getUserInfo claims = .ok info) :
    claims.deniesEmail = false ∧ info.emailVerified = true := by
  unfold getUserInfo at h
  split at h
  · cases h
  · split at h
    · cases h
    · next hdenies =>
      cases h
      exact ⟨Bool.eq_false_iff.mpr hdenies, rfl⟩

theorem toLoginCommand_ok {info : GoogleUserInfo} {tokenData : GoogleTokenData}
    {signupRole : Option UserRole} {now : Datetime} {cmd : GoogleLoginCommand}
    (h : toLoginCommand info tokenData signupRole now = .ok cmd) :
    cmd.identity.provider = .google ∧ cmd.identity.emailVerified = some info.emailVerified := by
  obtain ⟨email, _, h⟩ := except_bind_eq_ok_iff.mp h
  split at h
  · cases h
  · split at h
    · cases h
    · cases h
      exact ⟨rfl, rfl⟩

section Confined

variable {claims : GoogleClaims} {tokenData : GoogleTokenData} {signupRole : Option UserRole}
  {facts : LoginFacts} {ids : UUID → Prop} {log : AccountLog} {α β : Type}

/-- The facts of a log hold in every later one. -/
theorem LoginFacts.Hold.cons {call : AccountCall}
    (h : facts.Hold claims tokenData signupRole log) :
    facts.Hold claims tokenData signupRole (call :: log) where
  info_eq := h.info_eq
  cmd_eq := h.cmd_eq
  row_mem := List.mem_cons_of_mem _ h.row_mem
  account_eq := h.account_eq
  providerIdentityLink_mem := List.mem_cons_of_mem _ h.providerIdentityLink_mem
  existingUserLink_mem := fun user huser =>
    List.mem_cons_of_mem _ (h.existingUserLink_mem user huser)
  decision_eq := h.decision_eq

/-- What an execution may enter, it may enter later. -/
theorem MayEnter.cons {call : AccountCall} {id : UUID}
    (h : MayEnter claims tokenData signupRole log id) :
    MayEnter claims tokenData signupRole (call :: log) id := by
  obtain ⟨hdenied, facts, hold, hallow, hcover⟩ := h
  refine ⟨hdenied, facts, hold.cons, hallow, ?_⟩
  unfold LoginFacts.Cover at hcover ⊢
  split at hcover
  · exact List.mem_cons_of_mem _ hcover
  · exact hcover

/-- The execution may enter all of these accounts. -/
def SettledLogin (claims : GoogleClaims) (tokenData : GoogleTokenData) (signupRole : Option UserRole)
    (ids : UUID → Prop) (log : AccountLog) : Prop :=
  ∀ id, ids id → MayEnter claims tokenData signupRole log id

/-- A part of a provider login that enters only the given accounts. -/
structure Confined (claims : GoogleClaims) (tokenData : GoogleTokenData)
    (signupRole : Option UserRole) (ids : UUID → Prop) (action : AccountAction α)
    (P : α → Prop) : Prop where
  follows : ∀ log, SettledLogin claims tokenData signupRole ids log →
    action.Follows (providerLoginContract claims tokenData signupRole) log fun log' outcome =>
      SettledLogin claims tokenData signupRole ids log' ∧ ∀ value, outcome = .ok value → P value

theorem Confined.pure {P : α → Prop} {value : α} (h : P value) :
    Confined claims tokenData signupRole ids (pure value) P := by
  refine ⟨fun log hlog => ⟨hlog, ?_⟩⟩
  rintro _ ⟨⟩
  exact h

theorem Confined.throw {P : α → Prop} (error : AccountError) :
    Confined claims tokenData signupRole ids (throw error) P :=
  ⟨fun _ hlog => ⟨hlog, fun _ h => by cases h⟩⟩

theorem Confined.bind {P : α → Prop} {Q : β → Prop} {action : AccountAction α}
    {f : α → AccountAction β} (h : Confined claims tokenData signupRole ids action P)
    (hf : ∀ value, P value → Confined claims tokenData signupRole ids (f value) Q) :
    Confined claims tokenData signupRole ids (action >>= f) Q := by
  constructor
  intro log hlog
  refine Follows.bind (h.follows log hlog) (fun log' value h => ?_) fun _ _ h => ?_
  · exact (hf value (h.2 value rfl)).follows log' h.1
  · exact ⟨h.1, fun _ h => by cases h⟩

theorem Confined.query {op : AccountOp} (h : ∀ id ∈ op.subjects, ids id) :
    Confined claims tokenData signupRole ids (query op) fun _ => True := by
  refine ⟨fun log hlog => ⟨fun id hid => hlog id (h id hid), fun answer _ => ?_⟩⟩
  exact ⟨fun id hid => (hlog id hid).cons, fun _ _ => trivial⟩

theorem cover_nil : ∀ id ∈ ([] : List UUID), ids id := fun _ hid => by cases hid

theorem Confined.forM {items : List β} {f : β → AccountAction PUnit}
    (h : ∀ item ∈ items, Confined claims tokenData signupRole ids (f item) fun _ => True) :
    Confined claims tokenData signupRole ids (items.forM f) fun _ => True := by
  induction items with
  | nil => exact Confined.pure trivial
  | cons item items ih =>
    refine Confined.bind (h item List.mem_cons_self) fun _ _ => ?_
    exact ih fun item hmem => h item (List.mem_cons_of_mem _ hmem)

theorem Confined.orRaise {P : α → Prop} {outcome : Except AccountError α}
    (h : ∀ value, outcome = .ok value → P value) :
    Confined claims tokenData signupRole ids (orRaise outcome) P := by
  cases outcome with
  | ok value => exact Confined.pure (h value rfl)
  | error error => exact Confined.throw error

theorem Confined.presentOr {P : α → Prop} {error : AccountError} {found : Option α}
    (h : ∀ value, found = some value → P value) :
    Confined claims tokenData signupRole ids (presentOr error found) P := by
  cases found with
  | none => exact Confined.throw error
  | some value => exact Confined.pure (h value rfl)

theorem confined_dispatchEvents (user : User) :
    Confined claims tokenData signupRole ids (dispatchEvents user) fun _ => True :=
  Confined.forM fun _ _ => Confined.query cover_nil

/-- The statements save only the given accounts. -/
def CoveredSaves (ids : UUID → Prop) (statements : List AccountStatement) : Prop :=
  ∀ row ∈ statements.filterMap AccountStatement.savedRow, ids row.id

theorem Confined.commit {statements : List AccountStatement} (h : CoveredSaves ids statements) :
    Confined claims tokenData signupRole ids (Identity.query (.commit statements))
      fun _ => True := by
  refine Confined.query fun id hid => ?_
  obtain ⟨row, hrow, rfl⟩ := List.mem_map.mp hid
  exact h row hrow

/-- A save inside the unit of work keeps it about the given accounts. -/
theorem confined_savePending {pending : List AccountStatement} {user : User}
    (hpending : CoveredSaves ids pending) (huser : ids user.id) :
    Confined claims tokenData signupRole ids (savePending pending user)
      fun saved => saved.user.id = user.id ∧ CoveredSaves ids saved.statements := by
  have hpassword : Confined claims tokenData signupRole ids (storedPassword user)
      fun _ => True := by
    unfold storedPassword
    split
    · exact Confined.pure trivial
    · exact Confined.bind (Confined.query cover_nil) fun _ _ => Confined.pure trivial
  have hplan : Confined claims tokenData signupRole ids (prepareSave pending user)
      fun plan => plan.row.id = user.id ∧
        plan.remembered.filterMap AccountStatement.savedRow = [] := by
    refine Confined.bind (Confined.query cover_nil) fun stored _ => ?_
    refine Confined.bind hpassword fun password _ => Confined.pure ⟨rfl, ?_⟩
    unfold rememberNewPassword
    split
    · split
      · rfl
      · rfl
    · rfl
  refine Confined.bind hplan fun plan hplan => ?_
  refine Confined.bind (Confined.orRaise (P := fun saved => saved.id = user.id)
    fun saved hsaved => ?_) fun saved hsaved => Confined.pure ⟨hsaved, ?_⟩
  · exact (UserRow.holds_of_toDomain hsaved).id_eq.trans hplan.1
  · intro row hrow
    rw [List.filterMap_append, List.filterMap_cons, hplan.2, List.mem_append] at hrow
    rcases hrow with hrow | hrow
    · exact hpending row hrow
    · rw [List.mem_singleton.mp hrow, hplan.1]
      exact huser

/-- What the first part of a login has settled concerns the given accounts only. -/
structure CoveredLink (ids : UUID → Prop) (linked : LinkedAccount) : Prop where
  user : ids linked.user.id
  pending : CoveredSaves ids linked.pending
  token : ∀ token, linked.oauthTokenToSave = some token → ids token.userId

theorem confined_recordLink {provider : OAuthProvider} {pending : List AccountStatement}
    {user : User} {oauthTokenToSave : Option OAuthToken} (hpending : CoveredSaves ids pending)
    (huser : ids user.id)
    (htoken : ∀ token, oauthTokenToSave = some token → ids token.userId) :
    Confined claims tokenData signupRole ids
      (recordLink provider pending user oauthTokenToSave) (CoveredLink ids) := by
  refine Confined.bind (confined_savePending hpending huser) fun saved hsaved => ?_
  refine Confined.bind (confined_dispatchEvents _) fun _ _ => ?_
  exact Confined.pure ⟨huser, hsaved.2, htoken⟩

/-- The parts of a login that follow a settled account. -/
def Enters (claims : GoogleClaims) (tokenData : GoogleTokenData) (signupRole : Option UserRole)
    (log : AccountLog) (linked : LinkedAccount) : Prop :=
  ∃ ids, SettledLogin claims tokenData signupRole ids log ∧ CoveredLink ids linked

/-- A new account is entered under the id that has been drawn for it. -/
theorem createLinkedAccount_enters (hdenied : claims.deniesEmail = false)
    (hold : facts.Hold claims tokenData signupRole log) (hallow : facts.Allow)
    (hnone : facts.account = none) (cmd : GoogleLoginCommand) :
    (createLinkedAccount cmd).Follows (providerLoginContract claims tokenData signupRole) log
      fun log' outcome => ∀ linked, outcome = .ok linked →
        Enters claims tokenData signupRole log' linked := by
  refine Follows.perform_bind (fun _ hid => by cases hid) (fun (id : UUID) _ => ?_)
    fun _ _ h => by cases h
  have hsettled : SettledLogin claims tokenData signupRole (fun id' => id' = id)
      (⟨.newId, .ok id⟩ :: log) := by
    rintro _ rfl
    refine ⟨hdenied, facts, hold.cons, hallow, ?_⟩
    rw [LoginFacts.Cover, hnone]
    exact List.mem_cons_self
  have hrest : Confined claims tokenData signupRole (fun id' => id' = id) (do
      let role ← presentOr (.valueError "None is not a valid UserRole") cmd.signupRole
      let newUser ← orRaise (User.registerNew id cmd.identity.email none cmd.identity.firstName
        cmd.identity.lastName role true)
      let saved ← savePending [] newUser
      dispatchEvents newUser
      let tokenId : UUID ← serve .uuid4
      serve (.saveOAuthToken (cmd.oauthToken tokenId saved.user.id))
      recordLink cmd.identity.provider saved.statements saved.user none)
      (CoveredLink fun id' => id' = id) := by
    refine Confined.bind (Confined.presentOr fun _ _ => trivial) fun role _ => ?_
    refine Confined.bind (Confined.orRaise (P := fun newUser => newUser.id = id)
      fun _ hnew => (registerNew_ok hnew).1) fun newUser hnew => ?_
    refine Confined.bind (confined_savePending (fun _ hrow => by cases hrow) hnew)
      fun saved hsaved => ?_
    refine Confined.bind (confined_dispatchEvents _) fun _ _ => ?_
    refine Confined.bind (Confined.query cover_nil) fun tokenId _ => ?_
    have hid : saved.user.id = id := hsaved.1.trans hnew
    refine Confined.bind (Confined.query fun id' hid' => ?_) fun _ _ => ?_
    · exact (List.mem_singleton.mp hid').trans hid
    · exact confined_recordLink hsaved.2 hid fun _ h => by cases h
  refine (hrest.follows _ hsettled).mono fun log' outcome h linked hlinked => ?_
  exact ⟨_, h.1, h.2 linked hlinked⟩

theorem confined_linkFor {cmd : GoogleLoginCommand} {user : User}
    {providerIdentityLink : Option OAuthToken}
    (howned : ∀ link, providerIdentityLink = some link → link.userId = user.id) :
    Confined claims tokenData signupRole ids (linkFor cmd user providerIdentityLink)
      fun token => token.userId = user.id := by
  cases providerIdentityLink with
  | some link => exact Confined.pure (howned link rfl)
  | none =>
    exact Confined.bind (Confined.query cover_nil) fun _ _ => Confined.pure rfl

/-- The branches of an allowed decision enter the account that it is about. -/
theorem followDecision_enters (hdenied : claims.deniesEmail = false)
    (hold : facts.Hold claims tokenData signupRole log) (hallow : facts.Allow) :
    (followDecision facts.cmd facts.decision facts.account facts.providerIdentityLink
      facts.existingUserLink).Follows (providerLoginContract claims tokenData signupRole) log
      fun log' outcome => ∀ linked, outcome = .ok linked →
        Enters claims tokenData signupRole log' linked := by
  have hdecision := decideLinking_ok hold.decision_eq
  have hcreates := decideLinking_createAccount hold.decision_eq
  cases haccount : facts.account with
  | none =>
    rw [followDecision]
    · exact createLinkedAccount_enters hdenied hold hallow haccount _
    · exact hcreates.mpr haccount
  | some user =>
    have hsettled : SettledLogin claims tokenData signupRole
        (fun id => id = user.id ∨ ∃ link, facts.existingUserLink = some link ∧ id = link.userId)
        log := fun id hid => ⟨hdenied, facts, hold, hallow, by rwa [LoginFacts.Cover, haccount]⟩
    have hconfined : Confined claims tokenData signupRole
        (fun id => id = user.id ∨ ∃ link, facts.existingUserLink = some link ∧ id = link.userId)
        (followDecision facts.cmd facts.decision (some user) facts.providerIdentityLink
          facts.existingUserLink)
        (CoveredLink fun id =>
          id = user.id ∨ ∃ link, facts.existingUserLink = some link ∧ id = link.userId) := by
      have hexists : facts.decision.action ≠ .createAccount := fun h => by
        rw [hcreates.mp h] at haccount
        cases haccount
      unfold followDecision
      cases haction : facts.decision.action with
      | createAccount => exact absurd haction hexists
      | relinkProviderIdentity => exact Confined.throw _
      | updateExistingLink =>
        refine Confined.pure ⟨Or.inl rfl, (fun _ hrow => by cases hrow), fun token htoken => ?_⟩
        obtain ⟨link, hlink, rfl⟩ := Option.map_eq_some_iff.mp htoken
        exact Or.inr ⟨link, hlink, rfl⟩
      | linkExistingAccount =>
        have howned : ∀ link, facts.providerIdentityLink = some link → link.userId = user.id := by
          intro link hlink
          have hany := (hdecision.2.2 user haccount).2
          rw [hallow.not_owned, hlink] at hany
          simpa using hany.symm
        refine Confined.bind (confined_linkFor howned) fun token htoken => ?_
        refine confined_recordLink (fun _ hrow => by cases hrow) (Or.inl rfl) ?_
        rintro _ ⟨⟩
        exact Or.inl htoken
    refine (hconfined.follows log hsettled).mono fun log' outcome h linked hlinked => ?_
    exact ⟨_, h.1, h.2 linked hlinked⟩

theorem confined_evaluateOAuthLogin {user : User} (huser : ids user.id) :
    Confined claims tokenData signupRole ids (evaluateOAuthLogin user) fun _ => True := by
  have hsubject : ∀ id ∈ [user.id], ids id := fun id hid => by
    rwa [List.mem_singleton.mp hid]
  have hissue : Confined claims tokenData signupRole ids
      (issueAuthenticatedTokens accountSessions user) fun _ => True := by
    refine Confined.bind (Confined.query cover_nil) fun family _ => ?_
    refine Confined.bind (Confined.query cover_nil) fun sessionId _ => ?_
    refine Confined.bind (Confined.query hsubject) fun accessToken _ => ?_
    refine Confined.bind (Confined.query hsubject) fun refreshToken _ => ?_
    exact Confined.pure trivial
  have hfinalize : Confined claims tokenData signupRole ids
      (finalizeLogin user (evaluateAuthenticationEligibility user)) fun _ => True := by
    unfold finalizeLogin
    split
    · refine Confined.bind (Confined.query cover_nil) fun now _ => ?_
      refine Confined.bind (Confined.query cover_nil) fun challengeId _ => ?_
      refine Confined.bind (Confined.query cover_nil) fun _ _ => ?_
      refine Confined.bind (Confined.query hsubject) fun tempToken _ => ?_
      exact Confined.pure trivial
    · exact hissue
  simp only [evaluateOAuthLogin]
  split
  · exact hfinalize
  · exact Confined.pure trivial

theorem confined_finishGoogleLogin {linked : LinkedAccount} (hlinked : CoveredLink ids linked)
    (decision : AuthenticationDecision) :
    Confined claims tokenData signupRole ids (finishGoogleLogin linked decision)
      fun _ => True := by
  have hlink : Confined claims tokenData signupRole ids
      (linked.oauthTokenToSave.toList.forM fun token => serve (.saveOAuthToken token))
      fun _ => True := by
    refine Confined.forM fun token htoken => Confined.query fun id hid => ?_
    rw [List.mem_singleton.mp hid]
    exact hlinked.token token (Option.mem_toList.mp htoken)
  unfold finishGoogleLogin
  split
  · refine Confined.bind hlink fun _ _ => ?_
    exact Confined.bind (Confined.commit hlinked.pending) fun _ _ => Confined.pure trivial
  · refine Confined.bind hlink fun _ _ => ?_
    refine Confined.bind (Confined.query cover_nil) fun now _ => ?_
    refine Confined.bind (confined_savePending hlinked.pending hlinked.user) fun saved hsaved => ?_
    refine Confined.bind (confined_dispatchEvents _) fun _ _ => ?_
    exact Confined.bind (Confined.commit hsaved.2) fun _ _ => Confined.pure trivial
  · exact Confined.throw _

/-- The rest of a login after the decision of the policy. -/
def enterAccount (facts : LoginFacts) : AccountAction AuthenticationDecision := do
  let linked ← followDecision facts.cmd facts.decision facts.account facts.providerIdentityLink
    facts.existingUserLink
  let login ← evaluateOAuthLogin linked.user
  finishGoogleLogin linked login

/-- The end of a login whose decision lets the identity in. -/
theorem enterAccount_follows (hdenied : claims.deniesEmail = false)
    (hold : facts.Hold claims tokenData signupRole log) (hallow : facts.Allow) :
    (enterAccount facts).Follows (providerLoginContract claims tokenData signupRole) log
      fun _ _ => True := by
  refine Follows.bind (followDecision_enters hdenied hold hallow) (fun log' linked h => ?_)
    fun _ _ _ => trivial
  obtain ⟨ids, hsettled, hlinked⟩ := h linked rfl
  have hrest : Confined claims tokenData signupRole ids (do
      let login ← evaluateOAuthLogin linked.user
      finishGoogleLogin linked login) fun _ => True := by
    refine Confined.bind (confined_evaluateOAuthLogin hlinked.user) fun login _ => ?_
    exact confined_finishGoogleLogin hlinked login
  exact (hrest.follows log' hsettled).mono fun _ _ _ => trivial

/-- Continue with a computed value, under any contract. -/
theorem follows_orRaise_bind {contract : Contract (Raising AccountError AccountOp.Ret)}
    {outcome : Except AccountError α} {f : α → AccountAction β}
    (hf : ∀ value, outcome = .ok value → (f value).Follows contract log fun _ _ => True) :
    Follows contract log (orRaise outcome >>= f) fun _ _ => True := by
  cases outcome with
  | ok value => exact hf value rfl
  | error error => trivial

/-- What the decision of the policy means for a login. -/
theorem decision_follows (hdenied : claims.deniesEmail = false)
    (hverified : facts.info.emailVerified = true)
    (hfacts : facts.Hold claims tokenData signupRole log) :
    (enterAccount facts).Follows (providerLoginContract claims tokenData signupRole) log
      fun _ _ => True := by
  obtain ⟨htrusted, hrelink, huser⟩ := decideLinking_ok hfacts.decision_eq
  have hcreates := decideLinking_createAccount hfacts.decision_eq
  obtain ⟨now, hcmd⟩ := hfacts.cmd_eq
  obtain ⟨hprovider, hemail⟩ := toLoginCommand_ok hcmd
  rw [hprovider, hemail, hverified] at htrusted
  have htrusted : facts.decision.providerEmailVerificationTrusted = true := htrusted
  by_cases haction : facts.decision.action = .relinkProviderIdentity
  · -- The use case refuses to relink without a step-up.
    cases haccount : facts.account with
    | none =>
      rw [hcreates.mpr haccount] at haction
      cases haction
    | some user =>
      unfold enterAccount followDecision
      rw [haction, haccount]
      trivial
  · refine enterAccount_follows hdenied hfacts
      { not_relink := haction
        not_owned := Bool.eq_false_iff.mpr fun howned => haction (hrelink.mpr howned)
        trusted := htrusted
        auto_link := fun user haccount hpassword => ?_ }
    rw [(huser user haccount).1, htrusted, canExistingPasswordAccountAutoLink, hpassword]
    rfl

/-- A loaded row is the account of the row. -/
theorem rowToDomain_eq (row : Option UserRow) : rowToDomain row = orRaise (accountOf row) := by
  cases row with
  | none => rfl
  | some row =>
    change (orRaise row.toDomain >>= fun user => pure (some user)) = orRaise (row.toDomain.map some)
    cases row.toDomain with
    | ok user => rfl
    | error error => rfl

/-- A login with claims of the provider follows its contract. -/
theorem signInWithGoogle_follows (claims : GoogleClaims) (tokenData : GoogleTokenData)
    (signupRole : Option UserRole) :
    (signInWithGoogle claims tokenData signupRole).Follows
      (providerLoginContract claims tokenData signupRole) [] fun _ _ => True := by
  have hsilent : ∀ id ∈ ([] : List UUID), ∀ log, MayEnter claims tokenData signupRole log id :=
    fun _ hid => by cases hid
  refine follows_orRaise_bind fun info hinfo => ?_
  obtain ⟨hdenied, hverified⟩ := getUserInfo_ok hinfo
  refine Follows.perform_bind (fun id hid => hsilent id hid _) (fun (now : Datetime) _ => ?_)
    fun _ => trivial
  refine follows_orRaise_bind fun cmd hcmd => ?_
  refine Follows.ite (fun _ => trivial) fun _ => ?_
  have hfound (row : Option UserRow) (account : Option User) (log : AccountLog)
      (hrow : ⟨.getByEmail cmd.identity.email,
        (.ok row : Except AccountError (Option UserRow))⟩ ∈ log)
      (haccount : accountOf row = .ok account) :
      (googleLoginFound cmd account).Follows (providerLoginContract claims tokenData signupRole) log
        fun _ _ => True := by
    refine Follows.perform_bind (fun id hid => hsilent id hid _)
      (fun (providerIdentityLink : Option OAuthToken) _ => ?_) fun _ => trivial
    have hdecide (existingUserLink : Option OAuthToken) (log' : AccountLog)
        (hlog' : ∀ call ∈ log, call ∈ log')
        (hlink : ⟨.service (.getOAuthByProviderUser cmd.identity.provider
            (strip cmd.identity.providerUserId)),
          (.ok providerIdentityLink : Except AccountError (Option OAuthToken))⟩ ∈ log')
        (hexisting : ∀ user, account = some user →
          ⟨.service (.getOAuthByUser user.id cmd.identity.provider),
            (.ok existingUserLink : Except AccountError (Option OAuthToken))⟩ ∈ log') :
        Follows (providerLoginContract claims tokenData signupRole) log'
          (orRaise (decideLinking cmd.identity.provider (strip cmd.identity.providerUserId) account
            providerIdentityLink existingUserLink cmd.identity.emailVerified) >>= fun decision =>
              enterAccount ⟨info, cmd, row, account, providerIdentityLink, existingUserLink,
                decision⟩) fun _ _ => True := by
      refine follows_orRaise_bind fun decision hdecision => ?_
      exact decision_follows hdenied hverified
        { info_eq := hinfo
          cmd_eq := ⟨now, hcmd⟩
          row_mem := hlog' _ hrow
          account_eq := haccount
          providerIdentityLink_mem := hlink
          existingUserLink_mem := hexisting
          decision_eq := hdecision }
    cases account with
    | none =>
      exact hdecide none _ (fun _ => List.mem_cons_of_mem _) List.mem_cons_self
        fun _ h => by cases h
    | some user =>
      refine Follows.perform_bind (fun id hid => hsilent id hid _)
        (fun (existingUserLink : Option OAuthToken) _ => ?_) fun _ => trivial
      refine hdecide existingUserLink _
        (fun _ hcall => List.mem_cons_of_mem _ (List.mem_cons_of_mem _ hcall))
        (List.mem_cons_of_mem _ List.mem_cons_self) ?_
      rintro _ ⟨⟩
      exact List.mem_cons_self
  have hload (log : AccountLog) : (getByEmail cmd.identity.email).Follows
      (providerLoginContract claims tokenData signupRole) log fun log' outcome =>
        ∀ account, outcome = .ok account → ∃ row, ⟨.getByEmail cmd.identity.email,
          (.ok row : Except AccountError (Option UserRow))⟩ ∈ log' ∧ accountOf row = .ok account := by
    refine Follows.perform_bind (fun id hid => hsilent id hid _)
      (fun (row : Option UserRow) _ => ?_) fun _ _ h => by cases h
    rw [rowToDomain_eq]
    cases haccount : accountOf row with
    | ok account =>
      rintro _ ⟨⟩
      exact ⟨row, List.mem_cons_self, haccount⟩
    | error error =>
      rintro _ ⟨⟩
  refine Follows.bind (hload _) (fun log account haccount => ?_) fun _ _ _ => trivial
  obtain ⟨row, hrow, haccount⟩ := haccount account rfl
  exact hfound row account log hrow haccount

end Confined

variable {ι : Type} [DecidableEq ι]

/-- The contracts of a pool, as far as provider logins are concerned. -/
def providerLoginContracts (commands : ι → IdentityCommand) (i : ι) :
    Contract (Raising AccountError AccountOp.Ret) :=
  match commands i with
  | .googleLogin claims tokenData signupRole =>
    providerLoginContract claims tokenData signupRole
  | _ => { allowed := fun _ _ => True, possible := fun _ => True }

omit [DecidableEq ι] in
theorem answers_providerLoginContracts (commands : ι → IdentityCommand) :
    Pool.Answers AccountState.exec (providerLoginContracts commands) := by
  intro i choice op s
  unfold providerLoginContracts
  split
  · trivial
  · trivial

theorem disciplined_providerLogins {s : AccountState} {commands : ι → IdentityCommand} :
    Pool.Disciplined (providerLoginContracts commands) anyOutcome (startCommands s commands) := by
  intro i
  change Program.Follows (providerLoginContracts commands i) [] (commands i).program.run _
  unfold providerLoginContracts
  split
  · next claims tokenData signupRole heq =>
    rw [heq]
    exact Follows.bind (signInWithGoogle_follows claims tokenData signupRole)
      (fun _ _ _ => trivial) fun _ _ _ => trivial
  · exact Program.follows_of_allowed (fun _ _ => trivial) _ _

/-- The accounts that the next call of an execution logs in, links or saves. -/
def nextSubjects (pool : AccountPool ι) (i : ι) : List UUID :=
  ((pool.next i).map AccountOp.subjects).getD []

/-- On its turn a provider login enters only accounts that it may enter. -/
def LoginsAllowed (commands : ι → IdentityCommand) (pool : AccountPool ι)
    (turn : ι × AccountChoice) : Prop :=
  ∀ claims tokenData signupRole, commands turn.1 = .googleLogin claims tokenData signupRole →
    ∀ id ∈ nextSubjects pool turn.1, MayEnter claims tokenData signupRole (pool.log turn.1) id

/-- In every run, among any other executions, a provider login logs into, links or creates
an account only when the claims do not deny the address and the policy allows it. -/
theorem provider_logins_allowed (s : AccountState) (commands : ι → IdentityCommand)
    (schedule : List (ι × AccountChoice)) :
    Pool.Always AccountState.exec (LoginsAllowed commands) (startCommands s commands) schedule := by
  refine disciplined_providerLogins.always (answers_providerLoginContracts commands) ?_
  intro pool turn hpool claims tokenData signupRole hcommand id hid
  cases hrest : pool.rest turn.1 with
  | done value =>
    simp only [nextSubjects, Pool.next, hrest] at hid
    cases hid
  | call op next =>
    simp only [nextSubjects, Pool.next_of_call hrest] at hid
    have hallowed := hpool.allowed_call hrest
    rw [providerLoginContracts, hcommand] at hallowed
    exact hallowed id hid

/-- On its turn a provider login enters an account only when the claims assert the address. -/
def LoginsAsserted (commands : ι → IdentityCommand) (pool : AccountPool ι)
    (turn : ι × AccountChoice) : Prop :=
  match commands turn.1 with
  | .googleLogin claims _ _ => nextSubjects pool turn.1 ≠ [] → claims.assertsEmail = true
  | _ => True

instance (commands : ι → IdentityCommand) (pool : AccountPool ι) (turn : ι × AccountChoice) :
    Decidable (LoginsAsserted commands pool turn) := by
  unfold LoginsAsserted
  split
  all_goals infer_instance

/-- A login as the planner with claims that do not say whether the address is verified. -/
def silentLogin (_ : Unit) : IdentityCommand :=
  .googleLogin
    { sub := .text "google-1", email := .text "user@example.com", emailVerified := .null
      name := .null, givenName := .null, familyName := .null }
    { accessToken := .text "ya29", refreshToken := .null, expiresIn := none } none

/-- The login enters the account of the planner although nothing has asserted the address. -/
theorem unasserted_address_enters :
    ¬ Pool.Always AccountState.exec (LoginsAsserted silentLogin)
      (startCommands sampleAccounts silentLogin) (List.replicate 20 ((), calmChoice)) := by
  decide +kernel

end Linkapro.Identity
