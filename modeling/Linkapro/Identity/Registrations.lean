import Linkapro.Identity.ContractRules
import Linkapro.Identity.InterleavedAccounts
import Linkapro.Identity.SessionBootstrap

/-!
# Identity: the addresses of new accounts

Registrations and provider logins look for the address of a new account without regard to
the case of letters, and insert a row with the address in lower case later on. Every row that
they save has the address that they have looked for, under the id of the row that they have found.
-/

namespace Linkapro.Identity

open Lib Lib.Action

/-- An execution that may create an account. -/
inductive SignupCommand : Type where
  | registerAccount (email : Email) (plainPassword firstName lastName : String) (role : UserRole)
  | googleLogin (claims : GoogleClaims) (tokenData : GoogleTokenData)
      (signupRole : Option UserRole)

/-- The command of the component. -/
def SignupCommand.command : SignupCommand → IdentityCommand
  | .registerAccount email plainPassword firstName lastName role =>
    .registerAccount email plainPassword firstName lastName role
  | .googleLogin claims tokenData signupRole => .googleLogin claims tokenData signupRole

/-- The address of a registration. -/
def SignupCommand.registered : SignupCommand → Option Email
  | .registerAccount email _ _ _ _ => some email
  | .googleLogin _ _ _ => none

/-- The row is the one of the address up to the case of letters: `email__iexact`. -/
def UserRow.Matches (row : UserRow) (email : Email) : Prop := lower row.email = lower email.value

instance (row : UserRow) (email : Email) : Decidable (row.Matches email) :=
  inferInstanceAs (Decidable (_ = _))

theorem isEmailChar_of_mem {email : Email} {c : Char} (h : c ∈ email.value.toList) :
    isSpace c = false ∧ lowerChar c = [c] :=
  (isEmailChar_of_isEmail email.valid c h).plain

/-- An address is in lower case. -/
theorem lower_email (email : Email) : lower email.value = email.value :=
  lower_eq_self fun _ hc => (isEmailChar_of_mem hc).2

/-- White space is not changed by `lower`. -/
theorem lowerChar_of_isSpace {c : Char} (h : isSpace c = true) : lowerChar c = [c] := by
  simp only [isSpace, decide_eq_true_eq, List.mem_cons, List.not_mem_nil, or_false] at h
  have hkelvin : c.toNat ≠ 0x212a := by omega
  have hdotted : c.toNat ≠ 0x130 := by omega
  have hcapital : ¬ (c.val ≥ 'A'.val ∧ c.val ≤ 'Z'.val) := by
    rintro ⟨hfirst, hlast⟩
    have hfirst : 65 ≤ c.toNat := UInt32.le_iff_toNat_le.mp hfirst
    have hlast : c.toNat ≤ 90 := UInt32.le_iff_toNat_le.mp hlast
    omega
  rw [lowerChar, if_neg hkelvin, if_neg hdotted]
  delta Char.toLower
  rw [dif_neg hcapital]

/-- A stored address that matches one has no white space. -/
theorem isSpace_of_matches {row : UserRow} {email : Email} (h : row.Matches email) :
    ∀ c ∈ row.email.toList, isSpace c = false := by
  intro c hc
  by_contra hspace
  have hspace : isSpace c = true := Bool.not_eq_false _ ▸ hspace
  have hlower : c ∈ (lower row.email).toList := by
    rw [lower, String.toList_ofList, List.mem_flatMap]
    exact ⟨c, hc, lowerChar_of_isSpace hspace ▸ List.mem_singleton_self c⟩
  rw [h, lower_email] at hlower
  rw [(isEmailChar_of_mem hlower).1] at hspace
  cases hspace

/-- An aggregate that has been read has the address of its row. -/
theorem email_of_toDomain {row : UserRow} {user : User} (hdomain : row.toDomain = .ok user) :
    user.email.value = lower (strip row.email) := by
  simp only [UserRow.toDomain, except_bind_eq_ok_iff] at hdomain
  obtain ⟨email, hemail, _, _, _, _, _, _, hdomain⟩ := hdomain
  cases hdomain
  exact Email.value_of hemail

/-- The aggregate of a row that has been found under an address has this address. -/
theorem email_of_matches {row : UserRow} {email : Email} {user : User} (h : row.Matches email)
    (hdomain : row.toDomain = .ok user) : user.email = email := by
  have hvalue : user.email.value = email.value := by
    rw [email_of_toDomain hdomain, strip_eq_self (isSpace_of_matches h), h, lower_email]
  cases hemail : user.email
  cases email
  rw [hemail] at hvalue
  cases hvalue
  rfl

/-- The execution has looked for the address, and if it has found a row, then under the id. -/
def Addressed (log : AccountLog) (id : UUID) (address : String) : Prop :=
  ∃ (email : Email) (found : Option UserRow),
    ⟨.getByEmail email, (.ok found : Except AccountError (Option UserRow))⟩ ∈ log ∧
      address = email.value ∧ ∀ row ∈ found, row.id = id

/-- The statements save readable rows whose address has been looked for, and change no others. -/
def AddressedSaves (log : AccountLog) (statements : List AccountStatement) : Prop :=
  ∀ statement ∈ statements, statement.target = none ∨ ∃ row user,
    statement = .saveUser row ∧ row.toDomain = .ok user ∧ Addressed log row.id row.email

/-- The contract of an execution about addresses. -/
def addressContract : Contract (Raising AccountError AccountOp.Ret) where
  allowed log op :=
    match op with
    | .commit statements => AddressedSaves log statements
    | .bumpAuthTokenVersion _ => False
    | _ => True
  possible
    | ⟨.getById userId, .ok (some row)⟩ => row.id = userId
    | ⟨.getByEmail email, .ok (some row)⟩ => row.Matches email
    | _ => True

instance : Admits addressContract where
  plain log op hplain := by
    cases op with
    | commit statements => cases hplain
    | bumpAuthTokenVersion userId => cases hplain
    | _ => trivial
  keyed _ _ h := h

/-- The store answers a query by address with the row of this address. -/
theorem possible_addressContract (choice : AccountChoice) (op : AccountOp) (s : AccountState) :
    addressContract.possible ⟨op, (AccountState.exec choice op s).1⟩ := by
  cases op with
  | getById userId =>
    simp only [AccountState.exec, AccountState.effect, AccountState.faulty]
    cases choice.fault with
    | some fault => trivial
    | none =>
      cases hrow : s.users.lookup userId with
      | none => trivial
      | some row => exact Table.key_of_lookup hrow
  | getByEmail email =>
    simp only [AccountState.exec, AccountState.effect, AccountState.faulty, AccountState.getByEmail]
    cases hrows : s.users.rows.filter fun row => lower row.email = lower email.value with
    | nil => cases choice.fault <;> trivial
    | cons row rows =>
      cases rows with
      | nil =>
        cases choice.fault with
        | some fault => trivial
        | none =>
          have hmem : row ∈ s.users.rows.filter fun row => lower row.email = lower email.value :=
            hrows ▸ List.mem_cons_self
          have hmatches := (List.mem_filter.mp hmem).2
          rw [decide_eq_true_eq] at hmatches
          exact hmatches
      | cons row' rows => trivial
  | _ => trivial

/-- A part of an execution that keeps the contract about addresses. -/
abbrev AddressRuled {α : Type} (log : AccountLog) (action : AccountAction α)
    (P : AccountLog → α → Prop) : Prop :=
  Ruled List.IsSuffix addressContract log action P

section Parts

variable {log log' : AccountLog} {user : User} {id : UUID} {address : String}
  {statements : List AccountStatement}

theorem Addressed.mono (h : Addressed log id address) (hlog : log <:+ log') :
    Addressed log' id address := by
  obtain ⟨email, found, hmem, h⟩ := h
  exact ⟨email, found, hlog.subset hmem, h⟩

theorem AddressedSaves.mono (h : AddressedSaves log statements) (hlog : log <:+ log') :
    AddressedSaves log' statements := by
  intro statement hmem
  refine (h statement hmem).imp_right ?_
  rintro ⟨row, user, hstatement, hdomain, haddressed⟩
  exact ⟨row, user, hstatement, hdomain, haddressed.mono hlog⟩

theorem addressedSaves_nil : AddressedSaves log [] := fun _ h => nomatch h

/-- What a query by address has found: nothing, or an aggregate with this address. -/
def FoundUnder (email : Email) (log : AccountLog) : Option User → Prop
  | none => ⟨.getByEmail email, (.ok none : Except AccountError (Option UserRow))⟩ ∈ log
  | some user => user.email = email ∧ Addressed log user.id user.email.value

theorem FoundUnder.mono {email : Email} {found : Option User} (h : FoundUnder email log found)
    (hlog : log <:+ log') : FoundUnder email log' found := by
  cases found with
  | none => exact hlog.subset h
  | some user => exact ⟨h.1, h.2.mono hlog⟩

theorem ruled_getByEmail_found {email : Email} :
    AddressRuled log (getByEmail email) (FoundUnder email) := by
  refine Ruled.bind (Ruled.query rfl) fun log' row _ hrow => ?_
  obtain ⟨hmem, hpossible⟩ := hrow
  cases row with
  | none => exact Ruled.pure hmem
  | some row =>
    refine Ruled.bind Ruled.orRaise fun log'' user hlog'' huser => Ruled.pure ?_
    have hemail : user.email = email := email_of_matches hpossible huser.2
    refine ⟨hemail, email, some row, hlog''.subset hmem, congrArg Email.value hemail, ?_⟩
    rintro _ ⟨⟩
    exact (UserRow.holds_of_toDomain huser.2).id_eq.symm

/-- The row of a save has the id and the address of the aggregate. -/
theorem ruled_prepareSave_address {pending : List AccountStatement} :
    AddressRuled log (prepareSave pending user) fun _ plan =>
      plan.row.id = user.id ∧ plan.row.email = user.email.value ∧
        WritesNoUser plan.remembered := by
  have hpassword (log' : AccountLog) :
      AddressRuled log' (storedPassword user) fun _ _ => True := by
    unfold storedPassword
    split
    · exact Ruled.pure trivial
    · exact Ruled.bind (Ruled.query rfl) fun _ _ _ _ => Ruled.pure trivial
  refine Ruled.bind (Ruled.query rfl) fun log' stored _ _ => ?_
  refine Ruled.bind (hpassword log') fun log'' password _ _ => Ruled.pure ?_
  exact ⟨rfl, rfl, writesNoUser_rememberNewPassword⟩

/-- A save inside a unit of work keeps the address. -/
theorem ruled_savePending_address {pending : List AccountStatement}
    (hpending : AddressedSaves log pending) (huser : Addressed log user.id user.email.value) :
    AddressRuled log (savePending pending user) fun log' saved =>
      Addressed log' saved.user.id saved.user.email.value ∧
        AddressedSaves log' saved.statements := by
  refine Ruled.bind ruled_prepareSave_address fun log' plan hlog' hplan => ?_
  obtain ⟨hid, hemail, hremembered⟩ := hplan
  refine Ruled.bind Ruled.orRaise fun log'' saved hlog'' hsaved => Ruled.pure ?_
  obtain ⟨rfl, hdomain⟩ := hsaved
  have huser := huser.mono hlog'
  have hmatches : plan.row.Matches user.email := congrArg lower hemail
  have hsavedEmail : saved.email = user.email := email_of_matches hmatches hdomain
  have hsavedId : saved.id = user.id := (UserRow.holds_of_toDomain hdomain).id_eq.trans hid
  constructor
  · rw [hsavedEmail, hsavedId]
    exact huser
  · intro statement hmem
    rcases List.mem_append.mp hmem with hmem | hmem
    · exact (hpending.mono hlog') statement hmem
    · rcases List.mem_cons.mp hmem with rfl | hmem
      · refine .inr ⟨plan.row, saved, rfl, hdomain, ?_⟩
        rw [hid, hemail]
        exact huser
      · exact .inl (hremembered statement hmem)

theorem ruled_commitAddressed (h : AddressedSaves log statements) :
    AddressRuled log (query (.commit statements)) fun _ _ => True :=
  (Ruled.call h fun _ => List.suffix_cons _ _).mono fun _ _ _ _ => trivial

theorem ruled_saveLink {token : OAuthToken} :
    AddressRuled log (serve (.saveOAuthToken token)) fun _ _ => True :=
  (Ruled.call trivial fun _ => List.suffix_cons _ _).mono fun _ _ _ _ => trivial

/-- What a provider login has settled may be saved under its address. -/
structure AddressedLink (log : AccountLog) (linked : LinkedAccount) : Prop where
  user : Addressed log linked.user.id linked.user.email.value
  pending : AddressedSaves log linked.pending

theorem ruled_recordLink_address {provider : OAuthProvider} {pending : List AccountStatement}
    {oauthTokenToSave : Option OAuthToken} (hpending : AddressedSaves log pending)
    (huser : Addressed log user.id user.email.value) :
    AddressRuled log (recordLink provider pending user oauthTokenToSave) AddressedLink := by
  have hlinked : Addressed log (user.linkOAuthProvider provider.value).id
      (user.linkOAuthProvider provider.value).email.value := huser
  refine Ruled.bind (ruled_savePending_address hpending hlinked) fun _ saved hlog hsaved => ?_
  refine Ruled.bind ruled_dispatchEvents fun _ _ hlog' _ => Ruled.pure ?_
  exact ⟨huser.mono (hlog.trans hlog'), hsaved.2.mono hlog'⟩

/-- A new account has the address that has not been found. -/
theorem addressed_registerNew {email : Email} {passwordHash : Option PasswordHash}
    {firstName lastName : String} {role : UserRole} {isVerified : Bool}
    (hnone : FoundUnder email log none)
    (h : User.registerNew id email passwordHash firstName lastName role isVerified = .ok user) :
    user.email = email ∧ Addressed log user.id user.email.value := by
  have hemail : user.email = email := by
    unfold User.registerNew at h
    split at h
    · cases h
    · obtain ⟨_, _, h⟩ := except_bind_eq_ok_iff.mp h
      cases h
      rfl
  exact ⟨hemail, email, none, hnone, congrArg Email.value hemail, nofun⟩

theorem ruled_createLinkedAccount_address {cmd : GoogleLoginCommand}
    (hnone : FoundUnder cmd.identity.email log none) :
    AddressRuled log (createLinkedAccount cmd) AddressedLink := by
  refine Ruled.bind (Ruled.query rfl) fun _ id hlog₁ _ => ?_
  refine Ruled.bind Ruled.presentOr fun _ role hlog₂ _ => ?_
  refine Ruled.bind Ruled.orRaise fun _ newUser hlog₃ huser => ?_
  have hnew := addressed_registerNew (hnone.mono ((hlog₁.trans hlog₂).trans hlog₃)) huser.2
  refine Ruled.bind (ruled_savePending_address addressedSaves_nil hnew.2)
    fun _ saved hlog₄ hsaved => ?_
  refine Ruled.bind ruled_dispatchEvents fun _ _ hlog₅ _ => ?_
  refine Ruled.bind (Ruled.query rfl) fun _ tokenId hlog₆ _ => ?_
  refine Ruled.bind ruled_saveLink fun _ _ hlog₇ _ => ?_
  have hlater := (hlog₅.trans hlog₆).trans hlog₇
  exact ruled_recordLink_address (hsaved.2.mono hlater) (hsaved.1.mono hlater)

theorem ruled_followDecision_address {cmd : GoogleLoginCommand} {decision : OAuthLinkingDecision}
    {account : Option User} {providerIdentityLink existingUserLink : Option OAuthToken}
    (hdecision : decision.action = .createAccount → account = none)
    (haccount : FoundUnder cmd.identity.email log account) :
    AddressRuled log (followDecision cmd decision account providerIdentityLink existingUserLink)
      AddressedLink := by
  unfold followDecision
  split
  · next haction =>
    rw [hdecision haction] at haccount
    exact ruled_createLinkedAccount_address haccount
  · exact ruled_createLinkedAccount_address haccount
  · exact Ruled.throw
  · exact Ruled.pure ⟨haccount.2, addressedSaves_nil⟩
  · refine Ruled.bind ruled_linkFor fun _ token hlog _ => ?_
    exact ruled_recordLink_address addressedSaves_nil (haccount.2.mono hlog)

theorem ruled_finishGoogleLogin_address {linked : LinkedAccount}
    (hlinked : AddressedLink log linked) (decision : AuthenticationDecision) :
    AddressRuled log (finishGoogleLogin linked decision) fun _ _ => True := by
  have hlink : AddressRuled log
      (linked.oauthTokenToSave.toList.forM fun token => serve (.saveOAuthToken token))
      fun _ _ => True :=
    Ruled.forM fun _ _ _ => ruled_saveLink
  unfold finishGoogleLogin
  split
  · refine Ruled.bind hlink fun _ _ hlog _ => ?_
    refine Ruled.bind (ruled_commitAddressed (hlinked.pending.mono hlog)) fun _ _ _ _ => ?_
    exact Ruled.pure trivial
  · refine Ruled.bind hlink fun _ _ hlog _ => ?_
    refine Ruled.bind (Ruled.query rfl) fun log' (now : Datetime) hlog' _ => ?_
    have hlater := hlog.trans hlog'
    have hlogin : Addressed log' (linked.user.recordLogin now).id
        (linked.user.recordLogin now).email.value := hlinked.user.mono hlater
    refine Ruled.bind (ruled_savePending_address (hlinked.pending.mono hlater) hlogin)
      fun _ saved _ hsaved => ?_
    refine Ruled.bind ruled_dispatchEvents fun _ _ hlog'' _ => ?_
    refine Ruled.bind (ruled_commitAddressed (hsaved.2.mono hlog'')) fun _ _ _ _ => ?_
    exact Ruled.pure trivial
  · exact Ruled.throw

/-- A provider login saves accounts under the address that it has looked for. -/
theorem ruled_signInWithGoogle_address (claims : GoogleClaims) (tokenData : GoogleTokenData)
    (signupRole : Option UserRole) :
    AddressRuled log (signInWithGoogle claims tokenData signupRole) fun _ _ => True := by
  refine Ruled.bind Ruled.orRaise fun _ info _ _ => ?_
  refine Ruled.bind (Ruled.query rfl) fun _ now _ _ => ?_
  refine Ruled.bind Ruled.orRaise fun _ cmd _ _ => ?_
  refine Ruled.ite (fun _ => Ruled.throw) fun _ => ?_
  refine Ruled.bind ruled_getByEmail_found fun log' account _ haccount => ?_
  have hexisting (log'' : AccountLog) : AddressRuled log''
      (existingLink cmd.identity.provider account) fun _ _ => True := by
    cases account with
    | none => exact Ruled.pure trivial
    | some user => exact (Ruled.query rfl).mono fun _ _ _ _ => trivial
  refine Ruled.bind (Ruled.query rfl) fun _ providerIdentityLink hlog _ => ?_
  refine Ruled.bind (hexisting _) fun _ existingUserLink hlog' _ => ?_
  refine Ruled.bind Ruled.orRaise fun _ decision hlog'' hdecision => ?_
  have hcreates : decision.action = .createAccount → account = none :=
    (decideLinking_createAccount hdecision.2).mp
  refine Ruled.bind (ruled_followDecision_address hcreates
    (haccount.mono ((hlog.trans hlog').trans hlog''))) fun _ linked _ hlinked => ?_
  refine Ruled.bind ruled_evaluateOAuthLogin fun _ login hlog _ => ?_
  exact ruled_finishGoogleLogin_address ⟨hlinked.user.mono hlog, hlinked.pending.mono hlog⟩ login

/-- A registration saves an account under the address that it has not found. -/
theorem ruled_registerAccount_address (email : Email)
    (plainPassword firstName lastName : String) (role : UserRole) :
    AddressRuled log (registerAccount email plainPassword firstName lastName role)
      fun _ _ => True := by
  refine Ruled.bind ruled_getByEmail_found fun _ existing _ hexisting => ?_
  refine Ruled.ite (fun _ => Ruled.throw) fun hnone => ?_
  rw [Option.not_isSome_iff_eq_none] at hnone
  rw [hnone] at hexisting
  refine Ruled.bind (Ruled.query rfl) fun _ encoded hlog₁ _ => ?_
  refine Ruled.bind (Ruled.query rfl) fun _ id hlog₂ _ => ?_
  refine Ruled.bind Ruled.orRaise fun _ passwordHash hlog₃ _ => ?_
  refine Ruled.bind Ruled.orRaise fun _ user hlog₄ huser => ?_
  have hlater := ((hlog₁.trans hlog₂).trans hlog₃).trans hlog₄
  have hnew := addressed_registerNew (hexisting.mono hlater) huser.2
  refine Ruled.bind (ruled_savePending_address addressedSaves_nil hnew.2)
    fun _ saved _ hsaved => ?_
  refine Ruled.bind ruled_dispatchEvents fun _ _ hlog _ => ?_
  exact ruled_commitAddressed (hsaved.2.mono hlog)

end Parts

/-- A hash that a row can hold. -/
def HashUsable (encoded : String) : Prop :=
  encoded ≠ "" ∧ containsControlCharacter encoded = false ∧ encoded.length ≤ 128

instance (encoded : String) : Decidable (HashUsable encoded) := inferInstanceAs (Decidable (_ ∧ _))

/-- The call raises, or answers what no registration goes on with. -/
def Disturbed : AccountCall → Prop
  | ⟨.getByEmail _, .ok (some row)⟩ => ∀ user, row.toDomain ≠ .ok user
  | ⟨.service (.hashPassword _), .ok encoded⟩ => ¬ HashUsable encoded
  | ⟨_, .ok _⟩ => False
  | ⟨_, .error _⟩ => True

/-- The call commits a row with the address. -/
def Creates (email : Email) : AccountCall → Prop
  | ⟨.commit statements, .ok _⟩ =>
    ∃ row ∈ statements.filterMap AccountStatement.savedRow, row.email = email.value
  | _ => False

instance (email : Email) (call : AccountCall) : Decidable (Creates email call) := by
  unfold Creates
  split <;> infer_instance

/-- The execution has committed a row with the address. -/
def Created (log : AccountLog) (email : Email) : Prop := ∃ call ∈ log, Creates email call

/-- What a registration commits: a new row with the address that it has not found. -/
structure RegistrationSaves (email : Email) (log : AccountLog)
    (statements : List AccountStatement) : Prop where
  saves : ∃ row remembered, statements = .saveUser row :: remembered ∧ WritesNoUser remembered ∧
    row.email = email.value ∧ row.authTokenVersion = 0 ∧ row.fits = true
  looked : ⟨.getByEmail email, (.ok none : Except AccountError (Option UserRow))⟩ ∈ log

/-- The contract of a registration that nothing disturbs. -/
def registrationContract (email : Email) : Contract (Raising AccountError AccountOp.Ret) where
  allowed log op :=
    match op with
    | .commit statements => RegistrationSaves email log statements
    | .getStored pending _ => pending = []
    | .getByEmail _ | .newId | .service _ => True
    | _ => False
  possible call := ¬ Disturbed call

/-- How such a registration ends: it has created the account, or the address was taken. -/
def Registered (email : Email) (log : AccountLog) (outcome : Except AccountError Unit) : Prop :=
  (outcome = .ok () ∧ Created log email) ∨
    ∃ message, outcome = .error (.duplicateUser message)

/-- The name and the role of a registration are accepted and fit into their columns. -/
def SignupCommand.Valid : SignupCommand → Prop
  | .registerAccount _ _ firstName lastName role => role ≠ .admin ∧
    strip firstName ≠ "" ∧ (strip firstName).length ≤ 150 ∧
      strip lastName ≠ "" ∧ (strip lastName).length ≤ 150
  | .googleLogin _ _ _ => True

section Registration

variable {email : Email} {log : AccountLog} {user : User}

/-- The search for the address of a registration. -/
theorem getByEmail_registration :
    (getByEmail email).Follows (registrationContract email) log fun log' outcome =>
      ∃ found, outcome = .ok found ∧ log <:+ log' ∧ (found = none →
        ⟨.getByEmail email, (.ok none : Except AccountError (Option UserRow))⟩ ∈ log') := by
  refine Follows.perform_bind_ok trivial (fun _ h => h trivial) fun row hrow => ?_
  cases row with
  | none => exact ⟨none, rfl, List.suffix_cons _ _, fun _ => List.mem_cons_self⟩
  | some row =>
    obtain ⟨user, huser⟩ := not_forall_not.mp hrow
    change Follows _ _ (orRaise row.toDomain >>= fun user => pure (some user)) _
    rw [huser]
    exact ⟨some user, rfl, List.suffix_cons _ _, nofun⟩

theorem dispatchEvents_registration :
    (dispatchEvents user).Follows (registrationContract email) log fun log' outcome =>
      outcome = .ok () ∧ log <:+ log' := by
  unfold dispatchEvents
  induction user.events generalizing log with
  | nil => exact ⟨rfl, List.suffix_rfl⟩
  | cons event events ih =>
    refine Follows.perform_bind_ok trivial (fun _ h => h trivial) fun _ _ => ?_
    exact ih.mono fun log' outcome h => ⟨h.1, (List.suffix_cons _ _).trans h.2⟩

/-- The save of a new account with a password that can be stored. -/
theorem savePending_registration {hash : PasswordHash} (hhash : user.passwordHash = some hash) :
    (savePending [] user).Follows (registrationContract email) log fun log' outcome =>
      ∃ saved, outcome = .ok saved ∧ log <:+ log' ∧ ∃ stored remembered, WritesNoUser remembered ∧
        saved.statements = .saveUser (UserRow.ofDomain user hash.value stored) :: remembered := by
  have hprepare : (prepareSave [] user).Follows (registrationContract email) log
      fun log' outcome => log <:+ log' ∧ ∃ stored remembered, WritesNoUser remembered ∧
        outcome = .ok ⟨UserRow.ofDomain user hash.value stored, remembered⟩ := by
    refine Follows.perform_bind_ok rfl (fun _ h => h trivial) fun stored _ => ?_
    unfold storedPassword
    rw [hhash]
    exact ⟨List.suffix_cons _ _, stored, _, writesNoUser_rememberNewPassword, rfl⟩
  refine Follows.bind hprepare (fun log' plan h => ?_) fun log' error h => ?_
  · obtain ⟨hlog', stored, remembered, hremembered, hplan⟩ := h
    cases hplan
    have hcolumn : PasswordColumn user hash.value := by
      refine ⟨fun other hother => ?_, fun hnone => ?_⟩
      · rw [hhash] at hother
        cases hother
        rfl
      · rw [hhash] at hnone
        cases hnone
    change Follows _ _ (orRaise (UserRow.toDomain _) >>= _) _
    rw [toDomain_ofDomain hcolumn]
    exact ⟨_, rfl, hlog', stored, remembered, hremembered, rfl⟩
  · obtain ⟨_, _, _, _, hplan⟩ := h
    cases hplan

/-- The aggregate of a valid registration. -/
theorem registerNew_valid (id : UUID) (email : Email) (hash : PasswordHash)
    {firstName lastName : String} {role : UserRole} (hrole : role ≠ .admin)
    (hfirst : strip firstName ≠ "") (hlast : strip lastName ≠ "") :
    ∃ user, User.registerNew id email (some hash) firstName lastName role false = .ok user ∧
      user.email = email ∧ user.passwordHash = some hash ∧ user.authTokenVersion = 0 ∧
        user.name.firstName = strip firstName ∧ user.name.lastName = strip lastName := by
  have hname : PersonName.of firstName lastName = .ok ⟨strip firstName, strip lastName, hfirst,
      hlast, strip_strip _, strip_strip _⟩ := by
    unfold PersonName.of
    rw [dif_pos hfirst, dif_pos hlast]
  unfold User.registerNew
  rw [if_neg hrole, hname]
  exact ⟨_, rfl, rfl, rfl, rfl, rfl, rfl⟩

/-- A valid registration that nothing disturbs creates the account or finds the address taken. -/
theorem registerAccount_registration {plainPassword firstName lastName : String} {role : UserRole}
    (hvalid : (SignupCommand.registerAccount email plainPassword firstName lastName role).Valid) :
    (registerAccount email plainPassword firstName lastName role).Follows
      (registrationContract email) [] (Registered email) := by
  obtain ⟨hrole, hfirst, hfirstFits, hlast, hlastFits⟩ := hvalid
  refine Follows.bind getByEmail_registration (fun log₁ existing h => ?_) fun _ _ h => ?_
  swap
  · obtain ⟨_, h, _⟩ := h
    cases h
  obtain ⟨_, hexisting, _, hlooked⟩ := h
  cases hexisting
  refine Follows.ite (fun _ => .inr ⟨_, rfl⟩) fun hnone => ?_
  have hlooked := hlooked (Option.not_isSome_iff_eq_none.mp hnone)
  refine Follows.perform_bind_ok trivial (fun _ h => h trivial)
    fun (encoded : String) hencoded => ?_
  obtain ⟨hnonempty, hsafe, hshort⟩ : HashUsable encoded := not_not.mp hencoded
  refine Follows.perform_bind_ok trivial (fun _ h => h trivial) fun (id : UUID) _ => ?_
  have hhash : PasswordHash.of encoded = .ok ⟨encoded, hnonempty, hsafe⟩ :=
    PasswordHash.of_value ⟨encoded, hnonempty, hsafe⟩
  change Follows _ _ (orRaise (PasswordHash.of encoded) >>= _) _
  rw [hhash]
  obtain ⟨user, huser, hemail, hpassword, hversion, hfirstName, hlastName⟩ :=
    registerNew_valid id email ⟨encoded, hnonempty, hsafe⟩ hrole hfirst hlast
  change Follows _ _ (orRaise (User.registerNew id email _ firstName lastName role false) >>= _) _
  rw [huser]
  change Follows _ _ (savePending [] user >>= _) _
  refine Follows.bind (savePending_registration hpassword) (fun log₂ saved h => ?_) fun _ _ h => ?_
  swap
  · obtain ⟨_, h, _⟩ := h
    cases h
  obtain ⟨_, hsaved, hlog₂, stored, remembered, hremembered, hstatements⟩ := h
  cases hsaved
  refine Follows.bind dispatchEvents_registration (fun log₃ _ h => ?_) fun _ _ h => ?_
  swap
  · cases h.1
  have hmem := h.2.subset (hlog₂.subset (List.mem_cons_of_mem _ (List.mem_cons_of_mem _ hlooked)))
  have hfits : (UserRow.ofDomain user encoded stored).fits = true := by
    unfold UserRow.fits UserRow.ofDomain
    rw [decide_eq_true_eq, hemail, hfirstName, hlastName]
    exact ⟨email.short, hshort, hfirstFits, hlastFits⟩
  have hsaves : RegistrationSaves email log₃ saved.statements :=
    ⟨⟨_, remembered, hstatements, hremembered, congrArg Email.value hemail, hversion, hfits⟩, hmem⟩
  refine follows_perform_iff.mpr ⟨hsaves, fun answer hpossible => ?_⟩
  cases answer with
  | error error => exact absurd trivial hpossible
  | ok answer =>
    refine .inl ⟨rfl, _, List.mem_cons_self, UserRow.ofDomain user encoded stored, ?_,
      congrArg Email.value hemail⟩
    rw [hstatements]
    exact List.mem_cons_self

end Registration

end Linkapro.Identity
