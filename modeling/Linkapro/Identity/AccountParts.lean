import Linkapro.Identity.AccountContract

/-!
# Identity: the parts of an account handler

One lemma for each part that the handlers share, from the load of the aggregate to
its save: the part follows the contract, and its log shows what the rest relies on.
-/

namespace Linkapro.Identity

open Lib Lib.Action

section Parts

variable {command : IdentityCommand} {held : Option UserRow} {log : AccountLog} {user : User}
  {α : Type}

theorem quiet_dispatchEvents (user : User) : Quiet command held (dispatchEvents user) :=
  Quiet.forM fun _ _ => Quiet.serve _

theorem quiet_revokeAllSessions (userId : UUID) (reason : String) :
    Quiet command held (revokeAllSessions accountSessions userId reason) := by
  refine Quiet.bind (Quiet.serve _) fun sessions => ?_
  exact Quiet.bind (Quiet.forM fun _ _ => Quiet.serve _) fun _ => Quiet.serve _

/-- What a load leaves behind: the aggregate of the row that is held from then on. -/
def Loads (P : UserRow → Prop) (log log' : AccountLog) : Option User → Prop
  | none => After none log log'
  | some user => ∃ row, After (some row) log log' ∧ row.toDomain = .ok user ∧ P row

/-- A computed outcome performs no call. -/
theorem orRaise_follows {outcome : Except AccountError α} :
    (orRaise outcome).Follows (accountContract command) log fun log' outcome' =>
      log' = log ∧ outcome' = outcome := by
  cases outcome with
  | ok value => exact ⟨rfl, rfl⟩
  | error error => exact ⟨rfl, rfl⟩

/-- The rest of an execution after a computed value. -/
theorem orRaise_bind_follows {β : Type} {value : β} {f : β → AccountAction α}
    {post : AccountLog → Except AccountError α → Prop}
    (h : (f value).Follows (accountContract command) log post) :
    Follows (accountContract command) log (orRaise (.ok value) >>= f) post :=
  h

/-- The rest of an execution after an aggregate that has been found. -/
theorem foundOr_bind_follows {message : String} {f : User → AccountAction α}
    {post : AccountLog → Except AccountError α → Prop}
    (h : (f user).Follows (accountContract command) log post) :
    Follows (accountContract command) log (foundOr message (some user) >>= f) post :=
  h

/-- The aggregate of a row that has just been read. -/
theorem rowToDomain_follows {P : UserRow → Prop} {row : Option UserRow} {log' : AccountLog}
    (h : After row log log') (hrow : ∀ found, row = some found → P found) :
    (rowToDomain row).Follows (accountContract command) log' fun log'' outcome =>
      ∀ found, outcome = .ok found → Loads P log log'' found := by
  cases row with
  | none =>
    rintro found ⟨⟩
    exact h
  | some row =>
    have hraise : (orRaise row.toDomain).Follows (accountContract command) log' _ := orRaise_follows
    refine Follows.bind hraise (fun log'' user huser => ?_) fun _ _ _ _ h => by cases h
    obtain ⟨rfl, hdomain⟩ := huser
    rintro found ⟨⟩
    exact ⟨row, h, hdomain.symm, hrow row rfl⟩

/-- The first load of an execution. -/
theorem getById_follows {userId : UUID} (hlog : heldRow log = none) :
    (getById userId).Follows (accountContract command) log fun log' outcome =>
      ∀ found, outcome = .ok found → Loads (fun row => row.id = userId) log log' found := by
  refine Follows.perform_bind trivial
    (fun row hpossible => rowToDomain_follows (.cons ?_ fun _ => id) ?_)
    fun error found h => by cases h
  · have hor : heldRow (⟨.getById userId, .ok row⟩ :: log) =
        (heldRow log).or (readRow ⟨.getById userId, .ok row⟩) := rfl
    rw [hor, hlog, Option.none_or]
    rfl
  · rintro found rfl
    exact hpossible

theorem getByEmail_follows {email : Email} (hlog : heldRow log = none) :
    (getByEmail email).Follows (accountContract command) log fun log' outcome =>
      ∀ found, outcome = .ok found → Loads (fun _ => True) log log' found := by
  refine Follows.perform_bind trivial
    (fun row _ => rowToDomain_follows (.cons ?_ fun _ => id) fun _ _ => trivial)
    fun error found h => by cases h
  have hor : heldRow (⟨.getByEmail email, .ok row⟩ :: log) =
      (heldRow log).or (readRow ⟨.getByEmail email, .ok row⟩) := rfl
  rw [hor, hlog, Option.none_or]
  rfl

/-- Continue with what a load has found. -/
theorem load_bind_safe {P : UserRow → Prop} {action : AccountAction (Option User)}
    {f : Option User → AccountAction α}
    (h : action.Follows (accountContract command) log fun log' outcome =>
      ∀ found, outcome = .ok found → Loads P log log' found)
    (hf : ∀ log' found, Loads P log log' found → Safe command log' (f found)) :
    Safe command log (action >>= f) :=
  Follows.bind h (fun log' found hfound => hf log' found (hfound found rfl)) fun _ _ _ => trivial

/-- A handler that loads an aggregate first and needs it. -/
theorem loadOr_safe {userId : UUID} {message : String} {f : User → AccountAction α}
    (hlog : heldRow log = none)
    (hf : ∀ log' row user, After (some row) log log' → row.toDomain = .ok user →
      Safe command log' (f user)) :
    Safe command log
      (do
        let found ← getById userId
        let user ← foundOr message found
        f user) := by
  refine load_bind_safe (getById_follows hlog) fun log' found hfound => ?_
  cases found with
  | none => trivial
  | some user =>
    obtain ⟨row, hlog', hdomain, _⟩ := hfound
    exact hf log' row user hlog' hdomain

/-- The saved row holds what the aggregate holds. -/
theorem holds_ofDomain {password : String} {stored : Option UserRow}
    (h : (user.passwordHash.map PasswordHash.value).filter isPasswordUsable =
      (some password).filter fun password => password ≠ "" ∧ isPasswordUsable password) :
    (UserRow.ofDomain user password stored).Holds user :=
  { id_eq := rfl, version_eq := rfl, role_eq := rfl, twoFactor_eq := rfl, active_eq := rfl
    verified_eq := rfl, password_eq := h }

/-- A password that is marked unusable cannot be checked. -/
theorem isPasswordUsable_marked (suffix : String) : isPasswordUsable ("!" ++ suffix) = false := by
  simp [isPasswordUsable, String.toList_append]

/-- The column of a password hash has its usable password. -/
theorem filter_value (hash : PasswordHash) :
    (some hash.value).filter isPasswordUsable =
      (some hash.value).filter fun password => password ≠ "" ∧ isPasswordUsable password := by
  have hnonempty := hash.nonempty
  simp only [Option.filter_some, ne_eq, hnonempty, not_false_eq_true, true_and, decide_eq_true_eq]

/-- The password column of a saved row. -/
theorem storedPassword_follows (hlog : heldRow log = held) :
    (storedPassword user).Follows (accountContract command) log fun log' outcome =>
      After held log log' ∧ ∀ password, outcome = .ok password →
        (user.passwordHash.map PasswordHash.value).filter isPasswordUsable =
          (some password).filter fun password => password ≠ "" ∧ isPasswordUsable password := by
  unfold storedPassword
  split
  · next hash hhash =>
    refine ⟨.refl hlog, fun password hpassword => ?_⟩
    cases hpassword
    rw [hhash, Option.map_some]
    exact filter_value hash
  · next hnone =>
    refine Follows.bind ((Quiet.serve _).follows log hlog) (fun log' suffix hlog' => ?_)
      fun log' error hlog' => ⟨hlog', fun _ h => by cases h⟩
    refine ⟨hlog', fun password hpassword => ?_⟩
    cases hpassword
    rw [hnone, Option.map_none, Option.filter_none, Option.filter_some,
      if_neg (by simp [isPasswordUsable_marked])]

/-- The statements after a save write no user row. -/
theorem writesNoUser_rememberNewPassword {previousPassword : Option String} :
    WritesNoUser (rememberNewPassword user previousPassword) := by
  unfold rememberNewPassword WritesNoUser
  split
  · split
    · simp [AccountStatement.target]
    · simp
  · simp

/-- The plan of a save: a row that holds the aggregate. -/
theorem prepareSave_follows {pending : List AccountStatement} (hlog : heldRow log = held) :
    (prepareSave pending user).Follows (accountContract command) log fun log' outcome =>
      After held log log' ∧ ∀ plan, outcome = .ok plan →
        plan.row.Holds user ∧ WritesNoUser plan.remembered := by
  refine Follows.bind ((Quiet.getStored _ _).follows log hlog) (fun log' stored hlog' => ?_)
    fun log' error hlog' => ⟨hlog', fun _ h => by cases h⟩
  refine Follows.bind (storedPassword_follows hlog'.held_eq) (fun log'' password h => ?_)
    fun log'' error h => ⟨hlog'.trans h.1, fun _ h => by cases h⟩
  refine ⟨hlog'.trans h.1, fun plan hplan => ?_⟩
  cases hplan
  exact ⟨holds_ofDomain (h.2 password rfl), writesNoUser_rememberNewPassword⟩

/-- What a save outside a unit of work leaves behind: the saved row is held. -/
def Saves (user : User) (log log' : AccountLog) : Prop :=
  ∃ row, After (some row) log log' ∧ row.Holds user

theorem save_follows (h : Savable command log user) :
    (save user).Follows (accountContract command) log fun log' outcome =>
      ∀ saved, outcome = .ok saved → Saves user log log' := by
  refine Follows.bind (prepareSave_follows rfl) (fun log' plan hplan => ?_)
    fun _ _ _ _ h => by cases h
  obtain ⟨hlog', hplan⟩ := hplan
  obtain ⟨hrow, hremembered⟩ := hplan plan rfl
  have hcommits : Commits command log' ([] ++ .saveUser plan.row :: []) :=
    .saves (fun _ hmem => by cases hmem) (fun _ hmem => by cases hmem) hrow (h.mono hlog')
  refine Follows.perform_bind hcommits (fun _ _ => ?_) fun _ _ h => by cases h
  have hheld : After (some plan.row) log' (⟨.commit [.saveUser plan.row], .ok ()⟩ :: log') := by
    refine .cons (if_neg fun hquiet => ?_) fun _ hid => ⟨Or.inr rfl, hid⟩
    have htarget : some plan.row.id = none := hquiet (.saveUser plan.row) List.mem_cons_self
    cases htarget
  have hforM : Quiet command (some plan.row)
      (plan.remembered.forM fun statement => query (.commit [statement])) :=
    Quiet.forM fun statement hmem => Quiet.commit fun statement' hmem' => by
      rw [List.mem_singleton.mp hmem']
      exact hremembered statement hmem
  have hrest := Quiet.bind hforM fun _ => Quiet.orRaise plan.row.toDomain
  refine (hrest.follows _ hheld.held_eq).mono fun log'' outcome hlog'' saved _ => ?_
  exact ⟨plan.row, (hlog'.trans hheld).trans hlog'', hrow⟩

theorem saveAndDispatch_follows (h : Savable command log user) :
    (saveAndDispatch user).Follows (accountContract command) log fun log' outcome =>
      outcome = .ok () → Saves user log log' := by
  refine Follows.bind (save_follows h) (fun log' saved hsaved => ?_) fun _ _ _ h => by cases h
  obtain ⟨row, hlog', hrow⟩ := hsaved saved rfl
  refine ((quiet_dispatchEvents user).follows log' hlog'.held_eq).mono fun log'' _ hlog'' _ => ?_
  exact ⟨row, hlog'.trans hlog'', hrow⟩

/-- A save before the rest of an execution. -/
theorem save_bind_safe {f : User → AccountAction α} (h : Savable command log user)
    (hf : ∀ log' saved, Saves user log log' → Safe command log' (f saved)) :
    Safe command log (save user >>= f) :=
  Follows.bind (save_follows h) (fun log' saved hsaved => hf log' saved (hsaved saved rfl))
    fun _ _ _ => trivial

theorem saveAndDispatch_bind_safe {f : Unit → AccountAction α} (h : Savable command log user)
    (hf : ∀ log', Saves user log log' → Safe command log' (f ())) :
    Safe command log (saveAndDispatch user >>= f) :=
  Follows.bind (saveAndDispatch_follows h) (fun log' _ hsaved => hf log' (hsaved rfl))
    fun _ _ _ => trivial

theorem saveAndDispatch_safe (h : Savable command log user) :
    Safe command log (saveAndDispatch user) :=
  (saveAndDispatch_follows h).mono fun _ _ _ => trivial

/-- What a save inside a unit of work leaves pending. -/
structure Pending (user : User) (pending : List AccountStatement) (saved : PendingSave) : Prop where
  statements : ∃ row back, saved.statements = pending ++ .saveUser row :: back ∧ row.Holds user ∧
    WritesNoUser back ∧ row.toDomain = .ok saved.user

theorem savePending_follows {pending : List AccountStatement} :
    (savePending pending user).Follows (accountContract command) log fun log' outcome =>
      ∀ saved, outcome = .ok saved → After (heldRow log) log log' ∧ Pending user pending saved := by
  refine Follows.bind (prepareSave_follows rfl) (fun log' plan hplan => ?_)
    fun _ _ _ _ h => by cases h
  obtain ⟨hlog', hplan⟩ := hplan
  obtain ⟨hrow, hremembered⟩ := hplan plan rfl
  cases hdomain : plan.row.toDomain with
  | error error => exact fun _ h => by cases h
  | ok saved =>
    intro _ h
    cases h
    exact ⟨hlog', ⟨plan.row, plan.remembered, rfl, hrow, hremembered, hdomain⟩⟩

theorem savePending_bind_safe {pending : List AccountStatement} {f : PendingSave → AccountAction α}
    (hf : ∀ log' saved, After (heldRow log) log log' → Pending user pending saved →
      Safe command log' (f saved)) :
    Safe command log (savePending pending user >>= f) := by
  refine Follows.bind savePending_follows (fun log' saved h => ?_) fun _ _ _ => trivial
  obtain ⟨hlog', hpending⟩ := h saved rfl
  exact hf log' saved hlog' hpending

/-- The commit of a unit of work whose last save is the one of the aggregate. -/
theorem commit_safe {pending : List AccountStatement} {saved : PendingSave}
    (h : Savable command log user) (hsaved : Pending user pending saved)
    (hpending : ∀ statement ∈ pending, statement.target = none ∨ statement.target = some user.id) :
    Safe command log (query (.commit saved.statements)) := by
  obtain ⟨row, back, hstatements, hrow, hback, _⟩ := hsaved.statements
  have hcommits : Commits command log saved.statements := by
    rw [hstatements]
    exact .saves (fun statement hmem => hrow.id_eq ▸ hpending statement hmem) hback hrow h
  exact ⟨hcommits, fun _ _ => trivial⟩

/-- After the check of the current password the log shows that it has matched. -/
theorem verifyCurrentPassword_follows {currentPassword : String} :
    (verifyCurrentPassword user currentPassword).Follows (accountContract command) log
      fun log' outcome => outcome = .ok () → After (heldRow log) log log' ∧
        ∃ hash, user.passwordHash = some hash ∧
          ⟨.service (.verifyPassword currentPassword hash),
            (.ok true : Except AccountError Bool)⟩ ∈ log' := by
  unfold verifyCurrentPassword
  split
  · exact fun h => by cases h
  · next hash hhash =>
    refine Follows.perform_bind trivial (fun matching _ => ?_) fun _ h => by cases h
    cases matching with
    | true => exact fun _ => ⟨.service, hash, hhash, List.mem_cons_self⟩
    | false => exact fun h => by cases h

theorem quiet_ensureNotReused (plainPassword : String) (history : List PasswordHash) :
    Quiet command held (ensureNotReused plainPassword history) :=
  Quiet.forM fun _ _ =>
    Quiet.bind (Quiet.serve _) fun _ => Quiet.ite (Quiet.throw _) (Quiet.pure _)

theorem quiet_getPasswordHistory {row : UserRow} (userId : UUID) :
    Quiet command (some row) (getPasswordHistory userId) := by
  refine Quiet.bind (Quiet.getById userId) fun stored => ?_
  cases stored with
  | none => exact Quiet.pure _
  | some stored =>
    refine Quiet.bind (Quiet.orRaise stored.passwordHash) fun _ => ?_
    refine Quiet.bind (Quiet.passwordHistory userId) fun _ => ?_
    exact Quiet.bind (Quiet.orRaise _) fun _ => Quiet.pure _

/-- The tokens of an aggregate may be minted while the execution holds its row. -/
theorem quiet_issueAuthenticatedTokens (h : user.authTokenVersion = 0 ∨
      ∃ row, held = some row ∧ user.id = row.id ∧ user.authTokenVersion = row.authTokenVersion) :
    Quiet command held (issueAuthenticatedTokens accountSessions user) := by
  have hmint (log : AccountLog) (claims : TokenClaims) (hid : claims.userId = user.id)
      (hversion : claims.authTokenVersion = user.authTokenVersion) (hlog : heldRow log = held) :
      Mints log claims := by
    rcases h with hzero | ⟨row, hheld, hrow, hrowVersion⟩
    · exact Or.inl (hversion.trans hzero)
    · exact Or.inr ⟨row, hlog.trans hheld, hid.trans hrow, hversion.trans hrowVersion⟩
  refine Quiet.bind (Quiet.serve _) fun family => ?_
  refine Quiet.bind (Quiet.serve _) fun sessionId => ?_
  refine Quiet.bind (Quiet.query (fun log hlog => hmint log _ rfl rfl hlog)
    (fun _ _ hlog => Option.or_none.trans hlog) fun _ _ _ => id) fun accessToken => ?_
  refine Quiet.bind (Quiet.query (fun log hlog => hmint log _ rfl rfl hlog)
    (fun _ _ hlog => Option.or_none.trans hlog) fun _ _ _ => id) fun refreshToken => ?_
  exact Quiet.pure _

theorem quiet_finalizeLogin {eligibility : AuthenticationEligibility}
    (h : user.authTokenVersion = 0 ∨
      ∃ row, held = some row ∧ user.id = row.id ∧ user.authTokenVersion = row.authTokenVersion) :
    Quiet command held (finalizeLogin user eligibility) := by
  refine Quiet.ite ?_ (quiet_issueAuthenticatedTokens h)
  refine Quiet.bind (Quiet.serve _) fun now => ?_
  refine Quiet.bind (Quiet.serve _) fun challengeId => ?_
  refine Quiet.bind (Quiet.serve _) fun _ => ?_
  exact Quiet.bind (Quiet.serve _) fun _ => Quiet.pure _

end Parts

end Linkapro.Identity
