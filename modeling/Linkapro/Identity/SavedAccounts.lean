import Linkapro.Identity.InterleavedAccounts
import Linkapro.Identity.AccountRuns

/-!
# Identity: a saved account, read again

What `get_by_id` returns after `save`. The row has two flags for six statuses, and its
column `last_login` is not written, so an aggregate comes back as it was exactly when
its status is one of the four that the flags stand for and the stored login is its own.
-/

namespace Linkapro.Identity

open Lib Lib.Action

/-- The fields of an aggregate, without the events that have not been dispatched. -/
def User.fields (user : User) : User := { user with events := [] }

/-- The statuses that two stored flags stand for. -/
def AccountStatus.isStored : AccountStatus → Bool
  | .active | .pendingVerification | .deactivated | .deactivatedPendingVerification => true
  | .suspended | .locked => false

theorem AccountStatus.ofFlags_eq_iff (status : AccountStatus) :
    ofFlags status.isActive status.isVerified = status ↔ status.isStored = true := by
  cases status <;> decide

/-- An aggregate is kept by a save into a state and a load. -/
structure KeptBySave (s : AccountState) (user : User) : Prop where
  status : user.status.isStored = true
  lastLogin : user.lastLogin = (s.users.lookup user.id).bind UserRow.lastLogin
  password : (user.passwordHash.all fun hash => isPasswordUsable hash.value) = true

/-- The aggregate that a load makes of a saved row. -/
def User.reloaded (user : User) (lastLogin : Option Datetime) : User :=
  { user with
    passwordHash := user.passwordHash.filter fun hash => isPasswordUsable hash.value
    status := .ofFlags user.isActive user.isVerified
    lastLogin
    events := [] }

/-- A password column that `save` writes. -/
structure PasswordColumn (user : User) (password : String) : Prop where
  hashed : ∀ hash, user.passwordHash = some hash → password = hash.value
  unusable : user.passwordHash = none → isPasswordUsable password = false

theorem passwordHash_ofDomain {user : User} {password : String}
    (hpassword : PasswordColumn user password) (stored : Option UserRow) :
    (UserRow.ofDomain user password stored).passwordHash =
      .ok (user.passwordHash.filter fun hash => isPasswordUsable hash.value) := by
  unfold UserRow.passwordHash UserRow.usablePassword UserRow.ofDomain
  cases hhash : user.passwordHash with
  | none => simp [Option.filter, hpassword.unusable hhash]
  | some hash =>
    rw [hpassword.hashed hash hhash]
    cases husable : isPasswordUsable hash.value with
    | false => simp [Option.filter, husable]
    | true => simp [Option.filter, husable, hash.nonempty, PasswordHash.of_value, Except.map]

/-- A saved row becomes an aggregate again. -/
theorem toDomain_ofDomain {user : User} {password : String}
    (hpassword : PasswordColumn user password) (stored : Option UserRow) :
    (UserRow.ofDomain user password stored).toDomain =
      .ok (user.reloaded (stored.bind UserRow.lastLogin)) := by
  unfold UserRow.toDomain
  rw [passwordHash_ofDomain hpassword]
  simp only [UserRow.ofDomain, Email.of_value, UserRole.of_value, PersonName.of_parts]
  rfl

/-- When the aggregate that is loaded again has the fields of the saved one. -/
theorem reloaded_eq_fields_iff {s : AccountState} {user : User} :
    user.reloaded ((s.users.lookup user.id).bind UserRow.lastLogin) = user.fields ↔
      KeptBySave s user := by
  have hfilter : (user.passwordHash.filter fun hash => isPasswordUsable hash.value) =
      user.passwordHash ↔
        (user.passwordHash.all fun hash => isPasswordUsable hash.value) = true := by
    cases user.passwordHash with
    | none => simp
    | some hash => simp [Option.filter_eq_some_iff]
  constructor
  · intro h
    rw [User.reloaded, User.fields, User.mk.injEq] at h
    obtain ⟨_, _, hpassword, _, _, _, _, hstatus, hlogin, _⟩ := h
    exact
      { status := user.status.ofFlags_eq_iff.mp hstatus
        lastLogin := hlogin.symm
        password := hfilter.mp hpassword }
  · intro h
    rw [User.reloaded, User.fields, hfilter.mpr h.password, ← h.lastLogin, User.isActive,
      User.isVerified, user.status.ofFlags_eq_iff.mpr h.status]

variable {s after : AccountState} {user : User}

/-- A call that succeeds has taken its effect. -/
theorem effect_of_succeeds {op : AccountOp} {answer : op.Ret}
    (h : (query op).Succeeds AccountState.exec s answer after) :
    ∃ choice, AccountState.effect choice s op = .ok (answer, after) := by
  obtain ⟨choice, hexec⟩ := succeeds_perform_iff.mp h
  have heffect := effect_of_exec_ok (congrArg Prod.fst hexec)
  rw [congrArg Prod.snd hexec] at heffect
  exact ⟨choice, heffect⟩

/-- A transaction that commits has applied its statements. -/
theorem commit_succeeds {statements : List AccountStatement} {answer : Unit}
    (h : (query (.commit statements)).Succeeds AccountState.exec s answer after) :
    s.applyAll statements = .ok after := by
  obtain ⟨choice, heffect⟩ := effect_of_succeeds h
  obtain ⟨after', happly, heq⟩ := except_map_eq_ok_iff.mp heffect
  rw [happly, (Prod.mk.inj heq).2]

theorem storedPassword_succeeds {password : String}
    (h : (storedPassword user).Succeeds AccountState.exec s password after) :
    after = s ∧ PasswordColumn user password := by
  unfold storedPassword at h
  cases hhash : user.passwordHash with
  | some hash =>
    rw [hhash] at h
    obtain ⟨rfl, rfl⟩ := succeeds_pure_iff.mp h
    refine ⟨rfl, ⟨fun hash' hhash' => ?_, fun hnone => ?_⟩⟩
    · rw [Option.some.inj (hhash.symm.trans hhash')]
    · cases hhash.symm.trans hnone
  | none =>
    rw [hhash] at h
    obtain ⟨suffix, middle, hsuffix, hpure⟩ := succeeds_bind_iff.mp h
    obtain ⟨choice, heffect⟩ := effect_of_succeeds hsuffix
    have hsame : s = middle := (Prod.mk.inj (Except.ok.inj heffect)).2
    obtain ⟨hpassword, hafter⟩ := succeeds_pure_iff.mp hpure
    refine ⟨hafter.trans hsame.symm, ⟨fun hash' hhash' => ?_, fun _ => ?_⟩⟩
    · cases hhash.symm.trans hhash'
    · rw [hpassword]
      simp [isPasswordUsable]

/-- What a save is going to write comes from the aggregate and the stored row. -/
theorem prepareSave_succeeds {plan : SavePlan}
    (h : (prepareSave [] user).Succeeds AccountState.exec s plan after) :
    after = s ∧ WritesNoUser plan.remembered ∧ ∃ password, PasswordColumn user password ∧
      plan.row = UserRow.ofDomain user password (s.users.lookup user.id) := by
  obtain ⟨stored, middle, hstored, hrest⟩ := succeeds_bind_iff.mp h
  obtain ⟨choice, heffect⟩ := effect_of_succeeds hstored
  have heq : (s.users.lookup user.id, s) = (stored, middle) := Except.ok.inj heffect
  obtain ⟨hlookup, hmiddle⟩ := Prod.mk.inj heq
  obtain ⟨password, middle', hpassword, hpure⟩ := succeeds_bind_iff.mp hrest
  obtain ⟨hmiddle', hcolumn⟩ := storedPassword_succeeds hpassword
  obtain ⟨hplan, hafter⟩ := succeeds_pure_iff.mp hpure
  refine ⟨hafter.trans (hmiddle'.trans hmiddle.symm), ?_, password, hcolumn, ?_⟩
  · rw [hplan]
    exact writesNoUser_rememberNewPassword
  · rw [hplan, hlookup]

/-- Statements that write no user row, each committed on its own, leave all rows. -/
theorem users_of_remembered {statements : List AccountStatement} (hquiet : WritesNoUser statements)
    {outcome : Unit} (h : (statements.forM fun statement => query (.commit [statement])).Succeeds
      AccountState.exec s outcome after) (userId : UUID) :
    after.users.lookup userId = s.users.lookup userId := by
  induction statements generalizing s with
  | nil => rw [(succeeds_pure_iff.mp h).2]
  | cons statement statements ih =>
    obtain ⟨_, middle, hcommit, hrest⟩ := succeeds_bind_iff.mp h
    rw [ih (fun statement' hmem => hquiet statement' (List.mem_cons_of_mem _ hmem)) hrest]
    refine AccountState.lookup_applyAll_of_quiet (commit_succeeds hcommit) fun statement' hmem => ?_
    rw [List.mem_singleton.mp hmem]
    exact hquiet statement List.mem_cons_self

theorem orRaise_succeeds {α : Type} {result : Except AccountError α} {value : α}
    (h : (orRaise result).Succeeds AccountState.exec s value after) :
    result = .ok value ∧ after = s := by
  cases result with
  | error error => exact (succeeds_throw_iff.mp h).elim
  | ok value' =>
    obtain ⟨rfl, rfl⟩ := succeeds_pure_iff.mp h
    exact ⟨rfl, rfl⟩

/-- After a save the row of the aggregate is stored. -/
theorem save_succeeds {saved : User} (h : (save user).Succeeds AccountState.exec s saved after) :
    ∃ password, PasswordColumn user password ∧ after.users.lookup user.id =
      some (UserRow.ofDomain user password (s.users.lookup user.id)) := by
  obtain ⟨plan, planned, hplan, hcommits⟩ := succeeds_bind_iff.mp h
  obtain ⟨hplanned, hquiet, password, hpassword, hrow⟩ := prepareSave_succeeds hplan
  obtain ⟨_, committed, hcommit, hrest⟩ := succeeds_bind_iff.mp hcommits
  obtain ⟨_, remembered, hremembered, hdomain⟩ := succeeds_bind_iff.mp hrest
  have hid : plan.row.id = user.id := by rw [hrow]; rfl
  have happly : planned.applyAll ([] ++ .saveUser plan.row :: []) = .ok committed :=
    commit_succeeds hcommit
  refine ⟨password, hpassword, ?_⟩
  rw [(orRaise_succeeds hdomain).2, users_of_remembered hquiet hremembered, ← hrow, ← hid]
  exact AccountState.lookup_applyAll_saves happly fun _ hmem => by cases hmem

/-- A save alone. -/
def runSave (user : User) (choices : List AccountChoice) (s : AccountState) :
    LoneRun AccountState (Raising AccountError AccountOp.Ret) (Except AccountError User) :=
  runAlone AccountState.exec choices (save user).run [] s

/-- A load alone, which is one call. -/
def runGetById (userId : UUID) (choice : AccountChoice) (s : AccountState) :
    LoneRun AccountState (Raising AccountError AccountOp.Ret) (Except AccountError (Option User)) :=
  runAlone AccountState.exec [choice] (getById userId).run [] s

/-- A load without a fault returns the aggregate of the row. -/
theorem value_runGetById {choice : AccountChoice} (hfault : choice.fault = none) {userId : UUID}
    {row : UserRow} (hrow : s.users.lookup userId = some row) :
    (runGetById userId choice s).value = some (row.toDomain.map some) := by
  have hexec : AccountState.exec choice (.getById userId) s = (.ok (some row), s) := by
    simp only [AccountState.exec, AccountState.faulty, AccountState.effect, hfault, hrow]
  have hrun : runGetById userId choice s = runAlone AccountState.exec []
      (rowToDomain (some row)).run [⟨.getById userId, .ok (some row)⟩] s :=
    runAlone_perform_bind hexec
  rw [hrun]
  cases hdomain : row.toDomain with
  | error error => simp only [rowToDomain, hdomain]; rfl
  | ok found => simp only [rowToDomain, hdomain]; rfl

/-- After a save that returns, the aggregate that is loaded has the fields of the saved one
exactly when the save keeps it. -/
theorem reloaded_iff_keptBySave {saved : User} {choices : List AccountChoice}
    (hsave : (runSave user choices s).value = some (.ok saved)) {choice : AccountChoice}
    (hfault : choice.fault = none) :
    (∃ found, (runGetById user.id choice (runSave user choices s).state).value =
        some (.ok (some found)) ∧ found.fields = user.fields) ↔ KeptBySave s user := by
  obtain ⟨password, hpassword, hrow⟩ := save_succeeds (Program.runs_of_runAlone hsave)
  have hload := value_runGetById hfault hrow
  rw [toDomain_ofDomain hpassword] at hload
  rw [← reloaded_eq_fields_iff, runSave, hload]
  constructor
  · rintro ⟨found, hfound, hfields⟩
    have hsame : some _ = some found := Except.ok.inj (Option.some.inj hfound)
    rw [← hfields, ← Option.some.inj hsame]
    rfl
  · exact fun h => ⟨_, rfl, h⟩

/-- The aggregate of the verified planner. -/
def sampleUser : User where
  id := 1
  email := ⟨"user@example.com", by decide +kernel, by decide +kernel⟩
  passwordHash := some ⟨"pbkdf2_sha256$old", by decide, by decide +kernel⟩
  name := ⟨"Ada", "Byron", by decide, by decide, by decide +kernel, by decide +kernel⟩
  role := .planner
  twoFactorEnabled := false
  authTokenVersion := 0
  status := .active
  lastLogin := none
  events := []

/-- The time of a login that has been recorded and saved is gone when the account is loaded. -/
theorem login_lost_by_save :
    sampleRow.toDomain = .ok sampleUser ∧
      (runSave (sampleUser.recordLogin 1000) [calmChoice, calmChoice] sampleAccounts).value =
        some (.ok sampleUser) ∧
      ¬ ∃ found, (runGetById 1 calmChoice (runSave (sampleUser.recordLogin 1000)
          [calmChoice, calmChoice] sampleAccounts).state).value = some (.ok (some found)) ∧
        found.fields = (sampleUser.recordLogin 1000).fields := by
  have hloaded : (runGetById 1 calmChoice (runSave (sampleUser.recordLogin 1000)
      [calmChoice, calmChoice] sampleAccounts).state).value = some (.ok (some sampleUser)) := by
    decide +kernel
  refine ⟨by decide +kernel, by decide +kernel, ?_⟩
  rintro ⟨found, hfound, hfields⟩
  rw [hloaded] at hfound
  rw [← Option.some.inj (Except.ok.inj (Option.some.inj hfound))] at hfields
  exact absurd (congrArg User.lastLogin hfields) (by decide)

/-- The planner is kept by a save. -/
theorem reloaded_iff_keptBySave_sample :
    ∃ found, (runGetById 1 calmChoice (runSave sampleUser [calmChoice, calmChoice]
        sampleAccounts).state).value = some (.ok (some found)) ∧
      found.fields = sampleUser.fields := by
  have hsave : (runSave sampleUser [calmChoice, calmChoice] sampleAccounts).value =
      some (.ok sampleUser) := by
    decide +kernel
  exact (reloaded_iff_keptBySave hsave rfl).mpr ⟨rfl, by decide +kernel, by decide +kernel⟩

end Linkapro.Identity
