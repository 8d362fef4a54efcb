import Mathlib.Data.List.Infix
import Linkapro.Lib.Sequential
import Linkapro.Identity.AccountTransactions

/-!
# Identity: executions that run alone

In a sequential run an execution finds the rows as it has loaded them. `RowEvolves`
says what it makes of the row of each user, and every token that it mints has at most
the version that the row of its user has at that time.
-/

namespace Linkapro.Identity

open Lib

/-- The rows that an execution has held, newest first. -/
def heldRows (log : AccountLog) : List UserRow := log.tails.filterMap heldRow

theorem mem_heldRows_of_held {log : AccountLog} {row : UserRow} (h : heldRow log = some row) :
    row ∈ heldRows log :=
  List.mem_filterMap.mpr ⟨log, (List.mem_tails _ _).mpr List.suffix_rfl, h⟩

theorem mem_heldRows_cons {log : AccountLog} {call : AccountCall} {row : UserRow}
    (h : row ∈ heldRows log) : row ∈ heldRows (call :: log) := by
  obtain ⟨earlier, hearlier, hrow⟩ := List.mem_filterMap.mp h
  have hsuffix := (List.mem_tails _ _).mp hearlier
  exact List.mem_filterMap.mpr
    ⟨earlier, (List.mem_tails _ _).mpr (hsuffix.trans (List.suffix_cons _ _)), hrow⟩

/-- The execution has held the row of a disabled account that is not verified. -/
def HeldDisabled (log : AccountLog) (userId : UUID) : Prop :=
  ∃ row ∈ heldRows log, row.id = userId ∧ row.isActive = false ∧ row.isVerified = false

instance (log : AccountLog) (userId : UUID) : Decidable (HeldDisabled log userId) :=
  inferInstanceAs (Decidable (∃ _ ∈ _, _))

/-- What an execution makes of the row of a user. -/
structure RowEvolves (command : IdentityCommand) (log : AccountLog) (before after : UserRow) :
    Prop where
  id_eq : after.id = before.id
  version_le : before.authTokenVersion ≤ after.authTokenVersion
  verified : before.isVerified = true → after.isVerified = true
  active : after.isActive = true → before.isActive = true ∨
    command.activatedUser = some before.id ∨ (command.verifies = true ∧ HeldDisabled log before.id)
  /-- What is kept as long as the token version is. -/
  rotated : after.authTokenVersion = before.authTokenVersion →
    after.role = before.role ∧ after.twoFactorEnabled = before.twoFactorEnabled ∧
      after.usablePassword = before.usablePassword ∧
      (before.isActive = true → after.isActive = true ∨ command.flaggedUser = some before.id)
  /-- The confirmation of a second factor, where there was none before. -/
  secret : command.enrolls = true → before.twoFactorEnabled = false →
    after.authTokenVersion = before.authTokenVersion → after.totpSecret = before.totpSecret

namespace RowEvolves

variable {command : IdentityCommand} {log : AccountLog} {first second third : UserRow}

theorem refl : RowEvolves command log first first where
  id_eq := rfl
  version_le := Nat.le_refl _
  verified := id
  active := Or.inl
  rotated _ := ⟨rfl, rfl, rfl, Or.inl⟩
  secret _ _ _ := rfl

theorem trans (h : RowEvolves command log first second) (h' : RowEvolves command log second third) :
    RowEvolves command log first third where
  id_eq := h'.id_eq.trans h.id_eq
  version_le := h.version_le.trans h'.version_le
  verified := h'.verified ∘ h.verified
  active hactive := by
    rcases h'.active hactive with hmiddle | hrest
    · exact h.active hmiddle
    · rw [h.id_eq] at hrest
      exact Or.inr hrest
  rotated hversion := by
    have hversion' : third.authTokenVersion = second.authTokenVersion := by
      have hle := h.version_le
      have hle' := h'.version_le
      omega
    obtain ⟨hrole, htwoFactor, hpassword, hactive⟩ := h.rotated (hversion'.symm.trans hversion)
    obtain ⟨hrole', htwoFactor', hpassword', hactive'⟩ := h'.rotated hversion'
    refine ⟨hrole'.trans hrole, htwoFactor'.trans htwoFactor, hpassword'.trans hpassword, ?_⟩
    intro hfirst
    rcases hactive hfirst with hsecond | hflagged
    · rw [h.id_eq] at hactive'
      exact hactive' hsecond
    · exact Or.inr hflagged
  secret henrolls htwoFactor hversion := by
    have hversion' : third.authTokenVersion = second.authTokenVersion := by
      have hle := h.version_le
      have hle' := h'.version_le
      omega
    have hversion'' := hversion'.symm.trans hversion
    have htwoFactor' := (h.rotated hversion'').2.1.trans htwoFactor
    exact (h'.secret henrolls htwoFactor' hversion').trans (h.secret henrolls htwoFactor hversion'')

theorem mono {call : AccountCall} (h : RowEvolves command log first second) :
    RowEvolves command (call :: log) first second :=
  { h with
    active := fun hactive => (h.active hactive).imp_right fun hrest => hrest.imp_right
      fun ⟨hverifies, row, hrow, hdisabled⟩ =>
        ⟨hverifies, row, mem_heldRows_cons hrow, hdisabled⟩ }

/-- A save of what a command makes of the stored row. -/
theorem of_evolves {held row : UserRow} {before user : User} (hheld : heldRow log = some held)
    (hbefore : held.toDomain = .ok before) (hevolves : Evolves command log before user)
    (hrow : row.Holds user) : RowEvolves command log held row := by
  have hheld' := UserRow.holds_of_toDomain hbefore
  have hid : row.id = held.id :=
    hrow.id_eq.symm.trans (hevolves.id_eq.trans hheld'.id_eq)
  refine
    { id_eq := hid
      version_le := ?_
      verified := fun h => ?_
      active := fun h => ?_
      rotated := fun h => ?_
      secret := fun henrolls htwoFactor hversion => ?_ }
  · rw [← hrow.version_eq, ← hheld'.version_eq]
    exact hevolves.version_le
  · exact hrow.verified_eq.symm.trans (hevolves.verified (hheld'.verified_eq.trans h))
  · by_cases hactive : held.isActive = true
    · exact Or.inl hactive
    · rcases hevolves.active (hrow.active_eq.trans h) with hwas | hactivates | ⟨hverifies, hunverified⟩
      · exact Or.inl (hheld'.active_eq.symm.trans hwas)
      · rw [hheld'.id_eq] at hactivates
        exact Or.inr (Or.inl hactivates)
      · refine Or.inr (Or.inr ⟨hverifies, held, mem_heldRows_of_held hheld, rfl, ?_, ?_⟩)
        · exact Bool.eq_false_iff.mpr hactive
        · exact hheld'.verified_eq.symm.trans hunverified
  · rw [← hrow.version_eq, ← hheld'.version_eq] at h
    obtain ⟨hrole, htwoFactor, hpassword, hactive⟩ := hevolves.rotated h
    refine ⟨?_, ?_, ?_, fun hheldActive => Or.inl ?_⟩
    · rw [← hrow.role_eq, hrole, hheld'.role_eq]
    · rw [← hrow.twoFactor_eq, htwoFactor, hheld'.twoFactor_eq]
    · rw [← hrow.password_eq, ← hheld'.password_eq, User.usablePassword, hpassword,
        User.usablePassword]
    · exact hrow.active_eq.symm.trans (hactive (hheld'.active_eq.trans hheldActive))
  · rw [← hrow.version_eq, ← hheld'.version_eq] at hversion
    have hsame := (hevolves.rotated hversion).2.1
    rw [hevolves.enrolled henrolls, hheld'.twoFactor_eq, htwoFactor] at hsame
    cases hsame

end RowEvolves

/-- A token of a user has at most the version of the row of this user. -/
def AccountState.Dated (s : AccountState) (entry : Option String × Option ℤ) : Prop :=
  ∃ (userId : UUID) (version : ℕ), entry = (some (uuidText userId), some (version : ℤ)) ∧
    (version = 0 ∨ ∃ row, s.users.lookup userId = some row ∧ version ≤ row.authTokenVersion)

/-- What an execution that runs alone has made of a state. -/
structure Alone (command : IdentityCommand) (before : AccountState) (log : AccountLog)
    (s : AccountState) : Prop where
  held : ∀ row, heldRow log = some row → s.users.lookup row.id = some row
  drawn : heldRow log = none → ∀ id, Drawn id log → s.users.lookup id = none
  evolves : ∀ userId row, before.users.lookup userId = some row →
    ∃ row', s.users.lookup userId = some row' ∧ RowEvolves command log row row'
  dated : ∀ entry ∈ s.minted, s.Dated entry

section Calls

variable {command : IdentityCommand} {before s : AccountState} {log : AccountLog} {op : AccountOp}
  {choice : AccountChoice} {userId : UUID}

/-- A successful call has taken its effect. -/
theorem effect_of_exec_ok {answer : op.Ret} (h : (AccountState.exec choice op s).1 = .ok answer) :
    AccountState.effect choice s op = .ok (answer, (AccountState.exec choice op s).2) := by
  unfold AccountState.exec AccountState.faulty at h ⊢
  cases heffect : AccountState.effect choice s op with
  | error error =>
    rw [heffect] at h
    cases h
  | ok outcome =>
    rw [heffect] at h
    cases hfault : choice.fault with
    | none =>
      rw [hfault] at h
      cases h
      rfl
    | some fault =>
      rw [hfault] at h
      cases h

/-- Only transactions and the update of a token version write user rows. -/
theorem exec_users_of_quiet (hcommit : ∀ statements, op ≠ .commit statements)
    (hbump : ∀ userId, op ≠ .bumpAuthTokenVersion userId) :
    (AccountState.exec choice op s).2.users = s.users := by
  rcases exec_state choice op s with hsame | ⟨answer, after, heffect, hafter⟩
  · rw [hsame]
  · rw [hafter]
    rcases effect_ok heffect with ⟨statements, rfl, _⟩ | ⟨other, updated, rfl, _⟩ |
      ⟨claims, _, husers, _⟩ | rfl
    · exact absurd rfl (hcommit statements)
    · exact absurd rfl (hbump other)
    · exact husers
    · rfl

theorem heldRow_cons_of_ne (hcommit : ∀ statements, op ≠ .commit statements)
    (answer : Except AccountError op.Ret) :
    heldRow (⟨op, answer⟩ :: log) = (heldRow log).or (readRow ⟨op, answer⟩) := by
  cases op with
  | commit statements => exact absurd rfl (hcommit statements)
  | _ => rfl

/-- A row that a call has read is stored. -/
theorem lookup_of_readRow {row : UserRow}
    (h : readRow ⟨op, (AccountState.exec choice op s).1⟩ = some row) :
    s.users.lookup row.id = some row := by
  cases hanswer : (AccountState.exec choice op s).1 with
  | error error =>
    rw [hanswer] at h
    cases op <;> cases h
  | ok answer =>
    have heffect := effect_of_exec_ok hanswer
    rw [hanswer] at h
    cases op with
    | getById userId =>
      have hanswer' : s.users.lookup userId = answer := (Prod.mk.inj (Except.ok.inj heffect)).1
      have hrow : answer = some row := h
      rw [hrow] at hanswer'
      rwa [Table.key_of_lookup hanswer']
    | getByEmail email =>
      obtain ⟨found, hfound, heq⟩ := except_map_eq_ok_iff.mp heffect
      have hrow : found = some row := (Prod.mk.inj heq).1.trans h
      subst hrow
      unfold AccountState.getByEmail at hfound
      split at hfound
      · cases hfound
      · next row' hrows =>
        cases hfound
        have hmem : row ∈ s.users.rows.filter fun row => lower row.email = lower email.value := by
          rw [hrows]
          exact List.mem_singleton_self _
        exact Table.lookup_of_mem (List.mem_of_mem_filter hmem)
      · cases hfound
    | _ => cases h

/-- A transaction that writes a user row writes the row of a target. -/
theorem not_writesNoUser {statements : List AccountStatement} {statement : AccountStatement}
    (hmem : statement ∈ statements) (htarget : statement.target = some userId) :
    ¬ WritesNoUser statements := fun hquiet => by
  have hnone := hquiet statement hmem
  rw [htarget] at hnone
  cases hnone

/-- The last saved row of a transaction with one save. -/
theorem lastSaved_saves {front back : List AccountStatement} {row : UserRow}
    (hback : WritesNoUser back) : lastSaved (front ++ .saveUser row :: back) = some row := by
  have hnone : back.filterMap AccountStatement.savedRow = [] := by
    refine List.filterMap_eq_nil_iff.mpr fun statement hmem => ?_
    have htarget := hback statement hmem
    cases statement with
    | saveUser row => cases htarget
    | _ => rfl
  rw [lastSaved, List.filterMap_append, List.filterMap_cons]
  simp [AccountStatement.savedRow, hnone]

/-- The held row stays the stored one. -/
theorem Alone.held_exec (h : Alone command before log s)
    (hop : (accountContract command).allowed log op) (row : UserRow)
    (hrow : heldRow (⟨op, (AccountState.exec choice op s).1⟩ :: log) = some row) :
    (AccountState.exec choice op s).2.users.lookup row.id = some row := by
  by_cases hcommit : ∃ statements, op = .commit statements
  · obtain ⟨statements, rfl⟩ := hcommit
    have hop : Commits command log statements := hop
    cases hanswer : (AccountState.exec choice (.commit statements) s).1 with
    | error error =>
      rw [hanswer] at hrow
      by_cases hquiet : WritesNoUser statements
      · have hheld : heldRow log = some row := (if_pos hquiet).symm.trans hrow
        rcases exec_state choice (.commit statements) s with hsame | ⟨_, after, heffect, hafter⟩
        · rw [hsame]
          exact h.held row hheld
        · obtain ⟨after', happly, heq⟩ := except_map_eq_ok_iff.mp heffect
          rw [hafter, ← (Prod.mk.inj heq).2, AccountState.lookup_applyAll_of_quiet happly hquiet]
          exact h.held row hheld
      · have hnone : (none : Option UserRow) = some row := (if_neg hquiet).symm.trans hrow
        cases hnone
    | ok answer =>
      rw [hanswer] at hrow
      obtain ⟨after, happly, heq⟩ := except_map_eq_ok_iff.mp (effect_of_exec_ok hanswer)
      rw [← (Prod.mk.inj heq).2]
      cases hop with
      | quiet hquiet =>
        rw [AccountState.lookup_applyAll_of_quiet happly hquiet]
        exact h.held row ((if_pos hquiet).symm.trans hrow)
      | @saves front back saved user hfront hback hholds huser =>
        have hwrites := not_writesNoUser
          (List.mem_append_right front (List.mem_cons_self (a := .saveUser saved) (l := back))) rfl
        have hlast : lastSaved (front ++ .saveUser saved :: back) = some row :=
          (if_neg hwrites).symm.trans hrow
        rw [lastSaved_saves hback] at hlast
        cases hlast
        exact AccountState.lookup_applyAll_saves happly hback
      | @flags other isActive hflags =>
        have hwrites : ¬ WritesNoUser [.updateIsActive other isActive] :=
          not_writesNoUser List.mem_cons_self rfl
        have hlast : lastSaved [.updateIsActive other isActive] = some row :=
          (if_neg hwrites).symm.trans hrow
        cases hlast
  · have hcommit : ∀ statements, op ≠ .commit statements := fun statements heq =>
      hcommit ⟨statements, heq⟩
    rw [heldRow_cons_of_ne hcommit] at hrow
    by_cases hbump : ∃ userId, op = .bumpAuthTokenVersion userId
    · obtain ⟨userId, rfl⟩ := hbump
      have hnone : heldRow log = none := hop
      rw [hnone] at hrow
      cases hrow
    · have hbump : ∀ userId, op ≠ .bumpAuthTokenVersion userId := fun userId heq =>
        hbump ⟨userId, heq⟩
      rw [exec_users_of_quiet hcommit hbump]
      cases hheld : heldRow log with
      | some held =>
        rw [hheld] at hrow
        cases hrow
        exact h.held row hheld
      | none =>
        rw [hheld] at hrow
        exact lookup_of_readRow hrow

/-- A drawn id stays the key of no row until the execution holds its row. -/
theorem Alone.drawn_exec (h : Alone command before log s)
    (hop : (accountContract command).allowed log op)
    (hheld : heldRow (⟨op, (AccountState.exec choice op s).1⟩ :: log) = none) (id : UUID)
    (hid : Drawn id (⟨op, (AccountState.exec choice op s).1⟩ :: log)) :
    (AccountState.exec choice op s).2.users.lookup id = none := by
  have hwrites := writes_exec hop choice s id
  cases op with
  | commit statements =>
    have hquiet : WritesNoUser statements := by
      by_contra hwritesUser
      generalize (AccountState.exec choice (.commit statements) s).1 = answer at hheld hid
      cases answer with
      | error error => exact hwritesUser hid.1
      | ok answer =>
        have hlast : lastSaved statements = none := (if_neg hwritesUser).symm.trans hheld
        rcases hid.1 with hquiet | hsome
        · exact hwritesUser hquiet
        · rw [hlast] at hsome
          cases hsome
    have hheld' : heldRow log = none ∧ Drawn id log := by
      generalize (AccountState.exec choice (.commit statements) s).1 = answer at hheld hid
      cases answer with
      | error error => exact ⟨(if_pos hquiet).symm.trans hheld, hid.2⟩
      | ok answer => exact ⟨(if_pos hquiet).symm.trans hheld, hid.2⟩
    have hnone := h.drawn hheld'.1 id hheld'.2
    rcases exec_state choice (.commit statements) s with hsame | ⟨_, after, heffect, hafter⟩
    · rw [hsame]
      exact hnone
    · obtain ⟨after', happly, heq⟩ := except_map_eq_ok_iff.mp heffect
      rw [hafter, ← (Prod.mk.inj heq).2, AccountState.lookup_applyAll_of_quiet happly hquiet]
      exact hnone
  | bumpAuthTokenVersion userId =>
    rw [h.drawn hop id hid] at hwrites
    generalize (AccountState.exec choice (.bumpAuthTokenVersion userId) s).2.users.lookup id = after
      at hwrites ⊢
    cases hwrites with
    | leaves => rfl
    | saves hsaved => cases hsaved
  | newId =>
    have hheld' : heldRow log = none := (Option.or_eq_none_iff.mp hheld).1
    rw [exec_users_of_quiet (by simp) (by simp)]
    rcases hid with hanswer | hid
    · obtain ⟨uuid, hnew, heq⟩ := except_map_eq_ok_iff.mp (effect_of_exec_ok hanswer)
      have huuid : uuid = id := (Prod.mk.inj heq).1
      subst huuid
      unfold AccountState.newId at hnew
      split at hnew
      · cases hnew
      · next hnone =>
        cases hnew
        exact Option.not_isSome_iff_eq_none.mp hnone
    · exact h.drawn hheld' id hid
  | _ =>
    have hheld' : heldRow log = none := (Option.or_eq_none_iff.mp hheld).1
    rw [exec_users_of_quiet (by simp) (by simp)]
    exact h.drawn hheld' id hid

/-- What an allowed call makes of a stored row. -/
theorem Alone.evolves_exec (h : Alone command before log s)
    (hop : (accountContract command).allowed log op) {row : UserRow}
    (hrow : s.users.lookup userId = some row) :
    ∃ row', (AccountState.exec choice op s).2.users.lookup userId = some row' ∧
      RowEvolves command log row row' := by
  have hwrites := writes_exec hop choice s userId
  rw [hrow] at hwrites
  generalize (AccountState.exec choice op s).2.users.lookup userId = after at hwrites
  cases hwrites with
  | leaves => exact ⟨row, rfl, .refl⟩
  | @saves _ saved user hsaved hid hholds huser =>
    refine ⟨saved, rfl, ?_⟩
    cases huser with
    | created _ hnone hdrawn =>
      have hnew := h.drawn hnone _ hdrawn
      rw [hholds.id_eq, hid, hrow] at hnew
      cases hnew
    | evolved held loaded hheld hloaded hevolves =>
      have hstored := h.held held hheld
      have hheldId : held.id = userId := by
        rw [← hid, ← hholds.id_eq, hevolves.id_eq, (UserRow.holds_of_toDomain hloaded).id_eq]
      rw [hheldId, hrow] at hstored
      cases hstored
      exact .of_evolves hheld hloaded hevolves hholds
  | @flags _ isActive hflags =>
    have hid : row.id = userId := Table.key_of_lookup hrow
    refine ⟨_, rfl,
      { id_eq := rfl
        version_le := Nat.le_refl _
        verified := id
        active := fun hactive => ?_
        rotated := fun _ => ?_
        secret := fun _ _ _ => rfl }⟩
    · have hactive : isActive = true := hactive
      rw [hactive, if_pos rfl, ← hid] at hflags
      exact Or.inr (Or.inl hflags)
    · refine ⟨rfl, rfl, rfl, fun _ => ?_⟩
      cases isActive with
      | true => exact Or.inl rfl
      | false =>
        rw [if_neg Bool.false_ne_true, ← hid] at hflags
        exact Or.inr hflags
  | bumps =>
    exact ⟨_, rfl,
      { id_eq := rfl
        version_le := Nat.le_succ _
        verified := id
        active := Or.inl
        rotated := fun hversion => absurd hversion (Nat.succ_ne_self _)
        secret := fun _ _ _ => rfl }⟩

/-- What an allowed call mints is dated by the row of its user. -/
theorem Alone.dated_exec (h : Alone command before log s)
    (hop : (accountContract command).allowed log op) (entry : Option String × Option ℤ)
    (hentry : entry ∈ (AccountState.exec choice op s).2.minted) :
    (AccountState.exec choice op s).2.Dated entry := by
  rcases minted_exec hentry with hold | ⟨claims, hclaims, rfl⟩
  · obtain ⟨userId, version, rfl, hversion⟩ := h.dated entry hold
    refine ⟨userId, version, rfl, hversion.imp_right ?_⟩
    rintro ⟨row, hrow, hle⟩
    obtain ⟨row', hrow', hevolves⟩ := h.evolves_exec hop hrow
    exact ⟨row', hrow', hle.trans hevolves.version_le⟩
  · have hmints : Mints log claims := by
      cases op with
      | createAccessToken claims' =>
        cases hclaims
        exact hop
      | createRefreshToken claims' =>
        cases hclaims
        exact hop
      | _ => cases hclaims
    refine ⟨claims.userId, claims.authTokenVersion, rfl, hmints.imp_right ?_⟩
    rintro ⟨row, hheld, huser, hversion⟩
    obtain ⟨row', hrow', hevolves⟩ := h.evolves_exec hop (huser ▸ h.held row hheld)
    exact ⟨row', hrow', hversion ▸ hevolves.version_le⟩

end Calls

/-- The allowed calls of an execution that runs alone keep what it has made of the state. -/
theorem keepsAlone (command : IdentityCommand) (before : AccountState) :
    KeepsAlone AccountState.exec (accountContract command) (Alone command before) := by
  intro log s choice op h hop
  refine ⟨possible_exec command choice op s, ?_⟩
  refine
    { held := h.held_exec hop
      drawn := h.drawn_exec hop
      evolves := fun userId row hrow => ?_
      dated := h.dated_exec hop }
  obtain ⟨row', hrow', hevolves⟩ := h.evolves userId row hrow
  obtain ⟨row'', hrow'', hevolves'⟩ := h.evolves_exec hop hrow'
  exact ⟨row'', hrow'', (hevolves.trans hevolves').mono⟩

/-- An execution of a command alone. -/
def runCommand (command : IdentityCommand) (choices : List AccountChoice) (s : AccountState) :
    LoneRun AccountState (Raising AccountError AccountOp.Ret) (Except AccountError Unit) :=
  runAlone AccountState.exec choices command.program.run [] s

/-- What an execution alone makes of a state whose tokens are dated. -/
theorem alone_runCommand (command : IdentityCommand) (choices : List AccountChoice)
    {s : AccountState} (hdated : ∀ entry ∈ s.minted, s.Dated entry) :
    Alone command s (runCommand command choices s).log (runCommand command choices s).state := by
  have hstart : Alone command s [] s :=
    { held := fun _ h => by cases h
      drawn := fun _ _ h => h.elim
      evolves := fun _ row hrow => ⟨row, hrow, .refl⟩
      dated := hdated }
  exact (Program.Follows.runAlone (keepsAlone command s) command.safe hstart choices).1

end Linkapro.Identity
