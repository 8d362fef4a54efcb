import Linkapro.Identity.AccountExecutions

/-!
# Identity: what one call makes of the stored rows

An allowed call leaves the row of every user, or it writes one row: a saved row, a
row with another active flag, or a row with the next token version. The saved row is
compared with the row that the execution has held.
-/

namespace Linkapro.Identity

open Lib

namespace AccountState

variable {s s' : AccountState} {statements : List AccountStatement} {userId : UUID}

theorem lookup_updateUser_of_ne {other : UUID} {change : UserRow → UserRow}
    (hchange : ∀ row, (change row).id = row.id) (h : other ≠ userId) :
    (s.updateUser other change).users.lookup userId = s.users.lookup userId := by
  unfold updateUser
  split
  · rfl
  · next row hrow =>
    refine Table.lookup_upsert_of_ne ?_
    rw [hchange, Table.key_of_lookup hrow]
    exact h

/-- A save writes the row. -/
theorem apply_saveUser_ok {row : UserRow} (h : s.apply (.saveUser row) = .ok s') :
    s'.users = s.users.upsert row := by
  simp only [apply] at h
  split at h
  · cases h
  · split at h
    · cases h
    · split at h
      · cases h
      · cases h
        rfl

/-- A statement writes no row but that of its target. -/
theorem lookup_apply_of_ne {statement : AccountStatement} (h : s.apply statement = .ok s')
    (htarget : statement.target ≠ some userId) :
    s'.users.lookup userId = s.users.lookup userId := by
  have hne {other : UUID} (h : some other ≠ some userId) : other ≠ userId := fun heq =>
    h (congrArg some heq)
  cases statement with
  | saveUser row =>
    rw [apply_saveUser_ok h]
    exact Table.lookup_upsert_of_ne (hne htarget)
  | rememberPasswordHash other passwordHash =>
    cases h
    rfl
  | setTotpSecret other totpSecret =>
    cases h
    exact lookup_updateUser_of_ne (fun _ => rfl) (hne htarget)
  | clearTotpSecret other =>
    cases h
    exact lookup_updateUser_of_ne (fun _ => rfl) (hne htarget)
  | updateIsActive other isActive =>
    cases h
    exact lookup_updateUser_of_ne (fun _ => rfl) (hne htarget)

/-- The statements of a transaction take effect one after another. -/
theorem applyAll_cons_ok {statement : AccountStatement} :
    s.applyAll (statement :: statements) = .ok s' ↔
      ∃ middle, s.apply statement = .ok middle ∧ middle.applyAll statements = .ok s' := by
  unfold applyAll
  rw [List.foldlM_cons, except_bind_eq_ok_iff]

theorem applyAll_append_ok {front back : List AccountStatement} :
    s.applyAll (front ++ back) = .ok s' ↔
      ∃ middle, s.applyAll front = .ok middle ∧ middle.applyAll back = .ok s' := by
  unfold applyAll
  rw [List.foldlM_append, except_bind_eq_ok_iff]

/-- A transaction writes no row but those of its targets. -/
theorem lookup_applyAll_of_ne (h : s.applyAll statements = .ok s')
    (htargets : ∀ statement ∈ statements, statement.target ≠ some userId) :
    s'.users.lookup userId = s.users.lookup userId := by
  induction statements generalizing s with
  | nil =>
    cases h
    rfl
  | cons statement statements ih =>
    obtain ⟨middle, hstatement, hrest⟩ := applyAll_cons_ok.mp h
    rw [ih hrest fun statement hmem => htargets statement (List.mem_cons_of_mem _ hmem)]
    exact lookup_apply_of_ne hstatement (htargets statement List.mem_cons_self)

/-- A transaction that writes no user row leaves all of them. -/
theorem lookup_applyAll_of_quiet (h : s.applyAll statements = .ok s')
    (hquiet : WritesNoUser statements) : s'.users.lookup userId = s.users.lookup userId := by
  refine lookup_applyAll_of_ne h fun statement hmem => ?_
  rw [hquiet statement hmem]
  exact Option.some_ne_none _ |>.symm

/-- After a transaction whose last write is a save, the saved row is stored. -/
theorem lookup_applyAll_saves {front back : List AccountStatement} {row : UserRow}
    (h : s.applyAll (front ++ .saveUser row :: back) = .ok s') (hback : WritesNoUser back) :
    s'.users.lookup row.id = some row := by
  obtain ⟨middle, _, hrest⟩ := applyAll_append_ok.mp h
  obtain ⟨middle', hsave, hback'⟩ := applyAll_cons_ok.mp hrest
  rw [lookup_applyAll_of_quiet hback' hback, apply_saveUser_ok hsave]
  exact Table.lookup_upsert_self

/-- A transaction about one user leaves the rows of all others. -/
theorem lookup_applyAll_saves_of_ne {front back : List AccountStatement} {row : UserRow}
    (h : s.applyAll (front ++ .saveUser row :: back) = .ok s')
    (hfront : ∀ statement ∈ front, statement.target = none ∨ statement.target = some row.id)
    (hback : WritesNoUser back) (hne : row.id ≠ userId) :
    s'.users.lookup userId = s.users.lookup userId := by
  have hother : some row.id ≠ some userId := fun heq => hne (Option.some.inj heq)
  refine lookup_applyAll_of_ne h fun statement hmem => ?_
  rw [List.mem_append, List.mem_cons] at hmem
  rcases hmem with hmem | rfl | hmem
  · rcases hfront statement hmem with htarget | htarget
    · rw [htarget]
      exact (Option.some_ne_none _).symm
    · rwa [htarget]
  · exact hother
  · rw [hback statement hmem]
    exact (Option.some_ne_none _).symm

theorem lookup_updateUser_self {change : UserRow → UserRow}
    (hchange : ∀ row, (change row).id = row.id) :
    (s.updateUser userId change).users.lookup userId = (s.users.lookup userId).map change := by
  unfold updateUser
  split
  · next hnone => rw [hnone, Option.map_none]
  · next row hrow =>
    have hkey : (change row).id = userId := (hchange row).trans (Table.key_of_lookup hrow)
    rw [hrow, Option.map_some, Table.lookup_upsert, if_pos hkey]

/-- The user and the token version of every token that has been signed. -/
def minted (s : AccountState) : List (Option String × Option ℤ) :=
  s.accessTokens.map (fun token => (token.userId, token.authTokenVersion)) ++
    s.refreshTokens.map fun token => (token.userId, token.authTokenVersion)

theorem minted_updateUser {change : UserRow → UserRow} :
    (s.updateUser userId change).minted = s.minted := by
  unfold updateUser
  split
  · rfl
  · rfl

/-- A statement signs no token. -/
theorem minted_apply {statement : AccountStatement} (h : s.apply statement = .ok s') :
    s'.minted = s.minted := by
  cases statement with
  | saveUser row =>
    simp only [apply] at h
    split at h
    · cases h
    · split at h
      · cases h
      · split at h
        · cases h
        · cases h
          rfl
  | rememberPasswordHash userId passwordHash =>
    cases h
    rfl
  | setTotpSecret userId totpSecret =>
    cases h
    exact minted_updateUser
  | clearTotpSecret userId =>
    cases h
    exact minted_updateUser
  | updateIsActive userId isActive =>
    cases h
    exact minted_updateUser

theorem minted_applyAll (h : s.applyAll statements = .ok s') : s'.minted = s.minted := by
  induction statements generalizing s with
  | nil =>
    cases h
    rfl
  | cons statement statements ih =>
    obtain ⟨middle, hstatement, hrest⟩ := applyAll_cons_ok.mp h
    exact (ih hrest).trans (minted_apply hstatement)

theorem minted_bump {updated : ℕ} (h : s.bumpAuthTokenVersion userId = .ok (updated, s')) :
    s'.minted = s.minted := by
  unfold bumpAuthTokenVersion at h
  split at h
  · cases h
    rfl
  · split at h
    · cases h
    · cases h
      rfl

end AccountState

/-- What an allowed call may make of the stored row of one user. -/
inductive Writes (command : IdentityCommand) (log : AccountLog) (op : AccountOp) (userId : UUID) :
    Option UserRow → Option UserRow → Prop where
  | leaves {row : Option UserRow} : Writes command log op userId row row
  | saves {before : Option UserRow} {row : UserRow} {user : User}
      (hsaved : row ∈ op.savedRows) (hid : row.id = userId) (hrow : row.Holds user)
      (huser : Savable command log user) : Writes command log op userId before (some row)
  | flags {row : UserRow} {isActive : Bool}
      (h : (if isActive then command.activatedUser else command.flaggedUser) = some userId) :
      Writes command log op userId (some row) (some { row with isActive })
  | bumps {row : UserRow} (hheld : heldRow log = none) :
      Writes command log op userId (some row)
        (some { row with authTokenVersion := row.authTokenVersion + 1 })

/-- A call leaves the state or takes the effect that it has without a fault. -/
theorem exec_state (choice : AccountChoice) (op : AccountOp) (s : AccountState) :
    (AccountState.exec choice op s).2 = s ∨ ∃ answer after,
      AccountState.effect choice s op = .ok (answer, after) ∧
        (AccountState.exec choice op s).2 = after := by
  unfold AccountState.exec AccountState.faulty
  cases heffect : AccountState.effect choice s op with
  | error error => exact Or.inl rfl
  | ok outcome =>
    cases choice.fault with
    | none => exact Or.inr ⟨_, _, rfl, rfl⟩
    | some fault =>
      by_cases happlied : fault.applied = true
      · exact Or.inr ⟨_, _, rfl, by simp only [happlied, if_true]⟩
      · exact Or.inl (by simp only [happlied, if_false, Bool.false_eq_true])

/-- The claims that a call mints a token for. -/
def AccountOp.claims : AccountOp → Option TokenClaims
  | .createAccessToken claims | .createRefreshToken claims => some claims
  | _ => none

/-- What a call without a fault makes of the state. -/
theorem effect_ok {choice : AccountChoice} {s after : AccountState} {op : AccountOp}
    {answer : op.Ret} (h : AccountState.effect choice s op = .ok (answer, after)) :
    (∃ statements, op = .commit statements ∧ s.applyAll statements = .ok after) ∨
      (∃ userId updated, op = .bumpAuthTokenVersion userId ∧
        s.bumpAuthTokenVersion userId = .ok (updated, after)) ∨
      (∃ claims, op.claims = some claims ∧ after.users = s.users ∧ ∀ entry ∈ after.minted,
        entry = (some (uuidText claims.userId), some (claims.authTokenVersion : ℤ)) ∨
          entry ∈ s.minted) ∨
      after = s := by
  cases op with
  | commit statements =>
    obtain ⟨after', happly, h⟩ := except_map_eq_ok_iff.mp h
    exact Or.inl ⟨statements, rfl, (Prod.mk.inj h).2 ▸ happly⟩
  | bumpAuthTokenVersion userId => exact Or.inr (Or.inl ⟨userId, answer, rfl, h⟩)
  | getByEmail email =>
    obtain ⟨_, _, h⟩ := except_map_eq_ok_iff.mp h
    exact Or.inr (Or.inr (Or.inr (Prod.mk.inj h).2.symm))
  | getStored pending userId =>
    obtain ⟨_, _, h⟩ := except_map_eq_ok_iff.mp h
    exact Or.inr (Or.inr (Or.inr (Prod.mk.inj h).2.symm))
  | newId =>
    obtain ⟨_, _, h⟩ := except_map_eq_ok_iff.mp h
    exact Or.inr (Or.inr (Or.inr (Prod.mk.inj h).2.symm))
  | createAccessToken claims =>
    rw [← (Prod.mk.inj (Except.ok.inj h)).2]
    refine Or.inr (Or.inr (Or.inl ⟨claims, rfl, rfl, fun entry hentry => ?_⟩))
    exact List.mem_cons.mp hentry
  | createRefreshToken claims =>
    rw [← (Prod.mk.inj (Except.ok.inj h)).2]
    refine Or.inr (Or.inr (Or.inl ⟨claims, rfl, rfl, fun entry hentry => ?_⟩))
    have hmem : entry ∈ s.accessTokens.map (fun token => (token.userId, token.authTokenVersion)) ++
        (some (uuidText claims.userId), some (claims.authTokenVersion : ℤ)) ::
          s.refreshTokens.map (fun token => (token.userId, token.authTokenVersion)) := hentry
    rw [List.mem_append, List.mem_cons] at hmem
    rcases hmem with hmem | hmem | hmem
    · exact Or.inr (List.mem_append_left _ hmem)
    · exact Or.inl hmem
    · exact Or.inr (List.mem_append_right _ hmem)
  | _ => exact Or.inr (Or.inr (Or.inr (Prod.mk.inj (Except.ok.inj h)).2.symm))

/-- A committed transaction writes the row of a user in one of the ways above. -/
theorem Commits.writes {command : IdentityCommand} {log : AccountLog}
    {statements : List AccountStatement} {s after : AccountState}
    (h : Commits command log statements) (happly : s.applyAll statements = .ok after)
    (userId : UUID) :
    Writes command log (.commit statements) userId (s.users.lookup userId)
      (after.users.lookup userId) := by
  cases h with
  | quiet hquiet =>
    rw [AccountState.lookup_applyAll_of_quiet happly hquiet]
    exact .leaves
  | @saves front back row user hfront hback hrow huser =>
    by_cases hid : row.id = userId
    · rw [← hid, AccountState.lookup_applyAll_saves happly hback]
      exact .saves (by simp [AccountOp.savedRows, AccountStatement.savedRow]) rfl hrow huser
    · rw [AccountState.lookup_applyAll_saves_of_ne happly hfront hback hid]
      exact .leaves
  | @flags other isActive hflags =>
    obtain ⟨middle, hstatement, hrest⟩ := AccountState.applyAll_cons_ok.mp happly
    cases hrest
    cases hstatement
    have hchange : ∀ row : UserRow, { row with isActive }.id = row.id := fun _ => rfl
    by_cases hid : other = userId
    · subst hid
      rw [AccountState.lookup_updateUser_self hchange]
      cases s.users.lookup other with
      | none => exact .leaves
      | some row => exact .flags hflags
    · rw [AccountState.lookup_updateUser_of_ne hchange hid]
      exact .leaves

/-- The update of a token version writes the row of its user. -/
theorem writes_bump {command : IdentityCommand} {log : AccountLog} {s after : AccountState}
    {other : UUID} {updated : ℕ} (hheld : heldRow log = none)
    (h : s.bumpAuthTokenVersion other = .ok (updated, after)) (userId : UUID) :
    Writes command log (.bumpAuthTokenVersion other) userId (s.users.lookup userId)
      (after.users.lookup userId) := by
  unfold AccountState.bumpAuthTokenVersion at h
  split at h
  · cases h
    exact .leaves
  · next row hrow =>
    split at h
    · cases h
    · cases h
      have hkey : row.id = other := Table.key_of_lookup hrow
      by_cases hid : other = userId
      · subst hid
        rw [hrow, Table.lookup_upsert, if_pos hkey]
        exact .bumps hheld
      · have hother : ({ row with authTokenVersion := row.authTokenVersion + 1 } : UserRow).id ≠
            userId := fun heq => hid (hkey.symm.trans heq)
        rw [Table.lookup_upsert_of_ne hother]
        exact .leaves

/-- An allowed call writes the row of a user in one of the ways above. -/
theorem writes_exec {command : IdentityCommand} {log : AccountLog} {op : AccountOp}
    (h : (accountContract command).allowed log op) (choice : AccountChoice) (s : AccountState)
    (userId : UUID) :
    Writes command log op userId (s.users.lookup userId)
      ((AccountState.exec choice op s).2.users.lookup userId) := by
  rcases exec_state choice op s with hsame | ⟨answer, after, heffect, hafter⟩
  · rw [hsame]
    exact .leaves
  · rw [hafter]
    rcases effect_ok heffect with ⟨statements, rfl, happly⟩ | ⟨other, updated, rfl, hbump⟩ |
      ⟨claims, _, husers, _⟩ | rfl
    · exact Commits.writes h happly userId
    · exact writes_bump h hbump userId
    · rw [husers]
      exact .leaves
    · exact .leaves

/-- A call signs no token but the one that it mints. -/
theorem minted_exec {choice : AccountChoice} {op : AccountOp} {s : AccountState}
    {entry : Option String × Option ℤ} (h : entry ∈ (AccountState.exec choice op s).2.minted) :
    entry ∈ s.minted ∨ ∃ claims, op.claims = some claims ∧
      entry = (some (uuidText claims.userId), some (claims.authTokenVersion : ℤ)) := by
  rcases exec_state choice op s with hsame | ⟨answer, after, heffect, hafter⟩
  · exact Or.inl (hsame ▸ h)
  · rw [hafter] at h
    rcases effect_ok heffect with ⟨statements, rfl, happly⟩ | ⟨other, updated, rfl, hbump⟩ |
      ⟨claims, hclaims, _, hminted⟩ | rfl
    · exact Or.inl (AccountState.minted_applyAll happly ▸ h)
    · exact Or.inl (AccountState.minted_bump hbump ▸ h)
    · exact (hminted entry h).symm.imp_right fun hentry => ⟨claims, hclaims, hentry⟩
    · exact Or.inl h

/-- A row has the role and the password of another one. -/
structure UserRow.SameCredentials (row stored : UserRow) : Prop where
  role_eq : row.role = stored.role
  password_eq : row.password = stored.password

theorem UserRow.SameCredentials.refl {row : UserRow} : row.SameCredentials row := ⟨rfl, rfl⟩

theorem UserRow.SameCredentials.trans {first second third : UserRow}
    (h : first.SameCredentials second) (h' : second.SameCredentials third) :
    first.SameCredentials third :=
  ⟨h.role_eq.trans h'.role_eq, h.password_eq.trans h'.password_eq⟩

namespace AccountState

variable {s s' : AccountState} {userId : UUID} {row : UserRow}

/-- The row of a user has the credentials of a row that was stored or has been saved. -/
def Originates (s : AccountState) (saved : List UserRow) (userId : UUID) (row : UserRow) : Prop :=
  ∃ stored, (s.users.lookup userId = some stored ∨ (stored ∈ saved ∧ stored.id = userId)) ∧
    row.SameCredentials stored

theorem originates_updateUser {other : UUID} {change : UserRow → UserRow}
    (hrow : (s.updateUser other change).users.lookup userId = some row)
    (hid : ∀ row, (change row).id = row.id) (hsame : ∀ row, (change row).SameCredentials row) :
    s.Originates [] userId row := by
  by_cases hother : other = userId
  · subst hother
    rw [lookup_updateUser_self hid] at hrow
    obtain ⟨stored, hstored, rfl⟩ := Option.map_eq_some_iff.mp hrow
    exact ⟨stored, Or.inl hstored, hsame stored⟩
  · rw [lookup_updateUser_of_ne hid hother] at hrow
    exact ⟨row, Or.inl hrow, .refl⟩

/-- Where the row of a user comes from after a statement. -/
theorem originates_apply {statement : AccountStatement} (h : s.apply statement = .ok s')
    (hrow : s'.users.lookup userId = some row) :
    s.Originates statement.savedRow.toList userId row := by
  cases statement with
  | saveUser saved =>
    rw [apply_saveUser_ok h, Table.lookup_upsert] at hrow
    split at hrow
    · next hid =>
      cases hrow
      exact ⟨row, Or.inr ⟨List.mem_singleton_self _, hid⟩, .refl⟩
    · exact ⟨row, Or.inl hrow, .refl⟩
  | rememberPasswordHash other passwordHash =>
    cases h
    exact ⟨row, Or.inl hrow, .refl⟩
  | setTotpSecret other totpSecret =>
    cases h
    exact originates_updateUser hrow (fun _ => rfl) fun _ => ⟨rfl, rfl⟩
  | clearTotpSecret other =>
    cases h
    exact originates_updateUser hrow (fun _ => rfl) fun _ => ⟨rfl, rfl⟩
  | updateIsActive other isActive =>
    cases h
    exact originates_updateUser hrow (fun _ => rfl) fun _ => ⟨rfl, rfl⟩

theorem originates_applyAll {statements : List AccountStatement} (h : s.applyAll statements = .ok s')
    (hrow : s'.users.lookup userId = some row) :
    s.Originates (statements.filterMap AccountStatement.savedRow) userId row := by
  induction statements generalizing s with
  | nil =>
    cases h
    exact ⟨row, Or.inl hrow, .refl⟩
  | cons statement statements ih =>
    obtain ⟨middle, hstatement, hrest⟩ := applyAll_cons_ok.mp h
    have hcons : (statement :: statements).filterMap AccountStatement.savedRow =
        statement.savedRow.toList ++ statements.filterMap AccountStatement.savedRow := by
      cases hsaved : statement.savedRow with
      | none => rw [List.filterMap_cons_none hsaved, Option.toList_none, List.nil_append]
      | some saved => rw [List.filterMap_cons_some hsaved, Option.toList_some, List.singleton_append]
    rw [hcons]
    obtain ⟨stored, hmiddle | ⟨hmem, hid⟩, hsame⟩ := ih hrest
    · obtain ⟨first, hfirst | ⟨hmem, hid⟩, hsame'⟩ := originates_apply hstatement hmiddle
      · exact ⟨first, Or.inl hfirst, hsame.trans hsame'⟩
      · exact ⟨first, Or.inr ⟨List.mem_append_left _ hmem, hid⟩, hsame.trans hsame'⟩
    · exact ⟨stored, Or.inr ⟨List.mem_append_right _ hmem, hid⟩, hsame⟩

theorem originates_bump {other : UUID} {updated : ℕ}
    (h : s.bumpAuthTokenVersion other = .ok (updated, s'))
    (hrow : s'.users.lookup userId = some row) : s.Originates [] userId row := by
  unfold bumpAuthTokenVersion at h
  split at h
  · cases h
    exact ⟨row, Or.inl hrow, .refl⟩
  · next stored hstored =>
    split at h
    · cases h
    · cases h
      rw [Table.lookup_upsert] at hrow
      split at hrow
      · next hid =>
        cases hrow
        have hkey := Table.lookup_of_mem (Table.mem_of_lookup hstored)
        exact ⟨stored, Or.inl (hid ▸ hkey), ⟨rfl, rfl⟩⟩
      · exact ⟨row, Or.inl hrow, .refl⟩

/-- Where the row of a user comes from after a call. -/
theorem originates_exec {choice : AccountChoice} {op : AccountOp}
    (hrow : (exec choice op s).2.users.lookup userId = some row) :
    s.Originates op.savedRows userId row := by
  have hkept (saved : List UserRow) (hrow : s.users.lookup userId = some row) :
      s.Originates saved userId row := ⟨row, Or.inl hrow, .refl⟩
  rcases exec_state choice op s with hsame | ⟨answer, after, heffect, hafter⟩
  · exact hkept _ (hsame ▸ hrow)
  · rw [hafter] at hrow
    rcases effect_ok heffect with ⟨statements, rfl, happly⟩ | ⟨other, updated, rfl, hbump⟩ |
      ⟨_, _, husers, _⟩ | rfl
    · exact originates_applyAll happly hrow
    · exact originates_bump hbump hrow
    · exact hkept _ (husers ▸ hrow)
    · exact hkept _ hrow

end AccountState

end Linkapro.Identity
