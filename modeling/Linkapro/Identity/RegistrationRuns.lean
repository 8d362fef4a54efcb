import Linkapro.Identity.Registrations

/-!
# Identity: overlapping registrations

The constraint on the column of the address tells upper from lower case, and the query before an
insertion does not. Together they leave one row for each address in every run, since all saved
addresses are in lower case. But the constraint speaks up by an error of the database, which no
handler and no view turns into the answer for a duplicate account.
-/

namespace Linkapro.Identity

open Lib Lib.Action

/-- No two accounts have the same address up to the case of letters. -/
def AddressesUnique (s : AccountState) : Prop :=
  ∀ row ∈ s.users.rows, ∀ row' ∈ s.users.rows, lower row.email = lower row'.email → row.id = row'.id

instance (s : AccountState) : Decidable (AddressesUnique s) :=
  inferInstanceAs (Decidable (∀ _ ∈ _, ∀ _ ∈ _, _ → _))

/-- Every row can be loaded. -/
def RowsReadable (s : AccountState) : Prop := ∀ row ∈ s.users.rows, ∃ user, row.toDomain = .ok user

/-- The rows under an address are the one that a query has found, and rows in lower case. -/
def Pinned (s : AccountState) (email : Email) (found : Option UserRow) : Prop :=
  ∀ row ∈ s.users.rows, row.Matches email →
    row.email = email.value ∨ ∃ read ∈ found, read.id = row.id

section Statements

variable {s s' : AccountState} {log : AccountLog} {row : UserRow} {statement : AccountStatement}
  {statements : List AccountStatement} {email : Email}

/-- A row whose address has been looked for matches an address when it has it. -/
theorem Addressed.email_eq {id : UUID} (h : Addressed log id row.email)
    (hmatches : row.Matches email) : row.email = email.value := by
  obtain ⟨looked, found, _, haddress, _⟩ := h
  unfold UserRow.Matches at hmatches
  rw [haddress, lower_email, lower_email] at hmatches
  rw [haddress, hmatches]

/-- What a statement that saves a row has checked. -/
theorem apply_saveUser (h : s.apply (.saveUser row) = .ok s') :
    s'.users = s.users.upsert row ∧
      ∀ other ∈ s.users.rows, other.email = row.email → other.id = row.id := by
  unfold AccountState.apply at h
  dsimp only at h
  split_ifs at h with hversion hfits hduplicate
  cases h
  refine ⟨rfl, fun other hmem hemail => ?_⟩
  by_contra hid
  exact hduplicate (List.any_eq_true.mpr ⟨other, hmem, decide_eq_true ⟨hemail, hid⟩⟩)

/-- A statement that writes no user row leaves the users. -/
theorem users_of_target_none (htarget : statement.target = none) (h : s.apply statement = .ok s') :
    s'.users = s.users := by
  cases statement with
  | rememberPasswordHash userId passwordHash =>
    cases h
    rfl
  | _ => cases htarget

/-- One statement under an address that has been looked for. -/
theorem unique_apply (hstatement : statement.target = none ∨ ∃ row user,
      statement = .saveUser row ∧ row.toDomain = .ok user ∧ Addressed log row.id row.email)
    (hpinned : ∀ email found,
      ⟨.getByEmail email, (.ok found : Except AccountError (Option UserRow))⟩ ∈ log →
        Pinned s email found)
    (hunique : AddressesUnique s) (h : s.apply statement = .ok s') : AddressesUnique s' := by
  rcases hstatement with htarget | ⟨row, user, rfl, _, haddressed⟩
  · unfold AddressesUnique
    rw [users_of_target_none htarget h]
    exact hunique
  · obtain ⟨husers, hconstraint⟩ := apply_saveUser h
    have hnew (other : UserRow) (hmem : other ∈ s.users.rows)
        (heq : lower other.email = lower row.email) : other.id = row.id := by
      obtain ⟨email, found, hlooked, haddress, hfound⟩ := haddressed
      have hmatches : other.Matches email := by rw [UserRow.Matches, heq, haddress]
      rcases hpinned email found hlooked other hmem hmatches with hlower | ⟨read, hread, hid⟩
      · exact hconstraint other hmem (hlower.trans haddress.symm)
      · exact hid.symm.trans (hfound read hread)
    unfold AddressesUnique
    rw [husers]
    intro first hfirst second hsecond heq
    rcases Table.mem_upsert_iff.mp hfirst with rfl | ⟨hold, _⟩
    · rcases Table.mem_upsert_iff.mp hsecond with rfl | ⟨hold', _⟩
      · rfl
      · exact (hnew second hold' heq.symm).symm
    · rcases Table.mem_upsert_iff.mp hsecond with rfl | ⟨hold', _⟩
      · exact hnew first hold heq
      · exact hunique first hold second hold' heq

/-- The rows after such a statement are the earlier ones and readable rows with addresses that have
been looked for. -/
theorem mem_apply (hstatement : statement.target = none ∨ ∃ row user,
      statement = .saveUser row ∧ row.toDomain = .ok user ∧ Addressed log row.id row.email)
    (h : s.apply statement = .ok s') (hrow : row ∈ s'.users.rows) :
    row ∈ s.users.rows ∨ statement.savedRow = some row ∧ (∃ user, row.toDomain = .ok user) ∧
      Addressed log row.id row.email := by
  rcases hstatement with htarget | ⟨saved, user, rfl, hdomain, haddressed⟩
  · rw [users_of_target_none htarget h] at hrow
    exact .inl hrow
  · rw [(apply_saveUser h).1] at hrow
    rcases Table.mem_upsert_iff.mp hrow with rfl | ⟨hmem, _⟩
    · exact .inr ⟨rfl, ⟨user, hdomain⟩, haddressed⟩
    · exact .inl hmem

/-- The rows after a transaction. -/
theorem mem_applyAll (hsaves : AddressedSaves log statements) (h : s.applyAll statements = .ok s')
    (hrow : row ∈ s'.users.rows) :
    row ∈ s.users.rows ∨ row ∈ statements.filterMap AccountStatement.savedRow ∧
      (∃ user, row.toDomain = .ok user) ∧ Addressed log row.id row.email := by
  induction statements generalizing s with
  | nil =>
    cases h
    exact .inl hrow
  | cons statement statements ih =>
    obtain ⟨middle, hfirst, hrest⟩ := except_bind_eq_ok_iff.mp h
    obtain ⟨hstatement, hsaves⟩ := List.forall_mem_cons.mp hsaves
    rcases ih hsaves hrest with hmem | ⟨hmem, hnew⟩
    · rcases mem_apply hstatement hfirst hmem with hmem | ⟨hsaved, hnew⟩
      · exact .inl hmem
      · exact .inr ⟨List.mem_filterMap.mpr ⟨statement, List.mem_cons_self, hsaved⟩, hnew⟩
    · refine .inr ⟨?_, hnew⟩
      obtain ⟨other, hother, hsaved⟩ := List.mem_filterMap.mp hmem
      exact List.mem_filterMap.mpr ⟨other, List.mem_cons_of_mem _ hother, hsaved⟩

/-- New rows keep what a query has found apart. -/
theorem Pinned.of_mem {found : Option UserRow} (h : Pinned s email found)
    (hrows : ∀ row ∈ s'.users.rows, row ∈ s.users.rows ∨ Addressed log row.id row.email) :
    Pinned s' email found := by
  intro row hrow hmatches
  rcases hrows row hrow with hold | hnew
  · exact h row hold hmatches
  · exact .inl (hnew.email_eq hmatches)

/-- A transaction keeps the addresses unique. -/
theorem unique_applyAll (hsaves : AddressedSaves log statements)
    (hpinned : ∀ email found,
      ⟨.getByEmail email, (.ok found : Except AccountError (Option UserRow))⟩ ∈ log →
        Pinned s email found)
    (hunique : AddressesUnique s) (h : s.applyAll statements = .ok s') : AddressesUnique s' := by
  induction statements generalizing s with
  | nil =>
    cases h
    exact hunique
  | cons statement statements ih =>
    obtain ⟨middle, hfirst, hrest⟩ := except_bind_eq_ok_iff.mp h
    obtain ⟨hstatement, hsaves⟩ := List.forall_mem_cons.mp hsaves
    refine ih hsaves (fun email found hlooked => ?_)
      (unique_apply hstatement hpinned hunique hfirst) hrest
    exact (hpinned email found hlooked).of_mem fun row hrow =>
      (mem_apply hstatement hfirst hrow).imp_right fun h => h.2.2

end Statements

section Calls

variable {s : AccountState} {choice : AccountChoice} {email : Email} {found : Option UserRow}

/-- What a query by address finds. -/
theorem pinned_of_getByEmail (h : s.getByEmail email = .ok found) : Pinned s email found := by
  intro row hrow hmatches
  have hmem : row ∈ s.users.rows.filter fun row => lower row.email = lower email.value :=
    List.mem_filter.mpr ⟨hrow, decide_eq_true hmatches⟩
  unfold AccountState.getByEmail at h
  split at h
  · next hnil =>
    rw [hnil] at hmem
    cases hmem
  · next read hread =>
    cases h
    rw [hread, List.mem_singleton] at hmem
    exact .inr ⟨read, rfl, congrArg UserRow.id hmem.symm⟩
  · cases h

theorem not_matches_of_getByEmail (h : s.getByEmail email = .ok none) :
    ∀ row ∈ s.users.rows, ¬ row.Matches email := by
  intro row hrow hmatches
  unfold AccountState.getByEmail at h
  split at h
  · next hnil => exact List.filter_eq_nil_iff.mp hnil row hrow (decide_eq_true hmatches)
  · cases h
  · cases h

theorem mem_of_getByEmail {row : UserRow} (h : s.getByEmail email = .ok (some row)) :
    row ∈ s.users.rows := by
  unfold AccountState.getByEmail at h
  split at h
  · cases h
  · next read hread =>
    cases h
    exact (List.mem_filter.mp (hread ▸ List.mem_singleton_self row)).1
  · cases h

/-- A query by address finds at most one row as long as the addresses are unique. -/
theorem getByEmail_ok (h : AddressesUnique s) (email : Email) :
    ∃ found, s.getByEmail email = .ok found := by
  unfold AccountState.getByEmail
  split
  · exact ⟨_, rfl⟩
  · exact ⟨_, rfl⟩
  · next first second rest hrows =>
    have hmem (row : UserRow) (hrow : row ∈ first :: second :: rest) :
        row ∈ s.users.rows ∧ lower row.email = lower email.value := by
      rw [← hrows, List.mem_filter, decide_eq_true_eq] at hrow
      exact hrow
    obtain ⟨hfirst, hfirstEmail⟩ := hmem first List.mem_cons_self
    obtain ⟨hsecond, hsecondEmail⟩ := hmem second (List.mem_cons_of_mem _ List.mem_cons_self)
    have hkeys : ((first :: second :: rest).map UserRow.id).Nodup :=
      hrows ▸ s.users.nodup.sublist (List.filter_sublist.map _)
    have hid : first.id = second.id :=
      h first hfirst second hsecond (hfirstEmail.trans hsecondEmail.symm)
    rw [List.map_cons, List.map_cons, List.nodup_cons] at hkeys
    exact absurd (hid ▸ List.mem_cons_self) hkeys.1

/-- A transaction that changes the state has applied its statements. -/
theorem exec_commit (choice : AccountChoice) (s : AccountState)
    (statements : List AccountStatement) :
    (AccountState.exec choice (.commit statements) s).2 = s ∨
      s.applyAll statements = .ok (AccountState.exec choice (.commit statements) s).2 := by
  rcases exec_state choice (.commit statements) s with hsame | ⟨answer, after, heffect, hafter⟩
  · exact .inl hsame
  · obtain ⟨after', happly, heq⟩ := except_map_eq_ok_iff.mp heffect
    rw [hafter, happly, (Prod.mk.inj heq).2]
    exact .inr rfl

theorem exec_getByEmail
    (h : (AccountState.exec choice (.getByEmail email) s).1 = .ok found) :
    s.getByEmail email = .ok found := by
  obtain ⟨row, hrow, heq⟩ := except_map_eq_ok_iff.mp (effect_of_exec_ok h)
  exact hrow.trans (congrArg Except.ok (Prod.mk.inj heq).1)

end Calls

section Turns

variable {ι : Type} [DecidableEq ι] {pool : AccountPool ι} {i : ι} {choice : AccountChoice}
  {email : Email}

/-- What every turn keeps. -/
structure AddressesKept (pool : AccountPool ι) : Prop where
  unique : AddressesUnique pool.state
  pinned : ∀ i email found,
    ⟨.getByEmail email, (.ok found : Except AccountError (Option UserRow))⟩ ∈ pool.log i →
      Pinned pool.state email found

/-- The rows after a turn of a pool that follows the contract about addresses. -/
theorem mem_step {op : AccountOp}
    {next : Except AccountError op.Ret → Program (Raising AccountError AccountOp.Ret)
      (Except AccountError Unit)} (hrest : pool.rest i = .call op next)
    (hallowed : addressContract.allowed (pool.log i) op) {row : UserRow}
    (hrow : row ∈ (pool.step AccountState.exec (i, choice)).state.users.rows) :
    row ∈ pool.state.users.rows ∨ (∃ user, row.toDomain = .ok user) ∧
      Addressed (pool.log i) row.id row.email ∧
        ∃ statements, op = .commit statements ∧
          row ∈ statements.filterMap AccountStatement.savedRow := by
  rw [Pool.step_of_call hrest] at hrow
  by_cases hcommit : ∃ statements, op = .commit statements
  · obtain ⟨statements, rfl⟩ := hcommit
    rcases exec_commit choice pool.state statements with hsame | happly
    · dsimp only at hrow
      rw [hsame] at hrow
      exact .inl hrow
    · rcases mem_applyAll hallowed happly hrow with hold | ⟨hsaved, hdomain, haddressed⟩
      · exact .inl hold
      · exact .inr ⟨hdomain, haddressed, statements, rfl, hsaved⟩
  · have husers : (AccountState.exec choice op pool.state).2.users = pool.state.users :=
      exec_users_of_quiet (fun statements h => hcommit ⟨statements, h⟩) fun userId h => by
        subst h
        exact hallowed
    dsimp only at hrow
    rw [husers] at hrow
    exact .inl hrow

/-- A turn keeps the addresses unique. -/
theorem unique_step {op : AccountOp}
    {next : Except AccountError op.Ret → Program (Raising AccountError AccountOp.Ret)
      (Except AccountError Unit)} (hkept : AddressesKept pool) (hrest : pool.rest i = .call op next)
    (hallowed : addressContract.allowed (pool.log i) op) :
    AddressesUnique (pool.step AccountState.exec (i, choice)).state := by
  rw [Pool.step_of_call hrest]
  by_cases hcommit : ∃ statements, op = .commit statements
  · obtain ⟨statements, rfl⟩ := hcommit
    dsimp only
    rcases exec_commit choice pool.state statements with hsame | happly
    · rw [hsame]
      exact hkept.unique
    · exact unique_applyAll hallowed (hkept.pinned i) hkept.unique happly
  · have husers : (AccountState.exec choice op pool.state).2.users = pool.state.users :=
      exec_users_of_quiet (fun statements h => hcommit ⟨statements, h⟩) fun userId h => by
        subst h
        exact hallowed
    unfold AddressesUnique
    dsimp only
    rw [husers]
    exact hkept.unique

/-- What every turn keeps, it keeps. -/
theorem addressesKept_keeps : Pool.Keeps AccountState.exec (fun _ : ι => addressContract)
    anyOutcome (fun _ _ => True) AddressesKept := by
  intro pool i choice op next _ hkept _ hrest hallowed
  refine ⟨unique_step hkept hrest hallowed, fun j email found hmem => ?_⟩
  rcases (Pool.mem_log_step hrest).mp hmem with ⟨_, hcall⟩ | hold
  · -- The query is the call of this turn, which leaves the users.
    obtain ⟨rfl, hanswer⟩ := Sigma.mk.inj_iff.mp hcall
    have hfound := exec_getByEmail (eq_of_heq hanswer).symm
    have husers : (AccountState.exec choice (.getByEmail email) pool.state).2.users =
        pool.state.users := exec_users_of_quiet nofun nofun
    rw [Pool.step_of_call hrest]
    unfold Pinned
    dsimp only
    rw [husers]
    exact pinned_of_getByEmail hfound
  · have hrows : ∀ row ∈ (pool.step AccountState.exec (i, choice)).state.users.rows,
        row ∈ pool.state.users.rows ∨ Addressed (pool.log i) row.id row.email :=
      fun row hrow => (mem_step hrest hallowed hrow).imp_right fun h => h.2.1
    exact (hkept.pinned j email found hold).of_mem hrows

end Turns

section Registrations

variable {ι : Type} [DecidableEq ι] {commands : ι → SignupCommand} {pool : AccountPool ι} {i : ι}
  {choice : AccountChoice} {email : Email}

/-- The contracts of the executions, as far as registrations are concerned. -/
def registrationContracts (commands : ι → SignupCommand) (i : ι) :
    Contract (Raising AccountError AccountOp.Ret) :=
  match (commands i).registered with
  | some email => registrationContract email
  | none => { allowed := fun _ _ => True, possible := fun _ => True }

/-- How the registrations end. -/
def RegistrationEnds (commands : ι → SignupCommand) (i : ι) (log : AccountLog)
    (outcome : Except AccountError Unit) : Prop :=
  ∀ email ∈ (commands i).registered, Registered email log outcome

/-- No call fails, the hasher answers hashes that can be stored, and random ids are new. -/
def Calm (pool : AccountPool ι) (turn : ι × AccountChoice) : Prop :=
  turn.2.fault.isNone = true ∧
    match pool.next turn.1 with
    | some (.service (.hashPassword plainPassword)) =>
      HashUsable (turn.2.answer (.hashPassword plainPassword))
    | some .newId => (pool.state.users.lookup turn.2.uuid).isNone = true
    | _ => True

instance (pool : AccountPool ι) (turn : ι × AccountChoice) : Decidable (Calm pool turn) := by
  unfold Calm
  refine @instDecidableAnd _ _ inferInstance ?_
  split
  · exact instDecidableHashUsable _
  all_goals infer_instance

/-- A registration commits its account before any other execution has committed one with its
address. -/
def CommitsFirst (commands : ι → SignupCommand) (pool : AccountPool ι)
    (turn : ι × AccountChoice) : Prop :=
  match (commands turn.1).registered, pool.next turn.1 with
  | some email, some (.commit _) => ∀ entry ∈ pool.history, ¬ Creates email entry.2
  | _, _ => True

instance (commands : ι → SignupCommand) (pool : AccountPool ι) (turn : ι × AccountChoice) :
    Decidable (CommitsFirst commands pool turn) := by
  unfold CommitsFirst
  split <;> infer_instance

omit [DecidableEq ι] in
/-- The answer of a call that does not fail. -/
theorem exec_of_calm {s : AccountState} {op : AccountOp} {answer : op.Ret} {after : AccountState}
    (hfault : choice.fault = none)
    (heffect : AccountState.effect choice s op = .ok (answer, after)) :
    AccountState.exec choice op s = (.ok answer, after) := by
  simp only [AccountState.exec, AccountState.faulty, heffect, hfault]

omit [DecidableEq ι] in
theorem exec_of_calm_error {s : AccountState} {op : AccountOp} {error : AccountError}
    (hfault : choice.fault = none) (h : (AccountState.exec choice op s).1 = .error error) :
    (AccountState.exec choice op s).2 = s := by
  simp only [AccountState.exec, AccountState.faulty, hfault] at h ⊢
  cases heffect : AccountState.effect choice s op with
  | error error => rfl
  | ok result =>
    rw [heffect] at h
    cases h

/-- A call that creates an account is a commit. -/
theorem commit_of_creates {op : AccountOp} {answer : Except AccountError op.Ret}
    (h : Creates email ⟨op, answer⟩) : ∃ statements, op = .commit statements := by
  cases op with
  | commit statements => exact ⟨statements, rfl⟩
  | _ => cases h

omit [DecidableEq ι] in
theorem applyAll_of_writesNoUser {s : AccountState} {statements : List AccountStatement}
    (h : WritesNoUser statements) : ∃ after, s.applyAll statements = .ok after := by
  induction statements generalizing s with
  | nil => exact ⟨s, rfl⟩
  | cons statement statements ih =>
    have hfirst := h statement List.mem_cons_self
    cases statement with
    | rememberPasswordHash userId passwordHash =>
      exact ih fun other hother => h other (List.mem_cons_of_mem _ hother)
    | _ => cases hfirst

omit [DecidableEq ι] in
/-- A row with a free address can be inserted. -/
theorem applyAll_registration {s : AccountState} {log : AccountLog}
    {statements : List AccountStatement} (hsaves : RegistrationSaves email log statements)
    (hfree : ∀ row ∈ s.users.rows, ¬ row.Matches email) :
    ∃ after, s.applyAll statements = .ok after := by
  obtain ⟨row, remembered, rfl, hremembered, hemail, hversion, hfits⟩ := hsaves.saves
  have happly : s.apply (.saveUser row) = .ok { s with users := s.users.upsert row } := by
    have hnone : ¬ (s.users.rows.any fun other =>
        other.email = row.email ∧ other.id ≠ row.id) = true := by
      intro hany
      obtain ⟨other, hmem, hother⟩ := List.any_eq_true.mp hany
      have hother := (of_decide_eq_true hother).1
      exact hfree other hmem (by rw [UserRow.Matches, hother, hemail])
    unfold AccountState.apply
    dsimp only
    rw [if_neg (by rw [hversion]; exact Nat.not_lt_zero _), if_neg (not_not_intro hfits),
      if_neg hnone]
  obtain ⟨after, hafter⟩ := applyAll_of_writesNoUser hremembered
  refine ⟨after, ?_⟩
  rw [AccountState.applyAll, List.foldlM_cons, happly]
  exact hafter

/-- What a calm run keeps in which registrations commit first. -/
structure RegistrationsKept (commands : ι → SignupCommand) (pool : AccountPool ι) : Prop where
  kept : AddressesKept pool
  readable : RowsReadable pool.state
  disciplined : Pool.Disciplined (registrationContracts commands) (RegistrationEnds commands) pool
  traced : ∀ i email,
    ⟨.getByEmail email, (.ok none : Except AccountError (Option UserRow))⟩ ∈ pool.log i →
      ∀ row ∈ pool.state.users.rows, row.Matches email →
        ∃ entry ∈ pool.history, Creates email entry.2
  single : ∀ i j email, (commands i).registered = some email →
    (commands j).registered = some email → Created (pool.log i) email →
      Created (pool.log j) email → i = j

/-- Nothing disturbs the call of a registration in such a run. -/
theorem not_disturbed {op : AccountOp}
    {next : Except AccountError op.Ret → Program (Raising AccountError AccountOp.Ret)
      (Except AccountError Unit)} (hkept : RegistrationsKept commands pool)
    (hcalm : Calm pool (i, choice)) (hfirst : CommitsFirst commands pool (i, choice))
    (hrest : pool.rest i = .call op next) (hemail : (commands i).registered = some email) :
    ¬ Disturbed ⟨op, (AccountState.exec choice op pool.state).1⟩ := by
  have hallowed := hkept.disciplined.allowed_call hrest
  rw [registrationContracts, hemail] at hallowed
  obtain ⟨hfault, hcalm⟩ := hcalm
  have hfault : choice.fault = none := Option.isNone_iff_eq_none.mp hfault
  rw [Pool.next_of_call hrest] at hcalm
  cases op with
  | getByEmail looked =>
    obtain ⟨found, hfound⟩ := getByEmail_ok hkept.kept.unique looked
    have heffect : AccountState.effect choice pool.state (.getByEmail looked) =
        .ok (found, pool.state) := by
      change (pool.state.getByEmail looked).map _ = _
      rw [hfound]
      rfl
    rw [exec_of_calm hfault heffect]
    cases found with
    | none => exact id
    | some row =>
      intro hdisturbed
      obtain ⟨user, huser⟩ := hkept.readable row (mem_of_getByEmail hfound)
      exact hdisturbed user huser
  | newId =>
    have heffect : AccountState.effect choice pool.state .newId =
        .ok (choice.uuid, pool.state) := by
      have hnone : pool.state.users.lookup choice.uuid = none := Option.isNone_iff_eq_none.mp hcalm
      have hunused : ¬ (pool.state.users.lookup choice.uuid).isSome = true := by
        rw [hnone]
        exact nofun
      change (pool.state.newId choice.uuid).map _ = _
      rw [AccountState.newId, if_neg hunused]
      rfl
    rw [exec_of_calm hfault heffect]
    exact id
  | getStored pending userId =>
    have hpending : pending = [] := hallowed
    subst hpending
    have heffect : AccountState.effect choice pool.state (.getStored [] userId) =
        .ok (pool.state.users.lookup userId, pool.state) := rfl
    rw [exec_of_calm hfault heffect]
    exact id
  | service call =>
    have heffect : AccountState.effect choice pool.state (.service call) =
        .ok (choice.answer call, pool.state) := rfl
    rw [exec_of_calm hfault heffect]
    cases call with
    | hashPassword plainPassword => exact not_not_intro hcalm
    | _ => exact id
  | commit statements =>
    have hfree : ∀ row ∈ pool.state.users.rows, ¬ row.Matches email := by
      intro row hrow hmatches
      obtain ⟨entry, hentry, hcreates⟩ := hkept.traced i email hallowed.looked row hrow hmatches
      rw [CommitsFirst, hemail, Pool.next_of_call hrest] at hfirst
      exact hfirst entry hentry hcreates
    obtain ⟨after, hafter⟩ := applyAll_registration hallowed hfree
    have heffect : AccountState.effect choice pool.state (.commit statements) =
        .ok ((), after) := by
      change (pool.state.applyAll statements).map _ = _
      rw [hafter]
      rfl
    rw [exec_of_calm hfault heffect]
    exact id
  | _ => exact absurd hallowed id

/-- What a calm run keeps in which registrations commit first, every turn keeps. -/
theorem registrationsKept_keeps : Pool.Keeps AccountState.exec (fun _ : ι => addressContract)
    anyOutcome (fun pool turn => Calm pool turn ∧ CommitsFirst commands pool turn)
    (RegistrationsKept commands) := by
  intro pool i choice op next hpool hkept hturn hrest hallowed
  obtain ⟨hcalm, hfirst⟩ := hturn
  have hhistory : (pool.step AccountState.exec (i, choice)).history =
      (i, ⟨op, (AccountState.exec choice op pool.state).1⟩) :: pool.history := by
    rw [Pool.step_of_call hrest]
  refine
    { kept := addressesKept_keeps pool i choice op next hpool hkept.kept trivial hrest hallowed
      readable := fun row hrow => ?_
      disciplined := hkept.disciplined.step_of_possible fun op' next' hrest' => ?_
      traced := fun j email hlooked row hrow hmatches => ?_
      single := fun j k email hj hk hcreatedJ hcreatedK => ?_ }
  · rcases mem_step hrest hallowed hrow with hold | ⟨hdomain, _⟩
    · exact hkept.readable row hold
    · exact hdomain
  · cases hemail : (commands i).registered with
    | none =>
      rw [registrationContracts, hemail]
      trivial
    | some email =>
      rw [registrationContracts, hemail]
      exact not_disturbed hkept hcalm hfirst hrest' hemail
  · rw [hhistory]
    have hold (hstored : row ∈ pool.state.users.rows) (hlooked : ⟨.getByEmail email,
        (.ok none : Except AccountError (Option UserRow))⟩ ∈ pool.log j) :
        ∃ entry ∈ (i, (⟨op, (AccountState.exec choice op pool.state).1⟩ : AccountCall)) ::
          pool.history, Creates email entry.2 := by
      obtain ⟨entry, hentry, hcreates⟩ := hkept.traced j email hlooked row hstored hmatches
      exact ⟨entry, List.mem_cons_of_mem _ hentry, hcreates⟩
    rcases (Pool.mem_log_step hrest).mp hlooked with ⟨_, hcall⟩ | hlooked
    · obtain ⟨rfl, hanswer⟩ := Sigma.mk.inj_iff.mp hcall
      have husers : (AccountState.exec choice (.getByEmail email) pool.state).2.users =
          pool.state.users := exec_users_of_quiet nofun nofun
      rw [Pool.step_of_call hrest] at hrow
      dsimp only at hrow
      rw [husers] at hrow
      have hfound := exec_getByEmail (eq_of_heq hanswer).symm
      exact absurd hmatches (not_matches_of_getByEmail hfound row hrow)
    · rcases mem_step hrest hallowed hrow with hstored | ⟨_, haddressed, statements, rfl, hsaved⟩
      · exact hold hstored hlooked
      · cases hanswer : (AccountState.exec choice (.commit statements) pool.state).1 with
        | ok answer =>
          exact ⟨_, List.mem_cons_self, row, hsaved, haddressed.email_eq hmatches⟩
        | error error =>
          -- Without a fault, a transaction that raises has left the rows as they were.
          have hstate := exec_of_calm_error (Option.isNone_iff_eq_none.mp hcalm.1) hanswer
          rw [Pool.step_of_call hrest] at hrow
          dsimp only at hrow
          rw [hstate] at hrow
          rw [hanswer] at hold
          exact hold hrow hlooked
  · -- A registration that creates the account now has found no other that has done so.
    have hnew {j k : ι} (hj : (commands j).registered = some email) (hji : i = j)
        (hcreates : Creates email ⟨op, (AccountState.exec choice op pool.state).1⟩)
        (hcreatedK : ∃ call ∈ pool.log k, Creates email call) : False := by
      subst hji
      obtain ⟨statements, rfl⟩ := commit_of_creates hcreates
      obtain ⟨call, hcall, hcreates⟩ := hcreatedK
      rw [CommitsFirst, hj, Pool.next_of_call hrest] at hfirst
      exact hfirst _ (Pool.mem_log_iff.mp hcall) hcreates
    obtain ⟨callJ, hcallJ, hcreatesJ⟩ := hcreatedJ
    obtain ⟨callK, hcallK, hcreatesK⟩ := hcreatedK
    rcases (Pool.mem_log_step hrest).mp hcallJ with ⟨hij, rfl⟩ | holdJ
    · rcases (Pool.mem_log_step hrest).mp hcallK with ⟨hik, _⟩ | holdK
      · exact hij.symm.trans hik
      · exact absurd ⟨callK, holdK, hcreatesK⟩ fun h => hnew hj hij hcreatesJ h
    · rcases (Pool.mem_log_step hrest).mp hcallK with ⟨hik, rfl⟩ | holdK
      · exact absurd ⟨callJ, holdJ, hcreatesJ⟩ fun h => hnew hk hik hcreatesK h
      · exact hkept.single j k email hj hk ⟨callJ, holdJ, hcreatesJ⟩ ⟨callK, holdK, hcreatesK⟩

/-- The executions before their first calls. -/
def startSignups (s : AccountState) (commands : ι → SignupCommand) : AccountPool ι :=
  startCommands s fun i => (commands i).command

theorem disciplined_addresses {s : AccountState} :
    Pool.Disciplined (fun _ : ι => addressContract) anyOutcome (startSignups s commands) := by
  intro i
  change Program.Follows addressContract [] (commands i).command.program.run _
  cases commands i with
  | registerAccount email plainPassword firstName lastName role =>
    exact Action.Follows.mono
      (ruled_registerAccount_address email plainPassword firstName lastName role)
      fun _ _ _ => trivial
  | googleLogin claims tokenData signupRole =>
    exact Follows.bind (ruled_signInWithGoogle_address claims tokenData signupRole)
      (fun _ _ _ => trivial) fun _ _ _ => trivial

theorem disciplined_registrations {s : AccountState} (hvalid : ∀ i, (commands i).Valid) :
    Pool.Disciplined (registrationContracts commands) (RegistrationEnds commands)
      (startSignups s commands) := by
  intro i
  have hcommand := hvalid i
  change Program.Follows (registrationContracts commands i) [] (commands i).command.program.run _
  unfold registrationContracts RegistrationEnds
  revert hcommand
  cases commands i with
  | registerAccount email plainPassword firstName lastName role =>
    intro hcommand
    refine (registerAccount_registration hcommand).mono fun log outcome houtcome => ?_
    rintro _ ⟨⟩
    exact houtcome
  | googleLogin claims tokenData signupRole =>
    intro _
    refine (Program.follows_of_allowed (fun _ _ => trivial) _ []).mono fun _ _ _ => ?_
    exact nofun

/-- What `RegisterView.post` answers. -/
inductive RegisterAnswer : Type where
  | completed
  | validationFailed (field_errors : List (String × List String))
deriving DecidableEq

/-- The answer to a duplicate account. -/
def duplicateAnswer : RegisterAnswer :=
  .validationFailed [("email", ["Unable to create an account with these details."])]

/-- `RegisterView.post` after the handler, or the exception that escapes from it. -/
def postRegister : Except AccountError Unit → Except AccountError RegisterAnswer
  | .ok _ => .ok .completed
  | .error (.duplicateUser _) => .ok duplicateAnswer
  | .error error => .error error

/-- The outcome of an execution that has ended. -/
def endOf (pool : AccountPool ι) (i : ι) : Option (Except AccountError Unit) :=
  match pool.rest i with
  | .done outcome => some outcome
  | .call _ _ => none

/-- Every registration that has ended is answered, one for each address at most by a new account,
and the others by the answer to a duplicate account. -/
structure RegistrationsAnswered (commands : ι → SignupCommand) (pool : AccountPool ι) : Prop where
  answered : ∀ i email, (commands i).registered = some email → ∀ outcome ∈ endOf pool i,
    postRegister outcome = .ok .completed ∨ postRegister outcome = .ok duplicateAnswer
  single : ∀ i j email, (commands i).registered = some email →
    (commands j).registered = some email → endOf pool i = some (.ok ()) →
      endOf pool j = some (.ok ()) → i = j

omit [DecidableEq ι] in
theorem done_of_endOf {outcome : Except AccountError Unit} (h : endOf pool i = some outcome) :
    pool.rest i = .done outcome := by
  unfold endOf at h
  split at h
  · next value hrest =>
    cases h
    exact hrest
  · cases h

theorem RegistrationsKept.answered (h : RegistrationsKept commands pool) :
    RegistrationsAnswered commands pool := by
  have hends {i : ι} {email : Email} {outcome : Except AccountError Unit}
      (hemail : (commands i).registered = some email) (hend : endOf pool i = some outcome) :
      Registered email (pool.log i) outcome :=
    h.disciplined.post_done (done_of_endOf hend) email hemail
  refine ⟨fun i email hemail outcome hend => ?_, fun i j email hi hj hendI hendJ => ?_⟩
  · rcases hends hemail hend with ⟨rfl, _⟩ | ⟨message, rfl⟩
    · exact .inl rfl
    · exact .inr rfl
  · rcases hends hi hendI with ⟨_, hcreatedI⟩ | ⟨_, hraised⟩
    · rcases hends hj hendJ with ⟨_, hcreatedJ⟩ | ⟨_, hraised⟩
      · exact h.single i j email hi hj hcreatedI hcreatedJ
      · cases hraised
    · cases hraised

end Registrations

/-- In every run of registrations and provider logins, no two accounts have the same address up to
the case of letters, and a query by address finds at most one row. In calm runs in which every
registration that commits is the first to do so for its address, the registrations are answered
as they should be. -/
theorem registrations_answered {ι : Type} [DecidableEq ι] (s : AccountState)
    (commands : ι → SignupCommand) (schedule : List (ι × AccountChoice))
    (hunique : AddressesUnique s) :
    AddressesUnique ((startSignups s commands).run AccountState.exec schedule).state ∧
      (∀ email, ∃ found,
        ((startSignups s commands).run AccountState.exec schedule).state.getByEmail email =
          .ok found) ∧
      ((∀ i, (commands i).Valid) → RowsReadable s →
        Pool.Always AccountState.exec
          (fun pool turn => Calm pool turn ∧ CommitsFirst commands pool turn)
          (startSignups s commands) schedule →
        RegistrationsAnswered commands
          ((startSignups s commands).run AccountState.exec schedule)) := by
  have hanswers : Pool.Answers AccountState.exec fun _ : ι => addressContract :=
    fun _ choice op s => possible_addressContract choice op s
  have hstart : AddressesKept (startSignups s commands) := ⟨hunique, fun _ _ _ h => nomatch h⟩
  have hkept : AddressesKept ((startSignups s commands).run AccountState.exec schedule) :=
    (addressesKept_keeps.run hanswers disciplined_addresses hstart
      (Pool.always_of_forall fun _ _ => trivial)).2
  refine ⟨hkept.unique, getByEmail_ok hkept.unique, fun hvalid hreadable hschedule => ?_⟩
  have hregistrations : RegistrationsKept commands (startSignups s commands) :=
    { kept := hstart
      readable := hreadable
      disciplined := disciplined_registrations hvalid
      traced := fun _ _ h => nomatch h
      single := fun _ _ _ _ _ ⟨_, h, _⟩ => nomatch h }
  exact (registrationsKept_keeps.run hanswers disciplined_addresses hregistrations
    hschedule).2.answered

/-- The address of a new account. -/
def newAddress : Email := ⟨"a@b.c", by decide +kernel, by decide⟩

/-- Two registrations with it. -/
def registerTwice (_ : Bool) : SignupCommand :=
  .registerAccount newAddress "Secret123!" "Ada" "Byron" .planner

/-- A call of either registration. -/
def registrationChoice (i : Bool) : Bool × AccountChoice :=
  (i, { calmChoice with uuid := if i then 800 else 801 })

/-- One registration after the other. -/
def registrationsInTurn : List (Bool × AccountChoice) :=
  List.replicate 8 (registrationChoice true) ++ List.replicate 8 (registrationChoice false)

/-- The second of two registrations in turn is told of the duplicate account. -/
theorem registrations_answered_sample :
    RegistrationsAnswered registerTwice
      ((startSignups sampleAccounts registerTwice).run AccountState.exec registrationsInTurn) ∧
    endOf ((startSignups sampleAccounts registerTwice).run AccountState.exec
      registrationsInTurn) false =
        some (.error (.duplicateUser "User with this email already exists")) := by
  have hreadable : RowsReadable sampleAccounts := by
    have hloaded : ∀ row ∈ sampleAccounts.users.rows, row.toDomain.toOption.isSome = true := by
      decide +kernel
    intro row hrow
    have hsome := hloaded row hrow
    cases huser : row.toDomain with
    | ok user => exact ⟨user, rfl⟩
    | error error =>
      rw [huser] at hsome
      cases hsome
  have hcalm : Pool.Always AccountState.exec
      (fun pool turn => Calm pool turn ∧ CommitsFirst registerTwice pool turn)
      (startSignups sampleAccounts registerTwice) registrationsInTurn := by
    decide +kernel
  refine ⟨(registrations_answered sampleAccounts registerTwice registrationsInTurn
    (by decide +kernel)).2.2 (fun _ => ?_) hreadable hcalm, by decide +kernel⟩
  exact ⟨by decide +kernel, by decide +kernel, by decide +kernel⟩

/-- The registration of `false` looks for the address before that of `true` commits its account. -/
def registrationsOverlapping : List (Bool × AccountChoice) :=
  registrationChoice false :: registrationsInTurn

/-- The registration that commits second raises an error of the database. -/
theorem overlapping_registration_raises :
    AddressesUnique sampleAccounts ∧
    Pool.Always AccountState.exec Calm (startSignups sampleAccounts registerTwice)
      registrationsOverlapping ∧
    ¬ RegistrationsAnswered registerTwice
      ((startSignups sampleAccounts registerTwice).run AccountState.exec
        registrationsOverlapping) := by
  have hend : endOf ((startSignups sampleAccounts registerTwice).run AccountState.exec
      registrationsOverlapping) false =
        some (.error (.database "duplicate key value violates unique constraint")) := by
    decide +kernel
  refine ⟨by decide +kernel, by decide +kernel, fun hanswered => ?_⟩
  rcases hanswered.answered false newAddress rfl _ hend with hcompleted | hduplicate
  · cases hcompleted
  · cases hduplicate

end Linkapro.Identity
