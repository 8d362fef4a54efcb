import Linkapro.Identity.AccountRuns
import Linkapro.Identity.Authentication

/-!
# Identity: sequential runs

A sequential run executes account commands, refreshes and step-ups one after another,
each alone. The blacklists, cut-offs and sessions may hold anything at each step, so
what is proved here rests on the user rows alone: the version of a row never falls,
and no token has a higher version than the row of its user.
-/

namespace Linkapro.Identity

open Lib

/-- What the token code reads of a user row. -/
def UserRow.tokenState (row : UserRow) : UserTokenState where
  authTokenVersion := row.authTokenVersion
  isActive := row.isActive

/-- The users as the token code looks them up. -/
def AccountState.tokenStates (s : AccountState) (userId : String) : Option UserTokenState :=
  (s.users.rows.find? fun row => uuidText row.id = userId).map UserRow.tokenState

theorem AccountState.tokenStates_uuidText (s : AccountState) (userId : UUID) :
    s.tokenStates (uuidText userId) = (s.users.lookup userId).map UserRow.tokenState := by
  have hsame : (fun row : UserRow => decide (uuidText row.id = uuidText userId)) =
      fun row => decide (row.id = userId) := by
    funext row
    exact decide_eq_decide.mpr uuidText_injective.eq_iff
  rw [tokenStates, hsame]
  rfl

/-- A user that the token code finds has a row under the id with this text. -/
theorem AccountState.tokenStates_eq_some {s : AccountState} {text : String}
    {state : UserTokenState} (h : s.tokenStates text = some state) :
    ∃ row, text = uuidText row.id ∧ s.users.lookup row.id = some row ∧ state = row.tokenState := by
  obtain ⟨row, hrow, rfl⟩ := Option.map_eq_some_iff.mp h
  have htext : uuidText row.id = text := by simpa using List.find?_some hrow
  exact ⟨row, htext.symm, Table.lookup_of_mem (List.mem_of_find?_eq_some hrow), rfl⟩

section Runs

variable {T : Type} [Field T] [LinearOrder T] [IsStrictOrderedRing T] [FloorRing T]

/-- The session stores, which know the users by their rows. -/
def SessionState.withUsers (stores : SessionState T) (s : AccountState) : SessionState T :=
  { stores with users := s.tokenStates }

/-- A refresh alone, under any contents of the session stores. -/
def runRefresh (settings : TokenSettings) (token : RefreshToken) (stores : SessionState T)
    (ticks : List (Tick T)) (s : AccountState) :
    LoneRun (SessionState T) (SessionOp.Ret T) (Except RefreshError IssuedTokenPair) :=
  runAlone (SessionState.exec settings) ticks (refreshSession settings token) []
    (stores.withUsers s)

variable (T) in
/-- One execution of a sequential run. -/
inductive IdentityStep : Type where
  | account (command : IdentityCommand) (choices : List AccountChoice)
  | refresh (settings : TokenSettings) (token : RefreshToken) (stores : SessionState T)
      (ticks : List (Tick T))
  | stepUp (settings : TokenSettings) (now : T) (jti : UUID) (token : AccessToken)

namespace IdentityStep

/-- The state after an execution. -/
def apply (s : AccountState) : IdentityStep T → AccountState
  | .account command choices => (runCommand command choices s).state
  | .refresh settings token stores ticks =>
    let pairs := (runRefresh settings token stores ticks s).log.filterMap issuedPair
    { s with
      accessTokens := pairs.map IssuedTokenPair.accessToken ++ s.accessTokens
      refreshTokens := pairs.map IssuedTokenPair.refreshToken ++ s.refreshTokens }
  | .stepUp settings now jti token =>
    match issueStepUp settings s.accessTokens now jti token with
    | .ok issued => { s with accessTokens := issued :: s.accessTokens }
    | .error _ => s

/-- What an execution makes of the row of a user. -/
def Evolves (s : AccountState) (before after : UserRow) : IdentityStep T → Prop
  | .account command choices => RowEvolves command (runCommand command choices s).log before after
  | _ => after = before

end IdentityStep

/-- The state after a sequential run. -/
def runSteps (steps : List (IdentityStep T)) (s : AccountState) : AccountState :=
  steps.foldl IdentityStep.apply s

/-- Every step of a run satisfies a condition on the state before it. -/
def StepsSatisfy (P : AccountState → IdentityStep T → Prop) :
    List (IdentityStep T) → AccountState → Prop
  | [], _ => True
  | step :: steps, s => P s step ∧ StepsSatisfy P steps (step.apply s)

instance StepsSatisfy.decidable (P : AccountState → IdentityStep T → Prop)
    [∀ s step, Decidable (P s step)] :
    ∀ (steps : List (IdentityStep T)) (s : AccountState), Decidable (StepsSatisfy P steps s)
  | [], _ => isTrue trivial
  | step :: steps, s =>
    have := StepsSatisfy.decidable P steps (step.apply s)
    inferInstanceAs (Decidable (P s step ∧ StepsSatisfy P steps (step.apply s)))

/-- Every token of a state is dated by the row of its user. -/
def AllDated (s : AccountState) : Prop := ∀ entry ∈ s.minted, s.Dated entry

/-- What the log of a lone refresh shows: the presented token and the pairs that are issued
for it have the version of the active user. -/
structure RefreshDated (settings : TokenSettings) (token : RefreshToken)
    (users : String → Option UserTokenState) (log : SessionLog T) (stores : SessionState T) :
    Prop where
  users_eq : stores.users = users
  bootstrap : ∀ (userId sessionId : Option String) (claims : BootstrapClaims),
    (⟨.getBootstrapClaims userId sessionId, some claims⟩ : SessionCall T) ∈ log →
      ∃ text state, userId = some text ∧ users text = some state ∧
        claims.authTokenVersion = some state.authTokenVersion
  matched : ∀ (userId : Option String) (version : Option ℤ),
    (⟨.tokenVersionMatchesActiveUser userId version, true⟩ : SessionCall T) ∈ log →
      ∃ text state, userId = some text ∧ users text = some state ∧
        version = some state.authTokenVersion
  pairs : ∀ pair ∈ log.filterMap issuedPair, ∃ claims text state,
    readClaims settings token = .ok claims ∧ users text = some state ∧
    claims.userId = some text ∧ claims.authTokenVersion = some state.authTokenVersion ∧
    pair.accessToken.userId = some text ∧ pair.refreshToken.userId = some text ∧
    pair.accessToken.authTokenVersion = some state.authTokenVersion ∧
    pair.refreshToken.authTokenVersion = some state.authTokenVersion

/-- No call on the session stores changes a user. -/
theorem exec_tokenUsers (settings : TokenSettings) (tick : Tick T) (op : SessionOp)
    (stores : SessionState T) :
    (SessionState.exec settings tick op stores).2.users = stores.users := by
  cases op with
  | touchIdentitySession sessionId tokenFamily =>
    simp only [SessionState.exec, SessionState.effect, SessionState.touchIdentitySession]
    split
    · rfl
    · rfl
  | revokeIdentitySession sessionId tokenFamily reason =>
    simp only [SessionState.exec, SessionState.effect, SessionState.revokeIdentitySession]
    split
    · rfl
    · rfl
  | _ => rfl

omit [IsStrictOrderedRing T] [FloorRing T] in
theorem getBootstrapClaims_eq_some {stores : SessionState T} {userId sessionId : Option String}
    {claims : BootstrapClaims} (h : stores.getBootstrapClaims userId sessionId = some claims) :
    ∃ text state, userId = some text ∧ stores.users text = some state ∧
      claims.authTokenVersion = some state.authTokenVersion := by
  unfold SessionState.getBootstrapClaims at h
  split at h
  · cases h
  · next id user hfound =>
    split at h
    · cases h
      obtain ⟨text, htext, hmap⟩ := Option.bind_eq_some_iff.mp hfound
      obtain ⟨state, hstate, heq⟩ := Option.map_eq_some_iff.mp hmap
      cases heq
      exact ⟨_, _, htext, hstate, rfl⟩
    · cases h

omit [IsStrictOrderedRing T] [FloorRing T] in
theorem tokenVersionMatchesActiveUser_true {stores : SessionState T} {userId : Option String}
    {version : Option ℤ} (h : stores.tokenVersionMatchesActiveUser userId version = true) :
    ∃ text state, userId = some text ∧ stores.users text = some state ∧
      version = some state.authTokenVersion := by
  unfold SessionState.tokenVersionMatchesActiveUser at h
  split at h
  · cases h
  · next user hfound =>
    obtain ⟨text, htext, hstate⟩ := Option.bind_eq_some_iff.mp hfound
    rw [decide_eq_true_eq] at h
    exact ⟨text, user, (Option.filter_eq_some_iff.mp htext).1, hstate, h.2⟩

/-- The calls of a lone refresh keep its pairs dated. -/
theorem keepsRefreshDated (settings : TokenSettings) (token : RefreshToken)
    (users : String → Option UserTokenState) :
    KeepsAlone (SessionState.exec settings) (refreshContract (T := T) settings token)
      (RefreshDated settings token users) := by
  intro log stores tick op h hop
  refine ⟨trivial, ?_⟩
  have husers : (stores.pass tick).users = users := h.users_eq
  refine
    { users_eq := (exec_tokenUsers settings tick op stores).trans h.users_eq
      bootstrap := fun userId sessionId claims hmem => ?_
      matched := fun userId version hmem => ?_
      pairs := fun pair hmem => ?_ }
  · rcases List.mem_cons.mp hmem with hnew | hold
    · cases op with
      | getBootstrapClaims userId' sessionId' =>
        obtain ⟨hop, hanswer⟩ := Sigma.mk.inj hnew
        cases hop
        rw [← husers]
        exact getBootstrapClaims_eq_some (eq_of_heq hanswer).symm
      | _ => cases congrArg Sigma.fst hnew
    · exact h.bootstrap userId sessionId claims hold
  · rcases List.mem_cons.mp hmem with hnew | hold
    · cases op with
      | tokenVersionMatchesActiveUser userId' version' =>
        obtain ⟨hop, hanswer⟩ := Sigma.mk.inj hnew
        cases hop
        rw [← husers]
        exact tokenVersionMatchesActiveUser_true (eq_of_heq hanswer).symm
      | _ => cases congrArg Sigma.fst hnew
    · exact h.matched userId version hold
  · cases op with
    | issueRotatedPair claims accessJti refreshJti bootstrapClaims =>
      rcases List.mem_cons.mp hmem with rfl | hold
      · obtain ⟨ttl, now, hread, hlog⟩ := hop
        obtain ⟨text, state, htext, hstate, hversion⟩ :=
          h.bootstrap claims.userId claims.sessionId bootstrapClaims (by simp [hlog])
        obtain ⟨text', state', htext', hstate', hpresented⟩ :=
          h.matched claims.userId claims.authTokenVersion (by simp [hlog, checked])
        cases htext.symm.trans htext'
        cases hstate.symm.trans hstate'
        have happly : applyAuthTokenVersion claims.authTokenVersion bootstrapClaims =
            state.authTokenVersion := by
          rw [applyAuthTokenVersion, hversion]
          rfl
        exact ⟨claims, text, state, hread, hstate, htext, hpresented, htext, htext,
          congrArg some happly, congrArg some happly⟩
      · exact h.pairs pair hold
    | _ => exact h.pairs pair hmem

/-- What a refresh alone has issued is dated by the rows of the users. -/
theorem refreshDated_runRefresh (settings : TokenSettings) (token : RefreshToken)
    (stores : SessionState T) (ticks : List (Tick T)) (s : AccountState) :
    RefreshDated settings token s.tokenStates (runRefresh settings token stores ticks s).log
      (runRefresh settings token stores ticks s).state := by
  have hstart : RefreshDated settings token s.tokenStates [] (stores.withUsers s) :=
    { users_eq := rfl
      bootstrap := fun _ _ _ h => by cases h
      matched := fun _ _ h => by cases h
      pairs := fun _ h => by cases h }
  exact (Program.Follows.runAlone (keepsRefreshDated settings token s.tokenStates)
    (refreshSession_follows settings token) hstart ticks).1

/-- A pair that a refresh alone returns has been issued by one of its calls. -/
theorem issued_of_runRefresh {settings : TokenSettings} {token : RefreshToken}
    {stores : SessionState T} {ticks : List (Tick T)} {s : AccountState} {pair : IssuedTokenPair}
    (h : (runRefresh settings token stores ticks s).value = some (.ok pair)) :
    pair ∈ (runRefresh settings token stores ticks s).log.filterMap issuedPair := by
  have hkeeps : KeepsAlone (SessionState.exec settings) (anyCall (T := T)) fun _ _ => True :=
    fun _ _ _ _ _ _ => ⟨trivial, trivial⟩
  exact (Program.Follows.runAlone hkeeps (refreshSession_returns settings token)
    trivial ticks).2 _ h pair rfl

namespace IdentityStep

/-- A token with the version of the row of its user is dated. -/
theorem dated_of_tokenState {s : AccountState} {text : String} {state : UserTokenState}
    (h : s.tokenStates text = some state) : s.Dated (some text, some state.authTokenVersion) := by
  obtain ⟨row, rfl, hrow, rfl⟩ := AccountState.tokenStates_eq_some h
  exact ⟨row.id, row.authTokenVersion, rfl, Or.inr ⟨row, hrow, Nat.le_refl _⟩⟩

omit [IsStrictOrderedRing T] in
/-- A step-up token has the user and the version of the token that it is issued for. -/
theorem dated_stepUp {s : AccountState} {settings : TokenSettings} {now : T} {jti : UUID}
    {token : AccessToken} {family : String}
    (h : s.Dated (token.userId, token.authTokenVersion)) :
    s.Dated ((issueStepUpToken settings now jti token family).userId,
      (issueStepUpToken settings now jti token family).authTokenVersion) := by
  obtain ⟨userId, version, heq, hversion⟩ := h
  obtain ⟨huser, htoken⟩ := Prod.mk.inj heq
  refine ⟨userId, version, ?_, hversion⟩
  simp only [issueStepUpToken, huser, htoken, nonEmpty_uuidText, Option.getD_some]

/-- An execution makes of every row what its kind of step may. -/
theorem evolves_apply (step : IdentityStep T) {s : AccountState} (hdated : AllDated s)
    {userId : UUID} {row : UserRow} (hrow : s.users.lookup userId = some row) :
    ∃ row', (step.apply s).users.lookup userId = some row' ∧ step.Evolves s row row' := by
  cases step with
  | account command choices => exact (alone_runCommand command choices hdated).evolves userId row hrow
  | refresh settings token stores ticks => exact ⟨row, hrow, rfl⟩
  | stepUp settings now jti token =>
    refine ⟨row, ?_, rfl⟩
    simp only [apply]
    cases issueStepUp settings s.accessTokens now jti token with
    | error error => exact hrow
    | ok issued => exact hrow

/-- An execution keeps the tokens dated. -/
theorem dated_apply (step : IdentityStep T) {s : AccountState} (hdated : AllDated s) :
    AllDated (step.apply s) := by
  cases step with
  | account command choices => exact (alone_runCommand command choices hdated).dated
  | refresh settings token stores ticks =>
    have hrefresh := refreshDated_runRefresh settings token stores ticks s
    have hpairs : ∀ pair ∈ (runRefresh settings token stores ticks s).log.filterMap issuedPair,
        s.Dated (pair.accessToken.userId, pair.accessToken.authTokenVersion) ∧
          s.Dated (pair.refreshToken.userId, pair.refreshToken.authTokenVersion) := by
      intro pair hpair
      obtain ⟨_, text, state, _, hstate, _, _, haccess, hrefresh, haccess', hrefresh'⟩ :=
        hrefresh.pairs pair hpair
      rw [haccess, haccess', hrefresh, hrefresh']
      exact ⟨dated_of_tokenState hstate, dated_of_tokenState hstate⟩
    intro entry hentry
    simp only [apply, AccountState.minted, List.map_append, List.mem_append, List.map_map,
      List.mem_map, Function.comp] at hentry
    rcases hentry with (⟨pair, hpair, rfl⟩ | hold) | ⟨pair, hpair, rfl⟩ | hold
    · exact (hpairs pair hpair).1
    · exact hdated entry (List.mem_append_left _ (List.mem_map.mpr hold))
    · exact (hpairs pair hpair).2
    · exact hdated entry (List.mem_append_right _ (List.mem_map.mpr hold))
  | stepUp settings now jti token =>
    simp only [apply]
    cases hissued : issueStepUp settings s.accessTokens now jti token with
    | error error => exact hdated
    | ok issued =>
      obtain ⟨hsigned, _, family, _, rfl⟩ := issueStepUp_ok hissued
      intro entry hentry
      rcases List.mem_cons.mp hentry with rfl | hold
      · refine dated_stepUp (hdated _ (List.mem_append_left _ ?_))
        exact List.mem_map_of_mem hsigned
      · exact hdated entry hold

omit [IsStrictOrderedRing T] [FloorRing T] in
/-- No execution lowers a token version. -/
theorem version_le_of_evolves {step : IdentityStep T} {s : AccountState} {before after : UserRow}
    (h : step.Evolves s before after) : before.authTokenVersion ≤ after.authTokenVersion := by
  cases step with
  | account command choices => exact h.version_le
  | refresh settings token stores ticks => exact (congrArg UserRow.authTokenVersion h).ge
  | stepUp settings now jti token => exact (congrArg UserRow.authTokenVersion h).ge

end IdentityStep

/-- A run keeps the tokens dated. -/
theorem dated_runSteps (steps : List (IdentityStep T)) {s : AccountState} (hdated : AllDated s) :
    AllDated (runSteps steps s) := by
  induction steps generalizing s with
  | nil => exact hdated
  | cons step steps ih => exact ih (step.dated_apply hdated)

/-- A run never lowers the token version of a row. -/
theorem version_le_runSteps (steps : List (IdentityStep T)) {s : AccountState}
    (hdated : AllDated s) {userId : UUID} {row : UserRow}
    (hrow : s.users.lookup userId = some row) :
    ∃ row', (runSteps steps s).users.lookup userId = some row' ∧
      row.authTokenVersion ≤ row'.authTokenVersion := by
  induction steps generalizing s row with
  | nil => exact ⟨row, hrow, Nat.le_refl _⟩
  | cons step steps ih =>
    obtain ⟨row', hrow', hevolves⟩ := step.evolves_apply hdated hrow
    obtain ⟨row'', hrow'', hle⟩ := ih (step.dated_apply hdated) hrow'
    exact ⟨row'', hrow'', (IdentityStep.version_le_of_evolves hevolves).trans hle⟩

end Runs

end Linkapro.Identity
