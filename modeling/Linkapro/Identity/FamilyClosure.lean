import Mathlib.Algebra.Order.Ring.Star
import Mathlib.Data.Rat.Star
import Linkapro.Identity.ReuseDetection
import Linkapro.Identity.Revocations
import Linkapro.Lib.Sequential

/-!
# Identity: closed token families

Once an execution has blacklisted a token family, no token of the family that has been
signed before is accepted again. The entry lasts as long as the longest lifetime of a
token, so it lapses after all of these tokens have expired. In a sequential run the
executions follow one another, and time may pass in them and between them; a token is
presented at one instant.
-/

namespace Linkapro.Identity

open Lib Lib.Program

/-- The sessions that a call has listed. -/
def listedSessions {T : Type} : Call (TokenOp.Ret T) → List ActiveSession
  | ⟨.inr (.listActiveIdentitySessions _), sessions⟩ => sessions
  | _ => []

/-- Families that are blacklisted have a name, as long as listed ones do. -/
def namedFamilies (T : Type) : Contract (TokenOp.Ret T) where
  allowed _ op := ∀ familyId, op = .inl (.blacklistFamily familyId) → isBlank familyId = false
  possible call := ∀ session ∈ listedSessions call, isBlank session.tokenFamily = false

section Programs

variable {T : Type} [Field T] [LinearOrder T] [FloorRing T] {log : TokenLog T}

omit [Field T] [LinearOrder T] [FloorRing T] in
theorem named_of_ne {op : TokenOp} (h : ∀ familyId, op ≠ .inl (.blacklistFamily familyId)) :
    (namedFamilies T).allowed log op := fun familyId heq => absurd heq (h familyId)

/-- The names in the calls that a refresh can also perform. -/
def namedSessions (T : Type) : Contract (SessionOp.Ret T) where
  allowed _ op := ∀ familyId, op = .blacklistFamily familyId → isBlank familyId = false
  possible _ := True

omit [Field T] [LinearOrder T] [FloorRing T] in
theorem named_inl {α : Type} {program : SessionProgram T α}
    (h : program.Follows (namedSessions T) (leftLog log) fun _ _ => True) :
    (program.inl : TokenProgram T α).Follows (namedFamilies T) log fun _ _ => True := by
  refine Follows.inl h (fun _ op hop familyId heq => ?_) fun _ _ _ => trivial
  exact hop familyId (Sum.inl.inj heq)

theorem named_refreshSession (settings : TokenSettings) (token : RefreshToken) :
    (refreshSession (T := T) settings token).Follows (namedSessions T) [] fun _ _ => True := by
  refine ((refreshSession_follows settings token).weaken ?_ fun _ _ => trivial).mono
    fun _ _ _ => trivial
  intro log op hop familyId heq
  rw [heq] at hop
  obtain ⟨claims, _, rfl⟩ := hop
  exact claims.family.not_blank

theorem named_revokeCurrentSession (settings : TokenSettings) (token : RefreshToken) :
    (revokeCurrentSession (T := T) settings token).Follows (namedSessions T) []
      fun _ _ => True := by
  refine ⟨by simp [namedSessions], fun (valid : Bool) _ => ?_⟩
  cases valid with
  | false => trivial
  | true =>
    cases hread : readClaims settings token with
    | error error => trivial
    | ok claims =>
      refine ⟨by simp [namedSessions], fun (now : T) _ => ?_⟩
      refine ⟨by simp [namedSessions], fun _ _ => ?_⟩
      refine ⟨fun familyId heq => ?_, fun _ _ => ?_⟩
      · rw [← SessionOp.blacklistFamily.inj heq]
        exact claims.family.not_blank
      · exact ⟨by simp [namedSessions], fun _ _ => trivial⟩

omit [Field T] [LinearOrder T] [FloorRing T] in
theorem named_revokeListed {session : ActiveSession} (h : isBlank session.tokenFamily = false)
    (reason : String) :
    (revokeListed (T := T) session reason).Follows (namedFamilies T) log fun _ _ => True := by
  refine ⟨fun familyId heq => ?_, fun _ _ => ?_⟩
  · rw [← SessionOp.blacklistFamily.inj (Sum.inl.inj heq)]
    exact h
  · exact ⟨named_of_ne fun _ heq => (by cases heq), fun _ _ => trivial⟩

omit [Field T] [LinearOrder T] [FloorRing T] in
theorem named_revokeSession (userId : UUID) (sessionId reason : String) :
    (revokeSession (T := T) userId sessionId reason).Follows (namedFamilies T) []
      fun _ _ => True := by
  refine follows_perform_bind_iff.mpr
    ⟨named_of_ne fun _ heq => (by cases heq), fun (sessions : List ActiveSession) hlisted => ?_⟩
  cases hfind : sessions.find? fun session => session.id = sessionId with
  | none => trivial
  | some session =>
    exact follows_bind_iff.mpr (named_revokeListed
      (hlisted session (List.mem_of_find?_eq_some hfind)) reason)

omit [Field T] [LinearOrder T] [FloorRing T] in
theorem named_revokeOtherSessions (userId : UUID) (currentSessionId reason : String) :
    (revokeOtherSessions (T := T) userId currentSessionId reason).Follows (namedFamilies T) []
      fun _ _ => True := by
  refine follows_perform_bind_iff.mpr
    ⟨named_of_ne fun _ heq => (by cases heq), fun (sessions : List ActiveSession) hlisted => ?_⟩
  refine follows_bind_iff.mpr (follows_forM (otherSessions currentSessionId sessions)
    (fun session hmem log' _ => ?_) trivial)
  exact named_revokeListed (hlisted session (List.mem_of_mem_filter hmem)) reason

omit [Field T] [LinearOrder T] [FloorRing T] in
theorem named_revokeAllSessions (userId : UUID) (reason : String) :
    (revokeAllSessions (tokenServices (T := T)) userId reason).Follows (namedFamilies T) []
      fun _ _ => True := by
  refine follows_perform_bind_iff.mpr
    ⟨named_of_ne fun _ heq => (by cases heq), fun (sessions : List ActiveSession) hlisted => ?_⟩
  refine follows_bind_iff.mpr ((follows_forM (P := fun _ => True) sessions
    (fun session hmem log' _ => ?_) trivial).mono fun log' _ _ => ?_)
  · refine ⟨fun familyId heq => ?_, fun _ _ => trivial⟩
    rw [← SessionOp.blacklistFamily.inj (Sum.inl.inj heq)]
    exact hlisted session hmem
  · exact ⟨named_of_ne fun _ heq => (by cases heq), fun _ _ => trivial⟩

/-- Every execution blacklists named families only. -/
theorem SessionCommand.named (settings : TokenSettings) (command : SessionCommand) :
    (command.program (T := T) settings).Follows (namedFamilies T) [] fun _ _ => True := by
  cases command with
  | login user =>
    refine ⟨named_of_ne fun _ heq => (by cases heq), fun (family : UUID) _ => ?_⟩
    refine ⟨named_of_ne fun _ heq => (by cases heq), fun (sessionId : String) _ => ?_⟩
    refine ⟨named_of_ne fun _ heq => (by cases heq), fun (access : AccessToken) _ => ?_⟩
    exact ⟨named_of_ne fun _ heq => (by cases heq), fun (refresh : RefreshToken) _ => trivial⟩
  | refreshSession token =>
    exact follows_bind_iff.mpr (named_inl (named_refreshSession settings token))
  | issueStepUp jti token => exact ⟨named_of_ne fun _ heq => (by cases heq), fun _ _ => trivial⟩
  | revokeCurrentSession token =>
    exact follows_bind_iff.mpr (named_inl (named_revokeCurrentSession settings token))
  | revokeSession userId sessionId reason =>
    exact follows_bind_iff.mpr (named_revokeSession userId sessionId reason)
  | revokeOtherSessions userId currentSessionId reason =>
    exact follows_bind_iff.mpr (named_revokeOtherSessions userId currentSessionId reason)
  | revokeAllSessions userId reason =>
    exact follows_bind_iff.mpr (named_revokeAllSessions userId reason)

end Programs

section Runs

variable {T : Type} [Field T] [LinearOrder T] [IsStrictOrderedRing T] [FloorRing T]
  {settings : TokenSettings}

/-- An execution alone. -/
def runSession (settings : TokenSettings) (command : SessionCommand) (ticks : List (Tick T))
    (s : TokenStores T) : LoneRun (TokenStores T) (TokenOp.Ret T) Unit :=
  runAlone (TokenStores.exec settings) ticks (command.program settings) [] s

variable (T) in
/-- One step of a sequential run. -/
inductive TokenStep : Type where
  | wait (tick : Tick T)
  /-- An account handler has changed the user rows. -/
  | accounts (users : String → Option UserTokenState)
  | execution (command : SessionCommand) (ticks : List (Tick T))

/-- The state after a step. -/
def TokenStep.apply (settings : TokenSettings) (s : TokenStores T) : TokenStep T → TokenStores T
  | .wait tick => s.pass tick
  | .accounts users => { s with stores := { s.stores with users } }
  | .execution command ticks => (runSession settings command ticks s).state

/-- The state after a sequential run. -/
def runTokenSteps (settings : TokenSettings) (steps : List (TokenStep T)) (s : TokenStores T) :
    TokenStores T :=
  steps.foldl (TokenStep.apply settings) s

/-- The effect of a call at the instant of the store. -/
def execNow (settings : TokenSettings) : Exec (SessionState T) UUID (SessionOp.Ret T) :=
  fun uuid => SessionState.exec settings ⟨0, uuid, le_refl 0⟩

/-- A refresh for a token that is presented now. -/
def refreshNow (settings : TokenSettings) (token : RefreshToken) (uuids : List UUID)
    (s : SessionState T) :
    LoneRun (SessionState T) (SessionOp.Ret T) (Except RefreshError IssuedTokenPair) :=
  runAlone (execNow settings) uuids (refreshSession settings token) [] s

/-- The family is blacklisted for a token lifetime after an instant that has passed. -/
structure ClosedSince (familyId : String) (instant : T) (s : SessionState T) : Prop where
  passed : instant ≤ s.clock
  outlives : ∃ deadline, s.families familyId = some ⟨(), some deadline⟩ ∧
    instant + refreshTokenLifetime ≤ deadline

omit [LinearOrder T] [IsStrictOrderedRing T] [FloorRing T] in
theorem lifetime_eq : (refreshTokenLifetime : T) = 7 * 24 * 3600 := by
  norm_num [refreshTokenLifetime]

/-- A call that writes the family closes it. -/
theorem closedSince_of_write (settings : TokenSettings) {tick : Tick T} {s : SessionState T}
    {familyId : String} {instant : T} (h : instant ≤ s.clock) :
    ClosedSince familyId instant
      (SessionState.exec settings tick (.blacklistFamily familyId) s).2 := by
  have hpassed : instant ≤ s.clock + tick.elapsed := by
    have hnonneg := tick.elapsed_nonneg
    linarith
  refine ⟨hpassed, s.clock + tick.elapsed + 7 * 24 * 3600, ?_, ?_⟩
  · simp [SessionState.exec, SessionState.effect, SessionState.pass, ExpiringMap.set]
  · rw [lifetime_eq]
    linarith

/-- No call opens a closed family. -/
theorem ClosedSince.exec {tick : Tick T} {op : SessionOp} {s : SessionState T} {familyId : String}
    {instant : T} (h : ClosedSince familyId instant s) :
    ClosedSince familyId instant (SessionState.exec settings tick op s).2 := by
  by_cases hwrite : familyWrite op = some familyId
  · cases op with
    | blacklistFamily familyId' =>
      cases Option.some.inj hwrite
      exact closedSince_of_write settings h.passed
    | _ => cases hwrite
  · refine ⟨?_, ?_⟩
    · have hnonneg := tick.elapsed_nonneg
      have hclock : (SessionState.exec settings tick op s).2.clock = s.clock + tick.elapsed :=
        SessionState.clock_effect
      have hpassed := h.passed
      linarith
    · obtain ⟨deadline, hfamilies, hle⟩ := h.outlives
      refine ⟨deadline, ?_, hle⟩
      cases op with
      | blacklistFamily familyId' =>
        have hne : familyId ≠ familyId' := fun heq => hwrite (by rw [heq]; rfl)
        simpa [SessionState.exec, SessionState.effect, SessionState.pass, ExpiringMap.set, hne]
          using hfamilies
      | _ => rwa [exec_families rfl]

/-- A call that a refresh does not perform keeps the clock and the blacklisted families. -/
theorem rowCall_stores (settings : TokenSettings) (tick : Tick T) (op : SessionRowOp)
    (s : TokenStores T) :
    (TokenStores.rowCall settings tick op s).2.stores.clock = s.stores.clock ∧
      (TokenStores.rowCall settings tick op s).2.stores.families = s.stores.families := by
  cases op with
  | createIdentitySession userId tokenFamily =>
    simp only [TokenStores.rowCall, TokenStores.createIdentitySession]
    split
    · exact ⟨rfl, rfl⟩
    · exact ⟨rfl, rfl⟩
  | issueStepUpToken jti token =>
    simp only [TokenStores.rowCall]
    split
    · exact ⟨rfl, rfl⟩
    · exact ⟨rfl, rfl⟩
  | _ => exact ⟨rfl, rfl⟩

omit [FloorRing T] in
/-- Waiting does not open a closed family. -/
theorem ClosedSince.pass {s : SessionState T} {familyId : String} {instant : T}
    (h : ClosedSince familyId instant s) (tick : Tick T) :
    ClosedSince familyId instant (s.pass tick) :=
  ⟨h.passed.trans (le_add_of_nonneg_right tick.elapsed_nonneg), h.outlives⟩

/-- No call of a session handler opens a closed family. -/
theorem ClosedSince.tokenExec {tick : Tick T} {op : TokenOp} {s : TokenStores T}
    {familyId : String} {instant : T} (h : ClosedSince familyId instant s.stores) :
    ClosedSince familyId instant (TokenStores.exec settings tick op s).2.stores := by
  cases op with
  | inl op => exact h.exec
  | inr op =>
    obtain ⟨hclock, hfamilies⟩ := rowCall_stores settings tick op (s.pass tick)
    have hpass := h.pass tick
    exact ⟨hclock ▸ hpass.passed, hfamilies ▸ hpass.outlives⟩

/-- No step of a sequential run opens a closed family. -/
theorem ClosedSince.step {s : TokenStores T} {familyId : String} {instant : T}
    (h : ClosedSince familyId instant s.stores) (step : TokenStep T) :
    ClosedSince familyId instant (step.apply settings s).stores := by
  cases step with
  | wait tick => exact h.pass tick
  | accounts users => exact ⟨h.passed, h.outlives⟩
  | execution command ticks =>
    have hkeeps : KeepsAlone (TokenStores.exec settings)
        { allowed := fun _ _ => True, possible := fun _ => True }
        fun _ s => ClosedSince familyId instant s.stores :=
      fun _ _ _ _ h _ => ⟨trivial, h.tokenExec⟩
    exact (Program.Follows.runAlone hkeeps (follows_of_allowed (fun _ _ => trivial) _ []) h
      ticks).1

theorem ClosedSince.run {s : TokenStores T} {familyId : String} {instant : T}
    (h : ClosedSince familyId instant s.stores) (steps : List (TokenStep T)) :
    ClosedSince familyId instant (runTokenSteps settings steps s).stores := by
  induction steps generalizing s with
  | nil => exact h
  | cons step steps ih => exact ih (h.step step)

/-- The clock never runs back. -/
theorem clock_le_exec (tick : Tick T) (op : TokenOp) (s : TokenStores T) :
    s.stores.clock ≤ (TokenStores.exec settings tick op s).2.stores.clock := by
  have hnonneg := tick.elapsed_nonneg
  have hclock : (TokenStores.exec settings tick op s).2.stores.clock =
      s.stores.clock + tick.elapsed := by
    cases op with
    | inl op => exact SessionState.clock_effect
    | inr op => exact (rowCall_stores settings tick op (s.pass tick)).1
  linarith

/-- Listed sessions have named families. -/
theorem namedFamilies_possible (tick : Tick T) (op : TokenOp) (s : TokenStores T) :
    (namedFamilies T).possible ⟨op, (TokenStores.exec settings tick op s).1⟩ := by
  intro session hmem
  rcases op with op | op
  · cases hmem
  · cases op with
    | listActiveIdentitySessions userId =>
      obtain ⟨row, hrow, rfl⟩ := List.mem_map.mp hmem
      exact s.families_not_blank row
        (List.mem_of_mem_filter ((List.mem_insertionSort _).mp hrow))
    | _ => cases hmem

/-- An execution that has blacklisted a family has closed it. -/
theorem closedSince_of_blacklisted {command : SessionCommand} {ticks : List (Tick T)}
    {s : TokenStores T} {familyId : String}
    (h : .inl (.blacklistFamily familyId) ∈
      (runSession settings command ticks s).log.map Sigma.fst) :
    isBlank familyId = false ∧
      ClosedSince familyId s.stores.clock (runSession settings command ticks s).state.stores := by
  let closing : TokenLog T → TokenStores T → Prop := fun log s' =>
    s.stores.clock ≤ s'.stores.clock ∧
      (.inl (.blacklistFamily familyId) ∈ log.map Sigma.fst →
        isBlank familyId = false ∧ ClosedSince familyId s.stores.clock s'.stores)
  have hkeeps : KeepsAlone (TokenStores.exec settings) (namedFamilies T) closing := by
    intro log s' tick op hclosing hop
    refine ⟨namedFamilies_possible tick op s', hclosing.1.trans (clock_le_exec tick op s'), ?_⟩
    intro hmem
    rcases List.mem_cons.mp hmem with hnew | hold
    · subst hnew
      exact ⟨hop familyId rfl, closedSince_of_write settings hclosing.1⟩
    · exact ⟨(hclosing.2 hold).1, (hclosing.2 hold).2.tokenExec⟩
  have hstart : closing [] s := ⟨le_refl _, fun hmem => by cases hmem⟩
  exact (Program.Follows.runAlone hkeeps (command.named settings) hstart ticks).1.2 h

omit [IsStrictOrderedRing T] [FloorRing T] in
/-- A token that expires in time finds the entry of a closed family. -/
theorem ClosedSince.live {s : SessionState T} {familyId : String} {instant : T}
    (h : ClosedSince familyId instant s) {expiresAt : ℤ}
    (hlifetime : (expiresAt : T) ≤ instant + refreshTokenLifetime)
    (hunexpired : s.clock < (expiresAt : T)) :
    (s.families.get s.clock familyId).isSome = true := by
  obtain ⟨deadline, hfamilies, hle⟩ := h.outlives
  rw [ExpiringMap.get_of_lt hfamilies (hunexpired.trans_le (hlifetime.trans hle))]
  rfl

omit [IsStrictOrderedRing T] [FloorRing T] in
/-- No request is authenticated with an access token of a closed family. -/
theorem ClosedSince.access_rejected {s : SessionState T} {familyId : String} {instant : T}
    (h : ClosedSince familyId instant s) (hname : isBlank familyId = false)
    {signed : List AccessToken} {token : AccessToken} (hfamily : token.family = some familyId)
    (hlifetime : (token.expiresAt : T) ≤ instant + refreshTokenLifetime) (userId : String) :
    authenticate settings signed s token ≠ .ok userId := by
  intro haccepted
  have haccess := authenticate_ok haccepted
  have hne : familyId ≠ "" := fun heq => by
    rw [heq] at hname
    cases hname
  have hopen := haccess.family_open
  rw [SessionState.familyRevoked, hfamily, nonEmpty, Option.filter_some_pos (by simpa using hne),
    Option.any_some, h.live hlifetime haccess.unexpired] at hopen
  cases hopen

/-- What a refresh for a token of a closed family has found. -/
structure FoundClosed (token : RefreshToken) (familyId : String) (instant now : T)
    (log : SessionLog T) (s : SessionState T) : Prop where
  clock_eq : s.clock = now
  closed : ClosedSince familyId instant s
  decoded : (⟨.decodeRefreshToken token, true⟩ : SessionCall T) ∈ log → now < (token.expiresAt : T)
  found : (familyId, false) ∉ log.filterMap familyCheck
  unissued : log.filterMap issuedPair = []

/-- A refresh for a token of a closed family issues no pair. -/
theorem keepsFoundClosed {token : RefreshToken} {familyId : String} {instant now : T}
    (hfamily : token.family = some familyId)
    (hlifetime : (token.expiresAt : T) ≤ instant + refreshTokenLifetime) :
    KeepsAlone (execNow settings) (refreshContract (T := T) settings token)
      (FoundClosed token familyId instant now) := by
  intro log s uuid op h hop
  have hpass : (s.pass ⟨0, uuid, le_refl 0⟩).clock = now := (add_zero s.clock).trans h.clock_eq
  refine ⟨trivial,
    { clock_eq := SessionState.clock_effect.trans hpass
      closed := h.closed.exec
      decoded := fun hmem => ?_
      found := ?_
      unissued := ?_ }⟩
  · rcases List.mem_cons.mp hmem with hnew | hold
    · cases op with
      | decodeRefreshToken presented =>
        obtain ⟨hpresented, hanswer⟩ := Sigma.mk.inj hnew
        cases hpresented
        have hvalid := (eq_of_heq hanswer).symm
        have hunexpired := (of_decide_eq_true hvalid).2
        rwa [hpass] at hunexpired
      | _ => cases congrArg Sigma.fst hnew
    · exact h.decoded hold
  · cases op with
    | isFamilyBlacklisted familyId' =>
      intro hmem
      rcases List.mem_cons.mp hmem with hnew | hold
      · obtain ⟨claims, used, hread, hname, hlog⟩ := hop
        obtain ⟨hsame, hanswer⟩ := Prod.mk.inj hnew
        have hunexpired := h.decoded (by rw [hlog]; simp)
        rw [← hpass] at hunexpired
        have hlive := (h.closed.pass ⟨0, uuid, le_refl 0⟩).live hlifetime hunexpired
        rw [hsame] at hlive
        exact Bool.false_ne_true (hanswer.trans hlive)
      · exact h.found hold
    | _ => exact h.found
  · cases op with
    | issueRotatedPair claims accessJti refreshJti bootstrapClaims =>
      obtain ⟨ttl, instant', hread, hlog⟩ := hop
      have hsame : claims.family.id = familyId :=
        Option.some.inj ((readClaims_ok hread).2.1.symm.trans hfamily)
      refine absurd ?_ h.found
      rw [hlog, ← hsame]
      simp [checked, familyCheck]
    | _ => exact h.unissued

/-- A refresh token of a closed family that is presented now yields no pair. -/
theorem ClosedSince.refresh_rejected {s : SessionState T} {familyId : String} {instant : T}
    (h : ClosedSince familyId instant s) {token : RefreshToken}
    (hfamily : token.family = some familyId)
    (hlifetime : (token.expiresAt : T) ≤ instant + refreshTokenLifetime) (uuids : List UUID)
    (pair : IssuedTokenPair) : (refreshNow settings token uuids s).value ≠ some (.ok pair) := by
  intro hreturned
  have hstart : FoundClosed token familyId instant s.clock [] s :=
    { clock_eq := rfl
      closed := h
      decoded := fun hmem => by cases hmem
      found := fun hmem => by cases hmem
      unissued := rfl }
  have hfound := (Program.Follows.runAlone (keepsFoundClosed hfamily hlifetime)
    (refreshSession_follows settings token) hstart uuids).1
  have hkeeps : KeepsAlone (execNow settings) (anyCall (T := T)) fun _ _ => True :=
    fun _ _ _ _ _ _ => ⟨trivial, trivial⟩
  have hissued := (Program.Follows.runAlone hkeeps (refreshSession_returns settings token)
    trivial uuids).2 _ hreturned pair rfl
  rw [hfound.unissued] at hissued
  cases hissued

/-- In a sequential run, once an execution has blacklisted a token family, no token of it
that was signed before the execution is accepted at any later time. -/
theorem family_closed_for_good (s : TokenStores T) (earlier later : List (TokenStep T))
    (command : SessionCommand) (ticks : List (Tick T)) {familyId : String}
    (hblacklisted : .inl (.blacklistFamily familyId) ∈
      (runSession settings command ticks (runTokenSteps settings earlier s)).log.map Sigma.fst) :
    let before := runTokenSteps settings earlier s
    let after := runTokenSteps settings later (runSession settings command ticks before).state
    (∀ token ∈ before.accessTokens, token.family = some familyId → ∀ userId,
      authenticate settings after.accessTokens after.stores token ≠ .ok userId) ∧
    ∀ token ∈ before.stores.signed, token.family = some familyId → ∀ uuids pair,
      (refreshNow settings token uuids after.stores).value ≠ some (.ok pair) := by
  intro before after
  obtain ⟨hname, hclosed⟩ := closedSince_of_blacklisted hblacklisted
  have hafter : ClosedSince familyId before.stores.clock after.stores := hclosed.run later
  constructor
  · intro token hmem hfamily userId
    have hlifetime := before.access_lifetime token hmem
    have hle : (accessTokenLifetime : T) ≤ refreshTokenLifetime := by
      norm_num [accessTokenLifetime, refreshTokenLifetime]
    exact hafter.access_rejected hname hfamily (hlifetime.trans (by linarith)) userId
  · intro token hmem hfamily uuids pair
    exact hafter.refresh_rejected hfamily (before.stores.signed_lifetime token hmem) uuids pair

/-- Second 0 of a service with the refresh token of a session. -/
def sampleTokenStores : TokenStores ℚ where
  stores := sampleSessions
  accessTokens := []
  access_lifetime := fun _ hmem => by cases hmem
  families_nodup := List.nodup_nil
  families_not_blank := fun _ hmem => by cases hmem

/-- After a sign-out the refresh token is rejected at second 5. -/
theorem family_closed_for_good_sample :
    let after := runTokenSteps sampleSettings [.wait ⟨5, 0, by norm_num⟩]
      (runSession sampleSettings (.revokeCurrentSession sampleToken)
        (List.replicate 6 (instantly 1)) sampleTokenStores).state
    (∀ token ∈ sampleTokenStores.accessTokens, token.family = some "family_1" → ∀ userId,
      authenticate sampleSettings after.accessTokens after.stores token ≠ .ok userId) ∧
    ∀ token ∈ sampleTokenStores.stores.signed, token.family = some "family_1" → ∀ uuids pair,
      (refreshNow sampleSettings token uuids after.stores).value ≠ some (.ok pair) := by
  have hblacklisted : ((runSession sampleSettings (.revokeCurrentSession sampleToken)
      (List.replicate 6 (instantly 1)) sampleTokenStores).log.map Sigma.fst).any
        (fun op => op = .inl (.blacklistFamily "family_1")) = true := by
    decide +kernel
  obtain ⟨_, hmem, rfl⟩ := by simpa only [List.any_eq_true, decide_eq_true_eq] using hblacklisted
  exact family_closed_for_good sampleTokenStores [] [.wait ⟨5, 0, by norm_num⟩]
    (.revokeCurrentSession sampleToken) (List.replicate 6 (instantly 1)) hmem

end Runs

end Linkapro.Identity
