import Linkapro.Identity.RevocationEffects
import Linkapro.Identity.SavedAccounts

/-!
# Identity: revocations beside logins and refreshes

Any number of session handlers run at once, call by call. The family of a revoked row
has a blacklist entry, as long as an update of all rows of a user comes after the
families of these rows have been blacklisted. A refresh asks for the entry only, so it
is turned away for a revoked row while the entry lives; a request asks for the row, too.
-/

namespace Linkapro.Identity

open Lib Lib.Program

variable {T : Type} [Field T] [LinearOrder T] [IsStrictOrderedRing T] [FloorRing T]
  {ι : Type} [DecidableEq ι]

/-- A pool of executions of session handlers. -/
abbrev TokenPool (ι T : Type) [Field T] [LinearOrder T] [IsStrictOrderedRing T] [FloorRing T] :
    Type :=
  Pool ι (TokenStores T) (TokenOp.Ret T) Unit

/-- The executions before their first call. -/
def startSessions (settings : TokenSettings) (s : TokenStores T)
    (commands : ι → SessionCommand) : TokenPool ι T :=
  Pool.start s fun i => (commands i).program settings

/-- On this turn, an update of all rows of a user finds the family of each active one
blacklisted. -/
def RevokesClosedFamilies (pool : TokenPool ι T) (turn : ι × Tick T) : Prop :=
  ∀ userId ∈ (pool.next turn.1).bind revokedUser, ∀ row ∈ pool.state.stores.sessions,
    row.userId = userId → row.revokedAt.isNone = true →
      (pool.state.stores.families row.tokenFamily).isSome = true

instance (pool : TokenPool ι T) (turn : ι × Tick T) :
    Decidable (RevokesClosedFamilies pool turn) :=
  inferInstanceAs (Decidable (∀ _ ∈ _, ∀ _ ∈ _, _ → _ → _))

/-- The family that an operation of any session handler looks up in the blacklist. -/
def lookedUpFamily : TokenOp → Option String
  | .inl op => checkedFamily op
  | .inr _ => none

/-- On this turn, the check of a family that has an entry comes before it lapses. -/
def ChecksLiveEntry (pool : TokenPool ι T) (turn : ι × Tick T) : Prop :=
  ∀ familyId ∈ (pool.next turn.1).bind lookedUpFamily,
    (pool.state.stores.families familyId).isSome = true →
      (pool.state.stores.families.get (pool.state.stores.clock + turn.2.elapsed)
        familyId).isSome = true

instance (pool : TokenPool ι T) (turn : ι × Tick T) : Decidable (ChecksLiveEntry pool turn) :=
  inferInstanceAs (Decidable (∀ _ ∈ _, _ → _))

/-- The session of the family has been revoked. -/
def SessionRevoked (s : TokenStores T) (familyId : String) : Prop :=
  ∃ row ∈ s.stores.sessions, row.tokenFamily = familyId ∧ row.revokedAt.isSome = true

/-- What revocations promise of a turn. -/
structure RevocationsHold (settings : TokenSettings) (commands : ι → SessionCommand)
    (pool : TokenPool ι T) (turn : ι × Tick T) : Prop where
  /-- A check of the family of a revoked session finds it closed. -/
  checked : ∀ familyId, pool.next turn.1 = some (.inl (.isFamilyBlacklisted familyId)) →
    SessionRevoked pool.state familyId →
      (pool.step (TokenStores.exec settings) turn).log turn.1 =
        ⟨.inl (.isFamilyBlacklisted familyId), true⟩ :: pool.log turn.1
  /-- A pair is issued by a refresh that has found the family of its token open. -/
  issued : ∀ claims accessJti refreshJti bootstrapClaims,
    pool.next turn.1 =
      some (.inl (.issueRotatedPair claims accessJti refreshJti bootstrapClaims)) →
      ∃ token, commands turn.1 = .refreshSession token ∧
        token.family = some claims.family.id ∧
        ⟨.inl (.isFamilyBlacklisted claims.family.id), false⟩ ∈ pool.log turn.1 ∧
        ⟨.inl (.isFamilyBlacklisted claims.family.id), true⟩ ∉ pool.log turn.1
  /-- No request is authenticated with an access token of a revoked session. -/
  access : ∀ familyId, SessionRevoked (pool.step (TokenStores.exec settings) turn).state familyId →
    ∀ (tick : Tick T) (token : AccessToken) (userId : String), token.family = some familyId →
      authenticate settings (pool.step (TokenStores.exec settings) turn).state.accessTokens
        ((pool.step (TokenStores.exec settings) turn).state.stores.pass tick) token ≠ .ok userId
  /-- The execution revokes only sessions that it may. -/
  scope : ∀ row ∈ pool.state.stores.sessions, row.revokedAt.isNone = true →
    SessionRevoked (pool.step (TokenStores.exec settings) turn).state row.tokenFamily →
      (commands turn.1).Covers row

/-- How the stores and the logs of the executions belong together. -/
structure RevocationGuard (pool : TokenPool ι T) : Prop where
  consistent : Consistent pool.state
  recorded : ∀ i, ∀ call ∈ pool.log i, Recorded pool.state call

/-- The contracts of the executions of a pool. -/
abbrev revocationContracts (settings : TokenSettings) (commands : ι → SessionCommand) :
    ι → Contract (TokenOp.Ret T) :=
  fun i => revocationContract settings (commands i)

variable {settings : TokenSettings} {commands : ι → SessionCommand} {pool : TokenPool ι T} {i : ι}
  {tick : Tick T} {op : TokenOp} {next : TokenOp.Ret T op → TokenProgram T Unit}

omit [DecidableEq ι] in
/-- Listed sessions have named families. -/
theorem answers_revocationContracts :
    Pool.Answers (TokenStores.exec (T := T) settings) (revocationContracts settings commands) :=
  fun _ tick op s => namedFamilies_possible tick op s

omit [IsStrictOrderedRing T] [FloorRing T] in
/-- A session row is determined by its family. -/
theorem TokenStores.row_eq (s : TokenStores T) {row row' : IdentitySessionRow T}
    (h : row ∈ s.stores.sessions) (h' : row' ∈ s.stores.sessions)
    (hfamily : row.tokenFamily = row'.tokenFamily) : row = row' :=
  List.inj_on_of_nodup_map s.families_nodup h h' hfamily

/-- A family that an execution has closed has an entry. -/
theorem RevocationGuard.closed_entry (h : RevocationGuard pool) {tokenFamily : String}
    (hclosed : ClosedInLog (pool.log i) tokenFamily) :
    (pool.state.stores.families tokenFamily).isSome = true := by
  rcases hclosed with hwritten | hfound
  · exact h.recorded i _ hwritten
  · exact h.recorded i _ hfound rfl

/-- A row that a call revokes has a family with an entry. -/
theorem RevocationGuard.entry_of_revokes (h : RevocationGuard pool)
    (hcloses : RevokesClosedFamilies pool (i, tick)) (hrest : pool.rest i = .call op next)
    (hcall : RevocationCall settings (commands i) (pool.log i) op)
    {row : IdentitySessionRow T} (hmem : row ∈ pool.state.stores.sessions)
    (hactive : row.revokedAt.isNone = true) (hrevokes : Revokes op row) :
    (pool.state.stores.families row.tokenFamily).isSome = true := by
  cases op with
  | inl op =>
    cases op with
    | revokeIdentitySession sessionId tokenFamily reason =>
      have hfamily : row.tokenFamily = tokenFamily := hrevokes
      rw [hfamily]
      exact h.closed_entry hcall.2.1
    | _ => exact absurd hrevokes id
  | inr op =>
    cases op with
    | revokeAllIdentitySessions userId reason =>
      exact hcloses (uuidText userId) (by rw [Pool.next_of_call hrest]; rfl) row hmem hrevokes
        hactive
    | _ => exact absurd hrevokes id

/-- An execution may revoke what it revokes. -/
theorem RevocationGuard.covers_of_revokes (h : RevocationGuard pool)
    (hcall : RevocationCall settings (commands i) (pool.log i) op)
    {row : IdentitySessionRow T} (hmem : row ∈ pool.state.stores.sessions)
    (hrevokes : Revokes op row) : (commands i).Covers row := by
  cases op with
  | inl op =>
    cases op with
    | revokeIdentitySession sessionId tokenFamily reason =>
      have hfamily : row.tokenFamily = tokenFamily := hrevokes
      rcases hcall.2.2 with hpresented | ⟨call, hlog, userId, hlist, session, hsession, hname, hcovers⟩
      · exact hpresented row hfamily
      · obtain ⟨op', answer⟩ := call
        cases hlist
        obtain ⟨row', hrow', hid, huser, hfamily'⟩ := h.recorded i _ hlog session hsession
        have heq : row = row' :=
          pool.state.row_eq hmem hrow' (hfamily.trans (hname.symm.trans hfamily'.symm))
        rw [heq]
        exact hcovers row' huser hid
    | _ => exact absurd hrevokes id
  | inr op =>
    cases op with
    | revokeAllIdentitySessions userId reason =>
      obtain ⟨reason', hcommand⟩ := hcall
      rw [hcommand]
      exact hrevokes
    | _ => exact absurd hrevokes id

/-- The tokens that an execution signs name a session. -/
theorem RevocationGuard.signsNamed (h : RevocationGuard pool)
    (hcall : RevocationCall settings (commands i) (pool.log i) op) : SignsNamed op := by
  cases op with
  | inl op =>
    cases op with
    | issueRotatedPair claims accessJti refreshJti bootstrapClaims =>
      obtain ⟨token, _, hread, hdecoded, _⟩ := hcall
      have hnamed := h.consistent.refresh_named token (h.recorded i _ hdecoded rfl)
      change namesSession claims.sessionId
      rw [readClaims_sessionId hread, namesSession, nonEmpty_nonEmpty]
      exact hnamed
    | _ => trivial
  | inr op =>
    cases op with
    | createAccessToken claims =>
      obtain ⟨userId, tokenFamily, hopened⟩ := hcall
      exact h.recorded i _ hopened
    | createRefreshToken claims =>
      obtain ⟨userId, tokenFamily, hopened⟩ := hcall
      exact h.recorded i _ hopened
    | _ => trivial

omit [Field T] [LinearOrder T] [IsStrictOrderedRing T] [FloorRing T] in
/-- The families that a contract lets an execution revoke have a name. -/
theorem named_of_call {command : SessionCommand} {log : TokenLog T}
    (hcall : RevocationCall settings command log op) : ∀ sessionId tokenFamily reason,
      op = .inl (.revokeIdentitySession sessionId tokenFamily reason) →
        isBlank tokenFamily = false := by
  rintro sessionId tokenFamily reason rfl
  exact hcall.1

/-- A turn that revokes rows of closed families only keeps the guard. -/
theorem keeps_revocationGuard :
    Pool.Keeps (TokenStores.exec (T := T) settings) (revocationContracts settings commands)
      (fun _ _ _ => True) RevokesClosedFamilies RevocationGuard := by
  rintro pool i tick op next _ h hcloses hrest hallowed
  have hcall : RevocationCall settings (commands i) (pool.log i) op := hallowed
  refine ⟨⟨fun row' hmem hrevoked => ?_, fun row' hmem => ?_, ?_, ?_⟩, fun j call hmem => ?_⟩
  · rw [Pool.step_of_call hrest] at hmem ⊢
    rcases rows_exec (named_of_call hcall) hmem with ⟨row, hrow, hkept, hwhy⟩ | ⟨hnew, _⟩
    · refine families_exec ?_
      rw [hkept.tokenFamily_eq]
      by_cases hactive : row.revokedAt.isNone = true
      · have hold : ¬ row.revokedAt.isSome = true := by simpa using hactive
        exact h.entry_of_revokes hcloses hrest hcall hrow hactive
          ((hwhy hrevoked).resolve_left hold)
      · exact h.consistent.closed row hrow
          (Option.isSome_iff_ne_none.mpr (by simpa using hactive))
    · rw [hnew] at hrevoked
      cases hrevoked
  · rw [Pool.step_of_call hrest] at hmem
    rcases rows_exec (named_of_call hcall) hmem with ⟨row, hrow, hkept, _⟩ | ⟨_, hid⟩
    · rw [hkept.id_eq]
      exact h.consistent.row_named row hrow
    · rw [hid]
      exact ne_of_not_blank (isBlank_uuidText tick.uuid)
  · rw [Pool.step_of_call hrest]
    exact refresh_named_exec (h.signsNamed hcall) h.consistent.refresh_named
  · rw [Pool.step_of_call hrest]
    exact access_named_exec (h.signsNamed hcall) h.consistent.access_named
  · have hold (hbefore : call ∈ pool.log j) :
        Recorded (pool.step (TokenStores.exec settings) (i, tick)).state call := by
      rw [Pool.step_of_call hrest]
      exact (h.recorded j call hbefore).exec
    by_cases hij : i = j
    · subst hij
      rw [Pool.log_step_self hrest] at hmem
      rcases List.mem_cons.mp hmem with rfl | hbefore
      · rw [Pool.step_of_call hrest]
        exact recorded_exec h.consistent.row_named
      · exact hold hbefore
    · rw [Pool.log_step_other hij] at hmem
      exact hold hmem

/-- What the turns of a run must be like: all rows of a user are revoked when their families
have been blacklisted, and a family is checked while its entry lives. -/
def ClosesBeforeRevoking (pool : TokenPool ι T) (turn : ι × Tick T) : Prop :=
  RevokesClosedFamilies pool turn ∧ ChecksLiveEntry pool turn

instance (pool : TokenPool ι T) (turn : ι × Tick T) : Decidable (ClosesBeforeRevoking pool turn) :=
  inferInstanceAs (Decidable (_ ∧ _))

/-- The check of the family of a revoked session finds the live entry. -/
theorem RevocationGuard.checked (h : RevocationGuard pool)
    (hlive : ChecksLiveEntry pool (i, tick)) {familyId : String}
    (hnext : pool.next i = some (.inl (.isFamilyBlacklisted familyId)))
    (hrevoked : SessionRevoked pool.state familyId) :
    (pool.step (TokenStores.exec settings) (i, tick)).log i =
      ⟨.inl (.isFamilyBlacklisted familyId), true⟩ :: pool.log i := by
  obtain ⟨row, hrow, rfl, hrow'⟩ := hrevoked
  have hfound : (pool.state.stores.families.get (pool.state.stores.clock + tick.elapsed)
      row.tokenFamily).isSome = true :=
    hlive row.tokenFamily (by rw [hnext]; rfl) (h.consistent.closed row hrow hrow')
  cases hrest : pool.rest i with
  | done value => simp [Pool.next, hrest] at hnext
  | call op next =>
    rw [Pool.next_of_call hrest] at hnext
    cases hnext
    rw [Pool.log_step_self hrest, ← hfound]
    rfl

omit [FloorRing T] in
/-- A revoked session is never active for an access token that names it. -/
theorem Consistent.access_rejected {s : TokenStores T} (h : Consistent s) {familyId : String}
    (hrevoked : SessionRevoked s familyId) (tick : Tick T) {token : AccessToken}
    (hfamily : token.family = some familyId) (userId : String) :
    authenticate settings s.accessTokens (s.stores.pass tick) token ≠ .ok userId := by
  intro haccepted
  have haccess := authenticate_ok haccepted
  obtain ⟨row, hrow, rfl, hrow'⟩ := hrevoked
  have hactive := haccess.session
  obtain ⟨sessionId, hsession⟩ :=
    Option.isSome_iff_exists.mp (h.access_named token haccess.signed_mem)
  have hname : nonEmpty token.family = some row.tokenFamily := by
    rw [hfamily]
    exact Option.filter_some_pos
      (by simpa using ne_of_not_blank (s.families_not_blank row hrow))
  simp only [SessionState.identitySessionIsActive, hsession, hname, List.any_eq_true] at hactive
  obtain ⟨other, hother, hmatch⟩ := hactive
  obtain ⟨hunrevoked, _, hsame⟩ := of_decide_eq_true hmatch
  have heq : other = row := s.row_eq hother hrow (by simpa using hsame)
  rw [heq] at hunrevoked
  rw [Option.isNone_iff_eq_none.mp hunrevoked] at hrow'
  cases hrow'

/-- In every interleaving of session handlers in which each update of all rows of a user
finds the families of these rows blacklisted, and each check of a blacklisted family comes
while its entry lives, revocations hold on every turn. -/
theorem revocations_hold {s : TokenStores T} (hs : Consistent s) {schedule : List (ι × Tick T)}
    (hschedule : Pool.Always (TokenStores.exec settings) ClosesBeforeRevoking
      (startSessions settings s commands) schedule) :
    Pool.Always (TokenStores.exec settings) (RevocationsHold settings commands)
      (startSessions settings s commands) schedule := by
  have hkeeps : Pool.Keeps (TokenStores.exec (T := T) settings)
      (revocationContracts settings commands) (fun _ _ _ => True) ClosesBeforeRevoking
        RevocationGuard :=
    fun pool i tick op next hpool hI hC => keeps_revocationGuard pool i tick op next hpool hI hC.1
  have hstart : RevocationGuard (startSessions settings s commands) :=
    ⟨hs, fun i call hmem => by cases hmem⟩
  refine hkeeps.always answers_revocationContracts
    (fun i => (commands i).follows settings) hstart hschedule ?_
  rintro pool ⟨i, tick⟩ hpool h hturn
  have hnext := hkeeps.step hpool h hturn
  refine ⟨fun familyId => h.checked hturn.2, ?_, fun familyId hrevoked tick' token userId hfamily =>
    hnext.consistent.access_rejected hrevoked tick' hfamily userId, ?_⟩
  · intro claims accessJti refreshJti bootstrapClaims hissue
    cases hrest : pool.rest i with
    | done value => simp [Pool.next, hrest] at hissue
    | call op next =>
      rw [Pool.next_of_call hrest] at hissue
      cases hissue
      obtain ⟨token, hcommand, hread, _, hopen, hclosed⟩ := hpool.allowed_call hrest
      exact ⟨token, hcommand, (readClaims_ok hread).2.1, hopen, hclosed⟩
  · rintro row hrow hactive ⟨row', hrow', hfamily, hrevoked⟩
    cases hrest : pool.rest i with
    | done value =>
      rw [Pool.step_of_done hrest] at hrow'
      rw [pool.state.row_eq hrow' hrow hfamily, Option.isNone_iff_eq_none.mp hactive] at hrevoked
      cases hrevoked
    | call op next =>
      rw [Pool.step_of_call hrest] at hrow'
      have hcall : RevocationCall settings (commands i) (pool.log i) op :=
        hpool.allowed_call hrest
      rcases rows_exec (named_of_call hcall) hrow' with ⟨old, hold, hkept, hwhy⟩ | ⟨hnew, _⟩
      · have heq : old = row :=
          pool.state.row_eq hold hrow (hkept.tokenFamily_eq.symm.trans hfamily)
        subst heq
        rcases hwhy hrevoked with hbefore | hrevokes
        · rw [Option.isNone_iff_eq_none.mp hactive] at hbefore
          cases hbefore
        · exact h.covers_of_revokes hcall hrow hrevokes
      · rw [hnew] at hrevoked
        cases hrevoked

/-- Second 0 of a service in which no session has been opened. -/
def noSessions : TokenStores ℚ where
  stores := { sampleSessions with
    signed := []
    signed_lifetime := fun _ hmem => by cases hmem }
  accessTokens := []
  access_lifetime := fun _ hmem => by cases hmem
  families_nodup := List.nodup_nil
  families_not_blank := fun _ hmem => by cases hmem

theorem consistent_noSessions : Consistent noSessions where
  closed _ hmem := by cases hmem
  row_named _ hmem := by cases hmem
  refresh_named _ hmem := by cases hmem
  access_named _ hmem := by cases hmem

/-- The claims of the tokens of a login whose family is the UUID 10 and whose session is
the UUID 11. -/
def loginClaims : TokenClaims :=
  { userId := 1, role := .planner, family := 10, sessionId := uuidText 11, authTokenVersion := 0 }

/-- The refresh token of the login. -/
def loginToken : RefreshToken :=
  loginClaims.refreshToken
    { jti := 13, env := "production", issuedAt := 0, expiresAt := 604800 }

/-- A login and a refresh with its token beside the revocation of all sessions of the user. -/
def racingCommands : Fin 3 → SessionCommand
  | 0 => .revokeAllSessions 1 "all_sessions_revoked"
  | 1 => .login sampleUser
  | 2 => .refreshSession loginToken

/-- The login opens its session between the list of sessions and the update of the rows. -/
def loginDuringRevocation : List (Fin 3 × Tick ℚ) :=
  [(0, instantly 0), (1, instantly 10), (1, instantly 11), (1, instantly 12), (1, instantly 13),
    (0, instantly 14), (2, instantly 15), (2, instantly 16)]

/-- The family of the revoked session is open for the refresh. -/
theorem session_revoked_with_open_family :
    ¬ RevocationsHold sampleSettings racingCommands
      ((startSessions sampleSettings noSessions racingCommands).run
        (TokenStores.exec sampleSettings) loginDuringRevocation) (2, instantly 17) := by
  intro h
  have hfound := h.checked (uuidText 10) (by decide +kernel)
    (by unfold SessionRevoked; decide +kernel)
  have hopen := congrArg (fun log => (leftLog log).filterMap familyCheck) hfound
  revert hopen
  decide +kernel

/-- The revocation is over before the login, and then one of its sessions is revoked. -/
theorem revocations_hold_sample :
    Pool.Always (TokenStores.exec sampleSettings)
      (RevocationsHold sampleSettings racingCommands)
      (startSessions sampleSettings noSessions racingCommands)
        ([(1, instantly 10), (1, instantly 11), (1, instantly 12), (1, instantly 13)] ++
          (List.range 3).map (fun k => (0, instantly k)) ++
          (List.range 6).map fun k => (2, instantly k)) :=
  revocations_hold consistent_noSessions (by decide +kernel)

end Linkapro.Identity
