import Mathlib.Data.List.Sort
import Linkapro.Identity.AccountHandlers
import Linkapro.Identity.Authentication

/-!
# Identity: sessions that end

Sign-out and the revocation of one session, of the other sessions and of all sessions,
with the logins that open sessions. They share the session stores with the refreshes
and keep the access tokens that have been signed. A session row belongs to one token
family, and no two rows belong to the same.
-/

namespace Linkapro.Identity

open Lib Lib.Program

/-- One call of a session handler that a refresh does not perform. -/
inductive SessionRowOp : Type where
  | listActiveIdentitySessions (userId : UUID)
  | revokeAllIdentitySessions (userId : UUID) (reason : String)
  | createIdentitySession (userId tokenFamily : UUID)
  | createAccessToken (claims : TokenClaims)
  | createRefreshToken (claims : TokenClaims)
  | issueStepUpToken (jti : UUID) (token : AccessToken)
deriving DecidableEq

/-- The answer of each of these calls. -/
def SessionRowOp.Ret : SessionRowOp → Type
  | .listActiveIdentitySessions _ => List ActiveSession
  | .revokeAllIdentitySessions _ _ => ℕ
  | .createIdentitySession _ _ => String
  | .createAccessToken _ => AccessToken
  | .createRefreshToken _ => RefreshToken
  | .issueStepUpToken _ _ => Except RefreshError AccessToken

/-- One call of any session handler. -/
abbrev TokenOp : Type := SessionOp ⊕ SessionRowOp

section Stores

variable {T : Type} [Field T] [LinearOrder T] [IsStrictOrderedRing T] [FloorRing T]

/-- The answer of a call of any session handler. -/
abbrev TokenOp.Ret (T : Type) : TokenOp → Type := Sum.elim (SessionOp.Ret T) SessionRowOp.Ret

variable (T) in
/-- The session stores with the access tokens that have been signed. -/
structure TokenStores where
  stores : SessionState T
  accessTokens : List AccessToken
  /-- Access tokens are signed with the access lifetime or a shorter one. -/
  access_lifetime : ∀ token ∈ accessTokens,
    (token.expiresAt : T) ≤ stores.clock + accessTokenLifetime
  /-- The token family of a session is unique. -/
  families_nodup : (stores.sessions.map IdentitySessionRow.tokenFamily).Nodup
  families_not_blank : ∀ row ∈ stores.sessions, isBlank row.tokenFamily = false

/-- What stays of a session row: a revoked session is never active again. -/
structure SessionRowKept (before after : IdentitySessionRow T) : Prop where
  id_eq : after.id = before.id
  userId_eq : after.userId = before.userId
  tokenFamily_eq : after.tokenFamily = before.tokenFamily
  revoked : before.revokedAt.isSome = true → after.revokedAt.isSome = true

omit [Field T] [LinearOrder T] [IsStrictOrderedRing T] [FloorRing T] in
/-- A change that keeps the rows keeps their families. -/
theorem families_map {change : IdentitySessionRow T → IdentitySessionRow T}
    (h : ∀ row, SessionRowKept row (change row)) (rows : List (IdentitySessionRow T)) :
    (rows.map change).map IdentitySessionRow.tokenFamily =
      rows.map IdentitySessionRow.tokenFamily := by
  rw [List.map_map]
  exact List.map_congr_left fun row _ => (h row).tokenFamily_eq

namespace SessionState

variable {settings : TokenSettings} {tick : Tick T} {s : SessionState T} {op : SessionOp}

omit [IsStrictOrderedRing T] in
/-- A call takes effect at one instant. -/
theorem clock_effect : (effect settings tick op s).2.clock = s.clock := by
  cases op with
  | touchIdentitySession sessionId tokenFamily =>
    simp only [effect, touchIdentitySession]
    split
    · rfl
    · rfl
  | revokeIdentitySession sessionId tokenFamily reason =>
    simp only [effect, revokeIdentitySession]
    split
    · rfl
    · rfl
  | _ => rfl

/-- What a call makes of a session row. -/
def rowEffect (op : SessionOp) (now : T) (row : IdentitySessionRow T) : IdentitySessionRow T :=
  match op with
  | .touchIdentitySession sessionId tokenFamily =>
    if (nonEmpty sessionId).isSome ∧
        matchesSession (nonEmpty sessionId) (nonEmpty (some tokenFamily)) row then
      { row with lastSeenAt := now }
    else row
  | .revokeIdentitySession sessionId tokenFamily reason =>
    if ((nonEmpty sessionId).isSome ∨ (nonEmpty (some tokenFamily)).isSome) ∧
        matchesSession (nonEmpty sessionId) (nonEmpty (some tokenFamily)) row then
      { row with
        revokedAt := some now
        revokedReason := String.ofList (reason.toList.take 255) }
    else row
  | _ => row

omit [IsStrictOrderedRing T] in
/-- A call maps the session rows. -/
theorem sessions_effect :
    (effect settings tick op s).2.sessions = s.sessions.map (rowEffect op s.clock) := by
  have hkept (h : ∀ row : IdentitySessionRow T, rowEffect op s.clock row = row) :
      s.sessions = s.sessions.map (rowEffect op s.clock) := by
    rw [funext h, List.map_id']
  cases op with
  | touchIdentitySession sessionId tokenFamily =>
    simp only [effect, touchIdentitySession]
    cases hsession : nonEmpty sessionId with
    | none => exact hkept fun row => by simp [rowEffect, hsession]
    | some id => exact List.map_congr_left fun row _ => by simp [rowEffect, hsession]
  | revokeIdentitySession sessionId tokenFamily reason =>
    simp only [effect, revokeIdentitySession]
    cases hsession : nonEmpty sessionId with
    | none =>
      cases hfamily : nonEmpty (some tokenFamily) with
      | none => exact hkept fun row => by simp [rowEffect, hsession, hfamily]
      | some family =>
        exact List.map_congr_left fun row _ => by simp [rowEffect, hsession, hfamily]
    | some id => exact List.map_congr_left fun row _ => by simp [rowEffect, hsession]
  | _ => exact hkept fun _ => rfl

omit [Field T] [LinearOrder T] [IsStrictOrderedRing T] [FloorRing T] in
theorem sessionRowKept_rowEffect (now : T) (row : IdentitySessionRow T) :
    SessionRowKept row (rowEffect op now row) := by
  cases op with
  | touchIdentitySession sessionId tokenFamily =>
    simp only [rowEffect]
    split
    · exact ⟨rfl, rfl, rfl, id⟩
    · exact ⟨rfl, rfl, rfl, id⟩
  | revokeIdentitySession sessionId tokenFamily reason =>
    simp only [rowEffect]
    split
    · exact ⟨rfl, rfl, rfl, fun _ => rfl⟩
    · exact ⟨rfl, rfl, rfl, id⟩
  | _ => exact ⟨rfl, rfl, rfl, id⟩

omit [IsStrictOrderedRing T] in
/-- An issued access token has the access lifetime. -/
theorem issuedPair_lifetime (pair : IssuedTokenPair)
    (h : issuedPair ⟨op, (effect settings tick op s).1⟩ = some pair) :
    (pair.accessToken.expiresAt : T) ≤ s.clock + accessTokenLifetime := by
  cases op with
  | issueRotatedPair claims accessJti refreshJti bootstrapClaims =>
    have heq : issueRotatedPair settings s.clock claims accessJti refreshJti bootstrapClaims =
        pair := Option.some.inj h
    rw [← heq]
    exact Int.floor_le _
  | _ => cases h

end SessionState

namespace TokenStores

/-- The state after time has passed. -/
def pass (s : TokenStores T) (tick : Tick T) : TokenStores T :=
  { s with
    stores := s.stores.pass tick
    access_lifetime := fun token hmem => by
      have hle := s.access_lifetime token hmem
      have hnonneg := tick.elapsed_nonneg
      have hclock : (s.stores.pass tick).clock = s.stores.clock + tick.elapsed := rfl
      linarith }

/-- The state after a call that a refresh can also perform. -/
def afterSession (settings : TokenSettings) (tick : Tick T) (op : SessionOp)
    (s : TokenStores T) : TokenStores T where
  stores := (SessionState.effect settings tick op s.stores).2
  accessTokens := (issuedPair ⟨op, (SessionState.effect settings tick op s.stores).1⟩).toList.map
    IssuedTokenPair.accessToken ++ s.accessTokens
  access_lifetime token hmem := by
    rw [SessionState.clock_effect]
    rcases List.mem_append.mp hmem with hnew | hold
    · obtain ⟨pair, hpair, rfl⟩ := List.mem_map.mp hnew
      exact SessionState.issuedPair_lifetime pair (Option.mem_toList.mp hpair)
    · exact s.access_lifetime token hold
  families_nodup := by
    rw [SessionState.sessions_effect,
      families_map (SessionState.sessionRowKept_rowEffect s.stores.clock)]
    exact s.families_nodup
  families_not_blank row hmem := by
    rw [SessionState.sessions_effect] at hmem
    obtain ⟨row', hmem', rfl⟩ := List.mem_map.mp hmem
    rw [(SessionState.sessionRowKept_rowEffect s.stores.clock row').tokenFamily_eq]
    exact s.families_not_blank row' hmem'

/-- `list_active_identity_sessions`. The rows are kept newest first, as it orders them. -/
def listActiveIdentitySessions (s : TokenStores T) (userId : UUID) : List ActiveSession :=
  ((s.stores.sessions.filter fun row => row.userId = uuidText userId ∧ row.revokedAt.isNone
      ).insertionSort fun first second => second.lastSeenAt ≤ first.lastSeenAt).map
    fun row => { id := row.id, tokenFamily := row.tokenFamily }

/-- The row that `revoke_all_identity_sessions` makes of a session. -/
def revokeRow (now : T) (userId : UUID) (reason : String) (row : IdentitySessionRow T) :
    IdentitySessionRow T :=
  if row.userId = uuidText userId ∧ row.revokedAt.isNone then
    { row with revokedAt := some now, revokedReason := String.ofList (reason.toList.take 255) }
  else row

omit [Field T] [LinearOrder T] [IsStrictOrderedRing T] [FloorRing T] in
theorem sessionRowKept_revokeRow (now : T) (userId : UUID) (reason : String)
    (row : IdentitySessionRow T) : SessionRowKept row (revokeRow now userId reason row) := by
  unfold revokeRow
  split
  · exact ⟨rfl, rfl, rfl, fun _ => rfl⟩
  · exact ⟨rfl, rfl, rfl, id⟩

/-- `revoke_all_identity_sessions`, a single update. -/
def revokeAllIdentitySessions (s : TokenStores T) (userId : UUID) (reason : String) :
    TokenStores T where
  stores := { s.stores with
    sessions := s.stores.sessions.map (revokeRow s.stores.clock userId reason) }
  accessTokens := s.accessTokens
  access_lifetime := s.access_lifetime
  families_nodup := by
    rw [families_map (sessionRowKept_revokeRow s.stores.clock userId reason)]
    exact s.families_nodup
  families_not_blank row hmem := by
    obtain ⟨row', hmem', rfl⟩ := List.mem_map.mp hmem
    rw [(sessionRowKept_revokeRow s.stores.clock userId reason row').tokenFamily_eq]
    exact s.families_not_blank row' hmem'

/-- A session that has been opened now. -/
def newSession (s : TokenStores T) (id userId tokenFamily : UUID) : IdentitySessionRow T where
  id := uuidText id
  userId := uuidText userId
  tokenFamily := uuidText tokenFamily
  lastSeenAt := s.stores.clock
  revokedAt := none
  revokedReason := ""

/-- `create_identity_session`, which answers the stored session of a family that has one. -/
def createIdentitySession (s : TokenStores T) (id userId tokenFamily : UUID) :
    String × TokenStores T :=
  match hfind : s.stores.sessions.find? fun row => row.tokenFamily = uuidText tokenFamily with
  | some row => (row.id, s)
  | none =>
    (uuidText id,
      { stores := { s.stores with
          sessions := s.newSession id userId tokenFamily :: s.stores.sessions }
        accessTokens := s.accessTokens
        access_lifetime := s.access_lifetime
        families_nodup := by
          refine List.nodup_cons.mpr ⟨fun hmem => ?_, s.families_nodup⟩
          obtain ⟨row, hrow, hfamily⟩ := List.mem_map.mp hmem
          exact List.find?_eq_none.mp hfind row hrow (decide_eq_true hfamily)
        families_not_blank := fun row hmem => by
          rcases List.mem_cons.mp hmem with rfl | hold
          · exact isBlank_uuidText tokenFamily
          · exact s.families_not_blank row hold })

/-- The state after an access token has been signed. -/
def signAccess (s : TokenStores T) (token : AccessToken)
    (h : (token.expiresAt : T) ≤ s.stores.clock + accessTokenLifetime) : TokenStores T :=
  { s with
    accessTokens := token :: s.accessTokens
    access_lifetime := fun other hmem => by
      rcases List.mem_cons.mp hmem with rfl | hold
      · exact h
      · exact s.access_lifetime other hold }

/-- What a login adds to the claims of a token with a lifetime. -/
def stamp (settings : TokenSettings) (s : TokenStores T) (jti : UUID) (lifetime : ℤ) :
    TokenStamp where
  jti := jti
  env := settings.tokenEnv
  issuedAt := ⌊s.stores.clock⌋
  expiresAt := ⌊s.stores.clock + lifetime⌋

/-- A step-up token expires before an access token of the same instant. -/
theorem stepUp_lifetime {settings : TokenSettings} {signed : List AccessToken} {now : T}
    {jti : UUID} {token stepUp : AccessToken}
    (h : issueStepUp settings signed now jti token = .ok stepUp) :
    (stepUp.expiresAt : T) ≤ now + accessTokenLifetime := by
  obtain ⟨_, _, family, _, rfl⟩ := issueStepUp_ok h
  have hle : ((⌊now + 5 * 60⌋ : ℤ) : T) ≤ now + 5 * 60 := Int.floor_le _
  have hlifetime : (accessTokenLifetime : T) = 15 * 60 := by norm_num [accessTokenLifetime]
  rw [hlifetime]
  exact hle.trans (by linarith)

/-- The effect of a call that a refresh does not perform, at the current instant. -/
def rowCall (settings : TokenSettings) (tick : Tick T) :
    (op : SessionRowOp) → TokenStores T → op.Ret × TokenStores T
  | .listActiveIdentitySessions userId, s => (s.listActiveIdentitySessions userId, s)
  | .revokeAllIdentitySessions userId reason, s =>
    ((s.stores.sessions.filter fun row =>
      row.userId = uuidText userId ∧ row.revokedAt.isNone).length,
      s.revokeAllIdentitySessions userId reason)
  | .createIdentitySession userId tokenFamily, s =>
    s.createIdentitySession tick.uuid userId tokenFamily
  | .createAccessToken claims, s =>
    let token := claims.accessToken (s.stamp settings tick.uuid accessTokenLifetime)
    (token, s.signAccess token (Int.floor_le _))
  | .createRefreshToken claims, s =>
    let token := claims.refreshToken (s.stamp settings tick.uuid refreshTokenLifetime)
    (token, { s with stores := s.stores.sign token (Int.floor_le _) })
  | .issueStepUpToken jti token, s =>
    match h : issueStepUp settings s.accessTokens s.stores.clock jti token with
    | .ok issued => (.ok issued, s.signAccess issued (stepUp_lifetime h))
    | .error error => (.error error, s)

/-- The effect of a call at the current instant. -/
def effect (settings : TokenSettings) (tick : Tick T) :
    (op : TokenOp) → TokenStores T → TokenOp.Ret T op × TokenStores T
  | .inl op, s =>
    ((SessionState.effect settings tick op s.stores).1, s.afterSession settings tick op)
  | .inr op, s => rowCall settings tick op s

/-- Time passes, then the call takes effect. -/
def exec (settings : TokenSettings) : Exec (TokenStores T) (Tick T) (TokenOp.Ret T) :=
  fun tick op s => effect settings tick op (s.pass tick)

end TokenStores

/-- A program of a session handler. -/
abbrev TokenProgram (T α : Type) : Type := Program (TokenOp.Ret T) α

/-- The calls that one execution has performed, newest first. -/
abbrev TokenLog (T : Type) : Type := Log (TokenOp.Ret T)

/-- One call that a refresh can also perform. -/
abbrev askSessions (op : SessionOp) : TokenProgram T (op.Ret T) := perform (Sum.inl op : TokenOp)

/-- One call that a refresh does not perform. -/
abbrev askRows (op : SessionRowOp) : TokenProgram T op.Ret := perform (Sum.inr op : TokenOp)

/-- The session services of a session handler. -/
def tokenServices : SessionServices (TokenProgram T) where
  uuid4 := askSessions .uuid4
  createIdentitySession userId tokenFamily := askRows (.createIdentitySession userId tokenFamily)
  createAccessToken claims := askRows (.createAccessToken claims)
  createRefreshToken claims := askRows (.createRefreshToken claims)
  listActiveIdentitySessions userId := askRows (.listActiveIdentitySessions userId)
  blacklistFamily tokenFamily := askSessions (.blacklistFamily tokenFamily)
  revokeAllIdentitySessions userId reason := askRows (.revokeAllIdentitySessions userId reason)

/-- `SessionPolicy.revoke_family_for_sign_out`. -/
def revokeFamilyForSignOut : RefreshRotationDecision where
  allowed := false
  blacklistPresentedToken := true
  revokeFamily := true
  revokeSession := true
  reason := some .userSignedOut

/-- `RevokeCurrentSessionUseCase.execute`. -/
def revokeCurrentSession (settings : TokenSettings) (token : RefreshToken) :
    SessionProgram T (Except RefreshError Unit) := do
  let valid : Bool ← ask (.decodeRefreshToken token)
  if valid then
    match readClaims settings token with
    | .error error => pure (.error error)
    | .ok claims => do
      applyRefreshDecision revokeFamilyForSignOut claims
      pure (.ok ())
  else pure (.error (.malformedRefreshToken "Invalid refresh token"))

/-- The end of a revocation for one listed session. -/
def revokeListed (session : ActiveSession) (reason : String) : TokenProgram T Unit := do
  askSessions (.blacklistFamily session.tokenFamily)
  askSessions (.revokeIdentitySession (some session.id) session.tokenFamily reason)

/-- `RevokeSessionUseCase.execute`. -/
def revokeSession (userId : UUID) (sessionId reason : String) : TokenProgram T ℕ := do
  let sessions : List ActiveSession ← askRows (.listActiveIdentitySessions userId)
  match sessions.find? fun session => session.id = sessionId with
  | none => pure 0
  | some session => do
    revokeListed session reason
    pure 1

/-- The sessions of `RevokeOtherSessionsUseCase` after the skipped ones. -/
def otherSessions (currentSessionId : String) (sessions : List ActiveSession) :
    List ActiveSession :=
  sessions.filter fun session => session.id ≠ currentSessionId

/-- `RevokeOtherSessionsUseCase.execute`. -/
def revokeOtherSessions (userId : UUID) (currentSessionId reason : String) :
    TokenProgram T ℕ := do
  let sessions : List ActiveSession ← askRows (.listActiveIdentitySessions userId)
  (otherSessions currentSessionId sessions).forM fun session => revokeListed session reason
  pure (otherSessions currentSessionId sessions).length

/-- One execution of a session handler. -/
inductive SessionCommand : Type where
  | login (user : User)
  | refreshSession (token : RefreshToken)
  | issueStepUp (jti : UUID) (token : AccessToken)
  | revokeCurrentSession (token : RefreshToken)
  | revokeSession (userId : UUID) (sessionId reason : String)
  | revokeOtherSessions (userId : UUID) (currentSessionId reason : String)
  | revokeAllSessions (userId : UUID) (reason : String)
deriving DecidableEq

/-- The program of an execution. -/
def SessionCommand.program (settings : TokenSettings) : SessionCommand → TokenProgram T Unit
  | .login user => do
    let _ ← issueAuthenticatedTokens tokenServices user
  | .refreshSession token => do
    let _ ← (Identity.refreshSession settings token).inl
  | .issueStepUp jti token => do
    let _ ← askRows (.issueStepUpToken jti token)
  | .revokeCurrentSession token => do
    let _ ← (Identity.revokeCurrentSession settings token).inl
  | .revokeSession userId sessionId reason => do
    let _ ← Identity.revokeSession userId sessionId reason
  | .revokeOtherSessions userId currentSessionId reason => do
    let _ ← Identity.revokeOtherSessions userId currentSessionId reason
  | .revokeAllSessions userId reason => do
    let _ ← Identity.revokeAllSessions tokenServices userId reason

end Stores

end Linkapro.Identity
