import Linkapro.Identity.SessionStore

/-!
# Identity: refreshing a session

`RefreshSessionUseCase.execute` as a program over the session stores. An
execution runs straight on: it decodes the token, performs four checks, applies
the decision of the policy and, if that is positive, issues a pair. `RefreshCall`
states which of its calls depend on what its log shows.
-/

namespace Linkapro.Identity

open Lib Lib.Program

variable (T : Type) [Field T] [LinearOrder T] [FloorRing T]

/-- A program over the session stores. -/
abbrev SessionProgram (α : Type) : Type := Program (SessionOp.Ret T) α

/-- The calls that one program has performed, newest first. -/
abbrev SessionLog : Type := Log (SessionOp.Ret T)

variable {T}

/-- One call on a store or on the token signer. -/
abbrev ask (op : SessionOp) : SessionProgram T (op.Ret T) := perform op

/-- Run a program under a flag of the decision. -/
def onlyIf (flag : Bool) (program : SessionProgram T Unit) : SessionProgram T Unit :=
  if flag then program else pure ()

/-- Blacklist the presented token for its remaining lifetime. -/
def blacklistPresented (claims : RefreshTokenClaims) : SessionProgram T Unit := do
  let now : T ← ask .utcNow
  ask (.blacklist claims.jti (remainingTtl claims now))

/-- The revocation of the session, which needs a reason. -/
def revokeSessionFor (claims : RefreshTokenClaims) (reason : Option RefreshRejectionReason) :
    SessionProgram T Unit :=
  match reason with
  | none => pure ()
  | some reason => ask (.revokeIdentitySession claims.sessionId claims.family.id reason.value)

/-- `apply_refresh_decision`. -/
def applyRefreshDecision (decision : RefreshRotationDecision) (claims : RefreshTokenClaims) :
    SessionProgram T Unit := do
  onlyIf decision.blacklistPresentedToken (blacklistPresented claims)
  onlyIf decision.revokeFamily (ask (.blacklistFamily claims.family.id))
  onlyIf decision.touchSession (ask (.touchIdentitySession claims.sessionId claims.family.id))
  onlyIf decision.revokeSession (revokeSessionFor claims decision.reason)

/-- The end of `execute` after an allowed decision. -/
def issuePair (claims : RefreshTokenClaims) :
    SessionProgram T (Except RefreshError IssuedTokenPair) := do
  match ← ask (.getBootstrapClaims claims.userId claims.sessionId) with
  | none => pure (.error (.authenticationNotAllowed "User is no longer active"))
  | some bootstrapClaims =>
    let accessJti ← ask .uuid4
    let refreshJti ← ask .uuid4
    let pair ← ask (.issueRotatedPair claims accessJti refreshJti bootstrapClaims)
    pure (.ok pair)

/-- `execute` after the decision. -/
def finishRefresh (decision : RefreshRotationDecision) (claims : RefreshTokenClaims) :
    SessionProgram T (Except RefreshError IssuedTokenPair) := do
  applyRefreshDecision decision claims
  if decision.allowed then issuePair claims else pure (.error (refreshRejection decision))

/-- `execute` after the token has been read. -/
def rotate (claims : RefreshTokenClaims) :
    SessionProgram T (Except RefreshError IssuedTokenPair) := do
  let tokenAlreadyUsed : Bool ← ask (.isBlacklisted claims.jti)
  let familyRevoked : Bool ← ask (.isFamilyBlacklisted claims.family.id)
  let userSessionsRevoked : Bool ← ask (.isTokenRevokedForUser claims.userId claims.issuedAt)
  let versionMatches : Bool ←
    ask (.tokenVersionMatchesActiveUser claims.userId claims.authTokenVersion)
  finishRefresh (evaluateRefreshRotation claims tokenAlreadyUsed familyRevoked
    userSessionsRevoked versionMatches) claims

/-- `RefreshSessionUseCase.execute`. -/
def refreshSession (settings : TokenSettings) (token : RefreshToken) :
    SessionProgram T (Except RefreshError IssuedTokenPair) := do
  let valid : Bool ← ask (.decodeRefreshToken token)
  if valid then
    match readClaims settings token with
    | .error error => pure (.error error)
    | .ok claims => rotate claims
  else pure (.error (.malformedRefreshToken "Invalid refresh token"))

/-- A performed call on the session stores. -/
abbrev SessionCall (T : Type) : Type := Call (SessionOp.Ret T)

/-- The blacklist check that a call is, with its answer. -/
def blacklistCheck : SessionCall T → Option (String × Bool)
  | ⟨.isBlacklisted jti, used⟩ => some (jti, used)
  | _ => none

/-- The family check that a call is, with its answer. -/
def familyCheck : SessionCall T → Option (String × Bool)
  | ⟨.isFamilyBlacklisted familyId, revoked⟩ => some (familyId, revoked)
  | _ => none

/-- The token that a call has found to be signed and unexpired. -/
def decodedToken : SessionCall T → Option RefreshToken
  | ⟨.decodeRefreshToken token, true⟩ => some token
  | _ => none

/-- The token that an operation looks up in the blacklist. -/
def checkedToken : SessionOp → Option String
  | .isBlacklisted jti => some jti
  | _ => none

/-- The family that an operation looks up in the blacklist. -/
def checkedFamily : SessionOp → Option String
  | .isFamilyBlacklisted familyId => some familyId
  | _ => none

/-- The token that an operation blacklists. -/
def blacklistWrite : SessionOp → Option String
  | .blacklist jti _ => some jti
  | _ => none

/-- The family that an operation blacklists. -/
def familyWrite : SessionOp → Option String
  | .blacklistFamily familyId => some familyId
  | _ => none

/-- The claims that an operation issues a rotated pair for. -/
def rotation : SessionOp → Option RefreshTokenClaims
  | .issueRotatedPair claims _ _ _ => some claims
  | _ => none

/-- The log of an execution after its four checks. -/
def checked (token : RefreshToken) (claims : RefreshTokenClaims) (tokenAlreadyUsed familyRevoked
    userSessionsRevoked versionMatches : Bool) : SessionLog T :=
  [⟨.tokenVersionMatchesActiveUser claims.userId claims.authTokenVersion, versionMatches⟩,
    ⟨.isTokenRevokedForUser claims.userId claims.issuedAt, userSessionsRevoked⟩,
    ⟨.isFamilyBlacklisted claims.family.id, familyRevoked⟩,
    ⟨.isBlacklisted claims.jti, tokenAlreadyUsed⟩, ⟨.decodeRefreshToken token, true⟩]

/-- What the log of an execution shows when it performs a call that matters to reuse. -/
def RefreshCall (settings : TokenSettings) (token : RefreshToken) (log : SessionLog T) :
    SessionOp → Prop
  | .isBlacklisted jti => ∃ claims, readClaims settings token = .ok claims ∧ jti = claims.jti ∧
      log = [⟨.decodeRefreshToken token, true⟩]
  | .isFamilyBlacklisted familyId => ∃ claims tokenAlreadyUsed,
      readClaims settings token = .ok claims ∧ familyId = claims.family.id ∧
      log = [⟨.isBlacklisted claims.jti, tokenAlreadyUsed⟩, ⟨.decodeRefreshToken token, true⟩]
  | .blacklist jti ttl => ∃ claims familyRevoked userSessionsRevoked versionMatches now,
      readClaims settings token = .ok claims ∧ jti = claims.jti ∧
      ttl = remainingTtl claims (now : T) ∧
      log = ⟨.utcNow, now⟩ ::
        checked token claims false familyRevoked userSessionsRevoked versionMatches
  | .blacklistFamily familyId => ∃ claims, readClaims settings token = .ok claims ∧
      familyId = claims.family.id
  | .issueRotatedPair claims accessJti refreshJti bootstrapClaims => ∃ ttl now,
      readClaims settings token = .ok claims ∧
      log = [⟨.uuid4, refreshJti⟩, ⟨.uuid4, accessJti⟩,
          ⟨.getBootstrapClaims claims.userId claims.sessionId, some bootstrapClaims⟩,
          ⟨.touchIdentitySession claims.sessionId claims.family.id, ()⟩,
          ⟨.blacklist claims.jti ttl, ()⟩, ⟨.utcNow, now⟩] ++
        checked token claims false false false true
  | _ => True

/-- The contract of an execution. -/
def refreshContract (settings : TokenSettings) (token : RefreshToken) :
    Contract (SessionOp.Ret T) where
  allowed := RefreshCall settings token
  possible _ := True

/-- An execution that finds its token used ends with the family blacklisted. -/
def ClosesUsedFamily (settings : TokenSettings) (token : RefreshToken) (log : SessionLog T) :
    Prop :=
  ∀ claims, readClaims settings token = .ok claims → (claims.jti, true) ∈ log.filterMap blacklistCheck →
    claims.family.id ∈ log.filterMap fun call => familyWrite call.1

variable {settings : TokenSettings} {token : RefreshToken} {claims : RefreshTokenClaims}

/-- A rejection that revokes the family blacklists it and revokes the session. -/
theorem revokeFamily_follows (hread : readClaims settings token = .ok claims) {log : SessionLog T}
    (reason : RefreshRejectionReason) (error : Option (String → RefreshError)) :
    (finishRefresh
      { allowed := false
        revokeFamily := true
        revokeSession := true
        reason := some reason
        error } claims).Follows (refreshContract settings token) log
      fun log' _ => log' =
        [⟨.revokeIdentitySession claims.sessionId claims.family.id reason.value, ()⟩,
          ⟨.blacklistFamily claims.family.id, ()⟩] ++ log :=
  And.intro ⟨claims, hread, rfl⟩ fun _ _ => And.intro trivial fun _ _ => rfl

/-- A rejection for a revoked family blacklists the presented token. -/
theorem revokeToken_follows (hread : readClaims settings token = .ok claims)
    (familyRevoked userSessionsRevoked versionMatches : Bool) (reason : RefreshRejectionReason)
    (error : Option (String → RefreshError)) :
    (finishRefresh (T := T)
      { allowed := false
        blacklistPresentedToken := true
        revokeSession := true
        reason := some reason
        error } claims).Follows (refreshContract settings token)
      (checked token claims false familyRevoked userSessionsRevoked versionMatches)
      fun log' _ => (claims.jti, true) ∉ log'.filterMap blacklistCheck := by
  refine And.intro trivial fun (now : T) _ => ?_
  refine And.intro ⟨claims, _, _, _, now, hread, rfl, rfl, rfl⟩ fun _ _ => ?_
  refine And.intro trivial fun _ _ => ?_
  change (claims.jti, true) ∉ [(claims.jti, false)]
  simp

/-- An allowed execution blacklists the presented token and issues a pair. -/
theorem allowed_follows (hread : readClaims settings token = .ok claims) :
    (finishRefresh (T := T)
      { allowed := true
        blacklistPresentedToken := true
        touchSession := true } claims).Follows (refreshContract settings token)
      (checked token claims false false false true)
      fun log' _ => (claims.jti, true) ∉ log'.filterMap blacklistCheck := by
  refine And.intro trivial fun (now : T) _ => ?_
  refine And.intro ⟨claims, _, _, _, now, hread, rfl, rfl, rfl⟩ fun _ _ => ?_
  refine And.intro trivial fun _ _ => And.intro trivial fun bootstrapClaims _ => ?_
  cases bootstrapClaims with
  | none =>
    change (claims.jti, true) ∉ [(claims.jti, false)]
    simp
  | some bootstrapClaims =>
    refine And.intro trivial fun (accessJti : UUID) _ => ?_
    refine And.intro trivial fun (refreshJti : UUID) _ => ?_
    refine And.intro ⟨_, now, hread, rfl⟩ fun _ _ => ?_
    change (claims.jti, true) ∉ [(claims.jti, false)]
    simp

/-- The end of an execution performs its calls as the decision says. -/
theorem finishRefresh_follows (hread : readClaims settings token = .ok claims)
    (tokenAlreadyUsed familyRevoked userSessionsRevoked versionMatches : Bool) :
    (finishRefresh (T := T) (evaluateRefreshRotation claims tokenAlreadyUsed familyRevoked
        userSessionsRevoked versionMatches) claims).Follows (refreshContract settings token)
      (checked token claims tokenAlreadyUsed familyRevoked userSessionsRevoked versionMatches)
      fun log _ => ClosesUsedFamily settings token log := by
  have hunused {log : SessionLog T} (h : (claims.jti, true) ∉ log.filterMap blacklistCheck) :
      ClosesUsedFamily settings token log := by
    intro claims' hread' hmem
    rw [hread] at hread'
    cases hread'
    exact absurd hmem h
  have hclosed {log : SessionLog T} (h : claims.family.id ∈ log.filterMap fun call => familyWrite call.1) :
      ClosesUsedFamily settings token log := by
    intro claims' hread' _
    rw [hread] at hread'
    cases hread'
    exact h
  have hrevoke {reason : RefreshRejectionReason} {log : SessionLog T} :
      ClosesUsedFamily settings token
        ([⟨.revokeIdentitySession claims.sessionId claims.family.id reason.value, ()⟩,
          ⟨.blacklistFamily claims.family.id, ()⟩] ++ log) :=
    hclosed List.mem_cons_self
  unfold evaluateRefreshRotation
  cases tokenAlreadyUsed with
  | true => exact (revokeFamily_follows hread _ _).mono fun log _ h => h ▸ hrevoke
  | false =>
    rw [if_neg Bool.false_ne_true]
    by_cases hfamily : (familyRevoked || claims.family.revoked) = true
    · rw [if_pos hfamily]
      exact (revokeToken_follows hread _ _ _ _ _).mono fun _ _ h => hunused h
    · rw [if_neg hfamily]
      have hrevoked : familyRevoked = false := by
        cases familyRevoked with
        | false => rfl
        | true => exact absurd rfl hfamily
      cases userSessionsRevoked with
      | true => exact (revokeFamily_follows hread _ _).mono fun log _ h => h ▸ hrevoke
      | false =>
        cases versionMatches with
        | false => exact (revokeFamily_follows hread _ _).mono fun log _ h => h ▸ hrevoke
        | true =>
          rw [hrevoked]
          exact (allowed_follows hread).mono fun _ _ h => hunused h

/-- Every execution follows its contract and closes the family of a used token. -/
theorem refreshSession_follows (settings : TokenSettings) (token : RefreshToken) :
    (refreshSession (T := T) settings token).Follows (refreshContract settings token) []
      fun log _ => ClosesUsedFamily settings token log := by
  unfold refreshSession
  refine follows_perform_bind_iff.mpr ⟨trivial, fun (valid : Bool) _ => ?_⟩
  cases valid with
  | false =>
    intro claims _ hmem
    cases hmem
  | true =>
    cases hread : readClaims settings token with
    | error error =>
      intro claims _ hmem
      cases hmem
    | ok claims =>
      refine follows_perform_bind_iff.mpr ⟨⟨claims, hread, rfl, rfl⟩, fun (used : Bool) _ => ?_⟩
      refine follows_perform_bind_iff.mpr
        ⟨⟨claims, used, hread, rfl, rfl⟩, fun (familyRevoked : Bool) _ => ?_⟩
      refine follows_perform_bind_iff.mpr ⟨trivial, fun (sessionsRevoked : Bool) _ => ?_⟩
      refine follows_perform_bind_iff.mpr ⟨trivial, fun (versionMatches : Bool) _ => ?_⟩
      exact finishRefresh_follows hread used familyRevoked sessionsRevoked versionMatches

end Linkapro.Identity
