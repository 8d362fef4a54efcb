import Linkapro.Identity.FamilyClosure

/-!
# Identity: what precedes a revocation

The calls that an execution of a session handler performs before it revokes a session
row, before it signs tokens and before it issues a rotated pair. A row is revoked by
itself only after its family has been closed, and a pair is issued only after the family
has been found open.
-/

namespace Linkapro.Identity

open Lib Lib.Program

variable {T : Type}

/-- The sessions that an execution may revoke. -/
def SessionCommand.Covers (command : SessionCommand) (row : IdentitySessionRow T) : Prop :=
  match command with
  | .revokeSession userId sessionId _ => row.userId = uuidText userId ∧ row.id = sessionId
  | .revokeOtherSessions userId currentSessionId _ =>
    row.userId = uuidText userId ∧ row.id ≠ currentSessionId
  | .revokeAllSessions userId _ => row.userId = uuidText userId
  | .refreshSession token | .revokeCurrentSession token => token.family = some row.tokenFamily
  | .login _ | .issueStepUp _ _ => False

/-- The execution presents a token of the family, or it has listed the session of the
family for its user. -/
def MayRevoke (command : SessionCommand) (log : TokenLog T) (tokenFamily : String) : Prop :=
  (∀ row : IdentitySessionRow T, row.tokenFamily = tokenFamily → command.Covers row) ∨
    ∃ call ∈ log, ∃ userId, call.1 = .inr (.listActiveIdentitySessions userId) ∧
      ∃ session ∈ listedSessions call, session.tokenFamily = tokenFamily ∧
        ∀ row : IdentitySessionRow T, row.userId = uuidText userId → row.id = session.id →
          command.Covers row

/-- The family has been blacklisted by the execution, or it has found it blacklisted. -/
def ClosedInLog (log : TokenLog T) (tokenFamily : String) : Prop :=
  ⟨.inl (.blacklistFamily tokenFamily), ()⟩ ∈ log ∨
    ⟨.inl (.isFamilyBlacklisted tokenFamily), true⟩ ∈ log

/-- What the log of an execution shows when it performs a call that matters to revocations. -/
def RevocationCall (settings : TokenSettings) (command : SessionCommand) (log : TokenLog T) :
    TokenOp → Prop
  | .inl (.issueRotatedPair claims _ _ _) => ∃ token, command = .refreshSession token ∧
      readClaims settings token = .ok claims ∧
      ⟨.inl (.decodeRefreshToken token), true⟩ ∈ log ∧
      ⟨.inl (.isFamilyBlacklisted claims.family.id), false⟩ ∈ log ∧
      ⟨.inl (.isFamilyBlacklisted claims.family.id), true⟩ ∉ log
  | .inl (.revokeIdentitySession _ tokenFamily _) =>
    isBlank tokenFamily = false ∧ ClosedInLog log tokenFamily ∧ MayRevoke command log tokenFamily
  | .inr (.revokeAllIdentitySessions userId _) =>
    ∃ reason, command = .revokeAllSessions userId reason
  | .inr (.createAccessToken claims) | .inr (.createRefreshToken claims) =>
    ∃ userId tokenFamily,
      ⟨.inr (.createIdentitySession userId tokenFamily), claims.sessionId⟩ ∈ log
  | _ => True

/-- The contract of an execution. -/
def revocationContract (settings : TokenSettings) (command : SessionCommand) :
    Contract (TokenOp.Ret T) where
  allowed := RevocationCall settings command
  possible := (namedFamilies T).possible

/-- A row is revoked after its family has been closed. A pair is issued only by programs
that may. -/
def closesSession (token : RefreshToken) (issues : Prop) : Contract (SessionOp.Ret T) where
  allowed log op := (rotation op ≠ none → issues) ∧
    ∀ sessionId tokenFamily reason, op = .revokeIdentitySession sessionId tokenFamily reason →
      isBlank tokenFamily = false ∧ token.family = some tokenFamily ∧
        (⟨.blacklistFamily tokenFamily, ()⟩ ∈ log ∨
          ⟨.isFamilyBlacklisted tokenFamily, true⟩ ∈ log)
  possible _ := True

section Sessions

variable {token : RefreshToken} {claims : RefreshTokenClaims} {issues : Prop} {log : SessionLog T}

theorem closes_of_ne {op : SessionOp} (hrotation : rotation op = none)
    (h : ∀ sessionId tokenFamily reason,
      op ≠ .revokeIdentitySession sessionId tokenFamily reason) :
    (closesSession token issues).allowed log op :=
  ⟨fun hne => absurd hrotation hne,
    fun sessionId tokenFamily reason heq => absurd heq (h sessionId tokenFamily reason)⟩

/-- A flagged program keeps a condition on the log that the program keeps. -/
theorem onlyIf_follows {contract : Contract (SessionOp.Ret T)} {flag : Bool}
    {program : SessionProgram T Unit} {P : SessionLog T → Prop} (hlog : P log)
    (h : flag = true → program.Follows contract log fun log' _ => P log') :
    (onlyIf flag program).Follows contract log fun log' _ => P log' := by
  cases flag with
  | false => exact hlog
  | true => exact h rfl

variable [Field T] [LinearOrder T] [FloorRing T]

/-- A decision that revokes the session also revokes the family, or follows a check that
found it closed. -/
theorem applyRefreshDecision_closes (hfamily : token.family = some claims.family.id)
    {decision : RefreshRotationDecision}
    (h : decision.revokeSession = true → decision.revokeFamily = true ∨
      ⟨.isFamilyBlacklisted claims.family.id, true⟩ ∈ log) :
    (applyRefreshDecision decision claims).Follows (closesSession token issues) log
      fun _ _ => True := by
  let closed : SessionLog T → Prop := fun log' => decision.revokeSession = true →
    ⟨.blacklistFamily claims.family.id, ()⟩ ∈ log' ∨
      ⟨.isFamilyBlacklisted claims.family.id, true⟩ ∈ log'
  let found : SessionLog T → Prop := fun log' => decision.revokeSession = true →
    decision.revokeFamily = true ∨ ⟨.isFamilyBlacklisted claims.family.id, true⟩ ∈ log'
  have hpresented : (onlyIf decision.blacklistPresentedToken (blacklistPresented claims)).Follows
      (closesSession token issues) log fun log' _ => found log' := by
    refine onlyIf_follows (P := found) h fun _ => ?_
    refine follows_perform_bind_iff.mpr ⟨closes_of_ne rfl (by simp), fun (now : T) _ => ?_⟩
    refine ⟨closes_of_ne rfl (by simp), fun _ _ => ?_⟩
    intro hrevoke
    exact (h hrevoke).imp_right fun hmem => List.mem_cons_of_mem _ (List.mem_cons_of_mem _ hmem)
  refine follows_bind_iff.mpr (hpresented.mono fun log₁ _ h₁ => ?_)
  have hblacklist : (onlyIf decision.revokeFamily
      (ask (.blacklistFamily claims.family.id))).Follows (closesSession token issues) log₁
        fun log' _ => closed log' := by
    cases hflag : decision.revokeFamily with
    | false =>
      intro hrevoke
      refine Or.inr ((h₁ hrevoke).resolve_left ?_)
      simp [hflag]
    | true =>
      exact ⟨closes_of_ne rfl (by simp), fun _ _ _ => Or.inl List.mem_cons_self⟩
  refine follows_bind_iff.mpr (hblacklist.mono fun log₂ _ h₂ => ?_)
  refine follows_bind_iff.mpr
    ((onlyIf_follows (P := closed) h₂ fun _ => ?_).mono fun log₃ _ h₃ => ?_)
  · refine ⟨closes_of_ne rfl (by simp), fun _ _ hrevoke => ?_⟩
    exact (h₂ hrevoke).imp (List.mem_cons_of_mem _) (List.mem_cons_of_mem _)
  · refine onlyIf_follows (P := fun _ => True) trivial fun hflag => ?_
    unfold revokeSessionFor
    cases decision.reason with
    | none => trivial
    | some reason =>
      refine ⟨⟨fun hne => absurd rfl hne, ?_⟩, fun _ _ => trivial⟩
      intro sessionId tokenFamily reason' heq
      cases heq
      exact ⟨claims.family.not_blank, hfamily, h₃ hflag⟩

omit [Field T] [FloorRing T] [LinearOrder T] in
/-- Every call of the end of an allowed execution may be performed. -/
theorem issuePair_closes : (issuePair claims).Follows (closesSession token True) log
    fun _ _ => True := by
  refine ⟨closes_of_ne rfl (by simp), fun (bootstrapClaims : Option BootstrapClaims) _ => ?_⟩
  cases bootstrapClaims with
  | none => trivial
  | some bootstrapClaims =>
    refine ⟨closes_of_ne rfl (by simp), fun (accessJti : UUID) _ => ?_⟩
    refine ⟨closes_of_ne rfl (by simp), fun (refreshJti : UUID) _ => ?_⟩
    refine ⟨⟨fun _ => trivial, fun _ _ _ heq => (by cases heq)⟩, fun _ _ => trivial⟩

/-- A decision to revoke the session alone is one for a closed family. -/
theorem evaluate_closes (hfamily : claims.family.revoked = false)
    (tokenAlreadyUsed familyRevoked userSessionsRevoked versionMatches : Bool)
    (h : (evaluateRefreshRotation claims tokenAlreadyUsed familyRevoked userSessionsRevoked
      versionMatches).revokeSession = true) :
    (evaluateRefreshRotation claims tokenAlreadyUsed familyRevoked userSessionsRevoked
      versionMatches).revokeFamily = true ∨ familyRevoked = true := by
  unfold evaluateRefreshRotation at h ⊢
  rw [hfamily, Bool.or_false] at h ⊢
  cases tokenAlreadyUsed with
  | true => exact Or.inl rfl
  | false =>
    cases familyRevoked with
    | true => exact Or.inr rfl
    | false =>
      cases userSessionsRevoked with
      | true => exact Or.inl rfl
      | false =>
        cases versionMatches with
        | true => cases h
        | false => exact Or.inl rfl

theorem refreshSession_closes (settings : TokenSettings) (token : RefreshToken) :
    (refreshSession (T := T) settings token).Follows (closesSession token True) []
      fun _ _ => True := by
  refine ⟨closes_of_ne rfl (by simp), fun (valid : Bool) _ => ?_⟩
  cases valid with
  | false => trivial
  | true =>
    cases hread : readClaims settings token with
    | error error => trivial
    | ok claims =>
      obtain ⟨_, hfamily, _, _, _, hrevoked⟩ := readClaims_ok hread
      refine follows_perform_bind_iff.mpr
        ⟨closes_of_ne rfl (by simp), fun (used : Bool) _ => ?_⟩
      refine follows_perform_bind_iff.mpr
        ⟨closes_of_ne rfl (by simp), fun (familyRevoked : Bool) _ => ?_⟩
      refine follows_perform_bind_iff.mpr
        ⟨closes_of_ne rfl (by simp), fun (sessionsRevoked : Bool) _ => ?_⟩
      refine follows_perform_bind_iff.mpr
        ⟨closes_of_ne rfl (by simp), fun (versionMatches : Bool) _ => ?_⟩
      refine follows_bind_iff.mpr
        ((applyRefreshDecision_closes hfamily fun hrevoke => ?_).mono fun log' _ _ => ?_)
      · refine (evaluate_closes hrevoked used familyRevoked sessionsRevoked versionMatches
          hrevoke).imp_right fun hclosed => ?_
        rw [hclosed]
        simp
      · split
        · exact issuePair_closes
        · trivial

theorem revokeCurrentSession_closes (settings : TokenSettings) (token : RefreshToken) :
    (revokeCurrentSession (T := T) settings token).Follows (closesSession token False) []
      fun _ _ => True := by
  refine ⟨closes_of_ne rfl (by simp), fun (valid : Bool) _ => ?_⟩
  cases valid with
  | false => trivial
  | true =>
    cases hread : readClaims settings token with
    | error error => trivial
    | ok claims =>
      change Follows _ _ (applyRefreshDecision (T := T) revokeFamilyForSignOut claims >>=
        fun _ => pure (Except.ok ())) _
      exact follows_bind_iff.mpr (applyRefreshDecision_closes (readClaims_ok hread).2.1
        fun _ => Or.inl rfl)

end Sessions

section Commands

variable [Field T] [LinearOrder T] [FloorRing T] {settings : TokenSettings}
  {command : SessionCommand} {log : TokenLog T}

omit [Field T] [LinearOrder T] [FloorRing T] in
/-- A revocation of a listed session closes its family first. -/
theorem revokeListed_follows {call : Call (TokenOp.Ret T)} {userId : UUID}
    (hcall : call.1 = .inr (.listActiveIdentitySessions userId)) (hmem : call ∈ log)
    {session : ActiveSession} (hsession : session ∈ listedSessions call)
    (hname : isBlank session.tokenFamily = false)
    (hcovers : ∀ row : IdentitySessionRow T, row.userId = uuidText userId → row.id = session.id →
      command.Covers row) (reason : String) :
    (revokeListed session reason).Follows (revocationContract settings command) log
      fun log' _ => call ∈ log' := by
  refine ⟨trivial, fun _ _ => ⟨⟨hname, Or.inl List.mem_cons_self, Or.inr ?_⟩, fun _ _ => ?_⟩⟩
  · exact ⟨call, List.mem_cons_of_mem _ hmem, userId, hcall, session, hsession, rfl, hcovers⟩
  · exact List.mem_cons_of_mem _ (List.mem_cons_of_mem _ hmem)

omit [Field T] [LinearOrder T] [FloorRing T] in
theorem revokeSession_follows (userId : UUID) (sessionId reason : String) :
    (Identity.revokeSession (T := T) userId sessionId reason).Follows
      (revocationContract settings (.revokeSession userId sessionId reason)) [] fun _ _ => True := by
  refine follows_perform_bind_iff.mpr ⟨trivial, fun (sessions : List ActiveSession) hlisted => ?_⟩
  cases hfind : sessions.find? fun session => session.id = sessionId with
  | none => trivial
  | some session =>
    have hmem : session ∈ sessions := List.mem_of_find?_eq_some hfind
    have hid : session.id = sessionId := by simpa using List.find?_some hfind
    refine follows_bind_iff.mpr ((revokeListed_follows rfl List.mem_cons_self hmem
      (hlisted session hmem) (fun row huser hrow => ?_) reason).mono fun _ _ _ => trivial)
    exact ⟨huser, hrow.trans hid⟩

omit [Field T] [LinearOrder T] [FloorRing T] in
theorem revokeOtherSessions_follows (userId : UUID) (currentSessionId reason : String) :
    (Identity.revokeOtherSessions (T := T) userId currentSessionId reason).Follows
      (revocationContract settings (.revokeOtherSessions userId currentSessionId reason)) []
        fun _ _ => True := by
  refine follows_perform_bind_iff.mpr ⟨trivial, fun (sessions : List ActiveSession) hlisted => ?_⟩
  refine follows_bind_iff.mpr ((follows_forM (P := fun log' =>
    ⟨.inr (.listActiveIdentitySessions userId), sessions⟩ ∈ log')
      (otherSessions currentSessionId sessions)
    (fun session hmem log' hlog => ?_) List.mem_cons_self).mono fun _ _ _ => trivial)
  obtain ⟨hlist, hother⟩ := List.mem_filter.mp hmem
  refine revokeListed_follows rfl hlog hlist (hlisted session hlist) (fun row huser hrow => ?_) reason
  exact ⟨huser, hrow.trans_ne (by simpa using hother)⟩

omit [Field T] [LinearOrder T] [FloorRing T] in
theorem revokeAllSessions_follows (userId : UUID) (reason : String) :
    (Identity.revokeAllSessions (tokenServices (T := T)) userId reason).Follows
      (revocationContract settings (.revokeAllSessions userId reason)) [] fun _ _ => True := by
  refine follows_perform_bind_iff.mpr ⟨trivial, fun (sessions : List ActiveSession) _ => ?_⟩
  refine follows_bind_iff.mpr ((follows_forM (P := fun _ => True) sessions
    (fun session _ log' _ => ?_) trivial).mono fun log' _ _ => ?_)
  · exact ⟨trivial, fun _ _ => trivial⟩
  · exact ⟨⟨reason, rfl⟩, fun _ _ => trivial⟩

/-- An execution of a session handler closes what it revokes. -/
theorem SessionCommand.follows (settings : TokenSettings) (command : SessionCommand) :
    (command.program (T := T) settings).Follows (revocationContract settings command) []
      fun _ _ => True := by
  cases command with
  | login user =>
    refine ⟨trivial, fun (family : UUID) _ => ⟨trivial, fun (sessionId : String) _ => ?_⟩⟩
    refine ⟨⟨user.id, family, List.mem_cons_self⟩, fun (access : AccessToken) _ => ?_⟩
    exact ⟨⟨user.id, family, List.mem_cons_of_mem _ List.mem_cons_self⟩,
      fun (refresh : RefreshToken) _ => trivial⟩
  | refreshSession token =>
    have hboth := (refreshSession_follows (T := T) settings token).both
      (refreshSession_closes settings token)
    refine follows_bind_iff.mpr ((Follows.inl (l := []) hboth (fun log op hop => ?_)
      fun _ _ _ => ⟨trivial, trivial⟩).mono fun _ _ _ => trivial)
    obtain ⟨hcall, _, hrevoke⟩ := hop
    cases op with
    | issueRotatedPair claims accessJti refreshJti bootstrapClaims =>
      obtain ⟨ttl, now, hread, hlog⟩ := hcall
      refine ⟨token, rfl, hread, mem_leftLog_iff.mp ?_, mem_leftLog_iff.mp ?_, fun hmem => ?_⟩
      · rw [hlog]
        simp [checked]
      · rw [hlog]
        simp [checked]
      · have hfound : (claims.family.id, true) ∈ (leftLog log).filterMap familyCheck :=
          List.mem_filterMap.mpr ⟨_, mem_leftLog_iff.mpr hmem, rfl⟩
        rw [hlog] at hfound
        exact Bool.false_ne_true (congrArg Prod.snd (List.mem_singleton.mp hfound)).symm
    | revokeIdentitySession sessionId tokenFamily reason =>
      obtain ⟨hname, hfamily, hclosed⟩ := hrevoke sessionId tokenFamily reason rfl
      refine ⟨hname, hclosed.imp mem_leftLog_iff.mp mem_leftLog_iff.mp, Or.inl ?_⟩
      rintro row rfl
      exact hfamily
    | _ => trivial
  | issueStepUp jti token => exact ⟨trivial, fun _ _ => trivial⟩
  | revokeCurrentSession token =>
    refine follows_bind_iff.mpr ((Follows.inl (revokeCurrentSession_closes settings token)
      (fun log op hop => ?_) fun _ _ _ => trivial).mono fun _ _ _ => trivial)
    obtain ⟨hissues, hrevoke⟩ := hop
    cases op with
    | issueRotatedPair claims accessJti refreshJti bootstrapClaims =>
      exact absurd (hissues (by simp [rotation])) id
    | revokeIdentitySession sessionId tokenFamily reason =>
      obtain ⟨hname, hfamily, hclosed⟩ := hrevoke sessionId tokenFamily reason rfl
      refine ⟨hname, hclosed.imp mem_leftLog_iff.mp mem_leftLog_iff.mp, Or.inl ?_⟩
      rintro row rfl
      exact hfamily
    | _ => trivial
  | revokeSession userId sessionId reason =>
    exact follows_bind_iff.mpr (revokeSession_follows userId sessionId reason)
  | revokeOtherSessions userId currentSessionId reason =>
    exact follows_bind_iff.mpr (revokeOtherSessions_follows userId currentSessionId reason)
  | revokeAllSessions userId reason =>
    exact follows_bind_iff.mpr (revokeAllSessions_follows userId reason)

end Commands

end Linkapro.Identity
