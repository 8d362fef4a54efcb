import Linkapro.Identity.RevocationCalls

/-!
# Identity: what session calls leave behind

The rows, the family entries and the signed tokens belong together: the family of a
revoked row has a blacklist entry, and every token names a session. The lemmas say what
one call makes of each of them, and which answers stay true whatever is called later.
-/

namespace Linkapro.Identity

open Lib Lib.Program

variable {T : Type} [Field T] [LinearOrder T] [IsStrictOrderedRing T] [FloorRing T]

/-- A token names a session. -/
def namesSession (sessionId : Option String) : Prop := (nonEmpty sessionId).isSome = true

/-- How rows, family entries and signed tokens belong together. -/
structure Consistent (s : TokenStores T) : Prop where
  /-- The family of a revoked session has an entry. -/
  closed : ∀ row ∈ s.stores.sessions, row.revokedAt.isSome = true →
    (s.stores.families row.tokenFamily).isSome = true
  row_named : ∀ row ∈ s.stores.sessions, row.id ≠ ""
  refresh_named : ∀ token ∈ s.stores.signed, namesSession token.sessionId
  access_named : ∀ token ∈ s.accessTokens, namesSession token.sessionId

/-- What a performed call has left in the stores for good. -/
def Recorded (s : TokenStores T) : Call (TokenOp.Ret T) → Prop
  | ⟨.inl (.blacklistFamily tokenFamily), _⟩ => (s.stores.families tokenFamily).isSome = true
  | ⟨.inl (.isFamilyBlacklisted tokenFamily), closed⟩ =>
    closed = true → (s.stores.families tokenFamily).isSome = true
  | ⟨.inl (.decodeRefreshToken token), valid⟩ => valid = true → token ∈ s.stores.signed
  | ⟨.inr (.createIdentitySession _ _), sessionId⟩ => sessionId ≠ ""
  | ⟨.inr (.listActiveIdentitySessions userId), sessions⟩ =>
    ∀ session ∈ listedSessions (T := T) ⟨.inr (.listActiveIdentitySessions userId), sessions⟩,
      ∃ row ∈ s.stores.sessions, row.id = session.id ∧ row.userId = uuidText userId ∧
        row.tokenFamily = session.tokenFamily
  | _ => True

/-- The user whose rows an operation updates at once. -/
def revokedUser : TokenOp → Option String
  | .inr (.revokeAllIdentitySessions userId _) => some (uuidText userId)
  | _ => none

/-- The row is one that the operation revokes. -/
def Revokes (op : TokenOp) (row : IdentitySessionRow T) : Prop :=
  match op with
  | .inl (.revokeIdentitySession _ tokenFamily _) => row.tokenFamily = tokenFamily
  | .inr (.revokeAllIdentitySessions userId _) => row.userId = uuidText userId
  | _ => False

section Effects

variable {settings : TokenSettings} {tick : Tick T} {op : TokenOp} {s : TokenStores T}

omit [Field T] [LinearOrder T] [IsStrictOrderedRing T] [FloorRing T] in
theorem ne_of_not_blank {text : String} (h : isBlank text = false) : text ≠ "" := by
  rintro rfl
  cases h

/-- No call takes a family entry away. -/
theorem families_exec {tokenFamily : String}
    (h : (s.stores.families tokenFamily).isSome = true) :
    ((TokenStores.exec settings tick op s).2.stores.families tokenFamily).isSome = true := by
  cases op with
  | inl op =>
    cases op with
    | blacklistFamily tokenFamily' =>
      by_cases heq : tokenFamily = tokenFamily'
      · subst heq
        simp [TokenStores.exec, TokenStores.effect, TokenStores.afterSession, SessionState.effect,
          ExpiringMap.set]
      · simpa [TokenStores.exec, TokenStores.effect, TokenStores.afterSession, SessionState.effect,
          TokenStores.pass, SessionState.pass, ExpiringMap.set, heq] using h
    | _ =>
      change ((SessionState.exec settings tick _ s.stores).2.families tokenFamily).isSome = true
      rwa [exec_families rfl]
  | inr op =>
    change ((TokenStores.rowCall settings tick op (s.pass tick)).2.stores.families
      tokenFamily).isSome = true
    rwa [(rowCall_stores settings tick op (s.pass tick)).2]

/-- Every stored row stays, as long as it is not revoked it may become so. -/
theorem kept_exec {row : IdentitySessionRow T} (h : row ∈ s.stores.sessions) :
    ∃ row' ∈ (TokenStores.exec settings tick op s).2.stores.sessions, SessionRowKept row row' := by
  cases op with
  | inl op =>
    refine ⟨SessionState.rowEffect op (s.stores.pass tick).clock row, ?_,
      SessionState.sessionRowKept_rowEffect _ row⟩
    change _ ∈ (SessionState.effect settings tick op (s.stores.pass tick)).2.sessions
    rw [SessionState.sessions_effect]
    exact List.mem_map_of_mem h
  | inr op =>
    cases op with
    | revokeAllIdentitySessions userId reason =>
      exact ⟨_, List.mem_map_of_mem h, TokenStores.sessionRowKept_revokeRow _ userId reason row⟩
    | createIdentitySession userId tokenFamily =>
      refine ⟨row, ?_, rfl, rfl, rfl, id⟩
      simp only [TokenStores.exec, TokenStores.effect, TokenStores.rowCall,
        TokenStores.createIdentitySession]
      split
      · exact h
      · exact List.mem_cons_of_mem _ h
    | issueStepUpToken jti token =>
      refine ⟨row, ?_, rfl, rfl, rfl, id⟩
      simp only [TokenStores.exec, TokenStores.effect, TokenStores.rowCall]
      split
      · exact h
      · exact h
    | _ => exact ⟨row, h, rfl, rfl, rfl, id⟩

/-- A stored row was stored before the call, or the call opens its session. A row that is
revoked was so before the call, or the call revokes it. -/
theorem rows_exec (hname : ∀ sessionId tokenFamily reason,
      op = .inl (.revokeIdentitySession sessionId tokenFamily reason) → isBlank tokenFamily = false)
    {row' : IdentitySessionRow T}
    (hmem : row' ∈ (TokenStores.exec settings tick op s).2.stores.sessions) :
    (∃ row ∈ s.stores.sessions, SessionRowKept row row' ∧
      (row'.revokedAt.isSome = true → row.revokedAt.isSome = true ∨ Revokes op row)) ∨
        (row'.revokedAt = none ∧ row'.id = uuidText tick.uuid) := by
  have hsame (h : row' ∈ s.stores.sessions) : ∃ row ∈ s.stores.sessions, SessionRowKept row row' ∧
      (row'.revokedAt.isSome = true → row.revokedAt.isSome = true ∨ Revokes op row) :=
    ⟨row', h, ⟨rfl, rfl, rfl, id⟩, Or.inl⟩
  cases op with
  | inl op =>
    change row' ∈ (SessionState.effect settings tick op (s.stores.pass tick)).2.sessions at hmem
    rw [SessionState.sessions_effect] at hmem
    obtain ⟨row, hrow, rfl⟩ := List.mem_map.mp hmem
    refine Or.inl ⟨row, hrow, SessionState.sessionRowKept_rowEffect _ row, fun hrevoked => ?_⟩
    cases op with
    | revokeIdentitySession sessionId tokenFamily reason =>
      simp only [SessionState.rowEffect] at hrevoked
      split at hrevoked
      · next hmatch =>
        have hfamily : nonEmpty (some tokenFamily) = some tokenFamily :=
          Option.filter_some_pos
            (by simpa using ne_of_not_blank (hname sessionId tokenFamily reason rfl))
        have hmatches := hmatch.2
        rw [hfamily] at hmatches
        have hsame := (of_decide_eq_true hmatches).2.2
        exact Or.inr (by simpa [Revokes] using hsame)
      · exact Or.inl hrevoked
    | touchIdentitySession sessionId tokenFamily =>
      simp only [SessionState.rowEffect] at hrevoked
      split at hrevoked
      · exact Or.inl hrevoked
      · exact Or.inl hrevoked
    | _ => exact Or.inl hrevoked
  | inr op =>
    cases op with
    | revokeAllIdentitySessions userId reason =>
      obtain ⟨row, hrow, rfl⟩ := List.mem_map.mp hmem
      refine Or.inl ⟨row, hrow, TokenStores.sessionRowKept_revokeRow _ userId reason row,
        fun hrevoked => ?_⟩
      unfold TokenStores.revokeRow at hrevoked
      split at hrevoked
      · next hmatch => exact Or.inr hmatch.1
      · exact Or.inl hrevoked
    | createIdentitySession userId tokenFamily =>
      simp only [TokenStores.exec, TokenStores.effect, TokenStores.rowCall,
        TokenStores.createIdentitySession] at hmem
      split at hmem
      · exact Or.inl (hsame hmem)
      · rcases List.mem_cons.mp hmem with rfl | hold
        · exact Or.inr ⟨rfl, rfl⟩
        · exact Or.inl (hsame hold)
    | issueStepUpToken jti token =>
      simp only [TokenStores.exec, TokenStores.effect, TokenStores.rowCall] at hmem
      split at hmem
      · exact Or.inl (hsame hmem)
      · exact Or.inl (hsame hmem)
    | _ => exact Or.inl (hsame hmem)

omit [Field T] [LinearOrder T] [IsStrictOrderedRing T] [FloorRing T] in
theorem nonEmpty_nonEmpty (text : Option String) : nonEmpty (nonEmpty text) = nonEmpty text := by
  unfold nonEmpty
  rw [Option.filter_filter]
  simp

omit [Field T] [LinearOrder T] [IsStrictOrderedRing T] [FloorRing T] in
/-- The claims of a token name its session. -/
theorem readClaims_sessionId {token : RefreshToken} {claims : RefreshTokenClaims}
    (h : readClaims settings token = .ok claims) : claims.sessionId = nonEmpty token.sessionId := by
  unfold readClaims at h
  split at h
  · cases h
  · cases h
  · split at h
    · cases h
    · cases h
    · split at h
      · cases h
      · cases h
        rfl

/-- The tokens that an operation signs for its claims name a session. -/
def SignsNamed (op : TokenOp) : Prop :=
  match op with
  | .inl (.issueRotatedPair claims _ _ _) => namesSession claims.sessionId
  | .inr (.createAccessToken claims) | .inr (.createRefreshToken claims) => claims.sessionId ≠ ""
  | _ => True

omit [Field T] [LinearOrder T] [IsStrictOrderedRing T] [FloorRing T] in
theorem namesSession_some {sessionId : String} (h : sessionId ≠ "") :
    namesSession (some sessionId) := by
  unfold namesSession nonEmpty
  rw [Option.filter_some_pos (by simpa using h)]
  rfl

/-- Every refresh token names a session. -/
theorem refresh_named_exec (hnamed : SignsNamed op)
    (h : ∀ token ∈ s.stores.signed, namesSession token.sessionId) :
    ∀ token ∈ (TokenStores.exec settings tick op s).2.stores.signed,
      namesSession token.sessionId := by
  intro token hmem
  cases op with
  | inl op =>
    change token ∈ (SessionState.exec settings tick op s.stores).2.signed at hmem
    cases hrotation : rotation op with
    | none =>
      rw [exec_signed hrotation] at hmem
      exact h token hmem
    | some _ =>
      cases op with
      | issueRotatedPair claims accessJti refreshJti bootstrapClaims =>
        rcases List.mem_cons.mp hmem with heq | hold
        · rw [heq]
          exact hnamed
        · exact h token hold
      | _ => cases hrotation
  | inr op =>
    cases op with
    | createRefreshToken claims =>
      rcases List.mem_cons.mp hmem with heq | hold
      · rw [heq]
        exact namesSession_some hnamed
      · exact h token hold
    | createIdentitySession userId tokenFamily =>
      simp only [TokenStores.exec, TokenStores.effect, TokenStores.rowCall,
        TokenStores.createIdentitySession] at hmem
      split at hmem
      · exact h token hmem
      · exact h token hmem
    | issueStepUpToken jti presented =>
      simp only [TokenStores.exec, TokenStores.effect, TokenStores.rowCall] at hmem
      split at hmem
      · exact h token hmem
      · exact h token hmem
    | _ => exact h token hmem

/-- Every access token names a session. -/
theorem access_named_exec (hnamed : SignsNamed op)
    (h : ∀ token ∈ s.accessTokens, namesSession token.sessionId) :
    ∀ token ∈ (TokenStores.exec settings tick op s).2.accessTokens,
      namesSession token.sessionId := by
  intro token hmem
  cases op with
  | inl op =>
    rcases List.mem_append.mp hmem with hnew | hold
    · obtain ⟨pair, hpair, rfl⟩ := List.mem_map.mp hnew
      have hissued := Option.mem_toList.mp hpair
      cases op with
      | issueRotatedPair claims accessJti refreshJti bootstrapClaims =>
        rw [← Option.some.inj hissued]
        exact hnamed
      | _ => cases hissued
    · exact h token hold
  | inr op =>
    cases op with
    | createAccessToken claims =>
      rcases List.mem_cons.mp hmem with heq | hold
      · rw [heq]
        exact namesSession_some hnamed
      · exact h token hold
    | createIdentitySession userId tokenFamily =>
      simp only [TokenStores.exec, TokenStores.effect, TokenStores.rowCall,
        TokenStores.createIdentitySession] at hmem
      split at hmem
      · exact h token hmem
      · exact h token hmem
    | issueStepUpToken jti presented =>
      simp only [TokenStores.exec, TokenStores.effect, TokenStores.rowCall] at hmem
      split at hmem
      · next issued hissued =>
        rcases List.mem_cons.mp hmem with rfl | hold
        · obtain ⟨hsigned, _, family, _, rfl⟩ := issueStepUp_ok hissued
          change namesSession (nonEmpty presented.sessionId)
          rw [namesSession, nonEmpty_nonEmpty]
          exact h presented hsigned
        · exact h token hold
      · exact h token hmem
    | _ => exact h token hmem

/-- No call of a session handler takes a signature back. -/
theorem mem_signed_tokenExec {token : RefreshToken} (h : token ∈ s.stores.signed) :
    token ∈ (TokenStores.exec settings tick op s).2.stores.signed := by
  cases op with
  | inl op => exact mem_signed_exec h
  | inr op =>
    cases op with
    | createRefreshToken claims => exact List.mem_cons_of_mem _ h
    | createIdentitySession userId tokenFamily =>
      simp only [TokenStores.exec, TokenStores.effect, TokenStores.rowCall,
        TokenStores.createIdentitySession]
      split
      · exact h
      · exact h
    | issueStepUpToken jti presented =>
      simp only [TokenStores.exec, TokenStores.effect, TokenStores.rowCall]
      split
      · exact h
      · exact h
    | _ => exact h

/-- What a call leaves in the stores. -/
theorem recorded_exec (hrows : ∀ row ∈ s.stores.sessions, row.id ≠ "") :
    Recorded (TokenStores.exec settings tick op s).2
      ⟨op, (TokenStores.exec settings tick op s).1⟩ := by
  cases op with
  | inl op =>
    cases op with
    | blacklistFamily tokenFamily =>
      simp [Recorded, TokenStores.exec, TokenStores.effect, TokenStores.afterSession,
        SessionState.effect, ExpiringMap.set]
    | isFamilyBlacklisted tokenFamily =>
      intro hclosed
      exact ExpiringMap.isSome_of_get hclosed
    | decodeRefreshToken token => exact fun hvalid => (of_decide_eq_true hvalid).1
    | _ => trivial
  | inr op =>
    cases op with
    | createIdentitySession userId tokenFamily =>
      simp only [Recorded, TokenStores.exec, TokenStores.effect, TokenStores.rowCall,
        TokenStores.createIdentitySession]
      split
      · next row hfind => exact hrows row (List.mem_of_find?_eq_some hfind)
      · exact ne_of_not_blank (isBlank_uuidText tick.uuid)
    | listActiveIdentitySessions userId =>
      intro session hmem
      obtain ⟨row, hrow, rfl⟩ := List.mem_map.mp hmem
      obtain ⟨hstored, hmatch⟩ := List.mem_filter.mp ((List.mem_insertionSort _).mp hrow)
      exact ⟨row, hstored, rfl, (of_decide_eq_true hmatch).1, rfl⟩
    | _ => trivial

/-- No call undoes what another has left in the stores. -/
theorem Recorded.exec {call : Call (TokenOp.Ret T)} (h : Recorded s call) :
    Recorded (TokenStores.exec settings tick op s).2 call := by
  obtain ⟨op' | op', answer⟩ := call
  · cases op' with
    | blacklistFamily tokenFamily => exact families_exec h
    | isFamilyBlacklisted tokenFamily => exact fun hclosed => families_exec (h hclosed)
    | decodeRefreshToken token => exact fun hvalid => mem_signed_tokenExec (h hvalid)
    | _ => trivial
  · cases op' with
    | createIdentitySession userId tokenFamily => exact h
    | listActiveIdentitySessions userId =>
      intro session hmem
      obtain ⟨row, hrow, hid, huser, hfamily⟩ := h session hmem
      obtain ⟨row', hrow', hkept⟩ := kept_exec hrow
      exact ⟨row', hrow', hkept.id_eq.trans hid, hkept.userId_eq.trans huser,
        hkept.tokenFamily_eq.trans hfamily⟩
    | _ => trivial

end Effects

end Linkapro.Identity
