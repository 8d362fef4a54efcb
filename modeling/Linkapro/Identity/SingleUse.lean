import Mathlib.Data.Rat.Floor
import Mathlib.Tactic.NormNum
import Linkapro.Identity.RefreshSession

/-!
# Identity: one pair for one refresh token

The check that a token is unused and the write that consumes it are two calls.
When no other execution blacklists the token in between, and every later check
comes while the entry is live, a token yields at most one pair, in any
interleaving of executions.
-/

namespace Linkapro.Identity

open Lib

section History

variable {ι T : Type}

/-- The performed calls of a pool with their executions, newest first. -/
abbrev SessionHistory (ι T : Type) : Type := List (ι × SessionCall T)

/-- The executions that have blacklisted a token, newest first. -/
def blacklisters (jti : String) (history : SessionHistory ι T) : List ι :=
  history.filterMap fun entry => if blacklistWrite entry.2.1 = some jti then some entry.1 else none

/-- The executions that have issued a pair for a token, newest first. -/
def rotators (jti : String) (history : SessionHistory ι T) : List ι :=
  history.filterMap fun entry =>
    if (rotation entry.2.1).map RefreshTokenClaims.jti = some jti then some entry.1 else none

theorem blacklisters_cons (jti : String) (entry : ι × SessionCall T)
    (history : SessionHistory ι T) :
    blacklisters jti (entry :: history) =
      if blacklistWrite entry.2.1 = some jti then entry.1 :: blacklisters jti history
      else blacklisters jti history := by
  by_cases h : blacklistWrite entry.2.1 = some jti
  · simp [blacklisters, h]
  · simp [blacklisters, h]

theorem rotators_cons (jti : String) (entry : ι × SessionCall T) (history : SessionHistory ι T) :
    rotators jti (entry :: history) =
      if (rotation entry.2.1).map RefreshTokenClaims.jti = some jti then
        entry.1 :: rotators jti history
      else rotators jti history := by
  by_cases h : (rotation entry.2.1).map RefreshTokenClaims.jti = some jti
  · rw [if_pos h]
    unfold rotators
    rw [List.filterMap_cons, if_pos h]
  · rw [if_neg h]
    unfold rotators
    rw [List.filterMap_cons, if_neg h]

/-- Who has blacklisted a token has performed a call that does. -/
theorem mem_blacklisters_iff {jti : String} {history : SessionHistory ι T} {i : ι} :
    i ∈ blacklisters jti history ↔ ∃ call, (i, call) ∈ history ∧ blacklistWrite call.1 = some jti := by
  unfold blacklisters
  rw [List.mem_filterMap]
  constructor
  · rintro ⟨⟨j, call⟩, hmem, h⟩
    split at h
    · next hwrite =>
      cases h
      exact ⟨call, hmem, hwrite⟩
    · cases h
  · rintro ⟨call, hmem, hwrite⟩
    exact ⟨(i, call), hmem, if_pos hwrite⟩

/-- Who has issued a pair for a token has performed a call that does. -/
theorem mem_rotators_iff {jti : String} {history : SessionHistory ι T} {i : ι} :
    i ∈ rotators jti history ↔
      ∃ call claims, (i, call) ∈ history ∧ rotation call.1 = some claims ∧ claims.jti = jti := by
  unfold rotators
  rw [List.mem_filterMap]
  constructor
  · rintro ⟨⟨j, call⟩, hmem, h⟩
    split at h
    · next hrotation =>
      cases h
      obtain ⟨claims, hclaims, hjti⟩ := Option.map_eq_some_iff.mp hrotation
      exact ⟨call, claims, hmem, hclaims, hjti⟩
    · cases h
  · rintro ⟨call, claims, hmem, hclaims, rfl⟩
    exact ⟨(i, call), hmem, if_pos (by rw [hclaims]; rfl)⟩

variable [DecidableEq ι]

/-- The entry is not the check of the token by the execution. -/
def notCheckOf (i : ι) (jti : String) (entry : ι × SessionCall T) : Bool :=
  ¬ (entry.1 = i ∧ (blacklistCheck entry.2).map Prod.fst = some jti)

theorem notCheckOf_ne_true_iff {i j : ι} {jti : String} {call : SessionCall T} :
    ¬ notCheckOf j jti (i, call) = true ↔
      i = j ∧ ∃ used, blacklistCheck call = some (jti, used) := by
  unfold notCheckOf
  rw [decide_eq_true_eq, not_not, Option.map_eq_some_iff]
  refine and_congr_right fun _ => ?_
  constructor
  · rintro ⟨⟨_, used⟩, hcheck, rfl⟩
    exact ⟨used, hcheck⟩
  · rintro ⟨used, hcheck⟩
    exact ⟨(jti, used), hcheck, rfl⟩

end History

variable {T : Type} [Field T] [LinearOrder T] [FloorRing T] {ι : Type} [DecidableEq ι]

/-- A pool of executions of `RefreshSessionUseCase`. -/
abbrev RefreshPool (ι T : Type) [Field T] [LinearOrder T] [FloorRing T] : Type :=
  Pool ι (SessionState T) (SessionOp.Ret T) (Except RefreshError IssuedTokenPair)

/-- The executions before their first call, one for each presented token. -/
def startRefreshes (settings : TokenSettings) (s : SessionState T) (tokens : ι → RefreshToken) :
    RefreshPool ι T :=
  Pool.start s fun i => refreshSession settings (tokens i)

/-- On this turn, an execution that blacklists its token is the first to do so since
its own check. -/
def ConsumesAsChecked (pool : RefreshPool ι T) (turn : ι × Tick T) : Prop :=
  ∀ jti ∈ (pool.next turn.1).bind blacklistWrite,
    blacklisters jti (pool.history.takeWhile (notCheckOf turn.1 jti)) = []

instance (pool : RefreshPool ι T) (turn : ι × Tick T) :
    Decidable (ConsumesAsChecked pool turn) :=
  inferInstanceAs (Decidable (∀ _ ∈ _, _))

/-- On this turn, the check of a token that has been blacklisted comes while the entry
is live. -/
def ChecksLive (pool : RefreshPool ι T) (turn : ι × Tick T) : Prop :=
  ∀ jti ∈ (pool.next turn.1).bind checkedToken, blacklisters jti pool.history ≠ [] →
    (pool.state.blacklist.get (pool.state.clock + turn.2.elapsed) jti).isSome

instance (pool : RefreshPool ι T) (turn : ι × Tick T) :
    Decidable (ChecksLive pool turn) :=
  inferInstanceAs (Decidable (∀ _ ∈ _, _ → _))

/-- How the blacklist and the issued pairs belong together. -/
structure SingleUse (pool : RefreshPool ι T) : Prop where
  /-- Nobody had blacklisted a token before a check that found it unused. -/
  unused : ∀ i jti, (jti, false) ∈ (pool.log i).filterMap blacklistCheck →
    blacklisters jti (pool.history.dropWhile (notCheckOf i jti)) = []
  /-- No token has been blacklisted twice. -/
  consumed_once : ∀ jti, (blacklisters jti pool.history).length ≤ 1
  /-- Whoever has issued a pair for a token has blacklisted it. -/
  consumed : ∀ i jti, i ∈ rotators jti pool.history → i ∈ blacklisters jti pool.history
  /-- No token has yielded two pairs. -/
  rotated_once : ∀ jti, (rotators jti pool.history).length ≤ 1

/-- What a call must be like to keep single use: a first check that finds a token
unused comes before it is blacklisted, a token is blacklisted by the first to do so,
and a pair is issued once, after its token has been blacklisted. -/
theorem SingleUse.step {pool pool' : RefreshPool ι T} {i : ι} {call : SessionCall T}
    (h : SingleUse pool) (hhistory : pool'.history = (i, call) :: pool.history)
    (hcheck : ∀ jti used, blacklistCheck call = some (jti, used) →
      (pool.log i).filterMap blacklistCheck = [] ∧
        (used = false → blacklisters jti pool.history = []))
    (hwrite : ∀ jti, blacklistWrite call.1 = some jti → blacklisters jti pool.history = [])
    (hrotation : ∀ claims, rotation call.1 = some claims →
      i ∈ blacklisters claims.jti pool.history ∧ i ∉ rotators claims.jti pool.history) :
    SingleUse pool' := by
  have hconsumed (j : ι) (jti : String) (hmem : j ∈ blacklisters jti pool.history) :
      j ∈ blacklisters jti pool'.history := by
    rw [hhistory, blacklisters_cons]
    split
    · exact List.mem_cons_of_mem _ hmem
    · exact hmem
  refine ⟨fun j jti hmem => ?_, fun jti => ?_, fun j jti hmem => ?_, fun jti => ?_⟩
  · have hlog : pool'.log j = if i = j then call :: pool.log j else pool.log j := by
      simp only [Pool.log, hhistory, Pool.logOf]
    rw [hlog] at hmem
    rw [hhistory]
    by_cases hskip : notCheckOf j jti (i, call) = true
    · rw [List.dropWhile_cons, if_pos hskip]
      refine h.unused j jti ?_
      split at hmem
      · next hij =>
        rw [List.filterMap_cons] at hmem
        split at hmem
        · exact hmem
        · next check hcall =>
          rcases List.mem_cons.mp hmem with rfl | hmem
          · exact absurd hskip (notCheckOf_ne_true_iff.mpr ⟨hij, false, hcall⟩)
          · exact hmem
      · exact hmem
    · rw [List.dropWhile_cons, if_neg hskip, blacklisters_cons]
      obtain ⟨rfl, used, hcall⟩ := notCheckOf_ne_true_iff.mp hskip
      obtain ⟨hfirst, hnone⟩ := hcheck jti used hcall
      rw [if_pos rfl, List.filterMap_cons, hcall, hfirst] at hmem
      have hused : used = false := by
        have heq := List.mem_singleton.mp hmem
        exact (congrArg Prod.snd heq).symm
      have hnowrite : blacklistWrite call.1 ≠ some jti := by
        obtain ⟨op, answer⟩ := call
        cases op with
        | isBlacklisted _ => exact fun hwrite => by cases hwrite
        | _ => cases hcall
      rw [if_neg hnowrite]
      exact hnone hused
  · rw [hhistory, blacklisters_cons]
    split
    · next hcall => rw [hwrite jti hcall]; exact le_refl 1
    · exact h.consumed_once jti
  · rw [hhistory, rotators_cons] at hmem
    split at hmem
    · next hcall =>
      obtain ⟨claims, hclaims, rfl⟩ := Option.map_eq_some_iff.mp hcall
      rcases List.mem_cons.mp hmem with rfl | hmem
      · exact hconsumed _ _ (hrotation claims hclaims).1
      · exact hconsumed _ _ (h.consumed j _ hmem)
    · exact hconsumed _ _ (h.consumed j jti hmem)
  · rw [hhistory, rotators_cons]
    split
    · next hcall =>
      obtain ⟨claims, hclaims, rfl⟩ := Option.map_eq_some_iff.mp hcall
      obtain ⟨hblacklisted, hnew⟩ := hrotation claims hclaims
      -- Another execution with a pair would be a second one that blacklisted the token.
      have hnone : rotators claims.jti pool.history = [] := by
        rw [List.eq_nil_iff_forall_not_mem]
        intro k hk
        have hsame : k = i := by
          have honce := h.consumed_once claims.jti
          obtain ⟨only, honly⟩ := List.length_eq_one_iff.mp
            (le_antisymm honce (List.length_pos_of_mem hblacklisted))
          have hk' := h.consumed k _ hk
          rw [honly, List.mem_singleton] at hk' hblacklisted
          exact hk'.trans hblacklisted.symm
        exact hnew (hsame ▸ hk)
      rw [hnone]
      exact le_refl 1
    · exact h.rotated_once jti

variable {settings : TokenSettings} {tokens : ι → RefreshToken}

/-- The contracts of the executions of a pool. -/
abbrev refreshContracts (settings : TokenSettings) (tokens : ι → RefreshToken) :
    ι → Contract (SessionOp.Ret T) :=
  fun i => refreshContract settings (tokens i)

/-- The final conditions of the executions of a pool. -/
abbrev closesUsedFamilies (settings : TokenSettings) (tokens : ι → RefreshToken) :
    ι → SessionLog T → Except RefreshError IssuedTokenPair → Prop :=
  fun i log _ => ClosesUsedFamily settings (tokens i) log

/-- The executions of a pool follow their contracts from the start. -/
theorem disciplined_startRefreshes {s : SessionState T} :
    Pool.Disciplined (refreshContracts settings tokens) (closesUsedFamilies settings tokens)
      (startRefreshes settings s tokens) :=
  fun i => refreshSession_follows settings (tokens i)

/-- Single use holds before any call. -/
theorem SingleUse.start {s : SessionState T} : SingleUse (startRefreshes settings s tokens) :=
  ⟨(fun _ _ h => by cases h), fun _ => Nat.zero_le 1, (fun _ _ h => by cases h),
    fun _ => Nat.zero_le 1⟩

variable [IsStrictOrderedRing T]

omit [DecidableEq ι] in
/-- The contract of an execution assumes nothing of the answers. -/
theorem answers_refreshContracts :
    Pool.Answers (SessionState.exec (T := T) settings) (refreshContracts settings tokens) :=
  fun _ _ _ _ => trivial

/-- Every turn that consumes as it has checked, and checks while entries are live, keeps
single use. -/
theorem keeps_singleUse :
    Pool.Keeps (SessionState.exec (T := T) settings) (refreshContracts settings tokens)
      (closesUsedFamilies settings tokens)
      (fun pool turn => ConsumesAsChecked pool turn ∧ ChecksLive pool turn) SingleUse := by
  rintro pool i tick op next _ hI ⟨hconsumes, hlive⟩ hrest hallowed
  have hcall : RefreshCall settings (tokens i) (pool.log i) op := hallowed
  refine hI.step (by rw [Pool.step_of_call hrest]) ?_ ?_ ?_
  · intro jti used hcheck
    cases op with
    | isBlacklisted jti' =>
      obtain ⟨rfl, rfl⟩ := Prod.mk.inj (Option.some.inj hcheck)
      obtain ⟨claims, _, _, hlog⟩ := hcall
      refine ⟨by rw [hlog]; rfl, fun hunused => ?_⟩
      by_contra hne
      have hused := hlive _ (by rw [Pool.next_of_call hrest]; rfl) hne
      exact Bool.false_ne_true (hunused.symm.trans hused)
    | _ => cases hcheck
  · intro jti hwrite
    cases op with
    | blacklist jti' ttl =>
      cases Option.some.inj hwrite
      obtain ⟨claims, familyRevoked, sessionsRevoked, versionMatches, now, _, rfl, _, hlog⟩ := hcall
      have hsince := hconsumes claims.jti (by rw [Pool.next_of_call hrest]; rfl)
      have hchecked : (claims.jti, false) ∈ (pool.log i).filterMap blacklistCheck := by
        rw [hlog]
        exact List.mem_singleton_self _
      have hbefore := hI.unused i claims.jti hchecked
      have hsplit : pool.history.takeWhile (notCheckOf i claims.jti) ++
          pool.history.dropWhile (notCheckOf i claims.jti) = pool.history :=
        List.takeWhile_append_dropWhile
      rw [← hsplit]
      unfold blacklisters at hsince hbefore ⊢
      rw [List.filterMap_append, hsince, hbefore]
      rfl
    | _ => cases hwrite
  · intro claims hrotation
    cases op with
    | issueRotatedPair claims' accessJti refreshJti bootstrapClaims =>
      cases Option.some.inj hrotation
      obtain ⟨ttl, now, _, hlog⟩ := hcall
      constructor
      · have hmem : ⟨.blacklist claims.jti ttl, ()⟩ ∈ pool.log i := by
          rw [hlog]
          exact List.mem_append_left _ (by simp)
        exact mem_blacklisters_iff.mpr ⟨_, Pool.mem_log_iff.mp hmem, rfl⟩
      · intro hmem
        obtain ⟨call, claims', hcall, hclaims, _⟩ := mem_rotators_iff.mp hmem
        have hrotations : claims' ∈ (pool.log i).filterMap fun call => rotation call.1 :=
          List.mem_filterMap.mpr ⟨call, Pool.mem_log_iff.mpr hcall, hclaims⟩
        rw [hlog] at hrotations
        cases hrotations
    | _ => cases hrotation

/-- In every interleaving of executions in which each one blacklists its token before any
other has done so since its check, and checks it while the entry of an earlier one is
live, a refresh token yields at most one new pair. -/
theorem refresh_token_rotated_once {s : SessionState T} {schedule : List (ι × Tick T)}
    (hschedule : Pool.Always (SessionState.exec settings)
      (fun pool turn => ConsumesAsChecked pool turn ∧ ChecksLive pool turn)
      (startRefreshes settings s tokens) schedule) (jti : String) :
    (rotators jti ((startRefreshes settings s tokens).run
      (SessionState.exec settings) schedule).history).length ≤ 1 :=
  (keeps_singleUse.run answers_refreshContracts disciplined_startRefreshes SingleUse.start
    hschedule).2.rotated_once jti

/-- Settings for concrete runs. -/
def sampleSettings : TokenSettings :=
  { tokenEnv := "production", paymentEnv := none, acceptLegacyPaymentEnvTokens := false }

/-- A refresh token for concrete runs, valid until second 10. -/
def sampleToken : RefreshToken where
  jti := some "jti_1"
  family := some "family_1"
  env := some "production"
  userId := some "user_1"
  sessionId := none
  issuedAt := some 0
  authTokenVersion := some 0
  expiresAt := 10
  role := none
  scope := ""
  stepUp := false

/-- Second 0 of a service that has signed the token of an active user. -/
def sampleSessions : SessionState ℚ where
  clock := 0
  blacklist := fun _ => none
  families := fun _ => none
  revokedAfter := fun _ => none
  users := fun _ => some ⟨0, true⟩
  sessions := []
  signed := [sampleToken]
  signed_lifetime := by
    intro token hmem
    rw [List.mem_singleton.mp hmem]
    norm_num [sampleToken, refreshTokenLifetime]

/-- A call that takes no time. -/
def instantly (uuid : UUID) : Tick ℚ := ⟨0, uuid, le_refl 0⟩

/-- Two executions check the same token before either of them blacklists it. -/
def racingRefreshes : List (Bool × Tick ℚ) :=
  (List.range 5).map (fun k => (true, instantly k)) ++
    (List.range 12).map (fun k => (false, instantly (20 + k))) ++
    (List.range 7).map fun k => (true, instantly (40 + k))

/-- Both executions issue a pair for the one token. -/
theorem token_rotated_twice :
    ¬ (rotators "jti_1" ((startRefreshes sampleSettings sampleSessions
      fun _ : Bool => sampleToken).run (SessionState.exec sampleSettings)
        racingRefreshes).history).length ≤ 1 := by
  decide +kernel

/-- When the second execution checks after the first has blacklisted the token, there is
one pair. -/
theorem refresh_token_rotated_once_sample :
    (rotators "jti_1" ((startRefreshes sampleSettings sampleSessions
      fun _ : Bool => sampleToken).run (SessionState.exec sampleSettings)
        ((List.range 7).map (fun k => (true, instantly k)) ++
          (List.range 12).map (fun k => (false, instantly (20 + k))) ++
          (List.range 5).map fun k => (true, instantly (40 + k)))).history).length ≤ 1 :=
  refresh_token_rotated_once (by decide +kernel) "jti_1"

end Linkapro.Identity
