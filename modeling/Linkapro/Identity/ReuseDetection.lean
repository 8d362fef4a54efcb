import Mathlib.Algebra.Order.Ring.Star
import Mathlib.Data.Fintype.Basic
import Mathlib.Data.Rat.Star
import Linkapro.Identity.SingleUse

/-!
# Identity: reuse of a rotated refresh token

In a sequential run a token that is presented again is found in the blacklist as
long as its entry is live, and the entry lapses up to a second before the token
expires. While no presentation falls into that gap, a second presentation
closes the family for good: the family entry outlives every token signed before.
-/

namespace Linkapro.Identity

open Lib

variable {T : Type} [Field T] [LinearOrder T] [FloorRing T] {ι : Type} [DecidableEq ι]

/-- On this turn, no other execution is under way. -/
def Sequential (pool : RefreshPool ι T) (turn : ι × Tick T) : Prop :=
  ∀ j, j ≠ turn.1 → pool.log j = [] ∨ pool.next j = none

instance [Fintype ι] (pool : RefreshPool ι T) (turn : ι × Tick T) :
    Decidable (Sequential pool turn) :=
  inferInstanceAs (Decidable (∀ _, _ → _))

/-- On this turn, the check of a family comes before the presented token expires. -/
def ChecksFamilyInTime (tokens : ι → RefreshToken) (pool : RefreshPool ι T) (turn : ι × Tick T) :
    Prop :=
  (pool.next turn.1).bind checkedFamily ≠ none →
    pool.state.clock + turn.2.elapsed < ((tokens turn.1).expiresAt : T)

instance (tokens : ι → RefreshToken) (pool : RefreshPool ι T) (turn : ι × Tick T) :
    Decidable (ChecksFamilyInTime tokens pool turn) :=
  inferInstanceAs (Decidable (_ → _))

/-- Each token is rotated at most once, and after a rotated token has been presented
again no token of its family is rotated. -/
structure ReuseContained (tokens : ι → RefreshToken) (history : SessionHistory ι T) : Prop where
  rotated_once : ∀ jti, (rotators jti history).length ≤ 1
  family_closed : ∀ newer i call older jti, history = newer ++ (i, call) :: older →
    checkedToken call.1 = some jti → rotators jti older ≠ [] →
      ∀ j jti', j ∈ rotators jti' newer → (tokens j).family ≠ (tokens i).family

/-- Some execution has blacklisted the family. -/
def Closed (familyId : String) (history : SessionHistory ι T) : Prop :=
  ∃ entry ∈ history, familyWrite entry.2.1 = some familyId

/-- What holds between the calls of a sequential run. -/
structure FamilyGuard (settings : TokenSettings) (tokens : ι → RefreshToken)
    (pool : RefreshPool ι T) : Prop where
  single_use : SingleUse pool
  /-- The calls of an execution under way are the newest ones. -/
  contiguous : ∀ i, pool.log i ≠ [] → pool.next i ≠ none →
    ∃ older, pool.history = (pool.log i).map (Prod.mk i) ++ older
  /-- A decoded token has been signed. -/
  decoded : ∀ i token, token ∈ (pool.log i).filterMap decodedToken → token ∈ pool.state.signed
  /-- A checked token has been read with its claims. -/
  read : ∀ i jti used, (jti, used) ∈ (pool.log i).filterMap blacklistCheck →
    ∃ claims, readClaims settings (tokens i) = .ok claims ∧ jti = claims.jti
  /-- The entry of a closed family outlives the tokens of the family. -/
  closed_live : ∀ familyId, Closed familyId pool.history →
    ∃ deadline, pool.state.families familyId = some ⟨(), some deadline⟩ ∧
      ∀ token ∈ pool.state.signed, token.family = some familyId →
        (token.expiresAt : T) ≤ deadline
  /-- A family that an execution under way has found open has not been closed by others. -/
  found_open : ∀ i familyId, pool.next i ≠ none →
    (familyId, false) ∈ (pool.log i).filterMap familyCheck →
    (pool.log i).filterMap (fun call => familyWrite call.1) = [] → ¬ Closed familyId pool.history
  /-- A rotated token that is presented again is found used. -/
  found_used : ∀ newer i call older jti, pool.history = newer ++ (i, call) :: older →
    checkedToken call.1 = some jti → rotators jti older ≠ [] →
      blacklistCheck call = some (jti, true)
  contained : ReuseContained tokens pool.history

section Effects

variable [IsStrictOrderedRing T] {settings : TokenSettings} {tick : Tick T} {s : SessionState T}
  {op : SessionOp}

/-- Only the write of a family changes the family entries. -/
theorem exec_families (h : familyWrite op = none) :
    (SessionState.exec settings tick op s).2.families = s.families := by
  cases op with
  | blacklistFamily familyId => cases h
  | touchIdentitySession sessionId tokenFamily =>
    simp only [SessionState.exec, SessionState.effect, SessionState.touchIdentitySession]
    split
    · rfl
    · rfl
  | revokeIdentitySession sessionId tokenFamily reason =>
    simp only [SessionState.exec, SessionState.effect, SessionState.revokeIdentitySession]
    split
    · rfl
    · rfl
  | _ => rfl

/-- Only a rotation signs a token. -/
theorem exec_signed (h : rotation op = none) :
    (SessionState.exec settings tick op s).2.signed = s.signed := by
  cases op with
  | issueRotatedPair claims accessJti refreshJti bootstrapClaims => cases h
  | touchIdentitySession sessionId tokenFamily =>
    simp only [SessionState.exec, SessionState.effect, SessionState.touchIdentitySession]
    split
    · rfl
    · rfl
  | revokeIdentitySession sessionId tokenFamily reason =>
    simp only [SessionState.exec, SessionState.effect, SessionState.revokeIdentitySession]
    split
    · rfl
    · rfl
  | _ => rfl

/-- No call takes a signature back. -/
theorem mem_signed_exec {token : RefreshToken} (h : token ∈ s.signed) :
    token ∈ (SessionState.exec settings tick op s).2.signed := by
  cases hrotation : rotation op with
  | none => rwa [exec_signed hrotation]
  | some claims =>
    cases op with
    | issueRotatedPair claims accessJti refreshJti bootstrapClaims => exact List.mem_cons_of_mem _ h
    | _ => cases hrotation

end Effects

omit [Field T] [LinearOrder T] [FloorRing T] [DecidableEq ι] in
theorem closed_cons_iff {familyId : String} {entry : ι × SessionCall T}
    {history : SessionHistory ι T} :
    Closed familyId (entry :: history) ↔
      familyWrite entry.2.1 = some familyId ∨ Closed familyId history := by
  simp [Closed]

variable [IsStrictOrderedRing T] {settings : TokenSettings} {tokens : ι → RefreshToken}
  {pool : RefreshPool ι T} {i : ι} {tick : Tick T} {op : SessionOp}
  {next : op.Ret T → SessionProgram T (Except RefreshError IssuedTokenPair)}

/-- In a sequential run the calls of an execution under way stay the newest ones. -/
theorem FamilyGuard.contiguous_step (h : FamilyGuard settings tokens pool)
    (hsequential : Sequential pool (i, tick)) (hrest : pool.rest i = .call op next) (j : ι)
    (hstarted : (pool.step (SessionState.exec settings) (i, tick)).log j ≠ [])
    (hnext : (pool.step (SessionState.exec settings) (i, tick)).next j ≠ none) :
    ∃ older, (pool.step (SessionState.exec settings) (i, tick)).history =
      ((pool.step (SessionState.exec settings) (i, tick)).log j).map (Prod.mk j) ++ older := by
  by_cases hij : i = j
  · subst hij
    rw [Pool.log_step_self hrest, Pool.step_of_call hrest]
    by_cases hempty : pool.log i = []
    · exact ⟨pool.history, by rw [hempty]; rfl⟩
    · obtain ⟨older, hhistory⟩ := h.contiguous i hempty (by rw [Pool.next_of_call hrest]; simp)
      exact ⟨older, by rw [hhistory]; rfl⟩
  · rw [Pool.log_step_other hij] at hstarted
    rw [Pool.next_step_other hij] at hnext
    rcases hsequential j (Ne.symm hij) with hempty | hended
    · exact absurd hempty hstarted
    · exact absurd hended hnext

omit [IsStrictOrderedRing T] in
/-- In a sequential run nobody blacklists a token between a check and the write after it. -/
theorem FamilyGuard.consumesAsChecked (h : FamilyGuard settings tokens pool)
    (hrest : pool.rest i = .call op next)
    (hcall : RefreshCall settings (tokens i) (pool.log i) op) :
    ConsumesAsChecked pool (i, tick) := by
  intro jti hjti
  rw [Pool.next_of_call hrest] at hjti
  cases op with
  | blacklist jti' ttl =>
    cases hjti
    obtain ⟨claims, familyRevoked, sessionsRevoked, versionMatches, now, _, rfl, _, hlog⟩ := hcall
    obtain ⟨older, hhistory⟩ := h.contiguous i (by rw [hlog]; simp)
      (by rw [Pool.next_of_call hrest]; simp)
    rw [hhistory, hlog]
    simp [checked, notCheckOf, blacklistCheck, blacklisters, blacklistWrite]
  | _ => cases hjti

/-- A decoded token has been signed. -/
theorem FamilyGuard.decoded_step (h : FamilyGuard settings tokens pool)
    (hrest : pool.rest i = .call op next) (j : ι) (token : RefreshToken)
    (hmem : token ∈ ((pool.step (SessionState.exec settings) (i, tick)).log j).filterMap
      decodedToken) :
    token ∈ (pool.step (SessionState.exec settings) (i, tick)).state.signed := by
  rw [Pool.step_of_call hrest]
  rcases (Pool.mem_filterMap_log_step hrest).mp hmem with ⟨_, hdecoded⟩ | hold
  · cases op with
    | decodeRefreshToken presented =>
      have hvalid : token ∈ pool.state.signed := by
        simp only [SessionState.exec, SessionState.effect] at hdecoded
        by_cases hvalid : presented ∈ (pool.state.pass tick).signed ∧
            (pool.state.pass tick).clock < (presented.expiresAt : T)
        · rw [decide_eq_true hvalid] at hdecoded
          cases hdecoded
          exact hvalid.1
        · rw [decide_eq_false hvalid] at hdecoded
          cases hdecoded
      exact mem_signed_exec hvalid
    | _ => cases hdecoded
  · exact mem_signed_exec (h.decoded j token hold)

/-- A checked token has been read with its claims. -/
theorem FamilyGuard.read_step (h : FamilyGuard settings tokens pool)
    (hrest : pool.rest i = .call op next)
    (hcall : RefreshCall settings (tokens i) (pool.log i) op) (j : ι) (jti : String) (used : Bool)
    (hmem : (jti, used) ∈ ((pool.step (SessionState.exec settings) (i, tick)).log j).filterMap
      blacklistCheck) :
    ∃ claims, readClaims settings (tokens j) = .ok claims ∧ jti = claims.jti := by
  rcases (Pool.mem_filterMap_log_step hrest).mp hmem with ⟨rfl, hcheck⟩ | hold
  · cases op with
    | isBlacklisted jti' =>
      obtain ⟨claims, hread, rfl, _⟩ := hcall
      exact ⟨claims, hread, (congrArg Prod.fst (Option.some.inj hcheck)).symm⟩
    | _ => cases hcheck
  · exact h.read j jti used hold

/-- The entry of a closed family outlives the tokens of the family. -/
theorem FamilyGuard.closed_live_step (h : FamilyGuard settings tokens pool)
    (hrest : pool.rest i = .call op next)
    (hcall : RefreshCall settings (tokens i) (pool.log i) op) (familyId : String)
    (hclosed : Closed familyId (pool.step (SessionState.exec settings) (i, tick)).history) :
    ∃ deadline, (pool.step (SessionState.exec settings) (i, tick)).state.families familyId =
        some ⟨(), some deadline⟩ ∧
      ∀ token ∈ (pool.step (SessionState.exec settings) (i, tick)).state.signed,
        token.family = some familyId → (token.expiresAt : T) ≤ deadline := by
  rw [Pool.step_of_call hrest] at hclosed ⊢
  rw [closed_cons_iff] at hclosed
  by_cases hwrite : familyWrite op = some familyId
  · cases op with
    | blacklistFamily familyId' =>
      cases Option.some.inj hwrite
      refine ⟨pool.state.clock + tick.elapsed + 7 * 24 * 3600, ?_, fun token hmem _ => ?_⟩
      · simp [SessionState.exec, SessionState.effect, SessionState.pass, ExpiringMap.set]
      · have hle := (pool.state.pass tick).signed_lifetime token hmem
        have hlifetime : (refreshTokenLifetime : T) = 7 * 24 * 3600 := by
          norm_num [refreshTokenLifetime]
        rw [hlifetime] at hle
        exact hle
    | _ => cases hwrite
  · obtain ⟨deadline, hfamilies, hbound⟩ := h.closed_live familyId (hclosed.resolve_left hwrite)
    refine ⟨deadline, ?_, fun token hmem hfamily => ?_⟩
    · cases op with
      | blacklistFamily familyId' =>
        have hne : familyId ≠ familyId' := fun heq => hwrite (by rw [heq]; rfl)
        simpa [SessionState.exec, SessionState.effect, SessionState.pass, ExpiringMap.set, hne]
          using hfamilies
      | _ => rwa [exec_families rfl]
    · cases op with
      | issueRotatedPair claims accessJti refreshJti bootstrapClaims =>
        rcases List.mem_cons.mp hmem with rfl | hmem
        · -- The family of an issued pair is open.
          obtain ⟨ttl, now, _, hlog⟩ := hcall
          cases Option.some.inj hfamily
          have hopen := h.found_open i claims.family.id (by rw [Pool.next_of_call hrest]; simp)
            (by rw [hlog]; exact List.mem_singleton_self _) (by rw [hlog]; rfl)
          exact absurd (hclosed.resolve_left hwrite) hopen
        · exact hbound token hmem hfamily
      | _ =>
        rw [exec_signed rfl] at hmem
        exact hbound token hmem hfamily

/-- A family that an execution under way has found open has not been closed by others. -/
theorem FamilyGuard.found_open_step (h : FamilyGuard settings tokens pool)
    (hsequential : Sequential pool (i, tick)) (htime : ChecksFamilyInTime tokens pool (i, tick))
    (hrest : pool.rest i = .call op next)
    (hcall : RefreshCall settings (tokens i) (pool.log i) op) (j : ι) (familyId : String)
    (hnext : (pool.step (SessionState.exec settings) (i, tick)).next j ≠ none)
    (hcheck : (familyId, false) ∈
      ((pool.step (SessionState.exec settings) (i, tick)).log j).filterMap familyCheck)
    (hwrites : ((pool.step (SessionState.exec settings) (i, tick)).log j).filterMap
      (fun call => familyWrite call.1) = []) :
    ¬ Closed familyId (pool.step (SessionState.exec settings) (i, tick)).history := by
  by_cases hij : i = j
  · subst hij
    have hwrite : familyWrite op = none := by
      rw [Pool.log_step_self hrest, List.filterMap_cons] at hwrites
      split at hwrites
      · next hnone => exact hnone
      · cases hwrites
    have hwrites' : (pool.log i).filterMap (fun call => familyWrite call.1) = [] := by
      rw [Pool.log_step_self hrest, List.filterMap_cons] at hwrites
      split at hwrites
      · exact hwrites
      · cases hwrites
    have hclosed : Closed familyId (pool.step (SessionState.exec settings) (i, tick)).history ↔
        Closed familyId pool.history := by
      rw [Pool.step_of_call hrest, closed_cons_iff]
      simp [hwrite]
    rw [hclosed]
    rcases (Pool.mem_filterMap_log_step hrest).mp hcheck with ⟨_, hanswer⟩ | hold
    · cases op with
      | isFamilyBlacklisted familyId' =>
        obtain ⟨claims, used, hread, rfl, hlog⟩ := hcall
        obtain ⟨hfamily, hopen⟩ := Prod.mk.inj (Option.some.inj hanswer)
        intro hclosed
        rw [← hfamily] at hclosed
        obtain ⟨deadline, hfamilies, hbound⟩ := h.closed_live claims.family.id hclosed
        have hsigned : tokens i ∈ pool.state.signed :=
          h.decoded i (tokens i) (by rw [hlog]; exact List.mem_singleton_self _)
        have hexpires := hbound (tokens i) hsigned (readClaims_ok hread).2.1
        have hnow := htime (by rw [Pool.next_of_call hrest]; simp [checkedFamily])
        have hlive : pool.state.clock + tick.elapsed < deadline := lt_of_lt_of_le hnow hexpires
        have hfound : (pool.state.families.get (pool.state.clock + tick.elapsed)
            claims.family.id).isSome = true := by
          rw [ExpiringMap.get_of_lt hfamilies hlive]
          rfl
        exact Bool.false_ne_true (hopen.symm.trans hfound)
      | _ => cases hanswer
    · exact h.found_open i familyId (by rw [Pool.next_of_call hrest]; simp) hold hwrites'
  · rw [Pool.next_step_other hij] at hnext
    rw [Pool.log_step_other hij] at hcheck
    rcases hsequential j (Ne.symm hij) with hempty | hended
    · rw [hempty] at hcheck
      cases hcheck
    · exact absurd hended hnext

/-- A rotated token that is presented again is found used while its entry is live. -/
theorem FamilyGuard.found_used_step (h : FamilyGuard settings tokens pool)
    (hlive : ChecksLive pool (i, tick)) (hrest : pool.rest i = .call op next)
    {newer older : SessionHistory ι T} {j : ι} {call : SessionCall T} {jti : String}
    (hhistory : (pool.step (SessionState.exec settings) (i, tick)).history =
      newer ++ (j, call) :: older) (hcheck : checkedToken call.1 = some jti)
    (hrotated : rotators jti older ≠ []) : blacklistCheck call = some (jti, true) := by
  rw [Pool.step_of_call hrest] at hhistory
  cases newer with
  | cons entry newer =>
    exact h.found_used newer j call older jti (List.cons.inj hhistory).2 hcheck hrotated
  | nil =>
    obtain ⟨heq, rfl⟩ := List.cons.inj hhistory
    obtain ⟨rfl, rfl⟩ := Prod.mk.inj heq
    cases op with
    | isBlacklisted jti' =>
      cases Option.some.inj hcheck
      obtain ⟨k, hk⟩ := List.exists_mem_of_ne_nil _ hrotated
      have hblacklisted : blacklisters jti pool.history ≠ [] :=
        List.ne_nil_of_mem (h.single_use.consumed k jti hk)
      have hused := hlive jti (by rw [Pool.next_of_call hrest]; rfl) hblacklisted
      exact congrArg (fun used => some (jti, used)) hused
    | _ => cases hcheck

omit [IsStrictOrderedRing T] in
/-- An execution that is about to issue a pair is not one of a family whose rotated token
has been presented again. -/
theorem FamilyGuard.family_ne (h : FamilyGuard settings tokens pool)
    (hpool : Pool.Disciplined (refreshContracts settings tokens)
      (closesUsedFamilies settings tokens) pool)
    (hsequential : Sequential pool (i, tick)) (hrest : pool.rest i = .call op next)
    {claims : RefreshTokenClaims} (hread : readClaims settings (tokens i) = .ok claims)
    {later : SessionLog T} (hlog : pool.log i = later ++ checked (tokens i) claims false false
      false true)
    (hlater : later.filterMap blacklistCheck = [] ∧
      later.filterMap (fun call => familyWrite call.1) = [])
    {newer older : SessionHistory ι T} {k : ι} {call : SessionCall T} {jti : String}
    (hhistory : pool.history = newer ++ (k, call) :: older)
    (hcheck : checkedToken call.1 = some jti) (hrotated : rotators jti older ≠ []) :
    (tokens i).family ≠ (tokens k).family := by
  have hused := h.found_used newer k call older jti hhistory hcheck hrotated
  have hcalled : call ∈ pool.log k := by
    rw [Pool.mem_log_iff, hhistory]
    exact List.mem_append_right _ List.mem_cons_self
  have hchecks : (jti, true) ∈ (pool.log k).filterMap blacklistCheck :=
    List.mem_filterMap.mpr ⟨call, hcalled, hused⟩
  have hki : k ≠ i := by
    rintro rfl
    rw [hlog, List.filterMap_append, hlater.1] at hchecks
    have heq := List.mem_singleton.mp hchecks
    exact Bool.false_ne_true (congrArg Prod.snd heq).symm
  obtain ⟨usedClaims, husedRead, rfl⟩ := h.read k jti true hchecks
  -- The other execution has ended, so it has closed its family.
  have hended : pool.next k = none := by
    rcases hsequential k hki with hempty | hended
    · rw [hempty] at hcalled
      cases hcalled
    · exact hended
  obtain ⟨outcome, hdone⟩ := Pool.done_of_next_eq_none hended
  have hwrites := hpool.post_done hdone usedClaims husedRead hchecks
  obtain ⟨write, hwrite, hfamily⟩ := List.mem_filterMap.mp hwrites
  have hclosed : Closed usedClaims.family.id pool.history :=
    ⟨(k, write), Pool.mem_log_iff.mp hwrite, hfamily⟩
  intro heq
  rw [(readClaims_ok hread).2.1, (readClaims_ok husedRead).2.1] at heq
  rw [← Option.some.inj heq] at hclosed
  refine h.found_open i claims.family.id (by rw [Pool.next_of_call hrest]; simp) ?_ ?_ hclosed
  · rw [hlog, List.filterMap_append]
    exact List.mem_append_right _ (List.mem_singleton_self _)
  · rw [hlog, List.filterMap_append, hlater.2]
    rfl

/-- After a second presentation no token of the family is rotated. -/
theorem FamilyGuard.contained_step (h : FamilyGuard settings tokens pool)
    (hpool : Pool.Disciplined (refreshContracts settings tokens)
      (closesUsedFamilies settings tokens) pool)
    (hsequential : Sequential pool (i, tick)) (hrest : pool.rest i = .call op next)
    (hcall : RefreshCall settings (tokens i) (pool.log i) op)
    (hused : SingleUse (pool.step (SessionState.exec settings) (i, tick))) :
    ReuseContained tokens (pool.step (SessionState.exec settings) (i, tick)).history := by
  refine ⟨hused.rotated_once, ?_⟩
  intro newer k call older jti hhistory hcheck hrotated j jti' hj
  rw [Pool.step_of_call hrest] at hhistory
  cases newer with
  | nil => cases hj
  | cons entry newer =>
    obtain ⟨rfl, hbefore⟩ : _ ∧ pool.history = newer ++ (k, call) :: older :=
      List.cons.inj hhistory
    rw [rotators_cons] at hj
    split at hj
    · next hrotation =>
      rcases List.mem_cons.mp hj with heq | hj
      · have hji : j = i := heq
        rw [hji]
        cases op with
        | issueRotatedPair claims accessJti refreshJti bootstrapClaims =>
          obtain ⟨ttl, now, hread, hlog⟩ := hcall
          exact h.family_ne hpool hsequential hrest hread hlog ⟨rfl, rfl⟩ hbefore hcheck hrotated
        | _ => cases hrotation
      · exact h.contained.family_closed newer k call older jti hbefore hcheck hrotated j jti' hj
    · exact h.contained.family_closed newer k call older jti hbefore hcheck hrotated j jti' hj

omit [IsStrictOrderedRing T] in
/-- The guard holds before any call. -/
theorem FamilyGuard.start {s : SessionState T} :
    FamilyGuard settings tokens (startRefreshes settings s tokens) where
  single_use := SingleUse.start
  contiguous i h := absurd rfl h
  decoded i token h := by cases h
  read i jti used h := by cases h
  closed_live familyId h := by
    obtain ⟨entry, hmem, _⟩ := h
    cases hmem
  found_open i familyId _ h := by cases h
  found_used newer i call older jti h := by
    exact absurd h.symm (by simp [startRefreshes, Pool.start])
  contained := by
    refine ⟨fun _ => Nat.zero_le 1, fun newer i call older jti h => ?_⟩
    exact absurd h.symm (by simp [startRefreshes, Pool.start])

/-- What the turns of a sequential run must be like: no execution overlaps another, a
token that has been blacklisted is checked while the entry is live, and the family is
checked before the token expires. -/
def TimelyTurn (tokens : ι → RefreshToken) (pool : RefreshPool ι T) (turn : ι × Tick T) : Prop :=
  Sequential pool turn ∧ ChecksLive pool turn ∧ ChecksFamilyInTime tokens pool turn

instance [Fintype ι] (tokens : ι → RefreshToken) (pool : RefreshPool ι T) (turn : ι × Tick T) :
    Decidable (TimelyTurn tokens pool turn) :=
  inferInstanceAs (Decidable (_ ∧ _))

/-- The timely turns of a sequential run keep the guard. -/
theorem keeps_familyGuard :
    Pool.Keeps (SessionState.exec (T := T) settings) (refreshContracts settings tokens)
      (closesUsedFamilies settings tokens) (TimelyTurn tokens) (FamilyGuard settings tokens) := by
  rintro pool i tick op next hpool h ⟨hsequential, hlive, htime⟩ hrest hallowed
  have hcall : RefreshCall settings (tokens i) (pool.log i) op := hallowed
  have hused : SingleUse (pool.step (SessionState.exec settings) (i, tick)) :=
    keeps_singleUse pool i tick op next hpool h.single_use
      ⟨h.consumesAsChecked hrest hcall, hlive⟩ hrest hallowed
  exact
    { single_use := hused
      contiguous := h.contiguous_step hsequential hrest
      decoded := h.decoded_step hrest
      read := h.read_step hrest hcall
      closed_live := h.closed_live_step hrest hcall
      found_open := h.found_open_step hsequential htime hrest hcall
      found_used := fun _ _ _ _ _ => h.found_used_step hlive hrest
      contained := h.contained_step hpool hsequential hrest hcall hused }

/-- In a sequential run at any instants, in which each check of a blacklisted token comes
while its entry is live and each family is checked before its token expires, a token is
rotated at most once, and once a rotated token has been presented again no token of its
family is rotated. -/
theorem reuse_contained {s : SessionState T} {schedule : List (ι × Tick T)}
    (hschedule : Pool.Always (SessionState.exec settings) (TimelyTurn tokens)
      (startRefreshes settings s tokens) schedule) :
    ReuseContained tokens
      ((startRefreshes settings s tokens).run (SessionState.exec settings) schedule).history :=
  (keeps_familyGuard.run answers_refreshContracts disciplined_startRefreshes FamilyGuard.start
    hschedule).2.contained

/-- The turns of one execution that begins after some seconds and takes no time itself. -/
def presentAfter {ι : Type} (i : ι) (elapsed : ℚ) (h : 0 ≤ elapsed) (uuid : UUID) :
    List (ι × Tick ℚ) :=
  (i, ⟨elapsed, uuid, h⟩) ::
    (List.range 11).map fun k => (i, instantly (uuid + BitVec.ofNat 128 (k + 1)))

/-- A token that expires at second 10 is rotated at second 0.5 and presented again at
second 9.7, after its entry has lapsed at second 9.5. -/
def presentedInGap : List (Bool × Tick ℚ) :=
  presentAfter true (1 / 2) (by norm_num) 0 ++ presentAfter false (46 / 5) (by norm_num) 100

/-- The second presentation is rotated, too. -/
theorem token_rotated_again_in_gap :
    Pool.Always (SessionState.exec sampleSettings) Sequential
        (startRefreshes sampleSettings sampleSessions fun _ : Bool => sampleToken)
        presentedInGap ∧
      ¬ ReuseContained (fun _ : Bool => sampleToken)
        ((startRefreshes sampleSettings sampleSessions fun _ : Bool => sampleToken).run
          (SessionState.exec sampleSettings) presentedInGap).history :=
  ⟨by decide +kernel, fun h => absurd (h.rotated_once "jti_1") (by decide +kernel)⟩

/-- The token that the rotation of the sample token yields. -/
def successorToken : RefreshToken :=
  { sampleToken with jti := some (uuidText 10), expiresAt := 604800 }

/-- The token is rotated at second 0.5 and presented again at second 9; then its
successor is presented. -/
theorem reuse_contained_sample :
    ReuseContained (fun k : Fin 3 => if k = 2 then successorToken else sampleToken)
      ((startRefreshes sampleSettings sampleSessions
        fun k : Fin 3 => if k = 2 then successorToken else sampleToken).run
          (SessionState.exec sampleSettings)
          (presentAfter 0 (1 / 2) (by norm_num) 0 ++ presentAfter 1 (17 / 2) (by norm_num) 100 ++
            presentAfter 2 1 (by norm_num) 200)).history :=
  reuse_contained (by decide +kernel)

end Linkapro.Identity
