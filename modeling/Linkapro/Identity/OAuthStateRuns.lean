import Mathlib.Data.Fintype.Basic
import Linkapro.Lib.Sessions
import Linkapro.Identity.OAuthStates

/-!
# Identity: calls with OAuth states

Issuing and consuming calls take turns at their cache calls. Where texts can be compared
and no call reads an entry that another call has read and not yet deleted, the entries of
the cache are those of the issued states that nobody has consumed.
-/

namespace Linkapro.Identity

open Lib

/-- The cached value of a nonce. -/
structure CachedState where
  role : String
  exp : ℕ
deriving DecidableEq

/-- The clock in microseconds, and the cache. -/
structure StateStore where
  clock : ℕ
  cache : ExpiringMap String CachedState ℕ

/-- A call of one of the two functions. -/
inductive StateCall : Type where
  | issue (signupRole : String)
  | consume (state cookieNonce : Option String)

/-- How far a call has come. Its result is that of `consume_oauth_state` once the entry is
deleted. -/
inductive StatePhase : Type where
  | idle
  | storing (payload : StatePayload)
  | issued (payload : StatePayload)
  | invalidRole
  | checked (role nonce : String)
  | found (role nonce : String) (cached : CachedState)
  | consumed (nonce : String) (result : Option OAuthStateResult)
  | refused
  | raised
deriving DecidableEq

variable {ι : Type}

/-- The random bytes of the nonces of calls. Their digests do not collide. -/
structure StateNonces (codec : StateCodec) (ι : Type) where
  value : ι → NonceBytes
  distinct : Function.Injective fun i => stateKey codec (tokenUrlsafe (value i))

/-- The cache key of the nonce of a call. -/
def StateNonces.key {codec : StateCodec} (nonces : StateNonces codec ι) (i : ι) : String :=
  stateKey codec (tokenUrlsafe (nonces.value i))

variable (codec : StateCodec)

/-- What a call does before its first cache call. -/
def beginCall (nonce : NonceBytes) (now : ℕ) : StateCall → StatePhase
  | .issue signupRole =>
    match SignupRole.ofText? (lower (strip signupRole)) with
    | none => .invalidRole
    | some role => .storing { role, exp := intTime now + stateTtlSeconds, nonce }
  | .consume state cookieNonce =>
    match checkState codec state cookieNonce now with
    | .refused => .refused
    | .raised => .raised
    | .lookUp role nonce => .checked role nonce

variable {codec} (nonces : StateNonces codec ι) (calls : ι → StateCall)

/-- The next statement of a call, after some microseconds. -/
def stateStatement : Statement ι StateStore StatePhase ℕ := fun s i elapsed =>
  let now := s.store.clock + elapsed
  match s.phase i with
  | .idle =>
    ({ s.store with clock := now }, beginCall codec (nonces.value i) now (calls i))
  | .storing payload =>
    ({ clock := now
       cache := s.store.cache.set (stateKey codec (tokenUrlsafe payload.nonce))
        { role := payload.role.value, exp := payload.exp }
        (some (now + microseconds stateTtlSeconds)) }, .issued payload)
  | .checked role nonce =>
    ({ s.store with clock := now },
      match s.store.cache.get now (stateKey codec nonce) with
      | none => .refused
      | some cached => .found role nonce cached)
  | .found role nonce cached =>
    ({ clock := now, cache := s.store.cache.delete (stateKey codec nonce) },
      .consumed nonce (if cached.role = role then some { role, nonce } else none))
  | phase => ({ s.store with clock := now }, phase)

/-- The calls before their first statement, with an empty cache. -/
def startStates (clock : ℕ) : Sessions ι StateStore StatePhase :=
  { store := { clock, cache := fun _ => none }, phase := fun _ => .idle }

/-- The call has read the entry of a key and not yet deleted it. -/
def StatePhase.Found (codec : StateCodec) (key : String) : StatePhase → Prop
  | .found _ nonce _ => stateKey codec nonce = key
  | _ => False

instance (key : String) (phase : StatePhase) : Decidable (phase.Found codec key) := by
  unfold StatePhase.Found
  split
  all_goals infer_instance

/-- On this turn, a consuming call that begins has texts that can be compared, and a call
that reads a live entry is the only one that has read it and not yet deleted it. -/
def Separately (codec : StateCodec) (calls : ι → StateCall) (s : Sessions ι StateStore StatePhase)
    (turn : ι × ℕ) : Prop :=
  match s.phase turn.1 with
  | .idle =>
    match calls turn.1 with
    | .issue _ => True
    | .consume state cookieNonce =>
      Comparable codec state cookieNonce (s.store.clock + turn.2)
  | .checked _ nonce =>
    (s.store.cache.get (s.store.clock + turn.2) (stateKey codec nonce)).isSome = true →
      ∀ j, ¬ (s.phase j).Found codec (stateKey codec nonce)
  | _ => True

instance [Fintype ι] (s : Sessions ι StateStore StatePhase) (turn : ι × ℕ) :
    Decidable (Separately codec calls s turn) := by
  unfold Separately
  split
  · split
    all_goals infer_instance
  all_goals infer_instance

/-! ### The entries and the calls -/

/-- The call has read the entry of a key. -/
def StatePhase.Holds (codec : StateCodec) (key : String) : StatePhase → Prop
  | .found _ nonce _ => stateKey codec nonce = key
  | .consumed nonce _ => stateKey codec nonce = key
  | _ => False

/-- The call has issued the state of a key. -/
def IssuedFor (phase : ι → StatePhase) (key : String) (value : CachedState) : Prop :=
  ∃ i payload, phase i = .issued payload ∧ nonces.key i = key ∧
    value = { role := payload.role.value, exp := payload.exp }

/-- What a call has done so far fits its arguments. -/
def Called (clock : ℕ) (i : ι) : StatePhase → Prop
  | .storing payload => payload.nonce = nonces.value i ∧
    microseconds payload.exp ≤ clock + microseconds stateTtlSeconds
  | .issued payload => payload.nonce = nonces.value i
  | .checked role nonce => ∃ state cookieNonce now, calls i = .consume state cookieNonce ∧
    checkState codec state cookieNonce now = .lookUp role nonce
  | .found role nonce _ => ∃ state cookieNonce now, calls i = .consume state cookieNonce ∧
    checkState codec state cookieNonce now = .lookUp role nonce
  | .consumed nonce result => ∃ role state cookieNonce now, calls i = .consume state cookieNonce ∧
    checkState codec state cookieNonce now = .lookUp role nonce ∧
      ∀ value ∈ result, value = { role, nonce }
  | .raised => False
  | _ => True

/-- How the entries of the cache and the calls belong together. -/
structure StatesSound (clock : ℕ) (cache : ExpiringMap String CachedState ℕ)
    (phase : ι → StatePhase) : Prop where
  called : ∀ i, Called nonces calls clock i (phase i)
  /-- An entry is that of an issued state. -/
  entry : ∀ key value deadline, cache key = some ⟨value, deadline⟩ →
    IssuedFor nonces phase key value
  /-- An entry that has been read is that of an issued state. -/
  held : ∀ j key, (phase j).Holds codec key → ∃ value, IssuedFor nonces phase key value
  /-- One call has read an entry. -/
  once : ∀ j k key, (phase j).Holds codec key → (phase k).Holds codec key → j = k
  /-- Once a nonce is consumed, its entry is gone. -/
  gone : ∀ j nonce result, phase j = .consumed nonce result → cache (stateKey codec nonce) = none
  /-- The entry of an issued state lives until its expiry unless its nonce is consumed. -/
  live : ∀ i payload, phase i = .issued payload →
    (∃ deadline, cache (nonces.key i) =
      some ⟨{ role := payload.role.value, exp := payload.exp }, some deadline⟩ ∧
        microseconds payload.exp ≤ deadline) ∨
    ∃ j, (phase j).Holds codec (nonces.key i)

variable {nonces calls} {clock clock' : ℕ} {cache : ExpiringMap String CachedState ℕ}
  {phase : ι → StatePhase} {i : ι}

/-- What a call has done stays done. -/
theorem Called.mono {p : StatePhase} (h : Called nonces calls clock i p) (hclock : clock ≤ clock') :
    Called nonces calls clock' i p := by
  cases p with
  | storing payload => exact ⟨h.1, h.2.trans (Nat.add_le_add_right hclock _)⟩
  | _ => exact h

/-- Time passes. -/
theorem StatesSound.tick (h : StatesSound nonces calls clock cache phase)
    (hclock : clock ≤ clock') : StatesSound nonces calls clock' cache phase where
  called i := (h.called i).mono hclock
  entry := h.entry
  held := h.held
  once := h.once
  gone := h.gone
  live := h.live

variable [DecidableEq ι] {new : StatePhase}

/-- A phase after one call has moved on is the new one or another call's. -/
theorem phase_update {P : StatePhase → Prop} {j : ι} (h : P (Function.update phase i new j)) :
    j = i ∧ P new ∨ j ≠ i ∧ P (phase j) := by
  by_cases hj : j = i
  · subst hj
    rw [Function.update_self] at h
    exact .inl ⟨rfl, h⟩
  · rw [Function.update_of_ne hj] at h
    exact .inr ⟨hj, h⟩

/-- A state stays issued when another call moves on. -/
theorem IssuedFor.update {key : String} {value : CachedState} (h : IssuedFor nonces phase key value)
    (hi : ∀ payload, phase i ≠ .issued payload) :
    IssuedFor nonces (Function.update phase i new) key value := by
  obtain ⟨j, payload, hj, hkey, hvalue⟩ := h
  have hne : j ≠ i := by
    rintro rfl
    exact hi payload hj
  exact ⟨j, payload, by rwa [Function.update_of_ne hne], hkey, hvalue⟩

/-- The other calls have done what they had, and so has the one that moves on. -/
theorem called_update (h : StatesSound nonces calls clock cache phase) (hclock : clock ≤ clock')
    (hcalled : Called nonces calls clock' i new) (j : ι) :
    Called nonces calls clock' j (Function.update phase i new j) := by
  by_cases hj : j = i
  · subst hj
    rwa [Function.update_self]
  · rw [Function.update_of_ne hj]
    exact (h.called j).mono hclock

/-- A call that has read an entry still has when another call moves on. -/
theorem holds_update {j : ι} {key : String} (h : (phase j).Holds codec key)
    (hi : ∀ key, ¬ (phase i).Holds codec key) :
    (Function.update phase i new j).Holds codec key := by
  have hne : j ≠ i := by
    rintro rfl
    exact hi key h
  rwa [Function.update_of_ne hne]

/-- A call that has neither issued a state nor read an entry, before and after. -/
theorem StatesSound.neutral (h : StatesSound nonces calls clock cache phase)
    (hclock : clock ≤ clock') (hcalled : Called nonces calls clock' i new)
    (hissued : ∀ payload, phase i ≠ .issued payload)
    (hissued' : ∀ payload, new ≠ .issued payload)
    (hholds : ∀ key, ¬ (phase i).Holds codec key) (hholds' : ∀ key, ¬ new.Holds codec key) :
    StatesSound nonces calls clock' cache (Function.update phase i new) where
  called := called_update h hclock hcalled
  entry key value deadline hentry := (h.entry key value deadline hentry).update hissued
  held j key hj := by
    obtain ⟨_, hnew⟩ | ⟨_, hj⟩ := phase_update hj
    · exact absurd hnew (hholds' key)
    · obtain ⟨value, hvalue⟩ := h.held j key hj
      exact ⟨value, hvalue.update hissued⟩
  once j k key hj hk := by
    obtain ⟨_, hnew⟩ | ⟨_, hj⟩ := phase_update hj
    · exact absurd hnew (hholds' key)
    obtain ⟨_, hnew⟩ | ⟨_, hk⟩ := phase_update hk
    · exact absurd hnew (hholds' key)
    exact h.once j k key hj hk
  gone j nonce result hj := by
    obtain ⟨_, hnew⟩ | ⟨_, hj⟩ := phase_update (P := (· = .consumed nonce result)) hj
    · exact absurd (hnew ▸ rfl) (hholds' (stateKey codec nonce))
    · exact h.gone j nonce result hj
  live j payload hj := by
    obtain ⟨_, hnew⟩ | ⟨_, hj⟩ := phase_update (P := (· = .issued payload)) hj
    · exact absurd hnew (hissued' payload)
    · refine (h.live j payload hj).imp_right ?_
      rintro ⟨k, hk⟩
      exact ⟨k, holds_update hk hholds⟩

/-- A state is issued and its entry is written. -/
theorem StatesSound.store {payload : StatePayload} {deadline : ℕ}
    (h : StatesSound nonces calls clock cache phase) (hclock : clock ≤ clock')
    (hi : phase i = .storing payload) (hdeadline : microseconds payload.exp ≤ deadline) :
    StatesSound nonces calls clock'
      (cache.set (nonces.key i) { role := payload.role.value, exp := payload.exp } (some deadline))
      (Function.update phase i (.issued payload)) := by
  have hissued : ∀ payload', phase i ≠ .issued payload' := by
    intro payload' heq
    cases hi.symm.trans heq
  have hholds : ∀ key, ¬ (phase i).Holds codec key := by
    intro key hkey
    rw [hi] at hkey
    exact hkey
  -- Nobody has read the entry of a state that is not yet issued.
  have hfree : ∀ j, ¬ (phase j).Holds codec (nonces.key i) := by
    intro j hj
    obtain ⟨_, k, payload', hk, hkey, _⟩ := h.held j _ hj
    cases nonces.distinct hkey
    exact hissued payload' hk
  refine
    { called := called_update h hclock ?_
      entry := fun key value deadline' hentry => ?_
      held := fun j key hj => ?_
      once := fun j k key hj hk => ?_
      gone := fun j nonce result hj => ?_
      live := fun j payload' hj => ?_ }
  · have hcalled := h.called i
    rw [hi] at hcalled
    exact hcalled.1
  · by_cases hkey : key = nonces.key i
    · subst hkey
      simp only [ExpiringMap.set, Function.update_self] at hentry
      cases hentry
      exact ⟨i, payload, Function.update_self .., rfl, rfl⟩
    · simp only [ExpiringMap.set, Function.update_of_ne hkey] at hentry
      exact (h.entry key value deadline' hentry).update hissued
  · obtain ⟨_, hnew⟩ | ⟨_, hj⟩ := phase_update hj
    · exact hnew.elim
    · obtain ⟨value, hvalue⟩ := h.held j key hj
      exact ⟨value, hvalue.update hissued⟩
  · obtain ⟨_, hnew⟩ | ⟨_, hj⟩ := phase_update hj
    · exact hnew.elim
    obtain ⟨_, hnew⟩ | ⟨_, hk⟩ := phase_update hk
    · exact hnew.elim
    exact h.once j k key hj hk
  · obtain ⟨_, hnew⟩ | ⟨_, hj⟩ := phase_update (P := (· = .consumed nonce result)) hj
    · cases hnew
    · have hkey : stateKey codec nonce ≠ nonces.key i := by
        intro heq
        refine hfree j ?_
        rw [hj]
        exact heq
      simp only [ExpiringMap.set, Function.update_of_ne hkey]
      exact h.gone j nonce result hj
  · obtain ⟨rfl, hnew⟩ | ⟨hne, hj⟩ := phase_update (P := (· = .issued payload')) hj
    · cases hnew
      exact .inl ⟨deadline, by simp only [ExpiringMap.set, Function.update_self], hdeadline⟩
    · have hkey : nonces.key j ≠ nonces.key i := fun heq => hne (nonces.distinct heq)
      simp only [ExpiringMap.set, Function.update_of_ne hkey]
      refine (h.live j payload' hj).imp_right ?_
      rintro ⟨k, hk⟩
      exact ⟨k, holds_update hk hholds⟩

/-- An entry is read that no other call has read and not yet deleted. -/
theorem StatesSound.find {role nonce : String} {cached : CachedState} {now : ℕ}
    (h : StatesSound nonces calls clock cache phase) (hclock : clock ≤ clock')
    (hi : phase i = .checked role nonce) (hget : cache.get now (stateKey codec nonce) = some cached)
    (halone : ∀ j, ¬ (phase j).Found codec (stateKey codec nonce)) :
    StatesSound nonces calls clock' cache (Function.update phase i (.found role nonce cached)) := by
  have hissued : ∀ payload, phase i ≠ .issued payload := by
    intro payload heq
    cases hi.symm.trans heq
  have hholds : ∀ key, ¬ (phase i).Holds codec key := by
    intro key hkey
    rw [hi] at hkey
    exact hkey
  obtain ⟨⟨value, deadline⟩, hentry, -⟩ := ExpiringMap.entry_of_get hget
  -- Nobody has read this entry: it would be gone.
  have hfree : ∀ j, ¬ (phase j).Holds codec (stateKey codec nonce) := by
    intro j hj
    cases hphase : phase j with
    | found role' nonce' cached' =>
      refine halone j ?_
      rw [hphase] at hj ⊢
      exact hj
    | consumed nonce' result =>
      rw [hphase] at hj
      have hkey : stateKey codec nonce' = stateKey codec nonce := hj
      have hgone := h.gone j nonce' result hphase
      rw [hkey, hentry] at hgone
      cases hgone
    | _ =>
      rw [hphase] at hj
      exact hj
  refine
    { called := called_update h hclock ?_
      entry := fun key value deadline hentry => (h.entry key value deadline hentry).update hissued
      held := fun j key hj => ?_
      once := fun j k key hj hk => ?_
      gone := fun j nonce' result hj => ?_
      live := fun j payload hj => ?_ }
  · have hcalled := h.called i
    rw [hi] at hcalled
    exact hcalled
  · obtain ⟨_, hnew⟩ | ⟨_, hj⟩ := phase_update hj
    · cases hnew
      exact ⟨value, (h.entry _ value deadline hentry).update hissued⟩
    · obtain ⟨value, hvalue⟩ := h.held j key hj
      exact ⟨value, hvalue.update hissued⟩
  · obtain ⟨rfl, hnew⟩ | ⟨_, hj⟩ := phase_update hj
    · obtain ⟨rfl, _⟩ | ⟨_, hk⟩ := phase_update hk
      · rfl
      · cases hnew
        exact absurd hk (hfree k)
    · obtain ⟨rfl, hnew⟩ | ⟨_, hk⟩ := phase_update hk
      · cases hnew
        exact absurd ‹(phase j).Holds codec _› (hfree j)
      · exact h.once j k key hj hk
  · obtain ⟨_, hnew⟩ | ⟨_, hj⟩ := phase_update (P := (· = .consumed nonce' result)) hj
    · cases hnew
    · exact h.gone j nonce' result hj
  · obtain ⟨_, hnew⟩ | ⟨_, hj⟩ := phase_update (P := (· = .issued payload)) hj
    · cases hnew
    · refine (h.live j payload hj).imp_right ?_
      rintro ⟨k, hk⟩
      exact ⟨k, holds_update hk hholds⟩

/-- An entry that has been read is deleted. -/
theorem StatesSound.delete {role nonce : String} {cached : CachedState}
    (h : StatesSound nonces calls clock cache phase) (hclock : clock ≤ clock')
    (hi : phase i = .found role nonce cached) :
    StatesSound nonces calls clock' (cache.delete (stateKey codec nonce))
      (Function.update phase i
        (.consumed nonce (if cached.role = role then some { role, nonce } else none))) := by
  have hissued : ∀ payload, phase i ≠ .issued payload := by
    intro payload heq
    cases hi.symm.trans heq
  have hself : (phase i).Holds codec (stateKey codec nonce) := by
    rw [hi]
    rfl
  -- The call that has read the entry reads it still.
  have hstill : ∀ j key, (phase j).Holds codec key →
      (Function.update phase i (.consumed nonce
        (if cached.role = role then some { role, nonce } else none)) j).Holds codec key := by
    intro j key hj
    by_cases hne : j = i
    · subst hne
      rw [hi] at hj
      rw [Function.update_self]
      exact hj
    · rwa [Function.update_of_ne hne]
  have hbefore : ∀ j key, (Function.update phase i (.consumed nonce
      (if cached.role = role then some { role, nonce } else none)) j).Holds codec key →
        (phase j).Holds codec key := by
    intro j key hj
    obtain ⟨rfl, hnew⟩ | ⟨_, hj⟩ := phase_update hj
    · cases hnew
      exact hself
    · exact hj
  refine
    { called := called_update h hclock ?_
      entry := fun key value deadline hentry => ?_
      held := fun j key hj => ?_
      once := fun j k key hj hk => h.once j k key (hbefore j key hj) (hbefore k key hk)
      gone := fun j nonce' result hj => ?_
      live := fun j payload hj => ?_ }
  · have hcalled := h.called i
    rw [hi] at hcalled
    obtain ⟨state, cookieNonce, now, hcall, hcheck⟩ := hcalled
    refine ⟨role, state, cookieNonce, now, hcall, hcheck, fun value hvalue => ?_⟩
    split at hvalue
    · exact (Option.some.inj hvalue).symm
    · cases hvalue
  · by_cases hkey : key = stateKey codec nonce
    · subst hkey
      simp [ExpiringMap.delete] at hentry
    · simp only [ExpiringMap.delete, Function.update_of_ne hkey] at hentry
      exact (h.entry key value deadline hentry).update hissued
  · obtain ⟨value, hvalue⟩ := h.held j key (hbefore j key hj)
    exact ⟨value, hvalue.update hissued⟩
  · by_cases hkey : stateKey codec nonce' = stateKey codec nonce
    · rw [hkey]
      simp [ExpiringMap.delete]
    · obtain ⟨_, hnew⟩ | ⟨_, hj⟩ := phase_update (P := (· = .consumed nonce' result)) hj
      · cases hnew
        exact absurd rfl hkey
      · simp only [ExpiringMap.delete, Function.update_of_ne hkey]
        exact h.gone j nonce' result hj
  · obtain ⟨_, hnew⟩ | ⟨_, hj⟩ := phase_update (P := (· = .issued payload)) hj
    · cases hnew
    · by_cases hkey : nonces.key j = stateKey codec nonce
      · exact .inr ⟨i, hstill i _ (hkey ▸ hself)⟩
      · simp only [ExpiringMap.delete, Function.update_of_ne hkey]
        refine (h.live j payload hj).imp_right ?_
        rintro ⟨k, hk⟩
        exact ⟨k, hstill k _ hk⟩

omit [DecidableEq ι] in
/-- A call that begins fits its arguments. -/
theorem called_beginCall
    (hcall : ∀ state cookieNonce, calls i = .consume state cookieNonce →
      Comparable codec state cookieNonce clock) :
    Called nonces calls clock i (beginCall codec (nonces.value i) clock (calls i)) ∧
      (∀ payload, beginCall codec (nonces.value i) clock (calls i) ≠ .issued payload) ∧
        ∀ key, ¬ (beginCall codec (nonces.value i) clock (calls i)).Holds codec key := by
  cases hcalls : calls i with
  | issue signupRole =>
    unfold beginCall
    dsimp only
    split
    · exact ⟨trivial, nofun, fun _ => id⟩
    · refine ⟨⟨rfl, ?_⟩, nofun, fun _ => id⟩
      change (clock / 1000000 + 600) * 1000000 ≤ clock + 600 * 1000000
      omega
  | consume state cookieNonce =>
    have hraised := checkState_ne_raised_iff.mpr (hcall state cookieNonce hcalls)
    unfold beginCall
    dsimp only
    split
    · exact ⟨trivial, nofun, fun _ => id⟩
    · next hcheck => exact absurd hcheck hraised
    · next hcheck => exact ⟨⟨state, cookieNonce, clock, hcalls, hcheck⟩, nofun, fun _ => id⟩

/-- What holds of the entries and the calls of a state. -/
abbrev SoundStates (nonces : StateNonces codec ι) (calls : ι → StateCall)
    (s : Sessions ι StateStore StatePhase) : Prop :=
  StatesSound nonces calls s.store.clock s.store.cache s.phase

/-- One statement of a run keeps the entries and the calls together. -/
theorem soundStates_step {s : Sessions ι StateStore StatePhase} {elapsed : ℕ}
    (h : SoundStates nonces calls s) (hturn : Separately codec calls s (i, elapsed)) :
    SoundStates nonces calls (s.step (stateStatement nonces calls) (i, elapsed)) := by
  have hclock : s.store.clock ≤ s.store.clock + elapsed := Nat.le_add_right ..
  have hsame (phase : StatePhase) (hphase : s.phase i = phase) :
      StatesSound nonces calls (s.store.clock + elapsed) s.store.cache
        (Function.update s.phase i phase) := by
    rw [← hphase, Function.update_eq_self]
    exact h.tick hclock
  unfold Separately at hturn
  unfold SoundStates Sessions.step stateStatement
  dsimp only at hturn ⊢
  cases hphase : s.phase i with
  | idle =>
    rw [hphase] at hturn
    dsimp only at hturn
    have hcomparable : ∀ state cookieNonce, calls i = .consume state cookieNonce →
        Comparable codec state cookieNonce (s.store.clock + elapsed) := by
      intro state cookieNonce hcalls
      rw [hcalls] at hturn
      exact hturn
    obtain ⟨hcalled, hissued, hholds⟩ : Called nonces calls (s.store.clock + elapsed) i _ ∧ _ :=
      called_beginCall hcomparable
    refine h.neutral hclock hcalled ?_ hissued ?_ hholds
    · rw [hphase]
      exact nofun
    · rw [hphase]
      exact fun _ => id
  | storing payload =>
    have hcalled := h.called i
    rw [hphase] at hcalled
    obtain ⟨hnonce, hexp⟩ := hcalled
    have hkey : stateKey codec (tokenUrlsafe payload.nonce) = nonces.key i := by rw [hnonce]; rfl
    dsimp only
    rw [hkey]
    exact h.store hclock hphase (hexp.trans (Nat.add_le_add_right hclock _))
  | checked role nonce =>
    rw [hphase] at hturn
    dsimp only at hturn ⊢
    cases hget : s.store.cache.get (s.store.clock + elapsed) (stateKey codec nonce) with
    | none =>
      refine h.neutral hclock trivial ?_ nofun ?_ fun _ => id
      · rw [hphase]
        exact nofun
      · rw [hphase]
        exact fun _ => id
    | some cached => exact h.find hclock hphase hget (hturn (by rw [hget]; rfl))
  | found role nonce cached => exact h.delete hclock hphase
  | issued payload => exact hsame _ hphase
  | invalidRole => exact hsame _ hphase
  | consumed nonce result => exact hsame _ hphase
  | refused => exact hsame _ hphase
  | raised => exact hsame _ hphase

omit [DecidableEq ι] in
/-- At the start nothing is issued and nothing cached. -/
theorem soundStates_start : SoundStates nonces calls (startStates clock) where
  called _ := trivial
  entry _ _ _ hentry := by cases hentry
  held _ _ hj := hj.elim
  once _ _ _ hj := hj.elim
  gone _ _ _ hj := by cases hj
  live _ _ hj := by cases hj

/-! ### One statement of a call -/

section Steps

variable {s : Sessions ι StateStore StatePhase} {elapsed : ℕ} {payload : StatePayload}
  {role nonce : String} {cached : CachedState}

theorem step_begin (h : s.phase i = .idle)
    (hnew : beginCall codec (nonces.value i) (s.store.clock + elapsed) (calls i) = new) :
    s.step (stateStatement nonces calls) (i, elapsed) =
      ⟨{ s.store with clock := s.store.clock + elapsed }, Function.update s.phase i new⟩ := by
  unfold Sessions.step stateStatement
  dsimp only
  rw [h]
  dsimp only
  rw [hnew]

theorem step_store (h : s.phase i = .storing payload) :
    s.step (stateStatement nonces calls) (i, elapsed) =
      ⟨{ clock := s.store.clock + elapsed
         cache := s.store.cache.set (stateKey codec (tokenUrlsafe payload.nonce))
          { role := payload.role.value, exp := payload.exp }
          (some (s.store.clock + elapsed + microseconds stateTtlSeconds)) },
        Function.update s.phase i (.issued payload)⟩ := by
  unfold Sessions.step stateStatement
  dsimp only
  rw [h]

end Steps

end Linkapro.Identity
