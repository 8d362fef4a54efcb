import Mathlib.Data.Fin.VecNotation
import Linkapro.Identity.OAuthStateRuns

/-!
# Identity: one acceptance for one OAuth state

The entry of a state that is looked up is read and deleted by two cache calls, so two
consuming calls that have both read it accept the state both. Apart from that, and from
texts that cannot be compared, no consuming call raises, every issued state yields what it
was issued with, and it does so once.
-/

namespace Linkapro.Identity

open Lib

variable {ι : Type} [DecidableEq ι] {codec : StateCodec} {nonces : StateNonces codec ι}
  {calls : ι → StateCall} {clock clock' : ℕ} {phase : ι → StatePhase} {i : ι} {new : StatePhase}

/-! ### The way of one consuming call -/

/-- Where a call with an issued state stands with some statements to go. -/
def stagePhase (payload : StatePayload) : ℕ → StatePhase
  | 0 => .consumed (tokenUrlsafe payload.nonce)
    (some { role := payload.role.value, nonce := tokenUrlsafe payload.nonce })
  | 1 => .found payload.role.value (tokenUrlsafe payload.nonce)
    { role := payload.role.value, exp := payload.exp }
  | 2 => .checked payload.role.value (tokenUrlsafe payload.nonce)
  | _ => .idle

/-- A call has some statements to go with the state that another call has issued, whose entry
is there while it is needed and which nobody else has read. -/
structure Ahead (nonces : StateNonces codec ι) (payload : StatePayload) (i j : ι) (togo : ℕ)
    (s : Sessions ι StateStore StatePhase) : Prop where
  few : togo ≤ 3
  issued : s.phase i = .issued payload
  nonce : payload.nonce = nonces.value i
  stage : s.phase j = stagePhase payload togo
  entry : 2 ≤ togo → ∃ deadline, s.store.cache (nonces.key i) =
    some ⟨{ role := payload.role.value, exp := payload.exp }, some deadline⟩ ∧
      microseconds payload.exp ≤ deadline
  alone : ∀ k, k ≠ j → ¬ (s.phase k).Holds codec (nonces.key i)
  /-- A state that is being stored has another nonce. -/
  apart : ∀ k payload', s.phase k = .storing payload' →
    stateKey codec (tokenUrlsafe payload'.nonce) ≠ nonces.key i

/-- The call reads the entry of a key on its turn. -/
def StatePhase.Reads (codec : StateCodec) (key : String) : StatePhase → Prop
  | .checked _ nonce => stateKey codec nonce = key
  | _ => False

/-- On this turn no other call than `j` reads the entry of a key. -/
def LeavesTo (codec : StateCodec) (key : String) (j : ι) (s : Sessions ι StateStore StatePhase)
    (turn : ι × ℕ) : Prop :=
  turn.1 ≠ j → ¬ (s.phase turn.1).Reads codec key

/-- What the calls of a run may rely on. -/
structure StatesSafe (nonces : StateNonces codec ι) (calls : ι → StateCall)
    (s : Sessions ι StateStore StatePhase) : Prop where
  /-- No consuming call raises. -/
  total : ∀ i, s.phase i ≠ .raised
  /-- A call that accepts an issued state returns what it was issued with. -/
  returned : ∀ i j payload cookieNonce nonce result, s.phase i = .issued payload →
    calls j = .consume (some (encodeSignedPayload codec payload)) cookieNonce →
    s.phase j = .consumed nonce (some result) →
    result = { role := payload.role.value, nonce := tokenUrlsafe payload.nonce }
  /-- A state is accepted once. -/
  once : ∀ j k state cookieNonce cookieNonce' nonce nonce' result result',
    calls j = .consume state cookieNonce → calls k = .consume state cookieNonce' →
    s.phase j = .consumed nonce (some result) → s.phase k = .consumed nonce' (some result') → j = k
  /-- An issued state that nobody has read is accepted, with its nonce and before its expiry,
  in every continuation in which nobody else reads its entry. -/
  accepts : ∀ i j payload turns, s.phase i = .issued payload →
    (∀ k, ¬ (s.phase k).Holds codec (nonces.key i)) → s.phase j = .idle →
    calls j = .consume (some (encodeSignedPayload codec payload))
      (some (tokenUrlsafe payload.nonce)) →
    Sessions.Always (stateStatement nonces calls) (LeavesTo codec (nonces.key i) j) s turns →
    (s.run (stateStatement nonces calls) turns).store.clock < microseconds payload.exp →
    3 ≤ turns.countP (fun turn => turn.1 = j) →
    (s.run (stateStatement nonces calls) turns).phase j =
      .consumed (tokenUrlsafe payload.nonce)
        (some { role := payload.role.value, nonce := tokenUrlsafe payload.nonce })

section Way

variable {payload : StatePayload} {j : ι} {togo elapsed : ℕ}
  {s : Sessions ι StateStore StatePhase}

/-- The clock of a statement. -/
theorem clock_step (turn : ι × ℕ) :
    (s.step (stateStatement nonces calls) turn).store.clock = s.store.clock + turn.2 := by
  change (stateStatement nonces calls s turn.1 turn.2).1.clock = _
  unfold stateStatement
  dsimp only
  split <;> rfl

/-- The clock does not go back. -/
theorem clock_le_run (turns : List (ι × ℕ)) :
    s.store.clock ≤ (s.run (stateStatement nonces calls) turns).store.clock := by
  induction turns generalizing s with
  | nil => exact le_refl _
  | cons turn turns ih =>
    calc s.store.clock
      _ ≤ s.store.clock + turn.2 := Nat.le_add_right ..
      _ = (s.step (stateStatement nonces calls) turn).store.clock := (clock_step turn).symm
      _ ≤ _ := ih

omit [DecidableEq ι] in
/-- The issuing call and the consuming call are two. -/
theorem Ahead.ne (h : Ahead nonces payload i j togo s) : i ≠ j := by
  rintro rfl
  have hstage := h.issued.symm.trans h.stage
  match togo with
  | 0 => cases hstage
  | 1 => cases hstage
  | 2 => cases hstage
  | _ + 3 => cases hstage

omit [DecidableEq ι] in
/-- Time passes. -/
theorem Ahead.tick (h : Ahead nonces payload i j togo s) :
    Ahead nonces payload i j togo ⟨{ s.store with clock }, s.phase⟩ where
  few := h.few
  issued := h.issued
  nonce := h.nonce
  stage := h.stage
  entry := h.entry
  alone := h.alone
  apart := h.apart

/-- Another call moves on and leaves the entry as it is. -/
theorem Ahead.other {k : ι} {store : StateStore} (h : Ahead nonces payload i j togo s)
    (hi : k ≠ i) (hj : k ≠ j)
    (hentry : store.cache (nonces.key i) = s.store.cache (nonces.key i))
    (hholds : ¬ new.Holds codec (nonces.key i))
    (hstoring : ∀ payload', new = .storing payload' →
      stateKey codec (tokenUrlsafe payload'.nonce) ≠ nonces.key i) :
    Ahead nonces payload i j togo ⟨store, Function.update s.phase k new⟩ where
  few := h.few
  issued := (Function.update_of_ne hi.symm ..).trans h.issued
  nonce := h.nonce
  stage := (Function.update_of_ne hj.symm ..).trans h.stage
  entry htogo := by
    rw [hentry]
    exact h.entry htogo
  alone l hl hholds' := by
    obtain ⟨_, hnew⟩ | ⟨_, hl'⟩ := phase_update hholds'
    · exact hholds hnew
    · exact h.alone l hl hl'
  apart l payload' hl := by
    obtain ⟨_, hnew⟩ | ⟨_, hl'⟩ := phase_update (P := (· = .storing payload')) hl
    · exact hstoring payload' hnew
    · exact h.apart l payload' hl'

/-- The consuming call moves on. -/
theorem Ahead.own {store : StateStore} (h : Ahead nonces payload i j (togo + 1) s)
    (hentry : 2 ≤ togo → store.cache = s.store.cache) :
    Ahead nonces payload i j togo
      ⟨store, Function.update s.phase j (stagePhase payload togo)⟩ where
  few := (Nat.le_succ _).trans h.few
  issued := (Function.update_of_ne h.ne ..).trans h.issued
  nonce := h.nonce
  stage := Function.update_self ..
  entry htogo := by
    dsimp only
    rw [hentry htogo]
    exact h.entry (htogo.trans (Nat.le_succ _))
  alone k hk hholds := by
    obtain ⟨hkj, _⟩ | ⟨_, hk'⟩ := phase_update hholds
    · exact hk hkj
    · exact h.alone k hk hk'
  apart k payload' hk := by
    obtain ⟨_, hnew⟩ | ⟨_, hk'⟩ := phase_update (P := (· = .storing payload')) hk
    · match togo with
      | 0 => cases hnew
      | 1 => cases hnew
      | 2 => cases hnew
      | _ + 3 => cases hnew
    · exact h.apart k payload' hk'

/-- Another call that does not read the entry leaves the way free. -/
theorem Ahead.step_other {k : ι} (h : Ahead nonces payload i j togo s) (hk : k ≠ j)
    (hreads : ¬ (s.phase k).Reads codec (nonces.key i)) :
    Ahead nonces payload i j togo (s.step (stateStatement nonces calls) (k, elapsed)) := by
  have hsame (phase : StatePhase) (hphase : s.phase k = phase) :
      Ahead nonces payload i j togo ⟨{ s.store with clock := s.store.clock + elapsed },
        Function.update s.phase k phase⟩ := by
    rw [← hphase, Function.update_eq_self]
    exact h.tick
  have hki (phase : StatePhase) (hphase : s.phase k = phase)
      (hne : ∀ payload', phase ≠ .issued payload') : k ≠ i := by
    rintro rfl
    exact hne payload (hphase.symm.trans h.issued)
  unfold Sessions.step stateStatement
  dsimp only
  cases hphase : s.phase k with
  | idle =>
    have hne := hki _ hphase (by rintro _ ⟨⟩)
    have hbegin :
        ¬ (beginCall codec (nonces.value k) (s.store.clock + elapsed) (calls k)).Holds codec
          (nonces.key i) ∧ ∀ payload',
          beginCall codec (nonces.value k) (s.store.clock + elapsed) (calls k) = .storing payload' →
            payload'.nonce = nonces.value k := by
      unfold beginCall
      split
      · split
        · exact ⟨id, by rintro _ ⟨⟩⟩
        · refine ⟨id, fun payload' heq => ?_⟩
          cases heq
          rfl
      · split
        · exact ⟨id, by rintro _ ⟨⟩⟩
        · exact ⟨id, by rintro _ ⟨⟩⟩
        · exact ⟨id, by rintro _ ⟨⟩⟩
    refine h.other hne hk rfl hbegin.1 fun payload' heq hkey => hne ?_
    rw [hbegin.2 payload' heq] at hkey
    exact nonces.distinct hkey
  | storing payload' =>
    have hkey := h.apart k payload' hphase
    refine h.other (hki _ hphase (by rintro _ ⟨⟩)) hk ?_ id (by rintro _ ⟨⟩)
    simp only [ExpiringMap.set, Function.update_of_ne hkey.symm]
  | checked role nonce =>
    have hkey : stateKey codec nonce ≠ nonces.key i := by
      rw [hphase] at hreads
      exact hreads
    dsimp only
    split
    · exact h.other (hki _ hphase (by rintro _ ⟨⟩)) hk rfl id (by rintro _ ⟨⟩)
    · exact h.other (hki _ hphase (by rintro _ ⟨⟩)) hk rfl hkey (by rintro _ ⟨⟩)
  | found role nonce cached =>
    have hkey : stateKey codec nonce ≠ nonces.key i := by
      have halone := h.alone k hk
      rw [hphase] at halone
      exact halone
    refine h.other (hki _ hphase (by rintro _ ⟨⟩)) hk ?_ hkey (by rintro _ ⟨⟩)
    simp only [ExpiringMap.delete, Function.update_of_ne hkey.symm]
  | issued payload' => exact hsame _ hphase
  | invalidRole => exact hsame _ hphase
  | consumed nonce result => exact hsame _ hphase
  | refused => exact hsame _ hphase
  | raised => exact hsame _ hphase

/-- The consuming call goes one statement further, in time. -/
theorem Ahead.step_own (h : Ahead nonces payload i j togo s)
    (hcall : calls j = .consume (some (encodeSignedPayload codec payload))
      (some (tokenUrlsafe payload.nonce)))
    (hnow : s.store.clock + elapsed < microseconds payload.exp) :
    Ahead nonces payload i j (togo - 1)
      (s.step (stateStatement nonces calls) (j, elapsed)) := by
  have hkey : stateKey codec (tokenUrlsafe payload.nonce) = nonces.key i := by rw [h.nonce]; rfl
  have hstage := h.stage
  unfold Sessions.step stateStatement
  dsimp only
  match togo with
  | 0 =>
    change s.phase j = .consumed _ _ at hstage
    rw [hstage]
    dsimp only
    rw [← hstage, Function.update_eq_self]
    exact h.tick
  | 1 =>
    change s.phase j = .found _ _ _ at hstage
    rw [hstage]
    dsimp only
    rw [if_pos rfl]
    exact h.own nofun
  | 2 =>
    change s.phase j = .checked _ _ at hstage
    obtain ⟨deadline, hentry, hdeadline⟩ := h.entry (le_refl 2)
    have hget : s.store.cache.get (s.store.clock + elapsed)
        (stateKey codec (tokenUrlsafe payload.nonce)) =
          some { role := payload.role.value, exp := payload.exp } := by
      rw [hkey]
      exact ExpiringMap.get_of_lt hentry (hnow.trans_le hdeadline)
    rw [hstage]
    dsimp only
    rw [hget]
    exact h.own nofun
  | 3 =>
    change s.phase j = .idle at hstage
    have hlive : intTime (s.store.clock + elapsed) ≤ payload.exp :=
      Nat.div_le_of_le_mul (by rw [Nat.mul_comm]; exact hnow.le)
    have hbegin : beginCall codec (nonces.value j) (s.store.clock + elapsed) (calls j) =
        stagePhase payload 2 := by
      rw [hcall]
      unfold beginCall
      dsimp only
      rw [checkState_issued hlive]
      rfl
    rw [hstage]
    dsimp only
    rw [hbegin]
    exact h.own fun _ => rfl
  | togo + 4 => exact absurd h.few (by omega)

/-- With enough turns in time, the consuming call accepts the state. -/
theorem Ahead.run {turns : List (ι × ℕ)} (h : Ahead nonces payload i j togo s)
    (hcall : calls j = .consume (some (encodeSignedPayload codec payload))
      (some (tokenUrlsafe payload.nonce)))
    (hturns : Sessions.Always (stateStatement nonces calls) (LeavesTo codec (nonces.key i) j) s
      turns)
    (hend : (s.run (stateStatement nonces calls) turns).store.clock < microseconds payload.exp)
    (hcount : togo ≤ turns.countP fun turn => turn.1 = j) :
    (s.run (stateStatement nonces calls) turns).phase j = stagePhase payload 0 := by
  induction turns generalizing s togo with
  | nil =>
    cases Nat.le_zero.mp hcount
    exact h.stage
  | cons turn turns ih =>
    obtain ⟨k, elapsed⟩ := turn
    have hclock : s.store.clock + elapsed ≤ ((s.step (stateStatement nonces calls) (k, elapsed)).run
        (stateStatement nonces calls) turns).store.clock :=
      (clock_step (k, elapsed)).symm.le.trans (clock_le_run turns)
    by_cases hk : k = j
    · subst hk
      refine ih (h.step_own hcall (hclock.trans_lt hend)) hturns.2 hend ?_
      rw [List.countP_cons_of_pos (by simp)] at hcount
      omega
    · refine ih (h.step_other hk (hturns.1 hk)) hturns.2 hend ?_
      rwa [List.countP_cons_of_neg (by simpa using hk)] at hcount

omit [DecidableEq ι] in
/-- The state of an issued, unread nonce lies ahead of an idle call. -/
theorem StatesSound.ahead (h : SoundStates nonces calls s) (hissued : s.phase i = .issued payload)
    (hfree : ∀ k, ¬ (s.phase k).Holds codec (nonces.key i)) (hidle : s.phase j = .idle) :
    Ahead nonces payload i j 3 s where
  few := le_refl 3
  issued := hissued
  nonce := by
    have hcalled := h.called i
    rw [hissued] at hcalled
    exact hcalled
  stage := hidle
  entry _ := (h.live i payload hissued).resolve_right fun ⟨k, hk⟩ => hfree k hk
  alone k _ := hfree k
  apart k payload' hk heq := by
    have hcalled := h.called k
    rw [hk] at hcalled
    rw [hcalled.1] at heq
    cases nonces.distinct heq
    cases hk.symm.trans hissued

end Way

/-- Sound states are safe. -/
theorem StatesSound.safe {s : Sessions ι StateStore StatePhase} (h : SoundStates nonces calls s) :
    StatesSafe nonces calls s where
  total i hi := by
    have hcalled := h.called i
    rw [hi] at hcalled
    exact hcalled
  returned i j payload cookieNonce nonce result hi hcall hj := by
    have hcalled := h.called j
    rw [hj] at hcalled
    obtain ⟨role, state, cookieNonce', now, hcall', hcheck, hresult⟩ := hcalled
    cases hcall.symm.trans hcall'
    obtain ⟨rfl, rfl⟩ := lookUp_issued hcheck
    exact hresult result rfl
  once j k state cookieNonce cookieNonce' nonce nonce' result result' hcall hcall' hj hk := by
    have hcalled := h.called j
    have hcalled' := h.called k
    rw [hj] at hcalled
    rw [hk] at hcalled'
    obtain ⟨_, _, _, _, hcallj, hcheck, _⟩ := hcalled
    obtain ⟨_, _, _, _, hcallk, hcheck', _⟩ := hcalled'
    cases hcall.symm.trans hcallj
    cases hcall'.symm.trans hcallk
    obtain ⟨_, rfl⟩ := lookUp_unique hcheck hcheck'
    refine h.once j k (stateKey codec nonce) ?_ ?_
    · rw [hj]
      rfl
    · rw [hk]
      rfl
  accepts i j payload turns hissued hfree hidle hcall hturns hend hcount :=
    (h.ahead hissued hfree hidle).run hcall hturns hend hcount

/-- In every run in which texts can be compared and no call reads an entry that another call
has read and not yet deleted, no consuming call raises, an issued state is accepted with what
it was issued with, and it is accepted once. -/
theorem states_safe {turns : List (ι × ℕ)}
    (hturns : Sessions.Always (stateStatement nonces calls) (Separately codec calls)
      (startStates clock) turns) :
    StatesSafe nonces calls ((startStates clock).run (stateStatement nonces calls) turns) :=
  StatesSound.safe (Sessions.run_keeps (I := SoundStates nonces calls)
    (fun _ _ h hturn => soundStates_step h hturn) soundStates_start hturns)

section Samples

variable (nonces : StateNonces codec (Fin 3)) (clock : ℕ)

/-- What the first of three calls issues. -/
def plannerPayload : StatePayload :=
  { role := .planner, exp := intTime clock + stateTtlSeconds, nonce := nonces.value 0 }

/-- A call presents the issued state with its nonce. -/
def presentIssued : StateCall :=
  .consume (some (encodeSignedPayload codec (plannerPayload nonces clock)))
    (some (tokenUrlsafe (nonces.value 0)))

/-- A call issues a state, and two others present it. -/
def presentedTwice : Fin 3 → StateCall := fun i =>
  if i = 0 then .issue " Planner " else presentIssued nonces clock

theorem begin_issue : beginCall codec (nonces.value 0) clock (.issue " Planner ") =
    .storing (plannerPayload nonces clock) := by
  have hrole : SignupRole.ofText? (lower (strip " Planner ")) = some .planner := by decide +kernel
  unfold beginCall
  dsimp only
  rw [hrole]
  rfl

/-- In the first microseconds the state can be compared with its nonce. -/
theorem comparable_present {now : ℕ} (h : now < clock + 600) :
    Comparable codec (some (encodeSignedPayload codec (plannerPayload nonces clock)))
      (some (tokenUrlsafe (nonces.value 0))) now ∧
    ∀ nonce, beginCall codec nonce now (presentIssued nonces clock) =
      .checked "planner" (tokenUrlsafe (nonces.value 0)) := by
  have hlive : intTime now ≤ (plannerPayload nonces clock).exp := by
    change now / 1000000 ≤ clock / 1000000 + 600
    omega
  have hcheck : checkState codec (some (encodeSignedPayload codec (plannerPayload nonces clock)))
      (some (tokenUrlsafe (nonces.value 0))) now =
        .lookUp "planner" (tokenUrlsafe (nonces.value 0)) := checkState_issued hlive
  constructor
  · rw [← checkState_ne_raised_iff, hcheck]
    exact nofun
  · intro nonce
    unfold beginCall presentIssued
    dsimp only
    rw [hcheck]

/-- The entry of the issued state. -/
def issuedEntry : ExpiringMap String CachedState ℕ :=
  ExpiringMap.set (fun _ => none) (stateKey codec (tokenUrlsafe (nonces.value 0)))
    { role := "planner", exp := (plannerPayload nonces clock).exp }
    (some (clock + 5 + microseconds stateTtlSeconds))

/-- What the two other calls present. -/
def issuedNonce : String := tokenUrlsafe (nonces.value 0)

/-- The three calls some microseconds after the start, once the state is issued. -/
def afterIssue (elapsed : ℕ) (cache : ExpiringMap String CachedState ℕ)
    (others : Fin 3 → StatePhase) : Sessions (Fin 3) StateStore StatePhase :=
  ⟨{ clock := clock + elapsed, cache },
    Function.update others 0 (.issued (plannerPayload nonces clock))⟩

/-- The first statement of the issuing call. -/
theorem step_storing :
    (startStates clock).step (stateStatement nonces (presentedTwice nonces clock)) (0, 0) =
      ⟨{ clock, cache := fun _ => none },
        Function.update (fun _ => .idle) 0 (.storing (plannerPayload nonces clock))⟩ := by
  have hbegin : beginCall codec (nonces.value 0) (clock + 0) (presentedTwice nonces clock 0) =
      .storing (plannerPayload nonces clock) := by
    rw [Nat.add_zero, presentedTwice, if_pos rfl]
    exact begin_issue nonces clock
  exact step_begin rfl hbegin

/-- A state is issued within five microseconds. -/
theorem step_issue :
    ((startStates clock).step (stateStatement nonces (presentedTwice nonces clock)) (0, 0)).step
      (stateStatement nonces (presentedTwice nonces clock)) (0, 5) =
        afterIssue nonces clock 5 (issuedEntry nonces clock) fun _ => .idle := by
  have hsecond : Sessions.step (stateStatement nonces (presentedTwice nonces clock))
      ⟨{ clock, cache := fun _ => none },
        Function.update (fun _ => .idle) 0 (.storing (plannerPayload nonces clock))⟩ (0, 5) = _ :=
    step_store rfl
  rw [step_storing, hsecond, Function.update_idem]
  rfl

section Turns

variable {nonces} {clock} {elapsed more : ℕ} {cache cache' : ExpiringMap String CachedState ℕ}
  {others : Fin 3 → StatePhase} {i : Fin 3} {new : StatePhase} {cached : CachedState}

/-- One of the other calls moves on. -/
theorem step_after (hi : i ≠ 0)
    (h : stateStatement nonces (presentedTwice nonces clock)
      (afterIssue nonces clock elapsed cache others) i more =
        ({ clock := clock + elapsed + more, cache := cache' }, new)) :
    (afterIssue nonces clock elapsed cache others).step
      (stateStatement nonces (presentedTwice nonces clock)) (i, more) =
        afterIssue nonces clock (elapsed + more) cache' (Function.update others i new) := by
  unfold Sessions.step
  dsimp only
  rw [h]
  unfold afterIssue
  rw [Function.update_comm hi.symm, Nat.add_assoc]

theorem phase_after (hi : i ≠ 0) :
    (afterIssue nonces clock elapsed cache others).phase i = others i :=
  Function.update_of_ne hi ..

theorem presentedTwice_of_ne (hi : i ≠ 0) :
    presentedTwice nonces clock i = presentIssued nonces clock := if_neg hi

theorem after_begin (hi : i ≠ 0) (hothers : others i = .idle) (htime : elapsed + more < 600) :
    (afterIssue nonces clock elapsed cache others).step
      (stateStatement nonces (presentedTwice nonces clock)) (i, more) =
        afterIssue nonces clock (elapsed + more) cache
          (Function.update others i (.checked "planner" (issuedNonce nonces))) := by
  have hnow : clock + elapsed + more < clock + 600 := by omega
  have hbegin := (comparable_present nonces clock hnow).2 (nonces.value i)
  refine step_after hi ?_
  unfold stateStatement
  dsimp only
  rw [phase_after hi, hothers, presentedTwice_of_ne hi]
  dsimp only
  exact congrArg (Prod.mk _) hbegin

theorem after_find (hi : i ≠ 0) (hothers : others i = .checked "planner" (issuedNonce nonces))
    (htime : elapsed + more < 600) :
    (afterIssue nonces clock elapsed (issuedEntry nonces clock) others).step
      (stateStatement nonces (presentedTwice nonces clock)) (i, more) =
        afterIssue nonces clock (elapsed + more) (issuedEntry nonces clock)
          (Function.update others i (.found "planner" (issuedNonce nonces)
            { role := "planner", exp := (plannerPayload nonces clock).exp })) := by
  have hget : (issuedEntry nonces clock).get (clock + elapsed + more)
      (stateKey codec (issuedNonce nonces)) =
        some { role := "planner", exp := (plannerPayload nonces clock).exp } := by
    unfold issuedEntry issuedNonce
    rw [ExpiringMap.get_set_self, if_pos]
    change clock + elapsed + more < clock + 5 + 600 * 1000000
    omega
  refine step_after hi ?_
  unfold stateStatement
  dsimp only
  rw [phase_after hi, hothers]
  dsimp only
  refine congrArg (Prod.mk _) ?_
  split
  · next hnone => cases hget.symm.trans hnone
  · next cached hcached =>
    cases hget.symm.trans hcached
    rfl

theorem after_delete (hi : i ≠ 0)
    (hothers : others i = .found "planner" (issuedNonce nonces)
      { role := "planner", exp := (plannerPayload nonces clock).exp }) :
    (afterIssue nonces clock elapsed cache others).step
      (stateStatement nonces (presentedTwice nonces clock)) (i, more) =
        afterIssue nonces clock (elapsed + more)
          (cache.delete (stateKey codec (issuedNonce nonces)))
          (Function.update others i (.consumed (issuedNonce nonces)
            (some { role := "planner", nonce := issuedNonce nonces }))) := by
  refine step_after hi ?_
  unfold stateStatement
  dsimp only
  rw [phase_after hi, hothers]
  rfl

end Turns

/-- The second call presents the state after the first has consumed it. -/
theorem presented_in_turn :
    Sessions.Always (stateStatement nonces (presentedTwice nonces clock))
      (Separately codec (presentedTwice nonces clock)) (startStates clock)
      [(0, 0), (0, 5), (1, 0), (1, 5), (1, 5), (2, 0), (2, 5)] := by
  have hcompare (elapsed : ℕ) (h : elapsed < 600) :=
    (comparable_present nonces clock (Nat.add_lt_add_left h clock)).1
  refine ⟨trivial, ?_, ?_⟩
  · rw [step_storing]
    trivial
  rw [step_issue]
  refine ⟨hcompare 5 (by decide), ?_⟩
  rw [after_begin (by decide) rfl (by decide)]
  refine ⟨fun _ j => ?_, ?_⟩
  · match j with
    | 0 => exact id
    | 1 => exact id
    | 2 => exact id
  rw [after_find (by decide) rfl (by decide)]
  refine ⟨trivial, ?_⟩
  rw [after_delete (by decide) rfl]
  refine ⟨hcompare 15 (by decide), ?_⟩
  rw [after_begin (by decide) rfl (by decide)]
  refine ⟨fun hlive => ?_, trivial⟩
  have hget : (((issuedEntry nonces clock).delete (stateKey codec (issuedNonce nonces))).get _
      (stateKey codec (issuedNonce nonces))).isSome = true := hlive
  rw [ExpiringMap.get_delete_self] at hget
  cases hget

/-- Two calls that read the entry of a state before either deletes it accept it both. -/
theorem presented_at_once {i : Fin 3} (hi : i = 1 ∨ i = 2) :
    ((startStates clock).run (stateStatement nonces (presentedTwice nonces clock))
      [(0, 0), (0, 5), (1, 0), (2, 0), (1, 5), (2, 5), (1, 5), (2, 5)]).phase i =
        .consumed (issuedNonce nonces)
          (some { role := "planner", nonce := issuedNonce nonces }) := by
  simp only [Sessions.run_cons, Sessions.run_nil]
  rw [step_issue, after_begin (by decide) rfl (by decide), after_begin (by decide) rfl (by decide),
    after_find (by decide) rfl (by decide), after_find (by decide) rfl (by decide),
    after_delete (by decide) rfl, after_delete (by decide) rfl]
  rcases hi with rfl | rfl
  · rfl
  · rfl

end Samples

/-- The digests of three nonces. -/
def sampleDigests : Fin 3 → String :=
  !["8147fa62ac1b92e2bbf4910a8c600702594e137d014632c0c97e45272ee7daad",
    "f728a95c27d8e0473d878ac6b3253ae9b743ef4e4713d0c8ddec08d982ba948d",
    "860d916368f0b617b8800d2c7169f5658995295471f8feabe635c97dbeab7fba"]

/-- Digests of concrete texts, which differ in their first characters. -/
def sampleHexdigest (text : String) : String :=
  match text.toList.take 2 with
  | ['A', 'A'] => sampleDigests 0
  | ['A', 'Q'] => sampleDigests 1
  | ['A', 'g'] => sampleDigests 2
  | ['e', 'y'] => "b48b72784736286fcc8d6f8b3702271691206923ab3a2d605e769d7a20d857ed"
  | _ => "4048c44911916043ff626895ff78c5262764685b6cb9a03ce07886a9effb924c"

/-- A codec for concrete states. -/
def sampleCodec : StateCodec where
  hexdigest := sampleHexdigest
  loads := readDumped
  hexdigest_digits text := by
    unfold sampleHexdigest
    split <;> exact List.all_iff_forall_prop.mp (by decide +kernel)
  loads_dumps _ := readDumped_dumps

/-- The random bytes of three nonces. -/
def sampleBytes (i : Fin 3) : NonceBytes :=
  ⟨List.replicate 32 i.val, List.length_replicate, fun byte hmem => by
    rw [List.eq_of_mem_replicate hmem]
    omega⟩

/-- The digest of a nonce. -/
theorem sampleHexdigest_bytes (i : Fin 3) :
    sampleHexdigest (tokenUrlsafe (sampleBytes i)) = sampleDigests i := by
  unfold sampleHexdigest tokenUrlsafe
  rw [String.toList_ofList]
  match i with
  | 0 => rfl
  | 1 => rfl
  | 2 => rfl

/-- Three nonces. -/
def sampleNonces : StateNonces sampleCodec (Fin 3) where
  value := sampleBytes
  distinct i j h := by
    have hall : ∀ i j : Fin 3, sampleDigests i = sampleDigests j → i = j := by decide +kernel
    have hdigest : sampleHexdigest (tokenUrlsafe (sampleBytes i)) =
        sampleHexdigest (tokenUrlsafe (sampleBytes j)) := (String.append_right_inj _).mp h
    rw [sampleHexdigest_bytes, sampleHexdigest_bytes] at hdigest
    exact hall i j hdigest

/-- One call presents a state whose signature is not ASCII. -/
def presentedBeyondAscii : Fin 3 → StateCall :=
  fun _ => .consume (some "a.é") (some "nonce")

theorem states_safe_sample :
    StatesSafe sampleNonces (presentedTwice sampleNonces 1700000000000000)
      ((startStates 1700000000000000).run
        (stateStatement sampleNonces (presentedTwice sampleNonces 1700000000000000))
          [(0, 0), (0, 5), (1, 0), (1, 5), (1, 5), (2, 0), (2, 5)]) :=
  states_safe (presented_in_turn sampleNonces 1700000000000000)

/-- A state whose signature is not ASCII makes a call raise, and a state that two calls read
before either deletes its entry is accepted twice. -/
theorem states_unsafe :
    ¬ StatesSafe sampleNonces presentedBeyondAscii ((startStates 1700000000000000).run
      (stateStatement sampleNonces presentedBeyondAscii) [(0, 0)]) ∧
    ¬ StatesSafe sampleNonces (presentedTwice sampleNonces 1700000000000000)
      ((startStates 1700000000000000).run
        (stateStatement sampleNonces (presentedTwice sampleNonces 1700000000000000))
          [(0, 0), (0, 5), (1, 0), (2, 0), (1, 5), (2, 5), (1, 5), (2, 5)]) := by
  constructor
  · have hraised : ((startStates 1700000000000000).run
        (stateStatement sampleNonces presentedBeyondAscii) [(0, 0)]).phase 0 = .raised := by
      decide +kernel
    exact fun h => h.total 0 hraised
  · intro h
    have hsame : (1 : Fin 3) = 2 :=
      h.once 1 2 _ _ _ _ _ _ _ rfl rfl
        (presented_at_once sampleNonces 1700000000000000 (.inl rfl))
        (presented_at_once sampleNonces 1700000000000000 (.inr rfl))
    exact absurd hsame (by decide)

end Linkapro.Identity
