import Mathlib.Data.Fintype.Basic
import Linkapro.Identity.LockoutHistory
import Linkapro.Lib.Sessions

/-!
# Identity: parallel password logins

A password login asks whether the account is locked, checks the password and then records its
failure. The failures and the lock are read and written in separate operations of the cache, so
that a login which begins before another one has recorded its failure does not see it.
-/

namespace Linkapro.Identity

open Lib

/-! ### Logins -/

/-- The cache that the logins of one account share. -/
structure SharedAttempts where
  clock : Datetime
  cache : AttemptCache
  /-- When passwords of the account were checked since it was last locked, newest first. The
  cache does not hold it. -/
  checked : List Datetime

/-- What a failing login comes to. -/
inductive LoginFailure : Type where
  /-- The password is checked and wrong. -/
  | passwordMismatch
  /-- The user or the role is missing: recorded without a check. -/
  | unchecked
  /-- The account is inactive or has no password: neither checked nor recorded. -/
  | refused
deriving DecidableEq

/-- How far a password login is. -/
inductive LoginPhase : Type where
  | idle
  /-- `is_locked` has read the clock. -/
  | asking (now : Datetime)
  /-- `is_locked` has read the failures. -/
  | askingLock (now : Datetime) (times : List Datetime)
  /-- The account is not locked. -/
  | verifying
  /-- About to record the failure. -/
  | failed
  /-- `record_failure` has read the clock. -/
  | recording (now : Datetime)
  /-- `record_failure` has read the failures. -/
  | recordingLock (now : Datetime) (times : List Datetime)
  /-- About to write the failures. -/
  | savingAttempts (now : Datetime) (counter : FailedAttemptCounter)
  /-- About to write the lock. -/
  | savingLock (now lockedUntil : Datetime)
  | done (locked : Bool)

/-- What the code does not choose at a step of a login. -/
structure LoginChoice where
  /-- Microseconds since the previous step. -/
  elapsed : ℕ
  failure : LoginFailure

/-- The failing password logins of one account. -/
abbrev ParallelLogins (ι : Type) : Type := Sessions ι SharedAttempts LoginPhase

namespace SharedAttempts

/-- Time passes. -/
def wait (shared : SharedAttempts) (elapsed : ℕ) : SharedAttempts :=
  { shared with clock := shared.clock + elapsed }

/-- The failures that are read now. -/
def times (shared : SharedAttempts) (email : Email) : List Datetime :=
  shared.cache.loadAttemptTimes shared.clock email.value

/-- The counter with the failures that have been read and the lock that is read now. -/
def counter (shared : SharedAttempts) (email : Email) (times : List Datetime) :
    FailedAttemptCounter :=
  .loaded times (shared.cache.locks.get shared.clock email.value)

/-- The write of the lock. It locks the account if it lasts beyond the instant of the decision. -/
def lock (shared : SharedAttempts) (config : AccountLockoutConfig) (email : Email)
    (now lockedUntil : Datetime) : SharedAttempts :=
  { shared with
    cache := shared.cache.setLock config email.value (some lockedUntil) shared.clock
    checked := if now < lockedUntil then [] else shared.checked }

end SharedAttempts

/-- One step of `LoginWithPasswordUseCase.execute`. -/
def loginStep (config : AccountLockoutConfig) (email : Email) (failure : LoginFailure)
    (shared : SharedAttempts) : LoginPhase → SharedAttempts × LoginPhase
  | .idle => (shared, .asking shared.clock)
  | .asking now => (shared, .askingLock now (shared.times email))
  | .askingLock now times =>
    (shared,
      if (evaluate config (shared.counter email times) now).locked then .done true else .verifying)
  | .verifying =>
    match failure with
    | .passwordMismatch => ({ shared with checked := shared.clock :: shared.checked }, .failed)
    | .unchecked => (shared, .failed)
    | .refused => (shared, .done false)
  | .failed => (shared, .recording shared.clock)
  | .recording now => (shared, .recordingLock now (shared.times email))
  | .recordingLock now times =>
    (shared, .savingAttempts now (countFailure config (shared.counter email times) now))
  | .savingAttempts now counter =>
    ({ shared with
        cache := shared.cache.setAttempts config email.value counter.times shared.clock },
      match counter.lockedUntil with
      | some lockedUntil => .savingLock now lockedUntil
      | none => .done false)
  | .savingLock now lockedUntil =>
    (shared.lock config email now lockedUntil, .done (now < lockedUntil))
  | .done locked => (shared, .done locked)

/-- The turn of a login. -/
def loginTurn {ι : Type} (config : AccountLockoutConfig) (email : Email) :
    Statement ι SharedAttempts LoginPhase LoginChoice := fun s i choice =>
  loginStep config email choice.failure (s.store.wait choice.elapsed) (s.phase i)

namespace LoginPhase

def isIdle : LoginPhase → Bool
  | idle => true
  | _ => false

/-- The login has begun and is not over. -/
def inProgress : LoginPhase → Bool
  | idle | done _ => false
  | _ => true

end LoginPhase

/-- A login that begins finds no other login in progress. -/
def BeginsAlone {ι : Type} (s : ParallelLogins ι) (turn : ι × LoginChoice) : Prop :=
  (s.phase turn.1).isIdle = true → ∀ j, (s.phase j).inProgress = false

instance {ι : Type} [Fintype ι] (s : ParallelLogins ι) (turn : ι × LoginChoice) :
    Decidable (BeginsAlone s turn) :=
  inferInstanceAs (Decidable (_ → ∀ _, _))

/-- No observation window holds more checks of a password since the account was last locked than
the configuration allows. -/
def ChecksLimited (config : AccountLockoutConfig) (shared : SharedAttempts) : Prop :=
  ∀ first, ((shared.checked.filter fun instant =>
    first ≤ instant ∧ instant < first + config.observationWindow).length : ℤ) ≤ config.maxFailures

/-- No login has begun. -/
def noLogins (ι : Type) (clock : Datetime) (cache : AttemptCache) : ParallelLogins ι where
  store := { clock, cache, checked := [] }
  phase := fun _ => .idle

/-! ### Failures in the cache -/

/-- How many of the instants are not before the first one. -/
def countSince (instants : List Datetime) (first : Datetime) : ℕ :=
  (instants.filter (first ≤ ·)).length

section Counts

variable {config : AccountLockoutConfig} {email : Email} {shared : SharedAttempts}
  {instants : List Datetime} {first now instant : Datetime}

theorem countSince_cons :
    countSince (instant :: instants) first =
      (if first ≤ instant then 1 else 0) + countSince instants first := by
  unfold countSince
  by_cases h : first ≤ instant
  · rw [List.filter_cons_of_pos (by simpa using h), List.length_cons, if_pos h, Nat.add_comm]
  · rw [List.filter_cons_of_neg (by simpa using h), if_neg h, Nat.zero_add]

theorem countSince_append {instants' : List Datetime} :
    countSince (instants ++ instants') first =
      countSince instants first + countSince instants' first := by
  unfold countSince
  rw [List.filter_append, List.length_append]

theorem countSince_le_length : countSince instants first ≤ instants.length :=
  List.length_filter_le _ _

/-- Instants before the first one do not count. -/
theorem countSince_filter (h : now ≤ first) :
    countSince (instants.filter (now ≤ ·)) first = countSince instants first := by
  unfold countSince
  rw [List.filter_filter]
  congr 1
  refine List.filter_congr fun instant _ => ?_
  by_cases hfirst : first ≤ instant
  · simp [hfirst, h.trans hfirst]
  · simp [hfirst]

theorem exists_of_countSince_pos (h : 0 < countSince instants first) :
    ∃ instant ∈ instants, first ≤ instant := by
  obtain ⟨instant, hmem⟩ := List.exists_mem_of_length_pos h
  obtain ⟨hinstant, hfirst⟩ := List.mem_filter.mp hmem
  exact ⟨instant, hinstant, of_decide_eq_true hfirst⟩

/-- The cache holds a failure for each of the instants of a window that is still open, and they
are not enough for a lock. -/
structure FailuresKept (config : AccountLockoutConfig) (email : Email) (shared : SharedAttempts)
    (instants : List Datetime) : Prop where
  kept : ∀ first, shared.clock < first + config.observationWindow →
    0 < countSince instants first → ∃ times deadline,
      shared.cache.attempts email.value = some ⟨times, some deadline⟩ ∧
        first + config.observationWindow ≤ deadline ∧
          countSince instants first ≤ countSince times first
  few : ∀ first, shared.clock < first + config.observationWindow →
    (countSince instants first : ℤ) < config.maxFailures

/-- The failures that are read now are those of the instants of an open window. -/
theorem FailuresKept.le_times (h : FailuresKept config email shared instants)
    (hopen : shared.clock < first + config.observationWindow) :
    countSince instants first ≤ countSince (shared.times email) first := by
  rcases Nat.eq_zero_or_pos (countSince instants first) with hzero | hpos
  · rw [hzero]
    exact Nat.zero_le _
  · obtain ⟨times, deadline, hentry, hdeadline, hle⟩ := h.kept first hopen hpos
    have hread : shared.times email = times := by
      rw [SharedAttempts.times, AttemptCache.loadAttemptTimes,
        ExpiringMap.get_of_lt hentry (lt_of_lt_of_le hopen hdeadline), Option.getD_some]
    rw [hread]
    exact hle

end Counts

/-! ### What a login keeps while it is alone -/

/-- The checks are those of the cached failures and at most one that is not yet recorded. -/
def OneUnrecorded (checked instants : List Datetime) (now : Datetime) : Prop :=
  checked = instants ∨ ∃ instant, checked = instant :: instants ∧ instant ≤ now

/-- The failures that a login is about to write stand for all checks of an open window, and they
are not enough for a lock. -/
def Covered (config : AccountLockoutConfig) (shared : SharedAttempts) (times : List Datetime) :
    Prop :=
  ∀ first, shared.clock < first + config.observationWindow →
    countSince shared.checked first ≤ countSince times first ∧
      (countSince shared.checked first : ℤ) < config.maxFailures

/-- What holds of the cache in each phase of the login that is in progress. -/
def PhaseKept (config : AccountLockoutConfig) (email : Email) (shared : SharedAttempts) :
    LoginPhase → Prop
  | .failed => ∃ instants, OneUnrecorded shared.checked instants shared.clock ∧
      FailuresKept config email shared instants
  | .recording now => now ≤ shared.clock ∧ ∃ instants, OneUnrecorded shared.checked instants now ∧
      FailuresKept config email shared instants
  | .recordingLock now times => now ≤ shared.clock ∧
      ∀ first, shared.clock < first + config.observationWindow →
        countSince shared.checked first ≤ countSince (times ++ [now]) first
  | .savingAttempts now counter =>
      counter.lockedUntil.any (now < ·) = true ∨ Covered config shared counter.times
  | .savingLock now lockedUntil =>
      now < lockedUntil ∨ FailuresKept config email shared shared.checked
  | _ => FailuresKept config email shared shared.checked

/-- The checks are not in the future, and their limit is kept. -/
structure ChecksKept (config : AccountLockoutConfig) (shared : SharedAttempts) : Prop where
  past : ∀ instant ∈ shared.checked, instant ≤ shared.clock
  limited : ChecksLimited config shared

section Phases

variable {config : AccountLockoutConfig} {email : Email} {shared : SharedAttempts}
  {instants : List Datetime} {phase : LoginPhase} {now : Datetime}

theorem le_clock_wait (elapsed : ℕ) : shared.clock ≤ (shared.wait elapsed).clock :=
  Int.le_add_of_nonneg_right (Int.natCast_nonneg elapsed)

theorem FailuresKept.wait (h : FailuresKept config email shared instants) (elapsed : ℕ) :
    FailuresKept config email (shared.wait elapsed) instants where
  kept first hopen := h.kept first (lt_of_le_of_lt (le_clock_wait elapsed) hopen)
  few first hopen := h.few first (lt_of_le_of_lt (le_clock_wait elapsed) hopen)

theorem OneUnrecorded.le {later : Datetime} {checked : List Datetime}
    (h : OneUnrecorded checked instants now) (hlater : now ≤ later) :
    OneUnrecorded checked instants later := by
  rcases h with hsame | ⟨instant, heq, hle⟩
  · exact Or.inl hsame
  · exact Or.inr ⟨instant, heq, hle.trans hlater⟩

/-- What a phase keeps outlasts the time until its next step. -/
theorem PhaseKept.wait (h : PhaseKept config email shared phase) (elapsed : ℕ) :
    PhaseKept config email (shared.wait elapsed) phase := by
  have hclock : shared.clock ≤ (shared.wait elapsed).clock := le_clock_wait elapsed
  cases phase with
  | failed =>
    obtain ⟨instants, hpending, hcounted⟩ := h
    exact ⟨instants, hpending.le hclock, hcounted.wait elapsed⟩
  | recording now =>
    obtain ⟨hnow, instants, hpending, hcounted⟩ := h
    exact ⟨hnow.trans hclock, instants, hpending, hcounted.wait elapsed⟩
  | recordingLock now times =>
    exact ⟨h.1.trans hclock, fun first hopen => h.2 first (lt_of_le_of_lt hclock hopen)⟩
  | savingAttempts now counter =>
    exact h.imp_right fun hcovered first hopen => hcovered first (lt_of_le_of_lt hclock hopen)
  | savingLock now lockedUntil => exact h.imp_right fun hcounted => hcounted.wait elapsed
  | idle | asking now | askingLock now times | verifying | done locked =>
    exact FailuresKept.wait h elapsed

theorem ChecksKept.wait (h : ChecksKept config shared) (elapsed : ℕ) :
    ChecksKept config (shared.wait elapsed) where
  past instant hmem := (h.past instant hmem).trans (le_clock_wait elapsed)
  limited := h.limited

/-- Without checks nothing is counted. -/
theorem counted_nil (shared : SharedAttempts) : FailuresKept config email shared [] where
  kept _ _ hpos := absurd hpos (Nat.lt_irrefl 0)
  few _ _ := config.maxFailures_pos

/-- The checks of an open window are the checks since its beginning. -/
theorem limited_of_counted_cons (h : ChecksKept config shared)
    (hcounted : FailuresKept config email shared shared.checked) :
    ChecksKept config { shared with checked := shared.clock :: shared.checked } where
  past := List.forall_mem_cons.mpr ⟨le_rfl, h.past⟩
  limited first := by
    change (((shared.clock :: shared.checked).filter fun instant =>
      first ≤ instant ∧ instant < first + config.observationWindow).length : ℤ) ≤
        config.maxFailures
    by_cases hopen : first ≤ shared.clock ∧ shared.clock < first + config.observationWindow
    · have hfew := hcounted.few first hopen.2
      have hle : (shared.checked.filter fun instant =>
          first ≤ instant ∧ instant < first + config.observationWindow).length ≤
            countSince shared.checked first :=
        (List.monotone_filter_right _ fun instant hin => by
          simpa using (of_decide_eq_true hin).1).length_le
      rw [List.filter_cons_of_pos (by simpa using hopen), List.length_cons]
      omega
    · rw [List.filter_cons_of_neg (by simpa using hopen)]
      exact h.limited first

/-- Failures that cover the checks are written. -/
theorem counted_setAttempts {times : List Datetime} (h : ChecksKept config shared)
    (hcovered : Covered config shared times) :
    FailuresKept config email { shared with
      cache := shared.cache.setAttempts config email.value times shared.clock }
      shared.checked where
  kept first hopen hpos := by
    obtain ⟨instant, hmem, hfirst⟩ := exists_of_countSince_pos hpos
    refine ⟨times, _, AttemptCache.attempts_setAttempts, ?_, (hcovered first hopen).1⟩
    exact Int.add_le_add_right (hfirst.trans (h.past instant hmem)) _
  few first hopen := (hcovered first hopen).2

/-- The failure of the login joins those that have been read. -/
theorem covered_countFailure {times : List Datetime} (hnow : now ≤ shared.clock)
    (h : ∀ first, shared.clock < first + config.observationWindow →
      countSince shared.checked first ≤ countSince (times ++ [now]) first) :
    (countFailure config (shared.counter email times) now).lockedUntil.any (now < ·) = true ∨
      Covered config shared (countFailure config (shared.counter email times) now).times := by
  cases hlocked : (evaluate config (shared.counter email times) now).locked with
  | true =>
    have hsame : countFailure config (shared.counter email times) now =
        shared.counter email times := if_pos hlocked
    rw [hsame]
    exact .inl (locked_evaluate ▸ hlocked)
  | false =>
    obtain ⟨htimes, hlock⟩ := countFailure_of_unlocked hlocked
    rw [SharedAttempts.counter, times_loaded] at htimes hlock
    rw [SharedAttempts.counter, hlock]
    split
    · refine .inl (decide_eq_true ?_)
      exact Int.lt_add_of_pos_right _ (Int.mul_pos config.lockDurationSeconds_pos (by decide))
    · next hfew =>
      refine .inr fun first hopen => ?_
      have hobserved : now - config.observationWindow ≤ first := by
        have : now < first + config.observationWindow := lt_of_le_of_lt hnow hopen
        exact Int.sub_right_le_of_le_add this.le
      have hcount : countSince shared.checked first ≤
          countSince (times.filter (now - config.observationWindow ≤ ·) ++ [now]) first := by
        rw [countSince_append, countSince_filter hobserved, ← countSince_append]
        exact h first hopen
      rw [htimes]
      refine ⟨hcount, ?_⟩
      have hlength := hcount.trans countSince_le_length
      omega

/-- A step of a login that is alone keeps what its phase says. -/
theorem loginStep_keeps (failure : LoginFailure) (hlimited : ChecksKept config shared)
    (h : PhaseKept config email shared phase) :
    ChecksKept config (loginStep config email failure shared phase).1 ∧
      PhaseKept config email (loginStep config email failure shared phase).1
        (loginStep config email failure shared phase).2 := by
  cases phase with
  | idle => exact ⟨hlimited, h⟩
  | asking now => exact ⟨hlimited, h⟩
  | askingLock now times =>
    refine ⟨hlimited, ?_⟩
    simp only [loginStep]
    split
    · exact h
    · exact h
  | verifying =>
    cases failure with
    | passwordMismatch =>
      exact ⟨limited_of_counted_cons hlimited h, shared.checked, .inr ⟨_, rfl, le_rfl⟩,
        h.kept, h.few⟩
    | unchecked => exact ⟨hlimited, shared.checked, .inl rfl, h⟩
    | refused => exact ⟨hlimited, h⟩
  | failed =>
    obtain ⟨instants, hpending, hcounted⟩ := h
    exact ⟨hlimited, le_rfl, instants, hpending, hcounted⟩
  | recording now =>
    obtain ⟨hnow, instants, hpending, hcounted⟩ := h
    refine ⟨hlimited, hnow, fun first hopen => ?_⟩
    have hle := hcounted.le_times hopen
    change countSince shared.checked first ≤ countSince (shared.times email ++ [now]) first
    rw [countSince_append]
    rcases hpending with heq | ⟨instant, heq, hinstant⟩
    · rw [heq]
      exact hle.trans (Nat.le_add_right _ _)
    · rw [heq, countSince_cons, countSince_cons]
      by_cases hfirst : first ≤ instant
      · rw [if_pos hfirst, if_pos (hfirst.trans hinstant)]
        omega
      · rw [if_neg hfirst]
        omega
  | recordingLock now times => exact ⟨hlimited, covered_countFailure h.1 h.2⟩
  | savingAttempts now counter =>
    have hafter : ChecksKept config { shared with
        cache := shared.cache.setAttempts config email.value counter.times shared.clock } :=
      ⟨hlimited.past, hlimited.limited⟩
    refine ⟨hafter, ?_⟩
    simp only [loginStep]
    cases hlock : counter.lockedUntil with
    | none =>
      have hcovered : Covered config shared counter.times :=
        h.resolve_left fun hany => by rw [hlock] at hany; cases hany
      exact counted_setAttempts hlimited hcovered
    | some lockedUntil =>
      refine h.imp (fun hany => ?_) (counted_setAttempts hlimited)
      rw [hlock] at hany
      exact of_decide_eq_true hany
  | savingLock now lockedUntil =>
    simp only [loginStep, SharedAttempts.lock]
    split
    · exact ⟨⟨List.forall_mem_nil _, fun _ => config.maxFailures_pos.le⟩, counted_nil _⟩
    · next hover =>
      have hcounted := h.resolve_left hover
      exact ⟨⟨hlimited.past, hlimited.limited⟩, by simpa using hcounted.kept, hcounted.few⟩
  | done locked => exact ⟨hlimited, h⟩

end Phases

/-! ### Runs of logins that do not overlap -/

variable {ι : Type} [DecidableEq ι] {config : AccountLockoutConfig} {email : Email}

/-- At most one login is in progress, and what its phase says holds. -/
structure OneAtATime (config : AccountLockoutConfig) (email : Email) (s : ParallelLogins ι) :
    Prop where
  limited : ChecksKept config s.store
  quiet : (∀ i, (s.phase i).inProgress = false) → FailuresKept config email s.store s.store.checked
  alone : ∀ i, (s.phase i).inProgress = true →
    PhaseKept config email s.store (s.phase i) ∧ ∀ j, j ≠ i → (s.phase j).inProgress = false

/-- Over or not begun, a login says that the failures are counted. -/
theorem counted_of_phaseKept {shared : SharedAttempts} {phase : LoginPhase}
    (h : PhaseKept config email shared phase) (hphase : phase.inProgress = false) :
    FailuresKept config email shared shared.checked := by
  cases phase with
  | idle => exact h
  | done locked => exact h
  | _ => cases hphase

omit [DecidableEq ι] in
/-- The login that takes a turn is the only one in progress, or there is none. -/
theorem OneAtATime.turn {s : ParallelLogins ι} {i : ι} {choice : LoginChoice}
    (h : OneAtATime config email s) (halone : BeginsAlone s (i, choice))
    (hdone : ∀ locked, s.phase i ≠ .done locked) :
    PhaseKept config email s.store (s.phase i) ∧ ∀ j, j ≠ i → (s.phase j).inProgress = false := by
  cases hphase : s.phase i with
  | idle =>
    have hquiet := halone (by rw [hphase]; rfl)
    exact ⟨h.quiet hquiet, fun j _ => hquiet j⟩
  | done locked => exact absurd hphase (hdone locked)
  | _ =>
    have hprogress := h.alone i (by rw [hphase]; rfl)
    rwa [hphase] at hprogress

omit [DecidableEq ι] in
/-- A turn of a login that is over only lets time pass. -/
theorem OneAtATime.wait {s : ParallelLogins ι} (h : OneAtATime config email s) (elapsed : ℕ) :
    OneAtATime config email { s with store := s.store.wait elapsed } where
  limited := h.limited.wait elapsed
  quiet hquiet := (h.quiet hquiet).wait elapsed
  alone i hprogress :=
    ⟨(h.alone i hprogress).1.wait elapsed, (h.alone i hprogress).2⟩

theorem OneAtATime.step {s : ParallelLogins ι} {turn : ι × LoginChoice}
    (h : OneAtATime config email s) (halone : BeginsAlone s turn) :
    OneAtATime config email (s.step (loginTurn config email) turn) := by
  obtain ⟨i, choice⟩ := turn
  by_cases hdone : ∃ locked, s.phase i = .done locked
  · obtain ⟨locked, hphase⟩ := hdone
    have hsame : s.step (loginTurn config email) (i, choice) =
        { s with store := s.store.wait choice.elapsed } := by
      simp only [Sessions.step, loginTurn, hphase, loginStep]
      rw [← hphase, Function.update_eq_self]
    rw [hsame]
    exact h.wait choice.elapsed
  · obtain ⟨hkept, hothers⟩ := h.turn halone (not_exists.mp hdone)
    obtain ⟨hlimited, hnext⟩ := loginStep_keeps choice.failure (h.limited.wait choice.elapsed)
      (hkept.wait choice.elapsed)
    refine ⟨hlimited, fun hquiet => ?_, fun j hprogress => ?_⟩
    · have hover := hquiet i
      rw [Sessions.step_phase_self] at hover
      exact counted_of_phaseKept hnext hover
    · by_cases hj : j = i
      · subst hj
        rw [Sessions.step_phase_self]
        refine ⟨hnext, fun k hk => ?_⟩
        rw [Sessions.step_phase_of_ne hk]
        exact hothers k hk
      · rw [Sessions.step_phase_of_ne hj, hothers j hj] at hprogress
        cases hprogress

/-- The cache before the first login. -/
def emptyAttempts : AttemptCache where
  attempts := fun _ => none
  locks := fun _ => none

/-- The turns of a login until its password has been checked. -/
def checkTurns {ι : Type} (i : ι) : List (ι × LoginChoice) :=
  List.replicate 4 (i, ⟨1, .passwordMismatch⟩)

/-- Three logins check their passwords before one of them has recorded its failure. -/
theorem parallel_checks_exceed_limit :
    ¬ChecksLimited twoFailures ((noLogins (Fin 3) 0 emptyAttempts).run
      (loginTurn twoFailures loginEmail) (checkTurns 0 ++ checkTurns 1 ++ checkTurns 2)).store := by
  intro h
  exact absurd (h 0) (by decide +kernel)

end Linkapro.Identity
