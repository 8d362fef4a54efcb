import Mathlib.Data.List.Infix
import Linkapro.Identity.AccountLockout

/-!
# Identity: locked by its failures

The password logins of one account, one after another. As long as no entry is read
after it has expired although the policy still counts what it held, the account is
reported as locked exactly when one of its failures has locked it.
-/

namespace Linkapro.Identity

open Lib

/-- A login that the lockout service has been told of. -/
inductive LoginEvent : Type where
  | failed (instant : Datetime)
  | succeeded
deriving DecidableEq

/-- The failures after the last success, newest first like the events. -/
def failuresSinceSuccess : List LoginEvent → List Datetime
  | .failed instant :: older => instant :: failuresSinceSuccess older
  | _ => []

/-- The failures after the last success that lie in the observation window that ends at the
failure `instant`, which follows the events `older`. -/
def observed (config : AccountLockoutConfig) (instant : Datetime) (older : List LoginEvent) :
    List Datetime :=
  (instant :: failuresSinceSuccess older).filter fun failure =>
    instant - config.observationWindow ≤ failure

/-- A failure with enough failures before it locks the account at `now`. -/
def LockedBy (config : AccountLockoutConfig) (events : List LoginEvent) (now : Datetime) : Prop :=
  ∃ instant older, (.failed instant :: older) <:+ events ∧
    instant ≤ now ∧ now < instant + config.lockDuration ∧
      config.maxFailures ≤ (observed config instant older).length

/-- What a password login comes to after it has found the account not locked. -/
inductive LoginOutcome : Type where
  | failed
  | succeeded
  /-- The account is inactive or has no password: the lockout service is not told. -/
  | refused
deriving DecidableEq

/-- One password login: the time since the previous one, the operations of `is_locked`, the time
until the outcome and the operations that record it. -/
structure PasswordLogin where
  elapsed : ℕ
  asking : LockoutDelays
  checking : ℕ
  outcome : LoginOutcome
  recording : LockoutDelays

/-- The cache between two logins, with what the lockout service has been told, newest first. -/
structure LockoutHistory where
  clock : Datetime
  cache : AttemptCache
  events : List LoginEvent

namespace LockoutHistory

/-- No entry and no event. -/
def start (clock : Datetime) : LockoutHistory where
  clock
  cache := { attempts := fun _ => none, locks := fun _ => none }
  events := []

/-- When a login asks whether the account is locked. -/
def askedAt (history : LockoutHistory) (login : PasswordLogin) : Datetime :=
  history.clock + login.elapsed

/-- When a login that is let in records its outcome. -/
def recordedAt (history : LockoutHistory) (login : PasswordLogin) : Datetime :=
  login.asking.lockReadAt (history.askedAt login) + login.checking

/-- The login is rejected. -/
def rejects (config : AccountLockoutConfig) (email : Email) (history : LockoutHistory)
    (login : PasswordLogin) : Bool :=
  (isLocked config history.cache email.value login.asking (history.askedAt login)).locked

/-- The history after a login. -/
def next (config : AccountLockoutConfig) (email : Email) (history : LockoutHistory)
    (login : PasswordLogin) : LockoutHistory :=
  let now := history.recordedAt login
  if history.rejects config email login then
    { history with clock := login.asking.lockReadAt (history.askedAt login) }
  else
    match login.outcome with
    | .refused => { history with clock := now }
    | .succeeded =>
      { clock := now
        cache := recordSuccess history.cache email.value
        events := .succeeded :: history.events }
    | .failed =>
      { clock := login.recording.lockWrittenAt now
        cache := (recordFailure config history.cache email.value login.recording now).2
        events := .failed now :: history.events }

/-- The lock, if it still lasts at `now`, has not expired when it is read. -/
def LockKept (email : Email) (history : LockoutHistory) (delays : LockoutDelays) (now : Datetime) :
    Prop :=
  ∀ entry ∈ history.cache.locks email.value, now < entry.value →
    ∀ deadline ∈ entry.deadline, delays.lockReadAt now < deadline

instance (email : Email) (history : LockoutHistory) (delays : LockoutDelays) (now : Datetime) :
    Decidable (history.LockKept email delays now) :=
  inferInstanceAs (Decidable (∀ _ ∈ _, _ → ∀ _ ∈ _, _))

/-- The failures, if one of them still counts at `now`, have not expired when they are read. -/
def FailuresKept (config : AccountLockoutConfig) (email : Email) (history : LockoutHistory)
    (delays : LockoutDelays) (now : Datetime) : Prop :=
  ∀ entry ∈ history.cache.attempts email.value,
    (∃ failure ∈ entry.value, now - config.observationWindow ≤ failure) →
      ∀ deadline ∈ entry.deadline, delays.attemptsReadAt now < deadline

instance (config : AccountLockoutConfig) (email : Email) (history : LockoutHistory)
    (delays : LockoutDelays) (now : Datetime) :
    Decidable (history.FailuresKept config email delays now) :=
  inferInstanceAs (Decidable (∀ _ ∈ _, (∃ _ ∈ _, _) → ∀ _ ∈ _, _))

/-- The login reads no entry after its expiry that the policy still counts. -/
def Kept (config : AccountLockoutConfig) (email : Email) (history : LockoutHistory)
    (login : PasswordLogin) : Prop :=
  history.LockKept email login.asking (history.askedAt login) ∧
    (history.rejects config email login = false → login.outcome = .failed →
      history.FailuresKept config email login.recording (history.recordedAt login))

instance (config : AccountLockoutConfig) (email : Email) (history : LockoutHistory)
    (login : PasswordLogin) : Decidable (history.Kept config email login) :=
  inferInstanceAs (Decidable (_ ∧ (_ → _ → _)))

/-- Every login of a sequence meets this condition. -/
def AlwaysKept (config : AccountLockoutConfig) (email : Email) :
    LockoutHistory → List PasswordLogin → Prop
  | _, [] => True
  | history, login :: logins =>
    history.Kept config email login ∧
      AlwaysKept config email (history.next config email login) logins

instance AlwaysKept.decidable (config : AccountLockoutConfig) (email : Email) :
    ∀ (history : LockoutHistory) (logins : List PasswordLogin),
      Decidable (AlwaysKept config email history logins)
  | _, [] => isTrue trivial
  | history, login :: logins =>
    have := AlwaysKept.decidable config email (history.next config email login) logins
    inferInstanceAs (Decidable (_ ∧ _))

end LockoutHistory

section Counters

variable {config : AccountLockoutConfig} {counter : FailedAttemptCounter} {now : Datetime}
  {window : Timedelta} {times : List Datetime} {lockedUntil : Option Datetime}

theorem observationWindow_pos : 0 < config.observationWindow :=
  Int.mul_pos config.observationWindowSeconds_pos (by decide)

theorem times_loaded : (FailedAttemptCounter.loaded times lockedUntil).times = times := by
  unfold FailedAttemptCounter.loaded FailedAttemptCounter.times
  induction times with
  | nil => rfl
  | cons instant times ih => simpa using ih

/-- The failures of a period, as instants. -/
theorem times_failuresWithin : (counter.failuresWithin window now).map
    AuthenticationAttempt.occurredAt = counter.times.filter (now - window ≤ ·) := by
  unfold FailedAttemptCounter.failuresWithin FailedAttemptCounter.times
  rw [List.filter_map, List.filter_filter]
  congr 2
  funext attempt
  simp [Bool.and_comm]

/-- The failures of a period hold no success. -/
theorem times_of_failuresWithin :
    (FailedAttemptCounter.mk (counter.failuresWithin window now) lockedUntil).times =
      (counter.failuresWithin window now).map AuthenticationAttempt.occurredAt := by
  unfold FailedAttemptCounter.times FailedAttemptCounter.failuresWithin
  rw [List.filter_filter]
  congr 2
  funext attempt
  simp

theorem times_recordFailure :
    (counter.recordFailure window now).times =
      counter.times.filter (now - window ≤ ·) ++ [now] := by
  have hrecorded : (counter.recordFailure window now).times =
      (FailedAttemptCounter.mk (counter.failuresWithin window now) none).times ++ [now] := by
    unfold FailedAttemptCounter.recordFailure FailedAttemptCounter.times
    rw [List.filter_append, List.map_append]
    rfl
  rw [hrecorded, times_of_failuresWithin, times_failuresWithin]

/-- A failure of an account that is not locked adds its instant to the failures of the window
that ends there, and it locks the account when they are enough. -/
theorem countFailure_of_unlocked (hunlocked : (evaluate config counter now).locked = false) :
    let observed := counter.times.filter (now - config.observationWindow ≤ ·) ++ [now]
    (countFailure config counter now).times = observed ∧
      (countFailure config counter now).lockedUntil =
        if config.maxFailures ≤ observed.length then some (now + config.lockDuration)
        else counter.lockedUntil := by
  have hupdated : (counter.recordFailure config.observationWindow now).times.filter
      (now - config.observationWindow ≤ ·) =
        counter.times.filter (now - config.observationWindow ≤ ·) ++ [now] := by
    rw [times_recordFailure, List.filter_append, List.filter_filter]
    simp [observationWindow_pos.le]
  have hlength : ((counter.recordFailure config.observationWindow now).failuresWithin
      config.observationWindow now).length =
        (counter.times.filter (now - config.observationWindow ≤ ·) ++ [now]).length := by
    rw [← hupdated, ← times_failuresWithin, List.length_map]
  unfold countFailure
  rw [hunlocked, if_neg Bool.false_ne_true]
  dsimp only
  rw [hlength]
  split
  · exact ⟨by rw [times_of_failuresWithin, times_failuresWithin, hupdated], rfl⟩
  · exact ⟨times_recordFailure, rfl⟩

end Counters

/-- What the cache holds after the events, and which of them have locked the account. -/
structure Settled (config : AccountLockoutConfig) (email : Email) (history : LockoutHistory) :
    Prop where
  ordered : (failuresSinceSuccess history.events).Pairwise (· ≥ ·)
  past : ∀ instant, .failed instant ∈ history.events → instant ≤ history.clock
  attempts : match failuresSinceSuccess history.events with
    | [] => history.cache.attempts email.value = none
    | newest :: older => ∃ deadline, newest + config.observationWindow ≤ deadline ∧
      history.cache.attempts email.value =
        some ⟨((newest :: older).filter (newest - config.observationWindow ≤ ·)).reverse,
          some deadline⟩
  locks : ∀ instant older, (.failed instant :: older) <:+ history.events →
    config.maxFailures ≤ (observed config instant older).length →
      instant + config.lockDuration ≤ history.clock ∨
        ∃ deadline, instant + config.lockDuration ≤ deadline ∧
          history.cache.locks email.value = some ⟨instant + config.lockDuration, some deadline⟩
  held : ∀ entry ∈ history.cache.locks email.value, entry.deadline.isSome = true ∧
    ∃ instant older, (.failed instant :: older) <:+ history.events ∧
      config.maxFailures ≤ (observed config instant older).length ∧
        entry.value = instant + config.lockDuration

section Histories

variable {config : AccountLockoutConfig} {email : Email} {history : LockoutHistory}
  {now : Datetime} {delays : LockoutDelays}

theorem value_ne_empty (email : Email) : email.value ≠ "" := by
  intro hempty
  have hvalid := email.valid
  rw [hempty] at hvalid
  revert hvalid
  decide +kernel

theorem settled_start (clock : Datetime) : Settled config email (.start clock) where
  ordered := List.Pairwise.nil
  past _ hmem := by cases hmem
  attempts := rfl
  locks _ _ hsuffix := by
    cases List.suffix_nil.mp hsuffix
  held _ hmem := by cases hmem

/-- Whether the account is locked is whether the stored lock lasts. -/
theorem locked_isLocked : (isLocked config history.cache email.value delays now).locked =
    (history.cache.locks.get (delays.lockReadAt now) email.value).any (now < ·) := by
  unfold isLocked
  rw [if_neg (value_ne_empty email), locked_evaluate]
  rfl

/-- A stored lock that lasts is that of a failure. -/
theorem Settled.lockedBy (h : Settled config email history) (hnow : history.clock ≤ now)
    {entry : Expiring Datetime Datetime} (hentry : history.cache.locks email.value = some entry)
    (hlasts : now < entry.value) : LockedBy config history.events now := by
  obtain ⟨_, instant, older, hsuffix, henough, hvalue⟩ := h.held entry hentry
  have hpast := h.past instant (hsuffix.subset List.mem_cons_self)
  exact ⟨instant, older, hsuffix, hpast.trans hnow, hvalue ▸ hlasts, henough⟩

/-- Without a new failure an account that is not locked stays so. -/
theorem Settled.not_lockedBy (h : Settled config email history) {earlier : Datetime}
    (hearlier : history.clock ≤ earlier) (hnow : earlier ≤ now)
    (hunlocked : ¬ LockedBy config history.events earlier) :
    ¬ LockedBy config history.events now := by
  rintro ⟨instant, older, hsuffix, _, hlasts, henough⟩
  have hpast := h.past instant (hsuffix.subset List.mem_cons_self)
  exact hunlocked
    ⟨instant, older, hsuffix, hpast.trans hearlier, hnow.trans_lt hlasts, henough⟩

theorem Settled.locked_iff (h : Settled config email history) (hnow : history.clock ≤ now)
    (hlock : history.LockKept email delays now) :
    (isLocked config history.cache email.value delays now).locked = true ↔
      LockedBy config history.events now := by
  rw [locked_isLocked, Option.any_eq_true]
  constructor
  · rintro ⟨lockedUntil, hget, hlasts⟩
    obtain ⟨entry, hentry, rfl⟩ := ExpiringMap.entry_of_get hget
    exact h.lockedBy hnow hentry (of_decide_eq_true hlasts)
  · rintro ⟨instant, older, hsuffix, _, hlasts, henough⟩
    rcases h.locks instant older hsuffix henough with hover | ⟨deadline, _, hentry⟩
    · exact absurd (hlasts.trans_le (hover.trans hnow)) (lt_irrefl _)
    · have hread := hlock _ hentry hlasts deadline rfl
      exact ⟨_, ExpiringMap.get_of_lt hentry hread, decide_eq_true hlasts⟩

theorem mem_events_of_mem_failures {events : List LoginEvent} {instant : Datetime}
    (h : instant ∈ failuresSinceSuccess events) : .failed instant ∈ events := by
  induction events with
  | nil => cases h
  | cons event events ih =>
    cases event with
    | succeeded => cases h
    | failed newest =>
      rcases List.mem_cons.mp h with rfl | h
      · exact List.mem_cons_self
      · exact List.mem_cons_of_mem _ (ih h)

/-- The failures that are read and still count are those after the last success. -/
theorem Settled.loaded (h : Settled config email history) (hnow : history.clock ≤ now)
    (hfailures : history.FailuresKept config email delays now) :
    (history.cache.loadAttemptTimes (delays.attemptsReadAt now) email.value).filter
        (now - config.observationWindow ≤ ·) =
      ((failuresSinceSuccess history.events).filter
        (now - config.observationWindow ≤ ·)).reverse := by
  have hentry := h.attempts
  have hordered := h.ordered
  have hpast : ∀ instant ∈ failuresSinceSuccess history.events, instant ≤ now :=
    fun instant hmem => (h.past instant (mem_events_of_mem_failures hmem)).trans hnow
  unfold AttemptCache.loadAttemptTimes
  cases hsince : failuresSinceSuccess history.events with
  | nil =>
    rw [hsince] at hentry
    simp [ExpiringMap.get, hentry]
  | cons newest older =>
    rw [hsince] at hentry hordered hpast
    obtain ⟨deadline, _, hentry⟩ := hentry
    by_cases hread : delays.attemptsReadAt now < deadline
    · rw [ExpiringMap.get_of_lt hentry hread, Option.getD_some, List.filter_reverse,
        List.filter_filter]
      congr 1
      refine List.filter_congr fun failure _ => ?_
      have hnewest : newest ≤ now := hpast newest List.mem_cons_self
      have hcutoff : (now : ℤ) - config.observationWindow ≤ failure →
          (newest : ℤ) - config.observationWindow ≤ failure :=
        (sub_le_sub_right hnewest config.observationWindow).trans
      simpa using hcutoff
    · -- The entry has expired, and so none of its failures counts any more.
      have hget : history.cache.attempts.get (delays.attemptsReadAt now) email.value = none := by
        simp [ExpiringMap.get, hentry, hread]
      rw [hget, Option.getD_none, List.filter_nil, eq_comm, List.reverse_eq_nil_iff,
        List.filter_eq_nil_iff]
      intro failure hfailure hcounts
      rw [decide_eq_true_eq] at hcounts
      have hle : failure ≤ newest := by
        rcases List.mem_cons.mp hfailure with rfl | hfailure
        · exact le_rfl
        · exact List.rel_of_pairwise_cons hordered hfailure
      refine hread (hfailures _ hentry ⟨newest, ?_, hcounts.trans hle⟩ deadline rfl)
      rw [List.mem_reverse, List.mem_filter]
      exact ⟨List.mem_cons_self, decide_eq_true (sub_le_self _ observationWindow_pos.le)⟩

/-- What `record_failure` makes of the cache while the account is not locked: the failures of the
window are written, with a lock if they are enough. A lock that is over may be written again. -/
theorem Settled.recordFailure (h : Settled config email history) (hnow : history.clock ≤ now)
    (hfailures : history.FailuresKept config email delays now)
    (hunlocked : ¬ LockedBy config history.events now) :
    ∃ lockedUntil : Option Datetime,
      (recordFailure config history.cache email.value delays now).2 =
        (history.cache.setAttempts config email.value
          (observed config now history.events).reverse (delays.attemptsWrittenAt now)).setLock
            config email.value lockedUntil (delays.lockWrittenAt now) ∧
      lockedUntil = if config.maxFailures ≤ (observed config now history.events).length
        then some (now + config.lockDuration)
        else history.cache.locks.get (delays.lockReadAt now) email.value := by
  have hcounter : (evaluate config
      (history.cache.loadFailedAttemptCounter email.value delays now) now).locked = false := by
    rw [locked_evaluate, Bool.eq_false_iff, ne_eq, Option.any_eq_true]
    rintro ⟨lockedUntil, hget, hlasts⟩
    obtain ⟨entry, hentry, rfl⟩ := ExpiringMap.entry_of_get hget
    exact hunlocked (h.lockedBy hnow hentry (of_decide_eq_true hlasts))
  have hobserved : (observed config now history.events).reverse =
      (history.cache.loadFailedAttemptCounter email.value delays now).times.filter
        (now - config.observationWindow ≤ ·) ++ [now] := by
    unfold AttemptCache.loadFailedAttemptCounter observed
    rw [times_loaded, h.loaded hnow hfailures, List.filter_cons_of_pos, List.reverse_cons]
    exact decide_eq_true (sub_le_self _ observationWindow_pos.le)
  obtain ⟨htimes, hlock⟩ := countFailure_of_unlocked hcounter
  rw [← hobserved] at htimes hlock
  rw [List.length_reverse] at hlock
  refine ⟨_, ?_, hlock⟩
  unfold Identity.recordFailure AttemptCache.saveFailedAttemptCounter
  rw [if_neg (value_ne_empty email)]
  dsimp only
  rw [htimes]

/-- Time goes by. -/
theorem Settled.wait (h : Settled config email history) (hnow : history.clock ≤ now) :
    Settled config email { history with clock := now } :=
  { h with
    past := fun instant hmem => (h.past instant hmem).trans hnow
    locks := fun instant older hsuffix henough =>
      (h.locks instant older hsuffix henough).imp_left fun hover => hover.trans hnow }

/-- A success clears both entries of an account that is not locked. -/
theorem Settled.succeeded (h : Settled config email history) (hnow : history.clock ≤ now)
    (hunlocked : ¬ LockedBy config history.events now) :
    Settled config email
      { clock := now
        cache := recordSuccess history.cache email.value
        events := .succeeded :: history.events } := by
  unfold recordSuccess AttemptCache.clearFailedAttemptCounter
  rw [if_neg (value_ne_empty email)]
  constructor
  · exact List.Pairwise.nil
  · intro instant hmem
    rcases List.mem_cons.mp hmem with heq | hmem
    · cases heq
    · exact (h.past instant hmem).trans hnow
  · exact Function.update_self ..
  · intro instant older hsuffix henough
    rcases List.suffix_cons_iff.mp hsuffix with heq | hsuffix
    · cases heq
    · have hpast := h.past instant (hsuffix.subset List.mem_cons_self)
      refine Or.inl (le_of_not_gt fun hlasts => hunlocked ?_)
      exact ⟨instant, older, hsuffix, hpast.trans hnow, hlasts, henough⟩
  · intro entry hentry
    have hcleared : history.cache.locks.delete email.value email.value = none :=
      Function.update_self ..
    cases hcleared.symm.trans hentry

/-- A failure of an account that is not locked. -/
theorem Settled.failed (h : Settled config email history) (hnow : history.clock ≤ now)
    (hfailures : history.FailuresKept config email delays now)
    (hunlocked : ¬ LockedBy config history.events now) :
    Settled config email
      { clock := delays.lockWrittenAt now
        cache := (Identity.recordFailure config history.cache email.value delays now).2
        events := .failed now :: history.events } := by
  obtain ⟨lockedUntil, hcache, hlock⟩ := h.recordFailure hnow hfailures hunlocked
  rw [hcache]
  constructor
  · refine List.pairwise_cons.mpr ⟨fun failure hmem => ?_, h.ordered⟩
    exact (h.past failure (mem_events_of_mem_failures hmem)).trans hnow
  · intro instant hmem
    rcases List.mem_cons.mp hmem with heq | hmem
    · cases heq
      exact delays.le_lockWrittenAt now
    · exact ((h.past instant hmem).trans hnow).trans (delays.le_lockWrittenAt now)
  · refine ⟨delays.attemptsWrittenAt now + config.observationWindow, ?_, ?_⟩
    · exact add_le_add_left (delays.le_attemptsWrittenAt now) _
    · rw [AttemptCache.attempts_setLock]
      exact AttemptCache.attempts_setAttempts
  · intro instant older hsuffix henough
    rcases List.suffix_cons_iff.mp hsuffix with heq | hsuffix
    · -- This failure has locked the account.
      cases heq
      rw [if_pos henough] at hlock
      subst hlock
      refine Or.inr ⟨delays.lockWrittenAt now + config.lockDuration, ?_, ?_⟩
      · exact add_le_add_left (delays.le_lockWrittenAt now) _
      · exact AttemptCache.locks_setLock
    · have hpast := h.past instant (hsuffix.subset List.mem_cons_self)
      have hover : instant + config.lockDuration ≤ now := le_of_not_gt fun hlasts =>
        hunlocked ⟨instant, older, hsuffix, hpast.trans hnow, hlasts, henough⟩
      exact Or.inl (hover.trans (delays.le_lockWrittenAt now))
  · intro entry hentry
    have hearlier : ∀ entry ∈ history.cache.locks email.value, ∃ instant older,
        (.failed instant :: older) <:+ .failed now :: history.events ∧
          config.maxFailures ≤ (observed config instant older).length ∧
            entry.value = instant + config.lockDuration := by
      intro entry hentry
      obtain ⟨_, instant, older, hsuffix, henough⟩ := h.held entry hentry
      exact ⟨instant, older, List.suffix_cons_iff.mpr (Or.inr hsuffix), henough⟩
    cases lockedUntil with
    | none => exact ⟨(h.held entry hentry).1, hearlier entry hentry⟩
    | some lockedUntil =>
      have hwritten := AttemptCache.locks_setLock.symm.trans hentry
      cases hwritten
      refine ⟨rfl, ?_⟩
      by_cases henough : config.maxFailures ≤ (observed config now history.events).length
      · rw [if_pos henough] at hlock
        exact ⟨now, history.events, List.suffix_rfl, henough, Option.some.inj hlock⟩
      · rw [if_neg henough] at hlock
        obtain ⟨entry, hentry, hvalue⟩ := ExpiringMap.entry_of_get hlock.symm
        exact hvalue ▸ hearlier entry hentry

/-- A login keeps what the cache holds. -/
theorem Settled.next (h : Settled config email history) {login : PasswordLogin}
    (hkept : history.Kept config email login) :
    Settled config email (history.next config email login) := by
  have hasked : history.clock ≤ history.askedAt login := by
    have hle : ∀ (clock : ℤ) (elapsed : ℕ), clock ≤ clock + elapsed := by omega
    exact hle history.clock login.elapsed
  have hread := hasked.trans (login.asking.le_lockReadAt (history.askedAt login))
  have hchecked : login.asking.lockReadAt (history.askedAt login) ≤ history.recordedAt login := by
    have hle : ∀ (clock : ℤ) (elapsed : ℕ), clock ≤ clock + elapsed := by omega
    exact hle _ login.checking
  unfold LockoutHistory.next
  dsimp only
  cases hrejects : history.rejects config email login with
  | true =>
    rw [if_pos rfl]
    exact h.wait hread
  | false =>
    rw [if_neg Bool.false_ne_true]
    have hrecorded := hread.trans hchecked
    have hunlocked : ¬ LockedBy config history.events (history.recordedAt login) := by
      refine h.not_lockedBy hasked ((login.asking.le_lockReadAt _).trans hchecked) fun hlocked => ?_
      have hreported := (h.locked_iff hasked hkept.1).mpr hlocked
      cases hrejects.symm.trans hreported
    cases houtcome : login.outcome with
    | refused => exact h.wait hrecorded
    | succeeded => exact h.succeeded hrecorded hunlocked
    | failed => exact h.failed hrecorded (hkept.2 hrejects houtcome) hunlocked

theorem Settled.foldl {logins : List PasswordLogin} (h : Settled config email history)
    (hkept : LockoutHistory.AlwaysKept config email history logins) :
    Settled config email (logins.foldl (LockoutHistory.next config email) history) := by
  induction logins generalizing history with
  | nil => exact h
  | cons login logins ih => exact ih (h.next hkept.1) hkept.2

end Histories

/-- In every history of logins that read no entry after its expiry while it still counts, the
account is reported as locked exactly when one of its failures locks it. -/
theorem locked_iff_lockedBy {config : AccountLockoutConfig} {email : Email} {clock : Datetime}
    {logins : List PasswordLogin}
    (hkept : LockoutHistory.AlwaysKept config email (.start clock) logins) {now : Datetime}
    {delays : LockoutDelays} :
    let history := logins.foldl (LockoutHistory.next config email) (.start clock)
    history.clock ≤ now → history.LockKept email delays now →
      ((isLocked config history.cache email.value delays now).locked = true ↔
        LockedBy config history.events now) :=
  fun hnow hlock => ((settled_start clock).foldl hkept).locked_iff hnow hlock

/-- Two failures within a quarter of an hour lock the account for a quarter of an hour. -/
def twoFailures : AccountLockoutConfig where
  maxFailures := 2
  observationWindowSeconds := 900
  lockDurationSeconds := 900
  maxFailures_pos := by decide
  observationWindowSeconds_pos := by decide
  lockDurationSeconds_pos := by decide

theorem isEmail_login : isEmail "user@example.com" = true := by decide +kernel

theorem length_login : "user@example.com".length ≤ 254 := by decide +kernel

/-- The account of the sample logins. -/
def loginEmail : Email := ⟨"user@example.com", isEmail_login, length_login⟩

/-- A call whose operations take no time. -/
def noDelays : LockoutDelays := ⟨0, 0, 0, 0⟩

/-- A failing login. -/
def failAfter (elapsed : ℕ) : PasswordLogin where
  elapsed
  asking := noDelays
  checking := 0
  outcome := .failed
  recording := noDelays

/-- The account is locked after two failures of the same quarter of an hour. -/
theorem locked_iff_lockedBy_sample :
    let history := [failAfter 0, failAfter 899999999].foldl
      (LockoutHistory.next twoFailures loginEmail) (.start 0)
    (isLocked twoFailures history.cache loginEmail.value noDelays 899999999).locked = true ↔
      LockedBy twoFailures history.events 899999999 :=
  locked_iff_lockedBy (by decide +kernel) (by decide +kernel) (by decide +kernel)

/-- Two failures exactly one window apart lie in the window, but they do not lock the account. -/
theorem window_end_forgotten :
    let history := [failAfter 0, failAfter 900000000].foldl
      (LockoutHistory.next twoFailures loginEmail) (.start 0)
    ¬ ((isLocked twoFailures history.cache loginEmail.value noDelays 900000000).locked = true ↔
      LockedBy twoFailures history.events 900000000) := by
  intro history hiff
  have hunlocked : (isLocked twoFailures history.cache loginEmail.value noDelays 900000000).locked =
      false := by
    decide +kernel
  have hevents : history.events = [.failed 900000000, .failed 0] := by decide +kernel
  have hlocked : LockedBy twoFailures history.events 900000000 := by
    refine ⟨900000000, [.failed 0], hevents ▸ List.suffix_rfl, le_rfl, ?_, ?_⟩
    · decide +kernel
    · decide +kernel
  cases hunlocked.symm.trans (hiff.mpr hlocked)

end Linkapro.Identity
