import Mathlib.Algebra.Order.Ring.Int
import Linkapro.Lib.Expiring
import Linkapro.Identity.Account

/-!
# Identity: the lock of an account

A failed password login is counted over an observation window, and enough failures lock
the account for a while. The failures and the lock are two entries of a cache. The
window of the policy contains its first instant, but the entry of the failures is gone
exactly one window after it has been written: a failure that comes just then does not
see the earlier ones.
-/

namespace Linkapro.Identity

open Lib

/-- `AuthenticationAttempt`. -/
structure AuthenticationAttempt where
  occurredAt : Datetime
  succeeded : Bool
deriving DecidableEq

/-- `FailedAttemptCounter`. -/
structure FailedAttemptCounter where
  attempts : List AuthenticationAttempt
  lockedUntil : Option Datetime

namespace FailedAttemptCounter

/-- `failures_within`. -/
def failuresWithin (counter : FailedAttemptCounter) (window : Timedelta) (now : Datetime) :
    List AuthenticationAttempt :=
  counter.attempts.filter fun attempt => ¬ attempt.succeeded ∧ now - window ≤ attempt.occurredAt

/-- `record_failure`. -/
def recordFailure (counter : FailedAttemptCounter) (window : Timedelta) (now : Datetime) :
    FailedAttemptCounter where
  attempts := counter.failuresWithin window now ++ [{ occurredAt := now, succeeded := false }]
  lockedUntil := counter.lockedUntil

/-- The counter that `load_failed_attempt_counter` makes of the two entries. -/
def loaded (times : List Datetime) (lockedUntil : Option Datetime) : FailedAttemptCounter where
  attempts := times.map fun occurredAt => { occurredAt, succeeded := false }
  lockedUntil

/-- The instants that `save_failed_attempt_counter` stores. -/
def times (counter : FailedAttemptCounter) : List Datetime :=
  (counter.attempts.filter fun attempt => ¬ attempt.succeeded).map AuthenticationAttempt.occurredAt

end FailedAttemptCounter

/-- `AccountLockoutConfig`, as `AccountLockoutPolicy` accepts it. -/
structure AccountLockoutConfig where
  maxFailures : ℤ
  observationWindowSeconds : ℤ
  lockDurationSeconds : ℤ
  maxFailures_pos : 0 < maxFailures
  observationWindowSeconds_pos : 0 < observationWindowSeconds
  lockDurationSeconds_pos : 0 < lockDurationSeconds

namespace AccountLockoutConfig

/-- `policy().observation_window`. -/
def observationWindow (config : AccountLockoutConfig) : Timedelta :=
  seconds config.observationWindowSeconds

/-- `policy().lock_duration`. -/
def lockDuration (config : AccountLockoutConfig) : Timedelta := seconds config.lockDurationSeconds

end AccountLockoutConfig

/-- `AccountLockoutDecision`. -/
structure AccountLockoutDecision where
  locked : Bool
  failedAttempts : ℕ
  lockedUntil : Option Datetime

/-- `AccountLockoutPolicy.evaluate`. -/
def evaluate (config : AccountLockoutConfig) (counter : FailedAttemptCounter) (now : Datetime) :
    AccountLockoutDecision :=
  let failures := counter.failuresWithin config.observationWindow now
  if counter.lockedUntil.any (now < ·) then
    { locked := true, failedAttempts := failures.length, lockedUntil := counter.lockedUntil }
  else { locked := false, failedAttempts := failures.length, lockedUntil := none }

/-- An account is locked as long as its lock lasts. -/
theorem locked_evaluate {config : AccountLockoutConfig} {counter : FailedAttemptCounter}
    {now : Datetime} :
    (evaluate config counter now).locked = counter.lockedUntil.any (now < ·) := by
  unfold evaluate
  cases hlasts : counter.lockedUntil.any (now < ·) with
  | true => rw [if_pos rfl]
  | false => rw [if_neg Bool.false_ne_true]

/-- `AccountLockoutPolicy.record_failure`. -/
def countFailure (config : AccountLockoutConfig) (counter : FailedAttemptCounter)
    (now : Datetime) : FailedAttemptCounter :=
  if (evaluate config counter now).locked then counter
  else
    let updated := counter.recordFailure config.observationWindow now
    let failures := updated.failuresWithin config.observationWindow now
    if config.maxFailures ≤ failures.length then
      { attempts := failures, lockedUntil := some (now + config.lockDuration) }
    else updated

/-- The entries that `DjangoAuthenticationAttemptRepository` keeps, by account key. An instant
comes back from its `isoformat` as it was. -/
structure AttemptCache where
  /-- The entries `login_fail:…`. -/
  attempts : ExpiringMap String (List Datetime) Datetime
  /-- The entries `login_lock:…`. -/
  locks : ExpiringMap String Datetime Datetime

/-- `_ttl`. -/
def lockoutTtl (wholeSeconds : ℤ) : Timedelta := seconds (max wholeSeconds 1)

/-- The failures expire one observation window after they have been written. -/
theorem lockoutTtl_observationWindow {config : AccountLockoutConfig} :
    lockoutTtl config.observationWindowSeconds = config.observationWindow := by
  have hmax : max config.observationWindowSeconds 1 = config.observationWindowSeconds :=
    max_eq_left config.observationWindowSeconds_pos
  rw [lockoutTtl, hmax, AccountLockoutConfig.observationWindow]

/-- A lock expires one lock duration after it has been written. -/
theorem lockoutTtl_lockDuration {config : AccountLockoutConfig} :
    lockoutTtl config.lockDurationSeconds = config.lockDuration := by
  have hmax : max config.lockDurationSeconds 1 = config.lockDurationSeconds :=
    max_eq_left config.lockDurationSeconds_pos
  rw [lockoutTtl, hmax, AccountLockoutConfig.lockDuration]

/-- Microseconds between the operations of one call of the lockout service: from the reading of
the clock to the read of the failures, on to the read of the lock, to the write of the failures
and to the write of the lock. -/
structure LockoutDelays where
  readAttempts : ℕ
  readLock : ℕ
  writeAttempts : ℕ
  writeLock : ℕ

namespace LockoutDelays

/-- When a call at `now` reads the failures. -/
def attemptsReadAt (delays : LockoutDelays) (now : Datetime) : Datetime := now + delays.readAttempts

/-- When a call at `now` reads the lock. -/
def lockReadAt (delays : LockoutDelays) (now : Datetime) : Datetime :=
  delays.attemptsReadAt now + delays.readLock

/-- When a call at `now` writes the failures. -/
def attemptsWrittenAt (delays : LockoutDelays) (now : Datetime) : Datetime :=
  delays.lockReadAt now + delays.writeAttempts

/-- When a call at `now` writes the lock and ends. -/
def lockWrittenAt (delays : LockoutDelays) (now : Datetime) : Datetime :=
  delays.attemptsWrittenAt now + delays.writeLock

variable (delays : LockoutDelays) (now : Datetime)

theorem le_lockReadAt : now ≤ delays.lockReadAt now := by
  have h : ∀ (start : ℤ) (first second : ℕ), start ≤ start + first + second := by omega
  exact h now _ _

theorem le_attemptsWrittenAt : now ≤ delays.attemptsWrittenAt now := by
  have h : ∀ (start middle : ℤ) (last : ℕ), start ≤ middle → start ≤ middle + last := by omega
  exact h now _ _ (delays.le_lockReadAt now)

theorem le_lockWrittenAt : now ≤ delays.lockWrittenAt now := by
  have h : ∀ (start middle : ℤ) (last : ℕ), start ≤ middle → start ≤ middle + last := by omega
  exact h now _ _ (delays.le_attemptsWrittenAt now)

end LockoutDelays

namespace AttemptCache

/-- `_load_attempt_times`. -/
def loadAttemptTimes (cache : AttemptCache) (now : Datetime) (accountKey : String) :
    List Datetime :=
  (cache.attempts.get now accountKey).getD []

/-- `load_failed_attempt_counter`. -/
def loadFailedAttemptCounter (cache : AttemptCache) (accountKey : String) (delays : LockoutDelays)
    (now : Datetime) : FailedAttemptCounter :=
  .loaded (cache.loadAttemptTimes (delays.attemptsReadAt now) accountKey)
    (cache.locks.get (delays.lockReadAt now) accountKey)

/-- The first write of `save_failed_attempt_counter`. -/
def setAttempts (cache : AttemptCache) (config : AccountLockoutConfig) (accountKey : String)
    (times : List Datetime) (written : Datetime) : AttemptCache :=
  { cache with
    attempts := cache.attempts.set accountKey times
      (some (written + lockoutTtl config.observationWindowSeconds)) }

/-- The second write of `save_failed_attempt_counter`. -/
def setLock (cache : AttemptCache) (config : AccountLockoutConfig) (accountKey : String)
    (lockedUntil : Option Datetime) (written : Datetime) : AttemptCache :=
  match lockedUntil with
  | none => cache
  | some lockedUntil =>
    { cache with
      locks := cache.locks.set accountKey lockedUntil
        (some (written + lockoutTtl config.lockDurationSeconds)) }

/-- The lock is an entry of its own. -/
@[simp] theorem attempts_setLock {cache : AttemptCache} {config : AccountLockoutConfig}
    {accountKey : String} {lockedUntil : Option Datetime} {written : Datetime} :
    (cache.setLock config accountKey lockedUntil written).attempts = cache.attempts := by
  cases lockedUntil <;> rfl

/-- A lock that has been written. -/
theorem locks_setLock {cache : AttemptCache} {config : AccountLockoutConfig}
    {accountKey : String} {lockedUntil written : Datetime} :
    (cache.setLock config accountKey (some lockedUntil) written).locks accountKey =
      some ⟨lockedUntil, some (written + config.lockDuration)⟩ := by
  rw [← lockoutTtl_lockDuration]
  exact Function.update_self ..

/-- Failures that have been written. -/
theorem attempts_setAttempts {cache : AttemptCache} {config : AccountLockoutConfig}
    {accountKey : String} {times : List Datetime} {written : Datetime} :
    (cache.setAttempts config accountKey times written).attempts accountKey =
      some ⟨times, some (written + config.observationWindow)⟩ := by
  rw [← lockoutTtl_observationWindow]
  exact Function.update_self ..

/-- `save_failed_attempt_counter`. -/
def saveFailedAttemptCounter (cache : AttemptCache) (config : AccountLockoutConfig)
    (accountKey : String) (counter : FailedAttemptCounter) (delays : LockoutDelays)
    (now : Datetime) : AttemptCache :=
  (cache.setAttempts config accountKey counter.times (delays.attemptsWrittenAt now)).setLock config
    accountKey counter.lockedUntil (delays.lockWrittenAt now)

/-- `clear_failed_attempt_counter`. -/
def clearFailedAttemptCounter (cache : AttemptCache) (accountKey : String) : AttemptCache where
  attempts := cache.attempts.delete accountKey
  locks := cache.locks.delete accountKey

end AttemptCache

/-- `AccountLockoutService.is_locked`. -/
def isLocked (config : AccountLockoutConfig) (cache : AttemptCache) (accountKey : String)
    (delays : LockoutDelays) (now : Datetime) : AccountLockoutDecision :=
  if accountKey = "" then { locked := false, failedAttempts := 0, lockedUntil := none }
  else evaluate config (cache.loadFailedAttemptCounter accountKey delays now) now

/-- `AccountLockoutService.record_failure`. -/
def recordFailure (config : AccountLockoutConfig) (cache : AttemptCache) (accountKey : String)
    (delays : LockoutDelays) (now : Datetime) : AccountLockoutDecision × AttemptCache :=
  if accountKey = "" then ({ locked := false, failedAttempts := 0, lockedUntil := none }, cache)
  else
    let counter := countFailure config (cache.loadFailedAttemptCounter accountKey delays now) now
    (evaluate config counter now,
      cache.saveFailedAttemptCounter config accountKey counter delays now)

/-- `AccountLockoutService.record_success`. -/
def recordSuccess (cache : AttemptCache) (accountKey : String) : AttemptCache :=
  if accountKey = "" then cache else cache.clearFailedAttemptCounter accountKey

end Linkapro.Identity
