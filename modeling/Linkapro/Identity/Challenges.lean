import Linkapro.Identity.Account

/-!
# Identity: challenges and one-time tokens

The challenge of an email verification, the challenge of a second factor and the
token of a password reset, with the policies that decide whether they may be used.
All of them are values: what an attempt makes of a challenge is returned.
-/

namespace Linkapro.Identity

/-- The whole seconds that are left of a lifetime, at least one. -/
def remainingSeconds (expiresAt now : Datetime) : ℤ := max (Int.tdiv (expiresAt - now) (seconds 1)) 1

/-- `VerificationPurpose`. -/
inductive VerificationPurpose : Type where
  | email
deriving DecidableEq

/-- `VerificationChallenge`. -/
structure VerificationChallenge where
  id : UUID
  userId : UUID
  purpose : VerificationPurpose
  codeDigest : String
  issuedAt : Datetime
  expiresAt : Datetime
  resendAvailableAt : Datetime
  failedAttempts : ℕ
  maxAttempts : ℕ
  succeededAt : Option Datetime
  expiredAt : Option Datetime
deriving DecidableEq

/-- The events of a verification challenge. -/
inductive VerificationEvent : Type where
  | challengeSucceeded (userId challengeId : UUID) (purpose : VerificationPurpose)
  | challengeExpired (userId challengeId : UUID) (purpose : VerificationPurpose)
deriving DecidableEq

/-- What an attempt to consume a challenge leaves behind, with the recorded events. -/
structure ConsumedChallenge where
  challenge : VerificationChallenge
  accepted : Bool
  events : List VerificationEvent

namespace VerificationChallenge

/-- `is_succeeded`. -/
def isSucceeded (challenge : VerificationChallenge) : Bool := challenge.succeededAt.isSome

/-- `is_expired`. -/
def isExpired (challenge : VerificationChallenge) (now : Datetime) : Bool :=
  challenge.expiredAt.isSome ∨ challenge.expiresAt ≤ now

/-- `expire`. -/
def expire (challenge : VerificationChallenge) (now : Datetime) : ConsumedChallenge :=
  if challenge.expiredAt.isSome then { challenge, accepted := false, events := [] }
  else
    { challenge := { challenge with expiredAt := some now }
      accepted := false
      events := [.challengeExpired challenge.userId challenge.id challenge.purpose] }

/-- `consume`. A refusal of `ensure_usable` leaves the challenge, marked if it has expired. -/
def consume (challenge : VerificationChallenge) (now : Datetime) : ConsumedChallenge :=
  if challenge.isSucceeded then { challenge, accepted := false, events := [] }
  else if challenge.isExpired now then challenge.expire now
  else if challenge.maxAttempts ≤ challenge.failedAttempts then
    { challenge, accepted := false, events := [] }
  else
    { challenge := { challenge with succeededAt := some now }
      accepted := true
      events := [.challengeSucceeded challenge.userId challenge.id challenge.purpose] }

end VerificationChallenge

/-- `ensure_terminal_challenge_succeeded`. -/
def ensureTerminalChallengeSucceeded (challenge : VerificationChallenge)
    (purpose : VerificationPurpose) : Except AccountError Unit :=
  if challenge.purpose ≠ purpose then
    .error (.invalidVerificationCode "Verification challenge purpose does not match")
  else if ¬ challenge.isSucceeded then
    .error (.invalidVerificationCode "Verification challenge has not succeeded")
  else .ok ()

/-- `MfaMethod`. -/
inductive MfaMethod : Type where
  | totp
  | recoveryCode
deriving DecidableEq

/-- `MfaChallenge`. -/
structure MfaChallenge where
  id : UUID
  userId : UUID
  method : MfaMethod
  issuedAt : Datetime
  expiresAt : Datetime
  maxAttempts : ℕ
  attemptCount : ℕ
  consumedAt : Option Datetime
  expires_after_issue : issuedAt < expiresAt
  maxAttempts_pos : 0 < maxAttempts
deriving DecidableEq

/-- `MfaVerificationResult`. -/
structure MfaVerificationResult where
  accepted : Bool
  challenge : MfaChallenge

namespace MfaChallenge

/-- `is_expired`. -/
def isExpired (challenge : MfaChallenge) (now : Datetime) : Bool := challenge.expiresAt ≤ now

/-- `attempts_exhausted`. -/
def attemptsExhausted (challenge : MfaChallenge) : Bool :=
  challenge.maxAttempts ≤ challenge.attemptCount

/-- `can_attempt`, where an expired challenge counts as refused. -/
def canAttempt (challenge : MfaChallenge) (now : Datetime) : Bool :=
  ¬ challenge.isExpired now ∧ challenge.consumedAt.isNone ∧ ¬ challenge.attemptsExhausted

/-- `record_failed_attempt`. -/
def recordFailedAttempt (challenge : MfaChallenge) : MfaChallenge :=
  { challenge with attemptCount := challenge.attemptCount + 1 }

/-- `consume`. -/
def consume (challenge : MfaChallenge) (now : Datetime) : MfaChallenge :=
  { challenge with attemptCount := challenge.attemptCount + 1, consumedAt := some now }

/-- `issue_challenge` of the default policy: ten minutes and five attempts. -/
def issue (id userId : UUID) (method : MfaMethod) (now : Datetime) : MfaChallenge :=
  { id, userId, method
    issuedAt := now
    expiresAt := now + seconds 600
    maxAttempts := 5
    attemptCount := 0
    consumedAt := none
    expires_after_issue := Int.lt_add_of_pos_right now (by decide)
    maxAttempts_pos := by decide }

/-- `verify_challenge`. -/
def verify (challenge : MfaChallenge) (accepted : Bool) (now : Datetime) : MfaVerificationResult :=
  if challenge.method ≠ .totp ∨ ¬ challenge.canAttempt now then { accepted := false, challenge }
  else if accepted then { accepted := true, challenge := challenge.consume now }
  else { accepted := false, challenge := challenge.recordFailedAttempt }

end MfaChallenge

/-- `MfaEnrollmentState`. -/
structure MfaEnrollmentState where
  challenge : MfaChallenge
  secret : String
deriving DecidableEq

/-- `PasswordResetTokenStatus`. -/
inductive PasswordResetTokenStatus : Type where
  | active
  | used
  | expired
  | revoked
deriving DecidableEq

/-- `PasswordResetToken`. -/
structure PasswordResetToken where
  id : UUID
  userId : UUID
  jti : String
  tokenHash : String
  status : PasswordResetTokenStatus
  expiresAt : Datetime
  usedAt : Option Datetime
  usedIpHash : Option String
  usedUserAgentHash : Option String
  jti_not_blank : isBlank jti = false
  tokenHash_not_blank : isBlank tokenHash = false
deriving DecidableEq

namespace PasswordResetToken

/-- `is_expired`. -/
def isExpired (token : PasswordResetToken) (now : Datetime) : Bool := token.expiresAt ≤ now

/-- `ensure_token_can_be_used`. -/
def ensureCanBeUsed (token : PasswordResetToken) (now : Datetime) : Except AccountError Unit :=
  if token.status ≠ .active then
    .error (.invalidPasswordResetToken "Invalid or expired reset token")
  else if token.isExpired now then
    .error (.invalidPasswordResetToken "Invalid or expired reset token")
  else .ok ()

/-- `mark_used`. -/
def markUsed (token : PasswordResetToken) (now : Datetime)
    (usedIpHash usedUserAgentHash : Option String) : PasswordResetToken :=
  { token with status := .used, usedAt := some now, usedIpHash, usedUserAgentHash }

/-- A token that may be used is active and has not expired. -/
theorem ensureCanBeUsed_ok {token : PasswordResetToken} {now : Datetime}
    (h : token.ensureCanBeUsed now = .ok ()) : token.status = .active ∧ now < token.expiresAt := by
  unfold ensureCanBeUsed at h
  split at h
  · cases h
  · next hstatus =>
    split at h
    · cases h
    · next hexpired =>
      rw [isExpired, decide_eq_true_eq] at hexpired
      exact ⟨not_not.mp hstatus, Int.not_le.mp hexpired⟩

end PasswordResetToken

end Linkapro.Identity
