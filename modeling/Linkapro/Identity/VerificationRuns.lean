import Linkapro.Identity.Challenges

/-!
# Identity: the life of a verification challenge

A verification challenge is verified with a code, consumed or expired, in any order and
at any instants. Each call answers with the error that it raises, if any. A challenge
succeeds at most once, before its expiry and while an attempt is left.
-/

namespace Linkapro.Identity

/-- The errors that a call on a verification challenge raises. -/
inductive VerificationError : Type where
  | verificationChallengeConsumed
  | verificationExpired
  | verificationAttemptsExhausted
  | invalidVerificationCode
  /-- The `TypeError` of `compare_digest`. -/
  | notComparable
deriving DecidableEq

/-- The text of an error. -/
def VerificationError.message : VerificationError → String
  | .verificationChallengeConsumed => "Verification challenge has already succeeded"
  | .verificationExpired => "Verification challenge has expired"
  | .verificationAttemptsExhausted => "Verification challenge attempt limit exceeded"
  | .invalidVerificationCode => "Invalid verification code"
  | .notComparable => "comparing strings with non-ASCII characters is not supported"

/-- `VerificationCode`. -/
structure VerificationCode where
  value : String
  not_empty : value ≠ ""
  stripped : strip value = value
  no_control : (value.toList.any fun c => c.toNat < 32) = false
  length_le : value.length ≤ 4096

/-- `matches_digest`, under the digest of the standard library. -/
def VerificationCode.matchesDigest (sha256 : String → String) (code : VerificationCode)
    (digest : String) : Option Bool :=
  compareDigest (sha256 code.value) digest

/-- What a call leaves behind: the challenge, the error that it raises and the recorded events. -/
structure ChallengeAnswer where
  challenge : VerificationChallenge
  error : Option VerificationError
  events : List VerificationEvent

/-- A call on a verification challenge. -/
inductive ChallengeCall : Type where
  | verify (code : VerificationCode)
  | consume
  | expire

namespace VerificationChallenge

/-- `ensure_usable`. A challenge that has expired is marked. -/
def ensureUsable (challenge : VerificationChallenge) (now : Datetime) : ChallengeAnswer :=
  if challenge.isSucceeded then
    { challenge, error := some .verificationChallengeConsumed, events := [] }
  else if challenge.isExpired now then
    let expired := challenge.expire now
    { challenge := expired.challenge
      error := some .verificationExpired
      events := expired.events }
  else if challenge.maxAttempts ≤ challenge.failedAttempts then
    { challenge, error := some .verificationAttemptsExhausted, events := [] }
  else { challenge, error := none, events := [] }

/-- `consume`, with the error of a refusal. -/
def consumeOrRaise (challenge : VerificationChallenge) (now : Datetime) : ChallengeAnswer :=
  let usable := challenge.ensureUsable now
  if usable.error.isSome then usable
  else
    { challenge := { usable.challenge with succeededAt := some now }
      error := none
      events := [.challengeSucceeded challenge.userId challenge.id challenge.purpose] }

/-- `verify`. -/
def verify (sha256 : String → String) (challenge : VerificationChallenge)
    (code : VerificationCode) (now : Datetime) : ChallengeAnswer :=
  let usable := challenge.ensureUsable now
  if usable.error.isSome then usable
  else
    match code.matchesDigest sha256 usable.challenge.codeDigest with
    | none => { usable with error := some .notComparable }
    | some false =>
      { challenge := { usable.challenge with failedAttempts := usable.challenge.failedAttempts + 1 }
        error := some .invalidVerificationCode
        events := [] }
    | some true => usable.challenge.consumeOrRaise now

/-- Perform a call. -/
def perform (sha256 : String → String) (challenge : VerificationChallenge) (now : Datetime) :
    ChallengeCall → ChallengeAnswer
  | .verify code => challenge.verify sha256 code now
  | .consume => challenge.consumeOrRaise now
  | .expire =>
    let expired := challenge.expire now
    { challenge := expired.challenge, error := none, events := expired.events }

end VerificationChallenge

/-- A call that has been performed, with the error that it raised. -/
structure PerformedCall where
  time : Datetime
  call : ChallengeCall
  error : Option VerificationError

namespace PerformedCall

/-- The verification has succeeded: the code was right, or the challenge was consumed. -/
def Succeeded (performed : PerformedCall) : Prop :=
  match performed.call with
  | .expire => False
  | .verify _ | .consume => performed.error = none

instance (performed : PerformedCall) : Decidable performed.Succeeded := by
  unfold Succeeded
  split <;> infer_instance

/-- The attempt has failed. -/
def Failed (performed : PerformedCall) : Prop := performed.error = some .invalidVerificationCode

instance (performed : PerformedCall) : Decidable performed.Failed :=
  inferInstanceAs (Decidable (_ = _))

/-- The challenge has been expired by hand. -/
def Expired (performed : PerformedCall) : Prop :=
  match performed.call with
  | .expire => True
  | .verify _ | .consume => False

end PerformedCall

namespace VerificationChallenge

/-- The calls that have been performed on a challenge, oldest first. -/
def performAll (sha256 : String → String) (challenge : VerificationChallenge) :
    List (Datetime × ChallengeCall) → List PerformedCall
  | [] => []
  | (now, call) :: calls =>
    let answer := challenge.perform sha256 now call
    { time := now, call, error := answer.error } :: answer.challenge.performAll sha256 calls

variable {sha256 : String → String} {challenge : VerificationChallenge} {now : Datetime}

/-- The challenge may be used: it has not succeeded or expired, and an attempt is left. -/
structure Usable (challenge : VerificationChallenge) (now : Datetime) : Prop where
  not_succeeded : challenge.succeededAt = none
  not_marked : challenge.expiredAt = none
  not_expired : now < challenge.expiresAt
  attempt_left : challenge.failedAttempts < challenge.maxAttempts

/-- A call that is refused raises another error than that of a wrong code, and it marks the
challenge at most as expired. -/
structure Refused (challenge : VerificationChallenge) (now : Datetime) (answer : ChallengeAnswer) :
    Prop where
  raised : answer.error.isSome
  not_wrong : answer.error ≠ some .invalidVerificationCode
  challenge_eq : answer.challenge = challenge ∨
    answer.challenge = (challenge.expire now).challenge

/-- `ensure_usable` lets a usable challenge pass, and no other one. -/
theorem ensureUsable_cases (challenge : VerificationChallenge) (now : Datetime) :
    (challenge.Usable now ∧
        challenge.ensureUsable now = { challenge, error := none, events := [] }) ∨
      challenge.Refused now (challenge.ensureUsable now) := by
  unfold ensureUsable
  by_cases hsucceeded : challenge.isSucceeded
  · rw [if_pos hsucceeded]
    exact .inr ⟨rfl, by simp, .inl rfl⟩
  rw [if_neg hsucceeded]
  by_cases hexpired : challenge.isExpired now
  · rw [if_pos hexpired]
    exact .inr ⟨rfl, by simp, .inr rfl⟩
  rw [if_neg hexpired]
  by_cases hexhausted : challenge.maxAttempts ≤ challenge.failedAttempts
  · rw [if_pos hexhausted]
    exact .inr ⟨rfl, by simp, .inl rfl⟩
  rw [if_neg hexhausted]
  refine .inl ⟨?_, rfl⟩
  have hopen : challenge.expiredAt = none ∧ now < challenge.expiresAt := by
    simpa [isExpired, Option.isSome_iff_ne_none] using hexpired
  exact ⟨by simpa [isSucceeded] using hsucceeded, hopen.1, hopen.2, Nat.not_le.mp hexhausted⟩

/-- `consume` succeeds on a usable challenge and on no other one. -/
theorem consumeOrRaise_cases (challenge : VerificationChallenge) (now : Datetime) :
    (challenge.Usable now ∧ (challenge.consumeOrRaise now).error = none ∧
        (challenge.consumeOrRaise now).challenge = { challenge with succeededAt := some now }) ∨
      challenge.Refused now (challenge.consumeOrRaise now) := by
  unfold consumeOrRaise
  rcases ensureUsable_cases challenge now with ⟨husable, hpass⟩ | hrefused
  · rw [hpass]
    exact .inl ⟨husable, rfl, rfl⟩
  · simp only [if_pos hrefused.raised]
    exact .inr hrefused

/-- `verify` succeeds, counts a failed attempt, or is refused. -/
theorem verify_cases (sha256 : String → String) (challenge : VerificationChallenge)
    (code : VerificationCode) (now : Datetime) :
    (challenge.Usable now ∧ (challenge.verify sha256 code now).error = none ∧
        (challenge.verify sha256 code now).challenge = { challenge with succeededAt := some now }) ∨
      ((challenge.verify sha256 code now).error = some .invalidVerificationCode ∧
        (challenge.verify sha256 code now).challenge =
          { challenge with failedAttempts := challenge.failedAttempts + 1 }) ∨
      challenge.Refused now (challenge.verify sha256 code now) := by
  unfold verify
  rcases ensureUsable_cases challenge now with ⟨husable, hpass⟩ | hrefused
  · rw [hpass]
    cases hmatch : code.matchesDigest sha256 challenge.codeDigest with
    | none =>
      simp only [Option.isSome_none, Bool.false_eq_true, if_false, hmatch]
      exact .inr (.inr ⟨rfl, nofun, .inl rfl⟩)
    | some correct =>
      cases correct with
      | false =>
        simp only [Option.isSome_none, Bool.false_eq_true, if_false, hmatch]
        exact .inr (.inl ⟨trivial, trivial⟩)
      | true =>
        simp only [Option.isSome_none, Bool.false_eq_true, if_false, hmatch]
        exact (consumeOrRaise_cases challenge now).imp_right .inr
  · simp only [if_pos hrefused.raised]
    exact .inr (.inr hrefused)

/-- `consume` accepts exactly the usable challenges. -/
theorem consume_eq_consumeOrRaise (challenge : VerificationChallenge) (now : Datetime) :
    challenge.consume now =
      { challenge := (challenge.consumeOrRaise now).challenge
        accepted := (challenge.consumeOrRaise now).error.isNone
        events := (challenge.consumeOrRaise now).events } := by
  have haccepted : (challenge.expire now).accepted = false := by
    unfold expire
    split <;> rfl
  unfold consume consumeOrRaise ensureUsable
  by_cases hsucceeded : challenge.isSucceeded
  · simp [hsucceeded]
  by_cases hexpired : challenge.isExpired now
  · simp only [if_neg hsucceeded, if_pos hexpired]
    exact congrArg (fun accepted : Bool => { challenge.expire now with accepted }) haccepted
  by_cases hexhausted : challenge.maxAttempts ≤ challenge.failedAttempts
  · simp [hsucceeded, hexpired, hexhausted]
  · simp [hsucceeded, hexpired, hexhausted]

/-- `expire` leaves all but the mark as it is. -/
theorem expire_challenge (challenge : VerificationChallenge) (now : Datetime) :
    ∃ mark, mark ≠ none ∧
      (challenge.expire now).challenge = { challenge with expiredAt := mark } := by
  unfold expire
  split
  · next hmarked => exact ⟨challenge.expiredAt, Option.isSome_iff_ne_none.mp hmarked, rfl⟩
  · exact ⟨some now, Option.some_ne_none _, rfl⟩

/-- What a call can do: succeed on a usable challenge, count a failed attempt, or leave the
challenge up to its mark. -/
theorem perform_cases (sha256 : String → String) (challenge : VerificationChallenge)
    (now : Datetime) (call : ChallengeCall) :
    let answer := challenge.perform sha256 now call
    let performed : PerformedCall := { time := now, call, error := answer.error }
    (performed.Succeeded ∧ ¬ performed.Failed ∧ ¬ performed.Expired ∧ challenge.Usable now ∧
        answer.challenge = { challenge with succeededAt := some now }) ∨
      (¬ performed.Succeeded ∧ performed.Failed ∧ ¬ performed.Expired ∧
        answer.challenge = { challenge with failedAttempts := challenge.failedAttempts + 1 }) ∨
      ¬ performed.Succeeded ∧ ¬ performed.Failed ∧
        ∃ mark, answer.challenge = { challenge with expiredAt := mark } ∧
          (challenge.expiredAt ≠ none → mark ≠ none) ∧ (performed.Expired → mark ≠ none) := by
  intro answer performed
  have hexpire := challenge.expire_challenge now
  -- A refusal of `verify` or `consume` is the third case.
  have hrefusal (hcall : performed.Succeeded → answer.error = none) (hmanual : ¬ performed.Expired)
      (h : challenge.Refused now answer) :
      ¬ performed.Succeeded ∧ ¬ performed.Failed ∧
        ∃ mark, answer.challenge = { challenge with expiredAt := mark } ∧
          (challenge.expiredAt ≠ none → mark ≠ none) ∧ (performed.Expired → mark ≠ none) := by
    refine ⟨fun hsucceeded => ?_, h.not_wrong, ?_⟩
    · exact Option.isSome_iff_ne_none.mp h.raised (hcall hsucceeded)
    · rcases h.challenge_eq with hsame | hmarked
      · exact ⟨challenge.expiredAt, hsame, fun h => h, fun h => absurd h hmanual⟩
      · obtain ⟨mark, hmark, heq⟩ := hexpire
        exact ⟨mark, hmarked.trans heq, fun _ => hmark, fun _ => hmark⟩
  have hsucceeded_not_failed (h : answer.error = none) : ¬ performed.Failed := by
    intro hfailed
    cases h.symm.trans hfailed
  cases call with
  | expire =>
    obtain ⟨mark, hmark, heq⟩ := hexpire
    exact .inr (.inr ⟨fun h => h, hsucceeded_not_failed rfl, mark, heq, fun _ => hmark,
      fun _ => hmark⟩)
  | consume =>
    rcases consumeOrRaise_cases challenge now with ⟨husable, herror, hchallenge⟩ | hrefused
    · exact .inl ⟨herror, hsucceeded_not_failed herror, fun h => h, husable, hchallenge⟩
    · exact .inr (.inr (hrefusal (fun h => h) (fun h => h) hrefused))
  | verify code =>
    rcases verify_cases sha256 challenge code now with
      ⟨husable, herror, hchallenge⟩ | ⟨hwrong, hchallenge⟩ | hrefused
    · exact .inl ⟨herror, hsucceeded_not_failed herror, fun h => h, husable, hchallenge⟩
    · refine .inr (.inl ⟨fun hsucceeded => ?_, hwrong, fun h => h, hchallenge⟩)
      cases hwrong.symm.trans hsucceeded
    · exact .inr (.inr (hrefusal (fun h => h) (fun h => h) hrefused))

/-- The challenge is over: it has succeeded or is marked as expired. -/
def Over (challenge : VerificationChallenge) : Prop :=
  challenge.succeededAt ≠ none ∨ challenge.expiredAt ≠ none

/-- A challenge that is over stays so, and no call on it succeeds. -/
theorem Over.perform (h : challenge.Over) (sha256 : String → String) (now : Datetime)
    (call : ChallengeCall) :
    let answer := challenge.perform sha256 now call
    answer.challenge.Over ∧
      ¬ ({ time := now, call, error := answer.error } : PerformedCall).Succeeded := by
  intro answer
  rcases perform_cases sha256 challenge now call with
    ⟨_, _, _, husable, _⟩ | ⟨hnot, _, _, hchallenge⟩ | ⟨hnot, _, mark, hchallenge, hmark, _⟩
  · rcases h with hsucceeded | hexpired
    · exact absurd husable.not_succeeded hsucceeded
    · exact absurd husable.not_marked hexpired
  · refine ⟨?_, hnot⟩
    rw [hchallenge]
    exact h
  · refine ⟨?_, hnot⟩
    rw [hchallenge]
    exact h.imp_right hmark

/-- No call on a challenge that is over succeeds. -/
theorem Over.performAll (h : challenge.Over) (calls : List (Datetime × ChallengeCall)) :
    ∀ performed ∈ challenge.performAll sha256 calls, ¬ performed.Succeeded := by
  induction calls generalizing challenge with
  | nil => exact fun performed hmem => absurd hmem List.not_mem_nil
  | cons head calls ih =>
    obtain ⟨now, call⟩ := head
    have hstep := h.perform sha256 now call
    intro performed hmem
    rcases List.mem_cons.mp hmem with rfl | hmem
    · exact hstep.2
    · exact ih hstep.1 performed hmem

/-- A call leaves the limits of the challenge and counts the attempt if it has failed. It ends
the challenge if it succeeds or expires it. -/
theorem perform_frame (sha256 : String → String) (challenge : VerificationChallenge)
    (now : Datetime) (call : ChallengeCall) :
    let answer := challenge.perform sha256 now call
    let performed : PerformedCall := { time := now, call, error := answer.error }
    answer.challenge.expiresAt = challenge.expiresAt ∧
      answer.challenge.maxAttempts = challenge.maxAttempts ∧
      answer.challenge.failedAttempts =
        challenge.failedAttempts + (if performed.Failed then 1 else 0) ∧
      (performed.Succeeded ∨ performed.Expired → answer.challenge.Over) := by
  intro answer performed
  rcases perform_cases sha256 challenge now call with
    ⟨_, hfailed, _, _, hchallenge⟩ | ⟨hnot, hfailed, hmanual, hchallenge⟩ |
      ⟨hnot, hfailed, mark, hchallenge, _, hmark⟩
  · rw [if_neg hfailed]
    simp only [answer, hchallenge]
    exact ⟨trivial, trivial, rfl, fun _ => .inl (Option.some_ne_none _)⟩
  · rw [if_pos hfailed]
    simp only [answer, hchallenge]
    exact ⟨trivial, trivial, trivial, fun h => (h.elim hnot hmanual).elim⟩
  · rw [if_neg hfailed]
    simp only [answer, hchallenge]
    exact ⟨trivial, trivial, rfl, fun h => .inr (hmark (h.resolve_left hnot))⟩

/-- A verification that succeeds does so before the expiry, while an attempt is left, and after
no call that has ended the challenge. -/
theorem succeeded_in_time {calls : List (Datetime × ChallengeCall)}
    {before after : List PerformedCall} {performed : PerformedCall}
    (h : challenge.performAll sha256 calls = before ++ performed :: after)
    (hsucceeded : performed.Succeeded) :
    performed.time < challenge.expiresAt ∧
      challenge.failedAttempts + before.countP (fun call => call.Failed) < challenge.maxAttempts ∧
      ∀ call ∈ before, ¬ call.Succeeded ∧ ¬ call.Expired := by
  induction calls generalizing challenge before with
  | nil =>
    have hempty : [] = before ++ performed :: after := h
    simp at hempty
  | cons head calls ih =>
    obtain ⟨now, call⟩ := head
    cases before with
    | nil =>
      obtain ⟨rfl, _⟩ := List.cons.inj h
      rcases perform_cases sha256 challenge now call with
        ⟨_, _, _, husable, _⟩ | ⟨hnot, _⟩ | ⟨hnot, _⟩
      · exact ⟨husable.not_expired, husable.attempt_left,
          fun _ hmem => absurd hmem List.not_mem_nil⟩
      · exact absurd hsucceeded hnot
      · exact absurd hsucceeded hnot
    | cons first before =>
      obtain ⟨rfl, hrest⟩ := List.cons.inj h
      obtain ⟨htime, hattempts, hbefore⟩ := ih hrest
      obtain ⟨hexpires, hmax, hcount, hover⟩ := perform_frame sha256 challenge now call
      rw [hexpires] at htime
      rw [hmax, hcount] at hattempts
      refine ⟨htime, ?_, ?_⟩
      · rw [List.countP_cons]
        simp only [decide_eq_true_eq]
        omega
      · intro earlier hmem
        rcases List.mem_cons.mp hmem with rfl | hmem
        · rw [← not_or]
          intro hended
          have hlater : performed ∈
              (challenge.perform sha256 now call).challenge.performAll sha256 calls := by
            rw [hrest]
            exact List.mem_append_right _ List.mem_cons_self
          exact (hover hended).performAll calls performed hlater hsucceeded
        · exact hbefore earlier hmem

/-- At most one call on a challenge succeeds. -/
theorem countP_succeeded_le_one (calls : List (Datetime × ChallengeCall)) :
    (challenge.performAll sha256 calls).countP (fun call => call.Succeeded) ≤ 1 := by
  induction calls generalizing challenge with
  | nil => exact Nat.zero_le 1
  | cons head calls ih =>
    obtain ⟨now, call⟩ := head
    rw [performAll, List.countP_cons]
    split
    · next hsucceeded =>
      have hover := (perform_frame sha256 challenge now call).2.2.2
        (.inl (of_decide_eq_true hsucceeded))
      have hnone : ((challenge.perform sha256 now call).challenge.performAll sha256 calls).countP
          (fun call => call.Succeeded) = 0 := by
        rw [List.countP_eq_zero]
        exact fun performed hmem => by simpa using hover.performAll calls performed hmem
      rw [hnone]
    · exact ih

end VerificationChallenge

/-- Whatever calls are performed on a challenge, at most one verification succeeds. It does so
before the expiry and while fewer attempts than the maximum have failed. -/
theorem verification_succeeds_once (sha256 : String → String) (challenge : VerificationChallenge)
    (calls : List (Datetime × ChallengeCall)) :
    (challenge.performAll sha256 calls).countP (fun call => call.Succeeded) ≤ 1 ∧
      ∀ before performed after,
        challenge.performAll sha256 calls = before ++ performed :: after → performed.Succeeded →
          performed.time < challenge.expiresAt ∧
          challenge.failedAttempts + before.countP (fun call => call.Failed) <
            challenge.maxAttempts :=
  ⟨challenge.countP_succeeded_le_one calls, fun _ _ _ h hsucceeded =>
    let hin := VerificationChallenge.succeeded_in_time h hsucceeded
    ⟨hin.1, hin.2.1⟩⟩

end Linkapro.Identity
