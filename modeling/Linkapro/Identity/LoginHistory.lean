import Linkapro.Identity.LoginEffects

/-!
# Identity: login attempts one after another

Attempts that do not overlap are run one after another, each from the caches that the
one before has left. Every attempt may crash and every call may fail. Whatever came
before, a challenge opens one session at most, in its lifetime and within its limit,
and a used recovery code is of no use again.
-/

namespace Linkapro.Identity

open Lib Lib.Action

/-- An attempt, and what it has left. -/
structure LoginAttempt where
  command : LoginTwoFactorCommand
  before : MfaState
  progress : LoginProgress
  /-- The value of the attempt. An attempt that has crashed has none. -/
  value : Option (Except AccountError AuthenticationDecision)
  after : MfaState

/-- Run one attempt, each call under a choice of its own. -/
def runAttempt (keys : MfaKeys) (command : LoginTwoFactorCommand) (choices : List MfaChoice)
    (s : MfaState) : LoginAttempt :=
  let run := runAlone (MfaState.exec keys) choices (command.program keys).run [] s
  { command
    before := s
    progress := (progressStages keys command.token).stage run.log
    value := run.value
    after := run.state }

/-- Run attempts one after another. -/
def runAttempts (keys : MfaKeys) :
    MfaState → List (LoginTwoFactorCommand × List MfaChoice) → List LoginAttempt
  | _, [] => []
  | s, (command, choices) :: rest =>
    let attempt := runAttempt keys command choices s
    attempt :: runAttempts keys attempt.after rest

namespace LoginAttempt

/-- The attempt has answered with this status. -/
def answers (attempt : LoginAttempt) (status : AuthenticationStatus) : Bool :=
  match attempt.value with
  | some (.ok decision) => decision.status = status
  | _ => false

/-- The attempt has opened a session after this check. -/
def Accepts (attempt : LoginAttempt) (check : MfaCheck) : Prop :=
  attempt.progress.attempt = .loggedIn check

/-- The attempt has found its code among the used ones. -/
def isReplay (attempt : LoginAttempt) : Bool :=
  match attempt.progress.attempt with
  | .replayed _ => true
  | _ => false

/-- The attempt has answered that the code is invalid, after a check of the challenge `id` that
was not later than `now`. The replay of an accepted code is not counted. -/
def refuses (id : UUID) (now : Datetime) (attempt : LoginAttempt) : Bool :=
  attempt.answers .invalidMfaCode ∧ attempt.isReplay = false ∧
    attempt.progress.attempt.check?.any fun check => check.challenge.id = id ∧ check.now ≤ now

/-- The attempt has come to an end, and none of its writes has failed. -/
def Undisturbed (attempt : LoginAttempt) : Prop :=
  attempt.value.isSome = true ∧ attempt.progress.attempt ≠ .stopped

instance (attempt : LoginAttempt) (check : MfaCheck) : Decidable (attempt.Accepts check) :=
  inferInstanceAs (Decidable (_ = _))

end LoginAttempt

/-- Every used code belongs to a challenge that has been consumed. -/
def UsedOnceConsumed (s : MfaState) : Prop :=
  ∀ id fingerprint challenge, (s.usedCodes (id, fingerprint)).isSome = true →
    s.stored id = some challenge → challenge.consumedAt.isSome = true

/-- What holds of an attempt after the earlier ones of a run that has begun with the caches
`first`. -/
structure AttemptSound (keys : MfaKeys) (first : MfaState) (earlier : List LoginAttempt)
    (attempt : LoginAttempt) : Prop where
  /-- An attempt that is answered with a session has made a check. -/
  answered : attempt.answers .authenticated = true → ∃ check, attempt.Accepts check
  /-- A challenge is accepted once. -/
  once : ∀ check, attempt.Accepts check → ∀ other ∈ earlier, ∀ check', other.Accepts check' →
    check'.challenge.id ≠ check.challenge.id
  /-- The accepted challenge is the cached one, and has not expired. -/
  inTime : ∀ check, attempt.Accepts check → check.FoundIn attempt.before ∧
    check.now < check.challenge.expiresAt
  /-- Fewer attempts than the limit have been refused before. -/
  failures : ∀ check, attempt.Accepts check →
    earlier.countP (LoginAttempt.refuses check.challenge.id check.now) <
      check.challenge.maxAttempts
  /-- A code that the device refuses is accepted by the consumption of a recovery code. -/
  recovered : ∀ check, attempt.Accepts check → check.totpAccepted = false →
    ConsumedCode keys attempt.command.token attempt.before attempt.after check.challenge.userId
  /-- The recovery code has never been used before. -/
  fresh : ∀ check, attempt.Accepts check → check.totpAccepted = false → ∀ other ∈ earlier,
    ¬ Spent (other.before.getRecoveryCodes check.challenge.userId)
        (keys.hashRecoveryCode attempt.command.token) ∧
      ¬ Spent (other.after.getRecoveryCodes check.challenge.userId)
        (keys.hashRecoveryCode attempt.command.token)
  /-- What has been consumed is used from then on. -/
  spent : ∀ userId, ConsumedCode keys attempt.command.token attempt.before attempt.after userId →
    Spent (attempt.after.getRecoveryCodes userId) (keys.hashRecoveryCode attempt.command.token)
  /-- An attempt changes no recovery code, or exactly the one that it consumes. -/
  exact : attempt.after.getRecoveryCodes = attempt.before.getRecoveryCodes ∨
    ∃ userId now codes code codes', code.isUsed = false ∧
      code.matchesHash (keys.hashRecoveryCode attempt.command.token) = true ∧
      attempt.before.getRecoveryCodes userId = codes ++ code :: codes' ∧
      attempt.after.getRecoveryCodes = Function.update attempt.before.getRecoveryCodes userId
        (codes ++ code.consume now :: codes')
  /-- As long as no attempt is disturbed, no attempt is refused as a replay. -/
  replay : (∀ other ∈ earlier, other.Undisturbed) → UsedOnceConsumed first →
    attempt.isReplay = false

/-- The code that is consumed is the only one that changes. -/
theorem consumeFirst_split {presentedHash : String} {now : Datetime}
    {recoveryCodes updatedCodes : List RecoveryCode}
    (h : consumeFirst presentedHash now recoveryCodes = some updatedCodes) :
    ∃ codes code codes', code.isUsed = false ∧ code.matchesHash presentedHash = true ∧
      recoveryCodes = codes ++ code :: codes' ∧
        updatedCodes = codes ++ code.consume now :: codes' := by
  induction recoveryCodes generalizing updatedCodes with
  | nil => cases h
  | cons first recoveryCodes ih =>
    unfold consumeFirst at h
    by_cases hfirst : first.matchesHash presentedHash = true
    · rw [if_pos hfirst] at h
      split at h
      · cases h
      · next hunused =>
        cases h
        exact ⟨[], first, recoveryCodes, Bool.eq_false_iff.mpr hunused, hfirst, rfl, rfl⟩
    · rw [if_neg hfirst] at h
      obtain ⟨rest, hrest, rfl⟩ := Option.map_eq_some_iff.mp h
      obtain ⟨codes, code, codes', hunused, hmatches, rfl, rfl⟩ := ih hrest
      exact ⟨first :: codes, code, codes', hunused, hmatches, rfl, rfl⟩

/-- The challenge lets a code be tried at `now`. -/
def MfaChallenge.OpenAt (challenge : MfaChallenge) (now : Datetime) : Prop :=
  challenge.method = .totp ∧ challenge.canAttempt now = true

section Challenge

variable {challenge challenge' : MfaChallenge} {presented : Bool} {now : Datetime}

theorem MfaChallenge.openAt_iff : challenge.OpenAt now ↔
    challenge.method = .totp ∧ now < challenge.expiresAt ∧ challenge.consumedAt = none ∧
      challenge.attemptCount < challenge.maxAttempts := by
  simp only [OpenAt, canAttempt, isExpired, attemptsExhausted, decide_eq_true_eq, not_le,
    Option.isNone_iff_eq_none]

/-- What the policy makes of a challenge. -/
theorem MfaChallenge.verify_cases (challenge : MfaChallenge) (presented : Bool) (now : Datetime) :
    (¬ challenge.OpenAt now ∧ challenge.verify presented now = { accepted := false, challenge }) ∨
      (challenge.OpenAt now ∧ challenge.verify presented now =
        { accepted := true, challenge := challenge.consume now }) ∨
      (challenge.OpenAt now ∧ challenge.verify presented now =
        { accepted := false, challenge := challenge.recordFailedAttempt }) := by
  unfold verify
  split
  · next hclosed =>
    refine Or.inl ⟨fun hopen => ?_, rfl⟩
    exact hclosed.elim (fun hmethod => hmethod hopen.1) fun hattempt => hattempt hopen.2
  · next hopen =>
    rw [not_or, not_not, not_not] at hopen
    split
    · exact Or.inr (Or.inl ⟨hopen, rfl⟩)
    · exact Or.inr (Or.inr ⟨hopen, rfl⟩)

/-- The policy may have replaced a challenge. -/
def Verifies (challenge challenge' : MfaChallenge) : Prop :=
  challenge' = challenge ∨
    ∃ presented now, challenge' = (challenge.verify presented now).challenge

/-- A challenge is unchanged, or one more attempt is counted. -/
theorem Verifies.cases (h : Verifies challenge challenge') : challenge' = challenge ∨
    (∃ now, challenge' = challenge.consume now) ∨ challenge' = challenge.recordFailedAttempt := by
  rcases h with rfl | ⟨presented, now, rfl⟩
  · exact Or.inl rfl
  · rcases challenge.verify_cases presented now with ⟨_, hverify⟩ | ⟨_, hverify⟩ | ⟨_, hverify⟩
    · exact Or.inl (by rw [hverify])
    · exact Or.inr (Or.inl ⟨now, by rw [hverify]⟩)
    · exact Or.inr (Or.inr (by rw [hverify]))

/-- A consumed challenge stays consumed. -/
theorem Verifies.consumed (h : Verifies challenge challenge')
    (hconsumed : challenge.consumedAt.isSome = true) : challenge'.consumedAt.isSome = true := by
  rcases h.cases with rfl | ⟨now, rfl⟩ | rfl
  · exact hconsumed
  · rfl
  · exact hconsumed

/-- Attempts are not forgotten. -/
theorem Verifies.attemptCount_le (h : Verifies challenge challenge') :
    challenge.attemptCount ≤ challenge'.attemptCount := by
  rcases h.cases with rfl | ⟨now, rfl⟩ | rfl
  · exact Nat.le_refl _
  · exact Nat.le_succ _
  · exact Nat.le_succ _

/-- A closed challenge stays closed. -/
theorem Verifies.openAt (h : Verifies challenge challenge') (hopen : challenge'.OpenAt now) :
    challenge.OpenAt now := by
  rw [MfaChallenge.openAt_iff] at hopen ⊢
  obtain ⟨hmethod, htime, hunconsumed, hleft⟩ := hopen
  rcases h.cases with rfl | ⟨now', rfl⟩ | rfl
  · exact ⟨hmethod, htime, hunconsumed, hleft⟩
  · cases hunconsumed
  · exact ⟨hmethod, htime, hunconsumed, Nat.lt_of_succ_lt hleft⟩

/-- A challenge that is closed stays closed as time goes on. -/
theorem MfaChallenge.OpenAt.earlier {earlier : Datetime} (h : challenge.OpenAt now)
    (hle : earlier ≤ now) : challenge.OpenAt earlier := by
  rw [openAt_iff] at h ⊢
  exact ⟨h.1, lt_of_le_of_lt hle h.2.1, h.2.2⟩

/-- Only an open challenge is accepted, and it is consumed. -/
theorem MfaChallenge.accepted_of_verify (h : (challenge.verify presented now).accepted = true) :
    challenge.OpenAt now ∧ (challenge.verify presented now).challenge = challenge.consume now := by
  rcases challenge.verify_cases presented now with ⟨_, hverify⟩ | ⟨hopen, hverify⟩ | ⟨_, hverify⟩
  · rw [hverify] at h
    cases h
  · exact ⟨hopen, by rw [hverify]⟩
  · rw [hverify] at h
    cases h

/-- An open challenge that is refused counts the attempt. -/
theorem MfaChallenge.refused_of_verify (h : (challenge.verify presented now).accepted = false) :
    (¬ challenge.OpenAt now ∧ (challenge.verify presented now).challenge = challenge) ∨
      (challenge.verify presented now).challenge.attemptCount = challenge.attemptCount + 1 := by
  rcases challenge.verify_cases presented now with ⟨hclosed, hverify⟩ | ⟨_, hverify⟩ | ⟨_, hverify⟩
  · exact Or.inl ⟨hclosed, by rw [hverify]⟩
  · rw [hverify] at h
    cases h
  · exact Or.inr (by rw [hverify]; rfl)

end Challenge

section Attempt

variable {keys : MfaKeys} {command : LoginTwoFactorCommand} {choices : List MfaChoice}
  {s before after : MfaState} {token : String} {check : MfaCheck}

/-- What an attempt has changed, and how it has ended. -/
structure AttemptRan (keys : MfaKeys) (attempt : LoginAttempt) : Prop where
  effect : Effect keys attempt.command.token attempt.before attempt.progress attempt.after
  ends : ∀ outcome, attempt.value = some outcome → attempt.progress.attempt.Ends outcome

theorem runAttempt_ran (keys : MfaKeys) (command : LoginTwoFactorCommand)
    (choices : List MfaChoice) (s : MfaState) :
    AttemptRan keys (runAttempt keys command choices s) := by
  have htakes : Program.Takes (progressStages keys command.token)
      ((progressStages keys command.token).stage []) (command.program keys).run
      fun last outcome => last.attempt.Ends outcome := command.ends
  have hfollows := htakes.follows
  obtain ⟨heffect, hends⟩ := hfollows.runAlone (effect_keepsAlone keys command.token s)
    (s := s) Untouched.refl choices
  exact ⟨heffect, hends⟩

/-- A challenge that is stored after an attempt comes from the one that was stored before. -/
theorem ChangedAtMost.stored_from (h : ChangedAtMost keys token before after) {id : UUID}
    {challenge' : MfaChallenge} (hafter : after.stored id = some challenge') :
    ∃ challenge, before.stored id = some challenge ∧ Verifies challenge challenge' := by
  rcases h.stored with hsame | ⟨check, presented, hwritten⟩
  · exact ⟨challenge', hsame ▸ hafter, Or.inl rfl⟩
  · rw [hwritten.stored] at hafter
    by_cases hid : id = check.challenge.id
    · rw [hid, Function.update_self] at hafter
      exact ⟨check.challenge, hid ▸ hwritten.found,
        Or.inr ⟨presented, check.now, (Option.some.inj hafter).symm⟩⟩
    · rw [Function.update_of_ne hid] at hafter
      exact ⟨challenge', hafter, Or.inl rfl⟩

/-- A spent code stays spent. -/
theorem ChangedAtMost.spent (h : ChangedAtMost keys token before after) {userId : UUID}
    {hash : String} (hspent : Spent (before.getRecoveryCodes userId) hash) :
    Spent (after.getRecoveryCodes userId) hash := by
  rcases h.recoveryCodes with hsame | ⟨userId', now, updatedCodes, hconsume, hupdate⟩
  · rw [hsame]
    exact hspent
  · rw [hupdate]
    by_cases hid : userId = userId'
    · rw [hid, Function.update_self]
      exact (hid ▸ hspent).of_consumeFirst hconsume
    · rw [Function.update_of_ne hid]
      exact hspent

theorem ConsumedCode.spent {userId : UUID} (h : ConsumedCode keys token before after userId) :
    Spent (after.getRecoveryCodes userId) (keys.hashRecoveryCode token) := by
  obtain ⟨now, updatedCodes, hconsume, hupdate⟩ := h
  rw [hupdate, Function.update_self]
  exact spent_of_consumeFirst hconsume

theorem ConsumedCode.not_spent {userId : UUID} (h : ConsumedCode keys token before after userId) :
    ¬ Spent (before.getRecoveryCodes userId) (keys.hashRecoveryCode token) := by
  obtain ⟨now, updatedCodes, hconsume, _⟩ := h
  exact fun hspent => hspent.not_usable (isSome_consumeFirst_iff.mp (by rw [hconsume]; rfl))

/-- An attempt changes no recovery code, or exactly the one that it consumes. -/
theorem ChangedAtMost.exact (h : ChangedAtMost keys token before after) :
    after.getRecoveryCodes = before.getRecoveryCodes ∨
      ∃ userId now codes code codes', code.isUsed = false ∧
        code.matchesHash (keys.hashRecoveryCode token) = true ∧
        before.getRecoveryCodes userId = codes ++ code :: codes' ∧
        after.getRecoveryCodes = Function.update before.getRecoveryCodes userId
          (codes ++ code.consume now :: codes') := by
  refine h.recoveryCodes.imp id ?_
  rintro ⟨userId, now, updatedCodes, hconsume, hupdate⟩
  obtain ⟨codes, code, codes', hunused, hmatches, hbefore, rfl⟩ := consumeFirst_split hconsume
  exact ⟨userId, now, codes, code, codes', hunused, hmatches, hbefore, hupdate⟩

end Attempt

/-- What every attempt of a run keeps. -/
structure History (first : MfaState) (earlier : List LoginAttempt) (s : MfaState) : Prop where
  /-- What has been accepted has been consumed. -/
  accepted : ∀ other ∈ earlier, ∀ check, other.Accepts check → ∀ challenge,
    s.stored check.challenge.id = some challenge → challenge.consumedAt.isSome = true
  /-- What has been refused has been counted, or the challenge is closed. -/
  refused : ∀ id now challenge, s.stored id = some challenge →
    earlier.countP (LoginAttempt.refuses id now) ≤ challenge.attemptCount ∨ ¬ challenge.OpenAt now
  /-- What has been spent is spent. -/
  spent : ∀ other ∈ earlier, ∀ userId hash,
    Spent (other.before.getRecoveryCodes userId) hash ∨
      Spent (other.after.getRecoveryCodes userId) hash → Spent (s.getRecoveryCodes userId) hash
  /-- What has been used has been consumed, if no attempt has been disturbed. -/
  used : (∀ other ∈ earlier, other.Undisturbed) → UsedOnceConsumed first → UsedOnceConsumed s

theorem History.start {s : MfaState} : History s [] s where
  accepted _ h := by cases h
  refused _ _ _ _ := Or.inl (Nat.zero_le _)
  spent _ h := by cases h
  used _ h := h

section Step

variable {keys : MfaKeys} {attempt : LoginAttempt} {check : MfaCheck} {first : MfaState}
  {earlier : List LoginAttempt}

/-- An accepted attempt has written its challenge back. -/
theorem AttemptRan.wrote_of_accepts (h : AttemptRan keys attempt)
    (haccepts : attempt.Accepts check) :
    Wrote keys attempt.command.token attempt.before attempt.after check true := by
  have heffect := h.effect
  unfold Effect at heffect
  rwa [haccepts] at heffect

/-- The challenge of an accepted attempt was open. -/
theorem AttemptRan.open_of_accepts (h : AttemptRan keys attempt)
    (haccepts : attempt.Accepts check) :
    check.FoundIn attempt.before ∧ check.challenge.OpenAt check.now := by
  obtain ⟨presented, hback, haccepted⟩ := (h.wrote_of_accepts haccepts).challenge
  exact ⟨hback.found, (MfaChallenge.accepted_of_verify haccepted).1⟩

/-- The challenge of an accepted attempt is consumed. -/
theorem AttemptRan.consumed_of_accepts (h : AttemptRan keys attempt)
    (haccepts : attempt.Accepts check) {challenge : MfaChallenge}
    (hstored : attempt.after.stored check.challenge.id = some challenge) :
    challenge.consumedAt.isSome = true := by
  obtain ⟨presented, hback, haccepted⟩ := (h.wrote_of_accepts haccepts).challenge
  rw [hback.stored, Function.update_self,
    (MfaChallenge.accepted_of_verify haccepted).2] at hstored
  rw [← Option.some.inj hstored]
  rfl

/-- A refused attempt that is no replay has written its challenge back. -/
theorem AttemptRan.wrote_of_refused (h : AttemptRan keys attempt)
    (hanswers : attempt.answers .invalidMfaCode = true) (hnot : attempt.isReplay = false)
    (hcheck : attempt.progress.attempt.check? = some check) :
    Wrote keys attempt.command.token attempt.before attempt.after check false := by
  unfold LoginAttempt.answers at hanswers
  split at hanswers
  · next decision hvalue =>
    have hstatus := of_decide_eq_true hanswers
    rcases (h.ends _ hvalue).refused decision rfl hstatus with ⟨check', hstage⟩ | ⟨check', hstage⟩
    · rw [hstage] at hcheck
      cases hcheck
      have heffect := h.effect
      unfold Effect at heffect
      rwa [hstage] at heffect
    · rw [LoginAttempt.isReplay, hstage] at hnot
      cases hnot
  · cases hanswers

/-- A refused attempt has been counted, or the challenge was closed. -/
theorem AttemptRan.counted_of_refuses (h : AttemptRan keys attempt) {id : UUID} {now : Datetime}
    (hrefuses : attempt.refuses id now = true) {challenge' : MfaChallenge}
    (hstored : attempt.after.stored id = some challenge') :
    ∃ challenge, attempt.before.stored id = some challenge ∧ Verifies challenge challenge' ∧
      (¬ challenge.OpenAt now ∨ challenge'.attemptCount = challenge.attemptCount + 1) := by
  obtain ⟨hanswers, hnot, hany⟩ := of_decide_eq_true hrefuses
  obtain ⟨check, hcheck, hmatches⟩ := (Option.any_eq_true _ _).mp hany
  obtain ⟨rfl, hnow⟩ := of_decide_eq_true hmatches
  obtain ⟨presented, hback, hrefused⟩ := (h.wrote_of_refused hanswers hnot hcheck).challenge
  rw [hback.stored, Function.update_self] at hstored
  obtain rfl := Option.some.inj hstored
  refine ⟨check.challenge, hback.found, Or.inr ⟨presented, check.now, rfl⟩, ?_⟩
  refine (MfaChallenge.refused_of_verify hrefused).imp (fun hclosed hopen => ?_) id
  exact hclosed.1 (hopen.earlier hnow)

/-- An attempt that has not been disturbed marks a code for a challenge that it consumes. -/
theorem AttemptRan.usedOnceConsumed (h : AttemptRan keys attempt) (hcalm : attempt.Undisturbed)
    (hbefore : UsedOnceConsumed attempt.before) : UsedOnceConsumed attempt.after := by
  have hkept (hstored : attempt.after.stored = attempt.before.stored)
      (hused : attempt.after.usedCodes = attempt.before.usedCodes) :
      UsedOnceConsumed attempt.after := by
    intro id fingerprint challenge
    rw [hstored, hused]
    exact hbefore id fingerprint challenge
  have hwrote {check : MfaCheck} {accepted : Bool} (hwrote : Wrote keys attempt.command.token
      attempt.before attempt.after check accepted) : UsedOnceConsumed attempt.after := by
    intro id fingerprint challenge' hmarked hstored
    obtain ⟨presented, hback, haccepted⟩ := hwrote.challenge
    rw [hback.stored] at hstored
    by_cases hid : id = check.challenge.id
    · rw [hid, Function.update_self] at hstored
      obtain rfl := Option.some.inj hstored
      cases accepted with
      | true =>
        rw [(MfaChallenge.accepted_of_verify haccepted).2]
        rfl
      | false =>
        rw [hwrote.refused rfl] at hmarked
        have hverifies : Verifies check.challenge
            (check.challenge.verify presented check.now).challenge :=
          Or.inr ⟨presented, check.now, rfl⟩
        exact hverifies.consumed (hbefore id fingerprint _ hmarked (hid ▸ hback.found))
    · rw [Function.update_of_ne hid] at hstored
      rw [hwrote.usedCodes (id, fingerprint) hid] at hmarked
      exact hbefore id fingerprint challenge' hmarked hstored
  obtain ⟨outcome, houtcome⟩ := Option.isSome_iff_exists.mp hcalm.1
  have hsettled := (h.ends outcome houtcome).settled
  have heffect := h.effect
  unfold Effect at heffect
  split at heffect
  · exact hkept heffect.stored heffect.usedCodes
  · exact hkept heffect.1.stored heffect.1.usedCodes
  · exact hkept heffect.1.stored heffect.1.usedCodes
  · exact hkept heffect.1.stored heffect.1.usedCodes
  · exact hkept heffect.1 heffect.2.1
  · exact hkept heffect.1.stored heffect.1.usedCodes
  · next hstage =>
    rw [hstage] at hsettled
    cases hsettled
  · next hstage =>
    rw [hstage] at hsettled
    cases hsettled
  · exact hwrote heffect
  · exact hwrote heffect
  · next hstage => exact absurd hstage hcalm.2

/-- An attempt keeps what the earlier ones have established. -/
theorem AttemptRan.history (h : AttemptRan keys attempt)
    (hhistory : History first earlier attempt.before) :
    History first (earlier ++ [attempt]) attempt.after where
  accepted other hother check haccepts challenge' hstored := by
    rcases List.mem_append.mp hother with hearlier | hlast
    · obtain ⟨challenge, hbefore, hverifies⟩ := h.effect.changedAtMost.stored_from hstored
      exact hverifies.consumed (hhistory.accepted other hearlier check haccepts challenge hbefore)
    · cases List.mem_singleton.mp hlast
      exact h.consumed_of_accepts haccepts hstored
  refused id now challenge' hstored := by
    rw [List.countP_append]
    by_cases hrefuses : attempt.refuses id now = true
    · rw [List.countP_singleton, if_pos hrefuses]
      obtain ⟨challenge, hbefore, hverifies, hcounted⟩ := h.counted_of_refuses hrefuses hstored
      rcases hhistory.refused id now challenge hbefore with hcount | hclosed
      · rcases hcounted with hclosed | hcounted
        · exact Or.inr fun hopen => hclosed (hverifies.openAt hopen)
        · exact Or.inl (hcounted ▸ Nat.succ_le_succ hcount)
      · exact Or.inr fun hopen => hclosed (hverifies.openAt hopen)
    · rw [List.countP_singleton, if_neg hrefuses, Nat.add_zero]
      obtain ⟨challenge, hbefore, hverifies⟩ := h.effect.changedAtMost.stored_from hstored
      exact (hhistory.refused id now challenge hbefore).imp
        (fun hcount => Nat.le_trans hcount hverifies.attemptCount_le)
        fun hclosed hopen => hclosed (hverifies.openAt hopen)
  spent other hother userId hash hspent := by
    rcases List.mem_append.mp hother with hearlier | hlast
    · exact h.effect.changedAtMost.spent (hhistory.spent other hearlier userId hash hspent)
    · cases List.mem_singleton.mp hlast
      exact hspent.elim h.effect.changedAtMost.spent id
  used hcalm hfirst := by
    have hbefore := hhistory.used (fun other hother => hcalm other (List.mem_append_left _ hother))
      hfirst
    exact h.usedOnceConsumed
      (hcalm attempt (List.mem_append_right _ (List.mem_singleton.mpr rfl))) hbefore

/-- What the earlier attempts have established makes the next one sound. -/
theorem AttemptRan.sound (h : AttemptRan keys attempt)
    (hhistory : History first earlier attempt.before) :
    AttemptSound keys first earlier attempt where
  answered hanswers := by
    unfold LoginAttempt.answers at hanswers
    split at hanswers
    · next decision hvalue =>
      exact (h.ends _ hvalue).accepted decision rfl (of_decide_eq_true hanswers)
    · cases hanswers
  once check haccepts other hother check' haccepts' hid := by
    obtain ⟨hfound, hopen⟩ := h.open_of_accepts haccepts
    have hconsumed := hhistory.accepted other hother check' haccepts' check.challenge (hid ▸ hfound)
    rw [(MfaChallenge.openAt_iff.mp hopen).2.2.1] at hconsumed
    cases hconsumed
  inTime check haccepts := by
    obtain ⟨hfound, hopen⟩ := h.open_of_accepts haccepts
    exact ⟨hfound, (MfaChallenge.openAt_iff.mp hopen).2.1⟩
  failures check haccepts := by
    obtain ⟨hfound, hopen⟩ := h.open_of_accepts haccepts
    rcases hhistory.refused check.challenge.id check.now check.challenge hfound with
      hcount | hclosed
    · exact Nat.lt_of_le_of_lt hcount (MfaChallenge.openAt_iff.mp hopen).2.2.2
    · exact absurd hopen hclosed
  recovered check haccepts htotp := by
    rcases (h.wrote_of_accepts haccepts).recoveryCodes with ⟨_, hdevice⟩ | hconsumed
    · rw [hdevice rfl] at htotp
      cases htotp
    · exact hconsumed
  fresh check haccepts htotp other hother := by
    rcases (h.wrote_of_accepts haccepts).recoveryCodes with ⟨_, hdevice⟩ | hconsumed
    · rw [hdevice rfl] at htotp
      cases htotp
    · refine ⟨fun hspent => ?_, fun hspent => ?_⟩
      · exact hconsumed.not_spent (hhistory.spent other hother _ _ (Or.inl hspent))
      · exact hconsumed.not_spent (hhistory.spent other hother _ _ (Or.inr hspent))
  spent _ hconsumed := hconsumed.spent
  exact := h.effect.changedAtMost.exact
  replay hcalm hfirst := by
    by_contra hreplay
    unfold LoginAttempt.isReplay at hreplay
    split at hreplay
    · next check hstage =>
      have heffect := h.effect
      unfold Effect at heffect
      rw [hstage] at heffect
      obtain ⟨_, hfound, hopen, fingerprint, hused⟩ := heffect
      obtain ⟨hmethod, hattempt⟩ := of_decide_eq_true hopen
      have hconsumed := hhistory.used hcalm hfirst _ _ _ hused hfound
      rw [(MfaChallenge.openAt_iff.mp ⟨hmethod, hattempt⟩).2.2.1] at hconsumed
      cases hconsumed
    · exact hreplay rfl

/-- What a run has established, every attempt of it is sound after. -/
theorem History.run (keys : MfaKeys) :
    ∀ (attempts : List (LoginTwoFactorCommand × List MfaChoice)) {first s : MfaState}
      {earlier : List LoginAttempt}, History first earlier s →
    ∀ before attempt after, runAttempts keys s attempts = before ++ attempt :: after →
      AttemptSound keys first (earlier ++ before) attempt := by
  intro attempts
  induction attempts with
  | nil =>
    intro first s earlier _ before attempt after heq
    cases before <;> cases heq
  | cons next attempts ih =>
    intro first s earlier hhistory before attempt after heq
    obtain ⟨command, choices⟩ := next
    have hran := runAttempt_ran keys command choices s
    cases before with
    | nil =>
      obtain ⟨rfl, _⟩ := List.cons.inj heq
      rw [List.append_nil]
      exact hran.sound hhistory
    | cons other before =>
      obtain ⟨rfl, hrest⟩ := List.cons.inj heq
      have hsound := ih (hran.history hhistory) before attempt after hrest
      rwa [List.append_assoc] at hsound

end Step

/-- In every sequence of attempts, whatever crashes and fails, a challenge is accepted at most
once, before its expiry and after fewer refusals than its limit, a used recovery code is never
accepted, and a consumption changes one code. -/
theorem login_attempts_sound (keys : MfaKeys) (s : MfaState)
    (attempts : List (LoginTwoFactorCommand × List MfaChoice))
    (earlier : List LoginAttempt) (attempt : LoginAttempt) (later : List LoginAttempt)
    (hrun : runAttempts keys s attempts = earlier ++ attempt :: later) :
    AttemptSound keys s earlier attempt :=
  History.start.run keys attempts earlier attempt later hrun

/-- A wrong code, and then a recovery code for the same challenge. -/
def guessAndRecover : List (LoginTwoFactorCommand × List MfaChoice) :=
  [(guessThenRecover false, List.replicate 30 secondFactorChoice),
    (guessThenRecover true, List.replicate 30 secondFactorChoice)]

/-- The first of the two attempts. -/
def guessAttempt : LoginAttempt :=
  runAttempt sampleKeys (guessThenRecover false) (List.replicate 30 secondFactorChoice)
    secondFactorState

/-- The second of the two attempts. -/
def recoverAttempt : LoginAttempt :=
  runAttempt sampleKeys (guessThenRecover true) (List.replicate 30 secondFactorChoice)
    guessAttempt.after

/-- The recovery code opens a session after one refusal. -/
theorem login_attempts_sound_sample : recoverAttempt.answers .authenticated = true ∧
    guessAttempt.refuses 11 (seconds 5) = true ∧
      AttemptSound sampleKeys secondFactorState [guessAttempt] recoverAttempt :=
  ⟨by decide +kernel, by decide +kernel, login_attempts_sound sampleKeys secondFactorState
    guessAndRecover [guessAttempt] recoverAttempt [] rfl⟩

end Linkapro.Identity
