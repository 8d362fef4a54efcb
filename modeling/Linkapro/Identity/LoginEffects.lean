import Linkapro.Identity.LoginAttempts
import Linkapro.Identity.MfaLoginRuns
import Linkapro.Lib.Sequential

/-!
# Identity: what one login attempt changes

The stage of an attempt tells what has become of the caches since the attempt began: a
challenge is replaced by what the policy makes of it, a used code is marked for this
challenge only, and at most one recovery code is consumed. The invariant holds after
every call, also of an attempt that crashes or whose calls fail.
-/

namespace Linkapro.Identity

open Lib Lib.Action

/-- How far an attempt has come, and the recovery codes that it has read. -/
structure LoginProgress where
  attempt : AttemptStage
  read : Option (UUID × List RecoveryCode)

/-- The stage that a call leads to. -/
def advanceProgress (progress : LoginProgress) :
    Call (Raising AccountError MfaOp.Ret) → LoginProgress
  | ⟨.account op, answer⟩ =>
    { progress with attempt := advanceAttempt progress.attempt ⟨op, answer⟩ }
  | ⟨.getRecoveryCodes userId, .ok recoveryCodes⟩ =>
    { attempt := progress.attempt.recover false, read := some (userId, recoveryCodes) }
  | ⟨.saveRecoveryCodes _ _, .ok _⟩ => { progress with attempt := progress.attempt.recover true }
  | ⟨.getRecoveryCodes _, .error _⟩ | ⟨.saveRecoveryCodes _ _, .error _⟩ | ⟨.clockNow, .error _⟩ =>
    { progress with attempt := .stopped }
  | _ => progress

/-- The calls that an attempt with the code `token` may perform at a stage. The codes are
written back without the presented one. -/
def permitsProgress (keys : MfaKeys) (token : String) (progress : LoginProgress) : MfaOp → Prop
  | .account (.service (.consumeRecoveryCode _ _)) => False
  | .account op => permitsAttempt token progress.attempt op
  | .getRecoveryCodes userId =>
    ∃ check, progress.attempt = .checked check ∧ check.totpAccepted = false ∧
      userId = check.challenge.userId
  | .saveRecoveryCodes userId updatedCodes =>
    ∃ check recoveryCodes now, progress.attempt = .recovered check false ∧
      progress.read = some (userId, recoveryCodes) ∧
      consumeFirst (keys.hashRecoveryCode token) now recoveryCodes = some updatedCodes
  | .clearRecoveryCodes _ => False
  | _ => True

/-- The stages of an attempt with all calls on the recovery codes. -/
def progressStages (keys : MfaKeys) (token : String) :
    Stages (Raising AccountError MfaOp.Ret) LoginProgress where
  initial := { attempt := .started, read := none }
  advance := advanceProgress
  permits := permitsProgress keys token

section Program

variable {keys : MfaKeys} {token : String} {progress : LoginProgress} {check : MfaCheck}

/-- What the recovery codes answer is the stage that they lead to. -/
theorem consumeRecoveryCode_ends (hattempt : progress.attempt = .checked check)
    (htotp : check.totpAccepted = false) :
    (consumeRecoveryCode keys check.challenge.userId token).Takes (progressStages keys token)
      progress fun last answer => last.attempt =
        advanceAttempt progress.attempt
          ⟨.service (.consumeRecoveryCode check.challenge.userId token), answer⟩ := by
  rw [hattempt]
  refine Takes.bind
    (P := fun last outcome => (∀ recoveryCodes, outcome = .ok recoveryCodes →
      last.attempt = .recovered check false ∧
        last.read = some (check.challenge.userId, recoveryCodes)) ∧
      ∀ error, outcome = .error error → last.attempt = .stopped)
    (Takes.perform ⟨check, hattempt, htotp, rfl⟩ fun answer _ => ?_)
    (fun last recoveryCodes hlast => ?_) fun last error hlast => hlast.2 error rfl
  · cases answer with
    | error error => exact ⟨fun _ heq => (by cases heq), fun _ _ => rfl⟩
    | ok recoveryCodes =>
      refine ⟨fun _ heq => ?_, fun _ heq => by cases heq⟩
      cases heq
      refine ⟨?_, rfl⟩
      change progress.attempt.recover false = _
      rw [hattempt]
      rfl
  · obtain ⟨hrecovered, hread⟩ := hlast.1 recoveryCodes rfl
    refine Takes.ite (fun _ => hrecovered) fun _ => ?_
    refine Takes.bind
      (P := fun last' outcome => (∀ now, outcome = .ok now → last' = last) ∧
        ∀ error, outcome = .error error → last'.attempt = .stopped)
      (Takes.perform trivial fun answer _ => ?_) (fun last' now hlast' => ?_)
      fun last' error hlast' => hlast'.2 error rfl
    · cases answer with
      | error error => exact ⟨fun _ heq => (by cases heq), fun _ _ => rfl⟩
      | ok now => exact ⟨fun _ _ => rfl, fun _ heq => by cases heq⟩
    · cases hlast'.1 now rfl
      unfold consumeCode
      split
      · exact hrecovered
      · next updatedCodes hconsume =>
        refine Takes.bind
          (P := fun last' outcome => (∀ value, outcome = .ok value →
            last'.attempt = .recovered check true) ∧
              ∀ error, outcome = .error error → last'.attempt = .stopped)
          (Takes.perform ⟨check, recoveryCodes, now, hrecovered, hread, hconsume⟩
            fun answer _ => ?_)
          (fun last' _ hlast' => Takes.pure (hlast'.1 _ rfl))
          fun last' error hlast' => hlast'.2 error rfl
        cases answer with
        | error error => exact ⟨fun _ heq => (by cases heq), fun _ _ => rfl⟩
        | ok value =>
          refine ⟨fun _ _ => ?_, fun _ heq => by cases heq⟩
          change last.attempt.recover true = _
          rw [hrecovered]
          rfl

/-- The calls behind a call lead to the stage that the call leads to. -/
theorem mfaCalls_ends (op : AccountOp) (h : permitsAttempt token progress.attempt op) :
    (mfaCalls keys op).Takes (progressStages keys token) progress fun last answer =>
      (attemptStages token).possible ⟨op, answer⟩ ∧
        last.attempt = advanceAttempt progress.attempt ⟨op, answer⟩ := by
  cases op with
  | service call =>
    cases call with
    | consumeRecoveryCode userId code =>
      obtain ⟨rfl, check, hattempt, htotp, rfl⟩ := h
      exact (consumeRecoveryCode_ends hattempt htotp).mono fun _ _ hlast => ⟨trivial, hlast⟩
    | _ => exact ⟨h, fun _ _ => ⟨trivial, rfl⟩⟩
  | _ => exact ⟨h, fun _ _ => ⟨trivial, rfl⟩⟩

/-- An attempt passes through its stages. -/
theorem LoginTwoFactorCommand.ends (command : LoginTwoFactorCommand) :
    (command.program keys).Takes (progressStages keys command.token)
      (progressStages keys command.token).initial fun last outcome =>
        last.attempt.Ends outcome :=
  Takes.expand (c := LoginProgress.attempt) (fun _ op h => mfaCalls_ends op h)
    (completeMfaLogin_ends command.tempToken)

end Program

/-- The caches of the second factor are the same. -/
structure Untouched (before after : MfaState) : Prop where
  stored : after.stored = before.stored
  usedCodes : after.usedCodes = before.usedCodes
  recoveryCodes : after.getRecoveryCodes = before.getRecoveryCodes

/-- The first code of `userId` with the hash of `token` has been consumed, and nothing else. -/
def ConsumedCode (keys : MfaKeys) (token : String) (before after : MfaState) (userId : UUID) :
    Prop :=
  ∃ now updatedCodes,
    consumeFirst (keys.hashRecoveryCode token) now (before.getRecoveryCodes userId) =
      some updatedCodes ∧
    after.getRecoveryCodes = Function.update before.getRecoveryCodes userId updatedCodes

/-- The checked challenge has been found in the cache. -/
def MfaCheck.FoundIn (check : MfaCheck) (before : MfaState) : Prop :=
  before.stored check.challenge.id = some check.challenge

/-- The challenge of `check` has been replaced by what the policy makes of it. -/
structure WroteBack (before after : MfaState) (check : MfaCheck) (presented : Bool) : Prop where
  found : check.FoundIn before
  stored : after.stored = Function.update before.stored check.challenge.id
    (some (check.challenge.verify presented check.now).challenge)

/-- Used codes have been marked for the challenge `id` at most. -/
def MarkedFor (before after : MfaState) (id : UUID) : Prop :=
  ∀ key, key.1 ≠ id → after.usedCodes key = before.usedCodes key

/-- What an attempt has changed that has written its challenge back. -/
structure Wrote (keys : MfaKeys) (token : String) (before after : MfaState) (check : MfaCheck)
    (accepted : Bool) : Prop where
  challenge : ∃ presented, WroteBack before after check presented ∧
    (check.challenge.verify presented check.now).accepted = accepted
  usedCodes : MarkedFor before after check.challenge.id
  refused : accepted = false → after.usedCodes = before.usedCodes
  recoveryCodes : (after.getRecoveryCodes = before.getRecoveryCodes ∧
      (accepted = true → check.totpAccepted = true)) ∨
    ConsumedCode keys token before after check.challenge.userId

/-- What an attempt changes at most. -/
structure ChangedAtMost (keys : MfaKeys) (token : String) (before after : MfaState) : Prop where
  stored : after.stored = before.stored ∨ ∃ check presented, WroteBack before after check presented
  recoveryCodes : after.getRecoveryCodes = before.getRecoveryCodes ∨
    ∃ userId, ConsumedCode keys token before after userId

/-- What an attempt has changed when it has come so far. -/
def Effect (keys : MfaKeys) (token : String) (before : MfaState) (progress : LoginProgress)
    (after : MfaState) : Prop :=
  match progress.attempt with
  | .started => Untouched before after
  | .found challenge => Untouched before after ∧ before.stored challenge.id = some challenge
  | .checked check => Untouched before after ∧ check.FoundIn before
  | .recovered check false =>
    Untouched before after ∧ check.FoundIn before ∧
      progress.read = some (check.challenge.userId,
        before.getRecoveryCodes check.challenge.userId)
  | .recovered check true =>
    after.stored = before.stored ∧ after.usedCodes = before.usedCodes ∧ check.FoundIn before ∧
      ConsumedCode keys token before after check.challenge.userId
  | .replayed check =>
    Untouched before after ∧ check.FoundIn before ∧ check.isOpen = true ∧
      ∃ fingerprint, (before.usedCodes (check.challenge.id, fingerprint)).isSome = true
  | .unused check =>
    Untouched before after ∧ check.FoundIn before ∧ check.isOpen = true ∧
      check.totpAccepted = true
  | .marked check =>
    after.stored = before.stored ∧ after.getRecoveryCodes = before.getRecoveryCodes ∧
      check.FoundIn before ∧ check.isOpen = true ∧ check.totpAccepted = true ∧
      MarkedFor before after check.challenge.id
  | .written check accepted => Wrote keys token before after check accepted
  | .loggedIn check => Wrote keys token before after check true
  | .stopped => ChangedAtMost keys token before after

section Effect

variable {keys : MfaKeys} {token : String} {before after after' : MfaState} {check : MfaCheck}
  {progress : LoginProgress} {op : MfaOp} {choice : MfaChoice}

theorem Untouched.refl : Untouched before before := ⟨rfl, rfl, rfl⟩

theorem Untouched.trans (h : Untouched before after) (h' : Untouched after after') :
    Untouched before after' :=
  ⟨h'.stored.trans h.stored, h'.usedCodes.trans h.usedCodes,
    h'.recoveryCodes.trans h.recoveryCodes⟩

theorem Untouched.changedAtMost (h : Untouched before after) :
    ChangedAtMost keys token before after :=
  ⟨Or.inl h.stored, Or.inl h.recoveryCodes⟩

/-- A call that changes no cache keeps what has been changed. -/
theorem Effect.congr (h : Effect keys token before progress after)
    (hsame : Untouched after after') :
    Effect keys token before progress after' := by
  obtain ⟨hstored, hused, hcodes⟩ := hsame
  have hconsumed {userId : UUID} (h : ConsumedCode keys token before after userId) :
      ConsumedCode keys token before after' userId := by
    obtain ⟨now, updatedCodes, hconsume, hupdate⟩ := h
    exact ⟨now, updatedCodes, hconsume, hcodes.trans hupdate⟩
  have hmarked {id : UUID} (h : MarkedFor before after id) : MarkedFor before after' id :=
    fun key hkey => (congrFun hused key).trans (h key hkey)
  have hback {check : MfaCheck} {presented : Bool} (h : WroteBack before after check presented) :
      WroteBack before after' check presented := ⟨h.found, hstored.trans h.stored⟩
  have hwrote {check : MfaCheck} {accepted : Bool}
      (h : Wrote keys token before after check accepted) :
      Wrote keys token before after' check accepted := by
    obtain ⟨presented, hwritten, haccepted⟩ := h.challenge
    exact ⟨⟨presented, hback hwritten, haccepted⟩, hmarked h.usedCodes,
      fun hrefused => hused.trans (h.refused hrefused),
      h.recoveryCodes.imp (fun hsame => ⟨hcodes.trans hsame.1, hsame.2⟩) hconsumed⟩
  have huntouched (h : Untouched before after) : Untouched before after' :=
    h.trans ⟨hstored, hused, hcodes⟩
  unfold Effect at h ⊢
  split at h
  · exact huntouched h
  · exact ⟨huntouched h.1, h.2⟩
  · exact ⟨huntouched h.1, h.2⟩
  · exact ⟨huntouched h.1, h.2⟩
  · exact ⟨hstored.trans h.1, hused.trans h.2.1, h.2.2.1, hconsumed h.2.2.2⟩
  · exact ⟨huntouched h.1, h.2⟩
  · exact ⟨huntouched h.1, h.2⟩
  · exact ⟨hstored.trans h.1, hcodes.trans h.2.1, h.2.2.1, h.2.2.2.1, h.2.2.2.2.1,
      hmarked h.2.2.2.2.2⟩
  · exact hwrote h
  · exact hwrote h
  · refine ⟨h.stored.imp hstored.trans ?_, h.recoveryCodes.imp hcodes.trans ?_⟩
    · rintro ⟨check, presented, hwritten⟩
      exact ⟨check, presented, hback hwritten⟩
    · rintro ⟨userId, hconsume⟩
      exact ⟨userId, hconsumed hconsume⟩

/-- What has been changed depends on the stage. -/
theorem Effect.of_attempt {stage : AttemptStage} (hattempt : progress.attempt = stage)
    (h : Effect keys token before { progress with attempt := stage } after) :
    Effect keys token before progress after := by
  subst hattempt
  exact h

/-- Whatever an attempt has changed, it has changed no more than this. -/
theorem Effect.changedAtMost (h : Effect keys token before progress after) :
    ChangedAtMost keys token before after := by
  have hwrote {check : MfaCheck} {accepted : Bool}
      (h : Wrote keys token before after check accepted) :
      ChangedAtMost keys token before after := by
    obtain ⟨presented, hwritten, _⟩ := h.challenge
    exact ⟨Or.inr ⟨check, presented, hwritten⟩, h.recoveryCodes.imp And.left fun h => ⟨_, h⟩⟩
  unfold Effect at h
  split at h
  · exact h.changedAtMost
  · exact h.1.changedAtMost
  · exact h.1.changedAtMost
  · exact h.1.changedAtMost
  · exact ⟨Or.inl h.1, Or.inr ⟨_, h.2.2.2⟩⟩
  · exact h.1.changedAtMost
  · exact h.1.changedAtMost
  · exact ⟨Or.inl h.1, Or.inl h.2.1⟩
  · exact hwrote h
  · exact hwrote h
  · exact h

/-- The calls that write into a cache of the second factor. -/
def MfaOp.writesCache : MfaOp → Bool
  | .account (.service (.saveMfaChallenge _)) | .account (.service (.markUsed _ _ _))
  | .saveRecoveryCodes _ _ | .clearRecoveryCodes _ => true
  | _ => false

/-- Every other call leaves the caches as they are. -/
theorem untouched_exec {s : MfaState} (h : op.writesCache = false) :
    Untouched s (MfaState.exec keys choice op s).2 := by
  refine MfaState.exec_keeps (P := Untouched s) Untouched.refl fun answer after heffect => ?_
  cases op with
  | account op =>
    cases op with
    | service call =>
      cases call with
      | saveMfaChallenge _ | markUsed _ _ _ => cases h
      | _ =>
        cases heffect
        exact Untouched.refl
    | _ =>
      rw [MfaState.account_effect (fun _ h => by cases h) heffect]
      exact ⟨rfl, rfl, rfl⟩
  | saveRecoveryCodes _ _ | clearRecoveryCodes _ => cases h
  | _ =>
    cases heffect
    exact Untouched.refl

/-- A call that neither moves the attempt nor writes. -/
theorem Effect.still (h : Effect keys token before progress after)
    (hstill : ∀ answer, advanceProgress progress ⟨op, answer⟩ = progress)
    (hreads : op.writesCache = false) :
    Effect keys token before
      (advanceProgress progress ⟨op, (MfaState.exec keys choice op after).1⟩)
      (MfaState.exec keys choice op after).2 := by
  rw [hstill]
  exact h.congr (untouched_exec hreads)

/-- The challenge is read. -/
theorem Effect.getMfaChallenge {id : UUID} (h : Effect keys token before progress after)
    (hattempt : progress.attempt = .started) :
    Effect keys token before (advanceProgress progress ⟨.account (.service (.getMfaChallenge id)),
        (MfaState.exec keys choice (.account (.service (.getMfaChallenge id))) after).1⟩)
      (MfaState.exec keys choice (.account (.service (.getMfaChallenge id))) after).2 := by
  have hsame : Untouched after
      (MfaState.exec keys choice (.account (.service (.getMfaChallenge id))) after).2 :=
    untouched_exec rfl
  have huntouched : Untouched before after := by
    unfold Effect at h
    rwa [hattempt] at h
  have hstored := huntouched.stored
  generalize hexec : MfaState.exec keys choice (.account (.service (.getMfaChallenge id))) after =
    outcome at hsame
  obtain ⟨answer, after'⟩ := outcome
  cases answer with
  | error error => exact h.congr hsame
  | ok found =>
    cases found with
    | none => exact h.congr hsame
    | some challenge =>
      have hget := MfaState.answer_getMfaChallenge (congrArg Prod.fst hexec)
      obtain ⟨hid, hcached⟩ := MfaState.stored_of_get hget
      have hnew : (advanceProgress progress
          ⟨.account (.service (.getMfaChallenge id)), .ok (some challenge)⟩).attempt =
            .found challenge := by
        change progress.attempt.find challenge = _
        rw [hattempt]
        rfl
      refine Effect.of_attempt hnew ?_
      refine ⟨huntouched.trans hsame, ?_⟩
      rw [← hstored, hid]
      exact hcached

/-- The code of the device is checked. -/
theorem Effect.verifyTotp {secret presented : String} {now : Datetime} {challenge : MfaChallenge}
    (h : Effect keys token before progress after) (hattempt : progress.attempt = .found challenge) :
    let op : MfaOp := .account (.service (.verifyTotp secret presented now))
    Effect keys token before
      (advanceProgress progress ⟨op, (MfaState.exec keys choice op after).1⟩)
      (MfaState.exec keys choice op after).2 := by
  intro op
  have hsame : Untouched after (MfaState.exec keys choice op after).2 := untouched_exec rfl
  have hfound : Untouched before after ∧ before.stored challenge.id = some challenge := by
    unfold Effect at h
    rwa [hattempt] at h
  generalize MfaState.exec keys choice op after = outcome at hsame
  obtain ⟨answer, after'⟩ := outcome
  cases answer with
  | error error => exact h.congr hsame
  | ok accepted =>
    have hnew : (advanceProgress progress ⟨op, .ok accepted⟩).attempt =
        .checked { challenge, secret, token := presented, now, totpAccepted := accepted } := by
      change progress.attempt.check secret presented now accepted = _
      rw [hattempt]
      rfl
    exact Effect.of_attempt hnew ⟨hfound.1.trans hsame, hfound.2⟩

/-- The code of the device is looked up. -/
theorem Effect.hasBeenUsed {presented : String} (h : Effect keys token before progress after)
    (hattempt : progress.attempt = .checked check) (htotp : check.totpAccepted = true)
    (hopen : check.isOpen = true) :
    let op : MfaOp := .account (.service (.hasBeenUsed check.challenge.id presented))
    Effect keys token before
      (advanceProgress progress ⟨op, (MfaState.exec keys choice op after).1⟩)
      (MfaState.exec keys choice op after).2 := by
  intro op
  have hsame : Untouched after (MfaState.exec keys choice op after).2 := untouched_exec rfl
  have hfound : Untouched before after ∧ check.FoundIn before := by
    unfold Effect at h
    rwa [hattempt] at h
  generalize hexec : MfaState.exec keys choice op after = outcome at hsame
  obtain ⟨(answer : Except AccountError Bool), after'⟩ := outcome
  cases answer with
  | error error => exact h.congr hsame
  | ok used =>
    have hnew : (advanceProgress progress ⟨op, .ok used⟩).attempt =
        if used = true then .replayed check else .unused check := by
      change progress.attempt.lookUp used = _
      rw [hattempt]
      rfl
    have hanswer : (after.usedCodes.get choice.now
        (check.challenge.id, keys.replayFingerprint presented)).isSome = used :=
      (Prod.mk.inj (Except.ok.inj (MfaState.effect_of_answer (congrArg Prod.fst hexec)))).1
    refine Effect.of_attempt hnew ?_
    cases used with
    | false => exact ⟨hfound.1.trans hsame, hfound.2, hopen, htotp⟩
    | true =>
      refine ⟨hfound.1.trans hsame, hfound.2, hopen, keys.replayFingerprint presented, ?_⟩
      rw [← hfound.1.usedCodes]
      exact Lib.ExpiringMap.isSome_of_get hanswer

/-- The code of the device is marked as used. -/
theorem Effect.markUsed {presented : String} {ttl : ℤ} (h : Effect keys token before progress after)
    (hattempt : progress.attempt = .unused check) :
    let op : MfaOp := .account (.service (.markUsed check.challenge.id presented ttl))
    Effect keys token before
      (advanceProgress progress ⟨op, (MfaState.exec keys choice op after).1⟩)
      (MfaState.exec keys choice op after).2 := by
  intro op
  have hunused : Untouched before after ∧ check.FoundIn before ∧ check.isOpen = true ∧
      check.totpAccepted = true := by
    unfold Effect at h
    rwa [hattempt] at h
  obtain ⟨⟨hstored, hused, hcodes⟩, hfound, hopen, htotp⟩ := hunused
  have hstopped (answer : Except AccountError Unit) (hanswer : ∃ error, answer = .error error)
      {after' : MfaState} (hsame : after'.stored = after.stored)
      (hsame' : after'.getRecoveryCodes = after.getRecoveryCodes) :
      Effect keys token before (advanceProgress progress ⟨op, answer⟩) after' := by
    obtain ⟨error, rfl⟩ := hanswer
    exact ⟨Or.inl (hsame.trans hstored), Or.inl (hsame'.trans hcodes)⟩
  rcases MfaState.exec_cases keys choice after op with
    ⟨error, hexec⟩ | ⟨answer, after', heffect, hexec | ⟨error, hexec⟩⟩
  · rw [hexec]
    exact hstopped _ ⟨error, rfl⟩ rfl rfl
  · rw [hexec]
    cases heffect
    have hnew : (advanceProgress progress ⟨op, .ok ()⟩).attempt = .marked check := by
      change progress.attempt.mark = _
      rw [hattempt]
      rfl
    refine Effect.of_attempt hnew ?_
    refine ⟨hstored, hcodes, hfound, hopen, htotp, fun key hkey => ?_⟩
    rw [← hused]
    exact Function.update_of_ne (fun heq => hkey (by rw [heq])) _ _
  · rw [hexec]
    cases heffect
    exact hstopped _ ⟨error, rfl⟩ rfl rfl

/-- What an attempt has changed that is about to write its challenge back. -/
structure Ready (keys : MfaKeys) (token : String) (before after : MfaState) (check : MfaCheck)
    (accepted : Bool) : Prop where
  found : check.FoundIn before
  stored : after.stored = before.stored
  usedCodes : MarkedFor before after check.challenge.id
  refused : accepted = false → after.usedCodes = before.usedCodes
  recoveryCodes : (after.getRecoveryCodes = before.getRecoveryCodes ∧
      (accepted = true → check.totpAccepted = true)) ∨
    ConsumedCode keys token before after check.challenge.userId

theorem Untouched.ready {accepted : Bool} (h : Untouched before after)
    (hfound : check.FoundIn before) (haccepted : accepted = true → check.totpAccepted = true) :
    Ready keys token before after check accepted where
  found := hfound
  stored := h.stored
  usedCodes key _ := congrFun h.usedCodes key
  refused _ := h.usedCodes
  recoveryCodes := Or.inl ⟨h.recoveryCodes, haccepted⟩

/-- A code that is not accepted by anybody is refused, and one that the device has accepted has
been marked. -/
theorem Effect.ready {presented : Bool} (h : Effect keys token before progress after)
    (hverdict : progress.attempt.verdict = some (check, presented))
    (hrefused : progress.attempt = .checked check →
      (check.challenge.verify presented check.now).accepted = false) :
    Ready keys token before after check
      (check.challenge.verify presented check.now).accepted := by
  unfold Effect at h
  cases hattempt : progress.attempt with
  | checked check' =>
    rw [hattempt] at h hverdict hrefused
    cases hverdict
    rw [hrefused rfl]
    exact h.1.ready h.2 fun heq => by cases heq
  | recovered check' accepted =>
    rw [hattempt] at h hverdict
    cases hverdict
    cases presented with
    | false =>
      refine h.1.ready h.2.1 fun haccepted => ?_
      cases verify_presented haccepted
    | true =>
      obtain ⟨hstored, hused, hfound, hconsumed⟩ := h
      exact ⟨hfound, hstored, fun key _ => congrFun hused key, fun _ => hused, Or.inr hconsumed⟩
  | marked check' =>
    rw [hattempt] at h hverdict
    cases hverdict
    obtain ⟨hstored, hcodes, hfound, hopen, htotp, hmarked⟩ := h
    obtain ⟨hmethod, hattempt⟩ := of_decide_eq_true hopen
    refine ⟨hfound, hstored, hmarked, fun hno => ?_, Or.inl ⟨hcodes, fun _ => htotp⟩⟩
    simp [MfaChallenge.verify, hmethod, hattempt] at hno
  | _ =>
    rw [hattempt] at hverdict
    cases hverdict

/-- The challenge is written back. -/
theorem Effect.saveMfaChallenge {presented : Bool} (h : Effect keys token before progress after)
    (hverdict : progress.attempt.verdict = some (check, presented))
    (hrefused : progress.attempt = .checked check →
      (check.challenge.verify presented check.now).accepted = false) :
    let op : MfaOp := .account (.service
      (.saveMfaChallenge (check.challenge.verify presented check.now).challenge))
    Effect keys token before
      (advanceProgress progress ⟨op, (MfaState.exec keys choice op after).1⟩)
      (MfaState.exec keys choice op after).2 := by
  intro op
  have hready := h.ready hverdict hrefused
  have hid := (Attempts.verify_challenge check.challenge presented check.now).1
  have hsaved {after' : MfaState} (heffect : after' = after.saveChallenge
      (check.challenge.verify presented check.now).challenge choice.now) :
      WroteBack before after' check presented ∧ after'.usedCodes = after.usedCodes ∧
        after'.getRecoveryCodes = after.getRecoveryCodes := by
    subst heffect
    refine ⟨⟨hready.found, funext fun id => ?_⟩, rfl, rfl⟩
    refine MfaState.stored_saveChallenge.trans ?_
    rw [hid]
    by_cases heq : id = check.challenge.id
    · rw [if_pos heq, heq, Function.update_self]
    · rw [if_neg heq, Function.update_of_ne heq]
      exact congrFun hready.stored id
  rcases MfaState.exec_cases keys choice after op with
    ⟨error, hexec⟩ | ⟨answer, after', heffect, hexec | ⟨error, hexec⟩⟩
  · rw [hexec]
    exact h.changedAtMost
  · rw [hexec]
    obtain ⟨hback, hused, hcodes⟩ := hsaved (Prod.mk.inj (Except.ok.inj heffect)).2.symm
    have hnew : (advanceProgress progress ⟨op, .ok answer⟩).attempt =
        .written check (check.challenge.verify presented check.now).accepted := by
      change progress.attempt.save = _
      rw [AttemptStage.save, hverdict]
    refine Effect.of_attempt hnew ⟨⟨presented, hback, rfl⟩, fun key hkey => ?_, fun hno => ?_, ?_⟩
    · exact (congrFun hused key).trans (hready.usedCodes key hkey)
    · exact hused.trans (hready.refused hno)
    · refine hready.recoveryCodes.imp (fun hsame => ⟨hcodes.trans hsame.1, hsame.2⟩) ?_
      rintro ⟨now, codes, hconsume, hupdate⟩
      exact ⟨now, codes, hconsume, hcodes.trans hupdate⟩
  · rw [hexec]
    obtain ⟨hback, hused, hcodes⟩ := hsaved (Prod.mk.inj (Except.ok.inj heffect)).2.symm
    refine ⟨Or.inr ⟨check, presented, hback⟩, ?_⟩
    refine h.changedAtMost.recoveryCodes.imp hcodes.trans ?_
    rintro ⟨userId, now, codes, hconsume, hupdate⟩
    exact ⟨userId, now, codes, hconsume, hcodes.trans hupdate⟩

/-- A session is requested. -/
theorem Effect.createIdentitySession {userId family : UUID}
    (h : Effect keys token before progress after)
    (hattempt : progress.attempt = .written check true) :
    let op : MfaOp := .account (.service (.createIdentitySession userId family))
    Effect keys token before
      (advanceProgress progress ⟨op, (MfaState.exec keys choice op after).1⟩)
      (MfaState.exec keys choice op after).2 := by
  intro op
  have hsame : Untouched after (MfaState.exec keys choice op after).2 := untouched_exec rfl
  have hnew (answer : Except AccountError String) :
      (advanceProgress progress ⟨op, answer⟩).attempt = .loggedIn check := by
    change progress.attempt.logIn = _
    rw [hattempt]
    rfl
  refine Effect.of_attempt (hnew _) ?_
  have hwrote : Effect keys token before { progress with attempt := .written check true } after :=
    hattempt ▸ h
  exact hwrote.congr hsame

/-- The recovery codes are read. -/
theorem Effect.getRecoveryCodes (h : Effect keys token before progress after)
    (hattempt : progress.attempt = .checked check) :
    let op : MfaOp := .getRecoveryCodes check.challenge.userId
    Effect keys token before
      (advanceProgress progress ⟨op, (MfaState.exec keys choice op after).1⟩)
      (MfaState.exec keys choice op after).2 := by
  intro op
  have hsame : Untouched after (MfaState.exec keys choice op after).2 := untouched_exec rfl
  have hfound : Untouched before after ∧ check.FoundIn before := by
    unfold Effect at h
    rwa [hattempt] at h
  generalize hexec : MfaState.exec keys choice op after = outcome at hsame
  obtain ⟨(answer : Except AccountError (List RecoveryCode)), after'⟩ := outcome
  cases answer with
  | error error => exact (hfound.1.trans hsame).changedAtMost
  | ok codes =>
    have hanswer : after.getRecoveryCodes check.challenge.userId = codes :=
      (Prod.mk.inj (Except.ok.inj (MfaState.effect_of_answer (congrArg Prod.fst hexec)))).1
    have hnew : (advanceProgress progress ⟨op, .ok codes⟩).attempt = .recovered check false := by
      change progress.attempt.recover false = _
      rw [hattempt]
      rfl
    refine Effect.of_attempt hnew ⟨hfound.1.trans hsame, hfound.2, ?_⟩
    rw [← hfound.1.recoveryCodes, hanswer]
    rfl

/-- A recovery code is consumed. -/
theorem Effect.saveRecoveryCodes {userId : UUID} {recoveryCodes updatedCodes : List RecoveryCode}
    {now : Datetime} (h : Effect keys token before progress after)
    (hattempt : progress.attempt = .recovered check false)
    (hread : progress.read = some (userId, recoveryCodes))
    (hconsume : consumeFirst (keys.hashRecoveryCode token) now recoveryCodes = some updatedCodes) :
    let op : MfaOp := .saveRecoveryCodes userId updatedCodes
    Effect keys token before
      (advanceProgress progress ⟨op, (MfaState.exec keys choice op after).1⟩)
      (MfaState.exec keys choice op after).2 := by
  intro op
  have hrecovered : Untouched before after ∧ check.FoundIn before ∧
      progress.read = some (check.challenge.userId,
        before.getRecoveryCodes check.challenge.userId) := by
    unfold Effect at h
    rwa [hattempt] at h
  obtain ⟨⟨hstored, hused, hcodes⟩, hfound, hmine⟩ := hrecovered
  cases hread.symm.trans hmine
  have hconsumed {after' : MfaState}
      (heffect : after' = after.saveRecoveryCodes check.challenge.userId updatedCodes) :
      after'.stored = before.stored ∧ after'.usedCodes = before.usedCodes ∧
        ConsumedCode keys token before after' check.challenge.userId := by
    subst heffect
    refine ⟨hstored, hused, now, updatedCodes, hconsume, funext fun other => ?_⟩
    rw [MfaState.getRecoveryCodes_save, hcodes]
    by_cases heq : other = check.challenge.userId
    · rw [if_pos heq, heq, Function.update_self]
    · rw [if_neg heq, Function.update_of_ne heq]
  rcases MfaState.exec_cases keys choice after op with
    ⟨error, hexec⟩ | ⟨answer, after', heffect, hexec | ⟨error, hexec⟩⟩
  · rw [hexec]
    exact h.changedAtMost
  · rw [hexec]
    obtain ⟨hstored, hused, hconsumed⟩ := hconsumed (Prod.mk.inj (Except.ok.inj heffect)).2.symm
    have hnew : (advanceProgress progress ⟨op, .ok answer⟩).attempt = .recovered check true := by
      change progress.attempt.recover true = _
      rw [hattempt]
      rfl
    exact Effect.of_attempt hnew ⟨hstored, hused, hfound, hconsumed⟩
  · rw [hexec]
    obtain ⟨hstored, _, hconsumed⟩ := hconsumed (Prod.mk.inj (Except.ok.inj heffect)).2.symm
    exact ⟨Or.inl hstored, Or.inr ⟨_, hconsumed⟩⟩

/-- What an attempt has changed is told by its stage, after every permitted call. -/
theorem Effect.call (h : Effect keys token before progress after)
    (hallowed : permitsProgress keys token progress op) :
    Effect keys token before
      (advanceProgress progress ⟨op, (MfaState.exec keys choice op after).1⟩)
      (MfaState.exec keys choice op after).2 := by
  cases op with
  | account op =>
    cases op with
    | service call =>
      cases call with
      | getMfaChallenge id => exact h.getMfaChallenge hallowed
      | verifyTotp secret presented now =>
        obtain ⟨challenge, hattempt⟩ := hallowed
        exact h.verifyTotp hattempt
      | consumeRecoveryCode userId code => exact hallowed.elim
      | hasBeenUsed id presented =>
        obtain ⟨check, hattempt, htotp, hopen, rfl⟩ := hallowed
        exact h.hasBeenUsed hattempt htotp hopen
      | markUsed id presented ttl =>
        obtain ⟨check, hattempt, rfl⟩ := hallowed
        exact h.markUsed hattempt
      | saveMfaChallenge challenge =>
        obtain ⟨check, presented, hverdict, rfl, hrefused⟩ := hallowed
        exact h.saveMfaChallenge hverdict hrefused
      | createIdentitySession userId family =>
        obtain ⟨check, hattempt⟩ := hallowed
        exact h.createIdentitySession hattempt
      | _ => exact h.still (fun _ => rfl) rfl
    | _ => exact h.still (fun _ => rfl) rfl
  | getRecoveryCodes userId =>
    obtain ⟨check, hattempt, _, rfl⟩ := hallowed
    exact h.getRecoveryCodes hattempt
  | saveRecoveryCodes userId updatedCodes =>
    obtain ⟨check, recoveryCodes, now, hattempt, hread, hconsume⟩ := hallowed
    exact h.saveRecoveryCodes hattempt hread hconsume
  | clearRecoveryCodes userId => exact hallowed.elim
  | clockNow =>
    have hsame : Untouched after (MfaState.exec keys choice .clockNow after).2 := untouched_exec rfl
    generalize MfaState.exec keys choice .clockNow after = outcome at hsame
    obtain ⟨(answer : Except AccountError Datetime), after'⟩ := outcome
    cases answer with
    | error error => exact (h.congr hsame).changedAtMost
    | ok now => exact h.congr hsame
  | generateRecoveryCode | newRecoveryCodeId => exact h.still (fun _ => rfl) rfl

theorem effect_keepsAlone (keys : MfaKeys) (token : String) (before : MfaState) :
    KeepsAlone (MfaState.exec keys) (progressStages keys token).contract fun log s =>
      Effect keys token before ((progressStages keys token).stage log) s :=
  fun _ _ _ _ h hallowed => ⟨trivial, h.call hallowed⟩

end Effect

end Linkapro.Identity
