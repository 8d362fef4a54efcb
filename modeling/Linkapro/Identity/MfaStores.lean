import Linkapro.Lib.Expiring
import Linkapro.Lib.Stages
import Linkapro.Identity.SelfService

/-!
# Identity: the caches of the second factor

The challenges of a login, the record of used codes and the recovery codes live in a
cache, where every read and every write is a call of its own. The account handlers see
the consumption of a recovery code as one service; here it is expanded into the calls
that it performs.
-/

namespace Linkapro.Identity

open Lib Lib.Action

/-- `RecoveryCode`. -/
@[ext] structure RecoveryCode where
  id : UUID
  codeHash : String
  usedAt : Option Datetime
  codeHash_not_blank : isBlank codeHash = false

instance : DecidableEq RecoveryCode := fun _ _ => decidable_of_iff _ RecoveryCode.ext_iff.symm

namespace RecoveryCode

/-- `is_used`. -/
def isUsed (recoveryCode : RecoveryCode) : Bool := recoveryCode.usedAt.isSome

/-- `matches`. -/
def matchesHash (recoveryCode : RecoveryCode) (presentedHash : String) : Bool :=
  recoveryCode.codeHash = presentedHash

/-- `consume` of an unused code. -/
def consume (recoveryCode : RecoveryCode) (now : Datetime) : RecoveryCode :=
  { recoveryCode with usedAt := some now }

end RecoveryCode

/-- `RecoveryCodeConsumptionResult`. -/
structure RecoveryCodeConsumptionResult where
  accepted : Bool
  recoveryCodes : List RecoveryCode

/-- The codes after the first one that matches has been consumed, unless it is used. -/
def consumeFirst (presentedHash : String) (now : Datetime) :
    List RecoveryCode → Option (List RecoveryCode)
  | [] => none
  | recoveryCode :: recoveryCodes =>
    if recoveryCode.matchesHash presentedHash then
      if recoveryCode.isUsed then none else some (recoveryCode.consume now :: recoveryCodes)
    else (consumeFirst presentedHash now recoveryCodes).map (recoveryCode :: ·)

/-- `consume_recovery_code` of the policy. -/
def consumeCode (recoveryCodes : List RecoveryCode) (presentedHash : String) (now : Datetime) :
    RecoveryCodeConsumptionResult :=
  match consumeFirst presentedHash now recoveryCodes with
  | none => { accepted := false, recoveryCodes }
  | some updatedCodes => { accepted := true, recoveryCodes := updatedCodes }

/-- The first code that matches. -/
def firstMatch (recoveryCodes : List RecoveryCode) (presentedHash : String) : Option RecoveryCode :=
  recoveryCodes.find? fun recoveryCode => recoveryCode.matchesHash presentedHash

/-- A code of this hash can be consumed. -/
def Usable (recoveryCodes : List RecoveryCode) (presentedHash : String) : Prop :=
  (firstMatch recoveryCodes presentedHash).any (fun recoveryCode => ¬ recoveryCode.isUsed) = true

/-- The code of this hash has been consumed. -/
def Spent (recoveryCodes : List RecoveryCode) (presentedHash : String) : Prop :=
  (firstMatch recoveryCodes presentedHash).any RecoveryCode.isUsed = true

instance (recoveryCodes : List RecoveryCode) (presentedHash : String) :
    Decidable (Usable recoveryCodes presentedHash) :=
  inferInstanceAs (Decidable (_ = _))

section Consume

variable {first : RecoveryCode} {recoveryCodes updatedCodes : List RecoveryCode}
  {presentedHash : String} {now : Datetime}

theorem firstMatch_cons_of_matches (h : first.matchesHash presentedHash = true) :
    firstMatch (first :: recoveryCodes) presentedHash = some first :=
  List.find?_cons_of_pos (p := fun code : RecoveryCode => code.matchesHash presentedHash) h

theorem firstMatch_cons_of_not_matches (h : ¬ first.matchesHash presentedHash = true) :
    firstMatch (first :: recoveryCodes) presentedHash = firstMatch recoveryCodes presentedHash :=
  List.find?_cons_of_neg (p := fun code : RecoveryCode => code.matchesHash presentedHash) h

/-- A code can be consumed exactly if it is usable. -/
theorem isSome_consumeFirst_iff :
    (consumeFirst presentedHash now recoveryCodes).isSome = true ↔
      Usable recoveryCodes presentedHash := by
  unfold Usable
  induction recoveryCodes with
  | nil => exact Iff.rfl
  | cons first recoveryCodes ih =>
    unfold consumeFirst
    by_cases hfirst : first.matchesHash presentedHash = true
    · rw [if_pos hfirst, firstMatch_cons_of_matches hfirst, Option.any_some]
      split
      · next hused => simp [hused]
      · next hused => simp [hused]
    · rw [if_neg hfirst, firstMatch_cons_of_not_matches hfirst, Option.isSome_map]
      exact ih

/-- The code that a hash finds after a consumption. -/
theorem firstMatch_of_consumeFirst
    (h : consumeFirst presentedHash now recoveryCodes = some updatedCodes) (other : String) :
    firstMatch updatedCodes other = (firstMatch recoveryCodes other).map fun recoveryCode =>
      if other = presentedHash then recoveryCode.consume now else recoveryCode := by
  induction recoveryCodes generalizing updatedCodes with
  | nil => cases h
  | cons first recoveryCodes ih =>
    unfold consumeFirst at h
    by_cases hfirst : first.matchesHash presentedHash = true
    · rw [if_pos hfirst] at h
      split at h
      · cases h
      · cases h
        have hsame : (first.consume now).matchesHash other = first.matchesHash other := rfl
        by_cases hother : first.matchesHash other = true
        · have heq : other = presentedHash :=
            (of_decide_eq_true hother).symm.trans (of_decide_eq_true hfirst)
          rw [firstMatch_cons_of_matches (hsame.trans hother), firstMatch_cons_of_matches hother,
            Option.map_some, if_pos heq]
        · have hne : other ≠ presentedHash := fun heq => hother (heq ▸ hfirst)
          rw [firstMatch_cons_of_not_matches (hsame ▸ hother),
            firstMatch_cons_of_not_matches hother]
          simp only [if_neg hne, Option.map_id']
    · rw [if_neg hfirst] at h
      obtain ⟨rest, hrest, rfl⟩ := Option.map_eq_some_iff.mp h
      by_cases hother : first.matchesHash other = true
      · have hne : other ≠ presentedHash := fun heq => hfirst (heq ▸ hother)
        rw [firstMatch_cons_of_matches hother, firstMatch_cons_of_matches hother, Option.map_some,
          if_neg hne]
      · rw [firstMatch_cons_of_not_matches hother, firstMatch_cons_of_not_matches hother]
        exact ih hrest

/-- A consumption leaves the other codes as they are. -/
theorem firstMatch_of_consumeFirst_of_ne
    (h : consumeFirst presentedHash now recoveryCodes = some updatedCodes) {other : String}
    (hne : other ≠ presentedHash) :
    firstMatch updatedCodes other = firstMatch recoveryCodes other := by
  rw [firstMatch_of_consumeFirst h]
  simp only [if_neg hne, Option.map_id']

/-- What has been consumed is spent. -/
theorem spent_of_consumeFirst
    (h : consumeFirst presentedHash now recoveryCodes = some updatedCodes) :
    Spent updatedCodes presentedHash := by
  have husable : Usable recoveryCodes presentedHash := isSome_consumeFirst_iff.mp (by rw [h]; rfl)
  unfold Usable at husable
  unfold Spent
  rw [firstMatch_of_consumeFirst h]
  cases hfound : firstMatch recoveryCodes presentedHash with
  | none =>
    rw [hfound] at husable
    cases husable
  | some recoveryCode =>
    rw [Option.map_some, if_pos rfl]
    rfl

/-- What is spent stays spent. -/
theorem Spent.of_consumeFirst {other : String} (hspent : Spent recoveryCodes other)
    (h : consumeFirst presentedHash now recoveryCodes = some updatedCodes) :
    Spent updatedCodes other := by
  by_cases heq : other = presentedHash
  · exact heq ▸ spent_of_consumeFirst h
  · unfold Spent
    rwa [firstMatch_of_consumeFirst_of_ne h heq]

/-- What is spent cannot be consumed. -/
theorem Spent.not_usable (hspent : Spent recoveryCodes presentedHash) :
    ¬ Usable recoveryCodes presentedHash := by
  unfold Usable
  unfold Spent at hspent
  cases hfound : firstMatch recoveryCodes presentedHash with
  | none => exact Bool.false_ne_true
  | some recoveryCode =>
    rw [hfound, Option.any_some] at hspent
    simp [hspent]

/-- A consumption leaves the other codes usable. -/
theorem usable_iff_of_consumeFirst
    (h : consumeFirst presentedHash now recoveryCodes = some updatedCodes) {other : String} :
    Usable updatedCodes other ↔ other ≠ presentedHash ∧ Usable recoveryCodes other := by
  by_cases heq : other = presentedHash
  · subst heq
    exact ⟨fun husable => absurd husable (spent_of_consumeFirst h).not_usable,
      fun h => absurd rfl h.1⟩
  · unfold Usable
    rw [firstMatch_of_consumeFirst_of_ne h heq]
    exact ⟨fun husable => ⟨heq, husable⟩, And.right⟩

end Consume

/-- What depends on the secrets of a deployment: the codes of a device and the two keyed hashes. -/
structure MfaKeys where
  /-- Whether the code of a secret in the time step is the presented text. -/
  acceptsTotp : (secret : String) → (timecode : ℤ) → (token : String) → Bool
  /-- `_replay_fingerprint`. -/
  replayFingerprint : String → String
  /-- `hash_recovery_code`. -/
  hashRecoveryCode : String → String
  hash_not_blank : ∀ code, isBlank (hashRecoveryCode code) = false

/-- `timecode`: the time step of thirty seconds. -/
def timecode (now : Datetime) : ℤ := now / seconds 30

/-- One call of a program that also reads and writes the recovery codes. -/
inductive MfaOp : Type where
  | account (op : AccountOp)
  | getRecoveryCodes (userId : UUID)
  | saveRecoveryCodes (userId : UUID) (recoveryCodes : List RecoveryCode)
  | clearRecoveryCodes (userId : UUID)
  /-- `Clock.now`. -/
  | clockNow
  /-- `RecoveryCodeGenerator.generate`. -/
  | generateRecoveryCode
  /-- `IdGenerator.new_id`. -/
  | newRecoveryCodeId
deriving DecidableEq

/-- The answer of each call. -/
def MfaOp.Ret : MfaOp → Type
  | .account op => op.Ret
  | .getRecoveryCodes _ => List RecoveryCode
  | .saveRecoveryCodes _ _ | .clearRecoveryCodes _ => Unit
  | .clockNow => Datetime
  | .generateRecoveryCode => String
  | .newRecoveryCodeId => UUID

/-- A program that also reads and writes the recovery codes. -/
abbrev MfaAction (α : Type) : Type := Action AccountError MfaOp.Ret α

/-- The calls of one execution, newest first. -/
abbrev MfaLog : Type := Log (Raising AccountError MfaOp.Ret)

/-- One call. -/
abbrev mfaQuery (op : MfaOp) : MfaAction op.Ret := perform op

/-- `ConsumeRecoveryCodeUseCase.execute` after the codes have been read. -/
def consumeStored (keys : MfaKeys) (userId : UUID) (code : String)
    (recoveryCodes : List RecoveryCode) : MfaAction Bool :=
  if recoveryCodes = [] then pure false
  else do
    let now : Datetime ← mfaQuery .clockNow
    let result := consumeCode recoveryCodes (keys.hashRecoveryCode code) now
    if result.accepted then mfaQuery (.saveRecoveryCodes userId result.recoveryCodes)
    pure result.accepted

/-- `ConsumeRecoveryCodeUseCase.execute`. -/
def consumeRecoveryCode (keys : MfaKeys) (userId : UUID) (code : String) : MfaAction Bool := do
  let recoveryCodes : List RecoveryCode ← mfaQuery (.getRecoveryCodes userId)
  consumeStored keys userId code recoveryCodes

/-- The calls behind a call of an account handler. -/
def mfaCalls (keys : MfaKeys) : (op : AccountOp) → MfaAction op.Ret
  | .service (.consumeRecoveryCode userId code) => consumeRecoveryCode keys userId code
  | op => mfaQuery (.account op)

/-- An account handler with all calls on the recovery codes. -/
def withRecoveryCodes {α : Type} (keys : MfaKeys) (action : AccountAction α) : MfaAction α :=
  action.expand (mfaCalls keys)

/-- The accounts and the caches of the second factor. A challenge is cached under its id, and the
entry of recovery codes does not expire. -/
structure MfaState where
  accounts : AccountState
  challenges : ExpiringMap UUID MfaChallenge Datetime
  usedCodes : ExpiringMap (UUID × String) Unit Datetime
  recoveryCodes : UUID → Option (List RecoveryCode)
  challenge_id : ∀ id entry, challenges id = some entry → entry.value.id = id

/-- What a call leaves open, with the instant at which it is performed. -/
structure MfaChoice extends AccountChoice where
  now : Datetime
  recoveryCode : String

namespace MfaState

/-- `save` of a challenge. -/
def saveChallenge (s : MfaState) (challenge : MfaChallenge) (now : Datetime) : MfaState :=
  { s with
    challenges := s.challenges.set challenge.id challenge
      (some (now + seconds (remainingSeconds challenge.expiresAt now)))
    challenge_id := by
      intro id entry hentry
      unfold ExpiringMap.set at hentry
      by_cases hid : id = challenge.id
      · subst hid
        rw [Function.update_self] at hentry
        cases hentry
        rfl
      · rw [Function.update_of_ne hid] at hentry
        exact s.challenge_id id entry hentry }

/-- `mark_used`. -/
def markUsed (s : MfaState) (key : UUID × String) (deadline : Datetime) : MfaState :=
  { s with usedCodes := s.usedCodes.set key () (some deadline) }

/-- `get_for_user`. -/
def getRecoveryCodes (s : MfaState) (userId : UUID) : List RecoveryCode :=
  (s.recoveryCodes userId).getD []

/-- `save_for_user`. -/
def saveRecoveryCodes (s : MfaState) (userId : UUID) (recoveryCodes : List RecoveryCode) :
    MfaState :=
  { s with recoveryCodes := Function.update s.recoveryCodes userId (some recoveryCodes) }

/-- `clear_for_user`. -/
def clearRecoveryCodes (s : MfaState) (userId : UUID) : MfaState :=
  { s with recoveryCodes := Function.update s.recoveryCodes userId none }

/-- The effect of a call on a service without a fault. -/
def serviceEffect (keys : MfaKeys) (choice : MfaChoice) (s : MfaState) :
    (call : ServiceCall) → call.Ret × MfaState
  | .utcNow => (choice.now, s)
  | .getMfaChallenge challengeId => (s.challenges.get choice.now challengeId, s)
  | .saveMfaChallenge challenge => ((), s.saveChallenge challenge choice.now)
  | .hasBeenUsed challengeId token =>
    ((s.usedCodes.get choice.now (challengeId, keys.replayFingerprint token)).isSome, s)
  | .markUsed challengeId token ttl =>
    ((), s.markUsed (challengeId, keys.replayFingerprint token) (choice.now + seconds ttl))
  | .verifyTotp secret token now => (keys.acceptsTotp secret (timecode now) token, s)
  | call => (choice.answer call, s)

/-- The effect of a call without a fault. -/
def effect (keys : MfaKeys) (choice : MfaChoice) (s : MfaState) :
    (op : MfaOp) → Except AccountError (op.Ret × MfaState)
  | .account (.service call) => .ok (s.serviceEffect keys choice call)
  | .account op =>
    (AccountState.effect choice.toAccountChoice s.accounts op).map fun outcome =>
      (outcome.1, { s with accounts := outcome.2 })
  | .getRecoveryCodes userId => .ok (s.getRecoveryCodes userId, s)
  | .saveRecoveryCodes userId recoveryCodes => .ok ((), s.saveRecoveryCodes userId recoveryCodes)
  | .clearRecoveryCodes userId => .ok ((), s.clearRecoveryCodes userId)
  | .clockNow => .ok (choice.now, s)
  | .generateRecoveryCode => .ok (choice.recoveryCode, s)
  | .newRecoveryCodeId => .ok (choice.uuid, s)

/-- A call takes effect or fails. -/
def exec (keys : MfaKeys) : Exec MfaState MfaChoice (Raising AccountError MfaOp.Ret) :=
  fun choice op s =>
    match effect keys choice s op, choice.fault with
    | .error error, _ => (.error error, s)
    | .ok (answer, after), none => (.ok answer, after)
    | .ok (_, after), some fault => (.error fault.error, if fault.applied then after else s)

variable {keys : MfaKeys} {choice : MfaChoice} {s : MfaState} {op : MfaOp}

/-- A call fails without an effect, or it takes effect and answers or fails. -/
theorem exec_cases (keys : MfaKeys) (choice : MfaChoice) (s : MfaState) (op : MfaOp) :
    (∃ error, exec keys choice op s = (.error error, s)) ∨
      ∃ answer after, effect keys choice s op = .ok (answer, after) ∧
        (exec keys choice op s = (.ok answer, after) ∨
          ∃ error, exec keys choice op s = (.error error, after)) := by
  cases heffect : effect keys choice s op with
  | error error =>
    refine Or.inl ⟨error, ?_⟩
    simp only [exec, heffect]
  | ok outcome =>
    obtain ⟨answer, after⟩ := outcome
    cases hfault : choice.fault with
    | none =>
      refine Or.inr ⟨answer, after, rfl, Or.inl ?_⟩
      simp only [exec, heffect, hfault]
    | some fault =>
      by_cases happlied : fault.applied = true
      · refine Or.inr ⟨answer, after, rfl, Or.inr ⟨fault.error, ?_⟩⟩
        simp only [exec, heffect, hfault, if_pos happlied]
      · refine Or.inl ⟨fault.error, ?_⟩
        simp only [exec, heffect, hfault, if_neg happlied]

/-- What the effect of a call keeps, the call keeps. -/
theorem exec_keeps {P : MfaState → Prop} (hs : P s)
    (h : ∀ answer after, effect keys choice s op = .ok (answer, after) → P after) :
    P (exec keys choice op s).2 := by
  rcases exec_cases keys choice s op with ⟨_, hexec⟩ | ⟨answer, after, heffect, hexec | ⟨_, hexec⟩⟩
  · rw [hexec]
    exact hs
  · rw [hexec]
    exact h answer after heffect
  · rw [hexec]
    exact h answer after heffect

/-- A call that is not on a service changes the accounts at most. -/
theorem account_effect {op : AccountOp} (hservice : ∀ call, op ≠ .service call)
    {answer : op.Ret} {after : MfaState}
    (h : effect keys choice s (.account op) = .ok (answer, after)) :
    after = { s with accounts := after.accounts } := by
  have hmap : (AccountState.effect choice.toAccountChoice s.accounts op).map
      (fun outcome => (outcome.1, { s with accounts := outcome.2 })) = .ok (answer, after) := by
    cases op with
    | service call => exact absurd rfl (hservice call)
    | _ => exact h
  obtain ⟨_, _, heq⟩ := except_map_eq_ok_iff.mp hmap
  rw [← (Prod.mk.inj heq).2]

/-- Only the save of a challenge changes the cached challenges. -/
theorem challenges_exec (h : ∀ challenge, op ≠ .account (.service (.saveMfaChallenge challenge))) :
    (exec keys choice op s).2.challenges = s.challenges := by
  refine exec_keeps (P := fun after => after.challenges = s.challenges) rfl
    fun answer after heffect => ?_
  cases op with
  | account op =>
    cases op with
    | service call =>
      cases call with
      | saveMfaChallenge challenge => exact absurd rfl (h challenge)
      | _ =>
        cases heffect
        rfl
    | _ => rw [account_effect (fun _ h => by cases h) heffect]
  | _ =>
    cases heffect
    rfl

/-- Only the calls on the recovery codes change them. -/
theorem recoveryCodes_exec (hsave : ∀ userId codes, op ≠ .saveRecoveryCodes userId codes)
    (hclear : ∀ userId, op ≠ .clearRecoveryCodes userId) :
    (exec keys choice op s).2.recoveryCodes = s.recoveryCodes := by
  refine exec_keeps (P := fun after => after.recoveryCodes = s.recoveryCodes) rfl
    fun answer after heffect => ?_
  cases op with
  | account op =>
    cases op with
    | service call =>
      cases call with
      | _ =>
        cases heffect
        rfl
    | _ => rw [account_effect (fun _ h => by cases h) heffect]
  | saveRecoveryCodes userId codes => exact absurd rfl (hsave userId codes)
  | clearRecoveryCodes userId => exact absurd rfl (hclear userId)
  | _ =>
    cases heffect
    rfl

theorem getRecoveryCodes_exec (hsave : ∀ userId codes, op ≠ .saveRecoveryCodes userId codes)
    (hclear : ∀ userId, op ≠ .clearRecoveryCodes userId) :
    (exec keys choice op s).2.getRecoveryCodes = s.getRecoveryCodes := by
  funext userId
  rw [getRecoveryCodes, recoveryCodes_exec hsave hclear, getRecoveryCodes]

/-- A challenge that is read is the cached one. -/
theorem stored_of_get {id : UUID} {now : Datetime} {challenge : MfaChallenge}
    (h : s.challenges.get now id = some challenge) :
    challenge.id = id ∧ (s.challenges id).map Expiring.value = some challenge := by
  obtain ⟨entry, hentry, hvalue⟩ := ExpiringMap.entry_of_get h
  exact ⟨hvalue ▸ s.challenge_id id entry hentry, by rw [hentry, Option.map_some, hvalue]⟩

/-- A call that answers has taken effect. -/
theorem effect_of_answer {answer : op.Ret} (h : (exec keys choice op s).1 = .ok answer) :
    effect keys choice s op = .ok (answer, (exec keys choice op s).2) := by
  rcases exec_cases keys choice s op with ⟨_, hexec⟩ | ⟨_, after, heffect, hexec | ⟨_, hexec⟩⟩
  · rw [hexec] at h
    cases h
  · rw [hexec] at h ⊢
    rw [heffect, Except.ok.inj h]
  · rw [hexec] at h
    cases h

/-- A read answers the live challenge. -/
theorem answer_getMfaChallenge {id : UUID} {answer : Option MfaChallenge}
    (h : (exec keys choice (.account (.service (.getMfaChallenge id))) s).1 = .ok answer) :
    s.challenges.get choice.now id = answer :=
  (Prod.mk.inj (Except.ok.inj (effect_of_answer h))).1

/-- The device accepts its code of the time step. -/
theorem answer_verifyTotp {secret token : String} {now : Datetime} {answer : Bool}
    (h : (exec keys choice (.account (.service (.verifyTotp secret token now))) s).1 =
      .ok answer) : answer = keys.acceptsTotp secret (timecode now) token :=
  (Prod.mk.inj (Except.ok.inj (effect_of_answer h))).1.symm

/-- The cached challenges after a save. -/
theorem stored_saveChallenge {challenge : MfaChallenge} {now : Datetime} {id : UUID} :
    ((s.saveChallenge challenge now).challenges id).map Expiring.value =
      if id = challenge.id then some challenge else (s.challenges id).map Expiring.value := by
  by_cases hid : id = challenge.id
  · have hentry : (s.saveChallenge challenge now).challenges id = some ⟨challenge,
        some (now + seconds (remainingSeconds challenge.expiresAt now))⟩ := by
      rw [hid]
      exact Function.update_self _ _ _
    rw [if_pos hid, hentry, Option.map_some]
  · have hentry : (s.saveChallenge challenge now).challenges id = s.challenges id :=
      Function.update_of_ne hid _ _
    rw [if_neg hid, hentry]

/-- The codes that are read after they have been written. -/
theorem getRecoveryCodes_save {userId other : UUID} {codes : List RecoveryCode} :
    (s.saveRecoveryCodes userId codes).getRecoveryCodes other =
      if other = userId then codes else s.getRecoveryCodes other := by
  change (Function.update s.recoveryCodes userId (some codes) other).getD [] = _
  by_cases hother : other = userId
  · rw [if_pos hother, hother, Function.update_self, Option.getD_some]
  · rw [if_neg hother, Function.update_of_ne hother, getRecoveryCodes]

/-- The codes that are read after they have been cleared. -/
theorem getRecoveryCodes_clear {userId other : UUID} :
    (s.clearRecoveryCodes userId).getRecoveryCodes other =
      if other = userId then [] else s.getRecoveryCodes other := by
  change (Function.update s.recoveryCodes userId none other).getD [] = _
  by_cases hother : other = userId
  · rw [if_pos hother, hother, Function.update_self, Option.getD_none]
  · rw [if_neg hother, Function.update_of_ne hother, getRecoveryCodes]

end MfaState

end Linkapro.Identity
