import Linkapro.Identity.StaleTokens

/-!
# Identity: disabled accounts

A disabled account has a row that is not active, and no login accepts such a row. Only
the operations of an administrator make it active again, and the verification of the
email address of an account that has been disabled before it was verified.
-/

namespace Linkapro.Identity

open Lib

section Steps

variable {T : Type} [Field T] [LinearOrder T] [IsStrictOrderedRing T] [FloorRing T]

namespace IdentityStep

/-- The account that an explicit operation of an administrator makes active. -/
def activatedUser : IdentityStep T → Option UUID
  | .account command _ => command.activatedUser
  | _ => none

/-- A step is not an email verification that finds the account of a user disabled and
unverified. -/
def VerifiesEnabled (userId : UUID) (s : AccountState) : IdentityStep T → Prop
  | .account command choices =>
    command.verifies = true → ¬ HeldDisabled (runCommand command choices s).log userId
  | _ => True

instance (userId : UUID) (s : AccountState) (step : IdentityStep T) :
    Decidable (step.VerifiesEnabled userId s) := by
  cases step with
  | account command choices => exact inferInstanceAs (Decidable (_ → _))
  | refresh settings token stores ticks => exact isTrue trivial
  | stepUp settings now jti token => exact isTrue trivial

omit [IsStrictOrderedRing T] [FloorRing T] in
/-- A step that makes a disabled account active is an operation of an administrator. -/
theorem activates_of_evolves {step : IdentityStep T} {s : AccountState} {before after : UserRow}
    (hevolves : step.Evolves s before after) (hbefore : before.isActive = false)
    (hafter : after.isActive = true) (hverifies : step.VerifiesEnabled before.id s) :
    step.activatedUser = some before.id := by
  cases step with
  | account command choices =>
    rcases hevolves.active hafter with hactive | hactivated | ⟨hverify, hheld⟩
    · exact absurd (hbefore.symm.trans hactive) Bool.false_ne_true
    · exact hactivated
    · exact absurd hheld (hverifies hverify)
  | refresh settings token stores ticks =>
    cases hevolves
    exact absurd (hbefore.symm.trans hafter) Bool.false_ne_true
  | stepUp settings now jti token =>
    cases hevolves
    exact absurd (hbefore.symm.trans hafter) Bool.false_ne_true

end IdentityStep

/-- Between two states of a run one of which has an account disabled and the later one
active there is an operation of an administrator. -/
theorem activates_of_runSteps (steps : List (IdentityStep T)) {s : AccountState}
    (hdated : AllDated s) {userId : UUID} {before after : UserRow}
    (hbefore : s.users.lookup userId = some before) (hdisabled : before.isActive = false)
    (hafter : (runSteps steps s).users.lookup userId = some after) (hactive : after.isActive = true)
    (hverifies : StepsSatisfy (fun s step => step.VerifiesEnabled userId s) steps s) :
    ∃ step ∈ steps, step.activatedUser = some userId := by
  induction steps generalizing s before with
  | nil =>
    cases hbefore.symm.trans hafter
    exact absurd (hdisabled.symm.trans hactive) Bool.false_ne_true
  | cons step steps ih =>
    obtain ⟨hstep, hsteps⟩ := hverifies
    obtain ⟨middle, hmiddle, hevolves⟩ := step.evolves_apply hdated hbefore
    cases hmiddleActive : middle.isActive with
    | false =>
      obtain ⟨activation, hmem, hactivated⟩ :=
        ih (step.dated_apply hdated) hmiddle hmiddleActive hafter hsteps
      exact ⟨activation, List.mem_cons_of_mem _ hmem, hactivated⟩
    | true =>
      have hid : before.id = userId := Table.key_of_lookup hbefore
      refine ⟨step, List.mem_cons_self, hid ▸ ?_⟩
      exact IdentityStep.activates_of_evolves hevolves hdisabled hmiddleActive (hid ▸ hstep)

/-- In a run that starts without tokens, a disabled account becomes active only by an
operation of an administrator, as long as no email verification finds it disabled and
unverified. -/
theorem enabled_only_by_administrator {s : AccountState} (hs : s.minted = [])
    (earlier later : List (IdentityStep T)) {userId : UUID} {before after : UserRow}
    (hbefore : (runSteps earlier s).users.lookup userId = some before)
    (hdisabled : before.isActive = false)
    (hafter : (runSteps later (runSteps earlier s)).users.lookup userId = some after)
    (hactive : after.isActive = true)
    (hverifies : StepsSatisfy (fun s step => step.VerifiesEnabled userId s) later
      (runSteps earlier s)) :
    ∃ step ∈ later, step.activatedUser = some userId :=
  activates_of_runSteps later (dated_runSteps earlier (allDated_of_unminted hs)) hbefore hdisabled
    hafter hactive hverifies

end Steps

/-- A planner who has not verified the email address. -/
def unverifiedRow : UserRow := { sampleRow with isVerified := false }

/-- The account of this planner. -/
def unverifiedAccounts : AccountState :=
  { sampleAccounts with users := Table.empty.upsert unverifiedRow }

/-- The challenge that has been sent to this planner. -/
def sampleVerification : VerificationChallenge where
  id := 960
  userId := 1
  purpose := .email
  codeDigest := "digest"
  issuedAt := 0
  expiresAt := 5000
  resendAvailableAt := 100
  failedAttempts := 0
  maxAttempts := 5
  succeededAt := none
  expiredAt := none

/-- Services that know this challenge. -/
def verificationAnswer : (call : ServiceCall) → call.Ret
  | .verifyEmailVerificationToken _ => some (960 : UUID)
  | .getVerificationChallenge _ => some sampleVerification
  | call => calmAnswer call

/-- The verification of the email address. -/
def sampleVerifyEmail : IdentityStep ℚ :=
  .account (.verifyEmail "token") (List.replicate 20 { calmChoice with answer := verificationAnswer })

/-- An account that is banned before its address has been verified becomes active when the
verification link is used. -/
theorem verification_enables_banned :
    let banned := runSteps [sampleStep (.banUser 2 1)] unverifiedAccounts
    banned.users.lookup 1 = some { unverifiedRow with isActive := false, authTokenVersion := 1 } ∧
      (runSteps [sampleVerifyEmail] banned).users.lookup 1 =
        some { unverifiedRow with isVerified := true, authTokenVersion := 1 } ∧
      ¬ ∃ step ∈ [sampleVerifyEmail], step.activatedUser = some 1 := by
  decide +kernel

/-- After a ban of the verified planner only the reinstatement is needed. -/
theorem enabled_only_by_administrator_sample :
    ∃ step ∈ [sampleVerifyEmail, sampleStep (.reinstateUser 2 1)], step.activatedUser = some 1 := by
  have hbefore : (runSteps [sampleStep (.banUser 2 1)] enrolledAccounts).users.lookup 1 =
      some { enrolledRow with isActive := false, authTokenVersion := 1 } := by
    decide +kernel
  have hafter : (runSteps [sampleVerifyEmail, sampleStep (.reinstateUser 2 1)]
      (runSteps [sampleStep (.banUser 2 1)] enrolledAccounts)).users.lookup 1 =
      some { enrolledRow with authTokenVersion := 1 } := by
    decide +kernel
  exact enabled_only_by_administrator rfl [sampleStep (.banUser 2 1)]
    [sampleVerifyEmail, sampleStep (.reinstateUser 2 1)] hbefore rfl hafter rfl (by decide +kernel)

end Linkapro.Identity
