import Linkapro.Identity.MfaLoginRuns

/-!
# Identity: codes of a device that are presented again

The record of used codes is kept for each challenge, while every login with a password
issues a challenge of its own. So a code that is still current authenticates once for
every challenge against which it is presented.
-/

namespace Linkapro.Identity

open Lib Lib.Action

namespace MfaCheck

/-- The code of the device has been accepted against an open challenge. -/
def acceptsCode (check : MfaCheck) : Bool := check.isOpen ∧ check.totpAccepted

/-- The code is that of the same time step of the same user's device. -/
def sameCode (check other : MfaCheck) : Bool :=
  check.challenge.userId = other.challenge.userId ∧ check.secret = other.secret ∧
    timecode check.now = timecode other.now

/-- One code has been accepted against two challenges. -/
def replays (check other : MfaCheck) : Bool :=
  check.acceptsCode ∧ other.acceptsCode ∧ check.sameCode other ∧
    check.challenge.id ≠ other.challenge.id

/-- Two accepted checks of one code are checks against one challenge, unless one replays the
other. -/
theorem sameChallenge_of_not_replays {check other : MfaCheck} (h : check.replays other = false)
    (hcheck : check.acceptsCode = true) (hother : other.acceptsCode = true)
    (hsame : check.sameCode other = true) : check.challenge.id = other.challenge.id := by
  by_contra hne
  rw [replays, decide_eq_false_iff_not] at h
  exact h ⟨hcheck, hother, hsame, hne⟩

theorem sameCode_comm {check other : MfaCheck} : check.sameCode other = other.sameCode check := by
  unfold sameCode
  refine decide_eq_decide.mpr ?_
  constructor
  · rintro ⟨huser, hsecret, hnow⟩
    exact ⟨huser.symm, hsecret.symm, hnow.symm⟩
  · rintro ⟨huser, hsecret, hnow⟩
    exact ⟨huser.symm, hsecret.symm, hnow.symm⟩

end MfaCheck

variable {ι : Type} [DecidableEq ι]

/-- A code that has been accepted against a challenge is not accepted against another one. -/
def CodesFresh (keys : MfaKeys) (commands : ι → LoginTwoFactorCommand) (pool : MfaLoginPool ι)
    (turn : ι × MfaChoice) : Prop :=
  match pool.next turn.1 with
  | some (.account (.service (.verifyTotp secret token now))) =>
    ∀ j, ((logins keys commands pool turn.1).held.all fun challenge =>
      (logins keys commands pool j).check?.all fun other =>
        ¬ MfaCheck.replays { challenge, secret, token, now
                             totpAccepted := keys.acceptsTotp secret (timecode now) token }
          other) = true
  | _ => True

instance CodesFresh.decidable (keys : MfaKeys) (commands : Bool → LoginTwoFactorCommand)
    (pool : MfaLoginPool Bool) : (turn : Bool × MfaChoice) →
    Decidable (CodesFresh keys commands pool turn) := fun ⟨i, choice⟩ => by
  unfold CodesFresh
  dsimp only
  split
  all_goals infer_instance

/-- Every code of a device authenticates at most one login. -/
def CodesUsedOnce (keys : MfaKeys) (commands : ι → LoginTwoFactorCommand)
    (pool : MfaLoginPool ι) : Prop :=
  ∀ i j check check', logins keys commands pool i = .loggedIn check →
    logins keys commands pool j = .loggedIn check' → check.totpAccepted = true →
      check'.totpAccepted = true → check.sameCode check' = true → i = j

/-- What every turn keeps as long as no code is accepted against two challenges. -/
structure CodesKept (keys : MfaKeys) (commands : ι → LoginTwoFactorCommand)
    (pool : MfaLoginPool ι) : Prop where
  opened : ∀ i check, logins keys commands pool i = .loggedIn check → check.isOpen = true
  sameChallenge : ∀ i j check check', (logins keys commands pool i).check? = some check →
    (logins keys commands pool j).check? = some check' → check.acceptsCode = true →
      check'.acceptsCode = true → check.sameCode check' = true →
        check.challenge.id = check'.challenge.id

/-- Only the check of a code changes what an execution has checked. -/
theorem check?_advanceLogin {stage : MfaStage} {op : AccountOp}
    (answer : Except AccountError op.Ret)
    (hop : ∀ secret token now, op ≠ .service (.verifyTotp secret token now)) :
    (advanceLogin stage ⟨op, answer⟩).check? = stage.check? := by
  unfold advanceLogin
  split
  · cases stage with
    | _ => rfl
  · next heq => exact absurd (congrArg Sigma.fst heq) (hop _ _ _)
  · next heq => exact absurd (congrArg Sigma.fst heq) (hop _ _ _)
  · cases stage with
    | _ => rfl
  · cases stage with
    | _ => rfl
  · rfl

/-- A login is complete once a session has been opened for a consumed challenge. -/
theorem loggedIn_advanceLogin {token : String} {stage : MfaStage} {op : AccountOp}
    {answer : Except AccountError op.Ret} {check : MfaCheck}
    (hallowed : permitsLogin token stage op)
    (h : advanceLogin stage ⟨op, answer⟩ = .loggedIn check) :
    stage = .loggedIn check ∨ check.isOpen = true := by
  by_cases hop : ∃ userId family, op = .service (.createIdentitySession userId family)
  · obtain ⟨userId, family, rfl⟩ := hop
    obtain ⟨check', hopen, rfl⟩ := hallowed
    cases h
    exact Or.inr hopen
  · left
    unfold advanceLogin at h
    split at h
    · cases stage with
      | started => cases h
      | _ => exact h
    · cases stage with
      | found _ => cases h
      | _ => exact h
    · cases stage with
      | found _ => cases h
      | _ => exact h
    · cases stage with
      | checked _ => cases h
      | _ => exact h
    · next heq => exact absurd ⟨_, _, congrArg Sigma.fst heq⟩ hop
    · exact h

section Turn

variable {keys : MfaKeys} {commands : ι → LoginTwoFactorCommand} {pool : MfaLoginPool ι} {i : ι}
  {choice : MfaChoice} {op : MfaOp}
  {next : Except AccountError op.Ret →
    Program (Raising AccountError MfaOp.Ret) (Except AccountError AuthenticationDecision)}

/-- What a turn adds to the checks: its own one, of the code that the device accepts or not. -/
theorem check?_step (hrest : pool.rest i = .call op next)
    (hallowed : permitsMfa keys (commands i).token (loginStage keys commands pool i) op) (j : ι)
    {check : MfaCheck}
    (h : (logins keys commands (pool.step (MfaState.exec keys) (i, choice)) j).check? =
      some check) :
    (logins keys commands pool j).check? = some check ∨
      j = i ∧ op = .account (.service (.verifyTotp check.secret check.token check.now)) ∧
        logins keys commands pool i = .found check.challenge ∧
        (check.totpAccepted = true →
          keys.acceptsTotp check.secret (timecode check.now) check.token = true) := by
  unfold logins at h ⊢
  rw [loginStage_step hrest] at h
  split at h
  · next hji =>
    subst hji
    cases op with
    | account op =>
      by_cases hverify : ∃ secret token now, op = .service (.verifyTotp secret token now)
      · obtain ⟨secret, token, now, rfl⟩ := hverify
        obtain ⟨challenge, hstage⟩ := hallowed
        have hchecked (answer : Except AccountError Bool)
            (h : (advanceLogin (.found challenge)
              ⟨.service (.verifyTotp secret token now), answer⟩).check? = some check)
            (hanswer : ∀ accepted, answer = .ok accepted →
              accepted = keys.acceptsTotp secret (timecode now) token) :
            check = { challenge, secret, token, now, totpAccepted := check.totpAccepted } ∧
              (check.totpAccepted = true →
                keys.acceptsTotp secret (timecode now) token = true) := by
          cases answer with
          | error error =>
            cases h
            exact ⟨rfl, fun haccepted => by cases haccepted⟩
          | ok accepted =>
            cases h
            exact ⟨rfl, fun haccepted => (hanswer accepted rfl).symm.trans haccepted⟩
        obtain ⟨hcheck, haccepts⟩ := hchecked (MfaState.exec keys choice
          (.account (.service (.verifyTotp secret token now))) pool.state).1
          (by rw [← hstage]; exact h) fun accepted => MfaState.answer_verifyTotp
        rw [hcheck]
        exact Or.inr ⟨rfl, rfl, hstage, haccepts⟩
      · refine Or.inl ((check?_advanceLogin _ fun secret token now heq => ?_).symm.trans h)
        exact hverify ⟨secret, token, now, heq⟩
    | _ =>
      rw [login_advanceMfa fun _ h => by cases h] at h
      exact Or.inl h
  · exact Or.inl h

/-- A turn keeps the codes apart if it accepts no code that another challenge has accepted. -/
theorem codesKept_step (h : CodesKept keys commands pool)
    (hturn : CodesFresh keys commands pool (i, choice)) (hrest : pool.rest i = .call op next)
    (hallowed : permitsMfa keys (commands i).token (loginStage keys commands pool i) op) :
    CodesKept keys commands (pool.step (MfaState.exec keys) (i, choice)) := by
  -- a new check replays no earlier one
  have hfresh {j : ι} {check other : MfaCheck}
      (hop : op = .account (.service (.verifyTotp check.secret check.token check.now)))
      (hstage : logins keys commands pool i = .found check.challenge)
      (haccepts : check.totpAccepted = true →
        keys.acceptsTotp check.secret (timecode check.now) check.token = true)
      (hj : (logins keys commands pool j).check? = some other) (hcheck : check.acceptsCode = true)
      (hother : other.acceptsCode = true) (hsame : check.sameCode other = true) :
      check.challenge.id = other.challenge.id := by
    subst hop
    have hall := hturn
    unfold CodesFresh at hall
    rw [Pool.next_of_call hrest] at hall
    have hnone := hall j
    rw [hstage, hj] at hnone
    have htotp : keys.acceptsTotp check.secret (timecode check.now) check.token =
        check.totpAccepted := by
      rw [(of_decide_eq_true hcheck).2, haccepts (of_decide_eq_true hcheck).2]
    simp only [MfaStage.held, Option.all_some, decide_eq_true_eq, htotp] at hnone
    exact MfaCheck.sameChallenge_of_not_replays (Bool.not_eq_true _ ▸ hnone) hcheck hother hsame
  refine ⟨fun j check hj => ?_, fun j k check check' hj hk hcheck hcheck' hsame => ?_⟩
  · unfold logins at hj
    rw [loginStage_step hrest] at hj
    split at hj
    · cases op with
      | account op =>
        rcases loggedIn_advanceLogin hallowed hj with hstage | hopen
        · exact h.opened i check hstage
        · exact hopen
      | _ =>
        rw [login_advanceMfa fun _ h => by cases h] at hj
        exact h.opened i check hj
    · exact h.opened j check hj
  · rcases check?_step hrest hallowed j hj with hj | ⟨_, hop, hstage, haccepts⟩
    · rcases check?_step hrest hallowed k hk with hk | ⟨_, hop', hstage', haccepts'⟩
      · exact h.sameChallenge j k check check' hj hk hcheck hcheck' hsame
      · exact (hfresh hop' hstage' haccepts' hj hcheck' hcheck
          (MfaCheck.sameCode_comm.trans hsame)).symm
    · rcases check?_step hrest hallowed k hk with hk | ⟨_, _, hstage', _⟩
      · exact hfresh hop hstage haccepts hk hcheck hcheck' hsame
      · rw [hstage] at hstage'
        exact congrArg MfaChallenge.id (MfaStage.found.inj hstage')

end Turn

section Runs

variable {keys : MfaKeys} {commands : ι → LoginTwoFactorCommand} {s : MfaState}

/-- The executions stay apart, and no code is accepted against two challenges. -/
def CodesApart (keys : MfaKeys) (commands : ι → LoginTwoFactorCommand) (pool : MfaLoginPool ι)
    (turn : ι × MfaChoice) : Prop :=
  LoginsApart keys commands pool turn ∧ CodesFresh keys commands pool turn

instance CodesApart.decidable (keys : MfaKeys) (commands : Bool → LoginTwoFactorCommand)
    (pool : MfaLoginPool Bool) (turn : Bool × MfaChoice) :
    Decidable (CodesApart keys commands pool turn) :=
  inferInstanceAs (Decidable (_ ∧ _))

/-- Both invariants are kept. -/
theorem codesApart_step : Pool.Keeps (MfaState.exec keys)
    (fun i => (mfaStages keys (commands i).token).contract) (fun _ _ _ => True)
    (CodesApart keys commands)
    fun pool => LoginsKept keys commands pool ∧ CodesKept keys commands pool :=
  fun pool i choice op next hpool h hturn hrest hallowed =>
    ⟨loginsKept_step pool i choice op next hpool h.1 hturn.1 hrest hallowed,
      codesKept_step h.2 hturn.2 hrest hallowed⟩

/-- Two logins with one code are one login. -/
theorem CodesKept.usedOnce {pool : MfaLoginPool ι} (h : CodesKept keys commands pool)
    (hlogins : LoginsKept keys commands pool) : CodesUsedOnce keys commands pool := by
  intro i j check check' hi hj hcheck hcheck' hsame
  have hid : check.challenge.id = check'.challenge.id :=
    h.sameChallenge i j check check' (congrArg MfaStage.check? hi) (congrArg MfaStage.check? hj)
      (decide_eq_true ⟨h.opened i check hi, hcheck⟩)
      (decide_eq_true ⟨h.opened j check' hj, hcheck'⟩) hsame
  exact hlogins.limited.challenge _ i j (loggedIn_iff.mpr ⟨check, hi, rfl⟩)
    (loggedIn_iff.mpr ⟨check', hj, hid.symm⟩)

end Runs

/-- One code for the first challenge, and the same one for the second. -/
def sameCodeTwice : Bool → LoginTwoFactorCommand
  | false => { tempToken := "first", token := "123456" }
  | true => { tempToken := "second", token := "123456" }

/-- What the two logins check. -/
def sampleCheck (id : UUID) : MfaCheck where
  challenge := MfaChallenge.issue id 1 .totp 0
  secret := "secret"
  token := "123456"
  now := seconds 5
  totpAccepted := true

/-- One code for the first challenge, and then the same one for it again. -/
def sameCodeAgain : Bool → LoginTwoFactorCommand := fun _ =>
  { tempToken := "first", token := "123456" }

end Linkapro.Identity
