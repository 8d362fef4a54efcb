import Linkapro.Identity.AccountStages
import Linkapro.Identity.MfaStores

/-!
# Identity: the stages of a login with a second factor

An execution finds its challenge, checks the presented code, writes the challenge back
and opens a session if the code has been accepted. Beside these stages it may read and
write the recovery codes of its user.
-/

namespace Linkapro.Identity

open Lib Lib.Action

/-- What an execution checks: the challenge it has found and the code of the device. -/
structure MfaCheck where
  challenge : MfaChallenge
  secret : String
  token : String
  now : Datetime
  totpAccepted : Bool
deriving DecidableEq

/-- The outcome of the check depends on the presented code. -/
def MfaCheck.isOpen (check : MfaCheck) : Bool :=
  check.challenge.method = .totp ∧ check.challenge.canAttempt check.now

/-- How far an execution has come. -/
inductive MfaStage : Type where
  | started
  | found (challenge : MfaChallenge)
  | checked (check : MfaCheck)
  | saved (check : MfaCheck) (challenge : MfaChallenge)
  | loggedIn (check : MfaCheck)
deriving DecidableEq

namespace MfaStage

/-- The challenge has been found. -/
def find (challenge : MfaChallenge) : MfaStage → MfaStage
  | .started => .found challenge
  | stage => stage

/-- The code of the device has been checked. -/
def check (secret token : String) (now : Datetime) (totpAccepted : Bool) : MfaStage → MfaStage
  | .found challenge => .checked { challenge, secret, token, now, totpAccepted }
  | stage => stage

/-- The challenge has been written back. -/
def save (challenge : MfaChallenge) : MfaStage → MfaStage
  | .checked check => .saved check challenge
  | stage => stage

/-- A session has been requested. -/
def logIn : MfaStage → MfaStage
  | .saved check _ => .loggedIn check
  | stage => stage

end MfaStage

/-- The calls that move a login or depend on its code. -/
def AccountOp.movesLogin : AccountOp → Bool
  | .service (.getMfaChallenge _) | .service (.verifyTotp _ _ _)
  | .service (.saveMfaChallenge _) | .service (.createIdentitySession _ _)
  | .service (.consumeRecoveryCode _ _) => true
  | _ => false

/-- The stage that a call leads to. -/
def advanceLogin (stage : MfaStage) : AccountCall → MfaStage
  | ⟨.service (.getMfaChallenge _), .ok (some challenge)⟩ => stage.find challenge
  | ⟨.service (.verifyTotp secret token now), .ok accepted⟩ => stage.check secret token now accepted
  | ⟨.service (.verifyTotp secret token now), .error _⟩ => stage.check secret token now false
  | ⟨.service (.saveMfaChallenge challenge), .ok _⟩ => stage.save challenge
  | ⟨.service (.createIdentitySession _ _), _⟩ => stage.logIn
  | _ => stage

/-- The calls that an execution with the code `token` may perform at a stage. The challenge is
written back as the policy has left it, and a session follows a consumed challenge. -/
def permitsLogin (token : String) (stage : MfaStage) : AccountOp → Prop
  | .service (.getMfaChallenge _) => stage = .started
  | .service (.verifyTotp _ _ _) => ∃ challenge, stage = .found challenge
  | .service (.saveMfaChallenge challenge) =>
    ∃ check accepted, stage = .checked check ∧
      challenge = (check.challenge.verify accepted check.now).challenge
  | .service (.createIdentitySession _ _) =>
    ∃ check, check.isOpen = true ∧ stage = .saved check (check.challenge.consume check.now)
  | .service (.consumeRecoveryCode _ code) => code = token
  | _ => True

/-- The stages of `CompleteMfaLoginUseCase.execute` with the code `token`. -/
def loginStages (token : String) : Stages (Raising AccountError AccountOp.Ret) MfaStage where
  initial := .started
  advance := advanceLogin
  permits := permitsLogin token

variable {token : String} {stage : MfaStage} {op : AccountOp}

theorem movesLogin_of_isOrdinary (h : op.isOrdinary = true) : op.movesLogin = false := by
  cases op with
  | service call =>
    cases call with
    | getMfaChallenge _ | verifyTotp _ _ _ | saveMfaChallenge _ | createIdentitySession _ _
    | consumeRecoveryCode _ _ => cases h
    | _ => rfl
  | _ => rfl

/-- Every other call leaves the stage as it is. -/
theorem advanceLogin_of_not_moves (h : op.movesLogin = false)
    (answer : Except AccountError op.Ret) : advanceLogin stage ⟨op, answer⟩ = stage := by
  cases op with
  | service call =>
    cases call with
    | getMfaChallenge _ | verifyTotp _ _ _ | saveMfaChallenge _ | createIdentitySession _ _
    | consumeRecoveryCode _ _ => cases h
    | _ => rfl
  | _ => rfl

theorem permitsLogin_of_not_moves (h : op.movesLogin = false) : permitsLogin token stage op := by
  cases op with
  | service call =>
    cases call with
    | getMfaChallenge _ | verifyTotp _ _ _ | saveMfaChallenge _ | createIdentitySession _ _
    | consumeRecoveryCode _ _ => cases h
    | _ => trivial
  | _ => trivial

instance : Ordinary (loginStages token) where
  permits _ _ h := permitsLogin_of_not_moves (movesLogin_of_isOrdinary h)
  advance _ _ answer h := advanceLogin_of_not_moves (movesLogin_of_isOrdinary h) answer

/-- The policy accepts an open challenge only, and consumes it. -/
theorem verify_accepted {challenge : MfaChallenge} {accepted : Bool} {now : Datetime}
    (h : (challenge.verify accepted now).accepted = true) :
    decide (challenge.method = .totp ∧ challenge.canAttempt now = true) = true ∧
      (challenge.verify accepted now).challenge = challenge.consume now := by
  unfold MfaChallenge.verify at h ⊢
  split at h
  · cases h
  · next hattempt =>
    split at h
    · next haccepted =>
      rw [if_neg hattempt, if_pos haccepted]
      refine ⟨decide_eq_true ?_, rfl⟩
      rwa [not_or, not_not, not_not] at hattempt
    · cases h

section Parts

variable {user : User}

/-- A call that does not move the login. -/
theorem unmoved_idles (h : op.movesLogin = false) : (query op).Idles (loginStages token) stage :=
  Idles.perform (permitsLogin_of_not_moves h) (advanceLogin_of_not_moves h)

/-- A session is opened after the challenge has been consumed. -/
theorem issueAuthenticatedTokens_takes {check : MfaCheck} (hopen : check.isOpen = true) :
    (issueAuthenticatedTokens accountSessions user).Takes (loginStages token)
      (.saved check (check.challenge.consume check.now)) fun _ _ => True := by
  refine (unmoved_idles rfl).then (fun family => ?_) fun _ => trivial
  refine Takes.bind (P := fun last _ => last = .loggedIn check)
    (Takes.perform ⟨check, hopen, rfl⟩ fun _ _ => rfl) (fun last sessionId hlast => ?_)
    fun _ _ _ => trivial
  have haccess (claims : TokenClaims) : AccountOp.movesLogin (.createAccessToken claims) = false :=
    rfl
  have hrefresh (claims : TokenClaims) :
      AccountOp.movesLogin (.createRefreshToken claims) = false := rfl
  refine Takes.mono (P := fun last' _ => last' = last) ?_ fun _ _ _ => trivial
  exact (unmoved_idles (haccess _)).bind fun _ => (unmoved_idles (hrefresh _)).bind fun _ => Idles.pure

/-- The rest of a login whose code has been accepted. -/
theorem finishMfaLogin_takes {grant : MfaLoginGrant} {check : MfaCheck}
    (hopen : check.isOpen = true) :
    (finishMfaLogin grant user (check.challenge.consume check.now)).Takes (loginStages token)
      (.checked check) fun _ _ => True := by
  have hverify : check.challenge.consume check.now =
      (check.challenge.verify true check.now).challenge := by
    obtain ⟨hmethod, hattempt⟩ := of_decide_eq_true hopen
    simp [MfaChallenge.verify, hmethod, hattempt]
  refine Takes.bind
    (P := fun last outcome => ∀ value, outcome = .ok value →
      last = .saved check (check.challenge.consume check.now))
    (Takes.perform ⟨check, true, rfl, hverify⟩ fun answer _ => ?_) (fun last value hlast => ?_)
    fun _ _ _ => trivial
  · rintro value rfl
    rfl
  · cases hlast value rfl
    refine (unmoved_idles rfl).then (fun now => ?_) fun _ => trivial
    refine saveAndDispatch_idles.then (fun _ => ?_) fun _ => trivial
    refine Takes.bind (issueAuthenticatedTokens_takes hopen) (fun last _ _ => ?_)
      fun _ _ _ => trivial
    exact ((unmoved_idles rfl).bind fun _ => Idles.pure).mono fun _ _ _ => trivial

theorem tryRecoveryCode_idles {challenge : MfaChallenge} {now : Datetime} {totpAccepted : Bool} :
    (tryRecoveryCode user challenge token now totpAccepted).Idles (loginStages token) stage :=
  Idles.ite (Idles.perform rfl fun _ => rfl) Idles.pure

/-- The check of the presented code. -/
theorem checkMfaCode_takes {grant : MfaLoginGrant} {secret : String} {challenge : MfaChallenge} :
    (checkMfaCode grant user secret challenge token).Takes (loginStages token) (.found challenge)
      fun _ _ => True := by
  refine (unmoved_idles rfl).then (fun now => ?_) fun _ => trivial
  refine Takes.bind
    (P := fun last outcome => ∀ totpAccepted, outcome = .ok totpAccepted →
      last = .checked { challenge, secret, token, now, totpAccepted })
    (Takes.perform ⟨challenge, rfl⟩ fun answer _ => ?_) (fun last totpAccepted hlast => ?_)
    fun _ _ _ => trivial
  · rintro totpAccepted rfl
    rfl
  · cases hlast totpAccepted rfl
    refine tryRecoveryCode_idles.then (fun recoveryAccepted => ?_) fun _ => trivial
    refine Takes.ite (fun hrefused => ?_) fun haccepted => ?_
    · refine Takes.bind (P := fun _ _ => True) (Takes.perform ⟨_, _, rfl, rfl⟩ fun _ _ => trivial)
        (fun _ _ _ => trivial) fun _ _ _ => trivial
    · obtain ⟨hopen, hsaved⟩ := verify_accepted (not_not.mp haccepted)
      rw [hsaved]
      have hfinish : (finishMfaLogin grant user (challenge.consume now)).Takes (loginStages token)
          (.checked { challenge, secret, token, now, totpAccepted }) fun _ _ => True :=
        finishMfaLogin_takes hopen
      refine Takes.ite (fun _ => ?_) fun _ => hfinish
      refine (unmoved_idles rfl).then (fun (used : Bool) => ?_) fun _ => trivial
      refine Takes.ite (fun _ => trivial) fun _ => ?_
      exact (unmoved_idles rfl).then (fun _ => hfinish) fun _ => trivial

theorem completeMfaLoginFound_takes {grant : MfaLoginGrant} {found : Option User} :
    (completeMfaLoginFound grant token found).Takes (loginStages token) .started
      fun _ _ => True := by
  cases found with
  | none => trivial
  | some user =>
    refine Takes.ite (fun _ => trivial) fun _ => ?_
    refine (unmoved_idles rfl).then (fun row => ?_) fun _ => trivial
    refine totpSecretOf_idles.then (fun secret => ?_) fun _ => trivial
    cases secret with
    | none => trivial
    | some secret =>
      refine Takes.bind
        (P := fun last outcome => ∀ challenge, outcome = .ok (some challenge) →
          last = .found challenge)
        (Takes.perform rfl fun answer _ => ?_) (fun last challenge hlast => ?_) fun _ _ _ => trivial
      · rintro challenge rfl
        rfl
      · split
        · trivial
        · next challenge' hfilter =>
          obtain ⟨hfound, _⟩ := Option.filter_eq_some_iff.mp hfilter
          cases hfound
          cases hlast challenge' rfl
          exact checkMfaCode_takes

/-- An execution passes through the stages of a login. -/
theorem completeMfaLogin_takes (tempToken : String) :
    (completeMfaLogin tempToken token).Takes (loginStages token) .started fun _ _ => True := by
  refine (unmoved_idles rfl).then (fun grant => ?_) fun _ => trivial
  cases grant with
  | none => trivial
  | some grant =>
    refine (unmoved_idles rfl).then (fun (blacklisted : Bool) => ?_) fun _ => trivial
    refine Takes.ite (fun _ => trivial) fun _ => ?_
    exact getById_idles.then (fun _ => completeMfaLoginFound_takes) fun _ => trivial

end Parts

end Linkapro.Identity
