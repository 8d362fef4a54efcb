import Linkapro.Identity.AccountStages
import Linkapro.Identity.MfaLogins

/-!
# Identity: the course of one login attempt

An attempt that runs alone reads its challenge, has the presented code checked by the
device and, if the device refuses it, by the recovery codes of the user. A code of the
device is looked up among the used ones and marked before the challenge is written
back, and a session follows an accepted code only. A write that fails may or may not
have taken effect, and ends the attempt.
-/

namespace Linkapro.Identity

open Lib Lib.Action

/-- How far an attempt has come. -/
inductive AttemptStage : Type where
  | started
  | found (challenge : MfaChallenge)
  | checked (check : MfaCheck)
  /-- The recovery codes have been asked. -/
  | recovered (check : MfaCheck) (accepted : Bool)
  /-- The code of the device has been used before. -/
  | replayed (check : MfaCheck)
  | unused (check : MfaCheck)
  | marked (check : MfaCheck)
  /-- The challenge has been written back, after the code has been accepted or refused. -/
  | written (check : MfaCheck) (accepted : Bool)
  | loggedIn (check : MfaCheck)
  /-- A write has failed. -/
  | stopped
deriving DecidableEq

namespace AttemptStage

/-- The challenge has been found. -/
def find (challenge : MfaChallenge) : AttemptStage → AttemptStage
  | .started => .found challenge
  | stage => stage

/-- The code of the device has been checked. -/
def check (secret token : String) (now : Datetime) (totpAccepted : Bool) :
    AttemptStage → AttemptStage
  | .found challenge => .checked { challenge, secret, token, now, totpAccepted }
  | stage => stage

/-- The recovery codes have answered. -/
def recover (accepted : Bool) : AttemptStage → AttemptStage
  | .checked check | .recovered check _ => .recovered check accepted
  | stage => stage

/-- The code of the device has been looked up. -/
def lookUp (used : Bool) : AttemptStage → AttemptStage
  | .checked check => if used then .replayed check else .unused check
  | stage => stage

/-- The code of the device has been marked. -/
def mark : AttemptStage → AttemptStage
  | .unused check => .marked check
  | stage => stage

/-- What has been found out about the presented code. -/
def verdict : AttemptStage → Option (MfaCheck × Bool)
  | .checked check => some (check, check.totpAccepted)
  | .recovered check accepted => some (check, accepted)
  | .marked check => some (check, true)
  | _ => none

/-- The challenge has been written back. -/
def save (stage : AttemptStage) : AttemptStage :=
  match stage.verdict with
  | some (check, accepted) =>
    .written check (check.challenge.verify accepted check.now).accepted
  | none => stage

/-- A session has been requested. -/
def logIn : AttemptStage → AttemptStage
  | .written check _ => .loggedIn check
  | stage => stage

/-- The check that the attempt has made. -/
def check? : AttemptStage → Option MfaCheck
  | .checked check | .recovered check _ | .replayed check | .unused check | .marked check
  | .written check _ | .loggedIn check => some check
  | _ => none

/-- The code of the device is being marked, and the challenge is still to be written back. -/
def isPending : AttemptStage → Bool
  | .unused _ | .marked _ => true
  | _ => false

/-- How an attempt ends. -/
structure Ends (stage : AttemptStage) (outcome : Except AccountError AuthenticationDecision) :
    Prop where
  settled : stage.isPending = false
  /-- A refused code has been written down, or it is a replay. -/
  refused : ∀ decision, outcome = .ok decision → decision.status = .invalidMfaCode →
    (∃ check, stage = .written check false) ∨ ∃ check, stage = .replayed check
  /-- An accepted code has opened a session. -/
  accepted : ∀ decision, outcome = .ok decision → decision.status = .authenticated →
    ∃ check, stage = .loggedIn check

end AttemptStage

/-- The calls that move an attempt. -/
def AccountOp.movesAttempt : AccountOp → Bool
  | .service (.getMfaChallenge _) | .service (.verifyTotp _ _ _)
  | .service (.consumeRecoveryCode _ _) | .service (.hasBeenUsed _ _)
  | .service (.markUsed _ _ _) | .service (.saveMfaChallenge _)
  | .service (.createIdentitySession _ _) => true
  | _ => false

/-- The stage that a call leads to. -/
def advanceAttempt (stage : AttemptStage) : AccountCall → AttemptStage
  | ⟨.service (.getMfaChallenge _), .ok (some challenge)⟩ => stage.find challenge
  | ⟨.service (.verifyTotp secret token now), .ok accepted⟩ => stage.check secret token now accepted
  | ⟨.service (.consumeRecoveryCode _ _), .ok accepted⟩ => stage.recover accepted
  | ⟨.service (.hasBeenUsed _ _), .ok used⟩ => stage.lookUp used
  | ⟨.service (.markUsed _ _ _), .ok _⟩ => stage.mark
  | ⟨.service (.saveMfaChallenge _), .ok _⟩ => stage.save
  | ⟨.service (.createIdentitySession _ _), _⟩ => stage.logIn
  | ⟨.service (.consumeRecoveryCode _ _), .error _⟩ | ⟨.service (.markUsed _ _ _), .error _⟩
  | ⟨.service (.saveMfaChallenge _), .error _⟩ => .stopped
  | _ => stage

/-- The calls that an attempt with the code `token` may perform at a stage. -/
def permitsAttempt (token : String) (stage : AttemptStage) : AccountOp → Prop
  | .service (.getMfaChallenge _) => stage = .started
  | .service (.verifyTotp _ _ _) => ∃ challenge, stage = .found challenge
  | .service (.consumeRecoveryCode userId code) =>
    code = token ∧ ∃ check, stage = .checked check ∧ check.totpAccepted = false ∧
      userId = check.challenge.userId
  | .service (.hasBeenUsed challengeId _) =>
    ∃ check, stage = .checked check ∧ check.totpAccepted = true ∧ check.isOpen = true ∧
      challengeId = check.challenge.id
  | .service (.markUsed challengeId _ _) =>
    ∃ check, stage = .unused check ∧ challengeId = check.challenge.id
  | .service (.saveMfaChallenge challenge) =>
    ∃ check accepted, stage.verdict = some (check, accepted) ∧
      challenge = (check.challenge.verify accepted check.now).challenge ∧
      (stage = .checked check → (check.challenge.verify accepted check.now).accepted = false)
  | .service (.createIdentitySession _ _) => ∃ check, stage = .written check true
  | _ => True

/-- The stages of `CompleteMfaLoginUseCase.execute` with the code `token`. -/
def attemptStages (token : String) : Stages (Raising AccountError AccountOp.Ret) AttemptStage where
  initial := .started
  advance := advanceAttempt
  permits := permitsAttempt token

section Account

variable {token : String} {stage : AttemptStage} {op : AccountOp} {user : User} {check : MfaCheck}

theorem movesAttempt_of_isOrdinary (h : op.isOrdinary = true) : op.movesAttempt = false := by
  cases op with
  | service call =>
    cases call with
    | getMfaChallenge _ | verifyTotp _ _ _ | consumeRecoveryCode _ _ | hasBeenUsed _ _
    | markUsed _ _ _ | saveMfaChallenge _ | createIdentitySession _ _ => cases h
    | _ => rfl
  | _ => rfl

/-- Every other call leaves the stage as it is. -/
theorem advanceAttempt_of_not_moves (h : op.movesAttempt = false)
    (answer : Except AccountError op.Ret) : advanceAttempt stage ⟨op, answer⟩ = stage := by
  cases op with
  | service call =>
    cases call with
    | getMfaChallenge _ | verifyTotp _ _ _ | consumeRecoveryCode _ _ | hasBeenUsed _ _
    | markUsed _ _ _ | saveMfaChallenge _ | createIdentitySession _ _ => cases h
    | _ => rfl
  | _ => rfl

theorem permitsAttempt_of_not_moves (h : op.movesAttempt = false) :
    permitsAttempt token stage op := by
  cases op with
  | service call =>
    cases call with
    | getMfaChallenge _ | verifyTotp _ _ _ | consumeRecoveryCode _ _ | hasBeenUsed _ _
    | markUsed _ _ _ | saveMfaChallenge _ | createIdentitySession _ _ => cases h
    | _ => trivial
  | _ => trivial

instance : Ordinary (attemptStages token) where
  permits _ _ h := permitsAttempt_of_not_moves (movesAttempt_of_isOrdinary h)
  advance _ _ answer h := advanceAttempt_of_not_moves (movesAttempt_of_isOrdinary h) answer

/-- A call that does not move the attempt. -/
theorem still_idles (h : op.movesAttempt = false) : (query op).Idles (attemptStages token) stage :=
  Idles.perform (permitsAttempt_of_not_moves h) (advanceAttempt_of_not_moves h)

/-- An error ends an attempt that is not between its mark and its write. -/
theorem AttemptStage.ends_error (h : stage.isPending = false) (error : AccountError) :
    stage.Ends (.error error) where
  settled := h
  refused _ heq := by cases heq
  accepted _ heq := by cases heq

/-- An answer other than of a presented code. -/
theorem AttemptStage.ends_other (h : stage.isPending = false) {decision : AuthenticationDecision}
    (hrefused : decision.status ≠ .invalidMfaCode) (haccepted : decision.status ≠ .authenticated) :
    stage.Ends (.ok decision) where
  settled := h
  refused _ heq hstatus := absurd (Except.ok.inj heq ▸ hstatus) hrefused
  accepted _ heq hstatus := absurd (Except.ok.inj heq ▸ hstatus) haccepted

/-- A refusal. -/
theorem AttemptStage.ends_refused (h : stage.isPending = false)
    (hstage : (∃ check, stage = .written check false) ∨ ∃ check, stage = .replayed check) :
    stage.Ends (.ok { status := .invalidMfaCode }) where
  settled := h
  refused _ _ _ := hstage
  accepted _ heq hstatus := by
    rw [← Except.ok.inj heq] at hstatus
    cases hstatus

/-- A session. -/
theorem AttemptStage.ends_loggedIn {decision : AuthenticationDecision}
    (h : decision.status = .authenticated) :
    (AttemptStage.loggedIn check).Ends (.ok decision) where
  settled := rfl
  refused _ heq hstatus := by
    rw [← Except.ok.inj heq, h] at hstatus
    cases hstatus
  accepted _ _ _ := ⟨check, rfl⟩

/-- The end of the part that opens the session. -/
def Opened (check : MfaCheck) (last : AttemptStage)
    (outcome : Except AccountError AuthenticationDecision) : Prop :=
  last.isPending = false ∧ ∀ decision, outcome = .ok decision →
    decision.status = .authenticated ∧ last = .loggedIn check

theorem Opened.error {last : AttemptStage} (h : last.isPending = false) (error : AccountError) :
    Opened check last (.error error) :=
  ⟨h, fun _ heq => by cases heq⟩

/-- A session is opened after the challenge has been written back. -/
theorem issueTokens_opened :
    (issueAuthenticatedTokens accountSessions user).Takes (attemptStages token)
      (.written check true) (Opened check) := by
  refine (still_idles rfl).then (fun family => ?_) fun error => Opened.error rfl error
  refine Takes.bind (P := fun last _ => last = .loggedIn check)
    (Takes.perform ⟨check, rfl⟩ fun _ _ => rfl) (fun last sessionId hlast => ?_)
    fun last error hlast => Opened.error (by rw [hlast]; rfl) error
  cases hlast
  have haccess (claims : TokenClaims) :
      AccountOp.movesAttempt (.createAccessToken claims) = false := rfl
  have hrefresh (claims : TokenClaims) :
      AccountOp.movesAttempt (.createRefreshToken claims) = false := rfl
  refine (still_idles (haccess _)).then (fun _ => ?_) fun error => Opened.error rfl error
  refine (still_idles (hrefresh _)).then (fun _ => ?_) fun error => Opened.error rfl error
  refine ⟨rfl, fun decision heq => ?_⟩
  rw [← Except.ok.inj heq]
  exact ⟨rfl, rfl⟩

/-- The rest of an attempt whose code has been accepted. -/
theorem finishMfaLogin_ends {grant : MfaLoginGrant} (hopen : check.isOpen = true)
    (hverdict : stage.verdict = some (check, true)) (hnot : stage ≠ .checked check) :
    (finishMfaLogin grant user (check.challenge.consume check.now)).Takes (attemptStages token)
      stage AttemptStage.Ends := by
  obtain ⟨hmethod, hattempt⟩ := of_decide_eq_true hopen
  have hverify : check.challenge.verify true check.now =
      { accepted := true, challenge := check.challenge.consume check.now } := by
    simp [MfaChallenge.verify, hmethod, hattempt]
  have hsave : stage.save = .written check true := by
    rw [AttemptStage.save, hverdict]
    simp only [hverify]
  refine Takes.bind
    (P := fun last outcome => (∀ value, outcome = .ok value → last = .written check true) ∧
      ∀ error, outcome = .error error → last = .stopped)
    (Takes.perform ⟨check, true, hverdict, by rw [hverify], fun h => absurd h hnot⟩
      fun answer _ => ?_) (fun last value hlast => ?_) fun last error hlast => ?_
  · cases answer with
    | ok value => exact ⟨fun _ _ => hsave, fun _ heq => by cases heq⟩
    | error error => exact ⟨fun _ heq => (by cases heq), fun _ _ => rfl⟩
  · cases hlast.1 value rfl
    refine (still_idles rfl).then (fun now => ?_) fun error => AttemptStage.ends_error rfl error
    refine saveAndDispatch_idles.then (fun _ => ?_) fun error => AttemptStage.ends_error rfl error
    refine Takes.bind issueTokens_opened (fun last decision hopened => ?_)
      fun last error hopened => AttemptStage.ends_error hopened.1 error
    obtain ⟨hstatus, rfl⟩ := hopened.2 decision rfl
    refine (still_idles rfl).then (fun _ => ?_) fun error => AttemptStage.ends_error rfl error
    exact AttemptStage.ends_loggedIn hstatus
  · rw [hlast.2 error rfl]
    exact AttemptStage.ends_error rfl error

/-- A refused code is written back. -/
theorem refuse_ends {accepted : Bool} {now : Datetime} (hnow : now = check.now)
    (hverdict : stage.verdict = some (check, accepted))
    (hrefused : (check.challenge.verify accepted now).accepted = false) :
    (do serve (.saveMfaChallenge (check.challenge.verify accepted now).challenge)
        pure { status := .invalidMfaCode } : AccountAction AuthenticationDecision).Takes
      (attemptStages token) stage AttemptStage.Ends := by
  subst hnow
  have hsave : stage.save = .written check false := by
    rw [AttemptStage.save, hverdict]
    simp only [hrefused]
  refine Takes.bind (P := fun last outcome => (∀ value, outcome = .ok value →
      last = .written check false) ∧ ∀ error, outcome = .error error → last = .stopped)
    (Takes.perform ⟨check, accepted, hverdict, rfl, fun _ => hrefused⟩ fun answer _ => ?_)
    (fun last value hlast => ?_) fun last error hlast => ?_
  · cases answer with
    | ok value => exact ⟨fun _ _ => hsave, fun _ heq => by cases heq⟩
    | error error => exact ⟨fun _ heq => (by cases heq), fun _ _ => rfl⟩
  · rw [hlast.1 value rfl]
    exact AttemptStage.ends_refused rfl (Or.inl ⟨check, rfl⟩)
  · rw [hlast.2 error rfl]
    exact AttemptStage.ends_error rfl error

/-- The policy accepts an accepted code only. -/
theorem verify_presented {challenge : MfaChallenge} {accepted : Bool} {now : Datetime}
    (h : (challenge.verify accepted now).accepted = true) : accepted = true := by
  unfold MfaChallenge.verify at h
  split at h
  · cases h
  · split at h
    · next haccepted => exact haccepted
    · cases h

/-- What the recovery codes have answered, if they have been asked. -/
structure Consulted (check : MfaCheck) (last : AttemptStage) (outcome : Except AccountError Bool) :
    Prop where
  asked : ∀ recoveryAccepted, outcome = .ok recoveryAccepted →
    (last = .recovered check recoveryAccepted ∧ check.totpAccepted = false) ∨
      (last = .checked check ∧ recoveryAccepted = false)
  failed : ∀ error, outcome = .error error → last = .stopped

/-- What has been found out after the recovery codes. -/
theorem Consulted.verdict {last : AttemptStage} {recoveryAccepted : Bool}
    (h : Consulted check last (.ok recoveryAccepted)) :
    last.verdict = some (check, check.totpAccepted || recoveryAccepted) := by
  rcases h.asked recoveryAccepted rfl with ⟨rfl, htotp⟩ | ⟨rfl, hrecovery⟩
  · rw [htotp, Bool.false_or]
    rfl
  · rw [hrecovery, Bool.or_false]
    rfl

theorem tryRecoveryCode_consulted (huser : user.id = check.challenge.userId) :
    (tryRecoveryCode user check.challenge token check.now check.totpAccepted).Takes
      (attemptStages token) (.checked check) (Consulted check) := by
  refine Takes.ite (fun hask => ?_) fun _ => ?_
  · have htotp : check.totpAccepted = false := by simpa using hask.1
    refine Takes.perform ⟨rfl, check, rfl, htotp, huser⟩ fun answer _ => ?_
    cases answer with
    | ok accepted =>
      refine ⟨fun recoveryAccepted heq => ?_, fun _ heq => by cases heq⟩
      cases heq
      exact Or.inl ⟨rfl, htotp⟩
    | error error => exact ⟨fun _ heq => (by cases heq), fun _ _ => rfl⟩
  · refine Takes.pure ⟨fun recoveryAccepted heq => ?_, fun _ heq => by cases heq⟩
    cases heq
    exact Or.inr ⟨rfl, rfl⟩

/-- The device has accepted its code. -/
theorem acceptDevice_ends {grant : MfaLoginGrant} {ttl : ℤ} (hopen : check.isOpen = true)
    (htotp : check.totpAccepted = true) :
    (do let used : Bool ← serve (.hasBeenUsed check.challenge.id token)
        if used then pure { status := .invalidMfaCode }
        else
          serve (.markUsed check.challenge.id token ttl)
          finishMfaLogin grant user (check.challenge.consume check.now) :
        AccountAction AuthenticationDecision).Takes
      (attemptStages token) (.checked check) AttemptStage.Ends := by
  refine Takes.bind
    (P := fun last outcome => (∀ used, outcome = .ok used →
      last = if used = true then .replayed check else .unused check) ∧
        ∀ error, outcome = .error error → last = .checked check)
    (Takes.perform ⟨check, rfl, htotp, hopen, rfl⟩ fun answer _ => ?_) (fun last used hlast => ?_)
    fun last error hlast => ?_
  · cases answer with
    | ok used =>
      refine ⟨fun _ heq => ?_, fun _ heq => by cases heq⟩
      cases heq
      rfl
    | error error => exact ⟨fun _ heq => (by cases heq), fun _ _ => rfl⟩
  · rw [hlast.1 used rfl]
    refine Takes.ite (fun hused => ?_) fun hused => ?_
    · rw [if_pos hused]
      exact AttemptStage.ends_refused rfl (Or.inr ⟨check, rfl⟩)
    · rw [if_neg hused]
      refine Takes.bind (P := fun last outcome => (∀ value, outcome = .ok value →
          last = .marked check) ∧ ∀ error, outcome = .error error → last = .stopped)
        (Takes.perform ⟨check, rfl, rfl⟩ fun answer _ => ?_) (fun last value hlast => ?_)
        fun last error hlast => ?_
      · cases answer with
        | ok value => exact ⟨fun _ _ => rfl, fun _ heq => by cases heq⟩
        | error error => exact ⟨fun _ heq => (by cases heq), fun _ _ => rfl⟩
      · rw [hlast.1 value rfl]
        exact finishMfaLogin_ends hopen rfl fun heq => by cases heq
      · rw [hlast.2 error rfl]
        exact AttemptStage.ends_error rfl error
  · rw [hlast.2 error rfl]
    exact AttemptStage.ends_error rfl error

/-- The check of the presented code. -/
theorem checkMfaCode_ends {grant : MfaLoginGrant} {secret : String} {challenge : MfaChallenge}
    (huser : user.id = challenge.userId) :
    (checkMfaCode grant user secret challenge token).Takes (attemptStages token)
      (.found challenge) AttemptStage.Ends := by
  refine (still_idles rfl).then (fun now => ?_) fun error => AttemptStage.ends_error rfl error
  refine Takes.bind
    (P := fun last outcome => (∀ totpAccepted, outcome = .ok totpAccepted →
      last = .checked { challenge, secret, token, now, totpAccepted }) ∧
        ∀ error, outcome = .error error → last = .found challenge)
    (Takes.perform ⟨challenge, rfl⟩ fun answer _ => ?_) (fun last totpAccepted hlast => ?_)
    fun last error hlast => ?_
  · cases answer with
    | ok totpAccepted =>
      refine ⟨fun _ heq => ?_, fun _ heq => by cases heq⟩
      cases heq
      rfl
    | error error => exact ⟨fun _ heq => (by cases heq), fun _ _ => rfl⟩
  · rw [hlast.1 totpAccepted rfl]
    have hconsulted : (tryRecoveryCode user challenge token now totpAccepted).Takes
        (attemptStages token) (.checked { challenge, secret, token, now, totpAccepted })
        (Consulted { challenge, secret, token, now, totpAccepted }) :=
      tryRecoveryCode_consulted huser
    refine Takes.bind hconsulted (fun last recoveryAccepted hlast => ?_)
      fun last error hlast => ?_
    · refine Takes.ite (fun hrefused => ?_) fun haccepted => ?_
      · exact refuse_ends rfl hlast.verdict (Bool.not_eq_true _ ▸ hrefused)
      · obtain ⟨hopen, hsaved⟩ := verify_accepted (not_not.mp haccepted)
        rw [hsaved]
        refine Takes.ite (fun htotp => ?_) fun htotp => ?_
        · rcases hlast.asked recoveryAccepted rfl with ⟨_, hnot⟩ | ⟨rfl, _⟩
          · exact absurd htotp (Bool.eq_false_iff.mp hnot)
          · exact acceptDevice_ends hopen htotp
        · have hpresented : (totpAccepted || recoveryAccepted) = true :=
            verify_presented (not_not.mp haccepted)
          have hverdict := hlast.verdict
          rw [hpresented] at hverdict
          have hcheck : MfaCheck.isOpen { challenge, secret, token, now, totpAccepted } = true :=
            hopen
          refine finishMfaLogin_ends hcheck hverdict fun heq => ?_
          rw [heq] at hverdict
          exact htotp (Prod.mk.inj (Option.some.inj hverdict)).2
    · rw [hlast.failed error rfl]
      exact AttemptStage.ends_error rfl error
  · rw [hlast.2 error rfl]
    exact AttemptStage.ends_error rfl error

theorem completeMfaLoginFound_ends {grant : MfaLoginGrant} {found : Option User} :
    (completeMfaLoginFound grant token found).Takes (attemptStages token) .started
      AttemptStage.Ends := by
  have hinvalid : AttemptStage.started.Ends (.ok { status := .invalidTempToken }) :=
    AttemptStage.ends_other rfl (by decide) (by decide)
  have hinactive : AttemptStage.started.Ends (.ok { status := .inactive }) :=
    AttemptStage.ends_other rfl (by decide) (by decide)
  cases found with
  | none => exact hinvalid
  | some user =>
    refine Takes.ite (fun _ => hinactive) fun _ => ?_
    refine (still_idles rfl).then (fun row => ?_) fun error => AttemptStage.ends_error rfl error
    refine totpSecretOf_idles.then (fun secret => ?_) fun error => AttemptStage.ends_error rfl error
    cases secret with
    | none => exact hinvalid
    | some secret =>
      refine Takes.bind
        (P := fun last outcome => last.isPending = false ∧
          (outcome = .ok none → last = .started) ∧
          ∀ challenge, outcome = .ok (some challenge) → last = .found challenge)
        (Takes.perform rfl fun answer _ => ?_) (fun last challenge hlast => ?_)
        fun last error hlast => AttemptStage.ends_error hlast.1 error
      · cases answer with
        | error error => exact ⟨rfl, fun heq => (by cases heq), fun _ heq => by cases heq⟩
        | ok found =>
          cases found with
          | none => exact ⟨rfl, fun _ => rfl, fun _ heq => by cases heq⟩
          | some challenge =>
            refine ⟨rfl, fun heq => (by cases heq), fun _ heq => ?_⟩
            cases heq
            rfl
      · obtain ⟨hpending, _, hfound⟩ := hlast
        split
        · exact AttemptStage.ends_other hpending (by decide) (by decide)
        · next challenge' hfilter =>
          obtain ⟨hsome, hmine⟩ := Option.filter_eq_some_iff.mp hfilter
          cases hsome
          rw [hfound challenge' rfl]
          exact checkMfaCode_ends (of_decide_eq_true hmine).symm

/-- An attempt passes through its stages. -/
theorem completeMfaLogin_ends (tempToken : String) :
    (completeMfaLogin tempToken token).Takes (attemptStages token) .started
      AttemptStage.Ends := by
  have hinvalid : AttemptStage.started.Ends (.ok { status := .invalidTempToken }) :=
    AttemptStage.ends_other rfl (by decide) (by decide)
  refine (still_idles rfl).then (fun grant => ?_) fun error => AttemptStage.ends_error rfl error
  cases grant with
  | none => exact hinvalid
  | some grant =>
    refine (still_idles rfl).then (fun (blacklisted : Bool) => ?_)
      fun error => AttemptStage.ends_error rfl error
    refine Takes.ite (fun _ => hinvalid) fun _ => ?_
    exact getById_idles.then (fun _ => completeMfaLoginFound_ends)
      fun error => AttemptStage.ends_error rfl error

end Account

end Linkapro.Identity
