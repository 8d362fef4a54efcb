import Linkapro.Identity.InterleavedAccounts
import Linkapro.Identity.MfaAttempts

/-!
# Identity: interleaved logins with a second factor

Executions of `CompleteMfaLoginUseCase` take turns on the caches. A challenge and a set of
recovery codes are read and written back in separate calls, so the limits of a challenge
hold in the runs in which no execution works on what another one has read.
-/

namespace Linkapro.Identity

open Lib Lib.Action

/-- `LoginTwoFactorCommand`. -/
structure LoginTwoFactorCommand where
  tempToken : String
  token : String
deriving DecidableEq

/-- `CompleteMfaLoginUseCase.execute` with all calls on the recovery codes. -/
def LoginTwoFactorCommand.program (keys : MfaKeys) (command : LoginTwoFactorCommand) :
    MfaAction AuthenticationDecision :=
  withRecoveryCodes keys (completeMfaLogin command.tempToken command.token)

/-- The recovery codes that an execution has read, and the users of whom it has consumed one. -/
structure RecoveryProgress where
  read : Option (UUID × List RecoveryCode)
  consumed : List UUID

/-- How far an execution has come. -/
structure LoginStage where
  login : MfaStage
  recovery : RecoveryProgress

/-- The stage that a call leads to. -/
def advanceMfa (stage : LoginStage) : Call (Raising AccountError MfaOp.Ret) → LoginStage
  | ⟨.account op, answer⟩ => { stage with login := advanceLogin stage.login ⟨op, answer⟩ }
  | ⟨.getRecoveryCodes userId, .ok recoveryCodes⟩ =>
    { stage with recovery := { stage.recovery with read := some (userId, recoveryCodes) } }
  | ⟨.saveRecoveryCodes userId _, .ok _⟩ =>
    { stage with
      recovery := { stage.recovery with consumed := userId :: stage.recovery.consumed } }
  | _ => stage

/-- The calls on the recovery codes do not move the login. -/
theorem login_advanceMfa {stage : LoginStage} {op : MfaOp} (hop : ∀ call, op ≠ .account call)
    (answer : Except AccountError op.Ret) :
    (advanceMfa stage ⟨op, answer⟩).login = stage.login := by
  cases op with
  | account call => exact absurd rfl (hop call)
  | getRecoveryCodes userId | saveRecoveryCodes userId codes =>
    cases answer with
    | error error => rfl
    | ok _ => rfl
  | _ => rfl

/-- Only a write of recovery codes consumes one. -/
theorem consumed_advanceMfa {stage : LoginStage} {op : MfaOp}
    (hop : ∀ userId codes, op ≠ .saveRecoveryCodes userId codes)
    (answer : Except AccountError op.Ret) :
    (advanceMfa stage ⟨op, answer⟩).recovery.consumed = stage.recovery.consumed := by
  cases op with
  | saveRecoveryCodes userId codes => exact absurd rfl (hop userId codes)
  | getRecoveryCodes userId =>
    cases answer with
    | error error => rfl
    | ok _ => rfl
  | _ => rfl

/-- A login stays complete. -/
theorem advanceMfa_loggedIn {stage : LoginStage} {check : MfaCheck}
    (h : stage.login = .loggedIn check) (call : Call (Raising AccountError MfaOp.Ret)) :
    (advanceMfa stage call).login = .loggedIn check := by
  obtain ⟨op, answer⟩ := call
  by_cases hop : ∃ call, op = .account call
  · obtain ⟨call, rfl⟩ := hop
    change advanceLogin stage.login _ = _
    rw [h]
    unfold advanceLogin
    split
    all_goals rfl
  · rw [login_advanceMfa (fun call heq => hop ⟨call, heq⟩), h]

/-- The calls that an execution with the code `token` may perform at a stage. The codes are
written back without the presented one. -/
def permitsMfa (keys : MfaKeys) (token : String) (stage : LoginStage) : MfaOp → Prop
  | .account op => permitsLogin token stage.login op
  | .saveRecoveryCodes userId updatedCodes =>
    ∃ recoveryCodes now, stage.recovery.read = some (userId, recoveryCodes) ∧
      consumeFirst (keys.hashRecoveryCode token) now recoveryCodes = some updatedCodes
  | .clearRecoveryCodes _ => False
  | _ => True

/-- The stages of a login with all calls on the recovery codes. -/
def mfaStages (keys : MfaKeys) (token : String) :
    Stages (Raising AccountError MfaOp.Ret) LoginStage where
  initial := { login := .started, recovery := { read := none, consumed := [] } }
  advance := advanceMfa
  permits := permitsMfa keys token

section Program

variable {keys : MfaKeys} {token : String} {stage : LoginStage}

/-- A consumption writes the codes that it has read, without the presented one. -/
theorem consumeRecoveryCode_takes {userId : UUID} :
    (consumeRecoveryCode keys userId token).Takes (mfaStages keys token) stage
      fun last _ => last.login = stage.login := by
  refine Takes.bind
    (P := fun last outcome => last.login = stage.login ∧ ∀ recoveryCodes,
      outcome = .ok recoveryCodes → last.recovery.read = some (userId, recoveryCodes))
    (Takes.perform trivial fun answer _ => ?_) (fun last recoveryCodes hlast => ?_)
    fun _ _ hlast => hlast.1
  · cases answer with
    | error error => exact ⟨rfl, fun _ h => by cases h⟩
    | ok recoveryCodes =>
      refine ⟨rfl, ?_⟩
      rintro _ ⟨⟩
      rfl
  · obtain ⟨hlogin, hread⟩ := hlast
    refine Takes.ite (fun _ => hlogin) fun _ => ?_
    have hclock : Idles (mfaStages keys token) last (mfaQuery .clockNow) :=
      Idles.perform trivial fun _ => rfl
    refine hclock.then (fun now => ?_) fun _ => hlogin
    unfold consumeCode
    split
    · exact hlogin
    · next updatedCodes hconsume =>
      refine Takes.bind (P := fun last _ => last.login = stage.login)
        (Takes.perform ⟨recoveryCodes, now, hread _ rfl, hconsume⟩ fun answer _ => ?_)
        (fun _ _ hlast => Takes.pure (P := fun last _ => LoginStage.login last = stage.login) hlast)
        fun _ _ hlast => hlast
      cases answer with
      | error error => exact hlogin
      | ok _ => exact hlogin

/-- The calls behind a call lead to the stage that the call leads to. -/
theorem mfaCalls_takes (op : AccountOp) (h : permitsLogin token stage.login op) :
    (mfaCalls keys op).Takes (mfaStages keys token) stage fun last answer =>
      (loginStages token).possible ⟨op, answer⟩ ∧
        last.login = advanceLogin stage.login ⟨op, answer⟩ := by
  cases op with
  | service call =>
    cases call with
    | consumeRecoveryCode userId code =>
      have hcode : code = token := h
      subst hcode
      exact consumeRecoveryCode_takes.mono fun _ _ hlogin => ⟨trivial, hlogin⟩
    | _ => exact ⟨h, fun _ _ => ⟨trivial, rfl⟩⟩
  | _ => exact ⟨h, fun _ _ => ⟨trivial, rfl⟩⟩

/-- An execution passes through its stages. -/
theorem LoginTwoFactorCommand.takes (command : LoginTwoFactorCommand) :
    (command.program keys).Takes (mfaStages keys command.token)
      (mfaStages keys command.token).initial fun _ _ => True :=
  Takes.expand (c := LoginStage.login) (P := fun _ _ => True) (fun _ op h => mfaCalls_takes op h)
    (completeMfaLogin_takes command.tempToken)

end Program

/-- Executions of `CompleteMfaLoginUseCase` and the caches. -/
abbrev MfaLoginPool (ι : Type) : Type :=
  Pool ι MfaState (Raising AccountError MfaOp.Ret) (Except AccountError AuthenticationDecision)

variable {ι : Type} [DecidableEq ι]

/-- Before the first call. -/
def startLogins (keys : MfaKeys) (s : MfaState) (commands : ι → LoginTwoFactorCommand) :
    MfaLoginPool ι :=
  Pool.start s fun i => ((commands i).program keys).run

/-- How far an execution of the pool has come. -/
def loginStage (keys : MfaKeys) (commands : ι → LoginTwoFactorCommand) (pool : MfaLoginPool ι)
    (i : ι) : LoginStage :=
  pool.stage (mfaStages keys (commands i).token) i

/-- The call opens a session. -/
def opensSession : Call (Raising AccountError MfaOp.Ret) → Bool
  | ⟨.account (.service (.createIdentitySession _ _)), _⟩ => true
  | _ => false

/-- The challenge for which a session has been opened. -/
def MfaStage.sessionFor : MfaStage → Option UUID
  | .loggedIn check => some check.challenge.id
  | _ => none

/-- The execution has opened a session for the challenge `id`. -/
def LoggedIn (keys : MfaKeys) (commands : ι → LoginTwoFactorCommand) (pool : MfaLoginPool ι)
    (id : UUID) (i : ι) : Prop :=
  (loginStage keys commands pool i).login.sessionFor = some id

instance (keys : MfaKeys) (commands : ι → LoginTwoFactorCommand) (pool : MfaLoginPool ι)
    (id : UUID) (i : ι) : Decidable (LoggedIn keys commands pool id i) :=
  inferInstanceAs (Decidable (_ = _))

theorem loggedIn_iff {keys : MfaKeys} {commands : ι → LoginTwoFactorCommand}
    {pool : MfaLoginPool ι} {id : UUID} {i : ι} : LoggedIn keys commands pool id i ↔
      ∃ check, (loginStage keys commands pool i).login = .loggedIn check ∧
        check.challenge.id = id := by
  unfold LoggedIn
  cases (loginStage keys commands pool i).login with
  | loggedIn check => simp [MfaStage.sessionFor]
  | _ => simp [MfaStage.sessionFor]

/-- The limits of challenges and recovery codes. -/
structure LoginsLimited (keys : MfaKeys) (commands : ι → LoginTwoFactorCommand)
    (pool : MfaLoginPool ι) : Prop where
  /-- An execution opens at most one session, for a challenge. -/
  session : ∀ i, (pool.log i).countP opensSession ≤ 1 ∧
    (0 < (pool.log i).countP opensSession → ∃ id, LoggedIn keys commands pool id i)
  /-- At most one execution opens a session for a challenge. -/
  challenge : ∀ id i j, LoggedIn keys commands pool id i → LoggedIn keys commands pool id j → i = j
  /-- An execution consumes at most one recovery code of a user. -/
  consumption : ∀ i, (loginStage keys commands pool i).recovery.consumed.Nodup
  /-- At most one execution consumes a recovery code. -/
  recoveryCode : ∀ userId i j, userId ∈ (loginStage keys commands pool i).recovery.consumed →
    userId ∈ (loginStage keys commands pool j).recovery.consumed →
      keys.hashRecoveryCode (commands i).token = keys.hashRecoveryCode (commands j).token → i = j
  /-- The limit of a challenge bounds the executions that have verified a code against it. -/
  attempts : ∀ id (js : List ι), js.Nodup →
    (∀ j ∈ js, (loginStage keys commands pool j).login.Verified id) → ∀ j check,
      (loginStage keys commands pool j).login.check? = some check → check.challenge.id = id →
        js.length ≤ check.challenge.maxAttempts

/-- An execution reads a challenge that no other execution has read and is still to write back,
and it writes the recovery codes of which it has consumed one over those that it has read. -/
def LoginsApart (keys : MfaKeys) (commands : ι → LoginTwoFactorCommand) (pool : MfaLoginPool ι)
    (turn : ι × MfaChoice) : Prop :=
  match pool.next turn.1 with
  | some (.account (.service (.getMfaChallenge challengeId))) =>
    ∀ j, j ≠ turn.1 → ¬ (loginStage keys commands pool j).login.Holds challengeId
  | some (.saveRecoveryCodes userId _) =>
    (loginStage keys commands pool turn.1).recovery.read =
      some (userId, pool.state.getRecoveryCodes userId)
  | _ => True

/-- The stages of all logins. -/
def logins (keys : MfaKeys) (commands : ι → LoginTwoFactorCommand) (pool : MfaLoginPool ι) :
    ι → MfaStage :=
  fun i => (loginStage keys commands pool i).login

/-- The cached challenges. -/
def MfaState.stored (s : MfaState) (id : UUID) : Option MfaChallenge :=
  (s.challenges id).map Expiring.value

/-- The users of whom the executions have consumed a recovery code. -/
def consumptions (keys : MfaKeys) (commands : ι → LoginTwoFactorCommand) (pool : MfaLoginPool ι)
    (i : ι) : List UUID :=
  (loginStage keys commands pool i).recovery.consumed

/-- What every turn keeps as long as the executions stay apart. -/
structure LoginsKept (keys : MfaKeys) (commands : ι → LoginTwoFactorCommand)
    (pool : MfaLoginPool ι) : Prop where
  attempts : Attempts (logins keys commands pool) pool.state.stored
  session : ∀ i, (pool.log i).countP opensSession ≤ 1 ∧
    (0 < (pool.log i).countP opensSession →
      ∃ check, logins keys commands pool i = .loggedIn check)
  consumptions : Consumptions (consumptions keys commands pool)
    (fun i => keys.hashRecoveryCode (commands i).token) pool.state.getRecoveryCodes

instance LoginsApart.decidable (keys : MfaKeys) (commands : Bool → LoginTwoFactorCommand)
    (pool : MfaLoginPool Bool) (turn : Bool × MfaChoice) :
    Decidable (LoginsApart keys commands pool turn) := by
  unfold LoginsApart
  split
  all_goals infer_instance

section Turn

variable {keys : MfaKeys} {commands : ι → LoginTwoFactorCommand} {pool : MfaLoginPool ι} {i : ι}
  {choice : MfaChoice} {op : MfaOp}
  {next : Except AccountError op.Ret →
    Program (Raising AccountError MfaOp.Ret) (Except AccountError AuthenticationDecision)}

/-- The stages after a call. -/
theorem loginStage_step (hrest : pool.rest i = .call op next) (j : ι) :
    loginStage keys commands (pool.step (MfaState.exec keys) (i, choice)) j =
      if j = i then advanceMfa (loginStage keys commands pool i)
        ⟨op, (MfaState.exec keys choice op pool.state).1⟩
      else loginStage keys commands pool j := by
  by_cases hji : j = i
  · subst hji
    rw [if_pos rfl]
    exact Pool.stage_step_self hrest
  · rw [if_neg hji]
    exact Pool.stage_step_other (Ne.symm hji)

variable (keys commands choice) in
/-- A call on the accounts or on the challenges moves the login that performs it. -/
theorem logins_moved {op : AccountOp}
    {next : Except AccountError op.Ret →
      Program (Raising AccountError MfaOp.Ret) (Except AccountError AuthenticationDecision)}
    (hrest : pool.rest i = .call (.account op) next) :
    Moved i (advanceLogin (logins keys commands pool i)
        ⟨op, (MfaState.exec keys choice (.account op) pool.state).1⟩)
      (logins keys commands pool)
      (logins keys commands (pool.step (MfaState.exec keys) (i, choice))) where
  self := by
    unfold logins
    rw [loginStage_step hrest, if_pos rfl]
    rfl
  other j hji := by
    unfold logins
    rw [loginStage_step hrest, if_neg hji]

/-- The caches after a turn. -/
theorem state_step (hrest : pool.rest i = .call op next) :
    (pool.step (MfaState.exec keys) (i, choice)).state =
      (MfaState.exec keys choice op pool.state).2 := by
  rw [Pool.step_of_call hrest]

/-- Only the save of a challenge changes the cached challenges. -/
theorem stored_exec {s : MfaState}
    (hop : ∀ challenge, op ≠ .account (.service (.saveMfaChallenge challenge))) :
    (MfaState.exec keys choice op s).2.stored = s.stored := by
  funext id
  rw [MfaState.stored, MfaState.challenges_exec hop, MfaState.stored]

/-- A turn that moves no login and caches no challenge. -/
theorem attempts_idle (h : Attempts (logins keys commands pool) pool.state.stored)
    (hrest : pool.rest i = .call op next)
    (hidle : (advanceMfa (loginStage keys commands pool i)
      ⟨op, (MfaState.exec keys choice op pool.state).1⟩).login = logins keys commands pool i)
    (hop : ∀ challenge, op ≠ .account (.service (.saveMfaChallenge challenge))) :
    Attempts (logins keys commands (pool.step (MfaState.exec keys) (i, choice)))
      (pool.step (MfaState.exec keys) (i, choice)).state.stored := by
  have hlogins : logins keys commands (pool.step (MfaState.exec keys) (i, choice)) =
      logins keys commands pool := by
    funext j
    unfold logins at hidle ⊢
    rw [loginStage_step hrest]
    split
    · next hji => rw [hji, hidle]
    · rfl
  rw [hlogins, state_step hrest, stored_exec hop]
  exact h

/-- A challenge is read. -/
theorem attempts_find {id : UUID}
    {next : Except AccountError (Option MfaChallenge) →
      Program (Raising AccountError MfaOp.Ret) (Except AccountError AuthenticationDecision)}
    (h : Attempts (logins keys commands pool) pool.state.stored)
    (hrest : pool.rest i = .call (.account (.service (.getMfaChallenge id))) next)
    (hstage : logins keys commands pool i = .started)
    (hfree : ∀ j, j ≠ i → ¬ (logins keys commands pool j).Holds id) :
    Attempts (logins keys commands (pool.step (MfaState.exec keys) (i, choice)))
      (pool.step (MfaState.exec keys) (i, choice)).state.stored := by
  have hmoved := logins_moved keys commands choice hrest
  by_cases hfound : ∃ challenge, (MfaState.exec keys choice
      (.account (.service (.getMfaChallenge id))) pool.state).1 = .ok (some challenge)
  · obtain ⟨challenge, hanswer⟩ := hfound
    obtain ⟨hid, hstored⟩ := MfaState.stored_of_get (MfaState.answer_getMfaChallenge hanswer)
    rw [hanswer, hstage] at hmoved
    rw [state_step hrest, stored_exec fun _ h => by cases h]
    refine h.find hmoved hstage (fun j hj => ?_) (hid ▸ hstored)
    by_cases hji : j = i
    · rw [hji, hstage] at hj
      cases hj
    · exact hfree j hji (hid ▸ hj)
  · refine attempts_idle h hrest ?_ fun _ h => by cases h
    generalize (MfaState.exec keys choice (.account (.service (.getMfaChallenge id)))
      pool.state).1 = answer at hfound
    cases answer with
    | error error => rfl
    | ok found =>
      cases found with
      | none => rfl
      | some challenge => exact absurd ⟨challenge, rfl⟩ hfound

/-- The code of the device is checked. -/
theorem attempts_verify {secret token : String} {now : Datetime} {challenge : MfaChallenge}
    {next : Except AccountError Bool →
      Program (Raising AccountError MfaOp.Ret) (Except AccountError AuthenticationDecision)}
    (h : Attempts (logins keys commands pool) pool.state.stored)
    (hrest : pool.rest i = .call (.account (.service (.verifyTotp secret token now))) next)
    (hstage : logins keys commands pool i = .found challenge) :
    Attempts (logins keys commands (pool.step (MfaState.exec keys) (i, choice)))
      (pool.step (MfaState.exec keys) (i, choice)).state.stored := by
  have hmoved := logins_moved keys commands choice hrest
  have hchecked (answer : Except AccountError Bool) : ∃ totpAccepted,
      advanceLogin (.found challenge) ⟨.service (.verifyTotp secret token now), answer⟩ =
        .checked { challenge, secret, token, now, totpAccepted } := by
    cases answer with
    | error error => exact ⟨false, rfl⟩
    | ok accepted => exact ⟨accepted, rfl⟩
  obtain ⟨totpAccepted, hnew⟩ := hchecked
    (MfaState.exec keys choice (.account (.service (.verifyTotp secret token now))) pool.state).1
  rw [hstage] at hmoved
  rw [state_step hrest, stored_exec fun _ h => by cases h]
  exact h.verify (hmoved.of_eq hnew) hstage

/-- The challenge is written back. A write that fails may have taken effect. -/
theorem attempts_save {check : MfaCheck} {accepted : Bool}
    {next : Except AccountError Unit →
      Program (Raising AccountError MfaOp.Ret) (Except AccountError AuthenticationDecision)}
    (h : Attempts (logins keys commands pool) pool.state.stored)
    (hrest : pool.rest i = .call (.account (.service (.saveMfaChallenge
      (check.challenge.verify accepted check.now).challenge))) next)
    (hstage : logins keys commands pool i = .checked check) :
    Attempts (logins keys commands (pool.step (MfaState.exec keys) (i, choice)))
      (pool.step (MfaState.exec keys) (i, choice)).state.stored := by
  have hmoved := logins_moved keys commands choice hrest
  have hid := (Attempts.verify_challenge check.challenge accepted check.now).1
  have hstored (id : UUID) : (pool.state.saveChallenge
      (check.challenge.verify accepted check.now).challenge choice.now).stored id =
        if id = (check.challenge.verify accepted check.now).challenge.id then
          some (check.challenge.verify accepted check.now).challenge
        else pool.state.stored id := MfaState.stored_saveChallenge
  have hheld : (logins keys commands pool i).held = some check.challenge := by
    rw [hstage]
    rfl
  rw [hstage] at hmoved
  rw [state_step hrest]
  rcases MfaState.exec_cases keys choice pool.state (.account (.service (.saveMfaChallenge
    (check.challenge.verify accepted check.now).challenge))) with
    ⟨_, hexec⟩ | ⟨_, after, heffect, hexec | ⟨_, hexec⟩⟩
  · rw [hexec] at hmoved ⊢
    have hsame : logins keys commands (pool.step (MfaState.exec keys) (i, choice)) =
        logins keys commands pool := funext (Moved.congr (f := id) hmoved hstage.symm)
    rw [hsame]
    exact h
  · rw [hexec] at hmoved ⊢
    cases heffect
    refine h.save hmoved hstage ?_ fun id hne => ?_
    · exact (hstored _).trans (if_pos hid.symm)
    · exact (hstored _).trans (if_neg fun heq => hne (heq.trans hid))
  · rw [hexec] at hmoved ⊢
    cases heffect
    have hsame : logins keys commands (pool.step (MfaState.exec keys) (i, choice)) =
        logins keys commands pool := funext (Moved.congr (f := id) hmoved hstage.symm)
    rw [hsame]
    refine h.replace hheld fun id hne => ?_
    exact (hstored _).trans (if_neg fun heq => hne (heq.trans hid))

/-- A turn keeps the attempts if it reads no challenge that another execution holds. -/
theorem attempts_step (h : Attempts (logins keys commands pool) pool.state.stored)
    (hturn : LoginsApart keys commands pool (i, choice)) (hrest : pool.rest i = .call op next)
    (hallowed : permitsMfa keys (commands i).token (loginStage keys commands pool i) op) :
    Attempts (logins keys commands (pool.step (MfaState.exec keys) (i, choice)))
      (pool.step (MfaState.exec keys) (i, choice)).state.stored := by
  cases op with
  | account op =>
    cases op with
    | service call =>
      cases call with
      | getMfaChallenge id =>
        have hfree := hturn
        unfold LoginsApart at hfree
        rw [Pool.next_of_call hrest] at hfree
        exact attempts_find h hrest hallowed hfree
      | verifyTotp secret token now =>
        obtain ⟨challenge, hstage⟩ := hallowed
        exact attempts_verify h hrest hstage
      | saveMfaChallenge saved =>
        obtain ⟨check, accepted, hstage, rfl⟩ := hallowed
        exact attempts_save h hrest hstage
      | createIdentitySession userId family =>
        obtain ⟨check, hopen, hstage⟩ := hallowed
        have hmoved := logins_moved keys commands choice hrest
        have hlogin : logins keys commands pool i = _ := hstage
        rw [hlogin] at hmoved
        rw [state_step hrest, stored_exec fun _ h => by cases h]
        exact h.logIn hmoved hstage hopen
      | _ => exact attempts_idle h hrest rfl fun _ h => by cases h
    | _ => exact attempts_idle h hrest rfl fun _ h => by cases h
  | _ =>
    exact attempts_idle h hrest (login_advanceMfa (fun _ h => by cases h) _) fun _ h => by cases h

/-- A session is opened for a consumed challenge, and nothing is opened after it. -/
theorem session_step
    (h : ∀ j, (pool.log j).countP opensSession ≤ 1 ∧ (0 < (pool.log j).countP opensSession →
      ∃ check, logins keys commands pool j = .loggedIn check))
    (hrest : pool.rest i = .call op next)
    (hallowed : permitsMfa keys (commands i).token (loginStage keys commands pool i) op) (j : ι) :
    ((pool.step (MfaState.exec keys) (i, choice)).log j).countP opensSession ≤ 1 ∧
      (0 < ((pool.step (MfaState.exec keys) (i, choice)).log j).countP opensSession →
        ∃ check, logins keys commands (pool.step (MfaState.exec keys) (i, choice)) j =
          .loggedIn check) := by
  by_cases hji : j = i
  · subst hji
    rw [Pool.log_step_self hrest, logins, loginStage_step hrest, if_pos rfl]
    by_cases hopens : ∃ userId family,
        op = .account (.service (.createIdentitySession userId family))
    · obtain ⟨userId, family, rfl⟩ := hopens
      obtain ⟨check, _, hstage⟩ := hallowed
      have hnone : (pool.log j).countP opensSession = 0 := by
        by_contra hpos
        obtain ⟨check', hloggedIn⟩ := (h j).2 (Nat.pos_of_ne_zero hpos)
        cases hstage.symm.trans hloggedIn
      rw [List.countP_cons_of_pos rfl, hnone]
      have hnew (answer : Except AccountError String) :
          advanceLogin (loginStage keys commands pool j).login
            ⟨.service (.createIdentitySession userId family), answer⟩ = .loggedIn check := by
        rw [hstage]
        rfl
      exact ⟨Nat.le_refl 1, fun _ => ⟨check, hnew (MfaState.exec keys choice
        (.account (.service (.createIdentitySession userId family))) pool.state).1⟩⟩
    · have hclosed (answer : Except AccountError op.Ret) : opensSession ⟨op, answer⟩ = false := by
        unfold opensSession
        split
        · next heq => exact absurd ⟨_, _, congrArg Sigma.fst heq⟩ hopens
        · rfl
      rw [List.countP_cons_of_neg (by rw [hclosed]; exact Bool.false_ne_true)]
      refine ⟨(h j).1, fun hpos => ?_⟩
      obtain ⟨check, hloggedIn⟩ := (h j).2 hpos
      exact ⟨check, advanceMfa_loggedIn hloggedIn _⟩
  · rw [Pool.log_step_other (Ne.symm hji), logins, loginStage_step hrest, if_neg hji]
    exact h j

/-- A turn consumes no code that has been consumed, if it writes over the codes it has read. -/
theorem consumptions_step
    (h : Consumptions (consumptions keys commands pool)
      (fun i => keys.hashRecoveryCode (commands i).token) pool.state.getRecoveryCodes)
    (hturn : LoginsApart keys commands pool (i, choice)) (hrest : pool.rest i = .call op next)
    (hallowed : permitsMfa keys (commands i).token (loginStage keys commands pool i) op) :
    Consumptions (consumptions keys commands (pool.step (MfaState.exec keys) (i, choice)))
      (fun i => keys.hashRecoveryCode (commands i).token)
      (pool.step (MfaState.exec keys) (i, choice)).state.getRecoveryCodes := by
  have hother (j : ι) (hji : j ≠ i) :
      consumptions keys commands (pool.step (MfaState.exec keys) (i, choice)) j =
        consumptions keys commands pool j := by
    unfold consumptions
    rw [loginStage_step hrest, if_neg hji]
  have hself : consumptions keys commands (pool.step (MfaState.exec keys) (i, choice)) i =
      (advanceMfa (loginStage keys commands pool i)
        ⟨op, (MfaState.exec keys choice op pool.state).1⟩).recovery.consumed := by
    unfold consumptions
    rw [loginStage_step hrest, if_pos rfl]
  have hidle (hsame : (advanceMfa (loginStage keys commands pool i)
      ⟨op, (MfaState.exec keys choice op pool.state).1⟩).recovery.consumed =
        consumptions keys commands pool i) :
      consumptions keys commands (pool.step (MfaState.exec keys) (i, choice)) =
        consumptions keys commands pool := by
    funext j
    by_cases hji : j = i
    · rw [hji, hself, hsame]
    · exact hother j hji
  rw [state_step hrest]
  by_cases hsave : ∃ userId updatedCodes, op = .saveRecoveryCodes userId updatedCodes
  · obtain ⟨userId, updatedCodes, rfl⟩ := hsave
    unfold LoginsApart at hturn
    rw [Pool.next_of_call hrest] at hturn
    obtain ⟨recoveryCodes, now, hread, hconsume⟩ := hallowed
    cases Option.some.inj (hread.symm.trans hturn)
    have hstored (other : UUID) :
        (pool.state.saveRecoveryCodes userId updatedCodes).getRecoveryCodes other =
          if other = userId then updatedCodes else pool.state.getRecoveryCodes other :=
      MfaState.getRecoveryCodes_save
    rcases MfaState.exec_cases keys choice pool.state (.saveRecoveryCodes userId updatedCodes) with
      ⟨_, hexec⟩ | ⟨_, after, heffect, hexec | ⟨_, hexec⟩⟩
    · rw [hidle (by rw [hexec]; rfl), hexec]
      exact h
    · rw [hexec] at hself ⊢
      cases heffect
      exact h.consume hconsume hstored hself hother
    · rw [hidle (by rw [hexec]; rfl), hexec]
      cases heffect
      exact h.write hconsume hstored
  · have hsave (userId : UUID) (codes : List RecoveryCode) : op ≠ .saveRecoveryCodes userId codes :=
      fun heq => hsave ⟨userId, codes, heq⟩
    have hclear (userId : UUID) : op ≠ .clearRecoveryCodes userId := by
      rintro rfl
      exact hallowed
    rw [hidle (consumed_advanceMfa hsave _), MfaState.getRecoveryCodes_exec hsave hclear]
    exact h

end Turn

section Runs

variable {keys : MfaKeys} {commands : ι → LoginTwoFactorCommand} {s : MfaState}

/-- Executions that pass through their stages. -/
def LoginsDisciplined (keys : MfaKeys) (commands : ι → LoginTwoFactorCommand)
    (pool : MfaLoginPool ι) : Prop :=
  Pool.Disciplined (fun i => (mfaStages keys (commands i).token).contract)
    (fun _ _ _ => True) pool

theorem startLogins_disciplined : LoginsDisciplined keys commands (startLogins keys s commands) :=
  Pool.disciplined_start (P := fun _ _ _ => True) fun i => (commands i).takes

theorem startLogins_kept : LoginsKept keys commands (startLogins keys s commands) where
  attempts := Attempts.start
  session _ := ⟨Nat.zero_le _, fun h => absurd h (Nat.lt_irrefl 0)⟩
  consumptions := Consumptions.start

/-- A turn keeps the limits if the executions stay apart. -/
theorem loginsKept_step : Pool.Keeps (MfaState.exec keys)
    (fun i => (mfaStages keys (commands i).token).contract) (fun _ _ _ => True)
    (LoginsApart keys commands) (LoginsKept keys commands) :=
  fun _ _ _ _ _ _ h hturn hrest hallowed =>
    { attempts := attempts_step h.attempts hturn hrest hallowed
      session := session_step h.session hrest hallowed
      consumptions := consumptions_step h.consumptions hturn hrest hallowed }

/-- What every turn keeps bounds sessions, recovery codes and attempts. -/
theorem LoginsKept.limited {pool : MfaLoginPool ι} (h : LoginsKept keys commands pool) :
    LoginsLimited keys commands pool where
  session i := by
    refine ⟨(h.session i).1, fun hpos => ?_⟩
    obtain ⟨check, hcheck⟩ := (h.session i).2 hpos
    exact ⟨_, loggedIn_iff.mpr ⟨check, hcheck, rfl⟩⟩
  challenge id i j hi hj := by
    obtain ⟨check, hstage, rfl⟩ := loggedIn_iff.mp hi
    obtain ⟨check', hstage', hid⟩ := loggedIn_iff.mp hj
    refine h.attempts.unique i j check check' ?_ ?_ hid.symm ?_ ?_
    · exact congrArg MfaStage.check? hstage
    · exact congrArg MfaStage.check? hstage'
    · exact congrArg MfaStage.hasConsumed hstage
    · exact congrArg MfaStage.hasConsumed hstage'
  consumption := h.consumptions.nodup
  recoveryCode := h.consumptions.unique
  attempts := h.attempts.bounded

/-- In every interleaving in which the executions stay apart, a challenge yields at most one
session, a recovery code is consumed at most once, and the limit of a challenge bounds the codes
that are verified against it. -/
theorem logins_limited (keys : MfaKeys) (commands : ι → LoginTwoFactorCommand) (s : MfaState)
    (schedule : List (ι × MfaChoice))
    (hschedule : Pool.Always (MfaState.exec keys) (LoginsApart keys commands)
      (startLogins keys s commands) schedule) :
    LoginsLimited keys commands
      ((startLogins keys s commands).run (MfaState.exec keys) schedule) :=
  (loginsKept_step.run (Pool.answers_stages fun _ _ _ _ => trivial) startLogins_disciplined startLogins_kept
    hschedule).2.limited

end Runs

/-- A device that shows one code all the time, and hashes that show the text. -/
def sampleKeys : MfaKeys where
  acceptsTotp _ _ token := token = "123456"
  replayFingerprint token := token
  hashRecoveryCode code := "#" ++ code
  hash_not_blank code := by
    have hfirst : ("#".toList.all isSpace) = false := by decide
    rw [isBlank, String.toList_append, List.all_append, hfirst, Bool.false_and]

/-- Two challenges of the planner. -/
def sampleChallenges : ExpiringMap UUID MfaChallenge Datetime := fun id =>
  if id = 11 ∨ id = 12 then some ⟨MfaChallenge.issue id 1 .totp 0, some (seconds 600)⟩ else none

/-- A planner with a second factor and one recovery code. -/
def secondFactorState : MfaState where
  accounts :=
    { sampleAccounts with
      users := Table.empty.upsert
        { sampleRow with twoFactorEnabled := true, totpSecret := some "secret" } }
  challenges := sampleChallenges
  usedCodes _ := none
  recoveryCodes userId :=
    if userId = 1 then
      some [{ id := 70, codeHash := "#abcd-efgh", usedAt := none
              codeHash_not_blank := by decide }]
    else none
  challenge_id := by
    intro id entry h
    unfold sampleChallenges at h
    split at h
    · cases h
      rfl
    · cases h

/-- A call that succeeds after five seconds. The temporary token `second` belongs to the second
challenge, every other one to the first. -/
def secondFactorChoice : MfaChoice where
  toAccountChoice :=
    { calmChoice with
      answer := fun call =>
        match call with
        | .inspectMfaLoginGrant tempToken =>
          some { grantId := tempToken, accountId := 1
                 challengeId := if tempToken = "second" then 12 else 11
                 expiresAt := seconds 600 }
        | .decryptTotpSecret stored => some stored
        | call => calmAnswer call }
  now := seconds 5
  recoveryCode := "code"

/-- Two executions in turn, call by call. -/
def alternately (count : ℕ) : List (Bool × MfaChoice) :=
  (List.replicate count [(false, secondFactorChoice), (true, secondFactorChoice)]).flatten

/-- One execution after the other. -/
def oneAfterTheOther (count : ℕ) : List (Bool × MfaChoice) :=
  List.replicate count (false, secondFactorChoice) ++
    List.replicate count (true, secondFactorChoice)

/-- Two logins with one challenge that read it before either of them writes it back. -/
def parallelLogins : MfaLoginPool Bool :=
  (startLogins sampleKeys secondFactorState fun _ =>
    { tempToken := "first", token := "123456" }).run (MfaState.exec sampleKeys) (alternately 20)

/-- Both of them open a session. -/
theorem parallel_logins_exceed :
    ¬ LoginsLimited sampleKeys (fun _ => { tempToken := "first", token := "123456" })
      parallelLogins := fun h =>
  absurd (h.challenge 11 false true (by decide +kernel) (by decide +kernel)) (by decide)

/-- A wrong code, and then a recovery code. -/
def guessThenRecover : Bool → LoginTwoFactorCommand
  | false => { tempToken := "first", token := "000000" }
  | true => { tempToken := "first", token := "abcd-efgh" }

theorem logins_limited_sample : LoginsLimited sampleKeys guessThenRecover
    ((startLogins sampleKeys secondFactorState guessThenRecover).run (MfaState.exec sampleKeys)
      (oneAfterTheOther 25)) :=
  logins_limited sampleKeys guessThenRecover secondFactorState (oneAfterTheOther 25)
    (by decide +kernel)

end Linkapro.Identity
