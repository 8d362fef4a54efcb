import Linkapro.Identity.MfaLoginRuns
import Linkapro.Identity.RecoveryCodes

/-!
# Identity: interleaved requests on recovery codes

Requests of one user take turns on the entry of the recovery codes. The codes that ought to
be accepted are computed from the calls that have returned; they are the stored usable ones
in the runs in which no request overwrites what it has not read.
-/

namespace Linkapro.Identity

open Lib Lib.Action

/-- The hashes that ought to be accepted after a call of a request. -/
def expectedAfter (keys : MfaKeys) (command : RecoveryCommand)
    (call : Call (Raising AccountError MfaOp.Ret)) (hashes : List String) : List String :=
  match call with
  | ⟨.saveRecoveryCodes _ recoveryCodes, .ok _⟩ =>
    match command with
    | .consume code => hashes.filter fun presentedHash => presentedHash ≠ keys.hashRecoveryCode code
    | _ => recoveryCodes.map RecoveryCode.codeHash
  | ⟨.account (.commit _), .ok _⟩ => []
  | _ => hashes

/-- The calls of all requests, newest first. -/
abbrev RecoveryHistory (ι : Type) : Type := List (ι × Call (Raising AccountError MfaOp.Ret))

variable {ι : Type}

/-- The hashes that ought to be accepted: those of the codes written last without the consumed
ones, and none after the second factor has been disabled. -/
def expectedHashes (keys : MfaKeys) (commands : ι → RecoveryCommand) (hashes : List String) :
    RecoveryHistory ι → List String
  | [] => hashes
  | (i, call) :: history =>
    expectedAfter keys (commands i) call (expectedHashes keys commands hashes history)

/-- The call writes the rest of the codes after a consumption. -/
def consumes (command : RecoveryCommand) : Call (Raising AccountError MfaOp.Ret) → Option String
  | ⟨.saveRecoveryCodes _ _, .ok _⟩ =>
    match command with
    | .consume code => some code
    | _ => none
  | _ => none

/-- Every code that has been consumed ought to have been accepted. -/
def ConsumesExpected (keys : MfaKeys) (commands : ι → RecoveryCommand) (hashes : List String) :
    RecoveryHistory ι → Prop
  | [] => True
  | (i, call) :: history =>
    (∀ code ∈ consumes (commands i) call,
      keys.hashRecoveryCode code ∈ expectedHashes keys commands hashes history) ∧
      ConsumesExpected keys commands hashes history

instance ConsumesExpected.decidable (keys : MfaKeys) (commands : ι → RecoveryCommand)
    (hashes : List String) :
    (history : RecoveryHistory ι) → Decidable (ConsumesExpected keys commands hashes history)
  | [] => isTrue trivial
  | (i, call) :: history =>
    have := ConsumesExpected.decidable keys commands hashes history
    inferInstanceAs (Decidable ((∀ code ∈ consumes (commands i) call, _) ∧ _))

/-- What holds as long as no request overwrites what it has not read: the stages of the requests,
the stored codes and the hashes that ought to be accepted. -/
structure CodesMatch (stages : ι → RecoveryStage) (stored : List RecoveryCode)
    (hashes : List String) : Prop where
  only : ∀ presentedHash, Usable stored presentedHash → presentedHash ∈ hashes
  all : (∀ i, stages i ≠ .cleared) → ∀ presentedHash ∈ hashes, Usable stored presentedHash
  kept : ∀ i, stages i ≠ .lost

namespace CodesMatch

variable {stages stages' : ι → RecoveryStage} {stored updatedCodes : List RecoveryCode}
  {hashes : List String} {i : ι}

/-- A request moves on without touching the codes. -/
theorem idle (h : CodesMatch stages stored hashes) (hother : ∀ j, j ≠ i → stages' j = stages j)
    (hcleared : stages i = .cleared → stages' i = .cleared)
    (hlost : stages i ≠ .lost → stages' i ≠ .lost) : CodesMatch stages' stored hashes := by
  refine ⟨h.only, fun hnone => h.all fun j hj => ?_, fun j => ?_⟩
  · by_cases hji : j = i
    · subst hji
      exact hnone j (hcleared hj)
    · exact hnone j ((hother j hji).trans hj)
  · by_cases hji : j = i
    · subst hji
      exact hlost (h.kept j)
    · exact hother j hji ▸ h.kept j

/-- New codes are written over all old ones. -/
theorem replace (h : CodesMatch stages stored hashes) (hother : ∀ j, j ≠ i → stages' j = stages j)
    (hself : stages' i = .written updatedCodes)
    (hunused : ∀ recoveryCode ∈ updatedCodes, recoveryCode.isUsed = false) :
    CodesMatch stages' updatedCodes (updatedCodes.map RecoveryCode.codeHash) := by
  refine ⟨fun presentedHash => (usable_iff_of_unused hunused).mp,
    fun _ presentedHash => (usable_iff_of_unused hunused).mpr, fun j => ?_⟩
  by_cases hji : j = i
  · rw [hji, hself]
    exact nofun
  · exact hother j hji ▸ h.kept j

/-- A code is consumed, and the other codes are written back. -/
theorem consume (h : CodesMatch stages stored hashes) {consumedHash : String} {now : Datetime}
    (hother : ∀ j, j ≠ i → stages' j = stages j) (hstage : stages i = .read stored)
    (hself : stages' i = .written updatedCodes)
    (hconsume : consumeFirst consumedHash now stored = some updatedCodes) :
    CodesMatch stages' updatedCodes
      (hashes.filter fun presentedHash => presentedHash ≠ consumedHash) := by
  have hmoved : CodesMatch stages' stored hashes := by
    refine h.idle hother (fun hcleared => ?_) fun _ => ?_
    · rw [hstage] at hcleared
      cases hcleared
    · rw [hself]
      exact nofun
  have husable (other : String) :
      Usable updatedCodes other ↔ other ≠ consumedHash ∧ Usable stored other :=
    usable_iff_of_consumeFirst hconsume
  refine ⟨fun presentedHash hcode => ?_, fun hnone presentedHash hmem => ?_, hmoved.kept⟩
  · obtain ⟨hne, hold⟩ := (husable presentedHash).mp hcode
    exact List.mem_filter.mpr ⟨h.only presentedHash hold, decide_eq_true hne⟩
  · obtain ⟨hmem, hne⟩ := List.mem_filter.mp hmem
    exact (husable presentedHash).mpr
      ⟨of_decide_eq_true hne, hmoved.all hnone presentedHash hmem⟩

/-- The old codes are cleared before new ones are written. -/
theorem clear (h : CodesMatch stages stored hashes) (hother : ∀ j, j ≠ i → stages' j = stages j)
    (hself : stages' i = .cleared) : CodesMatch stages' [] hashes := by
  refine ⟨nofun, fun hnone => absurd hself (hnone i), fun j => ?_⟩
  by_cases hji : j = i
  · rw [hji, hself]
    exact nofun
  · exact hother j hji ▸ h.kept j

/-- The second factor is disabled when no code is left. -/
theorem disable (h : CodesMatch stages stored hashes) (hstages : stages' = stages)
    (hnone : usableHashes stored = []) : CodesMatch stages' stored [] := by
  subst hstages
  refine ⟨fun presentedHash hcode => ?_, nofun, h.kept⟩
  rw [← hnone]
  exact mem_usableHashes_iff.mpr hcode

end CodesMatch

/-- The request is a consumption. -/
def RecoveryCommand.isConsumption : RecoveryCommand → Bool
  | .consume _ => true
  | _ => false

/-- If the call fails, then without an effect. -/
def MfaChoice.failsEarly (choice : MfaChoice) : Bool :=
  choice.fault.all fun fault => ¬ fault.applied

/-- Requests on the recovery codes and the caches. -/
abbrev RecoveryPool (ι : Type) : Type :=
  Pool ι MfaState (Raising AccountError MfaOp.Ret) (Except AccountError RecoveryAnswer)

variable [DecidableEq ι]

/-- Before the first call. -/
def startRecoveries (keys : MfaKeys) (userId : UUID) (s : MfaState)
    (commands : ι → RecoveryCommand) : RecoveryPool ι :=
  Pool.start s fun i => ((commands i).program keys userId).run

/-- How far a request has come. -/
def recoveryStage (keys : MfaKeys) (userId : UUID) (commands : ι → RecoveryCommand)
    (pool : RecoveryPool ι) (i : ι) : RecoveryStage :=
  pool.stage (recoveryStages keys userId (commands i)) i

/-- A regeneration has cleared the old codes and has not finished. -/
def Regenerating (userId : UUID) (pool : RecoveryPool ι) (i : ι) : Prop :=
  (⟨.clearRecoveryCodes userId, .ok ()⟩ : Call (Raising AccountError MfaOp.Ret)) ∈ pool.log i ∧
    ∀ outcome, pool.rest i ≠ .done outcome

/-- The stored codes are the ones that ought to be accepted. -/
structure RecoveryExact (keys : MfaKeys) (userId : UUID) (commands : ι → RecoveryCommand)
    (s : MfaState) (pool : RecoveryPool ι) : Prop where
  /-- No code of an earlier set is accepted, nor a consumed one. -/
  only : ∀ presentedHash, Usable (pool.state.getRecoveryCodes userId) presentedHash →
    presentedHash ∈ expectedHashes keys commands (usableHashes (s.getRecoveryCodes userId))
      pool.history
  /-- All codes that have not been consumed are accepted. -/
  all : (∀ i, ¬ Regenerating userId pool i) → ∀ presentedHash ∈
    expectedHashes keys commands (usableHashes (s.getRecoveryCodes userId)) pool.history,
      Usable (pool.state.getRecoveryCodes userId) presentedHash
  /-- Codes that have been returned are the ones that have been written. -/
  returned : ∀ i plaintextCodes, pool.rest i = .done (.ok (.codes plaintextCodes)) →
    ∃ recoveryCodes, (⟨.saveRecoveryCodes userId recoveryCodes, .ok ()⟩ :
      Call (Raising AccountError MfaOp.Ret)) ∈ pool.log i ∧
        recoveryCodes.map RecoveryCode.codeHash = plaintextCodes.map keys.hashRecoveryCode
  /-- Only such codes have been consumed. -/
  consumed : ConsumesExpected keys commands (usableHashes (s.getRecoveryCodes userId))
    pool.history

/-- A consumption writes over the codes that it has read, the second factor is disabled when no
code is left, and a regeneration that clears the old codes comes to write new ones. The calls that
write codes do not fail after they have taken effect. -/
def RecoveriesApart (keys : MfaKeys) (userId : UUID) (commands : ι → RecoveryCommand)
    (pool : RecoveryPool ι) (turn : ι × MfaChoice) : Prop :=
  (recoveryStage keys userId commands pool turn.1 = .cleared → turn.2.fault = none) ∧
    match pool.next turn.1 with
    | some (.saveRecoveryCodes _ _) => turn.2.failsEarly = true ∧
      ((commands turn.1).isConsumption = true → recoveryStage keys userId commands pool turn.1 =
        .read (pool.state.getRecoveryCodes userId))
    | some (.clearRecoveryCodes _) =>
      turn.2.failsEarly = true ∧ (commands turn.1).clear = .cleared
    | some (.account (.getById _)) =>
      recoveryStage keys userId commands pool turn.1 = .cleared →
        isFound (pool.state.accounts.users.lookup userId) = true
    | some (.account (.commit _)) =>
      turn.2.fault = none → usableHashes (pool.state.getRecoveryCodes userId) = []
    | _ => True

instance RecoveriesApart.decidable (keys : MfaKeys) (userId : UUID)
    (commands : ι → RecoveryCommand) (pool : RecoveryPool ι) (turn : ι × MfaChoice) :
    Decidable (RecoveriesApart keys userId commands pool turn) := by
  unfold RecoveriesApart
  refine @instDecidableAnd _ _ inferInstance ?_
  split
  all_goals infer_instance

/-- A call that fails without an effect, or takes effect and answers. -/
theorem MfaState.exec_of_failsEarly (keys : MfaKeys) {choice : MfaChoice} (s : MfaState)
    (op : MfaOp) (h : choice.failsEarly = true) :
    (∃ error, exec keys choice op s = (.error error, s)) ∨
      ∃ answer after, effect keys choice s op = .ok (answer, after) ∧
        exec keys choice op s = (.ok answer, after) := by
  rcases exec_cases keys choice s op with herror | ⟨answer, after, heffect, hexec | ⟨_, _⟩⟩
  · exact Or.inl herror
  · exact Or.inr ⟨answer, after, heffect, hexec⟩
  · cases hfault : choice.fault with
    | none => exact Or.inr ⟨answer, after, heffect, by simp only [exec, heffect, hfault]⟩
    | some fault =>
      rw [MfaChoice.failsEarly, hfault, Option.all_some, decide_eq_true_eq] at h
      exact Or.inl ⟨fault.error, by simp only [exec, heffect, hfault, if_neg h]⟩

/-- A call without a fault that has an effect answers. -/
theorem MfaState.exec_of_no_fault {keys : MfaKeys} {choice : MfaChoice} {s after : MfaState}
    {op : MfaOp} {answer : op.Ret} (hfault : choice.fault = none)
    (heffect : effect keys choice s op = .ok (answer, after)) :
    exec keys choice op s = (.ok answer, after) := by
  simp only [exec, heffect, hfault]

/-- The calls that a stage stands for are in the log. -/
def Logged (userId : UUID) (log : MfaLog) : RecoveryStage → Prop
  | .cleared =>
    (⟨.clearRecoveryCodes userId, .ok ()⟩ : Call (Raising AccountError MfaOp.Ret)) ∈ log
  | .written recoveryCodes => (⟨.saveRecoveryCodes userId recoveryCodes, .ok ()⟩ :
      Call (Raising AccountError MfaOp.Ret)) ∈ log
  | _ => True

namespace Logged

variable {keys : MfaKeys} {userId : UUID} {command : RecoveryCommand} {log : MfaLog}
  {stage : RecoveryStage} {call : Call (Raising AccountError MfaOp.Ret)}

theorem cons (h : Logged userId log stage) : Logged userId (call :: log) stage := by
  cases stage with
  | cleared | written recoveryCodes => exact List.mem_cons_of_mem _ h
  | _ => trivial

theorem fail (h : Logged userId log stage) : Logged userId log (command.fail stage) := by
  unfold RecoveryCommand.fail
  split
  · trivial
  · exact h

/-- A permitted call leads to a stage that it stands for. -/
theorem advance (h : Logged userId log stage) {op : MfaOp}
    (hallowed : permitsRecovery keys userId command stage op)
    (answer : Except AccountError op.Ret) :
    Logged userId (⟨op, answer⟩ :: log) (advanceRecovery command stage ⟨op, answer⟩) := by
  cases op with
  | account op =>
    cases op with
    | getById id =>
      cases answer with
      | error error => exact h.fail.cons
      | ok row =>
        change Logged userId _ (if isFound row then stage else command.fail stage)
        split
        · exact h.cons
        · exact h.fail.cons
    | _ =>
      cases answer with
      | error error => exact h.fail.cons
      | ok value => exact h.cons
  | getRecoveryCodes id =>
    cases answer with
    | error error => exact h.fail.cons
    | ok recoveryCodes => trivial
  | saveRecoveryCodes id recoveryCodes =>
    cases answer with
    | error error => exact h.fail.cons
    | ok _ =>
      obtain ⟨rfl, _⟩ := hallowed
      exact List.mem_cons_self
  | clearRecoveryCodes id =>
    cases answer with
    | error error => exact h.fail.cons
    | ok _ =>
      obtain ⟨rfl, _, count, rfl⟩ := hallowed
      change Logged id _ (if 0 < count then .cleared else .lost)
      split
      · exact List.mem_cons_self
      · trivial
  | _ =>
    cases answer with
    | error error => exact h.fail.cons
    | ok value => exact h.cons

end Logged

/-- What every turn keeps as long as the requests stay apart. -/
structure RecoveryKept (keys : MfaKeys) (userId : UUID) (commands : ι → RecoveryCommand)
    (s : MfaState) (pool : RecoveryPool ι) : Prop where
  codes : CodesMatch (recoveryStage keys userId commands pool)
    (pool.state.getRecoveryCodes userId)
    (expectedHashes keys commands (usableHashes (s.getRecoveryCodes userId)) pool.history)
  logged : ∀ i, Logged userId (pool.log i) (recoveryStage keys userId commands pool i)
  consumed : ConsumesExpected keys commands (usableHashes (s.getRecoveryCodes userId)) pool.history

section Turn

variable {keys : MfaKeys} {userId : UUID} {commands : ι → RecoveryCommand} {s : MfaState}
  {pool : RecoveryPool ι} {i : ι} {choice : MfaChoice} {op : MfaOp}
  {next : Except AccountError op.Ret →
    Program (Raising AccountError MfaOp.Ret) (Except AccountError RecoveryAnswer)}

variable (keys userId commands choice) in
/-- The stage of the request after its turn. -/
theorem recoveryStage_step (hrest : pool.rest i = .call op next) :
    recoveryStage keys userId commands (pool.step (MfaState.exec keys) (i, choice)) i =
      advanceRecovery (commands i) (recoveryStage keys userId commands pool i)
        ⟨op, (MfaState.exec keys choice op pool.state).1⟩ :=
  Pool.stage_step_self hrest

theorem recoveryStage_other (j : ι) (hji : j ≠ i) :
    recoveryStage keys userId commands (pool.step (MfaState.exec keys) (i, choice)) j =
      recoveryStage keys userId commands pool j :=
  Pool.stage_step_other (Ne.symm hji)

/-- A request that fails before it has cleared the old codes has not lost them. -/
theorem RecoveryCommand.fail_of_ne {command : RecoveryCommand} {stage : RecoveryStage}
    (h : stage ≠ .cleared) : command.fail stage = stage := by
  unfold RecoveryCommand.fail
  split
  · exact absurd rfl h
  · rfl

/-- A turn that does not write codes keeps them. -/
theorem codesMatch_idle {hashes : List String}
    (h : CodesMatch (recoveryStage keys userId commands pool)
      (pool.state.getRecoveryCodes userId) hashes)
    (hrest : pool.rest i = .call op next)
    (hcodes : (MfaState.exec keys choice op pool.state).2.getRecoveryCodes =
      pool.state.getRecoveryCodes)
    (hcleared : recoveryStage keys userId commands pool i = .cleared →
      advanceRecovery (commands i) .cleared ⟨op, (MfaState.exec keys choice op pool.state).1⟩ =
        .cleared)
    (hkept : ∀ stage, stage ≠ RecoveryStage.cleared → stage ≠ .lost →
      advanceRecovery (commands i) stage ⟨op, (MfaState.exec keys choice op pool.state).1⟩ ≠
        .lost) :
    CodesMatch (recoveryStage keys userId commands (pool.step (MfaState.exec keys) (i, choice)))
      ((pool.step (MfaState.exec keys) (i, choice)).state.getRecoveryCodes userId) hashes := by
  have hstate : (pool.step (MfaState.exec keys) (i, choice)).state.getRecoveryCodes userId =
      pool.state.getRecoveryCodes userId := by
    rw [Pool.step_of_call hrest, hcodes]
  rw [hstate]
  refine h.idle recoveryStage_other (fun hstage => ?_) fun hlost => ?_
  · rw [recoveryStage_step _ _ _ _ hrest, hstage]
    exact hcleared hstage
  · rw [recoveryStage_step _ _ _ _ hrest]
    by_cases hstage : recoveryStage keys userId commands pool i = .cleared
    · rw [hstage, hcleared hstage]
      exact nofun
    · exact hkept _ hstage hlost

/-- Only a clear leads to a stage without codes, unless the request has already cleared them. -/
theorem advanceRecovery_ne_lost (command : RecoveryCommand) (op : MfaOp) {stage : RecoveryStage}
    (hstage : stage ≠ .cleared) (hlost : stage ≠ .lost)
    (hop : ∀ id, op ≠ .clearRecoveryCodes id) (answer : Except AccountError op.Ret) :
    advanceRecovery command stage ⟨op, answer⟩ ≠ .lost := by
  have hfail : command.fail stage ≠ .lost := (RecoveryCommand.fail_of_ne hstage).symm ▸ hlost
  cases op with
  | clearRecoveryCodes id => exact absurd rfl (hop id)
  | account op =>
    cases op with
    | getById id =>
      cases answer with
      | error error => exact hfail
      | ok row =>
        change (if isFound row then stage else command.fail stage) ≠ .lost
        split
        · exact hlost
        · exact hfail
    | _ =>
      cases answer with
      | error error => exact hfail
      | ok value => exact hlost
  | getRecoveryCodes id | saveRecoveryCodes id codes =>
    cases answer with
    | error error => exact hfail
    | ok value => exact nofun
  | _ =>
    cases answer with
    | error error => exact hfail
    | ok value => exact hlost

/-- The history after a turn. -/
theorem history_step (hrest : pool.rest i = .call op next) :
    (pool.step (MfaState.exec keys) (i, choice)).history =
      (i, ⟨op, (MfaState.exec keys choice op pool.state).1⟩) :: pool.history := by
  rw [Pool.step_of_call hrest]

theorem codes_step (hrest : pool.rest i = .call op next) :
    (pool.step (MfaState.exec keys) (i, choice)).state.getRecoveryCodes userId =
      (MfaState.exec keys choice op pool.state).2.getRecoveryCodes userId := by
  rw [Pool.step_of_call hrest]

/-- A turn of the account handlers keeps the codes. -/
theorem codesMatch_account {op : AccountOp} {next : Except AccountError op.Ret →
      Program (Raising AccountError MfaOp.Ret) (Except AccountError RecoveryAnswer)}
    {hashes : List String}
    (h : CodesMatch (recoveryStage keys userId commands pool)
      (pool.state.getRecoveryCodes userId) hashes)
    (hturn : RecoveriesApart keys userId commands pool (i, choice))
    (hrest : pool.rest i = .call (.account op) next)
    (hallowed : permitsRecovery keys userId (commands i)
      (recoveryStage keys userId commands pool i) (.account op)) :
    CodesMatch (recoveryStage keys userId commands (pool.step (MfaState.exec keys) (i, choice)))
      ((pool.step (MfaState.exec keys) (i, choice)).state.getRecoveryCodes userId)
      (expectedAfter keys (commands i)
        ⟨.account op, (MfaState.exec keys choice (.account op) pool.state).1⟩ hashes) := by
  have hcodes : (MfaState.exec keys choice (.account op) pool.state).2.getRecoveryCodes =
      pool.state.getRecoveryCodes := MfaState.getRecoveryCodes_exec nofun nofun
  have hkept (stage : RecoveryStage) (hstage : stage ≠ .cleared) (hlost : stage ≠ .lost) :=
    advanceRecovery_ne_lost (commands i) (.account op) hstage hlost nofun
      (MfaState.exec keys choice (.account op) pool.state).1
  rcases hallowed with rfl | hdisable
  · refine codesMatch_idle h hrest hcodes (fun hstage => ?_) hkept
    unfold RecoveriesApart at hturn
    rw [Pool.next_of_call hrest] at hturn
    have hanswer : MfaState.exec keys choice (.account (.getById userId)) pool.state =
        (.ok (pool.state.accounts.users.lookup userId), pool.state) :=
      MfaState.exec_of_no_fault (hturn.1 hstage) rfl
    rw [hanswer]
    exact if_pos (hturn.2 hstage)
  · have hidle : CodesMatch
        (recoveryStage keys userId commands (pool.step (MfaState.exec keys) (i, choice)))
        ((pool.step (MfaState.exec keys) (i, choice)).state.getRecoveryCodes userId) hashes := by
      refine codesMatch_idle h hrest hcodes (fun _ => ?_) hkept
      rw [hdisable]
      exact advanceRecovery_disable _
    cases op with
    | commit statements =>
      rcases MfaState.exec_cases keys choice pool.state (.account (.commit statements)) with
        ⟨_, hexec⟩ | ⟨_, after, heffect, hexec | ⟨_, hexec⟩⟩
      · rw [hexec]
        exact hidle
      · rw [hexec]
        refine hidle.disable rfl ?_
        rw [codes_step hrest, hcodes]
        unfold RecoveriesApart at hturn
        rw [Pool.next_of_call hrest] at hturn
        refine hturn.2 ?_
        cases hfault : choice.fault with
        | none => rfl
        | some fault =>
          simp only [MfaState.exec, heffect, hfault] at hexec
          cases congrArg Prod.fst hexec
      · rw [hexec]
        exact hidle
    | _ => exact hidle

/-- A write of codes keeps them apart if it is one of new codes, or over the codes that have been
read. -/
theorem codesMatch_save {id : UUID} {updatedCodes : List RecoveryCode}
    {next : Except AccountError Unit →
      Program (Raising AccountError MfaOp.Ret) (Except AccountError RecoveryAnswer)}
    {hashes : List String}
    (h : CodesMatch (recoveryStage keys userId commands pool)
      (pool.state.getRecoveryCodes userId) hashes)
    (hturn : RecoveriesApart keys userId commands pool (i, choice))
    (hrest : pool.rest i = .call (.saveRecoveryCodes id updatedCodes) next)
    (hallowed : permitsRecovery keys userId (commands i)
      (recoveryStage keys userId commands pool i) (.saveRecoveryCodes id updatedCodes)) :
    CodesMatch (recoveryStage keys userId commands (pool.step (MfaState.exec keys) (i, choice)))
      ((pool.step (MfaState.exec keys) (i, choice)).state.getRecoveryCodes userId)
      (expectedAfter keys (commands i) ⟨.saveRecoveryCodes id updatedCodes,
        (MfaState.exec keys choice (.saveRecoveryCodes id updatedCodes) pool.state).1⟩ hashes) := by
  obtain ⟨rfl, hwrite⟩ := hallowed
  obtain ⟨hclearedFault, happlied⟩ := hturn
  rw [Pool.next_of_call hrest] at happlied
  obtain ⟨hearly, hread⟩ := happlied
  rcases MfaState.exec_of_failsEarly keys pool.state (.saveRecoveryCodes id updatedCodes) hearly with
    ⟨error, hexec⟩ | ⟨_, after, heffect, hexec⟩
  · rw [hexec]
    refine codesMatch_idle h hrest (by rw [hexec]) (fun hstage => ?_) fun stage hstage hlost => ?_
    · have hanswer : MfaState.exec keys choice (.saveRecoveryCodes id updatedCodes) pool.state =
          (.ok (), pool.state.saveRecoveryCodes id updatedCodes) :=
        MfaState.exec_of_no_fault (hclearedFault hstage) rfl
      cases congrArg Prod.fst (hexec.symm.trans hanswer)
    · exact advanceRecovery_ne_lost _ _ hstage hlost (fun _ h => by cases h) _
  · have hself := recoveryStage_step keys id commands choice hrest
    rw [codes_step hrest]
    rw [hexec] at hself ⊢
    cases heffect
    have hstored : (pool.state.saveRecoveryCodes id updatedCodes).getRecoveryCodes id =
        updatedCodes := by rw [MfaState.getRecoveryCodes_save, if_pos rfl]
    rw [hstored]
    cases hcommand : commands i with
    | consume code =>
      rw [hcommand] at hwrite hread
      obtain ⟨recoveryCodes, now, hstage, hconsume⟩ := hwrite
      cases hstage.symm.trans (hread rfl)
      exact h.consume recoveryStage_other hstage hself hconsume
    | generate count | regenerate count | disable =>
      rw [hcommand] at hwrite
      exact h.replace recoveryStage_other hself hwrite

/-- A clear keeps the codes apart if new ones are going to be written. -/
theorem codesMatch_clear {id : UUID}
    {next : Except AccountError Unit →
      Program (Raising AccountError MfaOp.Ret) (Except AccountError RecoveryAnswer)}
    {hashes : List String}
    (h : CodesMatch (recoveryStage keys userId commands pool)
      (pool.state.getRecoveryCodes userId) hashes)
    (hturn : RecoveriesApart keys userId commands pool (i, choice))
    (hrest : pool.rest i = .call (.clearRecoveryCodes id) next)
    (hallowed : permitsRecovery keys userId (commands i)
      (recoveryStage keys userId commands pool i) (.clearRecoveryCodes id)) :
    CodesMatch (recoveryStage keys userId commands (pool.step (MfaState.exec keys) (i, choice)))
      ((pool.step (MfaState.exec keys) (i, choice)).state.getRecoveryCodes userId) hashes := by
  obtain ⟨rfl, hstarted, _⟩ := hallowed
  obtain ⟨_, happlied⟩ := hturn
  rw [Pool.next_of_call hrest] at happlied
  obtain ⟨hearly, hclear⟩ := happlied
  have hself := recoveryStage_step keys id commands choice hrest
  rcases MfaState.exec_of_failsEarly keys pool.state (.clearRecoveryCodes id) hearly with ⟨error, hexec⟩ | ⟨_, after, heffect, hexec⟩
  · have hstage : recoveryStage keys id commands (pool.step (MfaState.exec keys) (i, choice)) i =
        .started := by
      rw [hself, hexec, hstarted]
      exact RecoveryCommand.fail_of_ne nofun
    rw [codes_step hrest, hexec]
    refine h.idle recoveryStage_other (fun hcleared => ?_) fun _ => ?_
    · rw [hstarted] at hcleared
      cases hcleared
    · rw [hstage]
      exact nofun
  · rw [codes_step hrest]
    rw [hexec] at hself ⊢
    cases heffect
    rw [MfaState.getRecoveryCodes_clear, if_pos rfl]
    exact h.clear recoveryStage_other (hself.trans hclear)

/-- A turn keeps the codes apart. -/
theorem codesMatch_step {hashes : List String}
    (h : CodesMatch (recoveryStage keys userId commands pool)
      (pool.state.getRecoveryCodes userId) hashes)
    (hturn : RecoveriesApart keys userId commands pool (i, choice))
    (hrest : pool.rest i = .call op next)
    (hallowed : permitsRecovery keys userId (commands i)
      (recoveryStage keys userId commands pool i) op) :
    CodesMatch (recoveryStage keys userId commands (pool.step (MfaState.exec keys) (i, choice)))
      ((pool.step (MfaState.exec keys) (i, choice)).state.getRecoveryCodes userId)
      (expectedAfter keys (commands i) ⟨op, (MfaState.exec keys choice op pool.state).1⟩
        hashes) := by
  cases op with
  | account op => exact codesMatch_account h hturn hrest hallowed
  | saveRecoveryCodes id updatedCodes => exact codesMatch_save h hturn hrest hallowed
  | clearRecoveryCodes id => exact codesMatch_clear h hturn hrest hallowed
  | getRecoveryCodes id =>
    refine codesMatch_idle h hrest (MfaState.getRecoveryCodes_exec nofun nofun) (fun hstage => ?_)
      fun stage hstage hlost => advanceRecovery_ne_lost _ _ hstage hlost (fun _ h => by cases h) _
    cases hallowed.2.symm.trans hstage
  | clockNow =>
    refine codesMatch_idle h hrest (MfaState.getRecoveryCodes_exec nofun nofun) (fun hstage => ?_)
      fun stage hstage hlost => advanceRecovery_ne_lost _ _ hstage hlost (fun _ h => by cases h) _
    exact absurd hstage hallowed
  | generateRecoveryCode =>
    refine codesMatch_idle h hrest (MfaState.getRecoveryCodes_exec nofun nofun) (fun hstage => ?_)
      fun stage hstage hlost => advanceRecovery_ne_lost _ _ hstage hlost (fun _ h => by cases h) _
    rw [MfaState.exec_of_no_fault (hturn.1 hstage) rfl]
    rfl
  | newRecoveryCodeId =>
    refine codesMatch_idle h hrest (MfaState.getRecoveryCodes_exec nofun nofun) (fun hstage => ?_)
      fun stage hstage hlost => advanceRecovery_ne_lost _ _ hstage hlost (fun _ h => by cases h) _
    rw [MfaState.exec_of_no_fault (hturn.1 hstage) rfl]
    rfl

/-- A consumption finds its code among those that ought to be accepted. -/
theorem consumed_step {hashes : List String}
    (h : CodesMatch (recoveryStage keys userId commands pool)
      (pool.state.getRecoveryCodes userId) hashes)
    (hturn : RecoveriesApart keys userId commands pool (i, choice))
    (hrest : pool.rest i = .call op next)
    (hallowed : permitsRecovery keys userId (commands i)
      (recoveryStage keys userId commands pool i) op) {code : String}
    (hcode : consumes (commands i) ⟨op, (MfaState.exec keys choice op pool.state).1⟩ =
      some code) : keys.hashRecoveryCode code ∈ hashes := by
  by_cases hop : ∃ id updatedCodes, op = .saveRecoveryCodes id updatedCodes
  · obtain ⟨id, updatedCodes, rfl⟩ := hop
    have hcommand : commands i = .consume code := by
      unfold consumes at hcode
      split at hcode
      · split at hcode
        · next heq =>
          cases hcode
          exact heq
        · cases hcode
      · cases hcode
    obtain ⟨_, happlied⟩ := hturn
    rw [Pool.next_of_call hrest] at happlied
    obtain ⟨_, hread⟩ := happlied
    obtain ⟨rfl, hwrite⟩ := hallowed
    rw [hcommand] at hwrite hread
    obtain ⟨recoveryCodes, now, hstage, hconsume⟩ := hwrite
    cases hstage.symm.trans (hread rfl)
    exact h.only _ (isSome_consumeFirst_iff.mp (by rw [hconsume]; rfl))
  · exfalso
    unfold consumes at hcode
    split at hcode
    · next heq => exact hop ⟨_, _, congrArg Sigma.fst heq⟩
    · cases hcode

end Turn

section Runs

variable {keys : MfaKeys} {userId : UUID} {commands : ι → RecoveryCommand} {s : MfaState}

/-- A turn keeps the codes that ought to be accepted if the requests stay apart. -/
theorem recoveryKept_step : Pool.Keeps (MfaState.exec keys)
    (fun i => (recoveryStages keys userId (commands i)).contract)
    (fun i log outcome => Finished keys ((recoveryStages keys userId (commands i)).stage log)
      outcome)
    (RecoveriesApart keys userId commands) (RecoveryKept keys userId commands s) := by
  intro pool i choice op next _ h hturn hrest hallowed
  refine ⟨?_, fun j => ?_, ?_⟩
  · rw [history_step hrest]
    exact codesMatch_step h.codes hturn hrest hallowed
  · by_cases hji : j = i
    · subst hji
      rw [recoveryStage_step _ _ _ _ hrest, Pool.log_step_self hrest]
      exact (h.logged j).advance hallowed _
    · rw [recoveryStage_other j hji, Pool.log_step_other (Ne.symm hji)]
      exact h.logged j
  · rw [history_step hrest]
    exact ⟨fun code => consumed_step h.codes hturn hrest hallowed, h.consumed⟩

/-- In every interleaving in which the requests stay apart, exactly the unconsumed codes of the
last set are accepted, and none after the second factor has been disabled. -/
theorem recovery_codes_exact (keys : MfaKeys) (userId : UUID) (commands : ι → RecoveryCommand)
    (s : MfaState) (schedule : List (ι × MfaChoice))
    (hschedule : Pool.Always (MfaState.exec keys) (RecoveriesApart keys userId commands)
      (startRecoveries keys userId s commands) schedule) :
    RecoveryExact keys userId commands s
      ((startRecoveries keys userId s commands).run (MfaState.exec keys) schedule) := by
  have hstart : RecoveryKept keys userId commands s (startRecoveries keys userId s commands) :=
    { codes :=
        { only := fun presentedHash => mem_usableHashes_iff.mpr
          all := fun _ presentedHash => mem_usableHashes_iff.mp
          kept := fun _ => nofun }
      logged := fun _ => trivial
      consumed := trivial }
  obtain ⟨hdisciplined, hkept⟩ := recoveryKept_step.run
    (Pool.answers_stages fun _ _ _ _ => MfaState.possibleRecovery_exec)
    (Pool.disciplined_start (P := fun _ last outcome => Finished keys last outcome) fun i =>
      (commands i).takes) hstart hschedule
  refine ⟨hkept.codes.only, fun hnone => hkept.codes.all fun i hcleared => ?_,
    fun i plaintextCodes hdone => ?_, hkept.consumed⟩
  · have hlogged := hkept.logged i
    rw [hcleared] at hlogged
    refine hnone i ⟨hlogged, fun outcome hdone => ?_⟩
    exact (hdisciplined.post_done hdone).1 hcleared
  · obtain ⟨recoveryCodes, hwritten, hhashes⟩ :=
      (hdisciplined.post_done hdone).2 plaintextCodes rfl
    have hlogged := hkept.logged i
    have hstage : recoveryStage keys userId commands _ i = .written recoveryCodes := hwritten
    rw [hstage] at hlogged
    exact ⟨recoveryCodes, hlogged, hhashes⟩

end Runs

/-- Disable the second factor, and then use a recovery code. -/
def disableThenConsume : Bool → RecoveryCommand
  | false => .disable
  | true => .consume "abcd-efgh"

/-- The code is still accepted after the second factor has been disabled. -/
theorem code_accepted_after_disable :
    ¬ RecoveryExact sampleKeys 1 disableThenConsume secondFactorState
      ((startRecoveries sampleKeys 1 secondFactorState disableThenConsume).run
        (MfaState.exec sampleKeys) (oneAfterTheOther 10)) := fun h =>
  absurd h.consumed (by decide +kernel)

/-- New codes, and then the use of one of them. -/
def regenerateThenConsume : Bool → RecoveryCommand
  | false => .regenerate 2
  | true => .consume "code"

theorem recovery_codes_exact_sample :
    RecoveryExact sampleKeys 1 regenerateThenConsume secondFactorState
      ((startRecoveries sampleKeys 1 secondFactorState regenerateThenConsume).run
        (MfaState.exec sampleKeys) (oneAfterTheOther 10)) :=
  recovery_codes_exact sampleKeys 1 regenerateThenConsume secondFactorState (oneAfterTheOther 10)
    (by decide +kernel)

end Linkapro.Identity
