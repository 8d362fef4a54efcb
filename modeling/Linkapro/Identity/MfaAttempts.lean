import Mathlib.Data.List.Nodup
import Linkapro.Identity.MfaLogins

/-!
# Identity: attempts against a challenge

A challenge is read, checked against in memory and written back. While an execution is
between its read and its write, the challenge that counts is the one it holds; otherwise
it is the cached one. If no two executions hold one challenge, then the count of this
challenge bounds the executions that have checked a code against it. Recovery codes
are consumed once if they are written over the codes that have been read.
-/

namespace Linkapro.Identity

namespace MfaStage

/-- The challenge that has been read and is still to be written back. -/
def held : MfaStage → Option MfaChallenge
  | .found challenge => some challenge
  | .checked check => some check.challenge
  | _ => none

/-- The check that the execution has made. -/
def check? : MfaStage → Option MfaCheck
  | .checked check | .saved check _ | .loggedIn check => some check
  | _ => none

/-- The execution has consumed its challenge. -/
def hasConsumed : MfaStage → Bool
  | .saved check challenge => check.isOpen ∧ challenge.consumedAt.isSome
  | .loggedIn _ => true
  | _ => false

/-- The challenge `id` has been read and is still to be written back. -/
def Holds (id : UUID) (stage : MfaStage) : Prop := stage.held.any (·.id = id) = true

/-- A code has been verified against the challenge `id`. -/
def Verified (id : UUID) (stage : MfaStage) : Prop :=
  stage.check?.any (fun check => check.challenge.id = id ∧ check.isOpen) = true

instance (id : UUID) (stage : MfaStage) : Decidable (stage.Holds id) :=
  inferInstanceAs (Decidable (_ = _))

instance (id : UUID) (stage : MfaStage) : Decidable (stage.Verified id) :=
  inferInstanceAs (Decidable (_ = _))

variable {stage : MfaStage} {id : UUID} {challenge : MfaChallenge} {check : MfaCheck}

theorem holds_iff :
    stage.Holds id ↔ ∃ challenge, stage.held = some challenge ∧ challenge.id = id := by
  unfold Holds
  cases stage.held <;> simp

theorem verified_iff : stage.Verified id ↔
    ∃ check, stage.check? = some check ∧ check.challenge.id = id ∧ check.isOpen = true := by
  unfold Verified
  cases stage.check? <;> simp

end MfaStage

variable {ι : Type}

/-- The challenge `id` that counts: the one that an execution holds, or the cached one. -/
def Latest (stages : ι → MfaStage) (stored : UUID → Option MfaChallenge)
    (challenge : MfaChallenge) : Prop :=
  (∃ i, (stages i).held = some challenge) ∨
    (∀ i, ¬ (stages i).Holds challenge.id) ∧ stored challenge.id = some challenge

/-- An execution whose verification is counted in the challenge `id` that counts. -/
def Counted (stages : ι → MfaStage) (id : UUID) (i : ι) : Prop :=
  (stages i).Verified id ∧ (stages i).held = none

/-- What holds as long as a challenge is held by at most one execution. -/
structure Attempts (stages : ι → MfaStage) (stored : UUID → Option MfaChallenge) : Prop where
  /-- A challenge is held by at most one execution. -/
  holder : ∀ i j id, (stages i).Holds id → (stages j).Holds id → i = j
  /-- The count of a challenge bounds the verifications that have been counted. -/
  counted : ∀ challenge, Latest stages stored challenge → ∀ js : List ι, js.Nodup →
    (∀ j ∈ js, Counted stages challenge.id j) → js.length ≤ challenge.attemptCount
  /-- The limit of a challenge does not change. -/
  limit : ∀ challenge, Latest stages stored challenge → ∀ i check, (stages i).check? = some check →
    check.challenge.id = challenge.id → check.challenge.maxAttempts = challenge.maxAttempts
  /-- What an execution has consumed stays consumed. -/
  consumed : ∀ challenge, Latest stages stored challenge → ∀ i check,
    (stages i).check? = some check → check.challenge.id = challenge.id →
      (stages i).hasConsumed = true → challenge.consumedAt.isSome = true
  /-- The limit bounds all verifications. -/
  bounded : ∀ id, ∀ js : List ι, js.Nodup → (∀ j ∈ js, (stages j).Verified id) →
    ∀ j check, (stages j).check? = some check → check.challenge.id = id →
      js.length ≤ check.challenge.maxAttempts
  /-- A challenge is consumed by at most one execution. -/
  unique : ∀ i j check check', (stages i).check? = some check → (stages j).check? = some check' →
    check.challenge.id = check'.challenge.id → (stages i).hasConsumed = true →
      (stages j).hasConsumed = true → i = j

/-- One execution has moved to a new stage. -/
structure Moved (i : ι) (stage : MfaStage) (stages stages' : ι → MfaStage) : Prop where
  self : stages' i = stage
  other : ∀ j, j ≠ i → stages' j = stages j

theorem Moved.of_eq {i : ι} {stage stage' : MfaStage} {stages stages' : ι → MfaStage}
    (hmoved : Moved i stage stages stages') (h : stage = stage') :
    Moved i stage' stages stages' :=
  h ▸ hmoved

/-- What a move does not change of its own execution, it does not change of any. -/
theorem Moved.congr {i : ι} {stage : MfaStage} {stages stages' : ι → MfaStage} {β : Type}
    {f : MfaStage → β} (hmoved : Moved i stage stages stages') (hf : f stage = f (stages i))
    (j : ι) : f (stages' j) = f (stages j) := by
  by_cases hji : j = i
  · rw [hji, hmoved.self, hf]
  · rw [hmoved.other j hji]

/-- An open challenge has not been consumed and has attempts left. -/
theorem MfaCheck.of_isOpen {check : MfaCheck} (h : check.isOpen = true) :
    check.challenge.consumedAt = none ∧
      check.challenge.attemptCount < check.challenge.maxAttempts := by
  obtain ⟨_, hattempt⟩ := of_decide_eq_true h
  obtain ⟨_, hnone, hleft⟩ := of_decide_eq_true hattempt
  rw [MfaChallenge.attemptsExhausted, decide_eq_true_eq] at hleft
  exact ⟨Option.isNone_iff_eq_none.mp hnone, Nat.lt_of_not_le hleft⟩

namespace Attempts

variable {stages stages' : ι → MfaStage} {stored stored' : UUID → Option MfaChallenge} {i : ι}
  {challenge : MfaChallenge} {check : MfaCheck}

/-- Nothing has been verified before the first call. -/
theorem start : Attempts (fun _ : ι => MfaStage.started) stored where
  holder _ _ _ h := by cases h
  counted _ _ js _ hjs := by
    cases js with
    | nil => exact Nat.zero_le _
    | cons j js => cases (hjs j List.mem_cons_self).1
  limit _ _ _ _ h := by cases h
  consumed _ _ _ _ h := by cases h
  bounded _ _ _ _ _ _ h := by cases h
  unique _ _ _ _ h := by cases h

/-- What has been verified may stay while challenges are read and written back. -/
theorem of_same_checks (h : Attempts stages stored)
    (hcheck : ∀ j, (stages' j).check? = (stages j).check?)
    (hconsumed : ∀ j, (stages' j).hasConsumed = (stages j).hasConsumed)
    (hholder : ∀ i j id, (stages' i).Holds id → (stages' j).Holds id → i = j)
    (hlatest : ∀ challenge, Latest stages' stored' challenge → Latest stages stored challenge)
    (hheld : ∀ j, (stages' j).held = none → (stages j).check? ≠ none → (stages j).held = none) :
    Attempts stages' stored' where
  holder := hholder
  counted challenge hnew js hnodup hjs := by
    refine h.counted challenge (hlatest challenge hnew) js hnodup fun j hj => ?_
    obtain ⟨hverified, hnone⟩ := hjs j hj
    rw [MfaStage.Verified, hcheck j] at hverified
    refine ⟨hverified, hheld j hnone fun hnocheck => ?_⟩
    rw [hnocheck] at hverified
    cases hverified
  limit challenge hnew i check hi :=
    h.limit challenge (hlatest challenge hnew) i check (hcheck i ▸ hi)
  consumed challenge hnew i check hi hid hc :=
    h.consumed challenge (hlatest challenge hnew) i check (hcheck i ▸ hi) hid (hconsumed i ▸ hc)
  bounded id js hnodup hjs j check hj := by
    refine h.bounded id js hnodup (fun k hk => ?_) j check (hcheck j ▸ hj)
    have hverified := hjs k hk
    rwa [MfaStage.Verified, hcheck k] at hverified
  unique i j check check' hi hj hid hci hcj :=
    h.unique i j check check' (hcheck i ▸ hi) (hcheck j ▸ hj) hid (hconsumed i ▸ hci)
      (hconsumed j ▸ hcj)

/-- A held challenge is the only one of its id that counts. -/
theorem latest_unique (h : Attempts stages stored) (hheld : (stages i).held = some challenge)
    {other : MfaChallenge} (hlatest : Latest stages stored other) (hid : other.id = challenge.id) :
    other = challenge := by
  have hi : (stages i).Holds other.id := MfaStage.holds_iff.mpr ⟨challenge, hheld, hid.symm⟩
  rcases hlatest with ⟨j, hj⟩ | ⟨hfree, _⟩
  · cases h.holder i j _ hi (MfaStage.holds_iff.mpr ⟨other, hj, rfl⟩)
    exact Option.some.inj (hj.symm.trans hheld)
  · exact absurd hi (hfree i)

/-- A challenge that nobody holds is read. -/
theorem find (h : Attempts stages stored) (hmoved : Moved i (.found challenge) stages stages')
    (hstage : stages i = .started) (hfree : ∀ j, ¬ (stages j).Holds challenge.id)
    (hstored : stored challenge.id = some challenge) : Attempts stages' stored := by
  have hholds {j : ι} {id : UUID} (hj : (stages' j).Holds id) :
      (j = i ∧ id = challenge.id) ∨ (j ≠ i ∧ (stages j).Holds id) := by
    by_cases hji : j = i
    · subst hji
      rw [hmoved.self, MfaStage.holds_iff] at hj
      obtain ⟨_, ⟨⟩, hid⟩ := hj
      exact Or.inl ⟨rfl, hid.symm⟩
    · exact Or.inr ⟨hji, hmoved.other j hji ▸ hj⟩
  refine h.of_same_checks (hmoved.congr (f := MfaStage.check?) (by rw [hstage]; rfl))
    (hmoved.congr (f := MfaStage.hasConsumed) (by rw [hstage]; rfl)) (fun j k id hj hk => ?_)
    (fun latest hlatest => ?_) fun j hnone _ => ?_
  · rcases hholds hj with ⟨hji, hid⟩ | ⟨_, holds⟩
    · rcases hholds hk with ⟨hki, _⟩ | ⟨_, holds'⟩
      · rw [hji, hki]
      · exact absurd (hid ▸ holds') (hfree k)
    · rcases hholds hk with ⟨_, hid⟩ | ⟨_, holds'⟩
      · exact absurd (hid ▸ holds) (hfree j)
      · exact h.holder j k id holds holds'
  · rcases hlatest with ⟨j, hj⟩ | ⟨hnone, hlatest⟩
    · by_cases hji : j = i
      · rw [hji, hmoved.self] at hj
        cases hj
        exact Or.inr ⟨hfree, hstored⟩
      · exact Or.inl ⟨j, hmoved.other j hji ▸ hj⟩
    · refine Or.inr ⟨fun j hj => ?_, hlatest⟩
      by_cases hji : j = i
      · rw [hji, hstage] at hj
        cases hj
      · exact hnone j ((hmoved.other j hji).symm ▸ hj)
  · by_cases hji : j = i
    · rw [hji, hmoved.self] at hnone
      cases hnone
    · rwa [hmoved.other j hji] at hnone

/-- Whoever has verified a code against a challenge that another execution holds has written it
back. -/
theorem counted_of_verified (h : Attempts stages stored) (hheld : (stages i).held = some challenge)
    {j : ι} (hji : j ≠ i) (hverified : (stages j).Verified challenge.id) :
    Counted stages challenge.id j := by
  refine ⟨hverified, ?_⟩
  obtain ⟨check, hcheck, hid, _⟩ := MfaStage.verified_iff.mp hverified
  cases hstage : stages j with
  | checked check' =>
    rw [hstage] at hcheck
    cases hcheck
    refine absurd (h.holder j i challenge.id ?_ ?_) hji
    · exact MfaStage.holds_iff.mpr ⟨check.challenge, by rw [hstage]; rfl, hid⟩
    · exact MfaStage.holds_iff.mpr ⟨challenge, hheld, rfl⟩
  | found _ =>
    rw [hstage] at hcheck
    cases hcheck
  | _ => rfl

/-- The counted verifications and the one of the execution that holds the challenge. -/
theorem length_le_of_holder [DecidableEq ι] (h : Attempts stages stored)
    (hheld : (stages i).held = some check.challenge) (hopen : check.isOpen = true)
    {js : List ι} (hnodup : js.Nodup)
    (hjs : ∀ j ∈ js, j ≠ i → (stages j).Verified check.challenge.id) :
    js.length ≤ check.challenge.maxAttempts := by
  have hcounted : (js.erase i).length ≤ check.challenge.attemptCount := by
    refine h.counted check.challenge (Or.inl ⟨i, hheld⟩) _ (hnodup.erase i) fun j hj => ?_
    obtain ⟨hji, hmem⟩ := hnodup.mem_erase_iff.mp hj
    exact h.counted_of_verified hheld hji (hjs j hmem hji)
  have hleft := (MfaCheck.of_isOpen hopen).2
  have herase := js.length_erase_add_one (a := i)
  by_cases hi : i ∈ js
  · have := herase hi
    omega
  · rw [List.erase_of_not_mem hi] at hcounted
    omega

/-- The limit bounds all verifications after another check. -/
theorem verify_bounded (h : Attempts stages stored)
    (hmoved : Moved i (.checked check) stages stages')
    (hheld : (stages i).held = some check.challenge)
    (hlimit : ∀ k check', (stages' k).check? = some check' →
      check'.challenge.id = check.challenge.id →
        check'.challenge.maxAttempts = check.challenge.maxAttempts)
    {id : UUID} {js : List ι} (hnodup : js.Nodup) (hjs : ∀ j ∈ js, (stages' j).Verified id) {j : ι}
    {check' : MfaCheck} (hj : (stages' j).check? = some check') (hid : check'.challenge.id = id) :
    js.length ≤ check'.challenge.maxAttempts := by
  classical
  have hothers : ∀ k ∈ js, k ≠ i → (stages k).Verified id := fun k hk hki =>
    hmoved.other k hki ▸ hjs k hk
  by_cases hi : i ∈ js
  · obtain ⟨_, hcheck, rfl, hopen⟩ := MfaStage.verified_iff.mp (hjs i hi)
    rw [hmoved.self] at hcheck
    cases hcheck
    rw [hlimit j check' hj hid]
    exact h.length_le_of_holder hheld hopen hnodup hothers
  · have hverified : ∀ k ∈ js, (stages k).Verified id := fun k hk =>
      hothers k hk fun hki => hi (hki ▸ hk)
    by_cases hji : j = i
    · rw [hji, hmoved.self] at hj
      cases hj
      cases js with
      | nil => exact Nat.zero_le _
      | cons k js =>
        have hk := hjs k List.mem_cons_self
        obtain ⟨other, hother, hotherId, _⟩ := MfaStage.verified_iff.mp hk
        have hki : k ≠ i := fun hki => hi (hki ▸ List.mem_cons_self)
        rw [← hlimit k other hother (hotherId.trans hid.symm)]
        exact h.bounded id _ hnodup hverified k other (hmoved.other k hki ▸ hother) hotherId
    · exact h.bounded id js hnodup hverified j check' (hmoved.other j hji ▸ hj) hid

/-- A code is checked against the challenge that the execution holds. -/
theorem verify (h : Attempts stages stored) (hmoved : Moved i (.checked check) stages stages')
    (hstage : stages i = .found check.challenge) : Attempts stages' stored := by
  have hheld : (stages i).held = some check.challenge := by rw [hstage]; rfl
  have hsame : ∀ j, (stages' j).held = (stages j).held :=
    hmoved.congr (f := MfaStage.held) (by rw [hstage]; rfl)
  have hholds (id : UUID) (j : ι) : (stages' j).Holds id ↔ (stages j).Holds id := by
    rw [MfaStage.Holds, hsame j, MfaStage.Holds]
  have hlatest : ∀ latest, Latest stages' stored latest → Latest stages stored latest := by
    rintro latest (⟨j, hj⟩ | ⟨hfree, hstored⟩)
    · exact Or.inl ⟨j, hsame j ▸ hj⟩
    · exact Or.inr ⟨fun j hj => hfree j ((hholds _ j).mpr hj), hstored⟩
  have hlimit : ∀ latest, Latest stages stored latest → ∀ j check',
      (stages' j).check? = some check' → check'.challenge.id = latest.id →
        check'.challenge.maxAttempts = latest.maxAttempts := by
    intro latest hnew j check' hj hid
    by_cases hji : j = i
    · rw [hji, hmoved.self] at hj
      cases hj
      rw [h.latest_unique hheld hnew hid.symm]
    · exact h.limit latest hnew j check' (hmoved.other j hji ▸ hj) hid
  refine ⟨fun j k id hj hk => ?_, fun latest hnew js hnodup hjs => ?_, fun latest hnew =>
    hlimit latest (hlatest latest hnew), fun latest hnew j check' hj hid hc => ?_,
    fun id js hnodup hjs j check' hj hid => ?_, fun j k check' check'' hj hk hid hcj hck => ?_⟩
  · exact h.holder j k id ((hholds id j).mp hj) ((hholds id k).mp hk)
  · refine h.counted latest (hlatest latest hnew) js hnodup fun j hj => ?_
    obtain ⟨hverified, hnone⟩ := hjs j hj
    have hji : j ≠ i := by
      rintro rfl
      rw [hmoved.self] at hnone
      cases hnone
    rw [hmoved.other j hji] at hverified hnone
    exact ⟨hverified, hnone⟩
  · by_cases hji : j = i
    · rw [hji, hmoved.self] at hc
      cases hc
    · rw [hmoved.other j hji] at hj hc
      exact h.consumed latest (hlatest latest hnew) j check' hj hid hc
  · exact h.verify_bounded hmoved hheld (fun k check'' => hlimit _ (Or.inl ⟨i, hheld⟩) k check'')
      hnodup hjs hj hid
  · by_cases hji : j = i
    · rw [hji, hmoved.self] at hcj
      cases hcj
    · by_cases hki : k = i
      · rw [hki, hmoved.self] at hck
        cases hck
      · rw [hmoved.other j hji] at hj hcj
        rw [hmoved.other k hki] at hk hck
        exact h.unique j k check' check'' hj hk hid hcj hck

/-- An open challenge counts every verification, and keeps what does not change. -/
theorem verify_challenge (challenge : MfaChallenge) (accepted : Bool) (now : Datetime) :
    (challenge.verify accepted now).challenge.id = challenge.id ∧
      (challenge.verify accepted now).challenge.maxAttempts = challenge.maxAttempts ∧
      challenge.attemptCount ≤ (challenge.verify accepted now).challenge.attemptCount ∧
      (challenge.consumedAt.isSome = true →
        (challenge.verify accepted now).challenge.consumedAt.isSome = true) := by
  unfold MfaChallenge.verify
  split
  · exact ⟨rfl, rfl, Nat.le_refl _, id⟩
  · split
    · exact ⟨rfl, rfl, Nat.le_succ _, fun _ => rfl⟩
    · exact ⟨rfl, rfl, Nat.le_succ _, id⟩

/-- A verification against an open challenge is counted. -/
theorem attemptCount_verify {accepted : Bool} (hopen : check.isOpen = true) :
    (check.challenge.verify accepted check.now).challenge.attemptCount =
      check.challenge.attemptCount + 1 := by
  obtain ⟨hmethod, hattempt⟩ := of_decide_eq_true hopen
  have hclosed : ¬ (check.challenge.method ≠ .totp ∨
      ¬ check.challenge.canAttempt check.now = true) := by
    rintro (h | h)
    · exact h hmethod
    · exact h hattempt
  unfold MfaChallenge.verify
  rw [if_neg hclosed]
  split
  · rfl
  · rfl

section Save

variable {accepted : Bool}

/-- The challenges that count after the held one has been written back. -/
theorem latest_save (h : Attempts stages stored)
    (hmoved : Moved i (.saved check (check.challenge.verify accepted check.now).challenge) stages
      stages')
    (hstage : stages i = .checked check)
    (hstored : stored' check.challenge.id =
      some (check.challenge.verify accepted check.now).challenge)
    (hothers : ∀ id, id ≠ check.challenge.id → stored' id = stored id) {latest : MfaChallenge}
    (hlatest : Latest stages' stored' latest) :
    latest = (check.challenge.verify accepted check.now).challenge ∨
      latest.id ≠ check.challenge.id ∧ Latest stages stored latest := by
  have hheld : (stages i).held = some check.challenge := by rw [hstage]; rfl
  have hi : (stages i).Holds check.challenge.id := MfaStage.holds_iff.mpr ⟨_, hheld, rfl⟩
  rcases hlatest with ⟨j, hj⟩ | ⟨hfree, hlatest⟩
  · have hji : j ≠ i := by
      rintro rfl
      rw [hmoved.self] at hj
      cases hj
    rw [hmoved.other j hji] at hj
    refine Or.inr ⟨fun hid => hji ?_, Or.inl ⟨j, hj⟩⟩
    exact h.holder j i _ (MfaStage.holds_iff.mpr ⟨latest, hj, hid⟩) hi
  · by_cases hid : latest.id = check.challenge.id
    · rw [hid, hstored] at hlatest
      exact Or.inl (Option.some.inj hlatest).symm
    · refine Or.inr ⟨hid, Or.inr ⟨fun j hj => ?_, hothers _ hid ▸ hlatest⟩⟩
      by_cases hji : j = i
      · subst hji
        rw [hstage, MfaStage.holds_iff] at hj
        obtain ⟨_, ⟨⟩, hheldId⟩ := hj
        exact hid hheldId.symm
      · exact hfree j ((hmoved.other j hji).symm ▸ hj)

/-- What is counted after the held challenge has been written back. -/
theorem counted_save [DecidableEq ι] (h : Attempts stages stored)
    (hmoved : Moved i (.saved check (check.challenge.verify accepted check.now).challenge) stages
      stages')
    (hstage : stages i = .checked check) {js : List ι} (hnodup : js.Nodup)
    (hjs : ∀ j ∈ js, Counted stages' check.challenge.id j) :
    js.length ≤ (check.challenge.verify accepted check.now).challenge.attemptCount := by
  have hheld : (stages i).held = some check.challenge := by rw [hstage]; rfl
  have hcounted : (js.erase i).length ≤ check.challenge.attemptCount := by
    refine h.counted check.challenge (Or.inl ⟨i, hheld⟩) _ (hnodup.erase i) fun j hj => ?_
    obtain ⟨hji, hmem⟩ := hnodup.mem_erase_iff.mp hj
    obtain ⟨hverified, hnone⟩ := hjs j hmem
    rw [hmoved.other j hji] at hverified hnone
    exact ⟨hverified, hnone⟩
  by_cases hi : i ∈ js
  · obtain ⟨_, hcheck, _, hopen⟩ := MfaStage.verified_iff.mp (hjs i hi).1
    rw [hmoved.self] at hcheck
    cases hcheck
    have herase := List.length_erase_add_one hi
    rw [attemptCount_verify hopen]
    omega
  · rw [List.erase_of_not_mem hi] at hcounted
    exact hcounted.trans (verify_challenge check.challenge accepted check.now).2.2.1

/-- The held challenge is written back as the policy has left it. -/
theorem save (h : Attempts stages stored)
    (hmoved : Moved i (.saved check (check.challenge.verify accepted check.now).challenge) stages
      stages')
    (hstage : stages i = .checked check)
    (hstored : stored' check.challenge.id =
      some (check.challenge.verify accepted check.now).challenge)
    (hothers : ∀ id, id ≠ check.challenge.id → stored' id = stored id) :
    Attempts stages' stored' := by
  classical
  have hheld : (stages i).held = some check.challenge := by rw [hstage]; rfl
  have hcurrent : Latest stages stored check.challenge := Or.inl ⟨i, hheld⟩
  have hcheck : ∀ j, (stages' j).check? = (stages j).check? :=
    hmoved.congr (f := MfaStage.check?) (by rw [hstage]; rfl)
  obtain ⟨hid, hmax, _, hconsumed⟩ := verify_challenge check.challenge accepted check.now
  have hlatest {latest : MfaChallenge} (hnew : Latest stages' stored' latest) :=
    h.latest_save hmoved hstage hstored hothers hnew
  have hne {id : UUID} {j : ι} (hold : (stages' j).Holds id) : j ≠ i := by
    rintro rfl
    rw [hmoved.self] at hold
    cases hold
  -- the check of the execution itself is one of the challenge that it writes
  have hself {j : ι} {check' : MfaCheck} (hj : (stages' j).check? = some check') (hji : j = i) :
      check' = check := by
    rw [hji, hmoved.self] at hj
    exact (Option.some.inj hj).symm
  have hopen {j : ι} (hc : (stages' j).hasConsumed = true) (hji : j = i) :
      check.challenge.consumedAt = none ∧
        (check.challenge.verify accepted check.now).challenge.consumedAt.isSome = true := by
    rw [hji, hmoved.self] at hc
    obtain ⟨hopen, hsome⟩ := of_decide_eq_true hc
    exact ⟨(MfaCheck.of_isOpen hopen).1, hsome⟩
  refine ⟨fun j k id hj hk => ?_, fun latest hnew js hnodup hjs => ?_,
    fun latest hnew j check' hj hjid => ?_, fun latest hnew j check' hj hjid hc => ?_,
    fun id js hnodup hjs j check' hj => ?_, fun j k check' check'' hj hk hjk hcj hck => ?_⟩
  · exact h.holder j k id (hmoved.other j (hne hj) ▸ hj) (hmoved.other k (hne hk) ▸ hk)
  · rcases hlatest hnew with rfl | ⟨hother, hold⟩
    · rw [hid] at hjs
      exact h.counted_save hmoved hstage hnodup hjs
    · refine h.counted latest hold js hnodup fun j hj => ?_
      have hji : j ≠ i := fun hji => by
        obtain ⟨check', hj', hjid, _⟩ := MfaStage.verified_iff.mp (hjs j hj).1
        exact hother (hjid.symm.trans (by rw [hself hj' hji]))
      have hcounted := hjs j hj
      unfold Counted at hcounted
      rwa [hmoved.other j hji] at hcounted
  · rcases hlatest hnew with rfl | ⟨_, hold⟩
    · rw [hmax]
      exact h.limit check.challenge hcurrent j check' (hcheck j ▸ hj) (hjid.trans hid)
    · exact h.limit latest hold j check' (hcheck j ▸ hj) hjid
  · rcases hlatest hnew with rfl | ⟨hother, hold⟩
    · by_cases hji : j = i
      · exact (hopen hc hji).2
      · rw [hmoved.other j hji] at hj hc
        exact hconsumed (h.consumed check.challenge hcurrent j check' hj (hjid.trans hid) hc)
    · have hji : j ≠ i := fun hji => hother (hjid.symm.trans (by rw [hself hj hji]))
      rw [hmoved.other j hji] at hj hc
      exact h.consumed latest hold j check' hj hjid hc
  · refine h.bounded id js hnodup (fun k hk => ?_) j check' (hcheck j ▸ hj)
    have hverified := hjs k hk
    rwa [MfaStage.Verified, hcheck k] at hverified
  · -- an open challenge has not been consumed by another execution
    have hclash {l : ι} {other : MfaCheck} (hli : l ≠ i) (hl : (stages' l).check? = some other)
        (hlid : other.challenge.id = check.challenge.id) (hcl : (stages' l).hasConsumed = true) :
        check.challenge.consumedAt.isSome = true := by
      rw [hmoved.other l hli] at hl hcl
      exact h.consumed check.challenge hcurrent l other hl hlid hcl
    by_cases hji : j = i
    · by_cases hki : k = i
      · rw [hji, hki]
      · have hsome := hclash hki hk (hjk.symm.trans (by rw [hself hj hji])) hck
        rw [(hopen hcj hji).1] at hsome
        cases hsome
    · by_cases hki : k = i
      · have hsome := hclash hji hj (hjk.trans (by rw [hself hk hki])) hcj
        rw [(hopen hck hki).1] at hsome
        cases hsome
      · rw [hmoved.other j hji] at hj hcj
        rw [hmoved.other k hki] at hk hck
        exact h.unique j k check' check'' hj hk hjk hcj hck

end Save

/-- The cached challenge changes while an execution holds this challenge. -/
theorem replace (h : Attempts stages stored) (hheld : (stages i).held = some challenge)
    (hothers : ∀ id, id ≠ challenge.id → stored' id = stored id) : Attempts stages stored' := by
  refine h.of_same_checks (fun _ => rfl) (fun _ => rfl) h.holder ?_ fun _ hnone _ => hnone
  rintro latest (hlatest | ⟨hfree, hlatest⟩)
  · exact Or.inl hlatest
  · refine Or.inr ⟨hfree, ?_⟩
    rw [← hlatest, hothers]
    exact fun hid => hfree i (MfaStage.holds_iff.mpr ⟨challenge, hheld, hid.symm⟩)

/-- A session is opened for a consumed challenge. -/
theorem logIn (h : Attempts stages stored) (hmoved : Moved i (.loggedIn check) stages stages')
    (hstage : stages i = .saved check (check.challenge.consume check.now))
    (hopen : check.isOpen = true) : Attempts stages' stored := by
  have hsame : ∀ j, (stages' j).held = (stages j).held :=
    hmoved.congr (f := MfaStage.held) (by rw [hstage]; rfl)
  have hholds (id : UUID) (j : ι) : (stages' j).Holds id ↔ (stages j).Holds id := by
    rw [MfaStage.Holds, hsame j, MfaStage.Holds]
  refine h.of_same_checks (hmoved.congr (f := MfaStage.check?) (by rw [hstage]; rfl))
    (hmoved.congr (f := MfaStage.hasConsumed) ?_) (fun j k id hj hk => ?_) ?_
    fun j hnone _ => hsame j ▸ hnone
  · rw [hstage]
    exact (decide_eq_true ⟨hopen, rfl⟩).symm
  · exact h.holder j k id ((hholds id j).mp hj) ((hholds id k).mp hk)
  · rintro latest (⟨j, hj⟩ | ⟨hfree, hstored⟩)
    · exact Or.inl ⟨j, hsame j ▸ hj⟩
    · exact Or.inr ⟨fun j hj => hfree j ((hholds _ j).mpr hj), hstored⟩

end Attempts

/-- What holds as long as recovery codes are written over the codes that have been read: the users
of whom each execution has consumed the code of a hash, and the codes that are stored. -/
structure Consumptions (consumed : ι → List UUID) (hash : ι → String)
    (stored : UUID → List RecoveryCode) : Prop where
  /-- An execution consumes at most one code of a user. -/
  nodup : ∀ i, (consumed i).Nodup
  /-- What has been consumed is spent. -/
  spent : ∀ userId i, userId ∈ consumed i → Spent (stored userId) (hash i)
  /-- A code is consumed by at most one execution. -/
  unique : ∀ userId i j, userId ∈ consumed i → userId ∈ consumed j → hash i = hash j → i = j

namespace Consumptions

variable {consumed consumed' : ι → List UUID} {hash : ι → String}
  {stored stored' : UUID → List RecoveryCode} {userId : UUID} {i : ι}
  {instant : Datetime} {updatedCodes : List RecoveryCode}

theorem start : Consumptions (fun _ : ι => []) hash stored where
  nodup _ := List.nodup_nil
  spent _ _ h := by cases h
  unique _ _ _ h := by cases h

/-- The codes are written without one that was usable. -/
theorem write (h : Consumptions consumed hash stored) {presentedHash : String}
    (hconsume : consumeFirst presentedHash instant (stored userId) = some updatedCodes)
    (hstored : ∀ other, stored' other =
      if other = userId then updatedCodes else stored other) :
    Consumptions consumed hash stored' where
  nodup := h.nodup
  spent other j hj := by
    rw [hstored]
    split
    · next hother => exact (h.spent userId j (hother ▸ hj)).of_consumeFirst hconsume
    · exact h.spent other j hj
  unique := h.unique

/-- One execution consumes a code and writes the rest. -/
theorem consume (h : Consumptions consumed hash stored)
    (hconsume : consumeFirst (hash i) instant (stored userId) = some updatedCodes)
    (hstored : ∀ other, stored' other =
      if other = userId then updatedCodes else stored other)
    (hself : consumed' i = userId :: consumed i) (hother : ∀ j, j ≠ i → consumed' j = consumed j) :
    Consumptions consumed' hash stored' := by
  have husable : Usable (stored userId) (hash i) :=
    isSome_consumeFirst_iff.mp (by rw [hconsume]; rfl)
  have hfresh (j : ι) (hj : userId ∈ consumed j) (hhash : hash j = hash i) : False :=
    (hhash ▸ h.spent userId j hj).not_usable husable
  have hold (j : ι) {other : UUID} (hj : other ∈ consumed' j) :
      other ∈ consumed j ∨ (j = i ∧ other = userId) := by
    by_cases hji : j = i
    · subst hji
      rw [hself] at hj
      exact (List.mem_cons.mp hj).symm.imp_right fun heq => ⟨rfl, heq⟩
    · exact Or.inl (hother j hji ▸ hj)
  refine ⟨fun j => ?_, fun other j hj => ?_, fun other j k hj hk hhash => ?_⟩
  · by_cases hji : j = i
    · subst hji
      rw [hself]
      exact List.nodup_cons.mpr ⟨fun hmem => hfresh j hmem rfl, h.nodup j⟩
    · exact hother j hji ▸ h.nodup j
  · rcases hold j hj with hj | ⟨rfl, rfl⟩
    · exact (h.write hconsume hstored).spent other j hj
    · rw [hstored, if_pos rfl]
      exact spent_of_consumeFirst hconsume
  · rcases hold j hj with hj | ⟨rfl, rfl⟩
    · rcases hold k hk with hk | ⟨rfl, rfl⟩
      · exact h.unique other j k hj hk hhash
      · exact (hfresh j hj hhash).elim
    · rcases hold k hk with hk | ⟨rfl, _⟩
      · exact (hfresh k hk hhash.symm).elim
      · rfl

end Consumptions

end Linkapro.Identity
