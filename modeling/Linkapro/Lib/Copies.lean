import Linkapro.Lib.Sessions

/-!
# Copies of a shared row

Automated executions read a row, work on their copy of it and save some columns later,
without another look at the row. Others decide about the row meanwhile. A save may
therefore undo a decision, and a failure may replace a completed work. The marks that
an execution takes at its read tell what has been decided and completed since.
-/

namespace Lib

/-- One statement of a participant, whose phase afterwards is `next`. -/
inductive Deed (ρ φ π : Type) : Type where
  /-- Works outside the row, which may change the files. -/
  | works (files : φ) (next : π)
  | reads (next : ρ → π)
  /-- An automated execution changes some columns. -/
  | saves (change : ρ → ρ) (next : π)
  /-- A decision changes some columns. -/
  | decides (change : ρ → ρ) (next : π)

namespace Deed

variable {ρ φ π : Type}

def isRead : Deed ρ φ π → Bool
  | reads _ => true
  | _ => false

def isSave : Deed ρ φ π → Bool
  | saves _ _ => true
  | _ => false

def isDecision : Deed ρ φ π → Bool
  | decides _ _ => true
  | _ => false

/-- The row after the statement. -/
def result : Deed ρ φ π → ρ → ρ
  | works _ _, row => row
  | reads _, row => row
  | saves change _, row => change row
  | decides change _, row => change row

/-- The phase after the statement. -/
def after : Deed ρ φ π → ρ → π
  | works _ next, _ => next
  | reads next, row => next row
  | saves _ next, _ => next
  | decides _ next, _ => next

/-- The files after the statement. -/
def filesAfter : Deed ρ φ π → φ → φ
  | works files _, _ => files
  | _, files => files

end Deed

/-- A row with the files it refers to, and its history: how many decisions have been
committed, and whether its work has ever been completed. -/
structure SharedRow (ρ φ : Type) : Type where
  row : ρ
  files : φ
  decisions : ℕ
  completed : Bool

/-- The history of the row at the last read of a participant. -/
structure ReadMarks : Type where
  decisions : ℕ
  completed : Bool

/-- The participants' work on a row. -/
structure CopyWork (ρ φ π χ : Type) : Type where
  deed : φ → π → χ → Deed ρ φ π
  /-- The status columns, each by the place of its status in a life cycle. -/
  stages : List (ρ → ℕ)
  /-- A decision stands. -/
  decided : ρ → Bool
  /-- The work on the row is completed. -/
  completes : ρ → Bool
  /-- The work on the row has failed. -/
  failed : ρ → Bool
  /-- The save that comes next in a phase leads a decided row back. -/
  undoes : π → ρ → Bool
  /-- The save that comes next in a phase says that the work has failed. -/
  fails : π → Bool

/-- A row and the participants between two statements. -/
abbrev Copies (ι ρ φ π : Type) : Type := Sessions ι (SharedRow ρ φ) (π × ReadMarks)

namespace CopyWork

variable {ι ρ φ π χ : Type} (work : CopyWork ρ φ π χ)

/-- The next statement of a participant. -/
def deedOf (s : Copies ι ρ φ π) (turn : ι × χ) : Deed ρ φ π :=
  work.deed s.store.files (s.phase turn.1).1 turn.2

/-- Performs the next statement of a participant. -/
def statement : Statement ι (SharedRow ρ φ) (π × ReadMarks) χ := fun s i choice =>
  let deed := work.deedOf s (i, choice)
  let row := deed.result s.store.row
  let marks := if deed.isRead then ⟨s.store.decisions, s.store.completed⟩ else (s.phase i).2
  ({ row
     files := deed.filesAfter s.store.files
     decisions := s.store.decisions + deed.isDecision.toNat
     completed := s.store.completed || work.completes row },
    (deed.after s.store.row, marks))

/-- The same work, which a participant may leave at any statement. -/
def interruptible (lost : χ → Bool) (ended : π) : CopyWork ρ φ π χ :=
  { work with
    deed := fun files phase choice =>
      if lost choice then .works files ended else work.deed files phase choice }

/-- Nobody has read the row. -/
def start (row : ρ) (files : φ) (phase : ι → π) : Copies ι ρ φ π where
  store := { row, files, decisions := 0, completed := work.completes row }
  phase i := (phase i, ⟨0, false⟩)

variable [DecidableEq ι]

/-- An execution that has read the row before its last decision does not lead it back to an
earlier status, and a row whose work has been completed does not fail. -/
def Sound (s : Copies ι ρ φ π) (turn : ι × χ) : Prop :=
  let final := s.step work.statement turn
  ((work.deedOf s turn).isSave = true → (s.phase turn.1).2.decisions < s.store.decisions →
    work.decided s.store.row = true →
      ∀ stage ∈ work.stages, stage s.store.row ≤ stage final.store.row) ∧
  (final.store.completed = true → work.failed final.store.row = false)

instance (s : Copies ι ρ φ π) (turn : ι × χ) : Decidable (work.Sound s turn) :=
  inferInstanceAs (Decidable (_ ∧ _))

omit [DecidableEq ι] in
/-- The copy of an execution is recent enough for its save: it has been read after the
decision that the save would undo, and after the completion that it would deny. -/
def Fresh (s : Copies ι ρ φ π) (turn : ι × χ) : Prop :=
  (work.deedOf s turn).isSave = true →
    (work.undoes (s.phase turn.1).1 s.store.row = true → work.decided s.store.row = true →
      s.store.decisions ≤ (s.phase turn.1).2.decisions) ∧
    (work.fails (s.phase turn.1).1 = true → s.store.completed = true →
      (s.phase turn.1).2.completed = true)

/-- What the statements do to the statuses. A row with a source can be worked on, and a
participant that knows of the source does not give up. -/
structure Lawful (sourced : ρ → Bool) (knows : π → Bool) : Prop where
  undoes : ∀ files phase choice row, (work.deed files phase choice).isSave = true →
    work.decided row = true → (work.undoes phase row = true ↔
      ∃ stage ∈ work.stages, stage ((work.deed files phase choice).result row) < stage row)
  failed : ∀ files phase choice row, work.failed ((work.deed files phase choice).result row) =
    if (work.deed files phase choice).isSave then work.fails phase else work.failed row
  not_failed : ∀ row, work.completes row = true → work.failed row = false
  completes : ∀ row, work.completes row = true → sourced row = true
  result : ∀ files phase choice row, sourced row = true →
    sourced ((work.deed files phase choice).result row) = true
  reads : ∀ files phase choice row, (work.deed files phase choice).isRead = true →
    sourced row = true → knows ((work.deed files phase choice).after row) = true
  after : ∀ files phase choice row, knows phase = true →
    knows ((work.deed files phase choice).after row) = true
  not_fails : ∀ phase, knows phase = true → work.fails phase = false

/-- A completed row has its source and has not failed, and who has read it since knows. -/
structure Known (sourced : ρ → Bool) (knows : π → Bool) (s : Copies ι ρ φ π) : Prop where
  source : s.store.completed = true → sourced s.store.row = true
  not_failed : s.store.completed = true → work.failed s.store.row = false
  reader : ∀ i, (s.phase i).2.completed = true → knows (s.phase i).1 = true

section Laws

variable {work} {sourced : ρ → Bool} {knows : π → Bool} {s : Copies ι ρ φ π} {turn : ι × χ}

/-- Work that may be left is as lawful as the work itself. -/
theorem Lawful.interruptible (hlaws : work.Lawful sourced knows) (lost : χ → Bool) {ended : π}
    (hended : knows ended = true) : (work.interruptible lost ended).Lawful sourced knows where
  undoes files phase choice row hsave hdecided := by
    simp only [CopyWork.interruptible] at hsave ⊢
    split at hsave
    · cases hsave
    · next hnot =>
      rw [if_neg hnot]
      exact hlaws.undoes files phase choice row hsave hdecided
  failed files phase choice row := by
    simp only [CopyWork.interruptible]
    split
    · rfl
    · exact hlaws.failed files phase choice row
  not_failed := hlaws.not_failed
  completes := hlaws.completes
  result files phase choice row hsourced := by
    simp only [CopyWork.interruptible]
    split
    · exact hsourced
    · exact hlaws.result files phase choice row hsourced
  reads files phase choice row hread hsourced := by
    simp only [CopyWork.interruptible] at hread ⊢
    split at hread
    · cases hread
    · next hnot =>
      rw [if_neg hnot]
      exact hlaws.reads files phase choice row hread hsourced
  after files phase choice row hknows := by
    simp only [CopyWork.interruptible]
    split
    · exact hended
    · exact hlaws.after files phase choice row hknows
  not_fails := hlaws.not_fails

omit [DecidableEq ι] in
/-- The first half of soundness, by the phase instead of the outcome. -/
theorem Lawful.keeps_iff (hlaws : work.Lawful sourced knows)
    (hsave : (work.deedOf s turn).isSave = true) (hdecided : work.decided s.store.row = true) :
    (∀ stage ∈ work.stages,
        stage s.store.row ≤ stage ((work.deedOf s turn).result s.store.row)) ↔
      ¬ work.undoes (s.phase turn.1).1 s.store.row = true := by
  have hundoes := hlaws.undoes s.store.files (s.phase turn.1).1 turn.2 s.store.row hsave hdecided
  rw [hundoes]
  constructor
  · rintro hkeeps ⟨stage, hmem, hlt⟩
    exact Nat.not_lt.mpr (hkeeps stage hmem) hlt
  · intro hnone stage hmem
    by_contra hlt
    exact hnone ⟨stage, hmem, Nat.not_le.mp hlt⟩

/-- The row fails in a statement only through a save that says so. -/
theorem Known.not_failed_step (hlaws : work.Lawful sourced knows)
    (h : work.Known sourced knows s)
    (hfresh : (work.deedOf s turn).isSave = true → work.fails (s.phase turn.1).1 = true →
      s.store.completed = true → (s.phase turn.1).2.completed = true)
    (hcompleted : (s.step work.statement turn).store.completed = true) :
    work.failed (s.step work.statement turn).store.row = false := by
  have hresult := hlaws.failed s.store.files (s.phase turn.1).1 turn.2 s.store.row
  rcases Bool.or_eq_true_iff.mp hcompleted with hbefore | hnow
  · refine hresult.trans ?_
    split
    · next hsave =>
      by_contra hfails
      have hfails' : work.fails (s.phase turn.1).1 = true := Bool.not_eq_false _ ▸ hfails
      -- it has read the row since the completion, so it knows the source
      have hknows := h.reader turn.1 (hfresh hsave hfails' hbefore)
      exact hfails (hlaws.not_fails _ hknows)
    · exact h.not_failed hbefore
  · exact hlaws.not_failed _ hnow

/-- A statement is sound exactly if its copy is recent enough. -/
theorem Known.sound_iff (hlaws : work.Lawful sourced knows) (h : work.Known sourced knows s) :
    work.Sound s turn ↔ work.Fresh s turn := by
  constructor
  · rintro ⟨hkeeps, hcompleted⟩ hsave
    constructor
    · intro hundoes hdecided
      by_contra hold
      exact (hlaws.keeps_iff hsave hdecided).mp (hkeeps hsave (Nat.not_le.mp hold) hdecided) hundoes
    · intro hfails hbefore
      have hfailed := hlaws.failed s.store.files (s.phase turn.1).1 turn.2 s.store.row
      have hnot := hcompleted (Bool.or_eq_true_iff.mpr (Or.inl hbefore))
      have hfailed' : work.failed (s.step work.statement turn).store.row = true :=
        hfailed.trans ((if_pos hsave).trans hfails)
      rw [hfailed'] at hnot
      cases hnot
  · intro hfresh
    constructor
    · intro hsave hold hdecided
      refine (hlaws.keeps_iff hsave hdecided).mpr fun hundoes => ?_
      exact Nat.not_le.mpr hold ((hfresh hsave).1 hundoes hdecided)
    · exact h.not_failed_step hlaws fun hsave => (hfresh hsave).2

/-- Sound statements keep what is known. -/
theorem Known.step (hlaws : work.Lawful sourced knows) (h : work.Known sourced knows s)
    (hsound : work.Sound s turn) : work.Known sourced knows (s.step work.statement turn) where
  source hcompleted := by
    rcases Bool.or_eq_true_iff.mp hcompleted with hbefore | hnow
    · exact hlaws.result _ _ _ _ (h.source hbefore)
    · exact hlaws.completes _ hnow
  not_failed := hsound.2
  reader j hmarks := by
    by_cases hj : j = turn.1
    · subst hj
      rw [Sessions.step_phase_self] at hmarks ⊢
      simp only [statement] at hmarks ⊢
      split at hmarks
      · next hread => exact hlaws.reads _ _ _ _ hread (h.source hmarks)
      · exact hlaws.after _ _ _ _ (h.reader _ hmarks)
    · rw [Sessions.step_phase_of_ne hj] at hmarks ⊢
      exact h.reader j hmarks

omit [DecidableEq ι] in
theorem Lawful.known_start (hlaws : work.Lawful sourced knows) (row : ρ) (files : φ)
    (phase : ι → π) : work.Known sourced knows (work.start row files phase) where
  source := hlaws.completes row
  not_failed := hlaws.not_failed row
  reader _ hmarks := by cases hmarks

/-- A run is sound exactly if every save in it comes from a copy that is recent enough. -/
theorem Known.always_iff (hlaws : work.Lawful sourced knows) (h : work.Known sourced knows s)
    (turns : List (ι × χ)) :
    Sessions.Always work.statement work.Sound s turns ↔
      Sessions.Always work.statement work.Fresh s turns := by
  induction turns generalizing s with
  | nil => exact Iff.rfl
  | cons turn turns ih =>
    constructor
    · rintro ⟨hsound, hturns⟩
      exact ⟨(h.sound_iff hlaws).mp hsound, (ih (h.step hlaws hsound)).mp hturns⟩
    · rintro ⟨hfresh, hturns⟩
      have hsound := (h.sound_iff hlaws).mpr hfresh
      exact ⟨hsound, (ih (h.step hlaws hsound)).mpr hturns⟩

end Laws

end CopyWork

end Lib
