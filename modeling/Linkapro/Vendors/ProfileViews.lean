import Mathlib.Algebra.GroupWithZero.Nat
import Mathlib.Algebra.Order.BigOperators.Group.List
import Mathlib.Algebra.Order.Group.Nat
import Mathlib.Data.Fintype.Basic
import Mathlib.Data.Fintype.Card
import Linkapro.Isoformat
import Linkapro.Lib.Months
import Linkapro.Lib.Sessions

/-!
# The views of a vendor's profile

A view is counted with up to three statements, each a transaction of its own: an update of
the row of the vendor and the day, an insertion when there is none, and a second update when
the insertion is refused. The views of a range of months are read from the rows month by
month.
-/

namespace Linkapro.Vendors

open Lib

/-- The largest value of a `PositiveIntegerField`. -/
def MAX_VIEW_COUNT : ℕ := 2147483647

/-- A row of `VendorProfileViewed`. -/
structure VendorProfileViewed where
  vendor_id : UUID
  view_date : CalendarDate
  view_count : ℕ
deriving DecidableEq

/-- The columns of the unique constraint. -/
def VendorProfileViewed.key (row : VendorProfileViewed) : UUID × CalendarDate :=
  (row.vendor_id, row.view_date)

/-- The arguments of a call of `log_profile_view`, and `timezone.localdate()` when it starts. -/
structure ProfileView where
  vendor_id : UUID
  viewed_on : Option CalendarDate
  localdate : CalendarDate

/-- `view_date`. -/
def ProfileView.view_date (view : ProfileView) : CalendarDate := view.viewed_on.getD view.localdate

def ProfileView.key (view : ProfileView) : UUID × CalendarDate := (view.vendor_id, view.view_date)

/-- The statement that a call performs next, or how it ended. -/
inductive ViewPhase : Type where
  | updating
  | creating
  | updatingAgain
  | returned
  | raised
deriving DecidableEq

/-- `filter(…).update(view_count=F("view_count") + 1)`: the rows and the number of those that
were updated, or `none` for the `DataError` of a count that is out of range. -/
def increment (key : UUID × CalendarDate) (rows : List VendorProfileViewed) :
    Option (List VendorProfileViewed × ℕ) :=
  if ∀ row ∈ rows, row.key = key → row.view_count < MAX_VIEW_COUNT then
    some (rows.map fun row =>
        if row.key = key then { row with view_count := row.view_count + 1 } else row,
      rows.countP fun row => row.key = key)
  else none

section Statements

variable {ι : Type}

/-- The next statement of a call of `log_profile_view`. An insertion is refused by the unique
constraint, or when there is no such vendor. -/
def viewStatement (vendors : List UUID) (calls : ι → ProfileView) :
    Statement ι (List VendorProfileViewed) ViewPhase Unit := fun s i _ =>
  match s.phase i with
  | .updating =>
    match increment (calls i).key s.store with
    | some (rows, updated) => (rows, if updated = 0 then .creating else .returned)
    | none => (s.store, .raised)
  | .creating =>
    if (calls i).vendor_id ∈ vendors ∧ ∀ row ∈ s.store, row.key ≠ (calls i).key then
      (⟨(calls i).vendor_id, (calls i).view_date, 1⟩ :: s.store, .returned)
    else (s.store, .updatingAgain)
  | .updatingAgain =>
    match increment (calls i).key s.store with
    | some (rows, _) => (rows, .returned)
    | none => (s.store, .raised)
  | .returned => (s.store, .returned)
  | .raised => (s.store, .raised)

/-- Every call is about to perform its first statement, and nothing is stored. -/
def noViews : Sessions ι (List VendorProfileViewed) ViewPhase := ⟨[], fun _ => .updating⟩

end Statements

section Reports

/-- `strftime("%Y-%m")`. -/
def monthText (date : CalendarDate) : String :=
  String.ofList (padDecimal 4 date.year ++ '-' :: padDecimal 2 date.month)

/-- `_month_start`. -/
def _month_start (value : CalendarDate) : CalendarDate := value.monthStart

/-- `_shift_month`, with `none` for the `ValueError` of `date`. -/
def _shift_month (value : CalendarDate) (months : ℤ) : Option CalendarDate :=
  let month_index := value.year * 12 + (value.month - 1) + months
  CalendarDate.of (month_index / 12) (month_index % 12 + 1) 1

/-- `_monthly_view_counts`: the text of each month with its views, or `none` for a
`ValueError`. -/
def _monthly_view_counts (table : List VendorProfileViewed) (vendor_id : UUID)
    (start_month : CalendarDate) (months : ℤ) : Option (List (String × ℕ)) := do
  let end_month ← _shift_month start_month months
  let rows := table.filter fun row =>
    row.vendor_id = vendor_id ∧ ¬ row.view_date.Before start_month ∧ row.view_date.Before end_month
  let counts := (rows.map fun row => row.view_date.monthStart).dedup.map fun month =>
    (monthText month,
      ((rows.filter fun row => row.view_date.monthStart = month).map
        VendorProfileViewed.view_count).sum)
  (List.range months.toNat).mapM fun (offset : ℕ) => do
    let month ← _shift_month start_month offset
    some (monthText month, (counts.lookup (monthText month)).getD 0)

/-- `total_views_trend`, with `none` for a `ValueError`. -/
def total_views_trend (table : List VendorProfileViewed) (localdate : CalendarDate)
    (vendor_id : UUID) (months : ℤ) : Option (List (String × ℕ)) := do
  guard (1 ≤ months)
  let start_month ← _shift_month (_month_start localdate) (-(months - 1))
  _monthly_view_counts table vendor_id start_month months

/-- `views_by_month`, with `none` for a `ValueError`. -/
def views_by_month (table : List VendorProfileViewed) (vendor_id : UUID) (year : ℤ) :
    Option (List (String × ℕ)) := do
  guard (1 ≤ year)
  _monthly_view_counts table vendor_id (← CalendarDate.of year 1 1) 12

end Reports

section Counting

variable {rows rows' : List VendorProfileViewed} {key : UUID × CalendarDate} {updated : ℕ}

/-- The views counted in the rows of some vendors and days. -/
def viewsWhere (p : UUID × CalendarDate → Bool) (rows : List VendorProfileViewed) : ℕ :=
  ((rows.filter fun row => p row.key).map VendorProfileViewed.view_count).sum

@[simp] theorem viewsWhere_nil (p : UUID × CalendarDate → Bool) : viewsWhere p [] = 0 := rfl

theorem viewsWhere_cons (p : UUID × CalendarDate → Bool) (row : VendorProfileViewed) :
    viewsWhere p (row :: rows) = (if p row.key then row.view_count else 0) + viewsWhere p rows := by
  unfold viewsWhere
  rw [List.filter_cons]
  split
  · rw [List.map_cons, List.sum_cons]
  · rw [Nat.zero_add]

/-- Views of disjoint parts add up. -/
theorem viewsWhere_or {p q : UUID × CalendarDate → Bool} (h : ∀ key, p key → q key → False) :
    viewsWhere (fun key => p key || q key) rows = viewsWhere p rows + viewsWhere q rows := by
  induction rows with
  | nil => rfl
  | cons row rows ih =>
    have hdisjoint := h row.key
    rw [viewsWhere_cons, viewsWhere_cons, viewsWhere_cons, ih]
    cases hp : p row.key with
    | false =>
      simp only [Bool.false_or, Bool.false_eq_true, if_false]
      omega
    | true =>
      have hq : q row.key = false := Bool.eq_false_iff.mpr (hdisjoint hp)
      simp only [hq, Bool.or_false, Bool.false_eq_true, if_false, if_true]
      omega

theorem view_count_le_viewsWhere {p : UUID × CalendarDate → Bool} {row : VendorProfileViewed}
    (hrow : row ∈ rows) (hp : p row.key) : row.view_count ≤ viewsWhere p rows :=
  List.le_sum_of_mem (List.mem_map_of_mem (List.mem_filter.mpr ⟨hrow, hp⟩))

/-- Every row that is updated counts one view more. -/
theorem increment_eq_some (h : increment key rows = some (rows', updated)) :
    rows'.map VendorProfileViewed.key = rows.map VendorProfileViewed.key ∧
      updated = (rows.map VendorProfileViewed.key).count key ∧
      ∀ p : UUID × CalendarDate → Bool,
        viewsWhere p rows' = viewsWhere p rows + if p key then updated else 0 := by
  unfold increment at h
  split at h
  · cases h
    refine ⟨?_, ?_, fun p => ?_⟩
    · rw [List.map_map]
      refine List.map_congr_left fun row _ => ?_
      rw [Function.comp_apply]
      split <;> rfl
    · rw [List.count, List.countP_map]
      exact List.countP_congr fun row _ => by simp
    · clear * -
      induction rows with
      | nil => simp
      | cons row rows ih =>
        rw [List.map_cons, viewsWhere_cons, viewsWhere_cons, ih, List.countP_cons]
        by_cases hrow : row.key = key
        · have hkey : VendorProfileViewed.key { row with view_count := row.view_count + 1 } =
              row.key := rfl
          simp only [hrow, if_true, hkey, decide_true]
          by_cases hp : p key = true
          · simp only [hp, if_true]
            omega
          · simp only [hp, Bool.false_eq_true, if_false]
            omega
        · simp only [hrow, if_false, decide_false, Bool.false_eq_true, Nat.add_zero]
          omega
  · cases h

/-- A count that would be out of range is already counted. -/
theorem increment_eq_none (h : increment key rows = none) :
    MAX_VIEW_COUNT ≤ viewsWhere (fun other => other = key) rows := by
  unfold increment at h
  split at h
  · cases h
  · next hrange =>
    push Not at hrange
    obtain ⟨row, hrow, hkey, hcount⟩ := hrange
    exact hcount.trans (view_count_le_viewsWhere hrow (decide_eq_true hkey))

end Counting

section Runs

variable {ι : Type} [Fintype ι] [DecidableEq ι] {vendors : List UUID} {calls : ι → ProfileView}
  {s : Sessions ι (List VendorProfileViewed) ViewPhase} {i : ι}

/-- The calls for some vendors and days. -/
def callsWhere (calls : ι → ProfileView) (p : UUID × CalendarDate → Bool) : Finset ι :=
  Finset.univ.filter fun i => p (calls i).key

/-- The calls for some vendors and days that have returned. -/
def returnedWhere (calls : ι → ProfileView) (phase : ι → ViewPhase)
    (p : UUID × CalendarDate → Bool) : Finset ι :=
  (callsWhere calls p).filter fun i => phase i = .returned

/-- A call that returns is one more that has returned. -/
theorem card_returnedWhere_returned {phase : ι → ViewPhase} (hphase : phase i ≠ .returned)
    (p : UUID × CalendarDate → Bool) :
    (returnedWhere calls (Function.update phase i .returned) p).card =
      (returnedWhere calls phase p).card + if p (calls i).key then 1 else 0 := by
  have hself : i ∉ returnedWhere calls phase p := by simp [returnedWhere, hphase]
  by_cases hp : p (calls i).key = true
  · rw [if_pos hp, ← Finset.card_insert_of_notMem hself]
    congr 1
    ext j
    by_cases hj : j = i
    · subst hj
      simp [returnedWhere, callsWhere, hp]
    · simp [returnedWhere, hj]
  · rw [if_neg hp, Nat.add_zero]
    congr 1
    ext j
    by_cases hj : j = i
    · subst hj
      simp [returnedWhere, callsWhere, hp]
    · simp [returnedWhere, Function.update_of_ne hj]

/-- Another step of a call leaves the calls that have returned. -/
theorem returnedWhere_pending {phase : ι → ViewPhase} (hphase : phase i ≠ .returned)
    {next : ViewPhase} (hnext : next ≠ .returned) (p : UUID × CalendarDate → Bool) :
    returnedWhere calls (Function.update phase i next) p = returnedWhere calls phase p := by
  refine Finset.filter_congr fun j _ => ?_
  by_cases hj : j = i
  · subst hj
    rw [Function.update_self]
    exact iff_of_false hnext hphase
  · rw [Function.update_of_ne hj]

/-- No call for a vendor that exists is lost or counted twice, as far as the calls have come. -/
structure Counted (vendors : List UUID) (calls : ι → ProfileView)
    (s : Sessions ι (List VendorProfileViewed) ViewPhase) : Prop where
  unique : (s.store.map VendorProfileViewed.key).Nodup
  known : ∀ key ∈ s.store.map VendorProfileViewed.key, key.1 ∈ vendors
  counted : ∀ p : UUID × CalendarDate → Bool, (∀ key, p key → key.1 ∈ vendors) →
    viewsWhere p s.store = (returnedWhere calls s.phase p).card
  inserted : ∀ i, s.phase i = .updatingAgain → (calls i).vendor_id ∈ vendors →
    (calls i).key ∈ s.store.map VendorProfileViewed.key
  raised : ∀ i, s.phase i ≠ .raised

/-- A statement keeps the count when it adds a view as its call returns, and none before. -/
theorem Counted.next (h : Counted vendors calls s) (hi : s.phase i ≠ .returned)
    {rows : List VendorProfileViewed} {next : ViewPhase}
    (hunique : (rows.map VendorProfileViewed.key).Nodup)
    (hkept : ∀ key ∈ s.store.map VendorProfileViewed.key,
      key ∈ rows.map VendorProfileViewed.key)
    (hknown : ∀ key ∈ rows.map VendorProfileViewed.key, key.1 ∈ vendors)
    (hviews : ∀ p : UUID × CalendarDate → Bool, (∀ key, p key → key.1 ∈ vendors) →
      viewsWhere p rows = viewsWhere p s.store +
        if next = .returned then (if p (calls i).key then 1 else 0) else 0)
    (hinserted : next = .updatingAgain → (calls i).vendor_id ∈ vendors →
      (calls i).key ∈ rows.map VendorProfileViewed.key)
    (hraised : next ≠ .raised) :
    Counted vendors calls ⟨rows, Function.update s.phase i next⟩ where
  unique := hunique
  known := hknown
  counted p hp := by
    dsimp only
    rw [hviews p hp, h.counted p hp]
    by_cases hnext : next = .returned
    · rw [if_pos hnext, hnext, card_returnedWhere_returned hi]
    · rw [if_neg hnext, Nat.add_zero, returnedWhere_pending hi hnext]
  inserted j := by
    dsimp only
    by_cases hj : j = i
    · subst hj
      rw [Function.update_self]
      exact hinserted
    · rw [Function.update_of_ne hj]
      exact fun hphase hvendor => hkept _ (h.inserted j hphase hvendor)
  raised j := by
    dsimp only
    by_cases hj : j = i
    · subst hj
      rw [Function.update_self]
      exact hraised
    · rw [Function.update_of_ne hj]
      exact h.raised j

omit [DecidableEq ι] in
/-- No count is out of range while a call for its vendor and day has not returned. -/
theorem Counted.increment_ne_none (h : Counted vendors calls s)
    (hbound : ∀ key, (callsWhere calls fun other => other = key).card ≤ MAX_VIEW_COUNT)
    (hi : s.phase i ≠ .returned) : increment (calls i).key s.store ≠ none := by
  intro hnone
  have hfull := increment_eq_none hnone
  have hvendor : (calls i).key.1 ∈ vendors := by
    unfold increment at hnone
    split at hnone
    · cases hnone
    · next hrange =>
      push Not at hrange
      obtain ⟨row, hrow, hkey, -⟩ := hrange
      exact h.known _ (List.mem_map.mpr ⟨row, hrow, hkey⟩)
  rw [h.counted _ fun key hkey => by rw [of_decide_eq_true hkey]; exact hvendor] at hfull
  have hfewer : (returnedWhere calls s.phase fun other => other = (calls i).key) ⊂
      callsWhere calls fun other => other = (calls i).key := by
    refine Finset.filter_ssubset.mpr ⟨i, ?_, hi⟩
    simp [callsWhere]
  have hlt := Finset.card_lt_card hfewer
  exact absurd (hfull.trans_lt hlt) (Nat.not_lt.mpr (hbound _))

/-- One statement of a call. -/
theorem Counted.step (hbound : ∀ key, (callsWhere calls fun other => other = key).card ≤
      MAX_VIEW_COUNT) (h : Counted vendors calls s) (turn : ι × Unit) :
    Counted vendors calls (s.step (viewStatement vendors calls) turn) := by
  obtain ⟨i, ⟨⟩⟩ := turn
  unfold Sessions.step viewStatement
  dsimp only
  cases hphase : s.phase i with
  | updating =>
    have hi : s.phase i ≠ .returned := by simp [hphase]
    cases hincrement : increment (calls i).key s.store with
    | none => exact absurd hincrement (h.increment_ne_none hbound hi)
    | some result =>
      obtain ⟨rows, updated⟩ := result
      obtain ⟨hkeys, hupdated, hviews⟩ := increment_eq_some hincrement
      have hone := List.nodup_iff_count_le_one.mp h.unique (calls i).key
      dsimp only
      refine h.next hi (hkeys ▸ h.unique) (fun key hkey => hkeys ▸ hkey)
        (fun key hkey => h.known key (hkeys ▸ hkey)) (fun p _ => ?_) ?_ ?_
      · rw [hviews p]
        by_cases hzero : updated = 0
        · simp [hzero]
        · have hsingle : updated = 1 := by omega
          simp [hsingle]
      · split <;> simp
      · split <;> simp
  | creating =>
    have hi : s.phase i ≠ .returned := by simp [hphase]
    dsimp only
    split
    · next hcreate =>
      have hnew : (calls i).key ∉ s.store.map VendorProfileViewed.key := by
        intro hkey
        obtain ⟨row, hrow, hkey⟩ := List.mem_map.mp hkey
        exact hcreate.2 row hrow hkey
      refine h.next hi ?_ (fun key hkey => List.mem_cons_of_mem _ hkey) (fun key hkey => ?_)
        (fun p _ => ?_) (by simp) (by simp)
      · rw [List.map_cons, List.nodup_cons]
        exact ⟨hnew, h.unique⟩
      · rw [List.map_cons, List.mem_cons] at hkey
        rcases hkey with rfl | hkey
        · exact hcreate.1
        · exact h.known key hkey
      · rw [viewsWhere_cons, if_pos rfl, Nat.add_comm]
        rfl
    · next hrefused =>
      refine h.next hi h.unique (fun key hkey => hkey) h.known (fun p _ => by simp)
        (fun _ hvendor => ?_) (by simp)
      rw [not_and] at hrefused
      have hrow := hrefused hvendor
      push Not at hrow
      exact List.mem_map.mpr hrow
  | updatingAgain =>
    have hi : s.phase i ≠ .returned := by simp [hphase]
    cases hincrement : increment (calls i).key s.store with
    | none => exact absurd hincrement (h.increment_ne_none hbound hi)
    | some result =>
      obtain ⟨rows, updated⟩ := result
      obtain ⟨hkeys, hupdated, hviews⟩ := increment_eq_some hincrement
      dsimp only
      refine h.next hi (hkeys ▸ h.unique) (fun key hkey => hkeys ▸ hkey)
        (fun key hkey => h.known key (hkeys ▸ hkey)) (fun p hp => ?_) (by simp) (by simp)
      rw [hviews p, if_pos rfl]
      by_cases hkey : p (calls i).key = true
      · have hrow := h.inserted i hphase (hp _ hkey)
        rw [if_pos hkey, if_pos hkey, hupdated, List.count_eq_one_of_mem h.unique hrow]
      · rw [if_neg hkey, if_neg hkey]
  | returned =>
    dsimp only
    rw [← hphase, Function.update_eq_self]
    exact h
  | raised => exact absurd hphase (h.raised i)

/-- Every run of calls counts the views of those that have returned. -/
theorem Counted.run (hbound : ∀ key, (callsWhere calls fun other => other = key).card ≤
      MAX_VIEW_COUNT) (vendors : List UUID) (turns : List (ι × Unit)) :
    Counted vendors calls (noViews.run (viewStatement vendors calls) turns) := by
  have hstart : Counted vendors calls noViews := {
    unique := List.nodup_nil
    known := fun key hkey => absurd hkey List.not_mem_nil
    counted := fun p _ => by simp [noViews, returnedWhere]
    inserted := fun i hphase => by cases hphase
    raised := fun i hphase => by cases hphase }
  unfold Sessions.run
  generalize (noViews : Sessions ι (List VendorProfileViewed) ViewPhase) = s at hstart
  induction turns generalizing s with
  | nil => exact hstart
  | cons turn turns ih => exact ih _ (hstart.step hbound turn)

/-- Every call has ended. -/
def Ended {ι : Type} (s : Sessions ι (List VendorProfileViewed) ViewPhase) : Prop :=
  ∀ i, s.phase i = .returned ∨ s.phase i = .raised

/-- The number of statements that a call still performs at most. -/
def ViewPhase.remaining : ViewPhase → ℕ
  | .updating => 3
  | .creating => 2
  | .updatingAgain => 1
  | .returned => 0
  | .raised => 0

omit [Fintype ι] [DecidableEq ι] in
theorem remaining_statement (vendors : List UUID) (calls : ι → ProfileView)
    (s : Sessions ι (List VendorProfileViewed) ViewPhase) (i : ι) (choice : Unit) :
    (viewStatement vendors calls s i choice).2.remaining ≤ (s.phase i).remaining - 1 := by
  unfold viewStatement
  cases hphase : s.phase i with
  | updating =>
    dsimp only
    split
    · split <;> simp [ViewPhase.remaining]
    · simp [ViewPhase.remaining]
  | creating =>
    dsimp only
    split <;> simp [ViewPhase.remaining]
  | updatingAgain =>
    dsimp only
    split <;> simp [ViewPhase.remaining]
  | returned => exact Nat.zero_le _
  | raised => exact Nat.zero_le _

omit [Fintype ι] in
/-- Every turn of a call leaves it one statement less. -/
theorem remaining_run (vendors : List UUID) (calls : ι → ProfileView) (turns : List (ι × Unit))
    (s : Sessions ι (List VendorProfileViewed) ViewPhase) (i : ι) :
    ((s.run (viewStatement vendors calls) turns).phase i).remaining ≤
      (s.phase i).remaining - (turns.map Prod.fst).count i := by
  induction turns generalizing s with
  | nil => exact Nat.le_refl _
  | cons turn turns ih =>
    obtain ⟨j, choice⟩ := turn
    have hrest := ih (s.step (viewStatement vendors calls) (j, choice))
    rw [Sessions.run_cons, List.map_cons, List.count_cons]
    by_cases hj : i = j
    · subst hj
      rw [Sessions.step_phase_self] at hrest
      have hfirst := remaining_statement vendors calls s i choice
      simp only [beq_self_eq_true, if_true]
      omega
    · rw [Sessions.step_phase_of_ne hj] at hrest
      have hne : (j == i) = false := beq_eq_false_iff_ne.mpr (Ne.symm hj)
      simp only [hne, Bool.false_eq_true, if_false]
      omega

omit [Fintype ι] in
/-- Every call ends with its third turn at the latest. -/
theorem ended_of_turns {turns : List (ι × Unit)}
    (hturns : ∀ i, 3 ≤ (turns.map Prod.fst).count i) :
    Ended (noViews.run (viewStatement vendors calls) turns) := by
  intro i
  have hrun := remaining_run vendors calls turns noViews i
  have hthree : (noViews.phase i).remaining - (turns.map Prod.fst).count i = 0 :=
    Nat.sub_eq_zero_of_le (hturns i)
  have hzero := Nat.le_zero.mp (hthree ▸ hrun)
  revert hzero
  cases (noViews.run (viewStatement vendors calls) turns).phase i with
  | returned => exact fun _ => .inl rfl
  | raised => exact fun _ => .inr rfl
  | updating => exact fun h => absurd h (by decide)
  | creating => exact fun h => absurd h (by decide)
  | updatingAgain => exact fun h => absurd h (by decide)

/-- What is stored is in range, for the vendors and days of the calls. -/
structure InRange (calls : ι → ProfileView) (rows : List VendorProfileViewed) : Prop where
  unique : (rows.map VendorProfileViewed.key).Nodup
  called : ∀ row ∈ rows, ∃ i, row.key = (calls i).key
  range : ∀ row ∈ rows, row.view_count ≤ MAX_VIEW_COUNT

omit [Fintype ι] [DecidableEq ι] in
theorem InRange.increment {rows rows' : List VendorProfileViewed} (h : InRange calls rows)
    {key : UUID × CalendarDate} {updated : ℕ}
    (hincrement : increment key rows = some (rows', updated)) : InRange calls rows' := by
  have hkeys := (increment_eq_some hincrement).1
  unfold Vendors.increment at hincrement
  split at hincrement
  · next hrange =>
    cases hincrement
    refine ⟨hkeys ▸ h.unique, fun row hrow => ?_, fun row hrow => ?_⟩
    · obtain ⟨old, hold, rfl⟩ := List.mem_map.mp hrow
      split
      · exact h.called old hold
      · exact h.called old hold
    · obtain ⟨old, hold, rfl⟩ := List.mem_map.mp hrow
      split
      · next hkey => exact hrange old hold hkey
      · exact h.range old hold
  · cases hincrement

omit [Fintype ι] in
theorem InRange.step (h : InRange calls s.store) (turn : ι × Unit) :
    InRange calls (s.step (viewStatement vendors calls) turn).store := by
  obtain ⟨i, ⟨⟩⟩ := turn
  rw [Sessions.step_store]
  unfold viewStatement
  cases s.phase i with
  | updating =>
    dsimp only
    split
    · next hincrement => exact h.increment hincrement
    · exact h
  | creating =>
    dsimp only
    split
    · next hcreate =>
      refine ⟨List.nodup_cons.mpr ⟨fun hkey => ?_, h.unique⟩, fun row hrow => ?_,
        fun row hrow => ?_⟩
      · obtain ⟨row, hrow, hkey⟩ := List.mem_map.mp hkey
        exact hcreate.2 row hrow hkey
      · rcases List.mem_cons.mp hrow with rfl | hrow
        · exact ⟨i, rfl⟩
        · exact h.called row hrow
      · rcases List.mem_cons.mp hrow with rfl | hrow
        · exact Nat.le_of_ble_eq_true rfl
        · exact h.range row hrow
    · exact h
  | updatingAgain =>
    dsimp only
    split
    · next hincrement => exact h.increment hincrement
    · exact h
  | returned => exact h
  | raised => exact h

omit [Fintype ι] in
theorem InRange.run (vendors : List UUID) (calls : ι → ProfileView) (turns : List (ι × Unit)) :
    InRange calls (noViews.run (viewStatement vendors calls) turns).store := by
  have hstart : InRange calls (noViews : Sessions ι _ _).store :=
    ⟨List.nodup_nil, fun _ h => absurd h List.not_mem_nil, fun _ h => absurd h List.not_mem_nil⟩
  unfold Sessions.run
  generalize (noViews : Sessions ι (List VendorProfileViewed) ViewPhase) = s at hstart
  induction turns generalizing s with
  | nil => exact hstart
  | cons turn turns ih => exact ih _ (hstart.step turn)

omit [Fintype ι] [DecidableEq ι] in
/-- One vendor and day have one counter, which is in range. -/
theorem InRange.viewsWhere_le {rows : List VendorProfileViewed} (h : InRange calls rows)
    {key : UUID × CalendarDate} (hcalls : ∀ i, (calls i).key = key)
    (p : UUID × CalendarDate → Bool) : viewsWhere p rows ≤ MAX_VIEW_COUNT := by
  have hkeys : ∀ row ∈ rows, row.key = key := fun row hrow => by
    obtain ⟨i, hi⟩ := h.called row hrow
    rw [hi, hcalls i]
  obtain ⟨hunique, -, hrange⟩ := h
  cases rows with
  | nil => exact Nat.zero_le _
  | cons row rest =>
    have hrest : rest = [] := by
      refine List.eq_nil_iff_forall_not_mem.mpr fun other hother => ?_
      have hsame := (hkeys other (List.mem_cons_of_mem _ hother)).trans
        (hkeys row List.mem_cons_self).symm
      exact (List.nodup_cons.mp hunique).1 (List.mem_map.mpr ⟨other, hother, hsame⟩)
    have hrow := hrange row List.mem_cons_self
    rw [hrest, viewsWhere_cons, viewsWhere_nil]
    split <;> omega

end Runs

section Months

variable {table : List VendorProfileViewed} {vendor_id : UUID} {start_month month : CalendarDate}

theorem _shift_month_eq (value : CalendarDate) (months : ℤ) :
    _shift_month value months = CalendarDate.ofMonthIndex (value.monthIndex + months) := rfl

/-- Different months have different texts. -/
theorem monthIndex_of_monthText {date date' : CalendarDate} (h : monthText date = monthText date') :
    date.monthIndex = date'.monthIndex := by
  obtain ⟨⟨hyear, hyear'⟩, hmonth, hmonth'⟩ := And.intro date.year_mem date.month_mem
  obtain ⟨⟨hother, hother'⟩, hothers, hothers'⟩ := And.intro date'.year_mem date'.month_mem
  obtain ⟨a, b, c, d, htext, hread⟩ := padDecimal_four (n := date.year) (by omega) (by omega)
  obtain ⟨a', b', c', d', htext', hread'⟩ :=
    padDecimal_four (n := date'.year) (by omega) (by omega)
  obtain ⟨e, f, hdigits, hdigit⟩ := padDecimal_two (n := date.month) (by omega) (by omega)
  obtain ⟨e', f', hdigits', hdigit'⟩ := padDecimal_two (n := date'.month) (by omega) (by omega)
  have hlists := String.ofList_injective h
  rw [htext, htext', hdigits, hdigits'] at hlists
  simp only [List.cons_append, List.nil_append, List.cons.injEq, and_true, true_and] at hlists
  obtain ⟨rfl, rfl, rfl, rfl, rfl, rfl⟩ := hlists
  have hyears := Option.some.inj (hread.symm.trans hread')
  have hmonths := Option.some.inj (hdigit.symm.trans hdigit')
  unfold CalendarDate.monthIndex
  rw [hyears, hmonths]

/-- What a dictionary with a key for each item answers, when the missing ones count as zero. -/
theorem getD_lookup_map {α : Type} {text : α → String} {value : α → ℕ} {items : List α} {a : α}
    (hinj : ∀ b ∈ items, text b = text a → b = a) (hmissing : a ∉ items → value a = 0) :
    ((items.map fun b => (text b, value b)).lookup (text a)).getD 0 = value a := by
  induction items with
  | nil => exact (hmissing List.not_mem_nil).symm
  | cons b items ih =>
    rw [List.map_cons, List.lookup_cons]
    split
    · next htext =>
      rw [Option.getD_some, hinj b List.mem_cons_self (beq_iff_eq.mp htext).symm]
    · next htext =>
      refine ih (fun c hc => hinj c (List.mem_cons_of_mem _ hc)) fun hnot => hmissing fun hmem => ?_
      rcases List.mem_cons.mp hmem with rfl | hmem
      · exact absurd htext (by simp)
      · exact hnot hmem

/-- Reading every item succeeds when reading each of them does. -/
theorem exists_mapM {α β γ : Type} {read : α → Option β} {part : β → γ} {value : α → γ}
    {items : List α} (h : ∀ item ∈ items, ∃ result, read item = some result ∧
      part result = value item) :
    ∃ results, items.mapM read = some results ∧ results.map part = items.map value := by
  induction items with
  | nil => exact ⟨[], rfl, rfl⟩
  | cons item items ih =>
    obtain ⟨result, hresult, hpart⟩ := h item List.mem_cons_self
    obtain ⟨results, hresults, hparts⟩ := ih fun later hlater =>
      h later (List.mem_cons_of_mem _ hlater)
    refine ⟨result :: results, ?_, ?_⟩
    · rw [List.mapM_cons, hresult, hresults]
      rfl
    · rw [List.map_cons, List.map_cons, hpart, hparts]

/-- The views of a vendor in one month. -/
def ofMonth (vendor_id : UUID) (index : ℤ) (key : UUID × CalendarDate) : Bool :=
  key.1 = vendor_id ∧ key.2.monthIndex = index

/-- The views of a vendor in a range of months. -/
def ofMonths (vendor_id : UUID) (first : ℤ) (months : ℕ) (key : UUID × CalendarDate) : Bool :=
  key.1 = vendor_id ∧ first ≤ key.2.monthIndex ∧ key.2.monthIndex < first + months

theorem ofMonth_iff {index : ℤ} {key : UUID × CalendarDate} :
    ofMonth vendor_id index key ↔ key.1 = vendor_id ∧ key.2.monthIndex = index :=
  decide_eq_true_iff

theorem ofMonths_iff {first : ℤ} {months : ℕ} {key : UUID × CalendarDate} :
    ofMonths vendor_id first months key ↔
      key.1 = vendor_id ∧ first ≤ key.2.monthIndex ∧ key.2.monthIndex < first + months :=
  decide_eq_true_iff

/-- Every view of a range of months lies in one month of it. -/
theorem sum_ofMonth (vendor_id : UUID) (first : ℤ) (months : ℕ) :
    ((List.range months).map fun (offset : ℕ) =>
      viewsWhere (ofMonth vendor_id (first + offset)) table).sum =
        viewsWhere (ofMonths vendor_id first months) table := by
  induction months with
  | zero =>
    have hnone : ofMonths vendor_id first 0 = fun _ => false := by
      funext key
      simp only [ofMonths, decide_eq_false_iff_not]
      omega
    rw [hnone]
    simp [viewsWhere]
  | succ months ih =>
    have hsplit : ofMonths vendor_id first (months + 1) = fun key =>
        ofMonths vendor_id first months key || ofMonth vendor_id (first + months) key := by
      funext key
      rw [Bool.eq_iff_iff, Bool.or_eq_true, ofMonths_iff, ofMonths_iff, ofMonth_iff, ← and_or_left]
      refine and_congr_right fun _ => ?_
      omega
    rw [List.range_succ, List.map_append, List.sum_append, ih, hsplit, viewsWhere_or]
    · simp
    · intro key h h'
      have hlater := (ofMonths_iff.mp h).2.2
      have hindex := (ofMonth_iff.mp h').2
      omega

/-- The rows of a range of months that lie in one of them. -/
theorem filter_month {end_month : CalendarDate}
    (hstart : start_month.monthStart = start_month) (hend : end_month.monthStart = end_month)
    (hmonth : month.monthStart = month)
    (hrange : start_month.monthIndex ≤ month.monthIndex ∧
      month.monthIndex < end_month.monthIndex) :
    (((table.filter fun row => row.vendor_id = vendor_id ∧
          ¬ row.view_date.Before start_month ∧ row.view_date.Before end_month).filter
        fun row => row.view_date.monthStart = month).map VendorProfileViewed.view_count).sum =
      viewsWhere (ofMonth vendor_id month.monthIndex) table := by
  rw [List.filter_filter]
  unfold viewsWhere
  congr 2
  refine List.filter_congr fun row _ => ?_
  have hmonths : row.view_date.monthStart = month ↔
      row.view_date.monthIndex = month.monthIndex := by
    rw [← CalendarDate.monthStart_eq_iff, hmonth]
  rw [Bool.eq_iff_iff]
  have hdate : row.key.2 = row.view_date := rfl
  rw [ofMonth_iff, hdate, Bool.and_eq_true, decide_eq_true_iff, decide_eq_true_iff, hmonths,
    ← hstart, ← hend, CalendarDate.before_monthStart_iff, CalendarDate.before_monthStart_iff]
  constructor
  · rintro ⟨hindex, hvendor, -⟩
    exact ⟨hvendor, hindex⟩
  · rintro ⟨hvendor, hindex⟩
    exact ⟨hindex, hvendor, by omega, by omega⟩

/-- The report of a range of months has the views of each month. -/
theorem _monthly_view_counts_eq (table : List VendorProfileViewed) (vendor_id : UUID)
    (hstart : start_month.monthStart = start_month) {months : ℕ}
    (hend : start_month.monthIndex + months < 120000) :
    ∃ report, _monthly_view_counts table vendor_id start_month months = some report ∧
      report.map Prod.snd = (List.range months).map fun (offset : ℕ) =>
        viewsWhere (ofMonth vendor_id (start_month.monthIndex + offset)) table := by
  have hfirst : 12 ≤ start_month.monthIndex := by
    have hyear := start_month.year_mem.1
    have hmonth := start_month.month_mem.1
    unfold CalendarDate.monthIndex
    omega
  obtain ⟨end_month, hlast⟩ := CalendarDate.exists_ofMonthIndex
    (show 12 ≤ start_month.monthIndex + months by omega) hend
  obtain ⟨hindex, hends⟩ := CalendarDate.ofMonthIndex_eq_some_iff.mp hlast
  have hread (offset : ℕ) (hoffset : offset ∈ List.range months) :=
    CalendarDate.exists_ofMonthIndex (show 12 ≤ start_month.monthIndex + offset by omega)
      (by have hlt := List.mem_range.mp hoffset; omega)
  unfold _monthly_view_counts
  rw [_shift_month_eq, hlast, Option.bind_eq_bind, Option.bind_some, Int.toNat_natCast]
  refine exists_mapM fun offset hoffset => ?_
  obtain ⟨month, hmonth⟩ := hread offset hoffset
  obtain ⟨hmonthIndex, hmonths⟩ := CalendarDate.ofMonthIndex_eq_some_iff.mp hmonth
  have hlt := List.mem_range.mp hoffset
  rw [_shift_month_eq, hmonth]
  refine ⟨_, rfl, ?_⟩
  dsimp only
  rw [getD_lookup_map, filter_month hstart hends hmonths (by omega), hmonthIndex]
  · intro other hother htext
    obtain ⟨row, -, rfl⟩ := List.mem_map.mp (List.mem_dedup.mp hother)
    rw [← hmonths, CalendarDate.monthStart_eq_iff]
    exact monthIndex_of_monthText htext
  · intro hmissing
    rw [List.mem_dedup] at hmissing
    rw [List.filter_eq_nil_iff.mpr fun row hrow hmonthOf => hmissing
      (List.mem_map.mpr ⟨row, hrow, of_decide_eq_true hmonthOf⟩)]
    rfl

end Months

section Reported

variable {ι : Type} [Fintype ι] {vendors : List UUID} {calls : ι → ProfileView}
  {s : Sessions ι (List VendorProfileViewed) ViewPhase} {vendor_id : UUID}

/-- When all calls have ended, a range of months is reported with its calls. -/
theorem Counted.reported (h : Counted vendors calls s) (hended : Ended s)
    (hvendor : vendor_id ∈ vendors) {start_month : CalendarDate}
    (hstart : _month_start start_month = start_month) (months : ℕ)
    (hend : start_month.monthIndex + months < 120000) :
    ∃ report, _monthly_view_counts s.store vendor_id start_month months = some report ∧
      (report.map Prod.snd).sum =
        (callsWhere calls (ofMonths vendor_id start_month.monthIndex months)).card := by
  obtain ⟨report, hreport, hviews⟩ := _monthly_view_counts_eq s.store vendor_id hstart hend
  refine ⟨report, hreport, ?_⟩
  have hall : returnedWhere calls s.phase (ofMonths vendor_id start_month.monthIndex months) =
      callsWhere calls (ofMonths vendor_id start_month.monthIndex months) :=
    Finset.filter_true_of_mem fun i _ => (hended i).resolve_right (h.raised i)
  rw [hviews, sum_ofMonth, h.counted _ fun key hkey => (ofMonths_iff.mp hkey).1 ▸ hvendor, hall]

/-- The trend up to a month reports the calls of the months up to it. -/
theorem Counted.trend (h : Counted vendors calls s) (hended : Ended s)
    (hvendor : vendor_id ∈ vendors) {localdate : CalendarDate} {months : ℕ} (hmonths : 1 ≤ months)
    (hfirst : 12 ≤ localdate.monthIndex - (months - 1))
    (hend : localdate.monthIndex + 1 < 120000) :
    ∃ report, total_views_trend s.store localdate vendor_id months = some report ∧
      (report.map Prod.snd).sum = (callsWhere calls
        (ofMonths vendor_id (localdate.monthIndex - (months - 1)) months)).card := by
  obtain ⟨start_month, hstart⟩ := CalendarDate.exists_ofMonthIndex hfirst (by omega)
  obtain ⟨hindex, hstarts⟩ := CalendarDate.ofMonthIndex_eq_some_iff.mp hstart
  have hshift : _shift_month (_month_start localdate) (-((months : ℤ) - 1)) = some start_month := by
    rw [_shift_month_eq, _month_start, CalendarDate.monthIndex_monthStart, ← Int.sub_eq_add_neg]
    exact hstart
  obtain ⟨report, hreport, hsum⟩ := h.reported hended hvendor hstarts months (by omega)
  refine ⟨report, ?_, hindex ▸ hsum⟩
  unfold total_views_trend
  rw [hshift, ← hreport]
  have hguard : (1 : ℤ) ≤ months := by omega
  simp [guard, hguard]

/-- The breakdown of a year reports the calls of its months. -/
theorem Counted.year (h : Counted vendors calls s) (hended : Ended s)
    (hvendor : vendor_id ∈ vendors) {year : ℤ} (hyear : 1 ≤ year) (hyear' : year < 9999) :
    ∃ report, views_by_month s.store vendor_id year = some report ∧
      (report.map Prod.snd).sum = (callsWhere calls (ofMonths vendor_id (year * 12) 12)).card := by
  obtain ⟨start_month, hstart⟩ := CalendarDate.exists_ofMonthIndex
    (show 12 ≤ year * 12 by omega) (by omega)
  obtain ⟨hindex, hstarts⟩ := CalendarDate.ofMonthIndex_eq_some_iff.mp hstart
  have hof : CalendarDate.of year 1 1 = some start_month := by
    rw [← hstart, CalendarDate.ofMonthIndex]
    congr 1 <;> omega
  obtain ⟨report, hreport, hsum⟩ := h.reported hended hvendor hstarts 12 (by omega)
  refine ⟨report, ?_, hindex ▸ hsum⟩
  unfold views_by_month
  rw [hof]
  simp [guard, hyear, ← hreport]

end Reported

section Main

/-- The last day of a year. -/
def lastDay (year : ℤ) (h : 1 ≤ year ∧ year ≤ 9999) : CalendarDate where
  year := year
  month := 12
  day := 31
  year_mem := h
  month_mem := by decide
  day_mem := ⟨by decide, by simp [daysInMonth]⟩

/-- A view of vendor 7 on the last day of a year. -/
def lastDayView (year : ℤ) (h : 1 ≤ year ∧ year ≤ 9999) : ProfileView where
  vendor_id := 7
  viewed_on := none
  localdate := lastDay year h

/-- A range of months is reported with the number of its calls. -/
def Reports {ι : Type} [Fintype ι] (calls : ι → ProfileView) (table : List VendorProfileViewed)
    (vendor_id : UUID) (start_month : CalendarDate) (months : ℕ) : Prop :=
  ∃ report, _monthly_view_counts table vendor_id start_month months = some report ∧
    (report.map Prod.snd).sum =
      (callsWhere calls (ofMonths vendor_id start_month.monthIndex months)).card

/-- More calls for one vendor and day than a counter can hold are not all counted. -/
theorem exists_uncounted {n : ℕ} (hn : MAX_VIEW_COUNT < n) :
    ∃ turns, Ended (noViews.run (viewStatement [7]
        fun _ : Fin n => lastDayView 2025 (by decide)) turns) ∧
      ¬ Reports (fun _ : Fin n => lastDayView 2025 (by decide))
        (noViews.run (viewStatement [7] fun _ : Fin n => lastDayView 2025 (by decide)) turns).store
        7 (lastDay 2025 (by decide)).monthStart 1 := by
  let rounds : List (Fin n) := List.finRange n ++ List.finRange n ++ List.finRange n
  refine ⟨rounds.map fun i => (i, ()), ended_of_turns fun i => ?_, ?_⟩
  · have hone : (List.finRange n).count i = 1 :=
      List.count_eq_one_of_mem (List.nodup_finRange n) (List.mem_finRange i)
    rw [List.map_map, show (Prod.fst ∘ fun i : Fin n => (i, ())) = id from rfl, List.map_id,
      List.count_append, List.count_append, hone]
  · rintro ⟨report, hreport, hsum⟩
    have hrange := InRange.run [7] (fun _ : Fin n => lastDayView 2025 (by decide))
      (rounds.map fun i => (i, ()))
    generalize (noViews.run (viewStatement [7] fun _ : Fin n => lastDayView 2025 (by decide))
      (rounds.map fun i => (i, ()))).store = table at hreport hrange
    obtain ⟨report', hreport', hviews⟩ := _monthly_view_counts_eq table 7
      (show (lastDay 2025 (by decide)).monthStart.monthStart = _ from rfl)
      (show (lastDay 2025 (by decide)).monthStart.monthIndex + (1 : ℕ) < 120000 by decide)
    cases Option.some.inj (hreport.symm.trans hreport')
    have hfew := hrange.viewsWhere_le (fun _ => rfl)
      (ofMonths 7 (lastDay 2025 (by decide)).monthStart.monthIndex 1)
    have hall : callsWhere (fun _ : Fin n => lastDayView 2025 (by decide))
        (ofMonths 7 (lastDay 2025 (by decide)).monthStart.monthIndex 1) = Finset.univ :=
      Finset.filter_true_of_mem fun _ _ => rfl
    rw [hviews, sum_ofMonth, hall, Finset.card_univ, Fintype.card_fin] at hsum
    omega

/-- When all calls have ended, there is one row at most for each vendor and day, and every range
of months before December 9999 is reported with the number of its calls. -/
theorem profile_views_counted {ι : Type} [Fintype ι] [DecidableEq ι] (vendors : List UUID)
    (calls : ι → ProfileView) (turns : List (ι × Unit))
    (hbound : ∀ key, (callsWhere calls fun other => other = key).card ≤ MAX_VIEW_COUNT)
    (hended : Ended (noViews.run (viewStatement vendors calls) turns)) :
    let table := (noViews.run (viewStatement vendors calls) turns).store
    (table.map VendorProfileViewed.key).Nodup ∧
      ∀ vendor_id, vendor_id ∈ vendors →
        (∀ (start_month : CalendarDate) (months : ℕ), _month_start start_month = start_month →
          start_month.monthIndex + months < 120000 →
          Reports calls table vendor_id start_month months) ∧
        (∀ (localdate : CalendarDate) (months : ℕ), 1 ≤ months →
          12 ≤ localdate.monthIndex - (months - 1) → localdate.monthIndex + 1 < 120000 →
          ∃ report, total_views_trend table localdate vendor_id months = some report ∧
            (report.map Prod.snd).sum = (callsWhere calls
              (ofMonths vendor_id (localdate.monthIndex - (months - 1)) months)).card) ∧
        ∀ year : ℤ, 1 ≤ year → year < 9999 →
          ∃ report, views_by_month table vendor_id year = some report ∧
            (report.map Prod.snd).sum =
              (callsWhere calls (ofMonths vendor_id (year * 12) 12)).card := by
  have h := Counted.run hbound vendors turns
  refine ⟨h.unique, fun vendor_id hvendor => ⟨?_, ?_, ?_⟩⟩
  · exact fun start_month months hstart hend => h.reported hended hvendor hstart months hend
  · exact fun localdate months hmonths hfirst hend => h.trend hended hvendor hmonths hfirst hend
  · exact fun year hyear hyear' => h.year hended hvendor hyear hyear'

/-- Two calls find no row, one inserts it, and the other counts its view after a refused
insertion. -/
theorem profile_views_counted_sample :
    let calls := fun _ : Bool => lastDayView 2025 (by decide)
    let turns := [(true, ()), (false, ()), (true, ()), (false, ()), (false, ())]
    let table := (noViews.run (viewStatement [7] calls) turns).store
    Reports calls table 7 (lastDay 2025 (by decide)).monthStart 2 :=
  ((profile_views_counted [7] (fun _ : Bool => lastDayView 2025 (by decide))
    [(true, ()), (false, ()), (true, ()), (false, ()), (false, ())]
    (fun _ => (Finset.card_filter_le _ _).trans (by decide))
    (fun i => by cases i <;> exact .inl (by decide +kernel))).2 7 (by decide)).1 _ 2 rfl (by decide)

/-- A view in December 9999 is counted, but no range that ends with this month is reported: the
month after it has no first day. A call for a vendor that does not exist is not counted. A
counter that has reached its bound counts no further call. -/
theorem profile_views_miscounted :
    (¬ ∀ (n : ℕ) (calls : Fin n → ProfileView) (turns : List (Fin n × Unit)),
      Ended (noViews.run (viewStatement [7] calls) turns) →
      (∀ key, (callsWhere calls fun other => other = key).card ≤ MAX_VIEW_COUNT) →
      ∀ (start_month : CalendarDate) (months : ℕ), _month_start start_month = start_month →
        Reports calls (noViews.run (viewStatement [7] calls) turns).store 7 start_month months) ∧
    (¬ ∀ (n : ℕ) (calls : Fin n → ProfileView) (turns : List (Fin n × Unit)),
      Ended (noViews.run (viewStatement [] calls) turns) →
      (∀ key, (callsWhere calls fun other => other = key).card ≤ MAX_VIEW_COUNT) →
      ∀ (start_month : CalendarDate) (months : ℕ), _month_start start_month = start_month →
        start_month.monthIndex + months < 120000 →
        Reports calls (noViews.run (viewStatement [] calls) turns).store 7 start_month months) ∧
    ¬ ∀ (n : ℕ) (calls : Fin n → ProfileView) (turns : List (Fin n × Unit)),
      Ended (noViews.run (viewStatement [7] calls) turns) →
      ∀ (start_month : CalendarDate) (months : ℕ), _month_start start_month = start_month →
        start_month.monthIndex + months < 120000 →
        Reports calls (noViews.run (viewStatement [7] calls) turns).store 7 start_month months := by
  refine ⟨fun h => ?_, fun h => ?_, fun h => ?_⟩
  · obtain ⟨report, hreport, -⟩ := h 1 (fun _ => lastDayView 9999 (by decide))
      (List.replicate 3 (0, ())) (ended_of_turns (by decide))
      (fun _ => (Finset.card_filter_le _ _).trans (by decide))
      (lastDay 9999 (by decide)).monthStart 1 rfl
    have hnone : _shift_month (lastDay 9999 (by decide)).monthStart (1 : ℕ) = none :=
      CalendarDate.ofMonthIndex_eq_none (by decide)
    unfold _monthly_view_counts at hreport
    rw [hnone] at hreport
    cases hreport
  · obtain ⟨report, hreport, hsum⟩ := h 1 (fun _ => lastDayView 2025 (by decide))
      (List.replicate 3 (0, ())) (ended_of_turns (by decide))
      (fun _ => (Finset.card_filter_le _ _).trans (by decide))
      (lastDay 2025 (by decide)).monthStart 1 rfl (by decide)
    have hempty : (_monthly_view_counts (noViews.run (viewStatement []
        (fun _ : Fin 1 => lastDayView 2025 (by decide))) (List.replicate 3 (0, ()))).store 7
          (lastDay 2025 (by decide)).monthStart (1 : ℕ)) = some [("2025-12", 0)] := by
      decide +kernel
    rw [hempty] at hreport
    cases hreport
    revert hsum
    decide +kernel
  · obtain ⟨turns, hended, hreports⟩ := exists_uncounted (Nat.lt_succ_self MAX_VIEW_COUNT)
    exact hreports (h _ _ turns hended _ 1 rfl (by decide))

end Main

end Linkapro.Vendors
