import Mathlib.Tactic.Common

/-!
# Checks that collect complaints

A check of a raw value answers with the accepted value or with complaints. Checks of the
fields of a record run side by side, so that the complaints of all fields are collected,
and a rule about the whole record follows once every field has passed. A check that
accepts its own results unchanged is stable: this is what makes repeated checking safe.
-/

namespace Lib

variable {α β γ ε : Type}

/-- The answer of a check. -/
inductive Checked (ε α : Type) : Type where
  | valid (value : α)
  | invalid (complaints : List ε)
deriving DecidableEq, Repr

namespace Checked

/-- Apply a function to an accepted value. -/
def map (f : α → β) : Checked ε α → Checked ε β
  | valid value => valid (f value)
  | invalid complaints => invalid complaints

/-- Apply an accepted function to an accepted value, and collect complaints from both. -/
def apply : Checked ε (α → β) → Checked ε α → Checked ε β
  | valid f, valid value => valid (f value)
  | valid _, invalid complaints => invalid complaints
  | invalid complaints, valid _ => invalid complaints
  | invalid first, invalid second => invalid (first ++ second)

instance : Applicative (Checked ε) where
  pure := valid
  map := map
  seq checkedF checkedA := apply checkedF (checkedA ())

/-- The check accepts, with a value of which the property holds. -/
def Gives (checked : Checked ε α) (property : α → Prop) : Prop :=
  ∃ value, checked = valid value ∧ property value

theorem eq_valid_iff_gives {checked : Checked ε α} {result : α} :
    checked = valid result ↔ checked.Gives fun value => value = result := by
  constructor
  · exact fun h => ⟨result, h, rfl⟩
  · rintro ⟨_, h, rfl⟩
    exact h

theorem gives_map {f : α → β} {checked : Checked ε α} {property : β → Prop} :
    (f <$> checked).Gives property ↔ checked.Gives fun value => property (f value) := by
  cases checked with
  | valid value =>
    constructor
    · rintro ⟨_, ⟨⟩, h⟩
      exact ⟨value, rfl, h⟩
    · rintro ⟨_, ⟨⟩, h⟩
      exact ⟨f value, rfl, h⟩
  | invalid complaints =>
    constructor
    · rintro ⟨_, h, -⟩
      cases h
    · rintro ⟨_, h, -⟩
      cases h

/-- Checks side by side accept when each does, one after the other. -/
theorem gives_seq {checkedF : Checked ε (α → β)} {checked : Checked ε α} {property : β → Prop} :
    (checkedF <*> checked).Gives property ↔
      checkedF.Gives fun f => checked.Gives fun value => property (f value) := by
  cases checkedF with
  | valid f =>
    have hmap : (valid f <*> checked : Checked ε β) = f <$> checked := by cases checked <;> rfl
    rw [hmap, gives_map]
    constructor
    · exact fun h => ⟨f, rfl, h⟩
    · rintro ⟨_, ⟨⟩, h⟩
      exact h
  | invalid complaints =>
    constructor
    · rintro ⟨_, h, -⟩
      cases checked <;> cases h
    · rintro ⟨_, h, -⟩
      cases h

/-- A check accepts at most one value. -/
theorem eq_of_valid {checked : Checked ε α} {first second : α} (hfirst : checked = valid first)
    (hsecond : checked = valid second) : first = second :=
  valid.inj (hfirst.symm.trans hsecond)

/-- A rule about an accepted value: the value stands when the rule has no complaints. -/
def ensure (rule : α → List ε) : Checked ε α → Checked ε α
  | valid value => if rule value = [] then valid value else invalid (rule value)
  | invalid complaints => invalid complaints

theorem ensure_eq_valid_iff {rule : α → List ε} {checked : Checked ε α} {result : α} :
    ensure rule checked = valid result ↔ checked = valid result ∧ rule result = [] := by
  cases checked with
  | valid value =>
    rw [ensure]
    by_cases h : rule value = []
    · rw [if_pos h]
      constructor
      · intro hvalue
        cases hvalue
        exact ⟨rfl, h⟩
      · exact And.left
    · rw [if_neg h]
      constructor
      · nofun
      · rintro ⟨hvalue, hrule⟩
        cases hvalue
        exact absurd hrule h
  | invalid complaints =>
    constructor
    · nofun
    · rintro ⟨h, -⟩
      cases h

/-- Give an error its final form. -/
def toExcept (raised : List ε → γ) : Checked ε α → Except γ α
  | valid value => .ok value
  | invalid complaints => .error (raised complaints)

theorem toExcept_eq_ok_iff {raised : List ε → γ} {checked : Checked ε α} {result : α} :
    toExcept raised checked = .ok result ↔ checked = valid result := by
  cases checked <;> simp [toExcept]

end Checked

/-- A check is stable when it accepts its own results unchanged. Results reach the check
through `embed`, which turns an accepted value back into a raw one. -/
def Stable (embed : β → α) (check : α → Checked ε β) : Prop :=
  ∀ {raw : α} {result : β}, check raw = .valid result → check (embed result) = .valid result

namespace Stable

/-- A check that returns values it recognises in any embedding. -/
theorem of_embed {embed : β → α} {check : α → Checked ε β}
    (h : ∀ result, check (embed result) = .valid result) : Stable embed check :=
  fun {_ result} _ => h result

end Stable

end Lib
