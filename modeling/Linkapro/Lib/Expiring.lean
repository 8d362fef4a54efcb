import Mathlib.Logic.Function.Basic
import Mathlib.Order.Defs.LinearOrder
import Mathlib.Order.Lattice

/-!
# Keys that expire

A cache maps a key to a value with an optional deadline. An entry is live
strictly before its deadline. The lemmas say what a read finds after a write.
-/

namespace Lib

/-- A cached value with the instant at which it lapses, if any. -/
structure Expiring (ν T : Type) where
  /-- The cached value. -/
  value : ν
  /-- The first instant at which the entry is gone. -/
  deadline : Option T

/-- A cache with expiring keys. -/
abbrev ExpiringMap (κ ν T : Type) : Type := κ → Option (Expiring ν T)

namespace ExpiringMap

variable {κ ν T : Type} [DecidableEq κ] [LinearOrder T]
  {cache : ExpiringMap κ ν T} {now later : T} {key key' : κ} {value : ν} {deadline : Option T}

/-- The value of a key that is live at `now`. -/
def get (cache : ExpiringMap κ ν T) (now : T) (key : κ) : Option ν :=
  match cache key with
  | none => none
  | some ⟨value, none⟩ => some value
  | some ⟨value, some deadline⟩ => if now < deadline then some value else none

/-- Write a value with its deadline. -/
def set (cache : ExpiringMap κ ν T) (key : κ) (value : ν) (deadline : Option T) :
    ExpiringMap κ ν T :=
  Function.update cache key (some ⟨value, deadline⟩)

/-- Remove a key. -/
def delete (cache : ExpiringMap κ ν T) (key : κ) : ExpiringMap κ ν T :=
  Function.update cache key none

@[simp] theorem get_set_self : (cache.set key value (some now)).get later key =
    if later < now then some value else none := by
  simp [get, set]

@[simp] theorem get_set_of_ne (h : key' ≠ key) :
    (cache.set key value deadline).get now key' = cache.get now key' := by
  simp [get, set, h]

/-- A value without a deadline is read at all times. -/
@[simp] theorem get_set_forever : (cache.set key value none).get now key = some value := by
  simp [get, set]

@[simp] theorem get_delete_self : (cache.delete key).get now key = none := by
  simp [get, delete]

@[simp] theorem get_delete_of_ne (h : key' ≠ key) :
    (cache.delete key).get now key' = cache.get now key' := by
  simp [get, delete, h]

omit [DecidableEq κ] in
/-- An entry is read before its deadline. -/
theorem get_of_lt (hentry : cache key = some ⟨value, some later⟩) (h : now < later) :
    cache.get now key = some value := by
  simp only [get, hentry, if_pos h]

omit [DecidableEq κ] in
/-- A value that is read is that of the entry. -/
theorem entry_of_get (h : cache.get now key = some value) :
    ∃ entry, cache key = some entry ∧ entry.value = value := by
  unfold get at h
  split at h
  · cases h
  · next hentry => exact ⟨_, hentry, Option.some.inj h⟩
  · next hentry =>
    split at h
    · exact ⟨_, hentry, Option.some.inj h⟩
    · cases h

omit [DecidableEq κ] in
/-- A key that is read has an entry. -/
theorem isSome_of_get (h : (cache.get now key).isSome = true) : (cache key).isSome = true := by
  cases hentry : cache key with
  | none =>
    simp only [get, hentry] at h
    cases h
  | some entry => rfl

end ExpiringMap

end Lib
