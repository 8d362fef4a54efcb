import Mathlib.Algebra.Group.Int.Defs
import Mathlib.Algebra.Group.Nat.Defs
import Mathlib.Data.Int.Notation
import Mathlib.Data.List.DropRight
import Mathlib.Tactic.Common

/-!
# Values shared by the components

Identifiers, instants and the loosely typed values that cross the boundary of a
component: an enumeration argument that may be plain text, and a JSON value as
far as the code tells JSON values apart.
-/

namespace Linkapro

/-- A UUID. -/
abbrev UUID : Type := BitVec 128

instance : LawfulBEq UUID := inferInstance

-- The names `0`, `1` and `2` of two or three sessions in a concrete run.
instance neZeroTwo : @NeZero ℕ Zero.ofOfNat0 2 := ⟨Nat.succ_ne_zero 1⟩

instance neZeroThree : @NeZero ℕ Zero.ofOfNat0 3 := ⟨Nat.succ_ne_zero 2⟩

/-- An aware `datetime`, in microseconds since the epoch. -/
abbrev Datetime : Type := ℤ

/-- A `timedelta`, in microseconds. -/
abbrev Timedelta : Type := ℤ

/-- `timedelta(seconds=n)`. -/
def seconds (n : ℤ) : Timedelta := n * 1000000

/-- `timedelta(minutes=n)`. -/
def minutes (n : ℤ) : Timedelta := seconds (60 * n)

/-- `timedelta(hours=n)`. -/
def hours (n : ℤ) : Timedelta := minutes (60 * n)

/-- `timedelta(days=n)`. -/
def days (n : ℤ) : Timedelta := hours (24 * n)

/-- The attribute `.days` of a timedelta, rounded towards the past. -/
def wholeDays (delta : Timedelta) : ℤ := delta / days 1

/-- An argument declared as an `Enum` of `str` values. Python does not check the
annotation, so plain text may arrive in its place. -/
inductive EnumArg (α : Type) : Type where
  | member (value : α)
  | text (value : String)
deriving DecidableEq, Repr

/-- A JSON value as far as the code tells such values apart: text, or any other
value with its `str` rendering and its truth value. -/
inductive JsonValue : Type where
  | text (value : String)
  | other (rendering : String) (truthy : Bool)
deriving DecidableEq, Repr

namespace JsonValue

/-- `None` as a JSON value. -/
def null : JsonValue := .other "None" false

/-- `bool(value)`. -/
def isTruthy : JsonValue → Bool
  | .text value => value ≠ ""
  | .other _ truthy => truthy

/-- `str(value)`, as an f-string renders the value. -/
def render : JsonValue → String
  | .text value => value
  | .other rendering _ => rendering

/-- An optional text as a JSON value. -/
def ofOption : Option String → JsonValue
  | some value => .text value
  | none => null

end JsonValue

/-- The characters that `str.isspace` accepts. -/
def isSpace (c : Char) : Bool :=
  let code := c.toNat
  (9 ≤ code ∧ code ≤ 13) ∨ (28 ≤ code ∧ code ≤ 32) ∨ (0x2000 ≤ code ∧ code ≤ 0x200a) ∨
    code ∈ [0x85, 0xa0, 0x1680, 0x2028, 0x2029, 0x202f, 0x205f, 0x3000]

/-- `not text.strip()`. -/
def isBlank (text : String) : Bool := text.toList.all isSpace

/-- `text.strip()`. -/
def strip (text : String) : String :=
  String.ofList ((text.toList.dropWhile isSpace).reverse.dropWhile isSpace).reverse

/-- Dropping at the end leaves the start as it is. -/
private theorem dropWhile_rdropWhile (p : Char → Bool) (text : List Char) :
    (List.rdropWhile p (text.dropWhile p)).dropWhile p = List.rdropWhile p (text.dropWhile p) := by
  obtain ⟨rest, hrest⟩ := List.rdropWhile_prefix p (text.dropWhile p)
  rw [List.dropWhile_eq_self_iff]
  intro hpos
  have hfirst : 0 < (text.dropWhile p).length := by
    rw [← hrest, List.length_append]
    omega
  have hhead := List.dropWhile_eq_self_iff.mp (List.dropWhile_idempotent p text) hfirst
  rwa [List.getElem_of_eq hrest.symm hfirst, List.getElem_append_left hpos] at hhead

/-- Stripping once is enough. -/
theorem strip_strip (text : String) : strip (strip text) = strip text := by
  have htext : (strip text).toList = List.rdropWhile isSpace (text.toList.dropWhile isSpace) :=
    String.toList_ofList
  change String.ofList (List.rdropWhile isSpace ((strip text).toList.dropWhile isSpace)) = _
  rw [htext, dropWhile_rdropWhile, List.rdropWhile_idempotent]
  rfl

/-- A text without white space is stripped. -/
theorem strip_eq_self {text : String} (h : ∀ c ∈ text.toList, isSpace c = false) :
    strip text = text := by
  have hdrop (characters : List Char) (hmem : ∀ c ∈ characters, c ∈ text.toList) :
      characters.dropWhile isSpace = characters := by
    rw [List.dropWhile_eq_self_iff]
    intro hpos hspace
    rw [h _ (hmem _ (List.getElem_mem hpos))] at hspace
    cases hspace
  unfold strip
  rw [hdrop _ fun _ => id, hdrop _ fun _ => List.mem_reverse.mp, List.reverse_reverse,
    String.ofList_toList]

/-- `str.lower` of one character. Beyond ASCII it follows the two letters from which an
ASCII letter results, the Kelvin sign and the dotted capital I. -/
def lowerChar (c : Char) : List Char :=
  if c.toNat = 0x212a then ['k']
  else if c.toNat = 0x130 then ['i', Char.ofNat 0x307]
  else [c.toLower]

/-- `text.lower()`, as far as ASCII letters result. -/
def lower (text : String) : String := String.ofList (text.toList.flatMap lowerChar)

/-- A text of characters that are lower case already. -/
theorem lower_eq_self {text : String} (h : ∀ c ∈ text.toList, lowerChar c = [c]) :
    lower text = text := by
  unfold lower
  rw [List.flatMap_congr h, List.flatMap_singleton', String.ofList_toList]

/-- The zeros of the decimal digits that the pattern `\d` matches. -/
def decimalZeros : List ℕ :=
  [0x30, 0x660, 0x6f0, 0x7c0, 0x966, 0x9e6, 0xa66, 0xae6, 0xb66, 0xbe6, 0xc66, 0xce6, 0xd66, 0xde6,
    0xe50, 0xed0, 0xf20, 0x1040, 0x1090, 0x17e0, 0x1810, 0x1946, 0x19d0, 0x1a80, 0x1a90, 0x1b50,
    0x1bb0, 0x1c40, 0x1c50, 0xa620, 0xa8d0, 0xa900, 0xa9d0, 0xa9f0, 0xaa50, 0xabf0, 0xff10, 0x104a0,
    0x10d30, 0x11066, 0x110f0, 0x11136, 0x111d0, 0x112f0, 0x11450, 0x114d0, 0x11650, 0x116c0,
    0x11730, 0x118e0, 0x11950, 0x11c50, 0x11d50, 0x11da0, 0x16a60, 0x16ac0, 0x16b50, 0x1d7ce,
    0x1d7d8, 0x1d7e2, 0x1d7ec, 0x1d7f6, 0x1e140, 0x1e2f0, 0x1e950, 0x1fbf0]

/-- The characters that the pattern `\d` matches. -/
def isDecimal (c : Char) : Bool :=
  decimalZeros.any fun first => first ≤ c.toNat ∧ c.toNat ≤ first + 9

/-- `value if value else None`: an empty text counts as missing. -/
def nonEmpty (text : Option String) : Option String := text.filter fun text => text ≠ ""

/-- Text that `compare_digest` takes. -/
def isAscii (text : String) : Bool := text.toList.all fun c => c.toNat < 128

/-- `compare_digest` of two texts. Text beyond ASCII makes it raise. -/
def compareDigest (expected given : String) : Option Bool :=
  if isAscii expected ∧ isAscii given then some (expected = given) else none

/-- ASCII texts are compared. -/
theorem compareDigest_of_ascii {expected given : String} (hexpected : isAscii expected = true)
    (hgiven : isAscii given = true) :
    compareDigest expected given = some (decide (expected = given)) :=
  if_pos ⟨hexpected, hgiven⟩

/-- Text beyond ASCII cannot be compared. -/
theorem compareDigest_of_not_ascii {expected given : String} (hgiven : isAscii given = false) :
    compareDigest expected given = none :=
  if_neg fun h => Bool.noConfusion (hgiven.symm.trans h.2)

/-- The digits of a UUID in hexadecimal, most significant first. -/
def hexDigits (id : UUID) : List Char :=
  (List.range 32).map fun k => Nat.digitChar (id.toNat / 16 ^ (31 - k) % 16)

/-- The digits determine the UUID. -/
theorem hexDigits_injective {a b : UUID} (h : hexDigits a = hexDigits b) : a = b := by
  have hdigit : ∀ k < 32, a.toNat / 16 ^ k % 16 = b.toNat / 16 ^ k % 16 := by
    intro k hk
    have hget := congrArg (fun digits : List Char => digits[31 - k]?) h
    simp only [hexDigits, List.getElem?_map, List.getElem?_range (show 31 - k < 32 by omega),
      Option.map_some, Option.some.injEq, show 31 - (31 - k) = k by omega] at hget
    have hlt (n : ℕ) : n % 16 < 16 := Nat.mod_lt _ (by omega)
    have hchar : ∀ m < 16, ∀ n < 16, Nat.digitChar m = Nat.digitChar n → m = n := by decide
    exact hchar _ (hlt _) _ (hlt _) hget
  have hmod : ∀ n ≤ 32, a.toNat % 16 ^ n = b.toNat % 16 ^ n := by
    intro n hn
    induction n with
    | zero => rw [Nat.pow_zero, Nat.mod_one, Nat.mod_one]
    | succ n ih => rw [Nat.mod_pow_succ, Nat.mod_pow_succ, ih (by omega), hdigit n (by omega)]
  have htotal := hmod 32 (Nat.le_refl _)
  have hbound (id : UUID) : id.toNat < 16 ^ 32 := id.isLt
  rw [Nat.mod_eq_of_lt (hbound a), Nat.mod_eq_of_lt (hbound b)] at htotal
  exact BitVec.eq_of_toNat_eq htotal

/-- `str(uuid)`. -/
def uuidText (id : UUID) : String :=
  let digits := hexDigits id
  let group := fun first count => String.ofList ((digits.drop first).take count)
  "-".intercalate [group 0 8, group 8 4, group 12 4, group 16 4, group 20 12]

/-- The characters of the text of a UUID. -/
theorem toList_uuidText (id : UUID) : (uuidText id).toList =
    (hexDigits id).take 8 ++ '-' :: (((hexDigits id).drop 8).take 4 ++
      '-' :: (((hexDigits id).drop 12).take 4 ++ '-' :: (((hexDigits id).drop 16).take 4 ++
        '-' :: ((hexDigits id).drop 20).take 12))) := by
  simp [uuidText]

/-- The groups of a UUID make up its digits. -/
theorem digits_eq_groups {digits : List Char} (h : digits.length = 32) :
    digits = digits.take 8 ++ (digits.drop 8).take 4 ++ (digits.drop 12).take 4 ++
      (digits.drop 16).take 4 ++ (digits.drop 20).take 12 := by
  have hrest : (digits.drop 20).take 12 = digits.drop 20 :=
    List.take_of_length_le (by rw [List.length_drop, h])
  have hdrop (k n : ℕ) : (digits.drop k).take n ++ digits.drop (k + n) = digits.drop k := by
    rw [← List.drop_drop, List.take_append_drop]
  rw [hrest, List.append_assoc, List.append_assoc, List.append_assoc, hdrop 16 4, hdrop 12 4,
    hdrop 8 4, List.take_append_drop]

/-- The text of a UUID determines it. -/
theorem uuidText_injective : Function.Injective uuidText := by
  intro a b h
  have hlist := congrArg String.toList h
  rw [toList_uuidText, toList_uuidText] at hlist
  have hlength (id : UUID) : (hexDigits id).length = 32 := by
    simp only [hexDigits, List.length_map, List.length_range]
  have hgroup (k n : ℕ) :
      (((hexDigits a).drop k).take n).length = (((hexDigits b).drop k).take n).length := by
    simp only [List.length_take, List.length_drop, hlength]
  obtain ⟨h0, hlist⟩ := List.append_inj hlist (hgroup 0 8)
  obtain ⟨h1, hlist⟩ := List.append_inj (List.cons.inj hlist).2 (hgroup 8 4)
  obtain ⟨h2, hlist⟩ := List.append_inj (List.cons.inj hlist).2 (hgroup 12 4)
  obtain ⟨h3, hlist⟩ := List.append_inj (List.cons.inj hlist).2 (hgroup 16 4)
  have h4 := (List.cons.inj hlist).2
  refine hexDigits_injective ?_
  rw [digits_eq_groups (hlength a), digits_eq_groups (hlength b), h0, h1, h2, h3, h4]

/-- The text of a UUID is not blank. -/
theorem isBlank_uuidText (id : UUID) : isBlank (uuidText id) = false := by
  rw [isBlank, List.all_eq_false]
  refine ⟨'-', ?_, by decide⟩
  rw [toList_uuidText]
  exact List.mem_append_right _ List.mem_cons_self

/-- The text of a UUID is not empty. -/
theorem nonEmpty_uuidText (id : UUID) : nonEmpty (some (uuidText id)) = some (uuidText id) := by
  have hne : uuidText id ≠ "" := fun h => by
    have hlist := congrArg String.toList h
    rw [toList_uuidText] at hlist
    simp at hlist
  exact Option.filter_some_pos (decide_eq_true hne)

end Linkapro
