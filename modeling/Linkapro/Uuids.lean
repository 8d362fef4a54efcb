import Linkapro.Lib.Digits
import Linkapro.Shared

/-!
# The texts of UUIDs

`uuid.UUID` of a text, as Python reads it: without prefixes, braces and hyphens the text has 32
characters, which `int` reads in base 16. The text of a UUID is read back.
-/

namespace Linkapro

open Lib

/-- The value of a hexadecimal digit. -/
def hexValue (c : Char) : Option ℕ :=
  match decimalZeros.find? fun first => first ≤ c.toNat ∧ c.toNat ≤ first + 9 with
  | some first => some (c.toNat - first)
  | none =>
    if 'a'.toNat ≤ c.toNat ∧ c.toNat ≤ 'f'.toNat then some (c.toNat - 'a'.toNat + 10)
    else if 'A'.toNat ≤ c.toNat ∧ c.toNat ≤ 'F'.toNat then some (c.toNat - 'A'.toNat + 10)
    else none

/-- The value of hexadecimal digits with single underscores between them. -/
def hexDigitsValue : (afterDigit : Bool) → ℕ → List Char → Option ℕ
  | afterDigit, value, [] => if afterDigit then some value else none
  | afterDigit, value, c :: text =>
    if c = '_' then if afterDigit then hexDigitsValue false value text else none
    else (hexValue c).bind fun digit => hexDigitsValue true (16 * value + digit) text

/-- `int(text, 16)`. -/
def pythonHex (text : String) : Option ℤ :=
  let signed := (strip text).toList
  let (sign, digits) : ℤ × List Char :=
    match signed with
    | '-' :: digits => (-1, digits)
    | '+' :: digits => (1, digits)
    | digits => (1, digits)
  let value :=
    match digits with
    | '0' :: 'x' :: c :: digits | '0' :: 'X' :: c :: digits => hexDigitsValue true 0 (c :: digits)
    | digits => hexDigitsValue false 0 digits
  value.map fun value : ℕ => sign * value

/-- `text.replace(pattern, "")`. The number is that of the characters of a match that are still to
be left out. -/
def removeMatches (pattern : List Char) : ℕ → List Char → List Char
  | _, [] => []
  | skip + 1, _ :: text => removeMatches pattern skip text
  | 0, c :: text =>
    if pattern.isPrefixOf (c :: text) then removeMatches pattern (pattern.length - 1) text
    else c :: removeMatches pattern 0 text

/-- The characters of a text that `uuid.UUID` reads. -/
def uuidDigits (text : String) : List Char :=
  let text := removeMatches ['u', 'r', 'n', ':'] 0 text.toList
  let text := removeMatches ['u', 'u', 'i', 'd', ':'] 0 text
  let brace := fun c => c = '\x7b' ∨ c = '\x7d'
  ((text.dropWhile brace).rdropWhile brace).filter (· ≠ '-')

/-- `uuid.UUID(text)`, with `none` for `ValueError`. -/
def uuidOf (text : String) : Option UUID :=
  let digits := uuidDigits text
  if digits.length ≠ 32 then none
  else (pythonHex (String.ofList digits)).map (BitVec.ofInt 128)

example : uuidOf "urn:uuid:00000000-0000-0000-0000-0000000000fF" = some 255 := by decide +kernel
example : uuidOf "00000000-0000-0000-0000-00000000000g" = none := by decide +kernel

section Digits

variable {digits : List ℕ} {n : ℕ}

/-- The value of hexadecimal digits. -/
theorem hexDigitsValue_map (h : ∀ digit ∈ digits, digit < 16) :
    hexDigitsValue true n (digits.map Nat.digitChar) =
      some (digits.foldl (fun value digit => 16 * value + digit) n) := by
  induction digits generalizing n with
  | nil => rfl
  | cons digit digits ih =>
    have hdigit : ∀ d < 16, Nat.digitChar d ≠ '_' ∧ hexValue (Nat.digitChar d) = some d := by
      decide
    obtain ⟨hne, hvalue⟩ := hdigit digit (h digit List.mem_cons_self)
    rw [List.map_cons, hexDigitsValue, if_neg hne, hvalue, Option.bind_some, List.foldl_cons]
    exact ih fun d hd => h d (List.mem_cons_of_mem _ hd)

/-- The digits of a number in a base, by their places. -/
theorem map_range_eq_padded (base width n : ℕ) :
    (List.range width).map (fun k => n / base ^ (width - 1 - k) % base) = padded base width n := by
  induction width generalizing n with
  | zero => rfl
  | succ width ih =>
    have hfirst : (List.range width).map (fun k => n / base ^ (width - k) % base) =
        (List.range width).map fun k => n / base / base ^ (width - 1 - k) % base := by
      refine List.map_congr_left fun k hk => ?_
      have hplace : width - k = 1 + (width - 1 - k) := by
        have hlt := List.mem_range.mp hk
        omega
      rw [hplace, Nat.pow_add, Nat.pow_one, Nat.div_div_eq_div_mul]
    rw [List.range_succ, List.map_append, Nat.add_sub_cancel, hfirst, ih (n / base), padded]
    simp

/-- The digits of a UUID, as characters. -/
theorem hexDigits_eq (id : UUID) : hexDigits id = (padded 16 32 id.toNat).map Nat.digitChar := by
  rw [← map_range_eq_padded, List.map_map]
  rfl

theorem length_hexDigits (id : UUID) : (hexDigits id).length = 32 := by
  rw [hexDigits_eq, List.length_map, length_padded]

/-- A character of a UUID. -/
theorem mem_hexDigits {id : UUID} {c : Char} (h : c ∈ hexDigits id) :
    ∃ digit < 16, c = Nat.digitChar digit := by
  rw [hexDigits_eq] at h
  obtain ⟨digit, hmem, rfl⟩ := List.mem_map.mp h
  exact ⟨digit, lt_of_mem_padded (by decide) hmem, rfl⟩

/-- The digits of a UUID are read back. -/
theorem hexDigitsValue_hexDigits (id : UUID) :
    hexDigitsValue true 0 (hexDigits id) = some id.toNat := by
  have hlt : id.toNat < 16 ^ 32 := id.isLt
  have hdigits (digit : ℕ) (hmem : digit ∈ padded 16 32 id.toNat) : digit < 16 :=
    lt_of_mem_padded (by decide) hmem
  have hvalue := ofDigits_padded hlt
  rw [ofDigits] at hvalue
  rw [hexDigits_eq, hexDigitsValue_map hdigits, hvalue]

end Digits

/-- Nothing is left out of a text that misses a character of the pattern. -/
theorem removeMatches_eq_self {pattern text : List Char} {c : Char} (hpattern : c ∈ pattern)
    (htext : c ∉ text) : removeMatches pattern 0 text = text := by
  induction text with
  | nil => rfl
  | cons first text ih =>
    have hprefix : ¬ pattern.isPrefixOf (first :: text) = true := fun h =>
      htext ((List.isPrefixOf_iff_prefix.mp h).subset hpattern)
    rw [removeMatches, if_neg hprefix, ih fun h => htext (List.mem_cons_of_mem _ h)]

/-- A character of the text of a UUID. -/
theorem mem_uuidText {id : UUID} {c : Char} (h : c ∈ (uuidText id).toList) :
    c = '-' ∨ c ∈ hexDigits id := by
  have hpart (k n : ℕ) (hmem : c ∈ ((hexDigits id).drop k).take n) : c ∈ hexDigits id :=
    List.mem_of_mem_drop (List.mem_of_mem_take hmem)
  rw [toList_uuidText] at h
  simp only [List.mem_append, List.mem_cons] at h
  rcases h with h | rfl | h | rfl | h | rfl | h | rfl | h
  · exact .inr (hpart 0 8 h)
  · exact .inl rfl
  · exact .inr (hpart 8 4 h)
  · exact .inl rfl
  · exact .inr (hpart 12 4 h)
  · exact .inl rfl
  · exact .inr (hpart 16 4 h)
  · exact .inl rfl
  · exact .inr (hpart 20 12 h)

/-- Without its hyphens, the text of a UUID is its digits. -/
theorem uuidDigits_uuidText (id : UUID) : uuidDigits (uuidText id) = hexDigits id := by
  have hchars (c : Char) (h : c ∈ (uuidText id).toList) :
      c ≠ ':' ∧ c ≠ '\x7b' ∧ c ≠ '\x7d' := by
    have hdigit : ∀ d < 16, Nat.digitChar d ≠ ':' ∧ Nat.digitChar d ≠ '\x7b' ∧
        Nat.digitChar d ≠ '\x7d' := by decide
    rcases mem_uuidText h with rfl | h
    · decide
    · obtain ⟨digit, hlt, rfl⟩ := mem_hexDigits h
      exact hdigit digit hlt
  have hcolon : ':' ∉ (uuidText id).toList := fun h => (hchars _ h).1 rfl
  have hdrop (text : List Char) (hmem : ∀ c ∈ text, c ∈ (uuidText id).toList) :
      text.dropWhile (fun c => decide (c = '\x7b' ∨ c = '\x7d')) = text := by
    rw [List.dropWhile_eq_self_iff]
    intro hpos hbrace
    have hfirst := hchars _ (hmem _ (List.getElem_mem hpos))
    rcases of_decide_eq_true hbrace with heq | heq
    · exact hfirst.2.1 heq
    · exact hfirst.2.2 heq
  have hkept (text : List Char) (hmem : ∀ c ∈ text, c ∈ hexDigits id) :
      text.filter (fun c => decide (c ≠ '-')) = text := by
    rw [List.filter_eq_self]
    intro c hc
    have hdigit : ∀ d < 16, Nat.digitChar d ≠ '-' := by decide
    obtain ⟨digit, hlt, rfl⟩ := mem_hexDigits (hmem c hc)
    exact decide_eq_true (hdigit digit hlt)
  have hpart (k n : ℕ) : (((hexDigits id).drop k).take n).filter (fun c => decide (c ≠ '-')) =
      ((hexDigits id).drop k).take n :=
    hkept _ fun c h => List.mem_of_mem_drop (List.mem_of_mem_take h)
  unfold uuidDigits
  dsimp only
  rw [removeMatches_eq_self (c := ':') (by decide) hcolon,
    removeMatches_eq_self (c := ':') (by decide) hcolon, hdrop _ fun _ h => h, List.rdropWhile,
    hdrop _ fun _ => List.mem_reverse.mp, List.reverse_reverse, toList_uuidText]
  have hhyphen (text : List Char) : ('-' :: text).filter (fun c => decide (c ≠ '-')) =
      text.filter fun c => decide (c ≠ '-') :=
    List.filter_cons_of_neg (by decide)
  have hstart : ((hexDigits id).take 8).filter (fun c => decide (c ≠ '-')) =
      (hexDigits id).take 8 :=
    hkept _ fun c => List.mem_of_mem_take
  simp only [List.filter_append, hhyphen, hpart, hstart]
  rw [← List.append_assoc, ← List.append_assoc, ← List.append_assoc]
  exact (digits_eq_groups (length_hexDigits id)).symm

/-- The digits of a UUID are a number in base 16. -/
theorem pythonHex_hexDigits (id : UUID) :
    pythonHex (String.ofList (hexDigits id)) = some (id.toNat : ℤ) := by
  have hchars (c : Char) (h : c ∈ hexDigits id) :
      isSpace c = false ∧ c ∉ ['-', '+', 'x', 'X', '_'] := by
    have hdigit : ∀ d < 16, isSpace (Nat.digitChar d) = false ∧
        Nat.digitChar d ∉ ['-', '+', 'x', 'X', '_'] := by decide
    obtain ⟨digit, hlt, rfl⟩ := mem_hexDigits h
    exact hdigit digit hlt
  have hstrip : strip (String.ofList (hexDigits id)) = String.ofList (hexDigits id) :=
    strip_eq_self fun c h => (hchars c (by rwa [String.toList_ofList] at h)).1
  have hlength := length_hexDigits id
  have hvalue := hexDigitsValue_hexDigits id
  unfold pythonHex
  rw [hstrip, String.toList_ofList]
  generalize hexDigits id = digits at hchars hlength hvalue
  obtain ⟨first, second, rest, rfl⟩ : ∃ first second rest, digits = first :: second :: rest := by
    match digits, hlength with
    | first :: second :: rest, _ => exact ⟨first, second, rest, rfl⟩
  have hfirst := (hchars first List.mem_cons_self).2
  have hsecond := (hchars second (List.mem_cons_of_mem _ List.mem_cons_self)).2
  have hunsigned : hexDigitsValue false 0 (first :: second :: rest) = some id.toNat := by
    rw [hexDigitsValue] at hvalue ⊢
    have hdigit : ¬ first = '_' := fun h => hfirst (by simp [h])
    rwa [if_neg hdigit] at hvalue ⊢
  dsimp only
  split
  · next heq => exact absurd (by simp [(List.cons.inj heq).1]) hfirst
  · next heq => exact absurd (by simp [(List.cons.inj heq).1]) hfirst
  · dsimp only
    split
    · next heq => exact absurd (by simp [(List.cons.inj (List.cons.inj heq).2).1]) hsecond
    · next heq => exact absurd (by simp [(List.cons.inj (List.cons.inj heq).2).1]) hsecond
    · rw [hunsigned, Option.map_some, Int.one_mul]

/-- The text of a UUID is read back. -/
theorem uuidOf_uuidText (id : UUID) : uuidOf (uuidText id) = some id := by
  have hlength : ¬ (uuidDigits (uuidText id)).length ≠ 32 := by
    rw [uuidDigits_uuidText, length_hexDigits]
    exact not_not_intro rfl
  unfold uuidOf
  dsimp only
  rw [if_neg hlength, uuidDigits_uuidText, pythonHex_hexDigits, Option.map_some,
    BitVec.ofInt_natCast, BitVec.ofNat_toNat, BitVec.setWidth_eq]

end Linkapro
