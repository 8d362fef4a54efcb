import Mathlib.Data.List.DropRight
import Mathlib.Data.Nat.Notation
import Mathlib.Tactic.Common

/-!
# Base64 in texts

The URL-safe Base64 text of bytes, which often travels without its padding, and the
lenient reader, which skips what is not in the alphabet. The padding follows from the
length of the text, so bytes are read back from a text that has lost it. The standard
alphabet has two other symbols, and its strict reader skips nothing.
-/

namespace Lib.Base64

/-- The digits of the URL-safe alphabet. -/
def alphabet : List Char :=
  ['A', 'B', 'C', 'D', 'E', 'F', 'G', 'H', 'I', 'J', 'K', 'L', 'M', 'N', 'O', 'P',
   'Q', 'R', 'S', 'T', 'U', 'V', 'W', 'X', 'Y', 'Z', 'a', 'b', 'c', 'd', 'e', 'f',
   'g', 'h', 'i', 'j', 'k', 'l', 'm', 'n', 'o', 'p', 'q', 'r', 's', 't', 'u', 'v',
   'w', 'x', 'y', 'z', '0', '1', '2', '3', '4', '5', '6', '7', '8', '9', '-', '_']

/-- The character of a digit. -/
def symbol (digit : ℕ) : Char := alphabet.getD (digit % 64) 'A'

/-- The text of bytes without its padding. -/
def body : List ℕ → List Char
  | [] => []
  | [a] => [symbol (a / 4), symbol (a % 4 * 16)]
  | [a, b] => [symbol (a / 4), symbol (a % 4 * 16 + b / 16), symbol (b % 16 * 4)]
  | a :: b :: c :: bytes =>
    symbol (a / 4) :: symbol (a % 4 * 16 + b / 16) :: symbol (b % 16 * 4 + c / 64) ::
      symbol (c % 64) :: body bytes

/-- The padding of a text of some length. -/
def padding (length : ℕ) : List Char := List.replicate ((4 - length % 4) % 4) '='

/-- The text of bytes. -/
def encode (bytes : List ℕ) : List Char := body bytes ++ padding (body bytes).length

/-- The digit of a character. The reader knows the standard symbols as well. -/
def digitOf (c : Char) : Option ℕ :=
  if c = '+' then some 62
  else if c = '/' then some 63
  else if alphabet.idxOf c < 64 then some (alphabet.idxOf c)
  else none

/-- Read the rest of a text: the number of digits of the current group, the bits left over
from the last digit and the padding signs after it. -/
def decodeFrom (digits left pads : ℕ) : List Char → Option (List ℕ)
  | [] => if digits = 0 then some [] else none
  | c :: text =>
    if c = '=' then
      if 2 ≤ digits ∧ 4 ≤ digits + (pads + 1) then some []
      else decodeFrom digits left (if 2 ≤ digits then pads + 1 else pads) text
    else match digitOf c with
      | none => decodeFrom digits left pads text
      | some digit =>
        match digits with
        | 0 => decodeFrom 1 digit 0 text
        | 1 => (decodeFrom 2 (digit % 16) 0 text).map fun bytes => (left * 4 + digit / 16) :: bytes
        | 2 => (decodeFrom 3 (digit % 4) 0 text).map fun bytes => (left * 16 + digit / 4) :: bytes
        | _ => (decodeFrom 0 0 0 text).map fun bytes => (left * 64 + digit) :: bytes

/-- Read a text. -/
def decode (text : List Char) : Option (List ℕ) := decodeFrom 0 0 0 text

theorem symbol_mem (digit : ℕ) : symbol digit ∈ alphabet := by
  have hlt : digit % 64 < alphabet.length := Nat.mod_lt _ (by decide)
  have hsymbol : symbol digit = alphabet[digit % 64] := by simp [symbol, hlt]
  rw [hsymbol]
  exact List.getElem_mem hlt

/-- A text without padding is one of the alphabet. -/
theorem mem_alphabet_of_mem_body {bytes : List ℕ} {c : Char} (h : c ∈ body bytes) :
    c ∈ alphabet := by
  induction bytes using body.induct with
  | case1 => cases h
  | case2 a =>
    simp only [body, List.mem_cons, List.not_mem_nil, or_false] at h
    rcases h with rfl | rfl <;> exact symbol_mem _
  | case3 a b =>
    simp only [body, List.mem_cons, List.not_mem_nil, or_false] at h
    rcases h with rfl | rfl | rfl <;> exact symbol_mem _
  | case4 a b c' bytes ih =>
    simp only [body, List.mem_cons] at h
    rcases h with rfl | rfl | rfl | rfl | h
    · exact symbol_mem _
    · exact symbol_mem _
    · exact symbol_mem _
    · exact symbol_mem _
    · exact ih h

/-- Stripping the padding signs leaves the text without padding. -/
theorem rdropWhile_encode {bytes : List ℕ} :
    (encode bytes).rdropWhile (· = '=') = body bytes := by
  have hbody : (body bytes).rdropWhile (· = '=') = body bytes := by
    rw [List.rdropWhile_eq_self_iff]
    intro hne heq
    have hmem := mem_alphabet_of_mem_body (List.getLast_mem hne)
    rw [decide_eq_true_eq] at heq
    rw [heq] at hmem
    exact absurd hmem (by decide)
  unfold encode padding
  generalize (4 - (body bytes).length % 4) % 4 = count
  induction count with
  | zero => rwa [List.replicate_zero, List.append_nil]
  | succ count ih =>
    rw [List.replicate_succ', ← List.append_assoc, List.rdropWhile_concat_pos _ _ _ (by decide), ih]

/-- The digit of a symbol. -/
theorem digitOf_symbol {digit : ℕ} (h : digit < 64) : digitOf (symbol digit) = some digit := by
  have hall : ∀ digit : Fin 64, digitOf (symbol digit) = some digit.val := by decide +kernel
  exact hall ⟨digit, h⟩

theorem symbol_ne_pad (digit : ℕ) : symbol digit ≠ '=' := by
  intro heq
  exact absurd (heq ▸ symbol_mem digit) (by decide)

section Digits

variable {left pads digit : ℕ} {text : List Char}

/-- One digit is read. -/
theorem decodeFrom_symbol {digits : ℕ} (h : digit < 64) :
    decodeFrom digits left pads (symbol digit :: text) =
      match digits with
      | 0 => decodeFrom 1 digit 0 text
      | 1 => (decodeFrom 2 (digit % 16) 0 text).map fun bytes => (left * 4 + digit / 16) :: bytes
      | 2 => (decodeFrom 3 (digit % 4) 0 text).map fun bytes => (left * 16 + digit / 4) :: bytes
      | _ => (decodeFrom 0 0 0 text).map fun bytes => (left * 64 + digit) :: bytes := by
  rw [decodeFrom, if_neg (symbol_ne_pad digit), digitOf_symbol h]

theorem decodeFrom_first (h : digit < 64) :
    decodeFrom 0 left pads (symbol digit :: text) = decodeFrom 1 digit 0 text :=
  decodeFrom_symbol h

theorem decodeFrom_second (h : digit < 64) :
    decodeFrom 1 left pads (symbol digit :: text) =
      (decodeFrom 2 (digit % 16) 0 text).map fun bytes => (left * 4 + digit / 16) :: bytes :=
  decodeFrom_symbol h

theorem decodeFrom_third (h : digit < 64) :
    decodeFrom 2 left pads (symbol digit :: text) =
      (decodeFrom 3 (digit % 4) 0 text).map fun bytes => (left * 16 + digit / 4) :: bytes :=
  decodeFrom_symbol h

theorem decodeFrom_fourth (h : digit < 64) :
    decodeFrom 3 left pads (symbol digit :: text) =
      (decodeFrom 0 0 0 text).map fun bytes => (left * 64 + digit) :: bytes :=
  decodeFrom_symbol h

end Digits

/-- The length of a text without padding depends on the number of bytes. -/
theorem padding_length_body_cons {a b c : ℕ} {bytes : List ℕ} :
    padding (body (a :: b :: c :: bytes)).length = padding (body bytes).length := by
  have hlength : (body (a :: b :: c :: bytes)).length = (body bytes).length + 4 := rfl
  rw [hlength]
  unfold padding
  rw [Nat.add_mod_right]

/-- Bytes are read back from their text. -/
theorem decode_encode {bytes : List ℕ} (h : ∀ byte ∈ bytes, byte < 256) :
    decode (encode bytes) = some bytes := by
  unfold decode encode
  induction bytes using body.induct with
  | case1 => simp [body, padding, decodeFrom]
  | case2 a =>
    have ha := h a List.mem_cons_self
    have hfirst : a / 4 * 4 + a % 4 * 16 / 16 = a := by omega
    have hend : decodeFrom 2 (a % 4 * 16 % 16) 0 ['=', '='] = some [] := by simp [decodeFrom]
    change decodeFrom 0 0 0 (symbol (a / 4) :: symbol (a % 4 * 16) :: ['=', '=']) = some [a]
    rw [decodeFrom_first (by omega), decodeFrom_second (by omega), hend, hfirst]
    rfl
  | case3 a b =>
    have ha := h a List.mem_cons_self
    have hb := h b (List.mem_cons_of_mem _ List.mem_cons_self)
    have hfirst : a / 4 * 4 + (a % 4 * 16 + b / 16) / 16 = a := by omega
    have hsecond : (a % 4 * 16 + b / 16) % 16 * 16 + b % 16 * 4 / 4 = b := by omega
    have hend : decodeFrom 3 (b % 16 * 4 % 4) 0 ['='] = some [] := by simp [decodeFrom]
    change decodeFrom 0 0 0 (symbol (a / 4) :: symbol (a % 4 * 16 + b / 16) ::
      symbol (b % 16 * 4) :: ['=']) = some [a, b]
    rw [decodeFrom_first (by omega), decodeFrom_second (by omega), decodeFrom_third (by omega),
      hend, hfirst, hsecond]
    rfl
  | case4 a b c bytes ih =>
    have ha := h a List.mem_cons_self
    have hb := h b (by simp)
    have hc := h c (by simp)
    have hrest := ih fun byte hmem => h byte (by simp [hmem])
    have hfirst : a / 4 * 4 + (a % 4 * 16 + b / 16) / 16 = a := by omega
    have hsecond : (a % 4 * 16 + b / 16) % 16 * 16 + (b % 16 * 4 + c / 64) / 4 = b := by omega
    have hthird : (b % 16 * 4 + c / 64) % 4 * 64 + c % 64 = c := by omega
    rw [padding_length_body_cons]
    simp only [body, List.cons_append]
    rw [decodeFrom_first (by omega), decodeFrom_second (by omega), decodeFrom_third (by omega),
      decodeFrom_fourth (by omega), hrest, hfirst, hsecond, hthird]
    rfl

/-! ### The standard alphabet -/

/-- The symbol of the standard alphabet for one of the URL-safe alphabet. -/
def toStandard (c : Char) : Char := if c = '-' then '+' else if c = '_' then '/' else c

/-- The text of bytes in the standard alphabet. -/
def encodeStandard (bytes : List ℕ) : List Char := (encode bytes).map toStandard

/-- Read a text in the standard alphabet. Every other character is skipped. -/
def decodeStandard (text : List Char) : Option (List ℕ) :=
  decode (text.filter fun c => c ≠ '-' ∧ c ≠ '_')

/-- The symbols of the standard alphabet. -/
def isStandard (c : Char) : Bool := (digitOf c).isSome ∧ c ≠ '-' ∧ c ≠ '_'

/-- What the strict reader takes: symbols and then padding signs, no more of them than the
last group has room for. -/
def isStrict (text : List Char) : Bool :=
  let digits := text.takeWhile (· ≠ '=')
  let pads := text.dropWhile (· ≠ '=')
  digits.all isStandard ∧ pads.all (· = '=') ∧ (digits = [] → pads = []) ∧
    (2 ≤ digits.length % 4 → digits.length % 4 + pads.length ≤ 4)

/-- Read a text in the standard alphabet and nothing else. -/
def decodeStrict (text : List Char) : Option (List ℕ) :=
  if isStrict text then decodeStandard text else none

section Standard

variable {c : Char} {bytes : List ℕ}

theorem toStandard_eq_pad_iff : toStandard c = '=' ↔ c = '=' := by
  unfold toStandard
  split
  · next h => simp [h]
  · split
    · next h => simp [h]
    · rfl

theorem digitOf_toStandard : digitOf (toStandard c) = digitOf c := by
  unfold toStandard
  split
  · next h =>
    subst h
    decide
  · split
    · next h =>
      subst h
      decide
    · rfl

theorem toStandard_plain : toStandard c ≠ '-' ∧ toStandard c ≠ '_' := by
  unfold toStandard
  split
  · decide
  · next hdash =>
    split
    · decide
    · next hunderscore => exact ⟨hdash, hunderscore⟩

/-- Both alphabets are read alike. -/
theorem decodeFrom_map_toStandard (digits left pads : ℕ) (text : List Char) :
    decodeFrom digits left pads (text.map toStandard) = decodeFrom digits left pads text := by
  induction text generalizing digits left pads with
  | nil => rfl
  | cons c text ih => simp only [List.map_cons, decodeFrom, toStandard_eq_pad_iff,
      digitOf_toStandard, ih]

/-- Bytes are read back from their text. -/
theorem decodeStandard_encodeStandard (h : ∀ byte ∈ bytes, byte < 256) :
    decodeStandard (encodeStandard bytes) = some bytes := by
  have hfilter : (encodeStandard bytes).filter (fun c => c ≠ '-' ∧ c ≠ '_') =
      encodeStandard bytes := by
    rw [List.filter_eq_self]
    intro c hc
    obtain ⟨c', _, rfl⟩ := List.mem_map.mp hc
    exact decide_eq_true toStandard_plain
  unfold decodeStandard
  rw [hfilter]
  unfold encodeStandard decode
  rw [decodeFrom_map_toStandard]
  exact decode_encode h

/-- The symbols of a text without padding belong to the standard alphabet. -/
theorem isStandard_of_mem_body (h : c ∈ (body bytes).map toStandard) :
    isStandard c = true ∧ c ≠ '=' := by
  have hall : alphabet.all (fun c => isStandard (toStandard c) ∧ toStandard c ≠ '=') = true := by
    decide +kernel
  obtain ⟨c', hc', rfl⟩ := List.mem_map.mp h
  exact of_decide_eq_true (List.all_eq_true.mp hall c' (mem_alphabet_of_mem_body hc'))

/-- A text of bytes suits the strict reader. -/
theorem isStrict_encodeStandard : isStrict (encodeStandard bytes) = true := by
  have hpads : (padding (body bytes).length).map toStandard = padding (body bytes).length := by
    simp [padding, toStandard]
  have hdigits : ∀ c ∈ (body bytes).map toStandard, decide (c ≠ '=') = true := by
    intro c hc
    exact decide_eq_true (isStandard_of_mem_body hc).2
  have htake : (padding (body bytes).length).takeWhile (· ≠ '=') = [] := by
    simp [padding]
  have hdrop : (padding (body bytes).length).dropWhile (· ≠ '=') = padding (body bytes).length := by
    simp [padding]
  have hlength : (padding (body bytes).length).length = (4 - (body bytes).length % 4) % 4 := by
    simp [padding]
  have hempty : body bytes = [] → padding (body bytes).length = [] := by
    intro h
    rw [h]
    rfl
  unfold isStrict encodeStandard encode
  rw [List.map_append, hpads, List.takeWhile_append_of_pos hdigits,
    List.dropWhile_append_of_pos hdigits, htake, hdrop, List.append_nil, decide_eq_true_eq,
    List.all_eq_true, List.all_eq_true, List.length_map, hlength, List.map_eq_nil_iff]
  refine ⟨fun c hc => (isStandard_of_mem_body hc).1, fun c hc => ?_, hempty, by omega⟩
  exact decide_eq_true (List.eq_of_mem_replicate hc)

/-- Bytes are read back from their text by the strict reader. -/
theorem decodeStrict_encodeStandard (h : ∀ byte ∈ bytes, byte < 256) :
    decodeStrict (encodeStandard bytes) = some bytes := by
  unfold decodeStrict
  rw [if_pos isStrict_encodeStandard]
  exact decodeStandard_encodeStandard h

end Standard

end Lib.Base64
