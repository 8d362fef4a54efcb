import Mathlib.Data.List.Lemmas
import Mathlib.Data.Nat.Notation
import Mathlib.Tactic.Common

/-!
# JSON texts

A reader of JSON texts that refuses control characters in strings and keeps the escapes of
single surrogates, and a writer of flat dictionaries of printable texts. What the writer
writes is read back. A string is read as its code points.
-/

namespace Lib.JsonText

/-- A value that a text stands for. A number is kept as it is written. -/
inductive Value : Type where
  | null
  | bool (value : Bool)
  | number (literal : List Char)
  | text (points : List ℕ)
  | list (items : List Value)
  | dict (fields : List (List ℕ × Value))

/-- The code points of a text. -/
def points (text : List Char) : List ℕ := text.map Char.toNat

/-! ### Reading -/

def isSpace (c : Char) : Bool := c = ' ' ∨ c = '\t' ∨ c = '\n' ∨ c = '\r'

/-- Skip white space. -/
def skip (text : List Char) : List Char := text.dropWhile isSpace

/-- The value of a hexadecimal digit. -/
def hexValue (c : Char) : Option ℕ :=
  if '0' ≤ c ∧ c ≤ '9' then some (c.toNat - 48)
  else if 'a' ≤ c ∧ c ≤ 'f' then some (c.toNat - 87)
  else if 'A' ≤ c ∧ c ≤ 'F' then some (c.toNat - 55)
  else none

/-- The character that a short escape stands for. -/
def escaped (c : Char) : Option ℕ :=
  if c = '"' ∨ c = '\\' ∨ c = '/' then some c.toNat
  else if c = 'b' then some 8
  else if c = 'f' then some 12
  else if c = 'n' then some 10
  else if c = 'r' then some 13
  else if c = 't' then some 9
  else none

/-- The unit of an escape whose backslash has been read, and how many characters it takes. -/
def unescape : List Char → Option (ℕ × ℕ)
  | 'u' :: c₁ :: c₂ :: c₃ :: c₄ :: _ => do
    let high := 16 * (← hexValue c₁) + (← hexValue c₂)
    some (256 * high + 16 * (← hexValue c₃) + (← hexValue c₄), 5)
  | c :: _ => do
    some (← escaped c, 1)
  | [] => none

/-- Skip some characters and read the units of a string up to its end. -/
def scanUnits : ℕ → List Char → Option (List ℕ × List Char)
  | _, [] => none
  | skipped + 1, _ :: rest => scanUnits skipped rest
  | 0, c :: rest =>
    if c = '"' then some ([], rest)
    else if c = '\\' then do
      let (unit, length) ← unescape rest
      let (units, rest) ← scanUnits length rest
      some (unit :: units, rest)
    else if c.toNat < 32 then none
    else do
      let (units, rest) ← scanUnits 0 rest
      some (c.toNat :: units, rest)

/-- Join the pairs of surrogates. -/
def joinSurrogates : List ℕ → List ℕ
  | [] => []
  | [unit] => [unit]
  | high :: low :: units =>
    if 0xd800 ≤ high ∧ high < 0xdc00 ∧ 0xdc00 ≤ low ∧ low < 0xe000 then
      (0x10000 + 1024 * (high - 0xd800) + (low - 0xdc00)) :: joinSurrogates units
    else high :: joinSurrogates (low :: units)

/-- Read a string whose opening quote has been read. -/
def scanString (text : List Char) : Option (List ℕ × List Char) :=
  (scanUnits 0 text).map fun (units, rest) => (joinSurrogates units, rest)

/-- Read as many digits as there are. -/
def scanDigits (text : List Char) : List Char × List Char := text.span Char.isDigit

/-- Read the fraction of a number, if it has one. -/
def scanFraction : List Char → List Char × List Char
  | '.' :: rest =>
    match scanDigits rest with
    | ([], _) => ([], '.' :: rest)
    | (digits, rest) => ('.' :: digits, rest)
  | text => ([], text)

/-- Read the exponent of a number, if it has one. -/
def scanExponent : List Char → List Char × List Char
  | [] => ([], [])
  | c :: rest =>
    if c = 'e' ∨ c = 'E' then
      let (sign, unsigned) :=
        match rest with
        | '+' :: unsigned => (['+'], unsigned)
        | '-' :: unsigned => (['-'], unsigned)
        | unsigned => ([], unsigned)
      match scanDigits unsigned with
      | ([], _) => ([], c :: rest)
      | (digits, rest) => (c :: sign ++ digits, rest)
    else ([], c :: rest)

/-- Read the digits before the point. A zero stands alone. -/
def scanWhole : List Char → Option (List Char × List Char)
  | '0' :: rest => some (['0'], rest)
  | text =>
    match scanDigits text with
    | ([], _) => none
    | whole => some whole

/-- Read a number. An integer has at most 4300 digits. -/
def scanNumber (text : List Char) : Option (Value × List Char) := do
  let (sign, unsigned) :=
    match text with
    | '-' :: unsigned => (['-'], unsigned)
    | unsigned => ([], unsigned)
  let (whole, rest) ← scanWhole unsigned
  let (fraction, rest) := scanFraction rest
  let (exponent, rest) := scanExponent rest
  if fraction = [] ∧ exponent = [] ∧ 4300 < whole.length then none
  else some (.number (sign ++ whole ++ fraction ++ exponent), rest)

/-- The words that stand for values. -/
def words : List (List Char × Value) :=
  [("null".toList, .null), ("true".toList, .bool true), ("false".toList, .bool false),
    ("NaN".toList, .number "NaN".toList), ("Infinity".toList, .number "Infinity".toList),
    ("-Infinity".toList, .number "-Infinity".toList)]

/-- Read a word or a number. -/
def scanAtom (text : List Char) : Option (Value × List Char) :=
  match words.find? fun word => word.1.isPrefixOf text with
  | some (word, value) => some (value, text.drop word.length)
  | none => scanNumber text

mutual

/-- Read a value, up to a depth and a number of items. -/
def readValue : ℕ → List Char → Option (Value × List Char)
  | 0, _ => none
  | fuel + 1, text =>
    match text with
    | '"' :: rest => (scanString rest).map fun (points, rest) => (.text points, rest)
    | '\x7b' :: rest =>
      match skip rest with
      | '\x7d' :: rest => some (.dict [], rest)
      | text => (readFields fuel text).map fun (fields, rest) => (.dict fields, rest)
    | '[' :: rest =>
      match skip rest with
      | ']' :: rest => some (.list [], rest)
      | text => (readItems fuel text).map fun (items, rest) => (.list items, rest)
    | text => scanAtom text

/-- Read the fields of a dictionary. -/
def readFields : ℕ → List Char → Option (List (List ℕ × Value) × List Char)
  | 0, _ => none
  | fuel + 1, text =>
    match text with
    | '"' :: rest => do
      let (key, rest) ← scanString rest
      match skip rest with
      | ':' :: rest => do
        let (value, rest) ← readValue fuel (skip rest)
        match skip rest with
        | '\x7d' :: rest => some ([(key, value)], rest)
        | ',' :: rest => do
          let (fields, rest) ← readFields fuel (skip rest)
          some ((key, value) :: fields, rest)
        | _ => none
      | _ => none
    | _ => none

/-- Read the items of a list. -/
def readItems : ℕ → List Char → Option (List Value × List Char)
  | 0, _ => none
  | fuel + 1, text => do
    let (value, rest) ← readValue fuel text
    match skip rest with
    | ']' :: rest => some ([value], rest)
    | ',' :: rest => do
      let (items, rest) ← readItems fuel (skip rest)
      some (value :: items, rest)
    | _ => none

end

/-- Read a text that is one value. -/
def loads (text : List Char) : Option Value :=
  if text.head? = some '\ufeff' then none
  else
    match readValue (text.length + 1) (skip text) with
    | some (value, rest) => if skip rest = [] then some value else none
    | none => none

/-- The value of a key in a dictionary. The last one counts. -/
def get? (fields : List (List ℕ × Value)) (key : List ℕ) : Option Value :=
  fields.reverse.lookup key

/-! ### Writing -/

/-- A character that is written as it is. -/
def isPlain (c : Char) : Bool := ' ' ≤ c ∧ c ≤ '~' ∧ c ≠ '"' ∧ c ≠ '\\'

/-- A field of a dictionary of plain texts. -/
def dumpsField (key value : List Char) : List Char :=
  '"' :: key ++ '"' :: ':' :: ' ' :: '"' :: value ++ ['"']

def dumpsFields : List (List Char × List Char) → List Char
  | [] => []
  | [(key, value)] => dumpsField key value
  | (key, value) :: fields => dumpsField key value ++ ',' :: ' ' :: dumpsFields fields

/-- Write a dictionary of plain texts. -/
def dumps (fields : List (List Char × List Char)) : List Char :=
  '\x7b' :: dumpsFields fields ++ ['\x7d']

/-! ### What is written is read back -/

section Plain

variable {c : Char} {text rest : List Char}

theorem isPlain_bounds (h : isPlain c = true) :
    32 ≤ c.toNat ∧ c.toNat ≤ 126 ∧ c ≠ '"' ∧ c ≠ '\\' := by
  obtain ⟨hlow, hhigh, hquote, hbackslash⟩ := of_decide_eq_true h
  have hspace : (' ' : Char).toNat ≤ c.toNat := hlow
  have htilde : c.toNat ≤ ('~' : Char).toNat := hhigh
  exact ⟨hspace, htilde, hquote, hbackslash⟩

/-- A plain string is read up to its end. -/
theorem scanUnits_append (h : ∀ c ∈ text, isPlain c = true) :
    scanUnits 0 (text ++ '"' :: rest) = some (points text, rest) := by
  induction text with
  | nil => rfl
  | cons c text ih =>
    obtain ⟨hlow, _, hquote, hbackslash⟩ := isPlain_bounds (h c List.mem_cons_self)
    have htail := ih fun c hc => h c (List.mem_cons_of_mem _ hc)
    have hcontrol : ¬ c.toNat < 32 := by omega
    rw [List.cons_append, scanUnits, if_neg hquote, if_neg hbackslash, if_neg hcontrol, htail]
    rfl

/-- Units that are not surrogates are left as they are. -/
theorem joinSurrogates_eq_self {units : List ℕ} (h : ∀ unit ∈ units, unit < 0xd800) :
    joinSurrogates units = units := by
  induction units using joinSurrogates.induct with
  | case1 => rfl
  | case2 unit => rfl
  | case3 high low units hpair _ =>
    have hhigh := h high List.mem_cons_self
    omega
  | case4 high low units hpair ih =>
    rw [joinSurrogates, if_neg hpair, ih fun unit hunit => h unit (List.mem_cons_of_mem _ hunit)]

/-- A plain string is read as it is. -/
theorem scanString_append (h : ∀ c ∈ text, isPlain c = true) :
    scanString (text ++ '"' :: rest) = some (points text, rest) := by
  have hjoin : joinSurrogates (points text) = points text := by
    apply joinSurrogates_eq_self
    intro unit hunit
    obtain ⟨c, hc, rfl⟩ := List.mem_map.mp hunit
    have hbounds := isPlain_bounds (h c hc)
    omega
  rw [scanString, scanUnits_append h]
  simp only [Option.map_some, hjoin]

end Plain

/-- The fields as they are read back. -/
def asRead (fields : List (List Char × List Char)) : List (List ℕ × Value) :=
  fields.map fun field => (points field.1, .text (points field.2))

/-- All keys and texts are plain. -/
def IsPlainDict (fields : List (List Char × List Char)) : Prop :=
  ∀ field ∈ fields, (∀ c ∈ field.1, isPlain c = true) ∧ ∀ c ∈ field.2, isPlain c = true

section Fields

variable {key value rest : List Char} {fields : List (List Char × List Char)} {fuel : ℕ}

/-- A plain text is read as a value. -/
theorem readValue_append (h : ∀ c ∈ value, isPlain c = true) :
    readValue (fuel + 1) ('"' :: (value ++ '"' :: rest)) = some (.text (points value), rest) := by
  rw [readValue, scanString_append h]
  rfl

/-- The first field is read, and then what follows it. -/
theorem readFields_append (hkey : ∀ c ∈ key, isPlain c = true)
    (hvalue : ∀ c ∈ value, isPlain c = true) :
    readFields (fuel + 2) (dumpsField key value ++ rest) =
      match skip rest with
      | '\x7d' :: rest => some ([(points key, .text (points value))], rest)
      | ',' :: rest => do
        let (fields, rest) ← readFields (fuel + 1) (skip rest)
        some ((points key, .text (points value)) :: fields, rest)
      | _ => none := by
  have hfield : dumpsField key value ++ rest =
      '"' :: (key ++ '"' :: ':' :: ' ' :: '"' :: (value ++ '"' :: rest)) := by
    simp [dumpsField]
  have hcolon (rest : List Char) : skip (':' :: rest) = ':' :: rest := rfl
  have hquote (rest : List Char) : skip (' ' :: '"' :: rest) = '"' :: rest := rfl
  rw [hfield, readFields, scanString_append hkey]
  simp only [Option.bind_eq_bind, Option.bind_some, hcolon, hquote, readValue_append hvalue]

/-- The fields of a dictionary are read back. -/
theorem readFields_dumpsFields (h : IsPlainDict fields) (hne : fields ≠ [])
    (hfuel : fields.length < fuel) :
    readFields fuel (dumpsFields fields ++ '\x7d' :: rest) = some (asRead fields, rest) := by
  induction fields generalizing fuel with
  | nil => exact absurd rfl hne
  | cons field fields ih =>
    obtain ⟨key, value⟩ := field
    obtain ⟨hkey, hvalue⟩ := h (key, value) List.mem_cons_self
    obtain ⟨fuel, rfl⟩ : ∃ rest, fuel = rest + 2 := ⟨fuel - 2, by simp at hfuel; omega⟩
    cases fields with
    | nil =>
      rw [dumpsFields, readFields_append hkey hvalue]
      rfl
    | cons field fields =>
      have hfields : IsPlainDict (field :: fields) :=
        fun field hfield => h field (List.mem_cons_of_mem _ hfield)
      have hrest : readFields (fuel + 1) (dumpsFields (field :: fields) ++ '\x7d' :: rest) =
          some (asRead (field :: fields), rest) :=
        ih hfields (List.cons_ne_nil _ _) (by simp at hfuel ⊢; omega)
      have hskip : skip (' ' :: (dumpsFields (field :: fields) ++ '\x7d' :: rest)) =
          dumpsFields (field :: fields) ++ '\x7d' :: rest := by
        cases fields <;> rfl
      have htext : dumpsFields ((key, value) :: field :: fields) ++ '\x7d' :: rest =
          dumpsField key value ++
            ',' :: ' ' :: (dumpsFields (field :: fields) ++ '\x7d' :: rest) := by
        simp [dumpsFields]
      have hcomma (rest : List Char) : skip (',' :: rest) = ',' :: rest := rfl
      rw [htext, readFields_append hkey hvalue]
      simp only [hcomma, hskip, hrest, Option.bind_eq_bind, Option.bind_some]
      rfl

theorem length_le_length_dumpsFields (fields : List (List Char × List Char)) :
    fields.length ≤ (dumpsFields fields).length := by
  induction fields with
  | nil => exact Nat.le_refl _
  | cons field fields ih =>
    cases fields with
    | nil => simp [dumpsFields, dumpsField]
    | cons next fields =>
      have hlength : (dumpsFields (field :: next :: fields)).length =
          (dumpsField field.1 field.2).length + 2 + (dumpsFields (next :: fields)).length := by
        simp [dumpsFields]
        omega
      rw [hlength, List.length_cons]
      omega

/-- Fields begin with a quote. -/
theorem exists_quote_dumpsFields (hne : fields ≠ []) :
    ∃ text, dumpsFields fields = '"' :: text := by
  cases fields with
  | nil => exact absurd rfl hne
  | cons field fields => cases fields <;> exact ⟨_, rfl⟩

/-- A dictionary of plain texts is read back. -/
theorem loads_dumps (h : IsPlainDict fields) (hne : fields ≠ []) :
    loads (dumps fields) = some (.dict (asRead fields)) := by
  obtain ⟨text, htext⟩ := exists_quote_dumpsFields hne
  have hfuel : fields.length < (dumps fields).length := by
    have hle := length_le_length_dumpsFields fields
    simp only [dumps, List.length_cons, List.length_append, List.length_nil]
    omega
  have hread : readFields (dumps fields).length (dumpsFields fields ++ ['\x7d']) =
      some (asRead fields, []) := readFields_dumpsFields h hne hfuel
  rw [htext] at hread
  have hvalue : readValue ((dumps fields).length + 1) (skip (dumps fields)) =
      some (.dict (asRead fields), []) := by
    have hskip : skip (dumps fields) = '\x7b' :: '"' :: (text ++ ['\x7d']) := by
      rw [dumps, htext]
      rfl
    have hquote (rest : List Char) : skip ('"' :: rest) = '"' :: rest := rfl
    rw [List.cons_append] at hread
    rw [hskip, readValue]
    simp only [hquote]
    change (readFields _ ('"' :: (text ++ ['\x7d']))).map _ = _
    rw [hread]
    rfl
  unfold loads
  rw [if_neg (by simp [dumps]), hvalue]
  rfl

end Fields

end Lib.JsonText
