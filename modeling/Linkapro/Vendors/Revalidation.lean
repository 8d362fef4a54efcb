import Linkapro.Vendors.Aggregate

/-!
# Checking a field again

A value that a normalisation has accepted passes it again unchanged. Texts rest on the
documented laws of normalisation and white space. The one exception is an e-mail address,
which is put into lower case after its length and its form have been checked.
-/

namespace Linkapro.Vendors

open Lib (Checked Stable)

variable {library : TextLibrary}

/-! ### Texts -/

theorem limited_text_eq_ok_iff {max_length min_length : ℕ} {text result : String} :
    limited_text library max_length min_length text = .ok result ↔
      text = result ∧ ¬has_control_characters text ∧ ¬has_dangerous_formatting library text ∧
        ¬text.length < min_length ∧ ¬max_length < text.length := by
  simp only [limited_text, guard_eq_ok_iff, pure_eq_ok_iff]
  constructor
  · rintro ⟨hcontrol, hformat, hmin, hmax, heq⟩
    exact ⟨heq, hcontrol, hformat, hmin, hmax⟩
  · rintro ⟨heq, hcontrol, hformat, hmin, hmax⟩
    exact ⟨hcontrol, hformat, hmin, hmax, heq⟩

/-- What a required text has gone through when it is accepted. -/
theorem bounded_text_eq_ok_iff {max_length min_length : ℕ} {value : Value} {result : String} :
    bounded_text library max_length min_length value = .ok result ↔
      ∃ text, value = .text text ∧ strip (library.nfc text) ≠ "" ∧
        limited_text library max_length min_length (strip (library.nfc text)) = .ok result := by
  cases value with
  | text text =>
    simp only [bounded_text, require_string, bind_eq_ok_iff, Except.ok.injEq, exists_eq_left',
      guard_eq_ok_iff, Value.text.injEq]
  | _ => exact ⟨nofun, fun ⟨_, h, _⟩ => nomatch h⟩

theorem ne_empty_of_bounded_text {max_length min_length : ℕ} {value : Value} {text : String}
    (h : bounded_text library max_length min_length value = .ok text) : text ≠ "" := by
  obtain ⟨_, -, hne, hlimited⟩ := bounded_text_eq_ok_iff.mp h
  obtain ⟨rfl, -⟩ := limited_text_eq_ok_iff.mp hlimited
  exact hne

theorem bounded_optional_text_eq_ok_iff {max_length : ℕ} {value : Value}
    {result : Option String} :
    bounded_optional_text library max_length value = .ok result ↔
      value = .none ∧ result = none ∨
      (∃ text, value = .text text ∧ strip (library.nfc text) = "" ∧ result = some "") ∨
      ∃ text, result = some text ∧ bounded_text library max_length 1 value = .ok text := by
  cases value with
  | none =>
    constructor
    · intro h
      exact .inl ⟨rfl, (Except.ok.inj h).symm⟩
    · rintro (⟨-, rfl⟩ | ⟨_, h, -⟩ | ⟨_, -, h⟩)
      · rfl
      · cases h
      · cases h
  | text text =>
    simp only [bounded_text_eq_ok_iff, Value.text.injEq, exists_eq_left', reduceCtorEq, false_and,
      false_or]
    by_cases hempty : strip (library.nfc text) = ""
    · simp [bounded_optional_text, require_string, hempty, bind, Except.bind, pure, Except.pure,
        eq_comm]
    · simp only [bounded_optional_text, require_string, bind_eq_ok_iff, Except.ok.injEq,
        exists_eq_left', hempty, if_false, pure_eq_ok_iff, false_and, not_false_iff, true_and,
        false_or, ne_eq]
      constructor
      · rintro ⟨result, hlimited, rfl⟩
        exact ⟨result, rfl, hlimited⟩
      · rintro ⟨result, rfl, hlimited⟩
        exact ⟨result, hlimited, rfl⟩
  | _ =>
    constructor
    · intro h
      cases h
    · rintro (⟨h, -⟩ | ⟨_, h, -⟩ | ⟨_, -, h⟩) <;> cases h

theorem whenGiven_eq_ok_iff {rest : String → Except String String} {text result : Option String} :
    whenGiven rest text = .ok result ↔
      (text = none ∨ text = some "") ∧ result = text ∨
      ∃ given given', text = some given ∧ given ≠ "" ∧ rest given = .ok given' ∧
        result = some given' := by
  cases text with
  | none => simp [whenGiven, eq_comm]
  | some given =>
    by_cases hempty : given = ""
    · subst hempty
      simp [whenGiven, eq_comm]
    · cases hrest : rest given <;>
        simp [whenGiven, hempty, hrest, eq_comm, Functor.map, Except.map]

/-- A text that the rest of a check gives back is given back by the whole of it. -/
theorem whenGiven_again {rest : String → Except String String} {text result : Option String}
    (hrest : ∀ given given', rest given = .ok given' → given' = given)
    (h : whenGiven rest text = .ok result) : result = text := by
  obtain ⟨-, rfl⟩ | ⟨given, given', rfl, -, hgiven, rfl⟩ := whenGiven_eq_ok_iff.mp h
  · rfl
  · rw [hrest given given' hgiven]

/-! ### URLs -/

theorem safe_url_eq {url result : String} (h : safe_url library url = .ok result) :
    result = url := by
  rw [safe_url] at h
  cases hparsed : library.urlparse url with
  | none =>
    rw [hparsed] at h
    cases h
  | some parsed =>
    simp only [hparsed, guard_eq_ok_iff] at h
    obtain ⟨-, -, h⟩ := h
    cases hport : parsed.port with
    | error message =>
      rw [hport] at h
      cases h
    | ok port =>
      simp only [hport, guard_eq_ok_iff, pure_eq_ok_iff] at h
      exact h.2.2.2.symm

theorem https_url_eq {url result : String} (h : https_url library url = .ok result) :
    result = url := by
  simp only [https_url, guard_eq_ok_iff, pure_eq_ok_iff] at h
  exact h.2.symm

/-! ### Telephone numbers -/

/-- The characters of an accepted telephone number. -/
theorem phone_character {text : String} (h : matches_phone text) {c : Char}
    (hc : c ∈ text.toList) : c = '+' ∨ 48 ≤ c.toNat ∧ c.toNat ≤ 57 := by
  have hdigit (digit : Char) (hdigit : digit.isDigit) : 48 ≤ digit.toNat ∧ digit.toNat ≤ 57 := by
    simp only [Char.isDigit, Bool.and_eq_true, decide_eq_true_eq] at hdigit
    exact ⟨UInt32.le_iff_toNat_le.mp hdigit.1, UInt32.le_iff_toNat_le.mp hdigit.2⟩
  simp only [matches_phone, decide_eq_true_eq] at h
  split at h
  · rename_i digits heq
    rw [heq] at hc
    obtain rfl | hc := List.mem_cons.mp hc
    · exact .inl rfl
    · exact .inr (hdigit c (List.all_eq_true.mp h.2.2 c hc))
  · exact .inr (hdigit c (List.all_eq_true.mp h.2.2 c hc))

theorem phone_length {text : String} (h : matches_phone text) : 3 ≤ text.length := by
  rw [← String.length_toList]
  simp only [matches_phone, decide_eq_true_eq] at h
  split at h
  · rename_i digits heq
    rw [heq, List.length_cons]
    omega
  · exact h.1

/-- The characters of an accepted number are not removed from it. -/
theorem phone_character_kept {text : String} (h : matches_phone text) {c : Char}
    (hc : c ∈ text.toList) : isSpace c = false ∧ c ∉ ['(', ')', '.', '-'] := by
  obtain rfl | hc := phone_character h hc
  · decide
  · constructor
    · simp only [isSpace, decide_eq_false_iff_not, List.mem_cons, List.not_mem_nil, or_false]
      omega
    · rintro hmem
      simp only [List.mem_cons, List.not_mem_nil, or_false] at hmem
      obtain rfl | rfl | rfl | rfl := hmem <;> exact absurd hc (by decide)

/-- The compact form of a number is no longer than the number and is compact already. -/
theorem compact_phone_again {phone result : String} (h : compact_phone phone = .ok result) :
    matches_phone result ∧ result.length ≤ phone.length ∧ compact_phone result = .ok result := by
  simp only [compact_phone, guard_eq_ok_iff, pure_eq_ok_iff, not_not] at h ⊢
  obtain ⟨hmatches, rfl⟩ := h
  have hsame : compactPhone (compactPhone phone) = compactPhone phone := by
    rw [compactPhone, List.filter_eq_self.mpr, String.ofList_toList]
    intro c hc
    obtain ⟨hspace, hmark⟩ := phone_character_kept hmatches hc
    rw [hspace]
    simpa using hmark
  refine ⟨hmatches, ?_, ?_, hsame⟩
  · rw [compactPhone, String.length_ofList, ← String.length_toList]
    exact List.length_filter_le _ _
  · rwa [hsame]

/-- An accepted text keeps to its bound. -/
theorem length_le_of_bounded_text {max_length min_length : ℕ} {value : Value} {text : String}
    (h : bounded_text library max_length min_length value = .ok text) :
    text.length ≤ max_length := by
  obtain ⟨raw, -, -, hlimited⟩ := bounded_text_eq_ok_iff.mp h
  obtain ⟨rfl, -, -, -, hmax⟩ := limited_text_eq_ok_iff.mp hlimited
  exact not_lt.mp hmax

section Documented

variable (hlibrary : library.Documented)
include hlibrary

/-- A required text that is accepted is accepted again as it is. -/
theorem bounded_text_again {max_length min_length : ℕ} {value : Value} {text : String}
    (h : bounded_text library max_length min_length value = .ok text) :
    bounded_text library max_length min_length (.text text) = .ok text := by
  obtain ⟨raw, -, hne, hlimited⟩ := bounded_text_eq_ok_iff.mp h
  obtain ⟨rfl, -⟩ := limited_text_eq_ok_iff.mp hlimited
  have hsame : strip (library.nfc (strip (library.nfc raw))) = strip (library.nfc raw) := by
    rw [hlibrary.nfc_strip, strip_strip]
  refine bounded_text_eq_ok_iff.mpr ⟨_, rfl, ?_, ?_⟩
  · rw [hsame]
    exact hne
  · rw [hsame]
    exact hlimited

theorem bounded_optional_text_empty (max_length : ℕ) :
    bounded_optional_text library max_length (.text "") = .ok (some "") := by
  refine bounded_optional_text_eq_ok_iff.mpr (.inr (.inl ⟨"", rfl, ?_, rfl⟩))
  rw [hlibrary.nfc_ascii "" nofun]
  rfl

theorem bounded_optional_text_again {max_length : ℕ} {value : Value} {text : Option String}
    (h : bounded_optional_text library max_length value = .ok text) :
    bounded_optional_text library max_length (.ofText text) = .ok text := by
  obtain ⟨-, rfl⟩ | ⟨_, -, -, rfl⟩ | ⟨text, rfl, htext⟩ := bounded_optional_text_eq_ok_iff.mp h
  · rfl
  · exact bounded_optional_text_empty hlibrary max_length
  · exact bounded_optional_text_eq_ok_iff.mpr
      (.inr (.inr ⟨text, rfl, bounded_text_again hlibrary htext⟩))

theorem stable_normalize_text (field_name : String) (max_length min_length : ℕ) :
    Stable Value.text (_normalize_text library field_name max_length min_length) := by
  intro value text h
  cases hvalue : bounded_text library max_length min_length value with
  | error message =>
    rw [_normalize_text, hvalue] at h
    dsimp only at h
    split at h <;> cases h
  | ok accepted =>
    rw [_normalize_text, hvalue] at h
    cases h
    rw [_normalize_text, bounded_text_again hlibrary hvalue]

theorem stable_normalize_optional_text (field_name : String) (max_length : ℕ) :
    Stable Value.ofText (_normalize_optional_text library field_name max_length) := by
  intro value text h
  exact underField_eq_valid_iff.mpr
    (bounded_optional_text_again hlibrary (underField_eq_valid_iff.mp h))

theorem validate_safe_url_again {max_length : ℕ} {value : Value} {url : Option String}
    (h : validate_safe_url library max_length value = .ok url) :
    validate_safe_url library max_length (.ofText url) = .ok url := by
  rw [validate_safe_url, bind_eq_ok_iff] at h ⊢
  obtain ⟨text, htext, hgiven⟩ := h
  obtain rfl := whenGiven_again (fun _ _ => safe_url_eq) hgiven
  exact ⟨url, bounded_optional_text_again hlibrary htext, hgiven⟩

theorem validate_public_media_url_again {max_length : ℕ} {value : Value} {url : Option String}
    (h : validate_public_media_url library max_length value = .ok url) :
    validate_public_media_url library max_length (.ofText url) = .ok url := by
  rw [validate_public_media_url, bind_eq_ok_iff] at h ⊢
  obtain ⟨text, htext, hgiven⟩ := h
  obtain rfl := whenGiven_again (fun _ _ => https_url_eq) hgiven
  exact ⟨url, validate_safe_url_again hlibrary htext, hgiven⟩

/-- An accepted text that is given as a media URL stays itself. -/
theorem media_url_of_bounded_text {field_name : String} {max_length : ℕ} {value : Value}
    {text : String} {url : Option String}
    (htext : bounded_text library max_length 1 value = .ok text)
    (h : _normalize_public_media_url library field_name max_length (.text text) = .valid url) :
    url = some text := by
  have h := underField_eq_valid_iff.mp h
  have hoptional : bounded_optional_text library max_length (.text text) = .ok (some text) :=
    bounded_optional_text_eq_ok_iff.mpr
      (.inr (.inr ⟨text, rfl, bounded_text_again hlibrary htext⟩))
  rw [validate_public_media_url, bind_eq_ok_iff] at h
  obtain ⟨safe, hsafe, hmedia⟩ := h
  rw [validate_safe_url, hoptional] at hsafe
  obtain rfl := whenGiven_again (fun _ _ => https_url_eq) hmedia
  exact whenGiven_again (fun _ _ => safe_url_eq) hsafe

theorem stable_normalize_safe_url (field_name : String) (max_length : ℕ) :
    Stable Value.ofText (_normalize_safe_url library field_name max_length) := by
  intro value url h
  exact underField_eq_valid_iff.mpr
    (validate_safe_url_again hlibrary (underField_eq_valid_iff.mp h))

theorem stable_normalize_public_media_url (field_name : String) (max_length : ℕ) :
    Stable Value.ofText (_normalize_public_media_url library field_name max_length) := by
  intro value url h
  exact underField_eq_valid_iff.mpr
    (validate_public_media_url_again hlibrary (underField_eq_valid_iff.mp h))

/-! ### ASCII texts -/

omit hlibrary in
theorem forall_isSpace_eq_false {text : String} (h : text.toList.any isSpace = false) :
    ∀ c ∈ text.toList, isSpace c = false := fun c hc => by
  simpa using List.any_eq_false.mp h c hc

/-- An ASCII text without white space is its own normal form. -/
theorem strip_nfc_ascii {text : String} (hascii : IsAscii text)
    (hspace : ∀ c ∈ text.toList, isSpace c = false) : strip (library.nfc text) = text := by
  rw [hlibrary.nfc_ascii text hascii, strip_eq_self hspace]

theorem no_dangerous_formatting {text : String} (hascii : IsAscii text) :
    has_dangerous_formatting library text = false :=
  List.any_eq_false.mpr fun c hc => by
    rw [hlibrary.isFormat_ascii c (hascii c hc)]
    decide

theorem bounded_text_ascii {max_length min_length : ℕ} {text : String} (hascii : IsAscii text)
    (hspace : ∀ c ∈ text.toList, isSpace c = false) (hne : text ≠ "")
    (hcontrol : has_control_characters text = false) (hmin : min_length ≤ text.length)
    (hmax : text.length ≤ max_length) :
    bounded_text library max_length min_length (.text text) = .ok text := by
  have hself := strip_nfc_ascii hlibrary hascii hspace
  refine bounded_text_eq_ok_iff.mpr ⟨text, rfl, ?_, ?_⟩
  · rw [hself]
    exact hne
  · rw [hself]
    refine limited_text_eq_ok_iff.mpr ⟨rfl, ?_, ?_, not_lt.mpr hmin, not_lt.mpr hmax⟩
    · rw [hcontrol]
      decide
    · rw [no_dangerous_formatting hlibrary hascii]
      decide

theorem stable_normalize_currency_value :
    Stable Value.text (_normalize_currency_value library) := by
  intro value currency h
  refine underField_eq_valid_iff.mpr ?_
  have h := underField_eq_valid_iff.mp h
  simp only [normalize_currency, bind_eq_ok_iff, guard_eq_ok_iff, pure_eq_ok_iff,
    not_not] at h ⊢
  obtain ⟨_, -, hsupported, hcurrency⟩ := h
  rw [hcurrency] at hsupported
  obtain rfl := List.mem_singleton.mp hsupported
  have hascii : IsAscii "RWF" := by decide
  have hupper : library.upper "RWF" = "RWF" := by
    rw [hlibrary.upper_ascii _ hascii]
    decide
  have hspace : ∀ c ∈ "RWF".toList, isSpace c = false := forall_isSpace_eq_false (by decide)
  refine ⟨"RWF", bounded_text_ascii hlibrary hascii hspace (by decide) (by decide) (by decide)
    (by decide), ?_, hupper⟩
  rw [hupper]
  exact hsupported

theorem bounded_text_phone {phone : String} (h : matches_phone phone)
    (hlength : phone.length ≤ TEXT_LIMITS.contact_phone) :
    bounded_text library TEXT_LIMITS.contact_phone 1 (.text phone) = .ok phone := by
  have hlong := phone_length h
  refine bounded_text_ascii hlibrary ?_ (fun c hc => (phone_character_kept h hc).1) ?_ ?_
    (by omega) hlength
  · intro c hc
    obtain rfl | hc := phone_character h hc
    · decide
    · omega
  · rintro rfl
    exact absurd hlong (by decide)
  · refine List.any_eq_false.mpr fun c hc => ?_
    obtain rfl | hc := phone_character h hc
    · decide
    · simp only [decide_eq_true_eq]
      omega

theorem stable_normalize_phone (field_name : String) :
    Stable Value.text (_normalize_phone library field_name) := by
  intro value result h
  refine underField_eq_valid_iff.mpr ?_
  have h := underField_eq_valid_iff.mp h
  rw [normalize_phone, bind_eq_ok_iff] at h ⊢
  obtain ⟨phone, hphone, hcompact⟩ := h
  obtain ⟨hmatches, hlength, hagain⟩ := compact_phone_again hcompact
  have hshort := length_le_of_bounded_text hphone
  exact ⟨result, bounded_text_phone hlibrary hmatches (by omega), hagain⟩

theorem stable_normalize_optional_phone (field_name : String) :
    Stable Value.ofText (_normalize_optional_phone library field_name) := by
  intro value result h
  refine underField_eq_valid_iff.mpr ?_
  have h := underField_eq_valid_iff.mp h
  rw [normalize_optional_phone, bind_eq_ok_iff] at h ⊢
  obtain ⟨text, htext, hgiven⟩ := h
  obtain ⟨hempty, rfl⟩ | ⟨phone, phone', rfl, hne, hcompact, rfl⟩ := whenGiven_eq_ok_iff.mp hgiven
  · exact ⟨result, bounded_optional_text_again hlibrary htext, hgiven⟩
  · obtain ⟨hmatches, hlength, hagain⟩ := compact_phone_again hcompact
    obtain ⟨-, ⟨⟩⟩ | ⟨_, -, -, ⟨⟩⟩ | ⟨_, ⟨⟩, hphone⟩ := bounded_optional_text_eq_ok_iff.mp htext
    · exact absurd rfl hne
    · have hshort := length_le_of_bounded_text hphone
      have hlong := phone_length hmatches
      refine ⟨some phone', bounded_optional_text_eq_ok_iff.mpr (.inr (.inr ⟨phone', rfl,
        bounded_text_phone hlibrary hmatches (by omega)⟩)), whenGiven_eq_ok_iff.mpr (.inr
          ⟨phone', phone', rfl, ?_, hagain, rfl⟩)⟩
      rintro rfl
      exact absurd hlong (by decide)

/-! ### E-mail addresses -/

omit hlibrary in
theorem validate_email_eq_ok_iff {value : Value} {email : String} :
    validate_email library value = .ok email ↔
      ∃ text, bounded_text library TEXT_LIMITS.contact_email 1 value = .ok text ∧
        matches_email text ∧ library.lower text = email := by
  simp only [validate_email, bind_eq_ok_iff, guard_eq_ok_iff, pure_eq_ok_iff, not_not]

/-- An address that has been accepted twice in a row is accepted from then on as it is. -/
theorem validate_email_again {value : Value} {first second : String}
    (hfirst : validate_email library value = .ok first)
    (hsecond : validate_email library (.text first) = .ok second) :
    validate_email library (.text second) = .ok second := by
  obtain ⟨text, -, -, rfl⟩ := validate_email_eq_ok_iff.mp hfirst
  obtain ⟨text', htext', hmatches, rfl⟩ := validate_email_eq_ok_iff.mp hsecond
  obtain ⟨_, ⟨⟩, -, hlimited⟩ := bounded_text_eq_ok_iff.mp htext'
  obtain ⟨rfl, -⟩ := limited_text_eq_ok_iff.mp hlimited
  -- What has been put into lower case once stays the same under all three steps.
  have hlower : library.lower (strip (library.nfc (library.lower text))) =
      strip (library.nfc (library.lower text)) := by
    rw [← hlibrary.strip_lower, hlibrary.lower_nfc_lower]
  rw [hlower]
  exact validate_email_eq_ok_iff.mpr ⟨_, bounded_text_again hlibrary htext', hmatches, hlower⟩

end Documented

/-! ### Other fields -/

theorem stable_normalize_uuid (field_name : String) :
    Stable Value.uuid (_normalize_uuid library field_name) := by
  intro _ _ _
  rfl

theorem stable_normalize_bool (field_name : String) :
    Stable Value.bool (_normalize_bool field_name) := by
  intro _ _ _
  rfl

theorem stable_normalize_datetime (field_name : String) :
    Stable Value.ofDatetime (_normalize_datetime field_name) :=
  Stable.of_embed fun _ => _normalize_datetime_ofDatetime _

theorem stable_normalize_required_datetime (field_name : String) :
    Stable Value.datetime (_normalize_required_datetime field_name) := by
  intro _ _ _
  rfl

theorem stable_normalize_event_date (field_name : String) :
    Stable Value.ofDate (_normalize_event_date field_name) :=
  Stable.of_embed fun date => by cases date <;> rfl

theorem stable_normalize_version : Stable (fun version : ℕ => Value.int version)
    _normalize_version :=
  Stable.of_embed _normalize_version_int

theorem validate_int_eq {minimum : ℤ} {maximum : Option ℤ} {value : Value} {result : ℤ}
    (h : validate_int minimum maximum value = .ok result) : value = .int result := by
  cases value with
  | int n =>
    simp only [validate_int, guard_eq_ok_iff] at h
    cases maximum with
    | none => exact congrArg Value.int (pure_eq_ok_iff.mp h.2)
    | some maximum =>
      simp only [guard_eq_ok_iff, pure_eq_ok_iff] at h
      exact congrArg Value.int h.2.2
  | _ => cases h

theorem stable_normalize_int (field_name : String) (minimum : ℤ) (maximum : Option ℤ) :
    Stable Value.int (_normalize_int field_name minimum maximum) := by
  intro value result h
  have h := underField_eq_valid_iff.mp h
  refine underField_eq_valid_iff.mpr ?_
  rw [← validate_int_eq h]
  exact h

theorem stable_normalize_optional_int (field_name : String) (minimum : ℤ) (maximum : Option ℤ) :
    Stable Value.ofInt (_normalize_optional_int field_name minimum maximum) := by
  intro value result h
  have h := underField_eq_valid_iff.mp h
  refine underField_eq_valid_iff.mpr ?_
  cases value with
  | none =>
    cases h
    rfl
  | int n =>
    cases hint : validate_int minimum maximum (.int n) with
    | error message =>
      simp only [validate_optional_int, hint] at h
      cases h
    | ok result' =>
      simp only [validate_optional_int, hint] at h
      cases h
      cases validate_int_eq hint
      simp only [validate_optional_int, Value.ofInt, hint]
      rfl
  | _ => cases h

theorem stable_normalize_price : Stable Value.decimal (_normalize_price library) := by
  intro value price h
  have h := underField_eq_valid_iff.mp h
  refine underField_eq_valid_iff.mpr ?_
  rw [positive_decimal] at h
  cases hdecimal : decimalOf library value with
  | none =>
    rw [hdecimal] at h
    cases h
  | some decimal =>
    cases decimal with
    | special =>
      rw [hdecimal] at h
      cases h
    | finite coefficient exponent =>
      rw [hdecimal] at h
      have hprice := h
      simp only [guard_eq_ok_iff, pure_eq_ok_iff] at hprice
      obtain ⟨-, -, -, rfl⟩ := hprice
      exact h

/-! ### The ASCII library keeps the laws -/

theorem toNat_toLower (c : Char) :
    c.toLower.toNat = if 65 ≤ c.toNat ∧ c.toNat ≤ 90 then c.toNat + 32 else c.toNat := by
  delta Char.toLower
  split
  · rename_i h
    rw [if_pos ⟨UInt32.le_iff_toNat_le.mp h.1, UInt32.le_iff_toNat_le.mp h.2⟩]
    have hupper : c.toNat ≤ 90 := UInt32.le_iff_toNat_le.mp h.2
    change (c.val + ('a'.val - 'A'.val)).toNat = _
    rw [UInt32.toNat_add]
    change (c.toNat + 32) % 2 ^ 32 = _
    omega
  · rename_i h
    rw [if_neg]
    rintro ⟨hfirst, hlast⟩
    exact h ⟨UInt32.le_iff_toNat_le.mpr hfirst, UInt32.le_iff_toNat_le.mpr hlast⟩

/-- What one character becomes is in lower case, and is white space only if it was. -/
theorem lowerChar_spec {c d : Char} (h : d ∈ lowerChar c) :
    lowerChar d = [d] ∧ (isSpace c = false → isSpace d = false) := by
  unfold lowerChar at h
  split at h
  · obtain rfl := List.mem_singleton.mp h
    exact ⟨by decide, fun _ => by decide⟩
  · split at h
    · rw [List.mem_cons, List.mem_singleton] at h
      obtain rfl | rfl := h
      · exact ⟨by decide, fun _ => by decide⟩
      · exact ⟨by decide, fun _ => by decide⟩
    · rename_i hkelvin hdotted
      obtain rfl := List.mem_singleton.mp h
      have hnat := toNat_toLower c
      by_cases hupper : 65 ≤ c.toNat ∧ c.toNat ≤ 90
      · rw [if_pos hupper] at hnat
        have hagain : c.toLower.toLower = c.toLower := by
          apply Char.toNat_inj.mp
          rw [toNat_toLower c.toLower, if_neg (by omega)]
        refine ⟨?_, fun _ => ?_⟩
        · rw [lowerChar, if_neg (by omega), if_neg (by omega), hagain]
        · simp only [isSpace, hnat, decide_eq_false_iff_not, List.mem_cons, List.not_mem_nil,
            or_false]
          omega
      · rw [if_neg hupper] at hnat
        have hsame : c.toLower = c := Char.toNat_inj.mp hnat
        rw [hsame]
        refine ⟨?_, id⟩
        rw [lowerChar, if_neg hkelvin, if_neg hdotted, hsame]

theorem lowerChar_of_isSpace {c : Char} (h : isSpace c = true) : lowerChar c = [c] := by
  simp only [isSpace, decide_eq_true_eq, List.mem_cons, List.not_mem_nil, or_false] at h
  have hnat := toNat_toLower c
  rw [if_neg (by omega)] at hnat
  rw [lowerChar, if_neg (by omega), if_neg (by omega), Char.toNat_inj.mp hnat]

theorem dropWhile_flatMap_lower (step : List Char → List Char)
    (hstep : ∀ c, step (lowerChar c) ≠ [] ∧ ∀ d ∈ step (lowerChar c), d ∈ lowerChar c)
    (hspace : ∀ c, isSpace c = true → step (lowerChar c) = [c]) (characters : List Char) :
    (characters.flatMap fun c => step (lowerChar c)).dropWhile isSpace =
      (characters.dropWhile isSpace).flatMap fun c => step (lowerChar c) := by
  induction characters with
  | nil => rfl
  | cons c characters ih =>
    cases hc : isSpace c with
    | true =>
      rw [List.flatMap_cons, hspace c hc, List.dropWhile_cons_of_pos hc, List.singleton_append,
        List.dropWhile_cons_of_pos hc, ih]
    | false =>
      rw [List.dropWhile_cons_of_neg (by rw [hc]; decide), List.flatMap_cons]
      obtain ⟨hne, hmem⟩ := hstep c
      cases hlist : step (lowerChar c) with
      | nil => exact absurd hlist hne
      | cons d rest =>
        have hd := (lowerChar_spec (hmem d (by rw [hlist]; exact List.mem_cons_self))).2 hc
        rw [List.cons_append, List.dropWhile_cons_of_neg (by rw [hd]; decide)]

theorem lower_lower (text : String) : lower (lower text) = lower text := by
  refine lower_eq_self fun c hc => ?_
  rw [lower, String.toList_ofList, List.mem_flatMap] at hc
  obtain ⟨_, -, hc⟩ := hc
  exact (lowerChar_spec hc).1

theorem lowerChar_ne_nil (c : Char) : lowerChar c ≠ [] := by
  unfold lowerChar
  split
  · exact List.cons_ne_nil _ _
  · split <;> exact List.cons_ne_nil _ _

theorem strip_lower_eq (text : String) : strip (lower text) = lower (strip text) := by
  have hfront := dropWhile_flatMap_lower id (fun c => ⟨lowerChar_ne_nil c, fun _ => id⟩)
    fun _ => lowerChar_of_isSpace
  have hback := dropWhile_flatMap_lower List.reverse
    (fun c => ⟨mt List.reverse_eq_nil_iff.mp (lowerChar_ne_nil c), fun _ => List.mem_reverse.mp⟩)
    fun c hc => by rw [lowerChar_of_isSpace hc, List.reverse_singleton]
  have hreverse (characters : List Char) : (characters.flatMap lowerChar).reverse =
      characters.reverse.flatMap fun c => (lowerChar c).reverse := List.reverse_flatMap
  have hreverse' (characters : List Char) :
      (characters.flatMap fun c => (lowerChar c).reverse).reverse =
        characters.reverse.flatMap lowerChar := by
    rw [List.reverse_flatMap]
    exact List.flatMap_congr fun c _ => List.reverse_reverse _
  have hfront' (characters : List Char) : (characters.flatMap lowerChar).dropWhile isSpace =
      (characters.dropWhile isSpace).flatMap lowerChar := hfront characters
  rw [strip, lower, lower, strip, String.toList_ofList, String.toList_ofList, hfront', hreverse,
    hback, hreverse']

theorem asciiLibrary_documented : asciiLibrary.Documented where
  nfc_strip _ := rfl
  nfc_ascii _ _ := rfl
  isFormat_ascii _ _ := rfl
  lower_nfc_lower text := lower_lower text
  strip_lower text := strip_lower_eq text
  upper_ascii _ _ := rfl

end Linkapro.Vendors
