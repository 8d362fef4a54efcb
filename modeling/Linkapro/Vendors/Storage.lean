import Linkapro.Vendors.Columns
import Linkapro.Vendors.Operations
import Linkapro.Vendors.PackageApprovals
import Linkapro.Vendors.PortfolioApproval
import Mathlib.Algebra.Order.Ring.Int
import Mathlib.Data.List.ReduceOption
import Mathlib.Tactic.NormNum
import Mathlib.Tactic.Positivity

/-!
# Storing and reloading vendor objects

Most limits of the domain are those of the columns. An object that is narrower than the columns
that are not, and whose e-mail address passes its own check unchanged, comes back as it was
stored, except where `save` of the model completes the row.
-/

namespace Linkapro.Vendors

open Lib (Checked Stable)

variable {library : TextLibrary}

/-! ### Texts in columns -/

theorem nulFree_of_limited {max_length min_length : ℕ} {text result : String}
    (h : limited_text library max_length min_length text = .ok result) : nulFree result = true := by
  obtain ⟨rfl, hcontrol, -⟩ := limited_text_eq_ok_iff.mp h
  simp only [has_control_characters, List.any_eq_true, not_exists, not_and] at hcontrol
  simp only [nulFree, decide_eq_true_eq]
  exact fun hmem => hcontrol _ hmem (by decide)

/-- An accepted text fits every column that is as wide as its limit. -/
theorem charField_of_bounded {max_length min_length limit : ℕ} {value : Value} {text : String}
    (h : bounded_text library max_length min_length value = .ok text) (hle : max_length ≤ limit) :
    charField limit text = true := by
  obtain ⟨_, -, -, hlimited⟩ := bounded_text_eq_ok_iff.mp h
  exact charField_eq_true_iff.mpr
    ⟨(length_le_of_bounded_text h).trans hle, nulFree_of_limited hlimited⟩

/-- An accepted optional text is missing, empty or an accepted text. -/
theorem all_charField_of_optional {max_length limit : ℕ} {value : Value} {text : Option String}
    (h : bounded_optional_text library max_length value = .ok text) (hle : max_length ≤ limit) :
    text.all (charField limit) = true := by
  obtain ⟨-, rfl⟩ | ⟨_, -, -, rfl⟩ | ⟨text, rfl, htext⟩ := bounded_optional_text_eq_ok_iff.mp h
  · rfl
  · exact charField_eq_true_iff.mpr ⟨Nat.zero_le _, by decide⟩
  · exact charField_of_bounded htext hle

theorem all_nulFree_of_all {limit : ℕ} {text : Option String}
    (h : text.all (charField limit) = true) : text.all nulFree = true := by
  cases text with
  | none => rfl
  | some text => exact nulFree_of_charField h

theorem optional_of_safe_url {max_length : ℕ} {value : Value} {url : Option String}
    (h : validate_safe_url library max_length value = .ok url) :
    bounded_optional_text library max_length value = .ok url := by
  rw [validate_safe_url, bind_eq_ok_iff] at h
  obtain ⟨text, htext, hgiven⟩ := h
  obtain rfl := whenGiven_again (fun _ _ => safe_url_eq) hgiven
  exact htext

theorem optional_of_media_url {max_length : ℕ} {value : Value} {url : Option String}
    (h : validate_public_media_url library max_length value = .ok url) :
    bounded_optional_text library max_length value = .ok url := by
  rw [validate_public_media_url, bind_eq_ok_iff] at h
  obtain ⟨text, htext, hgiven⟩ := h
  obtain rfl := whenGiven_again (fun _ _ => https_url_eq) hgiven
  exact optional_of_safe_url htext

theorem bounded_of_normalize_text {field_name : String} {max_length min_length : ℕ} {value : Value}
    {text : String} (h : _normalize_text library field_name max_length min_length value =
      .valid text) : bounded_text library max_length min_length value = .ok text := by
  cases hvalue : bounded_text library max_length min_length value with
  | error message =>
    rw [_normalize_text, hvalue] at h
    dsimp only at h
    split at h <;> cases h
  | ok accepted =>
    rw [_normalize_text, hvalue] at h
    cases h
    rfl

/-- A narrower column takes exactly the texts that are short enough. -/
theorem all_charField_iff {wide limit : ℕ} {text : Option String}
    (h : text.all (charField wide) = true) :
    text.all (charField limit) = true ↔ ∀ given ∈ text, given.length ≤ limit := by
  cases text with
  | none => exact iff_of_true rfl (by rintro _ ⟨⟩)
  | some text =>
    constructor
    · rintro hfits _ ⟨⟩
      exact (charField_eq_true_iff.mp hfits).1
    · exact fun hlength => charField_of_length h (hlength text rfl)

theorem charField_iff {wide limit : ℕ} {text : String} (h : charField wide text = true) :
    charField limit text = true ↔ text.length ≤ limit :=
  ⟨fun hfits => (charField_eq_true_iff.mp hfits).1, charField_of_length h⟩

theorem positiveInteger_natCast {number : ℕ} :
    positiveInteger number = true ↔ number ≤ 2147483647 := by
  rw [positiveInteger, positiveIntegerMax, decide_eq_true_eq]
  omega

theorem optional_of_normalize {field_name : String} {max_length : ℕ} {value : Value}
    {text : Option String}
    (h : _normalize_optional_text library field_name max_length value = .valid text) :
    bounded_optional_text library max_length value = .ok text := underField_eq_valid_iff.mp h

theorem optional_of_normalize_safe_url {field_name : String} {max_length : ℕ} {value : Value}
    {url : Option String}
    (h : _normalize_safe_url library field_name max_length value = .valid url) :
    bounded_optional_text library max_length value = .ok url :=
  optional_of_safe_url (underField_eq_valid_iff.mp h)

theorem optional_of_normalize_media_url {field_name : String} {max_length : ℕ} {value : Value}
    {url : Option String}
    (h : _normalize_public_media_url library field_name max_length value = .valid url) :
    bounded_optional_text library max_length value = .ok url :=
  optional_of_media_url (underField_eq_valid_iff.mp h)

/-- A telephone number that has passed its check has no more than twenty characters. -/
theorem charField_of_phone {value : Value} {phone : String}
    (h : normalize_phone library value = .ok phone) : charField 30 phone = true := by
  rw [normalize_phone, bind_eq_ok_iff] at h
  obtain ⟨text, htext, hcompact⟩ := h
  obtain ⟨hmatches, hlength, -⟩ := compact_phone_again hcompact
  have hshort := length_le_of_bounded_text htext
  have hbound : TEXT_LIMITS.contact_phone = 20 := rfl
  refine charField_eq_true_iff.mpr ⟨by omega, ?_⟩
  rw [nulFree, decide_eq_true_eq]
  intro hmem
  obtain heq | ⟨hlow, -⟩ := phone_character hmatches hmem
  · cases heq
  · exact absurd hlow (by decide)

/-- An address that its own check accepts unchanged fits its column. -/
theorem charField_of_email (hlibrary : library.Documented) {email : String}
    (h : validate_email library (.text email) = .ok email) :
    charField emailLength email = true := by
  obtain ⟨text, htext, -, hlower⟩ := validate_email_eq_ok_iff.mp h
  obtain ⟨_, ⟨⟩, -, hlimited⟩ := bounded_text_eq_ok_iff.mp htext
  obtain ⟨hstrip, -⟩ := limited_text_eq_ok_iff.mp hlimited
  -- The address is in lower case, so that its normal form is as well and is the address.
  have hsame : text = email := by
    calc text = strip (library.nfc email) := hstrip.symm
      _ = strip (library.nfc (library.lower text)) := by rw [hlower]
      _ = strip (library.lower (library.nfc (library.lower text))) := by
        rw [hlibrary.lower_nfc_lower]
      _ = library.lower (strip (library.nfc (library.lower text))) := hlibrary.strip_lower _
      _ = library.lower text := by rw [hlower, hstrip, hlower]
      _ = email := hlower
  rw [← hsame]
  exact charField_of_bounded htext le_rfl

theorem normalize_email_eq_valid_iff {field_name : String} {value : Value} {email : String} :
    _normalize_email library field_name value = .valid email ↔
      validate_email library value = .ok email := underField_eq_valid_iff

/-! ### Profiles -/

/-- What the columns and the address ask of a profile beyond its validation. -/
structure VendorProfile.Storable (library : TextLibrary) (profile : VendorProfile) : Prop where
  contact_email : validate_email library (.text profile.contact_email) = .ok profile.contact_email
  service_area : profile.service_area.length ≤ 200
  website : ∀ url ∈ profile.website, url.length ≤ 200
  profile_image_url : ∀ url ∈ profile.profile_image_url, url.length ≤ 200
  cover_image_url : ∀ url ∈ profile.cover_image_url, url.length ≤ 200
  version : profile.version ≤ 2147483647

section Profiles

variable {arguments : ProfileArguments} {profile : VendorProfile}

/-- The columns take a profile that its validation accepts unchanged, when it is narrow enough. -/
theorem VendorProfile.fits_iff (hlibrary : library.Documented)
    (hprofile : construct library arguments = .ok profile) :
    profile.validate_invariants library = .ok profile ∧ profile.fits = true ↔
      profile.Storable library := by
  have h := construct_eq_ok_iff.mp hprofile
  have hservice := charField_of_bounded (bounded_of_normalize_text h.service_area) le_rfl
  have hwebsite := all_charField_of_optional (optional_of_normalize_safe_url h.website) le_rfl
  have himage := all_charField_of_optional
    (optional_of_normalize_media_url h.profile_image_url) le_rfl
  have hcover := all_charField_of_optional
    (optional_of_normalize_media_url h.cover_image_url) le_rfl
  constructor
  · rintro ⟨hvalid, hfits⟩
    have hemail := normalize_email_eq_valid_iff.mp (construct_eq_ok_iff.mp hvalid).contact_email
    rw [fits, decide_eq_true_eq] at hfits
    obtain ⟨-, -, -, -, hservice_area, -, -, hurl, hprofile_url, -, hcover_url, -, -, -,
      hversion⟩ := hfits
    exact {
      contact_email := hemail
      service_area := (charField_iff hservice).mp hservice_area
      website := (all_charField_iff hwebsite).mp hurl
      profile_image_url := (all_charField_iff himage).mp hprofile_url
      cover_image_url := (all_charField_iff hcover).mp hcover_url
      version := positiveInteger_natCast.mp hversion }
  · intro hstorable
    refine ⟨validate_of_construct hlibrary hprofile hstorable.contact_email, ?_⟩
    rw [fits, decide_eq_true_eq]
    refine ⟨charField_of_bounded (bounded_of_normalize_text h.business_name) le_rfl, ?_,
      all_charField_of_optional (optional_of_normalize h.custom_category) (by decide),
      nulFree_of_charField (charField_of_bounded (bounded_of_normalize_text h.description) le_rfl),
      (charField_iff hservice).mpr hstorable.service_area,
      charField_of_email hlibrary hstorable.contact_email,
      charField_of_phone (underField_eq_valid_iff.mp h.contact_phone),
      (all_charField_iff hwebsite).mpr hstorable.website,
      (all_charField_iff himage).mpr hstorable.profile_image_url,
      all_charField_of_optional (optional_of_normalize h.profile_image_public_id) le_rfl,
      (all_charField_iff hcover).mpr hstorable.cover_image_url,
      all_charField_of_optional (optional_of_normalize h.cover_image_public_id) le_rfl, ?_,
      all_nulFree_of_all (all_charField_of_optional (optional_of_normalize h.rejection_reason)
        le_rfl), positiveInteger_natCast.mpr hstorable.version⟩
    · cases profile.category <;> decide
    · cases profile.status <;> decide

/-- The greatest of some numbers is at most what each of them is at most. -/
theorem foldl_max_le_iff {numbers : List ℤ} {first bound : ℤ} :
    numbers.foldl max first ≤ bound ↔ first ≤ bound ∧ ∀ number ∈ numbers, number ≤ bound := by
  induction numbers generalizing first with
  | nil => simp
  | cons number numbers ih =>
    rw [List.foldl_cons, ih, max_le_iff, List.forall_mem_cons, and_assoc]

/-- An instant that is there needs no other. -/
theorem some_getD {instant : Option Datetime} (h : instant ≠ none) (other : Datetime) :
    some (instant.getD other) = instant := by
  obtain ⟨_, rfl⟩ := Option.ne_none_iff_exists'.mp h
  rfl

/-- The rules on the lifecycle instants, each read off the complaints about the profile. -/
theorem VendorProfile.lifecycle_of_rules (hrules : profile.invariantErrors library = []) :
    profile.rehydrateInputErrors = [] ∧ (∀ now, profile.modelSave now = { profile with
      rejection_reason :=
        if profile.status = .approved then none else profile.rejection_reason }) ∧
      ∀ instant ∈ profile.lifecycle_values, instant ≤ profile.updated_at := by
  simp only [invariantErrors, lateErrors, complain_eq_nil_iff, List.append_eq_nil_iff] at hrules
  obtain ⟨⟨⟨⟨⟨⟨⟨⟨⟨⟨-, hlifecycle⟩, -⟩, -⟩, -⟩, -⟩, hsubmitted⟩, happroved⟩, hrejected⟩, -⟩, -⟩ := hrules
  have hinstants : ∀ instant ∈ profile.lifecycle_values, instant ≤ profile.updated_at := by
    intro instant hinstant
    simp only [lifecycle_values, List.reduceOption_mem_iff, List.mem_cons, List.not_mem_nil,
      or_false] at hinstant
    obtain heq | heq | heq := hinstant
    · rw [← heq] at hsubmitted
      simpa using hsubmitted
    · rw [← heq] at happroved
      simpa using happroved
    · rw [← heq] at hrejected
      simpa using hrejected
  refine ⟨?_, ?_, hinstants⟩
  · simp only [rehydrateInputErrors, complain_eq_nil_iff, List.append_eq_nil_iff]
    cases hstatus : profile.status <;>
      simp only [lifecycleErrors, hstatus, complain_eq_nil_iff, List.append_eq_nil_iff,
        not_not] at hlifecycle <;>
      simp [hlifecycle]
  · intro now
    rw [lifecycleErrors] at hlifecycle
    cases hstatus : profile.status with
    | draft =>
      simp only [modelSave, hstatus, reduceCtorEq, if_false]
      rw [← hstatus]
    | suspended =>
      simp only [modelSave, hstatus, reduceCtorEq, if_false]
      rw [← hstatus]
    | pending_review =>
      simp only [hstatus, complain_eq_nil_iff, List.append_eq_nil_iff] at hlifecycle
      simp only [modelSave, hstatus, some_getD hlifecycle.1.1, reduceCtorEq, if_false]
    | approved =>
      simp only [hstatus, complain_eq_nil_iff, List.append_eq_nil_iff, not_not] at hlifecycle
      simp only [modelSave, hstatus, some_getD hlifecycle.1.1, some_getD hlifecycle.1.2, hlifecycle.2,
        if_true]
    | rejected =>
      simp only [hstatus, complain_eq_nil_iff, List.append_eq_nil_iff] at hlifecycle
      simp only [modelSave, hstatus, some_getD hlifecycle.1.2, reduceCtorEq, if_false]

/-- Among the instants of a valid profile none moves its `updated_at`. -/
theorem VendorProfile.hydratedUpdatedAt_eq (hrules : profile.invariantErrors library = []) :
    profile.hydratedUpdatedAt = profile.updated_at := by
  obtain ⟨-, -, hinstants⟩ := lifecycle_of_rules hrules
  exact le_antisymm (foldl_max_le_iff.mpr ⟨le_rfl, hinstants⟩) (foldl_max_le_iff.mp le_rfl).1

/-- A row that is a valid profile is reloaded as it is. -/
theorem VendorProfile.reload (hvalid : profile.validate_invariants library = .ok profile) :
    profile._to_domain library = .ok profile := by
  have hrules := (construct_eq_ok_iff.mp hvalid).rules
  obtain ⟨hinput, -, -⟩ := lifecycle_of_rules hrules
  have hrehydrate : rehydrate library profile = .ok ⟨profile, []⟩ := by
    rw [rehydrate, hinput, if_neg (not_not.mpr rfl), hvalid]
    rfl
  rw [_to_domain, hydratedUpdatedAt_eq hrules]
  change Aggregate.entity <$> rehydrate library profile = .ok profile
  rw [hrehydrate]
  rfl

/-- What is reloaded is a normal form of the row. -/
theorem VendorProfile.yield_of_reload {row : VendorProfile}
    (h : row._to_domain library = .ok profile) :
    ({ row with updated_at := row.hydratedUpdatedAt } : VendorProfile).arguments.Yield library
      profile := by
  rw [_to_domain] at h
  cases hrehydrate :
      rehydrate library { row with updated_at := row.hydratedUpdatedAt } with
  | error raised =>
    rw [hrehydrate] at h
    cases h
  | ok loaded =>
    rw [hrehydrate] at h
    cases h
    rw [rehydrate, guard_eq_ok_iff, bind_eq_ok_iff] at hrehydrate
    obtain ⟨-, entity, hvalid, hloaded⟩ := hrehydrate
    cases hloaded
    exact construct_eq_ok_iff.mp hvalid

end Profiles

/-! ### Exact storage -/

/-- What is expected of an object that the domain has accepted: its validation changes nothing,
the columns take its fields, and what is stored is reloaded as an equal object. -/
structure StoredExactly {σ : Type} (validate_invariants : σ → Except Raised σ) (fits : σ → Bool)
    (equal : σ → σ → Prop) (row : Option σ) (_to_domain : σ → Except Raised σ) (domain : σ) :
    Prop where
  again : validate_invariants domain = .ok domain
  fits : fits domain = true
  reloads : ∃ stored, row = some stored ∧
    ∃ loaded, _to_domain stored = .ok loaded ∧ equal loaded domain

/-- The way of storing brings every column to the value of the object. -/
def VendorProfile.Reproduced (profile : VendorProfile) : Storing VendorProfile → Prop
  | .add _ again =>
    { profile with updated_at := again }.hydratedUpdatedAt = profile.updated_at ∧
      (profile.status = .approved → profile.rejection_reason = none)
  | .save before => before.id = profile.id ∧ before.user_id = profile.user_id ∧
    before.created_at = profile.created_at ∧ before.version + 1 = profile.version

theorem VendorProfile.storedExactly_iff (hlibrary : library.Documented)
    {arguments : ProfileArguments} {profile : VendorProfile}
    (hprofile : construct library arguments = .ok profile) (storing : Storing VendorProfile) :
    StoredExactly (validate_invariants library) fits Eq (profile.row storing) (_to_domain library)
        profile ↔
      profile.Storable library ∧ profile.Reproduced storing := by
  have hrules := (construct_eq_ok_iff.mp hprofile).rules
  obtain ⟨-, hsave, -⟩ := lifecycle_of_rules hrules
  constructor
  · rintro ⟨hvalid, hfits, stored, hrow, _, hload, rfl⟩
    refine ⟨(fits_iff hlibrary hprofile).mp ⟨hvalid, hfits⟩, ?_⟩
    have hyield := yield_of_reload hload
    cases storing with
    | add now again =>
      obtain ⟨-, hstored⟩ := Option.ite_none_right_eq_some.mp hrow
      obtain rfl := Option.some.inj hstored
      rw [hsave] at hyield
      refine ⟨Checked.valid.inj hyield.updated_at, fun happroved => ?_⟩
      have hreason := hyield.rejection_reason
      simp only [VendorProfile.arguments, if_pos happroved] at hreason
      exact (Checked.valid.inj hreason).symm
    | save before =>
      obtain ⟨⟨hid, huser_id, -⟩, hstored⟩ := Option.ite_none_right_eq_some.mp hrow
      obtain rfl := Option.some.inj hstored
      have hversion := Checked.eq_of_valid hyield.version (_normalize_version_int _)
      exact ⟨hid, huser_id, Checked.valid.inj hyield.created_at, hversion.symm⟩
  · rintro ⟨hstorable, hreproduced⟩
    obtain ⟨hvalid, hfits⟩ := (fits_iff hlibrary hprofile).mpr hstorable
    refine ⟨hvalid, hfits, ?_⟩
    cases storing with
    | add now again =>
      obtain ⟨hupdated, hreason⟩ := hreproduced
      have hsaved : profile.modelSave now = profile := by
        rw [hsave]
        split_ifs with happroved
        · rw [← hreason happroved]
        · rfl
      refine ⟨{ profile with updated_at := again }, ?_, profile, ?_, rfl⟩
      · rw [row, hsaved]
        exact if_pos hfits
      · have hload := reload hvalid
        rw [_to_domain, hydratedUpdatedAt_eq hrules] at hload
        rw [_to_domain, hupdated]
        exact hload
    | save before =>
      obtain ⟨hid, huser_id, hcreated_at, hversion⟩ := hreproduced
      refine ⟨profile, ?_, profile, reload hvalid, rfl⟩
      rw [row, hcreated_at, hversion]
      exact if_pos ⟨hid, huser_id, hfits⟩

/-! ### Inquiries -/

/-- What the columns and the address ask of an inquiry beyond its validation. -/
structure Inquiry.Storable (library : TextLibrary) (inquiry : Inquiry) : Prop where
  client_email : validate_email library (.text inquiry.client_email) = .ok inquiry.client_email
  version : inquiry.version ≤ 2147483647

/-- The way of storing brings every column to the value of the inquiry. -/
def Inquiry.Reproduced (inquiry : Inquiry) : Storing Inquiry → Prop
  | .add _ _ => True
  | .save before => before.id = inquiry.id ∧ before.vendor_id = inquiry.vendor_id ∧
    before.created_at = inquiry.created_at ∧ before.version + 1 = inquiry.version

theorem charField_of_optional_phone {value : Value} {phone : Option String}
    (h : normalize_optional_phone library value = .ok phone) :
    phone.all (charField 30) = true := by
  rw [normalize_optional_phone, bind_eq_ok_iff] at h
  obtain ⟨text, htext, hgiven⟩ := h
  obtain ⟨-, rfl⟩ | ⟨given, phone, rfl, hne, hcompact, rfl⟩ := whenGiven_eq_ok_iff.mp hgiven
  · exact all_charField_of_optional htext (by decide)
  · obtain ⟨-, ⟨⟩⟩ | ⟨_, -, -, ⟨⟩⟩ | ⟨_, ⟨⟩, hbounded⟩ := bounded_optional_text_eq_ok_iff.mp htext
    · exact absurd rfl hne
    · exact charField_of_phone (bind_eq_ok_iff.mpr ⟨given, hbounded, hcompact⟩)

section Inquiries

variable {arguments : InquiryArguments} {inquiry : Inquiry}

theorem Inquiry.fits_iff (hlibrary : library.Documented)
    (hinquiry : construct library arguments = .ok inquiry) :
    inquiry.validate_invariants library = .ok inquiry ∧ inquiry.fits = true ↔
      inquiry.Storable library := by
  have h := construct_eq_ok_iff.mp hinquiry
  constructor
  · rintro ⟨hvalid, hfits⟩
    rw [fits, decide_eq_true_eq] at hfits
    obtain ⟨-, -, -, -, hversion⟩ := hfits
    exact {
      client_email := normalize_email_eq_valid_iff.mp (construct_eq_ok_iff.mp hvalid).client_email
      version := positiveInteger_natCast.mp hversion }
  · intro hstorable
    refine ⟨validate_of_construct hlibrary hinquiry hstorable.client_email, ?_⟩
    rw [fits, decide_eq_true_eq]
    exact ⟨charField_of_bounded (bounded_of_normalize_text h.client_name) le_rfl,
      charField_of_email hlibrary hstorable.client_email,
      charField_of_optional_phone (underField_eq_valid_iff.mp h.client_phone),
      nulFree_of_charField (charField_of_bounded (bounded_of_normalize_text h.message) le_rfl),
      positiveInteger_natCast.mpr hstorable.version⟩

theorem Inquiry.storedExactly_iff (hlibrary : library.Documented)
    (hinquiry : construct library arguments = .ok inquiry) (storing : Storing Inquiry) :
    StoredExactly (validate_invariants library) fits Eq (inquiry.row storing) (_to_domain library)
        inquiry ↔
      inquiry.Storable library ∧ inquiry.Reproduced storing := by
  constructor
  · rintro ⟨hvalid, hfits, stored, hrow, _, hload, rfl⟩
    refine ⟨(fits_iff hlibrary hinquiry).mp ⟨hvalid, hfits⟩, ?_⟩
    have hyield := construct_eq_ok_iff.mp hload
    cases storing with
    | add now again => trivial
    | save before =>
      obtain ⟨⟨hid, hvendor_id, -⟩, hstored⟩ := Option.ite_none_right_eq_some.mp hrow
      obtain rfl := Option.some.inj hstored
      have hversion := Checked.eq_of_valid hyield.version (_normalize_version_int _)
      exact ⟨hid, hvendor_id, Checked.valid.inj hyield.created_at, hversion.symm⟩
  · rintro ⟨hstorable, hreproduced⟩
    obtain ⟨hvalid, hfits⟩ := (fits_iff hlibrary hinquiry).mpr hstorable
    refine ⟨hvalid, hfits, inquiry, ?_, inquiry, hvalid, rfl⟩
    cases storing with
    | add now again =>
      rw [row]
      exact if_pos hfits
    | save before =>
      obtain ⟨hid, hvendor_id, hcreated_at, hversion⟩ := hreproduced
      rw [row, hcreated_at, hversion]
      exact if_pos ⟨hid, hvendor_id, hfits⟩

end Inquiries

/-! ### Portfolio images -/

/-- What the columns ask of an image beyond its validation. -/
structure PortfolioImage.Storable (image : PortfolioImage) : Prop where
  public_id : image.public_id.length ≤ 200
  secure_url : image.secure_url.length ≤ 200
  local_preview_url : ∀ url ∈ image.local_preview_url, url.length ≤ 200
  cloudinary_secure_url : ∀ url ∈ image.cloudinary_secure_url, url.length ≤ 200
  version : image.version ≤ 2147483647

/-- The way of storing brings every column to the value of the image. -/
def PortfolioImage.Reproduced (others : List ℤ) (image : PortfolioImage) :
    Storing PortfolioImage → Prop
  | .add _ again => again = image.updated_at ∧ ¬(image.isOrdered ∧ image.order ∈ others)
  | .save before => before.id = image.id ∧ before.vendor_id = image.vendor_id ∧
    before.created_at = image.created_at ∧ before.version + 1 = image.version ∧
    ¬(image.isOrdered ∧ image.order ∈ others)

variable (library) in
theorem charField_of_orEmpty {field_name : String} {max_length : ℕ} {value : Value} {text : String}
    {check : String → ℕ → Value → Checked FieldError (Option String)}
    (hcheck : ∀ {given}, check field_name max_length value = .valid given →
      bounded_optional_text library max_length value = .ok given)
    (h : orEmpty (check field_name max_length value) = .valid text) :
    charField max_length text = true := by
  obtain ⟨given, hgiven, rfl⟩ := orEmpty_eq_valid_iff.mp h
  have hall := all_charField_of_optional (hcheck hgiven) le_rfl
  cases given with
  | none => exact charField_eq_true_iff.mpr ⟨Nat.zero_le _, by decide⟩
  | some given => exact hall

/-- An accepted number keeps to its bounds. -/
theorem bounds_of_validate_int {minimum : ℤ} {maximum : Option ℤ} {value : Value} {number : ℤ}
    (h : validate_int minimum maximum value = .ok number) :
    minimum ≤ number ∧ ∀ bound ∈ maximum, number ≤ bound := by
  obtain rfl := validate_int_eq h
  cases maximum with
  | none =>
    simp only [validate_int, guard_eq_ok_iff, pure_eq_ok_iff] at h
    refine ⟨not_lt.mp h.1, ?_⟩
    rintro _ ⟨⟩
  | some maximum =>
    simp only [validate_int, guard_eq_ok_iff, pure_eq_ok_iff] at h
    refine ⟨not_lt.mp h.1, ?_⟩
    rintro _ ⟨⟩
    exact not_lt.mp h.2.1

theorem all_of_validate_optional_int {minimum maximum : ℤ} {value : Value} {number : Option ℤ}
    {p : ℤ → Bool} (h : validate_optional_int minimum (some maximum) value = .ok number)
    (hp : ∀ number, minimum ≤ number → number ≤ maximum → p number = true) :
    number.all p = true := by
  cases value with
  | none =>
    cases h
    rfl
  | int n =>
    cases hint : validate_int minimum (some maximum) (.int n) with
    | error message =>
      simp only [validate_optional_int, hint] at h
      cases h
    | ok result =>
      simp only [validate_optional_int, hint] at h
      cases h
      obtain ⟨hmin, hmax⟩ := bounds_of_validate_int hint
      exact hp result hmin (hmax maximum rfl)
  | _ => cases h

theorem positiveInteger_of_bounds {number : ℤ} (hmin : 0 ≤ number) (hmax : number ≤ 2147483647) :
    positiveInteger number = true := by
  rw [positiveInteger, positiveIntegerMax, decide_eq_true_eq]
  exact ⟨hmin, hmax⟩

section Images

variable {arguments : PortfolioArguments} {image : PortfolioImage} {others : List ℤ}

/-- The file of a valid image is no larger than the limit. -/
theorem PortfolioImage.file_size_le (hrules : image.invariantErrors library = []) :
    image.file_size ≤ MAX_PORTFOLIO_FILE_SIZE := by
  simp only [invariantErrors, complain_eq_nil_iff, List.append_eq_nil_iff] at hrules
  obtain ⟨⟨⟨⟨⟨⟨⟨⟨⟨⟨⟨⟨⟨hsize, -⟩, -⟩, -⟩, -⟩, -⟩, -⟩, -⟩, -⟩, -⟩, -⟩, -⟩, -⟩, -⟩ := hrules
  exact not_lt.mp hsize

/-- The columns take a valid image when it is narrow enough. -/
theorem PortfolioImage.fits_iff (himage : construct library arguments = .ok image) :
    image.fits = true ↔ image.Storable := by
  have h := construct_eq_ok_iff.mp himage
  have hpublic_id := charField_of_orEmpty library optional_of_normalize h.public_id
  have hsecure_url :=
    charField_of_orEmpty library optional_of_normalize_media_url h.secure_url
  have hmime_type := charField_of_orEmpty library optional_of_normalize h.mime_type
  have hpreview := all_charField_of_optional
    (optional_of_normalize_safe_url h.local_preview_url) le_rfl
  have hcloudinary := all_charField_of_optional
    (optional_of_normalize_media_url h.cloudinary_secure_url) le_rfl
  constructor
  · intro hfits
    rw [fits, decide_eq_true_eq] at hfits
    obtain ⟨hid, hurl, -, -, -, -, -, -, -, -, -, -, -, -, hpreview_url, -, hcloudinary_url, -, -,
      -, -, -, hversion⟩ := hfits
    exact {
      public_id := (charField_iff hpublic_id).mp hid
      secure_url := (charField_iff hsecure_url).mp hurl
      local_preview_url := (all_charField_iff hpreview).mp hpreview_url
      cloudinary_secure_url := (all_charField_iff hcloudinary).mp hcloudinary_url
      version := positiveInteger_natCast.mp hversion }
  · intro hstorable
    obtain ⟨horder_min, horder_max⟩ := bounds_of_validate_int (underField_eq_valid_iff.mp h.order)
    have hsize := file_size_le h.rules
    obtain ⟨hsize_min, -⟩ := bounds_of_validate_int (underField_eq_valid_iff.mp h.file_size)
    have hdimension : ∀ number : ℤ, 1 ≤ number → number ≤ MAX_PORTFOLIO_DIMENSION →
        positiveInteger number = true := by
      intro number hmin hmax
      exact positiveInteger_of_bounds (by omega) (hmax.trans (by decide))
    rw [fits, decide_eq_true_eq]
    refine ⟨(charField_iff hpublic_id).mpr hstorable.public_id,
      (charField_iff hsecure_url).mpr hstorable.secure_url, ?_,
      all_charField_of_optional (optional_of_normalize h.caption) le_rfl,
      positiveInteger_of_bounds horder_min ((horder_max _ rfl).trans (by decide)), ?_, ?_, ?_,
      all_nulFree_of_all (all_charField_of_optional (optional_of_normalize h.upload_error) le_rfl),
      all_nulFree_of_all (all_charField_of_optional (optional_of_normalize h.failure_reason)
        le_rfl),
      all_nulFree_of_all (all_charField_of_optional (optional_of_normalize h.rejection_reason)
        le_rfl),
      all_charField_of_optional (optional_of_normalize h.original_filename) le_rfl, hmime_type,
      positiveInteger_of_bounds hsize_min (hsize.trans (by decide)),
      (all_charField_iff hpreview).mpr hstorable.local_preview_url,
      all_charField_of_optional (optional_of_normalize h.cloudinary_public_id) le_rfl,
      (all_charField_iff hcloudinary).mpr hstorable.cloudinary_secure_url,
      all_of_validate_optional_int (underField_eq_valid_iff.mp h.width) hdimension,
      all_of_validate_optional_int (underField_eq_valid_iff.mp h.height) hdimension,
      all_of_validate_optional_int (underField_eq_valid_iff.mp h.duration_seconds) ?_,
      all_of_validate_optional_int (underField_eq_valid_iff.mp h.analyzer_score) ?_,
      all_nulFree_of_all (all_charField_of_optional (optional_of_normalize h.analyzer_summary)
        le_rfl), positiveInteger_natCast.mpr hstorable.version⟩
    · cases image.media_type <;> decide
    · cases image.upload_status <;> decide
    · cases image.quality_status <;> decide
    · cases image.visibility_status <;> decide
    · intro number hmin hmax
      exact positiveInteger_of_bounds hmin (hmax.trans (by decide))
    · intro number hmin hmax
      rw [positiveSmallInteger, decide_eq_true_eq]
      exact ⟨hmin, hmax.trans (by decide)⟩

theorem PortfolioImage.storedExactly_iff (hlibrary : library.Documented)
    (himage : construct library arguments = .ok image) (storing : Storing PortfolioImage) :
    StoredExactly (validate_invariants library) fits Eq (image.row others storing)
        (_to_domain library) image ↔
      image.Storable ∧ image.Reproduced others storing := by
  have hvalid := validate_of_construct hlibrary himage
  constructor
  · rintro ⟨-, hfits, stored, hrow, loaded, hload, rfl⟩
    refine ⟨(fits_iff himage).mp hfits, ?_⟩
    have hyield := construct_eq_ok_iff.mp hload
    cases storing with
    | add now again =>
      obtain ⟨-, hstored⟩ := Option.ite_none_right_eq_some.mp hrow
      obtain rfl := Option.some.inj hstored
      refine ⟨Checked.valid.inj hyield.updated_at, fun hconflict => ?_⟩
      -- The order after the conflict is greater than the orders of the others.
      have horder := hyield.order
      rw [modelSave, if_pos hconflict] at horder
      have hgreater := (foldl_max_le_iff.mp (le_refl (others.foldl max (-1)))).2 _ hconflict.2
      have hsame := validate_int_eq (underField_eq_valid_iff.mp horder)
      have hsame : others.foldl max (-1) + 1 = loaded.order := Value.int.inj hsame
      omega
    | save before =>
      obtain ⟨⟨hid, hvendor_id, -, hfree⟩, hstored⟩ := Option.ite_none_right_eq_some.mp hrow
      obtain rfl := Option.some.inj hstored
      have hversion := Checked.eq_of_valid hyield.version (_normalize_version_int _)
      exact ⟨hid, hvendor_id, Checked.valid.inj hyield.created_at, hversion.symm, hfree⟩
  · rintro ⟨hstorable, hreproduced⟩
    have hfits := (fits_iff himage).mpr hstorable
    refine ⟨hvalid, hfits, image, ?_, image, hvalid, rfl⟩
    cases storing with
    | add now again =>
      obtain ⟨hupdated, hfree⟩ := hreproduced
      rw [row, modelSave, if_neg hfree, hupdated]
      exact if_pos hfits
    | save before =>
      obtain ⟨hid, hvendor_id, hcreated_at, hversion, hfree⟩ := hreproduced
      rw [row, hcreated_at, hversion]
      exact if_pos ⟨hid, hvendor_id, hfits, hfree⟩

end Images

/-! ### Packages -/

/-- Equality of packages, as the dataclass compares them: prices are compared as numbers. -/
def ServicePackage.Equal (first second : ServicePackage) : Prop :=
  first.price.value = second.price.value ∧ { first with price := second.price } = second

theorem ServicePackage.Equal.fields {first second : ServicePackage} (h : first.Equal second) :
    first.rejection_reason = second.rejection_reason ∧
      first.next_vendor_edit_allowed_at = second.next_vendor_edit_allowed_at ∧
      first.version = second.version ∧ first.created_at = second.created_at ∧
      first.updated_at = second.updated_at := by
  refine ⟨?_, ?_, ?_, ?_, ?_⟩ <;> rw [← h.2]

/-- What the columns ask of a package beyond its validation. -/
structure ServicePackage.Storable (package : ServicePackage) : Prop where
  version : package.version ≤ 2147483647

/-- The way of storing brings every column to the value of the package. -/
def ServicePackage.Reproduced (package : ServicePackage) : Storing ServicePackage → Prop
  | .add _ again => again = package.updated_at ∧ (package.approval_status = .approved →
    package.rejection_reason = none ∧ package.next_vendor_edit_allowed_at ≠ none)
  | .save before => before.id = package.id ∧ before.vendor_id = package.vendor_id ∧
    before.created_at = package.created_at ∧ before.version + 1 = package.version

section Prices

/-- A price is accepted when it is a positive number of cents up to the limit. -/
theorem positive_decimal_eq_ok_iff {coefficient exponent : ℤ} :
    positive_decimal library (.decimal (.finite coefficient exponent)) =
        .ok (.finite coefficient exponent) ↔
      0 < coefficient ∧ -2 ≤ exponent ∧
        (Decimal.finite coefficient exponent).value ≤ MAX_PACKAGE_PRICE.value := by
  simp only [positive_decimal, decimalOf, guard_eq_ok_iff, pure_eq_ok_iff, not_le, not_lt,
    PACKAGE_PRICE_SCALE, and_true]

theorem Decimal.value_quantised (coefficient : ℤ) {exponent : ℤ} (h : -2 ≤ exponent) :
    (quantised (.finite coefficient exponent)).value =
      (Decimal.finite coefficient exponent).value := by
  obtain ⟨places, hplaces⟩ := Int.eq_ofNat_of_zero_le (by omega : 0 ≤ exponent + 2)
  obtain rfl : exponent = places - 2 := by omega
  simp only [quantised, value, sub_add_cancel, Int.toNat_natCast, Int.cast_mul, Int.cast_pow,
    Int.cast_ofNat]
  rw [zpow_sub₀ (by decide), zpow_natCast, zpow_neg, div_eq_mul_inv, mul_assoc]

/-- An accepted price is stored as it is and accepted when it comes back. -/
theorem quantised_of_positive_decimal {price : Decimal}
    (h : positive_decimal library (.decimal price) = .ok price) :
    price.quantised.value = price.value ∧ decimalField price = true ∧
      positive_decimal library (.decimal price.quantised) = .ok price.quantised := by
  cases price with
  | special => cases h
  | finite coefficient exponent =>
    obtain ⟨hpositive, hplaces, hlimit⟩ := positive_decimal_eq_ok_iff.mp h
    have hvalue := Decimal.value_quantised coefficient hplaces
    have hpower : (0 : ℤ) < 10 ^ (exponent + 2).toNat := pow_pos (by decide) _
    refine ⟨hvalue, ?_, ?_⟩
    · rw [decimalField, decide_eq_true_eq]
      refine ⟨hplaces, ?_⟩
      rw [← hvalue] at hlimit
      simp only [Decimal.quantised, Decimal.value, MAX_PACKAGE_PRICE] at hlimit
      have hlimit := le_of_mul_le_mul_right hlimit (by positivity)
      have hlimit : coefficient * 10 ^ (exponent + 2).toNat ≤ 999999999999 := by
        exact_mod_cast hlimit
      have hnonneg := mul_pos hpositive hpower
      omega
    · refine positive_decimal_eq_ok_iff.mpr ⟨mul_pos hpositive hpower, le_rfl, ?_⟩
      exact hvalue.trans_le hlimit

end Prices

section Packages

variable {arguments : PackageArguments} {package : ServicePackage}

/-- The rules look at no more of the price than its value. -/
theorem ServicePackage.rules_quantised
    (hprice : positive_decimal library (.decimal package.price) = .ok package.price)
    (hrules : package.invariantErrors library = []) :
    ({ package with price := package.price.quantised } : ServicePackage).invariantErrors library =
      [] := by
  obtain ⟨hvalue, -, hquantised⟩ := quantised_of_positive_decimal hprice
  rw [← hrules]
  simp only [invariantErrors, validate_service_package_rules, hprice, hquantised, hvalue]

theorem ServicePackage.price_of_construct (h : construct library arguments = .ok package) :
    positive_decimal library (.decimal package.price) = .ok package.price :=
  underField_eq_valid_iff.mp (stable_normalize_price (construct_eq_ok_iff.mp h).price)

/-- The columns take a valid package with a version that fits. -/
theorem ServicePackage.fits_iff (hpackage : construct library arguments = .ok package) :
    package.fits = true ↔ package.Storable := by
  have h := construct_eq_ok_iff.mp hpackage
  obtain ⟨-, hprice, -⟩ := quantised_of_positive_decimal (price_of_construct hpackage)
  constructor
  · intro hfits
    rw [fits, decide_eq_true_eq] at hfits
    obtain ⟨-, -, -, -, -, -, -, hversion⟩ := hfits
    exact ⟨positiveInteger_natCast.mp hversion⟩
  · intro hstorable
    have hcurrency : charField 3 package.currency = true := by
      rw [currency_of_construct hpackage]
      decide
    rw [fits, decide_eq_true_eq]
    refine ⟨charField_of_bounded (bounded_of_normalize_text h.name) le_rfl,
      nulFree_of_charField (charField_of_bounded (bounded_of_normalize_text h.description) le_rfl),
      hprice, hcurrency, ?_, ?_,
      all_nulFree_of_all (all_charField_of_optional (optional_of_normalize h.rejection_reason)
        le_rfl), positiveInteger_natCast.mpr hstorable.version⟩
    · cases package.package_tier <;> decide
    · cases package.approval_status <;> decide

/-- A valid package keeps the constraints of its table, passes the checks of `rehydrate`, and is
completed by `save` of the model in what an approved package may lack. -/
theorem ServicePackage.state_of_construct (hpackage : construct library arguments = .ok package) :
    package.meetsConstraints = true ∧ package.rehydrationErrors = [] ∧
      (package.approval_status = .approved → package.last_approved_at ≠ none) := by
  have hrules := (construct_eq_ok_iff.mp hpackage).rules
  simp only [invariantErrors, complain_eq_nil_iff, List.append_eq_nil_iff] at hrules
  obtain ⟨⟨⟨⟨⟨⟨⟨⟨hinactive, hdeleted_at⟩, happroved⟩, hwaiting⟩, hrejected⟩, hreason⟩, hnone⟩, -⟩, -⟩ :=
    hrules
  refine ⟨?_, ?_, ?_⟩
  · rw [meetsConstraints, decide_eq_true_eq]
    refine ⟨currency_of_construct hpackage, ?_, ?_, ?_, ?_, ?_, ?_, ?_⟩
    · exact (not_and_or.mp hinactive).imp Bool.eq_false_iff.mpr Bool.eq_false_iff.mpr
    · exact (not_and_or.mp hdeleted_at).imp_left Bool.eq_false_iff.mpr
    · exact (not_and_or.mp hwaiting).imp_right Bool.eq_false_iff.mpr
    · exact not_and_or.mp happroved
    · exact (not_and_or.mp hrejected).imp_right Bool.eq_false_iff.mpr
    · exact not_and_or.mp hreason
    · exact (not_and_or.mp hnone).imp not_not.mp not_not.mp
  · simp only [rehydrationErrors, complain_eq_nil_iff, List.append_eq_nil_iff]
    exact ⟨happroved, hdeleted_at⟩
  · exact fun hstatus hmissing => happroved ⟨hstatus, hmissing⟩

/-- A row that is a valid package, with its price in cents, is reloaded as an equal package. -/
theorem ServicePackage.reload (hvalid : package.validate_invariants library = .ok package) :
    ({ package with price := package.price.quantised } : ServicePackage)._to_domain library =
      .ok { package with price := package.price.quantised } := by
  have hprice := price_of_construct hvalid
  obtain ⟨-, -, hquantised⟩ := quantised_of_positive_decimal hprice
  obtain ⟨-, hinput, -⟩ := state_of_construct hvalid
  have hyield := construct_eq_ok_iff.mp hvalid
  have hagain : validate_invariants library { package with price := package.price.quantised } =
      .ok { package with price := package.price.quantised } :=
    construct_eq_ok_iff.mpr { hyield with
      price := underField_eq_valid_iff.mpr hquantised
      rules := rules_quantised hprice hyield.rules }
  have hrehydrate : rehydrate library { package with price := package.price.quantised } =
      .ok ⟨{ package with price := package.price.quantised }, []⟩ := by
    rw [rehydrate, hagain]
    exact if_neg (not_not.mpr hinput)
  rw [_to_domain, hrehydrate]
  rfl

/-- What is reloaded is a normal form of the row. -/
theorem ServicePackage.yield_of_reload {row : ServicePackage}
    (h : row._to_domain library = .ok package) : row.arguments.Yield library package := by
  rw [_to_domain] at h
  cases hrehydrate : rehydrate library row with
  | error raised =>
    rw [hrehydrate] at h
    cases h
  | ok loaded =>
    rw [hrehydrate] at h
    cases h
    rw [rehydrate, guard_eq_ok_iff, bind_eq_ok_iff] at hrehydrate
    obtain ⟨-, entity, hvalid, hloaded⟩ := hrehydrate
    cases hloaded
    exact construct_eq_ok_iff.mp hvalid

theorem ServicePackage.storedExactly_iff (hlibrary : library.Documented)
    (hpackage : construct library arguments = .ok package) (storing : Storing ServicePackage) :
    StoredExactly (validate_invariants library) fits Equal (package.row storing)
        (_to_domain library) package ↔
      package.Storable ∧ package.Reproduced storing := by
  have hvalid := validate_of_construct hlibrary hpackage
  obtain ⟨hchecked, -, hat⟩ := state_of_construct hpackage
  obtain ⟨hvalue, -, -⟩ := quantised_of_positive_decimal (price_of_construct hpackage)
  constructor
  · rintro ⟨-, hfits, stored, hrow, loaded, hload, hequal⟩
    refine ⟨(fits_iff hpackage).mp hfits, ?_⟩
    have hyield := yield_of_reload hload
    obtain ⟨hreason, hnext, hversion, hcreated_at, hupdated_at⟩ := hequal.fields
    cases storing with
    | add now again =>
      obtain ⟨-, hstored⟩ := Option.ite_none_right_eq_some.mp hrow
      obtain rfl := Option.some.inj hstored
      have hagain : again = loaded.updated_at := Checked.valid.inj hyield.updated_at
      refine ⟨hagain.trans hupdated_at, fun happroved => ?_⟩
      have hreason_row := hyield.rejection_reason
      have hnext_row := hyield.next_vendor_edit_allowed_at
      simp only [ServicePackage.arguments, modelSave, if_pos happroved] at hreason_row hnext_row
      have hreason_row : none = loaded.rejection_reason := Checked.valid.inj hreason_row
      refine ⟨hreason.symm.trans hreason_row.symm, ?_⟩
      rw [← hnext, datetime_kept hnext_row]
      exact Option.some_ne_none _
    | save before =>
      obtain ⟨⟨hid, hvendor_id, -⟩, hstored⟩ := Option.ite_none_right_eq_some.mp hrow
      obtain rfl := Option.some.inj hstored
      have hversion_row := Checked.eq_of_valid hyield.version (_normalize_version_int _)
      have hcreated_row : before.created_at = loaded.created_at :=
        Checked.valid.inj hyield.created_at
      exact ⟨hid, hvendor_id, hcreated_row.trans hcreated_at, hversion_row.symm.trans hversion⟩
  · rintro ⟨hstorable, hreproduced⟩
    have hfits := (fits_iff hpackage).mpr hstorable
    refine ⟨hvalid, hfits, { package with price := package.price.quantised }, ?_,
      _, reload hvalid, hvalue, rfl⟩
    cases storing with
    | add now again =>
      obtain ⟨rfl, happroved⟩ := hreproduced
      have hsaved : package.modelSave now = package := by
        rw [modelSave]
        split_ifs with hstatus
        · obtain ⟨hreason, hnext⟩ := happroved hstatus
          simp only [some_getD (hat hstatus), some_getD hnext]
          rw [← hreason]
        · rfl
      rw [row, hsaved]
      exact if_pos ⟨hfits, hchecked⟩
    | save before =>
      obtain ⟨hid, hvendor_id, hcreated_at, hversion⟩ := hreproduced
      rw [row, hcreated_at, hversion]
      exact if_pos ⟨hid, hvendor_id, hfits, hchecked⟩

end Packages

/-! ### The four aggregates -/

/-- An object that the domain has accepted is validated, stored and reloaded without a change
exactly when it is narrow enough for the columns, its e-mail address passes its own check
unchanged, and the way of storing leaves every column at the value of the object. -/
theorem vendor_storage_exact (hlibrary : library.Documented) {profile : VendorProfile}
    {package : ServicePackage} {image : PortfolioImage} {inquiry : Inquiry}
    (hprofile : profile.Constructible library) (hpackage : package.Constructible library)
    (himage : image.Constructible library) (hinquiry : inquiry.Constructible library) :
    (∀ storing, StoredExactly (VendorProfile.validate_invariants library) VendorProfile.fits Eq
        (profile.row storing) (VendorProfile._to_domain library) profile ↔
      profile.Storable library ∧ profile.Reproduced storing) ∧
    (∀ storing, StoredExactly (ServicePackage.validate_invariants library) ServicePackage.fits
        ServicePackage.Equal (package.row storing) (ServicePackage._to_domain library) package ↔
      package.Storable ∧ package.Reproduced storing) ∧
    (∀ others storing, StoredExactly (PortfolioImage.validate_invariants library)
        PortfolioImage.fits Eq (image.row others storing) (PortfolioImage._to_domain library)
        image ↔
      image.Storable ∧ image.Reproduced others storing) ∧
    ∀ storing, StoredExactly (Inquiry.validate_invariants library) Inquiry.fits Eq
        (inquiry.row storing) (Inquiry._to_domain library) inquiry ↔
      inquiry.Storable library ∧ inquiry.Reproduced storing := by
  obtain ⟨_, hprofile⟩ := hprofile
  obtain ⟨_, hpackage⟩ := hpackage
  obtain ⟨_, himage⟩ := himage
  obtain ⟨_, hinquiry⟩ := hinquiry
  exact ⟨VendorProfile.storedExactly_iff hlibrary hprofile,
    ServicePackage.storedExactly_iff hlibrary hpackage,
    fun _ => PortfolioImage.storedExactly_iff hlibrary himage,
    Inquiry.storedExactly_iff hlibrary hinquiry⟩

/-- An inquiry as it is received. -/
def sampleInquiry : Inquiry where
  id := 1
  vendor_id := 2
  client_name := "Aline"
  client_email := "aline@example.rw"
  message := "Is the hall free in June?"
  client_phone := none
  event_date := none
  is_read := false
  version := 0
  created_at := 0
  requester_user_id := none

/-- The samples, where the inquiry is a new row. -/
theorem vendor_storage_exact_sample :
    StoredExactly (Inquiry.validate_invariants asciiLibrary) Inquiry.fits Eq
        (sampleInquiry.row (.add 0 0)) (Inquiry._to_domain asciiLibrary) sampleInquiry ↔
      sampleInquiry.Storable asciiLibrary ∧ sampleInquiry.Reproduced (.add 0 0) := by
  have hpackage : ServicePackage.construct asciiLibrary samplePackage.entity.arguments =
      .ok samplePackage.entity := by decide +kernel
  have himage : PortfolioImage.construct asciiLibrary sampleUpload = .ok sampleImage := by
    decide +kernel
  have hinquiry : Inquiry.construct asciiLibrary sampleInquiry.arguments = .ok sampleInquiry := by
    decide +kernel
  exact (vendor_storage_exact asciiLibrary_documented ⟨_, construct_sampleProfile⟩ ⟨_, hpackage⟩
    ⟨_, himage⟩ ⟨_, hinquiry⟩).2.2.2 (.add 0 0)

/-- A service area of so many letters. -/
def letters (length : ℕ) : String := String.ofList (List.replicate length 'a')

theorem length_letters (length : ℕ) : (letters length).length = length := by
  rw [letters, String.length_ofList, List.length_replicate]

theorem bounded_letters (length : ℕ) (hpos : 0 < length)
    (hle : length ≤ TEXT_LIMITS.service_area) :
    bounded_text asciiLibrary TEXT_LIMITS.service_area 1 (.text (letters length)) =
      .ok (letters length) := by
  have hletter : ∀ c ∈ (letters length).toList, c = 'a' := by
    rw [letters, String.toList_ofList]
    exact fun c hc => List.eq_of_mem_replicate hc
  have hlength := length_letters length
  refine bounded_text_ascii asciiLibrary_documented ?_ ?_ ?_ ?_ ?_ ?_
  · intro c hc
    rw [hletter c hc]
    decide
  · intro c hc
    rw [hletter c hc]
    decide
  · intro h
    rw [h] at hlength
    exact absurd hlength hpos.ne
  · refine List.any_eq_false.mpr fun c hc => ?_
    rw [hletter c hc]
    decide
  · rw [hlength]
    exact hpos
  · rw [hlength]
    exact hle

/-- The sample profile in another area. -/
def profileIn (area : String) : VendorProfile := { sampleProfile with service_area := area }

theorem constructible_profileIn {area : String}
    (h : bounded_text asciiLibrary TEXT_LIMITS.service_area 1 (.text area) = .ok area) :
    (profileIn area).Constructible asciiLibrary := by
  have hsample := VendorProfile.construct_eq_ok_iff.mp construct_sampleProfile
  refine ⟨{ sampleProfile.updated sampleResend with service_area := .text area },
    VendorProfile.construct_eq_ok_iff.mpr { hsample with service_area := ?_ }⟩
  rw [_normalize_text, h]
  rfl

/-- An area of more than 200 characters is too wide for its column. -/
theorem row_profileIn (area : String) (h : 200 < area.length) :
    (profileIn area).row (.add 0 0) = none := by
  rw [VendorProfile.row]
  refine if_neg fun hfits => ?_
  rw [VendorProfile.fits, decide_eq_true_eq] at hfits
  have hlength : area.length ≤ 200 := (charField_eq_true_iff.mp hfits.2.2.2.2.1).1
  omega

/-- The domain accepts a service area of 201 characters, and its column does not. -/
theorem wide_profile_not_stored :
    (profileIn (letters 201)).Constructible asciiLibrary ∧
      (profileIn (letters 201)).row (.add 0 0) = none ∧
      ¬StoredExactly (VendorProfile.validate_invariants asciiLibrary) VendorProfile.fits Eq
        ((profileIn (letters 201)).row (.add 0 0)) (VendorProfile._to_domain asciiLibrary)
        (profileIn (letters 201)) := by
  have hbounded := bounded_letters 201 (by decide) (by decide)
  have hrow := row_profileIn (letters 201) (by rw [length_letters]; decide)
  refine ⟨constructible_profileIn hbounded, hrow, ?_⟩
  rintro ⟨-, -, stored, hstored, -⟩
  cases hrow.symm.trans hstored

end Linkapro.Vendors
