import Linkapro.Vendors.PortfolioApproval

/-!
# Captions that change nothing

`update_caption` returns at once when the new caption is the stored one. The stored caption
has been normalised and the new one has not, so a caption that differs from the stored one
only before its normalisation is committed as a change.
-/

namespace Linkapro.Vendors

open Lib (Checked Stable)

variable {library : TextLibrary}

/-- The normalisation that the entity makes of a caption. -/
def normalisedCaption (library : TextLibrary) (caption : Option String) :
    Checked FieldError (Option String) :=
  _normalize_optional_text library "caption" TEXT_LIMITS.caption (.ofText caption)

/-- The new caption is the stored one after the normalisation of the entity. -/
def SameCaption (library : TextLibrary) (image : PortfolioImage) (caption : Option String) :
    Prop :=
  normalisedCaption library caption = .valid image.caption

instance (image : PortfolioImage) (caption : Option String) :
    Decidable (SameCaption library image caption) :=
  inferInstanceAs (Decidable (_ = _))

/-- A call of `update_caption` on an image object. -/
def captionCall (library : TextLibrary) (reading : Reading) (caption : Option String)
    (self : Aggregate PortfolioImage PortfolioEvent) :
    Except Raised Unit × Aggregate PortfolioImage PortfolioEvent :=
  self.call (PortfolioImage.kind library)
    (PortfolioImage.update_caption library reading (.ofText caption))

/-- What `replace` passes to the constructor for a caption that is not the stored one. -/
def captionArguments (image : PortfolioImage) (reading : Reading) (caption : Option String) :
    PortfolioArguments :=
  { image.arguments with
    caption := .ofText caption
    visibility_status := .text (if image.visibility_status = .approved then
      PortfolioVisibilityStatus.waiting_approval.value else image.visibility_status.value)
    updated_at := .datetime reading.now }

/-- The candidate of a caption that is not the stored one. -/
def captionCandidate (image : PortfolioImage) (reading : Reading) (caption : Option String) :
    PortfolioImage :=
  { image with
    caption
    visibility_status :=
      if image.visibility_status = .approved then .waiting_approval else image.visibility_status
    updated_at := reading.now }

/-- A caption takes no part in the rules about the image, and an image that leaves the public
for its review keeps them. -/
theorem rules_captionCandidate {image : PortfolioImage}
    (hrules : image.invariantErrors library = []) (reading : Reading) (caption : Option String) :
    (captionCandidate image reading caption).invariantErrors library = [] := by
  simp only [PortfolioImage.invariantErrors, complain_eq_nil_iff,
    List.append_eq_nil_iff] at hrules ⊢
  simp only [PortfolioImage.publicUrl, captionCandidate] at hrules ⊢
  obtain ⟨⟨⟨⟨⟨hfields, happroved⟩, hfailed⟩, hactive⟩, hdeleted⟩, hdeleted_at⟩ := hrules
  refine ⟨⟨⟨⟨⟨hfields, ?_⟩, ?_⟩, hactive⟩, ?_⟩, hdeleted_at⟩
  · by_cases hvisibility : image.visibility_status = .approved
    · rw [if_pos hvisibility]
      rintro ⟨⟨⟩, -⟩
    · rw [if_neg hvisibility]
      exact happroved
  · by_cases hvisibility : image.visibility_status = .approved
    · rintro ⟨hupload, -⟩
      refine happroved ⟨hvisibility, .inr (.inr (.inl ?_))⟩
      rw [hupload]
      decide
    · rw [if_neg hvisibility]
      exact hfailed
  · by_cases hvisibility : image.visibility_status = .approved
    · rw [if_pos hvisibility]
      rintro ⟨-, ⟨⟩⟩
    · rw [if_neg hvisibility]
      exact hdeleted

section Calls

variable {self : Aggregate PortfolioImage PortfolioEvent} {reading : Reading}
  {caption : Option String}

variable (reading) in
/-- A new caption is put on the image in its normalised form. -/
theorem construct_captionCandidate {image : PortfolioImage} {text : Option String}
    (hvalid : image.validate_invariants library = .ok image)
    (htext : normalisedCaption library caption = .valid text) :
    PortfolioImage.construct library (captionArguments image reading caption) =
      .ok (captionCandidate image reading text) := by
  have hyield := PortfolioImage.construct_eq_ok_iff.mp hvalid
  refine PortfolioImage.construct_eq_ok_iff.mpr { hyield with
    caption := htext
    visibility_status := ?_
    updated_at := rfl
    rules := rules_captionCandidate hyield.rules reading text }
  rw [captionArguments]
  change _ = Checked.valid (if image.visibility_status = .approved then
    PortfolioVisibilityStatus.waiting_approval else image.visibility_status)
  by_cases hvisibility : image.visibility_status = .approved
  · rw [if_pos hvisibility, if_pos hvisibility]
    exact PortfolioVisibilityStatus._normalize_value _ _
  · rw [if_neg hvisibility, if_neg hvisibility]
    exact PortfolioVisibilityStatus._normalize_value _ _

variable (library reading caption) in
theorem captionCall_of_deleted (h : self.entity.is_deleted = true) :
    ∃ raised, captionCall library reading caption self = (.error raised, self) := by
  refine ⟨InvalidPortfolioTransition "Deleted portfolio media cannot be changed.", ?_⟩
  have hoperation : PortfolioImage.update_caption library reading (.ofText caption) self.entity =
      .error (InvalidPortfolioTransition "Deleted portfolio media cannot be changed.") := by
    rw [PortfolioImage.update_caption, PortfolioImage.ensure_mutable, if_pos h]
    rfl
  rw [captionCall, Aggregate.call, hoperation]

variable (library reading) in
theorem captionCall_of_eq (hkept : self.entity.is_deleted = false)
    (h : caption = self.entity.caption) :
    captionCall library reading caption self = (.ok (), self) := by
  have hoperation : PortfolioImage.update_caption library reading (.ofText caption) self.entity =
      .ok .unchanged := by
    rw [PortfolioImage.update_caption, PortfolioImage.ensure_mutable, hkept, if_neg (by decide),
      if_pos (congrArg Value.ofText h)]
    rfl
  rw [captionCall, Aggregate.call, hoperation]

theorem ofText_ne {first second : Option String} (h : first ≠ second) :
    Value.ofText first ≠ .ofText second := by
  cases first <;> cases second <;> simp_all [Value.ofText]

variable (library reading) in
/-- The operation on a caption that is not the stored one. -/
theorem update_caption_of_ne (hkept : self.entity.is_deleted = false)
    (h : caption ≠ self.entity.caption) :
    PortfolioImage.update_caption library reading (.ofText caption) self.entity =
      (do
        let candidate ← PortfolioImage.construct library
          (captionArguments self.entity reading caption)
        return .commit candidate (PortfolioImage.recorded self.entity reading candidate.updated_at
          .PortfolioCaptionUpdated)) := by
  rw [PortfolioImage.update_caption, PortfolioImage.ensure_mutable, hkept, if_neg (by decide),
    if_neg (ofText_ne h)]
  rfl

variable (reading) in
/-- A caption that is not the stored one is committed when its normalisation accepts it, even
when that leads back to the stored one. -/
theorem captionCall_of_valid (hlibrary : library.Documented)
    (hvalid : self.entity.validate_invariants library = .ok self.entity)
    (hkept : self.entity.is_deleted = false) (h : caption ≠ self.entity.caption)
    {text : Option String} (htext : normalisedCaption library caption = .valid text) :
    ∃ events, captionCall library reading caption self =
      (.ok (), {
        entity := { captionCandidate self.entity reading text with
          version := self.entity.version + 1 }
        events }) := by
  have hconstruct := construct_captionCandidate reading hvalid htext
  have hoperation := update_caption_of_ne library reading hkept h
  rw [hconstruct] at hoperation
  exact ⟨_, Aggregate.call_of_commit (PortfolioImage.kind library) hoperation
    (PortfolioImage.validate_of_construct hlibrary hconstruct)⟩

variable (reading) in
theorem captionCall_of_invalid (hkept : self.entity.is_deleted = false)
    (h : caption ≠ self.entity.caption)
    (htext : ∀ text, normalisedCaption library caption ≠ .valid text) :
    ∃ raised, captionCall library reading caption self = (.error raised, self) := by
  have hoperation := update_caption_of_ne library reading hkept h
  cases hconstruct : PortfolioImage.construct library
      (captionArguments self.entity reading caption) with
  | ok candidate =>
    have hyield := PortfolioImage.construct_eq_ok_iff.mp hconstruct
    exact absurd hyield.caption (htext candidate.caption)
  | error raised =>
    rw [hconstruct] at hoperation
    refine ⟨raised, ?_⟩
    rw [captionCall, Aggregate.call, hoperation]
    rfl

end Calls

/-- What is expected of `update_caption`: it changes nothing exactly when the new caption is the
stored one after the normalisation. A call that is refused changes nothing either, and only a
deleted image or a caption that the normalisation refuses is. -/
structure CaptionExact (library : TextLibrary) (reading : Reading)
    (image : Aggregate PortfolioImage PortfolioEvent) (caption : Option String) : Prop where
  answered : (captionCall library reading caption image).1 = .ok () →
    ((captionCall library reading caption image).2 = image ↔
      SameCaption library image.entity caption)
  refused : ∀ raised, (captionCall library reading caption image).1 = .error raised →
    (captionCall library reading caption image).2 = image ∧
      (image.entity.is_deleted = true ∨ ∀ text, normalisedCaption library caption ≠ .valid text)

/-- A caption changes nothing exactly when its normal form is the stored one, except for a
caption that differs from the stored one in what the normalisation takes away. -/
theorem captionExact_iff (hlibrary : library.Documented) (reading : Reading)
    {self : Aggregate PortfolioImage PortfolioEvent}
    (hvalid : self.entity.validate_invariants library = .ok self.entity)
    (caption : Option String) :
    CaptionExact library reading self caption ↔
      (self.entity.is_deleted = true ∨ caption = self.entity.caption ∨
        ¬SameCaption library self.entity caption) := by
  have hsame : caption = self.entity.caption → SameCaption library self.entity caption := by
    rintro rfl
    exact (PortfolioImage.construct_eq_ok_iff.mp hvalid).caption
  cases hdeleted : self.entity.is_deleted with
  | true =>
    obtain ⟨raised, hcall⟩ := captionCall_of_deleted library reading caption hdeleted
    refine iff_of_true ⟨?_, ?_⟩ (.inl rfl)
    · intro hanswer
      rw [hcall] at hanswer
      cases hanswer
    · intro _ _
      rw [hcall]
      exact ⟨rfl, .inl hdeleted⟩
  | false =>
    by_cases hstored : caption = self.entity.caption
    · have hcall := captionCall_of_eq library reading hdeleted hstored
      refine iff_of_true ⟨?_, ?_⟩ (.inr (.inl hstored))
      · intro _
        rw [hcall]
        exact iff_of_true rfl (hsame hstored)
      · intro _ hanswer
        rw [hcall] at hanswer
        cases hanswer
    cases htext : normalisedCaption library caption with
    | invalid complaints =>
      have hrefused : ∀ text, normalisedCaption library caption ≠ .valid text := by
        intro text h
        cases htext.symm.trans h
      obtain ⟨raised, hcall⟩ := captionCall_of_invalid reading hdeleted hstored hrefused
      refine iff_of_true ⟨?_, ?_⟩ (.inr (.inr (hrefused _)))
      · intro hanswer
        rw [hcall] at hanswer
        cases hanswer
      · intro _ _
        rw [hcall]
        exact ⟨rfl, .inr hrefused⟩
    | valid text =>
      obtain ⟨events, hcall⟩ := captionCall_of_valid reading hlibrary hvalid hdeleted
        hstored htext
      have hchanged : (captionCall library reading caption self).2 ≠ self := by
        intro h
        rw [hcall] at h
        have hversion := congrArg (fun image => image.entity.version) h
        exact Nat.succ_ne_self _ hversion
      constructor
      · intro hexact
        have hanswer := hexact.answered (by rw [hcall])
        exact .inr (.inr fun hnormal => hchanged (hanswer.mpr hnormal))
      · rintro (⟨⟨⟩⟩ | heq | hother)
        · exact absurd heq hstored
        · refine ⟨fun _ => iff_of_false hchanged hother, ?_⟩
          intro _ hanswer
          rw [hcall] at hanswer
          cases hanswer

/-- The image has an asset, has been reviewed and is shown. -/
def shownImage : PortfolioImage :=
  { sampleImage with
    public_id := "media/1"
    secure_url := "https://media.example/1.jpg"
    cloudinary_public_id := some "media/1"
    cloudinary_secure_url := some "https://media.example/1.jpg"
    upload_status := .uploaded
    quality_status := .passed
    visibility_status := .approved
    version := 6 }

/-- A caption that is refused, on the image that is shown. -/
theorem captionExact_iff_sample :
    CaptionExact asciiLibrary ⟨0, 0, 7⟩ ⟨shownImage, []⟩ (some "\n!\n!") ↔
      (shownImage.is_deleted = true ∨ some "\n!\n!" = shownImage.caption ∨
        ¬SameCaption asciiLibrary shownImage (some "\n!\n!")) := by
  have hvalid : shownImage.validate_invariants asciiLibrary = .ok shownImage := by
    decide +kernel
  exact captionExact_iff asciiLibrary_documented ⟨0, 0, 7⟩ hvalid (some "\n!\n!")

/-- A space after the stored caption takes the image out of the public. -/
theorem spaced_caption_unpublishes :
    SameCaption asciiLibrary shownImage (some "A table by the lake ") ∧
      (captionCall asciiLibrary ⟨0, 0, 7⟩ (some "A table by the lake ")
        ⟨shownImage, []⟩).2.entity.visibility_status = .waiting_approval ∧
      ¬CaptionExact asciiLibrary ⟨0, 0, 7⟩ ⟨shownImage, []⟩ (some "A table by the lake ") := by
  have hsame : SameCaption asciiLibrary shownImage (some "A table by the lake ") := by
    decide +kernel
  have hanswer : (captionCall asciiLibrary ⟨0, 0, 7⟩ (some "A table by the lake ")
      ⟨shownImage, []⟩).1 = .ok () := by
    decide +kernel
  have hvisibility : (captionCall asciiLibrary ⟨0, 0, 7⟩ (some "A table by the lake ")
      ⟨shownImage, []⟩).2.entity.visibility_status = .waiting_approval := by
    decide +kernel
  refine ⟨hsame, hvisibility, fun hexact => ?_⟩
  rw [(hexact.answered hanswer).mpr hsame] at hvisibility
  cases hvisibility

end Linkapro.Vendors
