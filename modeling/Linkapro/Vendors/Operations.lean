import Linkapro.Vendors.Packages
import Linkapro.Vendors.Portfolio
import Linkapro.Vendors.Profile
import Linkapro.Vendors.Inquiries

/-!
# The law of the domain operations

Every operation of the four vendor entities looks at the object, builds a candidate and
commits it. A call that raises leaves the object alone; a call that commits leaves a valid
object, one version higher, with at most one new event of that version. A call that returns
early leaves the object as it is, valid or not.
-/

namespace Linkapro.Vendors

variable {ω σ κ : Type}

/-! ### What a call may do -/

/-- The object passes its validation. -/
def Satisfies (kind : EntityKind σ) (entity : σ) : Prop :=
  ∃ normalised, kind.validate_invariants entity = .ok normalised

/-- At most one event is new, and it carries the version after the call. -/
def RecordsOne (kind : EntityKind σ) (before after : Aggregate σ κ) : Prop :=
  after.events = before.events ∨
    ∃ event, after.events = before.events ++ [event] ∧
      event.aggregate_version = kind.version after.entity

/-- The call has raised and left the object alone, or it has left a valid object that is the
one before or is one version higher. -/
def LawfulCall (kind : EntityKind σ) (step : Performed ω σ κ) : Prop :=
  (∃ raised, step.answer = .error raised) ∧ step.after = step.before ∨
  step.answer = .ok () ∧ Satisfies kind step.after.entity ∧
    (step.after = step.before ∨
      kind.version step.after.entity = kind.version step.before.entity + 1 ∧
        RecordsOne kind step.before step.after)

/-! ### What an operation commits -/

/-- A property of everything that a computation commits. -/
def Commits (holds : σ → Option (ℕ → VendorDomainEvent κ) → Prop)
    (result : Except Raised (Change σ κ)) : Prop :=
  ∀ candidate event_factory, result = .ok (.commit candidate event_factory) →
    holds candidate event_factory

namespace Commits

variable {α : Type} {holds : σ → Option (ℕ → VendorDomainEvent κ) → Prop}
  {rest : Except Raised (Change σ κ)} {condition : Prop} [Decidable condition]

theorem bind {first : Except Raised α} {next : α → Except Raised (Change σ κ)}
    (h : ∀ value, first = .ok value → Commits holds (next value)) :
    Commits holds (first >>= next) := by
  intro candidate event_factory hresult
  obtain ⟨value, hfirst, hnext⟩ := bind_eq_ok_iff.mp hresult
  exact h value hfirst candidate event_factory hnext

theorem guard {raised : Raised} {jump : α → Except Raised (Change σ κ)}
    (h : Commits holds rest) :
    Commits holds (if condition then throw raised >>= jump else rest) := by
  intro candidate event_factory hresult
  exact h candidate event_factory (guard_eq_ok_iff.mp hresult).2

theorem early_return (h : Commits holds rest) :
    Commits holds (if condition then pure .unchanged else rest) := by
  intro candidate event_factory hresult
  exact h candidate event_factory (early_return_eq_commit_iff.mp hresult).2

theorem commit {candidate : σ} {event_factory : Option (ℕ → VendorDomainEvent κ)}
    (h : holds candidate event_factory) :
    Commits holds (pure (.commit candidate event_factory)) := by
  intro candidate' event_factory' hresult
  obtain ⟨rfl, rfl⟩ := Change.commit.inj (pure_eq_ok_iff.mp hresult)
  exact h

end Commits

/-- The event, if there is one, carries the version it is made with. -/
def Stamped (event_factory : Option (ℕ → VendorDomainEvent κ)) : Prop :=
  ∀ factory ∈ event_factory, ∀ version, (factory version).aggregate_version = version

theorem stamped_none : Stamped (none : Option (ℕ → VendorDomainEvent κ)) := by
  intro _ h
  cases h

theorem stamped_some {factory : ℕ → VendorDomainEvent κ}
    (h : ∀ version, (factory version).aggregate_version = version) : Stamped (some factory) := by
  intro _ hfactory
  cases hfactory
  exact h

/-- A candidate comes from the constructor, at the version of the object. -/
structure Committed (kind : EntityKind σ) (constructible : σ → Prop) (before : σ)
    (candidate : σ) (event_factory : Option (ℕ → VendorDomainEvent κ)) : Prop where
  constructed : constructible candidate
  version : kind.version candidate = kind.version before
  stamped : Stamped event_factory

/-- What the law rests on for one kind of entity. -/
structure Disciplined (kind : EntityKind σ) (run : Reading → ω → Operation σ κ)
    (constructible : σ → Prop) : Prop where
  commits : ∀ reading operation entity,
    Commits (Committed kind constructible entity) (run reading operation entity)
  constructible_of_validate : ∀ {candidate entity},
    kind.validate_invariants candidate = .ok entity → constructible entity
  version_of_validate : ∀ {candidate entity},
    kind.validate_invariants candidate = .ok entity → kind.version entity = kind.version candidate
  validate_again : ∀ {candidate entity}, constructible candidate →
    kind.validate_invariants candidate = .ok entity → kind.validate_invariants entity = .ok entity
  validate_setVersion : ∀ {entity}, kind.validate_invariants entity = .ok entity → ∀ version,
    kind.validate_invariants (kind.setVersion entity version) = .ok (kind.setVersion entity version)

namespace Disciplined

variable {kind : EntityKind σ} {run : Reading → ω → Operation σ κ} {constructible : σ → Prop}

/-- A call is lawful exactly when it does not return early on an invalid object. -/
theorem lawfulCall_iff (h : Disciplined kind run constructible) (self : Aggregate σ κ)
    (operation : ω) (reading : Reading) :
    LawfulCall kind (Performed.mk operation reading self
        (self.call kind (run reading operation)).1 (self.call kind (run reading operation)).2) ↔
      (run reading operation self.entity = .ok .unchanged → Satisfies kind self.entity) := by
  cases hrun : run reading operation self.entity with
  | error raised =>
    have hcall : self.call kind (run reading operation) = (.error raised, self) := by
      rw [Aggregate.call, hrun]
    rw [hcall]
    exact ⟨fun _ h => (by cases h), fun _ => .inl ⟨⟨raised, rfl⟩, rfl⟩⟩
  | ok change =>
    cases change with
    | unchanged =>
      have hcall : self.call kind (run reading operation) = (.ok (), self) := by
        rw [Aggregate.call, hrun]
      rw [hcall]
      constructor
      · rintro (⟨⟨_, ⟨⟩⟩, -⟩ | ⟨-, hvalid, -⟩) -
        exact hvalid
      · exact fun hvalid => .inr ⟨rfl, hvalid rfl, .inl rfl⟩
    | commit candidate event_factory =>
      refine ⟨fun _ h => (by cases h), fun _ => ?_⟩
      obtain ⟨raised, hcall⟩ | ⟨hunchanged, -⟩ | ⟨_, _, entity, hcommit, hvalid, hcall⟩ :=
        self.call_cases kind (run reading operation)
      · rw [hcall]
        exact .inl ⟨⟨raised, rfl⟩, rfl⟩
      · cases hrun.symm.trans hunchanged
      · obtain ⟨rfl, rfl⟩ := Change.commit.inj (Except.ok.inj (hrun.symm.trans hcommit))
        have hcommitted := h.commits reading operation self.entity _ _ hrun
        have hversion : kind.version entity = kind.version self.entity :=
          (h.version_of_validate hvalid).trans hcommitted.version
        have hbumped : kind.version (kind.bump_version entity) = kind.version self.entity + 1 := by
          rw [EntityKind.bump_version, kind.version_setVersion, hversion]
        have hagain := h.validate_again hcommitted.constructed hvalid
        rw [hcall]
        refine .inr ⟨rfl, ⟨_, h.validate_setVersion hagain _⟩, .inr ⟨hbumped, ?_⟩⟩
        cases event_factory with
        | none => exact .inl (List.append_nil _)
        | some factory =>
          refine .inr ⟨factory (kind.version entity + 1), rfl, ?_⟩
          rw [hcommitted.stamped factory rfl, hbumped, hversion]

/-- What a call leaves comes from the constructor too. -/
theorem constructible_call (h : Disciplined kind run constructible) {self : Aggregate σ κ}
    (hself : constructible self.entity) (operation : ω) (reading : Reading) :
    constructible (self.call kind (run reading operation)).2.entity := by
  obtain ⟨_, hcall⟩ | ⟨-, hcall⟩ | ⟨_, _, entity, hcommit, hvalid, hcall⟩ :=
    self.call_cases kind (run reading operation)
  · rw [hcall]
    exact hself
  · rw [hcall]
    exact hself
  · rw [hcall]
    have hcommitted := h.commits reading operation self.entity _ _ hcommit
    have hagain := h.validate_again hcommitted.constructed hvalid
    exact h.constructible_of_validate (h.validate_setVersion hagain _)

/-- A run obeys the law exactly when every call that returns early finds a valid object. -/
theorem lawful_history_iff (h : Disciplined kind run constructible) (self : Aggregate σ κ)
    (calls : List (ω × Reading)) :
    (∀ step ∈ self.history kind run calls, LawfulCall kind step) ↔
      ∀ step ∈ self.history kind run calls,
        run step.reading step.operation step.before.entity = .ok .unchanged →
          Satisfies kind step.before.entity := by
  induction calls generalizing self with
  | nil => exact ⟨nofun, nofun⟩
  | cons call calls ih =>
    obtain ⟨operation, reading⟩ := call
    rw [Aggregate.history_cons, List.forall_mem_cons, List.forall_mem_cons]
    exact and_congr (h.lawfulCall_iff self operation reading) (ih _)

/-- Every call of a run from an object of the constructor finds such an object. -/
theorem constructible_history (h : Disciplined kind run constructible) {self : Aggregate σ κ}
    (hself : constructible self.entity) (calls : List (ω × Reading)) :
    ∀ step ∈ self.history kind run calls, constructible step.before.entity := by
  induction calls generalizing self with
  | nil => exact nofun
  | cons call calls ih =>
    obtain ⟨operation, reading⟩ := call
    rw [Aggregate.history_cons, List.forall_mem_cons]
    exact ⟨hself, ih (h.constructible_call hself operation reading)⟩

/-- A run of an entity whose constructed objects are all valid obeys the law. -/
theorem lawful_history (h : Disciplined kind run constructible)
    (hvalid : ∀ entity, constructible entity → Satisfies kind entity) {self : Aggregate σ κ}
    (hself : constructible self.entity) (calls : List (ω × Reading)) :
    ∀ step ∈ self.history kind run calls, LawfulCall kind step := by
  rw [h.lawful_history_iff]
  exact fun step hstep _ => hvalid _ (h.constructible_history hself calls step hstep)

end Disciplined

/-! ### The four kinds of entity -/

open Lib (Checked)

variable {library : TextLibrary}

/-- A version that is passed on stays the same. -/
theorem version_kept {version result : ℕ}
    (h : _normalize_version (.int version) = .valid result) : result = version :=
  Checked.eq_of_valid h (_normalize_version_int version)

/-- Some arguments make the constructor return the package. -/
def ServicePackage.Constructible (library : TextLibrary) (package : ServicePackage) : Prop :=
  ∃ arguments, ServicePackage.construct library arguments = .ok package

theorem ServicePackage.committed {arguments : PackageArguments} {self candidate : ServicePackage}
    {event_factory : Option (ℕ → VendorDomainEvent κ)}
    (h : ServicePackage.construct library arguments = .ok candidate)
    (hversion : arguments.version = .int self.version) (hstamped : Stamped event_factory) :
    Committed (ServicePackage.kind library) (ServicePackage.Constructible library) self candidate
      event_factory where
  constructed := ⟨arguments, h⟩
  version := version_kept (hversion ▸ (ServicePackage.construct_eq_ok_iff.mp h).version)
  stamped := hstamped

theorem ServicePackage.disciplined (hlibrary : library.Documented) :
    Disciplined (ServicePackage.kind library) (fun reading => PackageOperation.run library reading)
      (ServicePackage.Constructible library) where
  commits reading operation self := by
    cases operation with
    | update_details fields =>
      refine .guard (.bind fun _ _ => .early_return (.bind fun _ _ =>
        .bind fun candidate hcandidate => .commit ?_))
      exact ServicePackage.committed hcandidate rfl (stamped_some fun _ => rfl)
    | submit_for_approval =>
      refine .guard (.early_return (.bind fun candidate hcandidate => .commit ?_))
      exact ServicePackage.committed hcandidate rfl (stamped_some fun _ => rfl)
    | approve =>
      refine .guard (.guard (.bind fun candidate hcandidate => .commit ?_))
      exact ServicePackage.committed hcandidate rfl (stamped_some fun _ => rfl)
    | reject reason =>
      refine .guard (.guard (.bind fun _ _ => .bind fun candidate hcandidate => .commit ?_))
      exact ServicePackage.committed hcandidate rfl (stamped_some fun _ => rfl)
    | restore_to_waiting_approval =>
      refine .guard (.early_return (.bind fun candidate hcandidate => .commit ?_))
      exact ServicePackage.committed hcandidate rfl (stamped_some fun _ => rfl)
    | deactivate =>
      refine .early_return (.bind fun candidate hcandidate => .commit ?_)
      exact ServicePackage.committed hcandidate rfl (stamped_some fun _ => rfl)
    | activate =>
      refine .guard (.guard (.early_return (.bind fun candidate hcandidate => .commit ?_)))
      exact ServicePackage.committed hcandidate rfl (stamped_some fun _ => rfl)
  constructible_of_validate h := ⟨_, h⟩
  version_of_validate h := version_kept (ServicePackage.construct_eq_ok_iff.mp h).version
  validate_again _ h := ServicePackage.validate_of_construct hlibrary h
  validate_setVersion h version := ServicePackage.validate_setVersion h version

/-- Some arguments make the constructor return the image. -/
def PortfolioImage.Constructible (library : TextLibrary) (image : PortfolioImage) : Prop :=
  ∃ arguments, PortfolioImage.construct library arguments = .ok image

theorem PortfolioImage.committed {arguments : PortfolioArguments} {self candidate : PortfolioImage}
    {event_factory : Option (ℕ → VendorDomainEvent κ)}
    (h : PortfolioImage.construct library arguments = .ok candidate)
    (hversion : arguments.version = .int self.version) (hstamped : Stamped event_factory) :
    Committed (PortfolioImage.kind library) (PortfolioImage.Constructible library) self candidate
      event_factory where
  constructed := ⟨arguments, h⟩
  version := version_kept (hversion ▸ (PortfolioImage.construct_eq_ok_iff.mp h).version)
  stamped := hstamped

theorem PortfolioImage.disciplined (hlibrary : library.Documented) :
    Disciplined (PortfolioImage.kind library)
      (fun reading => PortfolioOperation.run library reading)
      (PortfolioImage.Constructible library) where
  commits reading operation self := by
    cases operation with
    | attach_cloudinary_asset public_id secure_url =>
      refine .bind fun _ _ => .bind fun _ _ => .bind fun candidate hcandidate => .commit ?_
      exact PortfolioImage.committed hcandidate rfl stamped_none
    | mark_queued =>
      refine .bind fun _ _ => .guard (.bind fun candidate hcandidate => .commit ?_)
      exact PortfolioImage.committed hcandidate rfl (stamped_some fun _ => rfl)
    | mark_processing =>
      refine .bind fun _ _ => .guard (.bind fun candidate hcandidate => .commit ?_)
      exact PortfolioImage.committed hcandidate rfl (stamped_some fun _ => rfl)
    | mark_uploaded public_id secure_url =>
      refine .bind fun _ _ => .guard (.guard (.bind fun _ _ =>
        .bind fun candidate hcandidate => .commit ?_))
      exact PortfolioImage.committed hcandidate rfl (stamped_some fun _ => rfl)
    | mark_quality_passed =>
      refine .bind fun _ _ => .guard (.bind fun candidate hcandidate => .commit ?_)
      exact PortfolioImage.committed hcandidate rfl stamped_none
    | mark_quality_failed reason =>
      refine .bind fun _ _ => .guard (.bind fun _ _ =>
        .bind fun candidate hcandidate => .commit ?_)
      exact PortfolioImage.committed hcandidate rfl stamped_none
    | mark_failed reason =>
      refine .bind fun _ _ => .guard (.bind fun _ _ =>
        .bind fun candidate hcandidate => .commit ?_)
      exact PortfolioImage.committed hcandidate rfl (stamped_some fun _ => rfl)
    | submit_for_approval =>
      refine .bind fun _ _ => .guard (.bind fun candidate hcandidate => .commit ?_)
      exact PortfolioImage.committed hcandidate rfl (stamped_some fun _ => rfl)
    | approve =>
      refine .bind fun _ _ => .guard (.bind fun candidate hcandidate => .commit ?_)
      exact PortfolioImage.committed hcandidate rfl (stamped_some fun _ => rfl)
    | reject reason =>
      refine .bind fun _ _ => .guard (.bind fun _ _ =>
        .bind fun candidate hcandidate => .commit ?_)
      exact PortfolioImage.committed hcandidate rfl (stamped_some fun _ => rfl)
    | deactivate =>
      refine .early_return (.bind fun candidate hcandidate => .commit ?_)
      exact PortfolioImage.committed hcandidate rfl (stamped_some fun _ => rfl)
    | reorder new_order =>
      refine .bind fun _ _ => .bind fun candidate hcandidate => .commit ?_
      exact PortfolioImage.committed hcandidate rfl (stamped_some fun _ => rfl)
    | update_caption caption =>
      refine .bind fun _ _ => .early_return (.bind fun candidate hcandidate => .commit ?_)
      exact PortfolioImage.committed hcandidate rfl (stamped_some fun _ => rfl)
  constructible_of_validate h := ⟨_, h⟩
  version_of_validate h := version_kept (PortfolioImage.construct_eq_ok_iff.mp h).version
  validate_again _ h := PortfolioImage.validate_of_construct hlibrary h
  validate_setVersion h version := PortfolioImage.validate_setVersion h version

/-- Some arguments make the constructor return the profile. -/
def VendorProfile.Constructible (library : TextLibrary) (profile : VendorProfile) : Prop :=
  ∃ arguments, VendorProfile.construct library arguments = .ok profile

theorem VendorProfile.committed {arguments : ProfileArguments} {self candidate : VendorProfile}
    {event_factory : Option (ℕ → VendorDomainEvent κ)}
    (h : VendorProfile.construct library arguments = .ok candidate)
    (hversion : arguments.version = .int self.version) (hstamped : Stamped event_factory) :
    Committed (VendorProfile.kind library) (VendorProfile.Constructible library) self candidate
      event_factory where
  constructed := ⟨arguments, h⟩
  version := version_kept (hversion ▸ (VendorProfile.construct_eq_ok_iff.mp h).version)
  stamped := hstamped

theorem VendorProfile.disciplined (hlibrary : library.Documented) :
    Disciplined (VendorProfile.kind library) (fun reading => ProfileOperation.run library reading)
      (VendorProfile.Constructible library) where
  commits reading operation self := by
    cases operation with
    | update_details details =>
      refine .bind fun first hfirst => .early_return (.bind fun candidate hcandidate => .commit ?_)
      have hversion := version_kept (VendorProfile.construct_eq_ok_iff.mp hfirst).version
      exact VendorProfile.committed hcandidate (congrArg (fun version : ℕ => Value.int version)
        hversion) (stamped_some fun _ => rfl)
    | submit_for_review =>
      refine .guard (.guard (.bind fun candidate hcandidate => .commit ?_))
      exact VendorProfile.committed hcandidate rfl (stamped_some fun _ => rfl)
    | approve =>
      refine .guard (.bind fun candidate hcandidate => .commit ?_)
      exact VendorProfile.committed hcandidate rfl (stamped_some fun _ => rfl)
    | reject reason =>
      refine .guard (.bind fun _ _ => .bind fun candidate hcandidate => .commit ?_)
      exact VendorProfile.committed hcandidate rfl (stamped_some fun _ => rfl)
    | suspend reason =>
      refine .guard (.bind fun _ _ => .bind fun candidate hcandidate => .commit ?_)
      exact VendorProfile.committed hcandidate rfl (stamped_some fun _ => rfl)
    | reinstate =>
      refine .guard (.bind fun candidate hcandidate => .commit ?_)
      exact VendorProfile.committed hcandidate rfl (stamped_some fun _ => rfl)
  constructible_of_validate h := ⟨_, h⟩
  version_of_validate h := version_kept (VendorProfile.construct_eq_ok_iff.mp h).version
  validate_again := by
    rintro _ _ ⟨_, hconstruct⟩ hvalid
    exact VendorProfile.validate_of_validate hlibrary hconstruct hvalid
  validate_setVersion h version := VendorProfile.validate_setVersion h version

/-- Some arguments make the constructor return the inquiry. -/
def Inquiry.Constructible (library : TextLibrary) (inquiry : Inquiry) : Prop :=
  ∃ arguments, Inquiry.construct library arguments = .ok inquiry

theorem Inquiry.committed {arguments : InquiryArguments} {self candidate : Inquiry}
    {event_factory : Option (ℕ → VendorDomainEvent κ)}
    (h : Inquiry.construct library arguments = .ok candidate)
    (hversion : arguments.version = .int self.version) (hstamped : Stamped event_factory) :
    Committed (Inquiry.kind library) (Inquiry.Constructible library) self candidate
      event_factory where
  constructed := ⟨arguments, h⟩
  version := version_kept (hversion ▸ (Inquiry.construct_eq_ok_iff.mp h).version)
  stamped := hstamped

theorem Inquiry.disciplined (hlibrary : library.Documented) :
    Disciplined (Inquiry.kind library) (fun reading => InquiryOperation.run library reading)
      (Inquiry.Constructible library) where
  commits reading operation self := by
    cases operation with
    | mark_read =>
      refine .early_return (.bind fun candidate hcandidate => .commit ?_)
      exact Inquiry.committed hcandidate rfl (stamped_some fun _ => rfl)
  constructible_of_validate h := ⟨_, h⟩
  version_of_validate h := version_kept (Inquiry.construct_eq_ok_iff.mp h).version
  validate_again := by
    rintro _ _ ⟨_, hconstruct⟩ hvalid
    exact Inquiry.validate_of_validate hlibrary hconstruct hvalid
  validate_setVersion h version := Inquiry.validate_setVersion h version

/-! ### Calls that change nothing -/

/-- The e-mail check accepts the address as it stands. -/
def EmailAccepted (library : TextLibrary) (email : String) : Prop :=
  ∃ again, validate_email library (.text email) = .ok again

theorem EmailAccepted.length_le {email : String} (h : EmailAccepted library email) :
    (strip (library.nfc email)).length ≤ TEXT_LIMITS.contact_email := by
  obtain ⟨_, h⟩ := h
  obtain ⟨text, htext, -, -⟩ := validate_email_eq_ok_iff.mp h
  have hbound := length_le_of_bounded_text htext
  obtain ⟨_, ⟨⟩, -, hlimited⟩ := bounded_text_eq_ok_iff.mp htext
  obtain ⟨rfl, -⟩ := limited_text_eq_ok_iff.mp hlimited
  exact hbound

/-- A constructed profile is valid as it stands exactly when its e-mail address is. -/
theorem VendorProfile.satisfies_iff (hlibrary : library.Documented) {profile : VendorProfile}
    (h : profile.Constructible library) :
    Satisfies (VendorProfile.kind library) profile ↔
      EmailAccepted library profile.contact_email := by
  obtain ⟨arguments, h⟩ := h
  constructor
  · rintro ⟨_, hvalid⟩
    exact ⟨_, underField_eq_valid_iff.mp (construct_eq_ok_iff.mp hvalid).contact_email⟩
  · rintro ⟨_, hemail⟩
    exact ⟨_, validate_of_construct hlibrary h hemail⟩

theorem Inquiry.satisfies_iff (hlibrary : library.Documented) {inquiry : Inquiry}
    (h : inquiry.Constructible library) :
    Satisfies (Inquiry.kind library) inquiry ↔ EmailAccepted library inquiry.client_email := by
  obtain ⟨arguments, h⟩ := h
  constructor
  · rintro ⟨_, hvalid⟩
    exact ⟨_, underField_eq_valid_iff.mp (construct_eq_ok_iff.mp hvalid).client_email⟩
  · rintro ⟨_, hemail⟩
    exact ⟨_, validate_of_construct hlibrary h hemail⟩

/-- The call is an edit whose values are all the current ones once they are normalised. -/
def ProfileOperation.ChangesNothing (library : TextLibrary) (self : VendorProfile) :
    ProfileOperation → Prop
  | update_details details => ∃ first,
    VendorProfile.construct library (self.updated details) = .ok first ∧ first.SameDetails self
  | _ => False

/-- The call marks an inquiry as read that has been read. -/
def InquiryOperation.ChangesNothing (self : Inquiry) : InquiryOperation → Prop
  | mark_read => self.is_read = true

theorem ProfileOperation.run_eq_unchanged_iff {operation : ProfileOperation} {reading : Reading}
    {self : VendorProfile} :
    operation.run library reading self = .ok .unchanged ↔
      operation.ChangesNothing library self := by
  cases operation with
  | update_details details =>
    simp only [run, VendorProfile.update_details, ChangesNothing, bind_eq_ok_iff,
      early_return_eq_unchanged_iff, pure_eq_ok_iff, reduceCtorEq, and_false, exists_false,
      or_false]
  | submit_for_review =>
    simp only [run, VendorProfile.submit_for_review, ChangesNothing, bind_eq_ok_iff,
      guard_eq_ok_iff, pure_eq_ok_iff, reduceCtorEq, and_false, exists_false]
  | approve =>
    simp only [run, VendorProfile.approve, ChangesNothing, bind_eq_ok_iff, guard_eq_ok_iff,
      pure_eq_ok_iff, reduceCtorEq, and_false, exists_false]
  | reject reason =>
    simp only [run, VendorProfile.reject, ChangesNothing, bind_eq_ok_iff, guard_eq_ok_iff,
      pure_eq_ok_iff, reduceCtorEq, and_false, exists_false]
  | suspend reason =>
    simp only [run, VendorProfile.suspend, ChangesNothing, bind_eq_ok_iff, guard_eq_ok_iff,
      pure_eq_ok_iff, reduceCtorEq, and_false, exists_false]
  | reinstate =>
    simp only [run, VendorProfile.reinstate, ChangesNothing, bind_eq_ok_iff, guard_eq_ok_iff,
      pure_eq_ok_iff, reduceCtorEq, and_false, exists_false]

theorem InquiryOperation.run_eq_unchanged_iff {operation : InquiryOperation} {reading : Reading}
    {self : Inquiry} :
    operation.run library reading self = .ok .unchanged ↔ operation.ChangesNothing self := by
  cases operation with
  | mark_read =>
    simp only [run, Inquiry.mark_read, ChangesNothing, early_return_eq_unchanged_iff,
      bind_eq_ok_iff, pure_eq_ok_iff, reduceCtorEq, and_false, exists_false, or_false]

/-! ### Runs -/

/-! ### A profile with a long address -/

/-- The characters of an address of 138 characters that has 264 in lower case: the dotted
capital I becomes two. -/
def sampleLongAddress : List Char :=
  List.replicate 126 (Char.ofNat 0x130) ++
    ['@', 'e', 'x', 'a', 'm', 'p', 'l', 'e', '.', 'c', 'o', 'm']

def sampleLongEmail : String := String.ofList sampleLongAddress

/-- A profile with that address, as the constructor keeps it. -/
def sampleProfile : VendorProfile where
  id := 1
  user_id := 2
  business_name := "Lakeside Studio"
  category := .photography
  description := "Portraits and weddings by the lake."
  service_area := "Kigali"
  contact_email := lower sampleLongEmail
  contact_phone := "+250788123456"
  custom_category := none
  website := none
  profile_image_url := none
  profile_image_public_id := none
  cover_image_url := none
  cover_image_public_id := none
  status := .draft
  submitted_at := none
  approved_at := none
  rejected_at := none
  rejection_reason := none
  version := 0
  created_at := 0
  updated_at := 0

/-- The owner sends the address again. -/
def sampleResend : ProfileDetails where
  contact_email := some (.text sampleLongEmail)

theorem toList_sampleLongEmail : sampleLongEmail.toList = sampleLongAddress :=
  String.toList_ofList

theorem length_sampleLongEmail : sampleLongEmail.length = 138 := by
  rw [← String.length_toList, toList_sampleLongEmail]
  rfl

theorem strip_sampleLongEmail :
    strip (asciiLibrary.nfc sampleLongEmail) = sampleLongEmail := by
  change strip sampleLongEmail = sampleLongEmail
  refine strip_eq_self (forall_isSpace_eq_false ?_)
  rw [toList_sampleLongEmail]
  decide +kernel

theorem validate_sampleLongEmail :
    validate_email asciiLibrary (.text sampleLongEmail) = .ok (lower sampleLongEmail) := by
  have hcontrol : ¬has_control_characters sampleLongEmail := by
    rw [has_control_characters, toList_sampleLongEmail]
    decide +kernel
  have hformat : ¬has_dangerous_formatting asciiLibrary sampleLongEmail := by
    rw [has_dangerous_formatting, toList_sampleLongEmail]
    decide +kernel
  have hlimited : limited_text asciiLibrary TEXT_LIMITS.contact_email 1 sampleLongEmail =
      .ok sampleLongEmail := by
    rw [limited_text_eq_ok_iff, length_sampleLongEmail]
    exact ⟨rfl, hcontrol, hformat, by decide, by decide⟩
  have hne : sampleLongEmail ≠ "" := by
    intro h
    have hlength := length_sampleLongEmail
    rw [h] at hlength
    cases hlength
  refine validate_email_eq_ok_iff.mpr ⟨sampleLongEmail, ?_, ?_, rfl⟩
  · rw [bounded_text_eq_ok_iff]
    refine ⟨sampleLongEmail, rfl, ?_, ?_⟩
    · rw [strip_sampleLongEmail]
      exact hne
    · rw [strip_sampleLongEmail]
      exact hlimited
  · rw [matches_email, toList_sampleLongEmail]
    decide +kernel

/-- In lower case the address is too long. -/
theorem not_emailAccepted_lower : ¬EmailAccepted asciiLibrary (lower sampleLongEmail) := by
  intro h
  have hbound := h.length_le
  have hstrip : strip (asciiLibrary.nfc (lower sampleLongEmail)) = lower sampleLongEmail :=
    (strip_lower_eq sampleLongEmail).trans (congrArg lower strip_sampleLongEmail)
  have hlength : (lower sampleLongEmail).length = 264 := by
    rw [← String.length_toList, lower, toList_sampleLongEmail, String.toList_ofList]
    decide +kernel
  rw [hstrip, hlength] at hbound
  exact absurd hbound (by decide)

theorem construct_sampleProfile :
    VendorProfile.construct asciiLibrary (sampleProfile.updated sampleResend) =
      .ok sampleProfile :=
  VendorProfile.construct_eq_ok_iff.mpr {
    id := rfl
    user_id := rfl
    business_name := by decide +kernel
    category := rfl
    description := by decide +kernel
    service_area := by decide +kernel
    contact_email := underField_eq_valid_iff.mpr validate_sampleLongEmail
    contact_phone := by decide +kernel
    custom_category := rfl
    website := rfl
    profile_image_url := rfl
    profile_image_public_id := rfl
    cover_image_url := rfl
    cover_image_public_id := rfl
    status := rfl
    submitted_at := rfl
    approved_at := rfl
    rejected_at := rfl
    rejection_reason := rfl
    version := rfl
    created_at := rfl
    updated_at := rfl
    rules := by decide +kernel }

/-! ### The law -/

/-- Packages and images always obey the law. Profiles and inquiries do exactly when every
call that changes nothing finds an e-mail address that passes its check as it stands. -/
theorem operations_lawful (hlibrary : library.Documented) :
    (∀ self : Aggregate ServicePackage PackageEvent, self.entity.Constructible library →
      ∀ calls, ∀ step ∈ packageHistory library self calls,
        LawfulCall (ServicePackage.kind library) step) ∧
    (∀ self : Aggregate PortfolioImage PortfolioEvent, self.entity.Constructible library →
      ∀ calls, ∀ step ∈ portfolioHistory library self calls,
        LawfulCall (PortfolioImage.kind library) step) ∧
    (∀ self : Aggregate VendorProfile ProfileEvent, self.entity.Constructible library →
      ∀ calls, (∀ step ∈ profileHistory library self calls,
          LawfulCall (VendorProfile.kind library) step) ↔
        ∀ step ∈ profileHistory library self calls,
          step.operation.ChangesNothing library step.before.entity →
            EmailAccepted library step.before.entity.contact_email) ∧
    (∀ self : Aggregate Inquiry InquiryEvent, self.entity.Constructible library →
      ∀ calls, (∀ step ∈ inquiryHistory library self calls,
          LawfulCall (Inquiry.kind library) step) ↔
        ∀ step ∈ inquiryHistory library self calls,
          step.operation.ChangesNothing step.before.entity →
            EmailAccepted library step.before.entity.client_email) := by
  refine ⟨?_, ?_, ?_, ?_⟩
  · intro self hself calls
    refine (ServicePackage.disciplined hlibrary).lawful_history ?_ hself calls
    rintro _ ⟨_, h⟩
    exact ⟨_, ServicePackage.validate_of_construct hlibrary h⟩
  · intro self hself calls
    refine (PortfolioImage.disciplined hlibrary).lawful_history ?_ hself calls
    rintro _ ⟨_, h⟩
    exact ⟨_, PortfolioImage.validate_of_construct hlibrary h⟩
  · intro self hself calls
    have hdisciplined := VendorProfile.disciplined hlibrary
    rw [profileHistory, hdisciplined.lawful_history_iff]
    refine forall₂_congr fun step hstep => ?_
    rw [ProfileOperation.run_eq_unchanged_iff, VendorProfile.satisfies_iff hlibrary
      (hdisciplined.constructible_history hself calls step hstep)]
  · intro self hself calls
    have hdisciplined := Inquiry.disciplined hlibrary
    rw [inquiryHistory, hdisciplined.lawful_history_iff]
    refine forall₂_congr fun step hstep => ?_
    rw [InquiryOperation.run_eq_unchanged_iff, Inquiry.satisfies_iff hlibrary
      (hdisciplined.constructible_history hself calls step hstep)]

/-- A call that raises on the profile with the long address is lawful. -/
theorem operations_lawful_sample :
    (∀ step ∈ profileHistory asciiLibrary ⟨sampleProfile, []⟩
        [(.approve, { now := hours 1, again := hours 1, event_id := 7 })],
      LawfulCall (VendorProfile.kind asciiLibrary) step) ↔
    ∀ step ∈ profileHistory asciiLibrary ⟨sampleProfile, []⟩
        [(.approve, { now := hours 1, again := hours 1, event_id := 7 })],
      step.operation.ChangesNothing asciiLibrary step.before.entity →
        EmailAccepted asciiLibrary step.before.entity.contact_email :=
  (operations_lawful asciiLibrary_documented).2.2.1 ⟨sampleProfile, []⟩
    ⟨_, construct_sampleProfile⟩ _

/-- The owner of that address sends it again: the edit changes nothing and goes through, and
it leaves a profile that does not pass its validation. -/
theorem resent_address_left_invalid :
    sampleProfile.Constructible asciiLibrary ∧
      ¬∀ step ∈ profileHistory asciiLibrary ⟨sampleProfile, []⟩
          [(.update_details sampleResend, { now := hours 1, again := hours 1, event_id := 7 })],
        LawfulCall (VendorProfile.kind asciiLibrary) step := by
  have hconstructible : sampleProfile.Constructible asciiLibrary := ⟨_, construct_sampleProfile⟩
  refine ⟨hconstructible, fun h => not_emailAccepted_lower ?_⟩
  rw [profileHistory, (VendorProfile.disciplined asciiLibrary_documented).lawful_history_iff] at h
  have hvalid := h _ List.mem_cons_self (ProfileOperation.run_eq_unchanged_iff.mpr
    ⟨sampleProfile, construct_sampleProfile, by simp [VendorProfile.SameDetails]⟩)
  exact (VendorProfile.satisfies_iff asciiLibrary_documented hconstructible).mp hvalid

end Linkapro.Vendors
