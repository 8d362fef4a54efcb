import Linkapro.Lib.Sessions
import Linkapro.Lib.Windows
import Linkapro.Vendors.Inquiries
import Linkapro.Vendors.Profile

/-!
# Protection against inquiry abuse

Calls of `send_inquiry` of one requester to one vendor. A call reads the clock, locks the
row of the vendor and checks the committed admission records: their number within the
rate window, and the digest of its own command within the duplicate window. Its record and
its inquiry are committed together, and the lock is kept until then. The digest is taken
of the command as it arrived, whereas the stored inquiry is normalised. A call that is
answered from its idempotency key performs none of these statements.
-/

namespace Linkapro.Vendors

open Lib

/-- The settings that the adapter reads. -/
structure InquiryLimits : Type where
  /-- `VENDOR_INQUIRY_DUPLICATE_WINDOW_SECONDS`. -/
  duplicate_window_seconds : ℤ
  /-- `VENDOR_INQUIRY_RATE_WINDOW_SECONDS`. -/
  rate_window_seconds : ℤ
  /-- `VENDOR_INQUIRY_MAX_REQUESTS_PER_WINDOW`. -/
  max_requests : ℤ
deriving DecidableEq, Repr

/-- The defaults of the settings. -/
def defaultInquiryLimits : InquiryLimits where
  duplicate_window_seconds := 600
  rate_window_seconds := 3600
  max_requests := 5

namespace InquiryLimits

def duplicate_cutoff (limits : InquiryLimits) (now : Datetime) : Datetime :=
  now - seconds limits.duplicate_window_seconds

def rate_cutoff (limits : InquiryLimits) (now : Datetime) : Datetime :=
  now - seconds limits.rate_window_seconds

end InquiryLimits

/-- `_window_key`. -/
def _window_key (now : Datetime) (window_seconds : ℤ) : ℤ :=
  let timestamp := Int.tdiv now (seconds 1)
  timestamp - timestamp % max window_seconds 1

/-- The payload of `_inquiry_payload_digest`, in the order of its keys. -/
def inquiryPayload (request : Inquiry.Request) : List (String × Value) :=
  [("client_email", request.client_email), ("client_name", request.client_name),
    ("client_phone", request.client_phone), ("event_date", request.event_date),
    ("message", request.message)]

/-- An `InquiryAbuseRecord` of the requester and the vendor. -/
structure InquiryAbuseRecord : Type where
  payload_digest : String
  duplicate_window_key : ℤ
  created_at : Datetime
deriving DecidableEq, Repr

/-- An admission record and the inquiry that is committed with it. -/
structure AcceptedInquiry : Type where
  record : InquiryAbuseRecord
  inquiry : Inquiry
deriving DecidableEq, Repr

/-- What a call of `send_inquiry` raises. -/
inductive SendInquiryError : Type where
  /-- `VendorResourceNotFound`. -/
  | vendorResourceNotFound (message : String)
  /-- `InquiryAbuseDenied`. -/
  | inquiryAbuseDenied (message : String)
  /-- `VendorInquiryPolicyError`. -/
  | vendorInquiryPolicy (message : String)
  | raised (error : Raised)
  /-- The transaction ended before its commit. -/
  | interrupted
deriving DecidableEq, Repr

/-- How far a call is. From `locked` on it holds the row of the vendor. -/
inductive SendPhase : Type where
  | arrived
  /-- About to lock the vendor, with the clock that has been read. -/
  | admitting (now : Datetime)
  | locked (now : Datetime)
  /-- The recent records are fewer than the limit. -/
  | counted (now : Datetime)
  /-- No recent record has the digest of the command. -/
  | unseen (now : Datetime)
  | recorded (now : Datetime) (record : InquiryAbuseRecord)
  | created (now : Datetime) (accepted : AcceptedInquiry)
  | stored (inquiry : Inquiry)
  | failed (error : SendInquiryError)
deriving DecidableEq, Repr

/-- The committed rows of the requester and the vendor, newest first. -/
structure InquiryStore (ι : Type) : Type where
  accepted : List AcceptedInquiry
  /-- The transaction that has locked the row of the vendor. -/
  lock : Option ι
  /-- The instant of the last statement. -/
  clock : Datetime

/-- What the code does not choose at a statement. -/
structure SendChoice : Type where
  /-- The microseconds since the statement before. -/
  elapsed : ℕ
  /-- The stored status of the vendor, if there is one. -/
  vendor : Option VendorStatus
  id : UUID
  event_id : UUID
  /-- The day that `Inquiry.create` reads. -/
  today : Date
  /-- The process or its connection is gone before the statement. -/
  interrupted : Bool
deriving DecidableEq

/-- `ensure_vendor_can_receive_inquiry`. -/
def ensure_vendor_can_receive_inquiry : Option VendorStatus → Except SendInquiryError Unit
  | none => .error (.vendorInquiryPolicy "Vendor not found")
  | some status =>
    if status ≠ .approved then
      .error (.vendorInquiryPolicy "Vendor is not available for inquiries")
    else .ok ()

/-- The parts of the application that the calls share. -/
structure InquirySetting : Type where
  library : TextLibrary
  /-- `hashlib.sha256` of the JSON text of a payload. -/
  sha256 : List (String × Value) → String
  limits : InquiryLimits
  vendor_id : UUID
  requester_user_id : UUID

namespace InquirySetting

variable (setting : InquirySetting)

/-- `_inquiry_payload_digest`. -/
def _inquiry_payload_digest (request : Inquiry.Request) : String :=
  setting.sha256 (inquiryPayload request)

/-- `recent`: the records within the rate window. -/
def recent (now : Datetime) (accepted : List AcceptedInquiry) : List AcceptedInquiry :=
  accepted.filter fun row => setting.limits.rate_cutoff now ≤ row.record.created_at

/-- A recent record with this digest lies within the duplicate window. -/
def alreadySubmitted (now : Datetime) (payload_digest : String)
    (accepted : List AcceptedInquiry) : Bool :=
  (setting.recent now accepted).any fun row => row.record.payload_digest = payload_digest ∧
    setting.limits.duplicate_cutoff now ≤ row.record.created_at

/-- The record of a call that has read `now`, inserted at `created_at`. -/
def newRecord (request : Inquiry.Request) (now created_at : Datetime) : InquiryAbuseRecord where
  payload_digest := setting._inquiry_payload_digest request
  duplicate_window_key := _window_key now setting.limits.duplicate_window_seconds
  created_at := created_at

/-- The record breaks the unique constraint. -/
def breaksUnique (record : InquiryAbuseRecord) (accepted : List AcceptedInquiry) : Bool :=
  accepted.any fun row => row.record.payload_digest = record.payload_digest ∧
    row.record.duplicate_window_key = record.duplicate_window_key

/-- The operation of `send_inquiry` after the admission. -/
def createInquiry (request : Inquiry.Request) (choice : SendChoice) (now : Datetime) :
    Except SendInquiryError Inquiry := do
  ensure_vendor_can_receive_inquiry choice.vendor
  match Inquiry.create setting.library choice.id choice.today now choice.event_id
      (.uuid setting.vendor_id) (.uuid setting.requester_user_id) request with
  | .ok aggregate => .ok aggregate.entity
  | .error error => .error (.raised error)

/-- How far a call is after a statement at `now`. -/
def nextPhase (request : Inquiry.Request) (accepted : List AcceptedInquiry) (locked : Bool)
    (choice : SendChoice) (instant : Datetime) : SendPhase → SendPhase
  | .arrived => .admitting instant
  | .admitting now =>
    if locked then .admitting now
    else if choice.vendor.isSome then .locked now
    else .failed (.vendorResourceNotFound "Vendor not found.")
  | .locked now =>
    if setting.limits.max_requests ≤ (setting.recent now accepted).length then
      .failed (.inquiryAbuseDenied "Too many inquiry attempts. Please try again later.")
    else .counted now
  | .counted now =>
    if setting.alreadySubmitted now (setting._inquiry_payload_digest request) accepted then
      .failed (.inquiryAbuseDenied "This inquiry was already submitted recently.")
    else .unseen now
  | .unseen now =>
    let record := setting.newRecord request now instant
    if breaksUnique record accepted then
      .failed (.inquiryAbuseDenied "This inquiry was already submitted recently.")
    else .recorded now record
  | .recorded now record =>
    match setting.createInquiry request choice instant with
    | .ok inquiry => .created now { record, inquiry }
    | .error error => .failed error
  | .created _ accepted => .stored accepted.inquiry
  | phase => phase

end InquirySetting

namespace SendPhase

/-- The open transaction holds the row of the vendor. -/
def holds : SendPhase → Bool
  | .locked _ | .counted _ | .unseen _ | .recorded _ _ | .created _ _ => true
  | _ => false

/-- The call is over. -/
def isOver : SendPhase → Bool
  | .stored _ | .failed _ => true
  | _ => false

end SendPhase

variable {ι : Type}

/-- The calls that share the database. -/
abbrev SendCalls (ι : Type) : Type := Sessions ι (InquiryStore ι) SendPhase

/-- A statement that commits the rows of its call. -/
def commits (phase : SendPhase) (choice : SendChoice) : Option AcceptedInquiry :=
  match phase with
  | .created _ accepted => if choice.interrupted then none else some accepted
  | _ => none

/-- One statement of a call of `send_inquiry`, with the code up to the next one. -/
def sendInquiry (setting : InquirySetting) (request : ι → Inquiry.Request) :
    Statement ι (InquiryStore ι) SendPhase SendChoice :=
  fun s i choice =>
    let instant := s.store.clock + choice.elapsed
    let phase :=
      if choice.interrupted ∧ (s.phase i).isOver = false then .failed .interrupted
      else setting.nextPhase (request i) s.store.accepted s.store.lock.isSome choice instant
        (s.phase i)
    ({ accepted := (commits (s.phase i) choice).toList ++ s.store.accepted
       lock := if phase.holds then some i
         else if (s.phase i).holds then none else s.store.lock
       clock := instant }, phase)

/-- Before the first call. -/
def SendCalls.start (clock : Datetime) : SendCalls ι where
  store := { accepted := [], lock := none, clock }
  phase _ := .arrived

/-- The stored contents of two inquiries are equal. -/
def Inquiry.SameContent (inquiry other : Inquiry) : Prop :=
  inquiry.client_name = other.client_name ∧ inquiry.client_email = other.client_email ∧
    inquiry.client_phone = other.client_phone ∧ inquiry.message = other.message ∧
    inquiry.event_date = other.event_date

instance (inquiry other : Inquiry) : Decidable (inquiry.SameContent other) :=
  inferInstanceAs (Decidable (_ ∧ _))

/-- The later inquiry does not repeat the earlier one within the duplicate window. -/
def NotRepeated (limits : InquiryLimits) (later earlier : AcceptedInquiry) : Prop :=
  later.inquiry.SameContent earlier.inquiry →
    seconds limits.duplicate_window_seconds ≤ later.inquiry.created_at - earlier.inquiry.created_at

instance (limits : InquiryLimits) (later earlier : AcceptedInquiry) :
    Decidable (NotRepeated limits later earlier) :=
  inferInstanceAs (Decidable (_ → _))

/-- At most the configured number of inquiries is accepted in any rate window. -/
def RateLimited (limits : InquiryLimits) (store : InquiryStore ι) : Prop :=
  Limited (fun row : AcceptedInquiry => row.record.created_at) (fun _ => 1)
    (seconds limits.rate_window_seconds) (max limits.max_requests 0) store.accepted

/-- No two stored inquiries of equal content were created within the duplicate window. -/
def NoneRepeated (limits : InquiryLimits) (store : InquiryStore ι) : Prop :=
  store.accepted.Pairwise (NotRepeated limits)

/-- Whatever the new inquiry repeats has been seen by the check: it was sent under the same
digest, and it was admitted within both windows of the clock that the new call has read. -/
def Seen (setting : InquirySetting) (s : SendCalls ι) (turn : ι × SendChoice) : Prop :=
  match s.phase turn.1 with
  | .created now new => turn.2.interrupted = false → ∀ row ∈ s.store.accepted,
      new.inquiry.SameContent row.inquiry →
      new.inquiry.created_at - row.inquiry.created_at <
        seconds setting.limits.duplicate_window_seconds →
      row.record.payload_digest = new.record.payload_digest ∧
        setting.limits.rate_cutoff now ≤ row.record.created_at ∧
        setting.limits.duplicate_cutoff now ≤ row.record.created_at
  | _ => True

section Invariant

variable {setting : InquirySetting} {request : Inquiry.Request} {now : Datetime}
  {accepted : List AcceptedInquiry} {store : InquiryStore ι} {i j : ι}

/-- The checks of a call that has read `now` have passed, and still would. -/
structure Passed (setting : InquirySetting) (request : Inquiry.Request) (now : Datetime)
    (accepted : List AcceptedInquiry) : Prop where
  count : ((setting.recent now accepted).length : ℤ) < setting.limits.max_requests
  unseen : setting.alreadySubmitted now (setting._inquiry_payload_digest request) accepted = false

/-- A record that a call has inserted which had read `now`. -/
structure Inserted (setting : InquirySetting) (request : Inquiry.Request) (now : Datetime)
    (record : InquiryAbuseRecord) : Prop where
  digest : record.payload_digest = setting._inquiry_payload_digest request
  later : now ≤ record.created_at

/-- What a call has made sure of, among the committed rows `accepted` at the instant `clock`. -/
def Established (setting : InquirySetting) (request : Inquiry.Request)
    (accepted : List AcceptedInquiry) (clock : Datetime) : SendPhase → Prop
  | .admitting now | .locked now => now ≤ clock
  | .counted now =>
    now ≤ clock ∧ ((setting.recent now accepted).length : ℤ) < setting.limits.max_requests
  | .unseen now => now ≤ clock ∧ Passed setting request now accepted
  | .recorded now record =>
    Passed setting request now accepted ∧ Inserted setting request now record
  | .created now new =>
    Passed setting request now accepted ∧ Inserted setting request now new.record
  | _ => True

/-- What a call has made sure of stays so as the clock goes on. -/
theorem Established.later {clock : Datetime} {phase : SendPhase}
    (h : Established setting request accepted clock phase) (elapsed : ℕ) :
    Established setting request accepted (clock + elapsed) phase := by
  have hle : clock ≤ clock + elapsed := Int.le_add_of_nonneg_right (Int.natCast_nonneg elapsed)
  cases phase with
  | admitting now | locked now => exact le_trans h hle
  | counted now | unseen now => exact ⟨le_trans h.1 hle, h.2⟩
  | _ => exact h

/-- A statement makes sure of what the next phase stands for. -/
theorem Established.next {clock : Datetime} {phase : SendPhase} {locked : Bool}
    {choice : SendChoice} (h : Established setting request accepted clock phase)
    (hle : clock ≤ now) :
    Established setting request accepted now
      (setting.nextPhase request accepted locked choice now phase) := by
  cases phase with
  | arrived => exact le_refl now
  | admitting read =>
    simp only [InquirySetting.nextPhase]
    split
    · exact le_trans h hle
    · split
      · exact le_trans h hle
      · trivial
  | locked read =>
    simp only [InquirySetting.nextPhase]
    split
    · trivial
    · next hcount => exact ⟨le_trans h hle, lt_of_not_ge hcount⟩
  | counted read =>
    simp only [InquirySetting.nextPhase]
    split
    · trivial
    · next hseen => exact ⟨le_trans h.1 hle, h.2, Bool.eq_false_iff.mpr hseen⟩
  | unseen read =>
    simp only [InquirySetting.nextPhase]
    split
    · trivial
    · exact ⟨h.2, rfl, le_trans h.1 hle⟩
  | recorded read record =>
    simp only [InquirySetting.nextPhase]
    split
    · exact h
    · trivial
  | created read new => trivial
  | stored inquiry => trivial
  | failed error => trivial

/-- The lock is taken when it is free, and kept. -/
theorem holds_of_nextPhase {phase : SendPhase} {locked : Bool} {choice : SendChoice}
    (h : (setting.nextPhase request accepted locked choice now phase).holds = true) :
    phase.holds = true ∨ locked = false := by
  cases phase with
  | arrived => cases h
  | admitting read =>
    simp only [InquirySetting.nextPhase] at h
    split at h
    · cases h
    · next hfree => exact Or.inr (Bool.eq_false_iff.mpr hfree)
  | created read new => cases h
  | stored inquiry => cases h
  | failed error => cases h
  | _ => exact Or.inl rfl

/-- What holds of one call between two statements. -/
structure CallHolds (setting : InquirySetting) (request : ι → Inquiry.Request)
    (store : InquiryStore ι) (i : ι) (phase : SendPhase) : Prop where
  lock : phase.holds = true → store.lock = some i
  established : Established setting (request i) store.accepted store.clock phase

/-- The number of recent records is their load. -/
theorem length_recent : ((setting.recent now accepted).length : ℤ) =
    loadSince (fun row : AcceptedInquiry => row.record.created_at) (fun _ => 1)
      (setting.limits.rate_cutoff now) accepted := by
  rw [loadSince, List.map_const', List.sum_replicate, nsmul_eq_mul, mul_one]
  rfl

/-- A row that the check looks at has another digest. -/
theorem Passed.ne_digest (h : Passed setting request now accepted) {row : AcceptedInquiry}
    (hmem : row ∈ accepted) (hrate : setting.limits.rate_cutoff now ≤ row.record.created_at)
    (hduplicate : setting.limits.duplicate_cutoff now ≤ row.record.created_at) :
    row.record.payload_digest ≠ setting._inquiry_payload_digest request := by
  intro hdigest
  have hrecent : row ∈ setting.recent now accepted :=
    List.mem_filter.mpr ⟨hmem, decide_eq_true hrate⟩
  have hseen : setting.alreadySubmitted now (setting._inquiry_payload_digest request) accepted =
      true :=
    List.any_eq_true.mpr ⟨row, hrecent, decide_eq_true ⟨hdigest, hduplicate⟩⟩
  rw [h.unseen] at hseen
  cases hseen

/-- The committed row of a statement. -/
theorem commits_eq_some {phase : SendPhase} {choice : SendChoice} {new : AcceptedInquiry}
    (h : commits phase choice = some new) :
    (∃ now, phase = .created now new) ∧ choice.interrupted = false := by
  unfold commits at h
  split at h
  · next now accepted =>
    split at h
    · cases h
    · next hnot =>
      cases h
      exact ⟨⟨now, rfl⟩, Bool.eq_false_iff.mpr hnot⟩
  · cases h

/-- Another inquiry may be accepted after the check has counted the recent ones. -/
theorem RateLimited.add {new : AcceptedInquiry}
    (h : RateLimited setting.limits store) (hpassed : Passed setting request now store.accepted)
    (hinserted : Inserted setting request now new.record) {lock : Option ι} {clock : Datetime} :
    RateLimited setting.limits { accepted := new :: store.accepted, lock, clock } := by
  have hcount := hpassed.count
  rw [length_recent] at hcount
  have hcheck : loadSince (fun row : AcceptedInquiry => row.record.created_at) (fun _ => 1)
      (now - seconds setting.limits.rate_window_seconds) store.accepted + 1 ≤
        max setting.limits.max_requests 0 :=
    (Int.add_one_le_of_lt hcount).trans (le_max_left _ _)
  exact Limited.add h (fun _ _ => zero_le_one) hcheck hinserted.later

end Invariant

section Step

variable {setting : InquirySetting} {request : ι → Inquiry.Request} {s : SendCalls ι} {i : ι}
  {choice : SendChoice}

/-- What holds between two statements. -/
def CallsHold (setting : InquirySetting) (request : ι → Inquiry.Request) (s : SendCalls ι) : Prop :=
  Sessions.Holds (RateLimited setting.limits) (CallHolds setting request) s

/-- A row is committed by a call that holds the vendor and whose checks have passed. -/
theorem CallsHold.commits (h : CallsHold setting request s) {new : AcceptedInquiry}
    (hcommits : commits (s.phase i) choice = some new) :
    s.store.lock = some i ∧ ∃ now, s.phase i = .created now new ∧
      Passed setting (request i) now s.store.accepted ∧
        Inserted setting (request i) now new.record := by
  obtain ⟨⟨now, hphase⟩, _⟩ := commits_eq_some hcommits
  obtain ⟨hlock, hestablished⟩ := h.session i
  rw [hphase] at hlock hestablished
  exact ⟨hlock rfl, now, hphase, hestablished⟩

/-- A row that is not committed leaves the stored ones. -/
theorem accepted_sendInquiry_of_none (h : commits (s.phase i) choice = none) :
    (sendInquiry setting request s i choice).1.accepted = s.store.accepted := by
  simp only [sendInquiry, h, Option.toList_none, List.nil_append]

theorem accepted_sendInquiry_of_some {new : AcceptedInquiry}
    (h : commits (s.phase i) choice = some new) :
    (sendInquiry setting request s i choice).1.accepted = new :: s.store.accepted := by
  simp only [sendInquiry, h, Option.toList_some, List.singleton_append]

/-- The limit is kept by every statement. -/
theorem CallsHold.rateLimited (h : CallsHold setting request s) (i : ι) (choice : SendChoice) :
    RateLimited setting.limits (sendInquiry setting request s i choice).1 := by
  cases hcommits : Vendors.commits (s.phase i) choice with
  | none =>
    unfold RateLimited
    rw [accepted_sendInquiry_of_none hcommits]
    exact h.stored
  | some new =>
    obtain ⟨_, now, _, hpassed, hinserted⟩ := h.commits hcommits
    unfold RateLimited
    rw [accepted_sendInquiry_of_some hcommits]
    have hadd : RateLimited setting.limits
        { accepted := new :: s.store.accepted, lock := s.store.lock, clock := now } :=
      RateLimited.add h.stored hpassed hinserted
    exact hadd

/-- The call itself is right after its statement. -/
theorem CallsHold.self (h : CallsHold setting request s) (i : ι) (choice : SendChoice) :
    CallHolds setting request (sendInquiry setting request s i choice).1 i
      (sendInquiry setting request s i choice).2 where
  lock hholds := by
    simp only [sendInquiry] at hholds ⊢
    rw [if_pos hholds]
  established := by
    have hle : s.store.clock ≤ s.store.clock + choice.elapsed :=
      Int.le_add_of_nonneg_right (Int.natCast_nonneg _)
    cases hcommits : Vendors.commits (s.phase i) choice with
    | none =>
      rw [accepted_sendInquiry_of_none hcommits]
      simp only [sendInquiry]
      split
      · trivial
      · exact (h.session i).established.next hle
    | some new =>
      obtain ⟨⟨now, hphase⟩, _⟩ := commits_eq_some hcommits
      simp only [sendInquiry, hphase]
      split
      · trivial
      · trivial

/-- The lock of another call is kept. -/
theorem CallsHold.lock_of_ne (h : CallsHold setting request s) {j : ι} (hj : j ≠ i)
    (hlock : s.store.lock = some j) :
    (sendInquiry setting request s i choice).1.lock = some j := by
  have hfree : (s.phase i).holds = false := by
    by_contra hholds
    have hself := (h.session i).lock (Bool.not_eq_false _ ▸ hholds)
    rw [hlock] at hself
    exact hj (Option.some.inj hself)
  simp only [sendInquiry, hfree, hlock]
  rw [if_neg, if_neg Bool.false_ne_true]
  intro hholds
  split at hholds
  · cases hholds
  · rcases holds_of_nextPhase hholds with hholds | hunlocked
    · rw [hfree] at hholds
      cases hholds
    · cases hunlocked

/-- The other calls are right after a statement. -/
theorem CallsHold.other (h : CallsHold setting request s) {j : ι} (hj : j ≠ i) :
    CallHolds setting request (sendInquiry setting request s i choice).1 j (s.phase j) where
  lock hholds := h.lock_of_ne hj ((h.session j).lock hholds)
  established := by
    cases hcommits : Vendors.commits (s.phase i) choice with
    | none =>
      rw [accepted_sendInquiry_of_none hcommits]
      exact (h.session j).established.later choice.elapsed
    | some new =>
      have hlock := (h.commits hcommits).1
      have hestablished := (h.session j).established.later choice.elapsed
      cases hphase : s.phase j with
      | arrived | stored _ | failed _ => trivial
      | admitting now =>
        rw [hphase] at hestablished
        exact hestablished
      | _ =>
        have hself := (h.session j).lock (by rw [hphase]; rfl)
        rw [hlock] at hself
        exact absurd (Option.some.inj hself).symm hj

theorem CallsHold.start (clock : Datetime) :
    CallsHold setting request (SendCalls.start clock) where
  stored := Limited.nil (le_max_right _ _)
  session _ := ⟨fun hholds => (by cases hholds), trivial⟩

variable [DecidableEq ι]

theorem CallsHold.step (h : CallsHold setting request s) (turn : ι × SendChoice) :
    CallsHold setting request (s.step (sendInquiry setting request) turn) :=
  Sessions.holds_step (h.rateLimited turn.1 turn.2) (h.self turn.1 turn.2) fun _ hj => h.other hj

/-- A statement repeats nothing exactly if it commits no inquiry, or whatever it repeats has been
seen by its check. -/
theorem CallsHold.noneRepeated_step_iff (h : CallsHold setting request s) (turn : ι × SendChoice) :
    NoneRepeated setting.limits (s.step (sendInquiry setting request) turn).store ↔
      Seen setting s turn ∧ NoneRepeated setting.limits s.store := by
  obtain ⟨i, choice⟩ := turn
  rw [Sessions.step_store]
  unfold NoneRepeated
  cases hcommits : Vendors.commits (s.phase i) choice with
  | none =>
    rw [accepted_sendInquiry_of_none hcommits]
    have hseen : Seen setting s (i, choice) := by
      unfold Seen
      split
      · next now new hphase =>
        intro hnot
        have hcreated : s.phase i = .created now new := hphase
        rw [hcreated] at hcommits
        simp only [Vendors.commits] at hcommits
        rw [if_neg (Bool.eq_false_iff.mp hnot)] at hcommits
        cases hcommits
      · trivial
    exact ⟨fun hnone => ⟨hseen, hnone⟩, And.right⟩
  | some new =>
    rw [accepted_sendInquiry_of_some hcommits, List.pairwise_cons]
    refine and_congr_left fun _ => ?_
    obtain ⟨_, now, hphase, hpassed, hinserted⟩ := h.commits hcommits
    have hnot := (commits_eq_some hcommits).2
    unfold Seen
    simp only [hphase]
    constructor
    · intro hnone _ row hmem hsame hclose
      exact absurd (hnone row hmem hsame) (not_le.mpr hclose)
    · intro hseen row hmem hsame
      by_contra hclose
      obtain ⟨hdigest, hrate, hduplicate⟩ := hseen hnot row hmem hsame (not_le.mp hclose)
      exact hpassed.ne_digest hmem hrate hduplicate (hdigest.trans hinserted.digest)

/-- Along a run, no inquiry is repeated exactly if every repetition has been seen by the check. -/
theorem CallsHold.run_iff (h : CallsHold setting request s) (turns : List (ι × SendChoice)) :
    CallsHold setting request (s.run (sendInquiry setting request) turns) ∧
      (NoneRepeated setting.limits (s.run (sendInquiry setting request) turns).store ↔
        Sessions.Always (sendInquiry setting request) (Seen setting) s turns ∧
          NoneRepeated setting.limits s.store) := by
  induction turns generalizing s with
  | nil => exact ⟨h, (and_iff_right trivial).symm⟩
  | cons turn turns ih =>
    obtain ⟨hholds, hiff⟩ := ih (h.step turn)
    refine ⟨hholds, hiff.trans ?_⟩
    rw [h.noneRepeated_step_iff turn]
    exact ⟨fun hall => ⟨⟨hall.2.1, hall.1⟩, hall.2.2⟩,
      fun hall => ⟨hall.1.2, hall.1.1, hall.2⟩⟩

/-- In every interleaving, no rate window has more than the configured number of accepted
inquiries, and no two inquiries of equal content are stored within the duplicate window exactly if
every such repetition has been seen by the check. -/
theorem inquiries_limited_iff (setting : InquirySetting) (request : ι → Inquiry.Request)
    (clock : Datetime) (turns : List (ι × SendChoice)) :
    let final := (SendCalls.start clock).run (sendInquiry setting request) turns
    RateLimited setting.limits final.store ∧
      (NoneRepeated setting.limits final.store ↔
        Sessions.Always (sendInquiry setting request) (Seen setting) (SendCalls.start clock)
          turns) := by
  have hstart : CallsHold setting request (SendCalls.start clock) := CallsHold.start clock
  obtain ⟨hholds, hiff⟩ := hstart.run_iff turns
  exact ⟨hholds.stored, hiff.trans (and_iff_left List.Pairwise.nil)⟩

end Step

/-- The application with the default limits. The digest is the text itself. -/
def sampleSetting : InquirySetting where
  library := asciiLibrary
  sha256 payload := String.join (payload.map fun entry =>
    match entry.2 with
    | .text value => entry.1 ++ ":\"" ++ value ++ "\","
    | _ => entry.1 ++ ":null,")
  limits := defaultInquiryLimits
  vendor_id := 1
  requester_user_id := 2

/-- One inquiry with two spellings of the phone number. -/
def sampleInquiries : Bool → Inquiry.Request
  | false =>
    { client_name := .text "Ann", client_email := .text "ann@example.com"
      message := .text "Are you free in June?", client_phone := .text "+15550100" }
  | true =>
    { client_name := .text "Ann", client_email := .text "ann@example.com"
      message := .text "Are you free in June?", client_phone := .text "+1 555 0100" }

/-- A statement one second after the one before, for an approved vendor. -/
def everySecond : SendChoice where
  elapsed := 1000000
  vendor := some .approved
  id := 7
  event_id := 8
  today := 19000
  interrupted := false

/-- One call after the other. -/
def oneInquiryAfterTheOther : List (Bool × SendChoice) :=
  List.replicate 7 (false, everySecond) ++ List.replicate 7 (true, everySecond)

/-- The two inquiries are both stored, seven seconds apart, with equal contents. -/
theorem same_inquiry_stored_twice :
    let final := (SendCalls.start 0).run (sendInquiry sampleSetting sampleInquiries)
      oneInquiryAfterTheOther
    ¬ (RateLimited sampleSetting.limits final.store ∧
      NoneRepeated sampleSetting.limits final.store) := by
  intro final h
  have hrepeated : ¬ final.store.accepted.Pairwise (NotRepeated sampleSetting.limits) := by
    decide +kernel
  exact hrepeated h.2

end Linkapro.Vendors
