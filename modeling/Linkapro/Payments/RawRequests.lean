import Linkapro.Lib.Separators
import Linkapro.Payments.HmacRequests

/-!
# Payments: what a signature covers

A request as it arrives, with the bytes of its body and its query string, and the text
that is signed for it. The text determines every part of the request that it was made
from: the method and the path, the timestamp, the nonce and the digest of the body. The
query string is not a part of it, as `request.path` leaves it out.
-/

namespace Linkapro.Payments

open Lib

/-- A request as Django hands it to the validator. -/
structure RawRequest where
  method : String
  /-- `request.path`, the path without the query string. -/
  path : String
  /-- `QUERY_STRING`. -/
  query : String
  body : ByteArray
  /-- `X-Timestamp`. -/
  timestamp : Option String
  /-- `X-Nonce`. -/
  nonce : Option String
  /-- `X-Signature`. -/
  signature : Option String
  /-- `X-Key-ID`. -/
  key_id : Option String
  /-- `HTTP_X_FORWARDED_FOR`. -/
  forwarded_for : Option String
  /-- `REMOTE_ADDR`. -/
  remote_addr : Option String

namespace RawRequest

/-- `request.get_full_path()`. -/
def full_path (request : RawRequest) : String :=
  if request.query = "" then request.path else request.path ++ "?" ++ request.query

/-- `request.body.decode('utf-8') if request.body else ""`. -/
def body_text (request : RawRequest) : Option String :=
  if request.body.isEmpty then some "" else String.fromUTF8? request.body

/-- What the validator reads. -/
def signed (request : RawRequest) : SignedRequest where
  method := request.method
  path := request.path
  body := request.body_text
  timestamp := request.timestamp
  nonce := request.nonce
  signature := request.signature
  key_id := request.key_id

/-- The text that is signed for a request. It has none when a header is missing or the body
is not UTF-8. -/
def canonical (digests : Digests) (request : RawRequest) : Option String := do
  let headers ← HmacRequestValidator.headers request.signed
  let body ← request.body_text
  pure (HmacRequestValidator.build_canonical digests request.method request.path body
    headers.timestamp headers.nonce)

/-- A server hands on a method and header values without line breaks. -/
structure OnOneLine (request : RawRequest) : Prop where
  method : '\n' ∉ request.method.toList
  timestamp : ∀ value ∈ request.timestamp, '\n' ∉ value.toList
  nonce : ∀ value ∈ request.nonce, '\n' ∉ value.toList

/-- The bodies are different texts with the same digest. -/
def Collide (digests : Digests) (first second : RawRequest) : Prop :=
  first.body_text ≠ second.body_text ∧
    first.body_text.map digests.sha256 = second.body_text.map digests.sha256

variable {digests : Digests} {request first second : RawRequest} {text text' : String}

/-- The text of a body determines its bytes. -/
theorem body_eq_of_body_text (h : request.body_text = some text) :
    request.body = text.toByteArray := by
  unfold body_text at h
  split at h
  · next hempty =>
    cases h
    exact ByteArray.size_eq_zero_iff.mp (by simpa [ByteArray.isEmpty] using hempty)
  · unfold String.fromUTF8? at h
    split at h
    · cases h
      rfl
    · cases h

/-- The parts of the text that is signed for a request. -/
theorem canonical_parts (h : request.canonical digests = some text) :
    ∃ timestamp nonce body, request.timestamp = some timestamp ∧ request.nonce = some nonce ∧
      request.body_text = some body ∧
      text.toList = request.method.toList ++ '\n' :: (request.path.toList ++ '\n' ::
        (timestamp.toList ++ '\n' :: (nonce.toList ++ '\n' :: (digests.sha256 body).toList))) := by
  obtain ⟨headers, hheaders, hrest⟩ := Option.bind_eq_some_iff.mp h
  obtain ⟨body, hbody, hbuilt⟩ := Option.bind_eq_some_iff.mp hrest
  obtain ⟨timestamp, htimestamp, hrest⟩ := Option.bind_eq_some_iff.mp hheaders
  obtain ⟨nonce, hnonce, hrest⟩ := Option.bind_eq_some_iff.mp hrest
  obtain ⟨signature, _, hrest⟩ := Option.bind_eq_some_iff.mp hrest
  obtain ⟨key_id, _, hmade⟩ := Option.bind_eq_some_iff.mp hrest
  cases hmade
  refine ⟨timestamp, nonce, body, Option.eq_some_of_filter_eq_some htimestamp,
    Option.eq_some_of_filter_eq_some hnonce, hbody, ?_⟩
  cases hbuilt
  simp [HmacRequestValidator.build_canonical]

/-- The parts of a signed text are read off it: none but the path may contain a line break. -/
theorem parts_eq_of_text_eq {method method' path path' timestamp timestamp' nonce nonce' digest
    digest' : List Char} (hmethod : '\n' ∉ method) (hmethod' : '\n' ∉ method')
    (htimestamp : '\n' ∉ timestamp) (htimestamp' : '\n' ∉ timestamp') (hnonce : '\n' ∉ nonce)
    (hnonce' : '\n' ∉ nonce') (hdigest : '\n' ∉ digest) (hdigest' : '\n' ∉ digest')
    (h : method ++ '\n' :: (path ++ '\n' :: (timestamp ++ '\n' :: (nonce ++ '\n' :: digest))) =
      method' ++ '\n' :: (path' ++ '\n' :: (timestamp' ++ '\n' :: (nonce' ++ '\n' :: digest')))) :
    method = method' ∧ path = path' ∧ timestamp = timestamp' ∧ nonce = nonce' ∧
      digest = digest' := by
  obtain ⟨rfl, hrest⟩ := eq_of_append_separator hmethod hmethod' h
  -- The path is what is left when the other parts have been taken off at the end.
  simp only [← List.cons_append, ← List.append_assoc] at hrest
  obtain ⟨hfront, hdigests⟩ := eq_of_separator_append hdigest hdigest' hrest
  obtain ⟨hfront, hnonces⟩ := eq_of_separator_append hnonce hnonce' hfront
  obtain ⟨hpaths, htimestamps⟩ := eq_of_separator_append htimestamp htimestamp' hfront
  exact ⟨rfl, hpaths, htimestamps, hnonces, hdigests⟩

end RawRequest

/-- Two requests have the same signed text exactly if they have the same method, the same path
without the query string, the same timestamp, the same nonce and the same body, or bodies that
collide. -/
theorem canonical_eq_iff (digests : Digests)
    (hhex : ∀ text, '\n' ∉ (digests.sha256 text).toList) (first second : RawRequest)
    (hfirst : first.OnOneLine) (hsecond : second.OnOneLine) (text text' : String)
    (h : first.canonical digests = some text) (h' : second.canonical digests = some text') :
    text = text' ↔
      first.method = second.method ∧ first.path = second.path ∧
        first.timestamp = second.timestamp ∧ first.nonce = second.nonce ∧
        (first.body = second.body ∨ first.Collide digests second) := by
  obtain ⟨timestamp, nonce, body, htimestamp, hnonce, hbody, htext⟩ := RawRequest.canonical_parts h
  obtain ⟨timestamp', nonce', body', htimestamp', hnonce', hbody', htext'⟩ :=
    RawRequest.canonical_parts h'
  constructor
  · intro heq
    have hlist := (htext.symm.trans (congrArg String.toList heq)).trans htext'
    obtain ⟨hmethod, hpath, htime, hfresh, hdigest⟩ := RawRequest.parts_eq_of_text_eq hfirst.method
      hsecond.method (hfirst.timestamp _ htimestamp) (hsecond.timestamp _ htimestamp')
      (hfirst.nonce _ hnonce) (hsecond.nonce _ hnonce') (hhex _) (hhex _) hlist
    refine ⟨String.toList_injective hmethod, String.toList_injective hpath, ?_, ?_, ?_⟩
    · rw [htimestamp, htimestamp', String.toList_injective htime]
    · rw [hnonce, hnonce', String.toList_injective hfresh]
    · by_cases hsame : first.body_text = second.body_text
      · rw [RawRequest.body_eq_of_body_text hbody,
          RawRequest.body_eq_of_body_text (hsame.symm.trans hbody)]
        exact .inl rfl
      · refine .inr ⟨hsame, ?_⟩
        rw [hbody, hbody', Option.map_some, Option.map_some, String.toList_injective hdigest]
  · rintro ⟨hmethod, hpath, htime, hfresh, hbodies⟩
    have hdigest : digests.sha256 body = digests.sha256 body' := by
      rcases hbodies with hsame | hcollide
      · have hsame : first.body_text = second.body_text := by
          unfold RawRequest.body_text
          rw [hsame]
        rw [hbody, hbody', Option.some.injEq] at hsame
        rw [hsame]
      · have hdigests := hcollide.2
        rwa [hbody, hbody', Option.map_some, Option.map_some, Option.some.injEq] at hdigests
    rw [htimestamp, htimestamp', Option.some.injEq] at htime
    rw [hnonce, hnonce', Option.some.injEq] at hfresh
    apply String.toList_injective
    rw [htext, htext', hmethod, hpath, htime, hfresh, hdigest]

/-- A request for the second page of a list. -/
def samplePage : RawRequest where
  method := "GET"
  path := "/api/django/payments/"
  query := "page=2"
  body := .empty
  timestamp := some "1"
  nonce := some "7f"
  signature := some "c44298"
  key_id := some "pk"
  forwarded_for := none
  remote_addr := some "10.0.0.1"

/-- The digest of the samples is on one line. -/
theorem sampleDigests_hex (text : String) :
    '\n' ∉ (HmacRequestValidator.sampleDigests.sha256 text).toList := by
  change '\n' ∉ "e3b0".toList
  decide

/-- A request and itself. -/
theorem canonical_eq_iff_sample :
    "GET\n/api/django/payments/\n1\n7f\ne3b0" = "GET\n/api/django/payments/\n1\n7f\ne3b0" ↔
      samplePage.method = samplePage.method ∧ samplePage.path = samplePage.path ∧
        samplePage.timestamp = samplePage.timestamp ∧ samplePage.nonce = samplePage.nonce ∧
        (samplePage.body = samplePage.body ∨
          samplePage.Collide HmacRequestValidator.sampleDigests samplePage) :=
  canonical_eq_iff HmacRequestValidator.sampleDigests sampleDigests_hex samplePage samplePage
    ⟨by decide, by decide, by decide⟩ ⟨by decide, by decide, by decide⟩ _ _ (by decide) (by decide)

/-- The text that is signed is the same for another page. -/
theorem canonical_omits_query :
    ¬ ∀ (digests : Digests) (first second : RawRequest) (text : String),
      (∀ text, '\n' ∉ (digests.sha256 text).toList) → first.OnOneLine → second.OnOneLine →
      first.canonical digests = some text → second.canonical digests = some text →
        first.method = second.method ∧ first.full_path = second.full_path ∧
          first.timestamp = second.timestamp ∧ first.nonce = second.nonce ∧
          first.body = second.body := by
  intro h
  have hpages := h HmacRequestValidator.sampleDigests samplePage
    { samplePage with query := "page=3" } "GET\n/api/django/payments/\n1\n7f\ne3b0"
    sampleDigests_hex ⟨by decide, by decide, by decide⟩ ⟨by decide, by decide, by decide⟩
    (by decide) (by decide)
  exact absurd hpages.2.1 (by decide)

end Linkapro.Payments
