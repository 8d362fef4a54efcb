import Mathlib.Algebra.Order.Group.Int
import Mathlib.Algebra.Order.Group.Unbundled.Abs
import Linkapro.Isoformat

/-!
# Marketplace: requests of the other service

The internal endpoints of the marketplace accept a request that carries the HMAC of its
canonical string, a fresh timestamp and the digest of its body. A timestamp whose instant in
UTC is no `datetime` and a MAC beyond ASCII make library calls raise, and these errors are
not refusals.
-/

namespace Linkapro.Marketplace

/-- `SERVICE_AUTH_VERSION`. -/
def serviceAuthVersion : String := "v1"

/-- `SERVICE_AUTH_ALLOWED_SKEW_SECONDS`. -/
def serviceAuthAllowedSkewSeconds : ℤ := 300

/-- `SERVICE_AUTH_DJANGO_SERVICE`. -/
def serviceAuthDjangoService : String := "django"

/-- What `datetime.fromisoformat` returns: the reading of the clock and the offset of an aware
`datetime`. -/
structure ParsedDatetime where
  clock : Datetime
  offset : Option Timedelta
deriving DecidableEq

/-- The library calls of the service authentication. -/
structure ServiceLibrary where
  /-- `hashlib.sha256(payload).hexdigest()`. -/
  sha256 : List UInt8 → String
  /-- `hmac.new(key, canonical, hashlib.sha256).hexdigest()`. -/
  hmac : String → String → String
  /-- `datetime.fromisoformat(text)`, with `none` for a `ValueError`. -/
  fromisoformat : String → Option ParsedDatetime
  /-- A digest is a text of hexadecimal digits. -/
  hmac_ascii : ∀ key canonical, isAscii (hmac key canonical) = true
  hmac_ne_empty : ∀ key canonical, hmac key canonical ≠ ""

/-- The error that a call raises. -/
inductive ServiceFault : Type where
  /-- `ServiceAuthError`. -/
  | refused (message : String)
  /-- The `OverflowError` of `astimezone`. -/
  | overflowError
  /-- The `TypeError` of `compare_digest`. -/
  | typeError
deriving DecidableEq

/-- The arguments of `assert_service_request`. -/
structure ServiceRequest where
  service : Option String
  method : String
  path : String
  timestamp : Option String
  requestId : Option String
  payloadHash : Option String
  suppliedMac : Option String
  payload : List UInt8

variable (library : ServiceLibrary)

/-- `canonical_service_request`. The letters of a method are ASCII. -/
def canonicalServiceRequest (service method path timestamp requestId payloadHash : String) :
    String :=
  "\n".intercalate
    [serviceAuthVersion, service, method.toUpper, path, timestamp, requestId, payloadHash]

/-- `service_mac`. -/
def serviceMac (canonical key : String) : String := library.hmac key canonical

/-- `assert_matching_mac`. -/
def assertMatchingMac (supplied expected : String) : Except ServiceFault Unit :=
  if supplied = "" then .error (.refused "Invalid service authentication.")
  else
    match compareDigest supplied expected with
    | none => .error .typeError
    | some false => .error (.refused "Invalid service authentication.")
    | some true => .ok ()

/-- `value.replace("Z", "+00:00")`. -/
def replaceZulu (value : String) : String :=
  String.ofList (value.toList.flatMap fun c => if c = 'Z' then "+00:00".toList else [c])

/-- `parsed.astimezone(timezone.utc)` of an aware `datetime`. -/
def astimezone (clock : Datetime) (offset : Timedelta) : Except ServiceFault Datetime :=
  if IsDatetime (clock - offset) then .ok (clock - offset) else .error .overflowError

/-- `parse_timestamp`. -/
def parseTimestamp (value : String) : Except ServiceFault Datetime :=
  if value = "" then .error (.refused "Service timestamp is required.")
  else
    match library.fromisoformat (replaceZulu value) with
    | none => .error (.refused "Invalid service timestamp.")
    | some parsed =>
      match parsed.offset with
      | none => .error (.refused "Service timestamp must include timezone.")
      | some offset => astimezone parsed.clock offset

/-- `assert_fresh_timestamp`. The comparison with a whole number of seconds is exact. -/
def assertFreshTimestamp (timestamp now : Datetime) : Except ServiceFault Unit :=
  if seconds serviceAuthAllowedSkewSeconds < |now - timestamp| then
    .error (.refused "Service timestamp is outside the allowed window.")
  else .ok ()

/-- `assert_service_request` at an instant. -/
def assertServiceRequest (key : String) (request : ServiceRequest) (now : Datetime) :
    Except ServiceFault Unit :=
  if request.service ≠ some serviceAuthDjangoService then
    .error (.refused "Unauthorized service.")
  else
    match nonEmpty request.requestId with
    | none => .error (.refused "Request id is required.")
    | some requestId => do
      let timestamp := request.timestamp.getD ""
      let parsedTimestamp ← parseTimestamp library timestamp
      assertFreshTimestamp parsedTimestamp now
      let expectedPayloadHash := library.sha256 request.payload
      if request.payloadHash ≠ some expectedPayloadHash then
        throw (.refused "Invalid payload digest.")
      let canonical := canonicalServiceRequest serviceAuthDjangoService request.method request.path
        timestamp requestId expectedPayloadHash
      assertMatchingMac (request.suppliedMac.getD "") (serviceMac library canonical key)

/-- The headers that the other service sends. -/
structure ServiceHeaders where
  serviceName : String
  requestTimestamp : String
  requestId : String
  payloadSha256 : String
  serviceMac : String

/-- `build_service_headers`. -/
def buildServiceHeaders (key method path : String) (payload : List UInt8)
    (requestId timestamp : String) : ServiceHeaders :=
  let payloadHash := library.sha256 payload
  let canonical := canonicalServiceRequest serviceAuthDjangoService method path timestamp
    requestId payloadHash
  { serviceName := serviceAuthDjangoService
    requestTimestamp := timestamp
    requestId
    payloadSha256 := payloadHash
    serviceMac := serviceMac library canonical key }

/-- The environment variables that allow the legacy secret. -/
structure LegacyEnvironment where
  fastapiEnv : Option String
  allowLegacyInternalSecret : Option String

/-- `_allow_legacy_internal_secret`. -/
def allowLegacyInternalSecret (key : String) (environment : LegacyEnvironment)
    (legacySecret : Option String) : Bool :=
  nonEmpty legacySecret = some key ∧
    lower (strip (environment.fastapiEnv.getD "development")) ≠ "production" ∧
    lower (strip (environment.allowLegacyInternalSecret.getD "false")) ∈ ["1", "true", "yes", "on"]

/-- How `_verified_body` ends: with the body, the response 401 or another error. -/
inductive VerifiedBody : Type where
  | body (payload : List UInt8)
  | unauthorized
  | raised (fault : ServiceFault)
deriving DecidableEq

/-- `_verified_body`. -/
def verifiedBody (key : String) (environment : LegacyEnvironment) (request : ServiceRequest)
    (legacySecret : Option String) (now : Datetime) : VerifiedBody :=
  if allowLegacyInternalSecret key environment legacySecret then .body request.payload
  else
    match assertServiceRequest library key request now with
    | .ok () => .body request.payload
    | .error (.refused _) => .unauthorized
    | .error fault => .raised fault

/-! ### Authentic requests -/

/-- The text of a timestamp is that of an aware `datetime`, whose instant is this one. -/
def DenotesInstant (value : String) (instant : Datetime) : Prop :=
  value ≠ "" ∧ ∃ clock offset,
    library.fromisoformat (replaceZulu value) = some ⟨clock, some offset⟩ ∧ instant = clock - offset

/-- A request of the other service for which the timestamp is fresh, the digest is that of the
body and the MAC is that of the canonical string under the key. -/
structure Authentic (key : String) (request : ServiceRequest) (now : Datetime) (id : String)
    (instant : Datetime) : Prop where
  service : request.service = some serviceAuthDjangoService
  requestId : nonEmpty request.requestId = some id
  timestamp : DenotesInstant library (request.timestamp.getD "") instant
  fresh : |now - instant| ≤ seconds serviceAuthAllowedSkewSeconds
  payloadHash : request.payloadHash = some (library.sha256 request.payload)
  mac : request.suppliedMac = some (serviceMac library
    (canonicalServiceRequest serviceAuthDjangoService request.method request.path
      (request.timestamp.getD "") id (library.sha256 request.payload)) key)

/-- The request gets as far as its timestamp. -/
def ReachesTimestamp (request : ServiceRequest) : Prop :=
  request.service = some serviceAuthDjangoService ∧ nonEmpty request.requestId ≠ none

/-- The library calls that a request reaches do not raise: the instant of its timestamp is a
`datetime`, and a MAC that is compared is ASCII. -/
def ComparesSafely (request : ServiceRequest) (now : Datetime) : Prop :=
  ReachesTimestamp request →
    ∀ instant, DenotesInstant library (request.timestamp.getD "") instant →
      IsDatetime instant ∧
        (|now - instant| ≤ seconds serviceAuthAllowedSkewSeconds →
          request.payloadHash = some (library.sha256 request.payload) →
            isAscii (request.suppliedMac.getD "") = true)

/-- The request is accepted exactly when it is authentic, and every other end is a
`ServiceAuthError`. -/
def DecidesService (key : String) (request : ServiceRequest) (now : Datetime) : Prop :=
  (assertServiceRequest library key request now = .ok () ↔
    ∃ requestId instant, Authentic library key request now requestId instant) ∧
  ∀ fault, assertServiceRequest library key request now = .error fault →
    ∃ message, fault = .refused message

variable {library} {key : String} {request : ServiceRequest} {now instant : Datetime}

/-- A text denotes one instant. -/
theorem DenotesInstant.unique {value : String} {instant' : Datetime}
    (h : DenotesInstant library value instant) (h' : DenotesInstant library value instant') :
    instant = instant' := by
  obtain ⟨_, clock, offset, hread, rfl⟩ := h
  obtain ⟨_, clock', offset', hread', rfl⟩ := h'
  cases hread.symm.trans hread'
  rfl

/-- A timestamp that denotes no instant is refused. -/
theorem parseTimestamp_of_not_denotes {value : String}
    (h : ∀ instant, ¬ DenotesInstant library value instant) :
    ∃ message, parseTimestamp library value = .error (.refused message) := by
  unfold parseTimestamp
  split
  · exact ⟨_, rfl⟩
  · next hvalue =>
    split
    · exact ⟨_, rfl⟩
    · next parsed hread =>
      split
      · exact ⟨_, rfl⟩
      · next offset hoffset =>
        obtain ⟨clock, _⟩ := parsed
        cases hoffset
        exact absurd ⟨hvalue, clock, offset, hread, rfl⟩ (h _)

/-- A timestamp that denotes an instant is read when this is a `datetime`. -/
theorem parseTimestamp_of_denotes {value : String} (h : DenotesInstant library value instant) :
    parseTimestamp library value =
      if IsDatetime instant then .ok instant else .error .overflowError := by
  obtain ⟨hvalue, clock, offset, hread, rfl⟩ := h
  unfold parseTimestamp astimezone
  rw [if_neg hvalue, hread]

/-- The comparison of MACs: it raises beyond ASCII, and otherwise decides. -/
theorem assertMatchingMac_eq {supplied : Option String} {canonical : String} :
    assertMatchingMac (supplied.getD "") (serviceMac library canonical key) =
      if isAscii (supplied.getD "") = false then .error .typeError
      else if supplied = some (serviceMac library canonical key) then .ok ()
      else .error (.refused "Invalid service authentication.") := by
  have hascii : isAscii (serviceMac library canonical key) = true :=
    library.hmac_ascii key canonical
  have hne : serviceMac library canonical key ≠ "" := library.hmac_ne_empty key canonical
  have hempty : isAscii "" = true := by decide +kernel
  unfold assertMatchingMac
  cases supplied with
  | none => simp [hempty]
  | some supplied =>
    simp only [Option.getD_some, Option.some.injEq]
    by_cases hsupplied : supplied = ""
    · rw [if_pos hsupplied, hsupplied, hempty, if_neg nofun, if_neg (Ne.symm hne)]
    · rw [if_neg hsupplied]
      cases hgiven : isAscii supplied with
      | false =>
        have hcompare : compareDigest supplied (serviceMac library canonical key) = none :=
          if_neg fun h => Bool.noConfusion (hgiven.symm.trans h.1)
        rw [hcompare, if_pos rfl]
      | true =>
        rw [compareDigest_of_ascii hgiven hascii, if_neg nofun]
        by_cases heq : supplied = serviceMac library canonical key
        · rw [decide_eq_true heq, if_pos heq]
        · rw [decide_eq_false heq, if_neg heq]

/-- A request that does not get as far as its timestamp is refused and not authentic. -/
theorem assertServiceRequest_of_not_reaches (h : ¬ ReachesTimestamp request) :
    (∃ message, assertServiceRequest library key request now = .error (.refused message)) ∧
      ∀ requestId instant, ¬ Authentic library key request now requestId instant := by
  constructor
  · unfold assertServiceRequest
    split
    · exact ⟨_, rfl⟩
    · next hservice =>
      split
      · exact ⟨_, rfl⟩
      · next hid => exact absurd ⟨not_not.mp hservice, by rw [hid]; exact nofun⟩ h
  · intro requestId instant hauthentic
    exact h ⟨hauthentic.service, by rw [hauthentic.requestId]; exact nofun⟩

/-- A request that gets as far as its timestamp. -/
theorem assertServiceRequest_of_reaches {requestId : String}
    (hservice : request.service = some serviceAuthDjangoService)
    (hid : nonEmpty request.requestId = some requestId) :
    assertServiceRequest library key request now = (do
      let parsedTimestamp ← parseTimestamp library (request.timestamp.getD "")
      assertFreshTimestamp parsedTimestamp now
      if request.payloadHash ≠ some (library.sha256 request.payload) then
        throw (.refused "Invalid payload digest.")
      assertMatchingMac (request.suppliedMac.getD "") (serviceMac library
        (canonicalServiceRequest serviceAuthDjangoService request.method request.path
          (request.timestamp.getD "") requestId (library.sha256 request.payload)) key)) := by
  unfold assertServiceRequest
  rw [if_neg (not_not.mpr hservice), hid]

/-- A refusal of a request that is not authentic decides it. -/
theorem decides_of_refused
    (h : ∃ message, assertServiceRequest library key request now = .error (.refused message))
    (hnot : ∀ requestId instant, ¬ Authentic library key request now requestId instant) :
    DecidesService library key request now := by
  obtain ⟨message, h⟩ := h
  unfold DecidesService
  rw [h]
  refine ⟨⟨nofun, fun ⟨requestId, instant, hauthentic⟩ => ?_⟩, fun fault heq => ?_⟩
  · exact absurd hauthentic (hnot requestId instant)
  · cases heq
    exact ⟨message, rfl⟩

/-- An error that is no refusal does not decide a request. -/
theorem not_decides_of_fault {fault : ServiceFault}
    (h : assertServiceRequest library key request now = .error fault)
    (hfault : ∀ message, fault ≠ .refused message) : ¬ DecidesService library key request now :=
  fun hdecides => by
    obtain ⟨message, heq⟩ := hdecides.2 fault h
    exact hfault message heq

/-- A request that gets as far as a timestamp that denotes an instant. -/
theorem assertServiceRequest_of_denotes {id : String}
    (hservice : request.service = some serviceAuthDjangoService)
    (hid : nonEmpty request.requestId = some id)
    (hinstant : DenotesInstant library (request.timestamp.getD "") instant) :
    assertServiceRequest library key request now =
      if ¬ IsDatetime instant then .error .overflowError
      else if seconds serviceAuthAllowedSkewSeconds < |now - instant| then
        .error (.refused "Service timestamp is outside the allowed window.")
      else if request.payloadHash ≠ some (library.sha256 request.payload) then
        .error (.refused "Invalid payload digest.")
      else if isAscii (request.suppliedMac.getD "") = false then .error .typeError
      else if request.suppliedMac = some (serviceMac library
          (canonicalServiceRequest serviceAuthDjangoService request.method request.path
            (request.timestamp.getD "") id (library.sha256 request.payload)) key) then .ok ()
      else .error (.refused "Invalid service authentication.") := by
  rw [assertServiceRequest_of_reaches hservice hid, parseTimestamp_of_denotes hinstant]
  by_cases hdatetime : IsDatetime instant
  · rw [if_pos hdatetime, if_neg (not_not.mpr hdatetime)]
    simp only [bind, Except.bind, assertFreshTimestamp]
    by_cases hstale : seconds serviceAuthAllowedSkewSeconds < |now - instant|
    · rw [if_pos hstale, if_pos hstale]
    · rw [if_neg hstale, if_neg hstale]
      by_cases hdigest : request.payloadHash = some (library.sha256 request.payload)
      · simp only [ne_eq, hdigest, not_true_eq_false, if_false]
        exact assertMatchingMac_eq
      · simp only [ne_eq, hdigest, not_false_eq_true, if_true]
        rfl
  · rw [if_neg hdatetime, if_pos hdatetime]
    rfl

/-- A request ends with an acceptance or a refusal, and with an acceptance exactly when it is
authentic, if and only if the library calls that it reaches do not raise. -/
theorem decidesService_iff :
    DecidesService library key request now ↔ ComparesSafely library request now := by
  by_cases hreaches : ReachesTimestamp request
  swap
  · obtain ⟨hrefused, hnot⟩ : (∃ message, assertServiceRequest library key request now =
        .error (.refused message)) ∧ _ := assertServiceRequest_of_not_reaches hreaches
    exact ⟨fun _ h => absurd h hreaches, fun _ => decides_of_refused hrefused hnot⟩
  obtain ⟨hservice, hid⟩ := hreaches
  obtain ⟨id, hid⟩ := Option.ne_none_iff_exists'.mp hid
  by_cases hinstant : ∃ instant, DenotesInstant library (request.timestamp.getD "") instant
  swap
  · have hnone := not_exists.mp hinstant
    refine ⟨fun _ _ instant h => absurd h (hnone instant), fun _ => decides_of_refused ?_ ?_⟩
    · obtain ⟨message, hparse⟩ := parseTimestamp_of_not_denotes hnone
      refine ⟨message, ?_⟩
      rw [assertServiceRequest_of_reaches hservice hid, hparse]
      rfl
    · exact fun _ instant hauthentic => hnone instant hauthentic.timestamp
  obtain ⟨instant, hinstant⟩ := hinstant
  have hrequest : assertServiceRequest library key request now = _ :=
    assertServiceRequest_of_denotes hservice hid hinstant
  have hauthentic {id' : String} {instant' : Datetime}
      (h : Authentic library key request now id' instant') : id' = id ∧ instant' = instant :=
    ⟨Option.some.inj (h.requestId.symm.trans hid), h.timestamp.unique hinstant⟩
  have hsafe : ComparesSafely library request now ↔ IsDatetime instant ∧
      (|now - instant| ≤ seconds serviceAuthAllowedSkewSeconds →
        request.payloadHash = some (library.sha256 request.payload) →
          isAscii (request.suppliedMac.getD "") = true) := by
    refine ⟨fun h => h ⟨hservice, by rw [hid]; exact nofun⟩ instant hinstant,
      fun h _ instant' hinstant' => ?_⟩
    rw [hinstant'.unique hinstant]
    exact h
  rw [hsafe]
  by_cases hdatetime : IsDatetime instant
  swap
  · rw [if_pos hdatetime] at hrequest
    exact ⟨fun h => absurd h (not_decides_of_fault hrequest nofun), fun h => absurd h.1 hdatetime⟩
  rw [if_neg (not_not.mpr hdatetime)] at hrequest
  by_cases hstale : seconds serviceAuthAllowedSkewSeconds < |now - instant|
  · rw [if_pos hstale] at hrequest
    refine ⟨fun _ => ⟨hdatetime, fun hfresh => absurd hstale (not_lt.mpr hfresh)⟩,
      fun _ => decides_of_refused ⟨_, hrequest⟩ fun id' instant' h => ?_⟩
    obtain ⟨rfl, rfl⟩ := hauthentic h
    exact absurd hstale (not_lt.mpr h.fresh)
  rw [if_neg hstale] at hrequest
  by_cases hdigest : request.payloadHash = some (library.sha256 request.payload)
  swap
  · rw [if_pos hdigest] at hrequest
    exact ⟨fun _ => ⟨hdatetime, fun _ hsame => absurd hsame hdigest⟩,
      fun _ => decides_of_refused ⟨_, hrequest⟩ fun _ _ h => hdigest h.payloadHash⟩
  rw [if_neg (not_not.mpr hdigest)] at hrequest
  cases hascii : isAscii (request.suppliedMac.getD "") with
  | false =>
    rw [if_pos hascii] at hrequest
    refine ⟨fun h => absurd h (not_decides_of_fault hrequest nofun), fun h => ?_⟩
    exact absurd (h.2 (not_lt.mp hstale) hdigest) nofun
  | true =>
    rw [hascii, if_neg nofun] at hrequest
    refine ⟨fun _ => ⟨hdatetime, fun _ _ => rfl⟩, fun _ => ?_⟩
    split at hrequest
    · next hmac =>
      refine ⟨⟨fun _ => ⟨id, instant, ?_⟩, fun _ => hrequest⟩, fun fault heq => ?_⟩
      · exact ⟨hservice, hid, hinstant, not_lt.mp hstale, hdigest, hmac⟩
      · cases hrequest.symm.trans heq
    · next hmac =>
      refine decides_of_refused ⟨_, hrequest⟩ fun id' instant' h => ?_
      obtain ⟨rfl, rfl⟩ := hauthentic h
      exact hmac h.mac

/-- The headers that the other service builds make a request authentic. -/
theorem authentic_buildServiceHeaders {method path id timestamp : String} {payload : List UInt8}
    (hid : id ≠ "") (htimestamp : DenotesInstant library timestamp instant)
    (hfresh : |now - instant| ≤ seconds serviceAuthAllowedSkewSeconds) :
    let headers := buildServiceHeaders library key method path payload id timestamp
    Authentic library key
      { service := some headers.serviceName
        method
        path
        timestamp := some headers.requestTimestamp
        requestId := some headers.requestId
        payloadHash := some headers.payloadSha256
        suppliedMac := some headers.serviceMac
        payload } now id instant where
  service := rfl
  requestId := Option.filter_eq_some_iff.mpr ⟨rfl, decide_eq_true hid⟩
  timestamp := htimestamp
  fresh := hfresh
  payloadHash := rfl
  mac := rfl

/-- Where the library calls do not raise, the body is verified or the response is 401. -/
theorem verifiedBody_of_comparesSafely {environment : LegacyEnvironment}
    {legacySecret : Option String} (h : ComparesSafely library request now) :
    verifiedBody library key environment request legacySecret now = .body request.payload ∨
      verifiedBody library key environment request legacySecret now = .unauthorized := by
  have hdecides : DecidesService library key request now := decidesService_iff.mpr h
  unfold verifiedBody
  split
  · exact .inl rfl
  · cases hresult : assertServiceRequest library key request now with
    | ok _ => exact .inl rfl
    | error fault =>
      obtain ⟨message, rfl⟩ := hdecides.2 fault hresult
      exact .inr rfl

/-! ### Concrete requests -/

/-- The reading of a text with microseconds and offset as `isoformat` writes it. -/
def readIsoformat (text : String) : Option ParsedDatetime := do
  let (date, rest) ← readDate text.toList
  let (second, rest) ← readClock rest.tail
  let (microsecond, offset) ← readFraction rest
  some ⟨days date.toDays + seconds second + microsecond, some (seconds offset)⟩

/-- A library for concrete requests: the digest of no bytes and one MAC. -/
def sampleServiceLibrary : ServiceLibrary where
  sha256 := fun _ => "e3b0c44298fc1c149afbf4c8996fb92427ae41e4649b934ca495991b7852b855"
  hmac := fun _ _ => "7ca56b780d1f2720788ee68f42fb4086909ba0cb6ae17f0c1ce5f9a5b064a1fa"
  fromisoformat := readIsoformat
  hmac_ascii _ _ := by decide +kernel
  hmac_ne_empty _ _ := by decide +kernel

/-- A request of the other service without a body. -/
def sampleServiceRequest (timestamp mac : String) : ServiceRequest where
  service := some "django"
  method := "GET"
  path := "/internal/listings"
  timestamp := some timestamp
  requestId := some "request-1"
  payloadHash := some "e3b0c44298fc1c149afbf4c8996fb92427ae41e4649b934ca495991b7852b855"
  suppliedMac := some mac
  payload := []

/-- A timestamp whose instant lies before the first year overflows, and a MAC beyond ASCII
cannot be compared. -/
theorem service_request_raises :
    ¬ DecidesService sampleServiceLibrary "test-secret"
      (sampleServiceRequest "0001-01-01T00:00:00+23:59" "00") 1704067200000000 ∧
    ¬ DecidesService sampleServiceLibrary "test-secret"
      (sampleServiceRequest "2024-01-01T00:00:00Z" "é") 1704067200000000 := by
  constructor
  · have hresult : assertServiceRequest sampleServiceLibrary "test-secret"
        (sampleServiceRequest "0001-01-01T00:00:00+23:59" "00") 1704067200000000 =
          .error .overflowError := by
      decide +kernel
    exact not_decides_of_fault hresult nofun
  · have hresult : assertServiceRequest sampleServiceLibrary "test-secret"
        (sampleServiceRequest "2024-01-01T00:00:00Z" "é") 1704067200000000 =
          .error .typeError := by
      decide +kernel
    exact not_decides_of_fault hresult nofun

end Linkapro.Marketplace
