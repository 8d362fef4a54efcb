import Mathlib.Data.List.ReduceOption
import Linkapro.Shared

/-!
# Identity: the origin of a request with cookies

`cookie_session_request_is_allowed` reads the Origin or the Referer of a request with `urlparse`,
which raises for brackets around no IPv6 host and for characters that normalise to delimiters. It
compares two tokens with `hmac.compare_digest`, which raises beyond ASCII.
-/

namespace Linkapro.IdentityViews

/-- What Python knows of Unicode and of addresses. -/
structure UrlLibrary where
  /-- `unicodedata.normalize("NFKC", text)`. -/
  nfkc : String → String
  /-- `ipaddress.ip_address(text)` is an `IPv6Address`. -/
  isIPv6 : String → Bool

section Urls

variable (library : UrlLibrary)

/-- `scheme_chars`. -/
def isSchemeChar (c : Char) : Bool := c.isAlphanum ∨ c ∈ ['+', '-', '.']

/-- A URL without the characters that `urlsplit` removes. -/
def cleaned (url : String) : List Char :=
  (url.toList.dropWhile fun c => c.toNat ≤ 32).filter fun c => c ∉ ['\t', '\r', '\n']

/-- The scheme of a URL and what follows it. -/
def splitScheme (url : List Char) : List Char × List Char :=
  match url.span fun c => c ≠ ':' with
  | (first :: more, _ :: rest) =>
    if first.isAlpha ∧ more.all isSchemeChar then (first :: more, rest) else ([], url)
  | _ => ([], url)

/-- `_splitnetloc`, where there is one. -/
def splitNetloc : List Char → List Char
  | '/' :: '/' :: rest => rest.takeWhile fun c => c ∉ ['/', '?', '#']
  | _ => []

/-- The scheme of a URL as `urlsplit` reads it. -/
def urlScheme (url : String) : String := lower (String.ofList (splitScheme (cleaned url)).1)

/-- The network location of a URL as `urlsplit` reads it. -/
def urlNetloc (url : String) : List Char := splitNetloc (splitScheme (cleaned url)).2

/-- `_check_bracketed_host` does not raise. -/
def bracketedHostAllowed (hostname : List Char) : Bool :=
  match hostname with
  | 'v' :: rest =>
    match rest.span fun c => c.isDigit ∨ ('a' ≤ c ∧ c ≤ 'f') ∨ ('A' ≤ c ∧ c ≤ 'F') with
    | (_ :: _, '.' :: _ :: _) => true
    | _ => false
  | _ => library.isIPv6 (String.ofList hostname)

/-- `_check_bracketed_netloc` does not raise. -/
def bracketedNetlocAllowed (netloc : List Char) : Bool :=
  let hostname_and_port := (netloc.reverse.takeWhile fun c => c ≠ '@').reverse
  match hostname_and_port.span fun c => c ≠ '[' with
  | (before_bracket, _ :: bracketed) =>
    let port := (bracketed.dropWhile fun c => c ≠ ']').drop 1
    before_bracket = [] ∧ (port = [] ∨ port.head? = some ':') ∧
      bracketedHostAllowed library (bracketed.takeWhile fun c => c ≠ ']')
  | (_, []) => bracketedHostAllowed library (hostname_and_port.takeWhile fun c => c ≠ ':')

/-- `_checknetloc` does not raise. -/
def delimitersPlain (netloc : List Char) : Bool :=
  let n := String.ofList (netloc.filter fun c => c ∉ ['@', ':', '#', '?'])
  let netloc2 := library.nfkc n
  isAscii (String.ofList netloc) ∨ n = netloc2 ∨
    ['/', '?', '#', '@', ':'].all fun c => c ∉ netloc2.toList

/-- A network location with plain brackets and delimiters. -/
structure NetlocPlain (netloc : List Char) : Prop where
  balanced : '[' ∈ netloc ↔ ']' ∈ netloc
  bracketed : '[' ∈ netloc → bracketedNetlocAllowed library netloc = true
  delimiters : delimitersPlain library netloc = true

instance (netloc : List Char) : Decidable (NetlocPlain library netloc) :=
  decidable_of_iff (('[' ∈ netloc ↔ ']' ∈ netloc) ∧
      ('[' ∈ netloc → bracketedNetlocAllowed library netloc = true) ∧
        delimitersPlain library netloc = true)
    ⟨fun h => ⟨h.1, h.2.1, h.2.2⟩, fun h => ⟨h.balanced, h.bracketed, h.delimiters⟩⟩

/-- The scheme and the network location that `urlparse` returns. -/
def urlparse (url : String) : Except String (String × String) :=
  let netloc := urlNetloc url
  if ('[' ∈ netloc ∧ ']' ∉ netloc) ∨ (']' ∈ netloc ∧ '[' ∉ netloc) then
    .error "ValueError: Invalid IPv6 URL"
  else if ('[' ∈ netloc ∧ ']' ∈ netloc) ∧ bracketedNetlocAllowed library netloc = false then
    .error "ValueError: Invalid IPv6 URL"
  else if delimitersPlain library netloc = false then
    .error "ValueError: netloc contains invalid characters under NFKC normalization"
  else .ok (urlScheme url, String.ofList netloc)

/-- `urlparse` reads the URLs with a plain network location. -/
theorem urlparse_of_plain {url : String} (h : NetlocPlain library (urlNetloc url)) :
    urlparse library url = .ok (urlScheme url, String.ofList (urlNetloc url)) := by
  unfold urlparse
  dsimp only
  rw [if_neg, if_neg, if_neg]
  · intro hfalse
    rw [h.delimiters] at hfalse
    cases hfalse
  · rintro ⟨⟨hopen, _⟩, hbracketed⟩
    rw [h.bracketed hopen] at hbracketed
    cases hbracketed
  · rintro (⟨hopen, hclose⟩ | ⟨hclose, hopen⟩)
    · exact hclose (h.balanced.mp hopen)
    · exact hopen (h.balanced.mpr hclose)

/-- And no others. -/
theorem urlparse_of_not_plain {url : String} (h : ¬ NetlocPlain library (urlNetloc url)) :
    ∃ error, urlparse library url = .error error := by
  unfold urlparse
  dsimp only
  split
  · exact ⟨_, rfl⟩
  · next hbalanced =>
    split
    · exact ⟨_, rfl⟩
    · next hbracketed =>
      split
      · exact ⟨_, rfl⟩
      · next hdelimiters =>
        refine absurd ⟨?_, ?_, ?_⟩ h
        · constructor
          · exact fun hopen => by_contra fun hclose => hbalanced (.inl ⟨hopen, hclose⟩)
          · exact fun hclose => by_contra fun hopen => hbalanced (.inr ⟨hclose, hopen⟩)
        · intro hopen
          refine eq_true_of_ne_false fun hfalse => hbracketed ⟨⟨hopen, ?_⟩, hfalse⟩
          exact by_contra fun hclose => hbalanced (.inl ⟨hopen, hclose⟩)
        · exact eq_true_of_ne_false hdelimiters

end Urls

/-- A call returns. -/
def Returns {α : Type} (result : Except String α) : Prop := ∃ value, result = .ok value

theorem not_returns_error {α : Type} {error : String} :
    ¬ Returns (.error error : Except String α) := by
  rintro ⟨value, hvalue⟩
  cases hvalue

/-- The settings of the protection. -/
structure CookieAuthSettings where
  DEBUG : Bool
  ALLOW_MISSING_ORIGIN_IN_DEBUG : Bool
  COOKIE_AUTH_ALLOWED_ORIGINS : Option (List String)
  CSRF_TRUSTED_ORIGINS : List String
  FRONTEND_URL : Option String
  COOKIE_AUTH_CSRF_DOUBLE_SUBMIT : Bool

/-- The headers and the cookie that the protection reads. -/
structure OriginHeaders where
  HTTP_ORIGIN : Option String
  HTTP_REFERER : Option String
  identity_csrf_token : Option String
  HTTP_X_CSRF_TOKEN : Option String

section Protection

variable (library : UrlLibrary) (settings : CookieAuthSettings) (headers : OriginHeaders)

/-- A URL with a scheme of the web and a network location. -/
def IsWebUrl (url : String) : Prop :=
  urlScheme url ∈ ["http", "https"] ∧ urlNetloc url ≠ []

instance (url : String) : Decidable (IsWebUrl url) := inferInstanceAs (Decidable (_ ∧ _))

/-- The origin of a URL of the web. -/
def webOrigin (url : String) : String :=
  lower (urlScheme url) ++ "://" ++ lower (String.ofList (urlNetloc url))

/-- `_normalize_origin`. -/
def _normalize_origin (origin : String) : Except String (Option String) :=
  match urlparse library (strip origin) with
  | .error error => .error error
  | .ok (scheme, netloc) =>
    if scheme ∉ ["http", "https"] ∨ netloc = "" then .ok none
    else .ok (some (lower scheme ++ "://" ++ lower netloc))

/-- The URLs of the settings. -/
def configuredUrls : List String :=
  settings.COOKIE_AUTH_ALLOWED_ORIGINS.getD settings.CSRF_TRUSTED_ORIGINS ++
    (nonEmpty settings.FRONTEND_URL).toList

/-- `_allowed_origins`. -/
def _allowed_origins : Except String (List String) :=
  match (configuredUrls settings).mapM (_normalize_origin library) with
  | .error error => .error error
  | .ok origins =>
    if origins.reduceOption = [] ∧ settings.DEBUG = false then
      .error "ImproperlyConfigured"
    else .ok origins.reduceOption

/-- `_origin_allowed`. -/
def _origin_allowed (origin : Option String) : Except String Bool :=
  match nonEmpty origin with
  | none => .ok false
  | some origin =>
    match _normalize_origin library origin with
    | .error error => .error error
    | .ok none => .ok false
    | .ok (some normalized) =>
      (_allowed_origins library settings).map fun origins => decide (normalized ∈ origins)

/-- `_origin_or_referer_allowed`. -/
def _origin_or_referer_allowed : Except String Bool :=
  match nonEmpty headers.HTTP_ORIGIN, nonEmpty headers.HTTP_REFERER with
  | some origin, _ => _origin_allowed library settings (some origin)
  | none, some referer =>
    match _normalize_origin library referer with
    | .error error => .error error
    | .ok origin => _origin_allowed library settings origin
  | none, none => .ok (settings.DEBUG && settings.ALLOW_MISSING_ORIGIN_IN_DEBUG)

/-- `_csrf_double_submit_valid`. -/
def _csrf_double_submit_valid : Except String Bool :=
  let cookie_token := strip (headers.identity_csrf_token.getD "")
  let header_token := strip (headers.HTTP_X_CSRF_TOKEN.getD "")
  if cookie_token = "" ∨ header_token = "" then .ok false
  else
    match compareDigest cookie_token header_token with
    | some equal => .ok equal
    | none => .error "TypeError: comparing strings with non-ASCII characters is not supported"

/-- `cookie_session_request_is_allowed`. -/
def cookie_session_request_is_allowed : Except String Bool :=
  match _origin_or_referer_allowed library settings headers with
  | .error error => .error error
  | .ok false => .ok false
  | .ok true =>
    if settings.COOKIE_AUTH_CSRF_DOUBLE_SUBMIT then _csrf_double_submit_valid headers else .ok true

end Protection

section Readable

variable (library : UrlLibrary) (settings : CookieAuthSettings) (headers : OriginHeaders)

/-- The settings name plain URLs, and one of them at least is a URL of the web. -/
structure SettingsReadable : Prop where
  plain : ∀ url ∈ configuredUrls settings, NetlocPlain library (urlNetloc (strip url))
  named : settings.DEBUG = true ∨ ∃ url ∈ configuredUrls settings, IsWebUrl (strip url)

/-- An origin with a plain network location, compared with readable settings. -/
structure OriginReadable (origin : String) : Prop where
  plain : NetlocPlain library (urlNetloc (strip origin))
  settings : IsWebUrl (strip origin) → SettingsReadable library settings

/-- A referer with a plain network location, as it is and in lower case. -/
structure RefererReadable (referer : String) : Prop where
  plain : NetlocPlain library (urlNetloc (strip referer))
  origin : IsWebUrl (strip referer) →
    OriginReadable library settings (webOrigin (strip referer))

/-- Tokens that are both given are ASCII. -/
def TokensReadable : Prop :=
  strip (headers.identity_csrf_token.getD "") ≠ "" →
    strip (headers.HTTP_X_CSRF_TOKEN.getD "") ≠ "" →
      isAscii (strip (headers.identity_csrf_token.getD "")) = true ∧
        isAscii (strip (headers.HTTP_X_CSRF_TOKEN.getD "")) = true

/-- Headers that the protection can read. -/
structure HeadersReadable : Prop where
  origin : ∀ origin, nonEmpty headers.HTTP_ORIGIN = some origin →
    OriginReadable library settings origin
  referer : ∀ referer, nonEmpty headers.HTTP_ORIGIN = none →
    nonEmpty headers.HTTP_REFERER = some referer → RefererReadable library settings referer
  tokens : settings.COOKIE_AUTH_CSRF_DOUBLE_SUBMIT = true →
    _origin_or_referer_allowed library settings headers = .ok true → TokensReadable headers

end Readable

section Reads

variable {library : UrlLibrary} {settings : CookieAuthSettings} {headers : OriginHeaders}

/-- What `_normalize_origin` makes of a plain URL. -/
theorem normalize_of_plain {origin : String}
    (h : NetlocPlain library (urlNetloc (strip origin))) :
    _normalize_origin library origin =
      .ok (if IsWebUrl (strip origin) then some (webOrigin (strip origin)) else none) := by
  unfold _normalize_origin
  rw [urlparse_of_plain library h]
  dsimp only
  have hempty : String.ofList (urlNetloc (strip origin)) = "" ↔ urlNetloc (strip origin) = [] := by
    rw [← String.toList_inj, String.toList_ofList]
    rfl
  by_cases hweb : IsWebUrl (strip origin)
  · obtain ⟨hscheme, hnetloc⟩ := hweb
    rw [if_neg, if_pos ⟨hscheme, hnetloc⟩]
    · rfl
    · rintro (hother | hnone)
      · exact hother hscheme
      · exact hnetloc (hempty.mp hnone)
  · rw [if_neg hweb, if_pos]
    by_contra hboth
    rw [not_or, hempty, not_not] at hboth
    exact hweb hboth

/-- It returns for plain URLs only. -/
theorem normalize_of_not_plain {origin : String}
    (h : ¬ NetlocPlain library (urlNetloc (strip origin))) :
    ∃ error, _normalize_origin library origin = .error error := by
  obtain ⟨error, herror⟩ := urlparse_of_not_plain library h
  refine ⟨error, ?_⟩
  unfold _normalize_origin
  rw [herror]

/-- The origins of plain URLs. -/
theorem mapM_of_plain {urls : List String}
    (h : ∀ url ∈ urls, NetlocPlain library (urlNetloc (strip url))) :
    urls.mapM (_normalize_origin library) = .ok (urls.map fun url =>
      if IsWebUrl (strip url) then some (webOrigin (strip url)) else none) := by
  induction urls with
  | nil => rfl
  | cons url urls ih =>
    rw [List.mapM_cons, normalize_of_plain (h url List.mem_cons_self),
      ih fun url hurl => h url (List.mem_cons_of_mem _ hurl)]
    rfl

/-- One URL that is not plain is enough. -/
theorem mapM_of_not_plain {urls : List String} {url : String} (hurl : url ∈ urls)
    (h : ¬ NetlocPlain library (urlNetloc (strip url))) :
    ∃ error, urls.mapM (_normalize_origin library) = .error error := by
  induction urls with
  | nil => cases hurl
  | cons first urls ih =>
    rw [List.mapM_cons]
    by_cases hfirst : NetlocPlain library (urlNetloc (strip first))
    · rw [normalize_of_plain hfirst]
      rcases List.mem_cons.mp hurl with rfl | hurl
      · exact absurd hfirst h
      · obtain ⟨error, herror⟩ := ih hurl
        rw [herror]
        exact ⟨error, rfl⟩
    · obtain ⟨error, herror⟩ := normalize_of_not_plain hfirst
      rw [herror]
      exact ⟨error, rfl⟩

/-- The settings have no origin when they name no URL of the web. -/
theorem reduceOption_eq_nil {urls : List String} :
    (urls.map fun url =>
      if IsWebUrl (strip url) then some (webOrigin (strip url)) else none).reduceOption = [] ↔
        ∀ url ∈ urls, ¬ IsWebUrl (strip url) := by
  rw [List.reduceOption, List.filterMap_eq_nil_iff, List.forall_mem_map]
  refine forall₂_congr fun url _ => ?_
  by_cases hweb : IsWebUrl (strip url)
  · rw [if_pos hweb]
    exact ⟨fun h => (nomatch h), fun h => absurd hweb h⟩
  · rw [if_neg hweb]
    exact ⟨fun _ => hweb, fun _ => rfl⟩

theorem allowed_origins_returns_iff :
    Returns (_allowed_origins library settings) ↔ SettingsReadable library settings := by
  unfold _allowed_origins
  by_cases hplain : ∀ url ∈ configuredUrls settings, NetlocPlain library (urlNetloc (strip url))
  · rw [mapM_of_plain hplain]
    dsimp only
    constructor
    · intro hreturns
      refine ⟨hplain, ?_⟩
      by_contra hnone
      rw [not_or, Bool.not_eq_true] at hnone
      rw [if_pos ⟨reduceOption_eq_nil.mpr fun url hurl hweb => hnone.2 ⟨url, hurl, hweb⟩,
        hnone.1⟩] at hreturns
      exact not_returns_error hreturns
    · intro hreadable
      rw [if_neg]
      · exact ⟨_, rfl⟩
      · rintro ⟨hall, hdebug⟩
        rcases hreadable.named with hdebug' | ⟨url, hurl, hweb⟩
        · rw [hdebug] at hdebug'
          cases hdebug'
        · exact reduceOption_eq_nil.mp hall url hurl hweb
  · obtain ⟨url, hurl, hnot⟩ := not_forall₂.mp hplain
    obtain ⟨error, herror⟩ := mapM_of_not_plain hurl hnot
    rw [herror]
    exact ⟨fun h => absurd h not_returns_error, fun h => absurd (h.plain url hurl) hnot⟩

theorem origin_allowed_returns_iff {origin : String} (h : origin ≠ "") :
    Returns (_origin_allowed library settings (some origin)) ↔
      OriginReadable library settings origin := by
  have hnonempty : nonEmpty (some origin) = some origin := if_pos (decide_eq_true h)
  unfold _origin_allowed
  rw [hnonempty]
  dsimp only
  by_cases hplain : NetlocPlain library (urlNetloc (strip origin))
  · rw [normalize_of_plain hplain]
    by_cases hweb : IsWebUrl (strip origin)
    · rw [if_pos hweb]
      dsimp only
      constructor
      · rintro ⟨value, hvalue⟩
        refine ⟨hplain, fun _ => allowed_origins_returns_iff.mp ?_⟩
        cases horigins : _allowed_origins library settings with
        | ok origins => exact ⟨origins, rfl⟩
        | error error =>
          rw [horigins] at hvalue
          cases hvalue
      · intro hreadable
        obtain ⟨origins, horigins⟩ := allowed_origins_returns_iff.mpr (hreadable.settings hweb)
        rw [horigins]
        exact ⟨_, rfl⟩
    · rw [if_neg hweb]
      exact ⟨fun _ => ⟨hplain, fun h => absurd h hweb⟩, fun _ => ⟨false, rfl⟩⟩
  · obtain ⟨error, herror⟩ := normalize_of_not_plain hplain
    rw [herror]
    exact ⟨fun h => absurd h not_returns_error, fun h => absurd h.plain hplain⟩

theorem webOrigin_ne_empty (url : String) : webOrigin url ≠ "" := by
  intro h
  have hlength := congrArg String.length h
  rw [webOrigin, String.length_append, String.length_append] at hlength
  have hslashes : "://".length = 3 := rfl
  rw [hslashes] at hlength
  change _ = 0 at hlength
  omega

/-- The headers are read as far as the origin goes. -/
theorem origin_or_referer_returns_iff :
    Returns (_origin_or_referer_allowed library settings headers) ↔
      (∀ origin, nonEmpty headers.HTTP_ORIGIN = some origin →
        OriginReadable library settings origin) ∧
      ∀ referer, nonEmpty headers.HTTP_ORIGIN = none →
        nonEmpty headers.HTTP_REFERER = some referer →
          RefererReadable library settings referer := by
  unfold _origin_or_referer_allowed
  cases horigin : nonEmpty headers.HTTP_ORIGIN with
  | some origin =>
    have hne : origin ≠ "" := of_decide_eq_true (Option.filter_eq_some_iff.mp horigin).2
    dsimp only
    rw [origin_allowed_returns_iff hne]
    constructor
    · intro hreadable
      exact ⟨fun other hother => Option.some.inj hother ▸ hreadable, fun _ h => nomatch h⟩
    · exact fun h => h.1 origin rfl
  | none =>
    cases hreferer : nonEmpty headers.HTTP_REFERER with
    | none => exact ⟨fun _ => ⟨fun _ h => (nomatch h), fun _ _ h => nomatch h⟩, fun _ => ⟨_, rfl⟩⟩
    | some referer =>
      dsimp only
      have hreadable : Returns (match _normalize_origin library referer with
          | .error error => .error error
          | .ok origin => _origin_allowed library settings origin) ↔
            RefererReadable library settings referer := by
        by_cases hplain : NetlocPlain library (urlNetloc (strip referer))
        · rw [normalize_of_plain hplain]
          by_cases hweb : IsWebUrl (strip referer)
          · rw [if_pos hweb]
            dsimp only
            rw [origin_allowed_returns_iff (webOrigin_ne_empty _)]
            exact ⟨fun h => ⟨hplain, fun _ => h⟩, fun h => h.origin hweb⟩
          · rw [if_neg hweb]
            exact ⟨fun _ => ⟨hplain, fun h => absurd h hweb⟩, fun _ => ⟨false, rfl⟩⟩
        · obtain ⟨error, herror⟩ := normalize_of_not_plain hplain
          rw [herror]
          exact ⟨fun h => absurd h not_returns_error, fun h => absurd h.plain hplain⟩
      rw [hreadable]
      constructor
      · exact fun h => ⟨fun _ hnone => (nomatch hnone),
          fun other _ hother => Option.some.inj hother ▸ h⟩
      · exact fun h => h.2 referer rfl rfl

/-- The tokens are compared exactly when they can be. -/
theorem double_submit_returns_iff :
    Returns (_csrf_double_submit_valid headers) ↔ TokensReadable headers := by
  unfold _csrf_double_submit_valid TokensReadable
  dsimp only
  by_cases hblank : strip (headers.identity_csrf_token.getD "") = "" ∨
      strip (headers.HTTP_X_CSRF_TOKEN.getD "") = ""
  · rw [if_pos hblank]
    refine ⟨fun _ hcookie hheader => ?_, fun _ => ⟨false, rfl⟩⟩
    rcases hblank with hblank | hblank
    · exact absurd hblank hcookie
    · exact absurd hblank hheader
  · rw [if_neg hblank]
    rw [not_or] at hblank
    unfold compareDigest
    by_cases hascii : isAscii (strip (headers.identity_csrf_token.getD "")) = true ∧
        isAscii (strip (headers.HTTP_X_CSRF_TOKEN.getD "")) = true
    · rw [if_pos hascii]
      exact ⟨fun _ _ _ => hascii, fun _ => ⟨_, rfl⟩⟩
    · rw [if_neg hascii]
      exact ⟨fun h => absurd h not_returns_error,
        fun h => absurd (h hblank.1 hblank.2) hascii⟩

/-- The protection answers exactly when it can read the headers. -/
theorem cookie_session_returns_iff :
    Returns (cookie_session_request_is_allowed library settings headers) ↔
      HeadersReadable library settings headers := by
  unfold cookie_session_request_is_allowed
  cases hallowed : _origin_or_referer_allowed library settings headers with
  | error error =>
    refine ⟨fun h => absurd h not_returns_error, fun h => ?_⟩
    have hreturns := origin_or_referer_returns_iff.mpr ⟨h.origin, h.referer⟩
    rw [hallowed] at hreturns
    exact absurd hreturns not_returns_error
  | ok allowed =>
    obtain ⟨horigin, hreferer⟩ := origin_or_referer_returns_iff.mp ⟨allowed, hallowed⟩
    cases allowed with
    | false =>
      refine ⟨fun _ => ⟨horigin, hreferer, fun _ htrue => ?_⟩, fun _ => ⟨false, rfl⟩⟩
      rw [hallowed] at htrue
      cases htrue
    | true =>
      dsimp only
      by_cases hsubmit : settings.COOKIE_AUTH_CSRF_DOUBLE_SUBMIT = true
      · rw [if_pos hsubmit, double_submit_returns_iff]
        exact ⟨fun h => ⟨horigin, hreferer, fun _ _ => h⟩, fun h => h.tokens hsubmit hallowed⟩
      · rw [if_neg hsubmit]
        exact ⟨fun _ => ⟨horigin, hreferer, fun h => absurd h hsubmit⟩, fun _ => ⟨true, rfl⟩⟩

end Reads

end Linkapro.IdentityViews
