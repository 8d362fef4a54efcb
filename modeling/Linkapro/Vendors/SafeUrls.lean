import Linkapro.Lib.Addresses
import Linkapro.Vendors.Revalidation
import Mathlib.Tactic.IntervalCases

/-!
# Hosts of safe URLs

`validate_safe_url` refuses hosts by a list of names and of beginnings. An accepted URL has
an internal host exactly when the host is a loopback address other than `127.0.0.1`, or an
internal IPv6 address that is written with a dot.
-/

namespace Linkapro.Vendors

open Lib (Ipv4 ipv4Of scopedIpv6Of InternalIpv6 InternalHost)

variable {library : TextLibrary}

/-- The host that `validate_safe_url` looks at, in lower case and without brackets. -/
def ParsedUrl.host (library : TextLibrary) (parsed : ParsedUrl) : String :=
  stripBrackets (library.lower (parsed.hostname.getD ""))

/-- What `validate_safe_url` asks of a URL apart from its host. -/
structure ParsedUrl.Addressed (parsed : ParsedUrl) : Prop where
  scheme : parsed.scheme ∈ ["http", "https"]
  netloc : parsed.netloc ≠ ""
  username : nonEmpty parsed.username = none
  password : nonEmpty parsed.password = none
  port : ∃ port, parsed.port = .ok port

/-- What `validate_safe_url` asks of the host. -/
structure PublicHost (host : String) : Prop where
  name : host ∉ PRIVATE_HOSTS
  start : ∀ start ∈ ["10.", "192.168.", "169.254."], ¬start.toList <+: host.toList
  private172 : ¬inPrivate172 host
  dot : '.' ∈ host.toList

theorem safe_url_eq_ok_iff {url result : String} :
    safe_url library url = .ok result ↔
      (∃ parsed, library.urlparse url = some parsed ∧ parsed.Addressed ∧
        PublicHost (parsed.host library)) ∧ result = url := by
  rw [safe_url]
  cases hparsed : library.urlparse url with
  | none =>
    constructor
    · intro h
      cases h
    · rintro ⟨⟨parsed, hsome, -⟩, -⟩
      cases hsome
  | some parsed =>
    cases hport : parsed.port with
    | error message =>
      simp only [hport, guard_eq_ok_iff]
      constructor
      · rintro ⟨-, -, h⟩
        cases h
      · rintro ⟨⟨_, hsome, haddressed, -⟩, -⟩
        obtain rfl := Option.some.inj hsome
        obtain ⟨port, hok⟩ := haddressed.port
        rw [hport] at hok
        cases hok
    | ok port =>
      simp only [hport, guard_eq_ok_iff, pure_eq_ok_iff]
      constructor
      · rintro ⟨hscheme, hcredentials, hname, hstart, hdot, rfl⟩
        rw [not_or] at hscheme hcredentials hstart hdot
        refine ⟨⟨parsed, rfl, ?_, ?_⟩, rfl⟩
        · exact ⟨not_not.mp hscheme.1, hscheme.2, by simpa using hcredentials.1,
            by simpa using hcredentials.2, port, hport⟩
        · refine ⟨hname, ?_, hstart.2, not_not.mp hdot.2⟩
          intro start hmem hprefix
          have hbegins := List.isPrefixOf_iff_prefix.mpr hprefix
          exact hstart.1 (List.any_eq_true.mpr ⟨start, hmem, hbegins⟩)
      · rintro ⟨⟨_, hsome, haddressed, hpublic⟩, rfl⟩
        obtain rfl := Option.some.inj hsome
        refine ⟨?_, ?_, hpublic.name, ?_, ?_, rfl⟩
        · exact not_or.mpr ⟨not_not.mpr haddressed.scheme, haddressed.netloc⟩
        · simp [haddressed.username, haddressed.password]
        · rintro (hany | h172)
          · obtain ⟨start, hmem, hprefix⟩ := List.any_eq_true.mp hany
            exact hpublic.start start hmem (List.isPrefixOf_iff_prefix.mp hprefix)
          · exact hpublic.private172 h172
        · rintro (hempty | hdot)
          · have hmem := hpublic.dot
            rw [ParsedUrl.host, hempty] at hmem
            exact absurd hmem (by decide)
          · exact hdot hpublic.dot

/-! ### IPv4 hosts -/

variable {host : String} {address : Ipv4} {groups : List ℕ}

/-- A loopback address other than `127.0.0.1`. -/
def UnlistedLoopback (host : String) : Prop :=
  host ≠ "127.0.0.1" ∧ ∃ address, ipv4Of host.toList = some address ∧ address.IsLoopback

/-- An internal IPv6 address that is written with a dot. -/
def DottedIpv6 (host : String) : Prop :=
  '.' ∈ host.toList ∧ ∃ groups, scopedIpv6Of host.toList = some groups ∧ InternalIpv6 groups

/-- A listed spelling of an address is its only spelling. -/
theorem eq_of_ipv4Of {listed : String} (h : ipv4Of host.toList = some address)
    (hlisted : ipv4Of listed.toList = some address) : host = listed :=
  String.toList_injective (Lib.ipv4Of_injective h hlisted)

/-- The beginnings refuse the private and the link-local addresses. -/
theorem not_publicHost_of_private (h : ipv4Of host.toList = some address)
    (hinternal : address.IsPrivate ∨ address.IsLinkLocal) : ¬PublicHost host := by
  intro hpublic
  have htext := Lib.ipv4Of_eq_some h
  obtain ⟨first, second, third, fourth⟩ := address
  rcases hinternal with (hfirst | ⟨hfirst, hlow, hhigh⟩ | ⟨hfirst, hsecond⟩) | ⟨hfirst, hsecond⟩
  · simp only at hfirst htext
    subst hfirst
    exact hpublic.start "10." (by decide) (htext ▸ ⟨_, rfl⟩)
  · simp only at hfirst hlow hhigh htext
    subst hfirst
    refine hpublic.private172 ?_
    rw [inPrivate172, htext]
    clear * - hlow hhigh
    interval_cases second <;> rfl
  · simp only at hfirst hsecond htext
    subst hfirst hsecond
    exact hpublic.start "192.168." (by decide) (htext ▸ ⟨_, rfl⟩)
  · simp only at hfirst hsecond htext
    subst hfirst hsecond
    exact hpublic.start "169.254." (by decide) (htext ▸ ⟨_, rfl⟩)

/-- No name and no beginning refuses a loopback address, apart from `127.0.0.1`. -/
theorem publicHost_of_loopback (h : ipv4Of host.toList = some address)
    (hloopback : address.IsLoopback) (hne : host ≠ "127.0.0.1") : PublicHost host := by
  have htext := Lib.ipv4Of_eq_some h
  have hfirst : Nat.toDigits 10 address.first = ['1', '2', '7'] := by rw [hloopback]; rfl
  rw [hfirst] at htext
  constructor
  · have hnames (name : String) (hname : ipv4Of name.toList ≠ some address) : host ≠ name := by
      rintro rfl
      exact hname h
    have hunspecified : (⟨0, 0, 0, 0⟩ : Ipv4) ≠ address := by
      rintro rfl
      cases hloopback
    simp only [PRIVATE_HOSTS, List.mem_cons, List.not_mem_nil, or_false, not_or]
    refine ⟨hnames _ ?_, hnames _ ?_, hne, hnames _ ?_⟩
    · have hnone : ipv4Of "localhost".toList = none := by decide +kernel
      rw [hnone]
      exact Option.some_ne_none _ ∘ Eq.symm
    · have hsome : ipv4Of "0.0.0.0".toList = some ⟨0, 0, 0, 0⟩ := by decide +kernel
      rw [hsome]
      exact mt Option.some.inj hunspecified
    · have hnone : ipv4Of "::1".toList = none := by decide +kernel
      rw [hnone]
      exact Option.some_ne_none _ ∘ Eq.symm
  · intro start hstart
    rw [htext]
    simp only [List.mem_cons, List.not_mem_nil, or_false] at hstart
    rcases hstart with rfl | rfl | rfl <;> simp [List.cons_prefix_cons]
  · rw [inPrivate172, htext]
    simp
  · rw [htext]
    simp

/-- An IPv4 host passes with an internal address exactly as an unlisted loopback address. -/
theorem publicHost_ipv4_iff :
    (PublicHost host ∧ ∃ address, ipv4Of host.toList = some address ∧ address.Internal) ↔
      UnlistedLoopback host := by
  constructor
  · rintro ⟨hpublic, address, haddress, hloopback | hprivate | hlocal | hunspecified⟩
    · refine ⟨?_, address, haddress, hloopback⟩
      rintro rfl
      exact hpublic.name (by decide)
    · exact absurd hpublic (not_publicHost_of_private haddress (.inl hprivate))
    · exact absurd hpublic (not_publicHost_of_private haddress (.inr hlocal))
    · have hlisted : ipv4Of "0.0.0.0".toList = some address := by
        rw [hunspecified]
        decide +kernel
      rw [eq_of_ipv4Of haddress hlisted] at hpublic
      exact absurd (show "0.0.0.0" ∈ PRIVATE_HOSTS by decide) hpublic.name
  · rintro ⟨hne, address, haddress, hloopback⟩
    exact ⟨publicHost_of_loopback haddress hloopback hne, address, haddress, .inl hloopback⟩

/-! ### IPv6 hosts -/

/-- No name and no beginning refuses an IPv6 address with a dot. -/
theorem publicHost_of_dotted (h : scopedIpv6Of host.toList = some groups)
    (hdot : '.' ∈ host.toList) : PublicHost host := by
  constructor
  · have hnames (name : String) (hname : '.' ∈ name.toList) (hcolon : ':' ∉ name.toList) :
        host ≠ name := by
      rintro rfl
      exact Lib.not_prefix_of_scopedIpv6Of h hname hcolon (List.prefix_refl _)
    have hplain (name : String) (hname : '.' ∉ name.toList) : host ≠ name := by
      rintro rfl
      exact hname hdot
    simp only [PRIVATE_HOSTS, List.mem_cons, List.not_mem_nil, or_false, not_or]
    exact ⟨hplain _ (by decide), hnames _ (by decide) (by decide),
      hnames _ (by decide) (by decide), hplain _ (by decide)⟩
  · intro start hstart
    simp only [List.mem_cons, List.not_mem_nil, or_false] at hstart
    rcases hstart with rfl | rfl | rfl <;>
      exact Lib.not_prefix_of_scopedIpv6Of h (by decide) (by decide)
  · intro h172
    rw [inPrivate172] at h172
    split at h172
    · rename_i a b rest htext
      have hnot : ¬"172.".toList <+: host.toList :=
        Lib.not_prefix_of_scopedIpv6Of h (by decide) (by decide)
      exact hnot (htext ▸ ⟨_, rfl⟩)
    · cases h172
  · exact hdot

/-- An IPv6 host passes with an internal address exactly when it is written with a dot. -/
theorem publicHost_ipv6_iff :
    (PublicHost host ∧ ∃ groups, scopedIpv6Of host.toList = some groups ∧ InternalIpv6 groups) ↔
      DottedIpv6 host := by
  constructor
  · rintro ⟨hpublic, hgroups⟩
    exact ⟨hpublic.dot, hgroups⟩
  · rintro ⟨hdot, groups, hgroups, hinternal⟩
    exact ⟨publicHost_of_dotted hgroups hdot, groups, hgroups, hinternal⟩

theorem publicHost_internal_iff :
    (PublicHost host ∧ InternalHost host.toList) ↔ UnlistedLoopback host ∨ DottedIpv6 host := by
  rw [InternalHost, and_or_left, publicHost_ipv4_iff, publicHost_ipv6_iff]

/-! ### Accepted URLs -/

/-- `validate_safe_url(value)` accepts the URL, which `urlparse` reads so. -/
structure AcceptedUrl (library : TextLibrary) (max_length : ℕ) (value : Value) (url : String)
    (parsed : ParsedUrl) : Prop where
  accepted : validate_safe_url library max_length value = .ok (some url)
  nonempty : url ≠ ""
  parses : library.urlparse url = some parsed

/-- The URL of a value passes the checks of `validate_safe_url` that come before its host. -/
structure AddressedUrl (library : TextLibrary) (max_length : ℕ) (value : Value) (url : String)
    (parsed : ParsedUrl) : Prop where
  text : bounded_optional_text library max_length value = .ok (some url)
  nonempty : url ≠ ""
  parses : library.urlparse url = some parsed
  addressed : parsed.Addressed

theorem acceptedUrl_iff {max_length : ℕ} {value : Value} {url : String} {parsed : ParsedUrl} :
    AcceptedUrl library max_length value url parsed ↔
      AddressedUrl library max_length value url parsed ∧ PublicHost (parsed.host library) := by
  constructor
  · rintro ⟨haccepted, hnonempty, hparsed⟩
    rw [validate_safe_url, bind_eq_ok_iff] at haccepted
    obtain ⟨text, htext, hgiven⟩ := haccepted
    rw [whenGiven_eq_ok_iff] at hgiven
    obtain ⟨hnone | hempty, hresult⟩ | ⟨given, given', rfl, -, hsafe, hresult⟩ := hgiven
    · rw [hnone] at hresult
      cases hresult
    · rw [hempty] at hresult
      exact absurd (Option.some.inj hresult) hnonempty
    · obtain rfl := Option.some.inj hresult
      obtain ⟨⟨parsed', hparsed', haddressed, hpublic⟩, rfl⟩ := safe_url_eq_ok_iff.mp hsafe
      rw [hparsed] at hparsed'
      obtain rfl := Option.some.inj hparsed'
      exact ⟨⟨htext, hnonempty, hparsed, haddressed⟩, hpublic⟩
  · rintro ⟨⟨htext, hnonempty, hparsed, haddressed⟩, hpublic⟩
    refine ⟨?_, hnonempty, hparsed⟩
    rw [validate_safe_url, bind_eq_ok_iff]
    refine ⟨some url, htext, whenGiven_eq_ok_iff.mpr (.inr ⟨url, url, rfl, hnonempty, ?_, rfl⟩)⟩
    exact safe_url_eq_ok_iff.mpr ⟨⟨parsed, hparsed, haddressed, hpublic⟩, rfl⟩

/-- No URL that `validate_safe_url` accepts has an internal host. -/
def SafeHosts (library : TextLibrary) (max_length : ℕ) (value : Value) : Prop :=
  ∀ url parsed, AcceptedUrl library max_length value url parsed →
    ¬InternalHost (parsed.host library).toList

end Linkapro.Vendors
