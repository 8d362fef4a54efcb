import Mathlib.Algebra.Group.Nat.Defs
import Mathlib.Data.List.Basic
import Linkapro.Lib.Digits

/-!
# Addresses in host names

A host name spells an IPv4 address as four octets with dots, and an IPv6 address as
eight groups with colons, in which `::` stands for a run of zero groups, octets can stand
for the last two groups, and a zone can follow. A reader of each gives the address of a
name, and the internal ranges are predicates on the addresses.
-/

namespace Lib

/-! ### IPv4 -/

structure Ipv4 : Type where
  first : ℕ
  second : ℕ
  third : ℕ
  fourth : ℕ
deriving DecidableEq

/-- `127.0.0.0/8`. -/
def Ipv4.IsLoopback (address : Ipv4) : Prop := address.first = 127

/-- `10.0.0.0/8`, `172.16.0.0/12` and `192.168.0.0/16`. -/
def Ipv4.IsPrivate (address : Ipv4) : Prop :=
  address.first = 10 ∨ (address.first = 172 ∧ 16 ≤ address.second ∧ address.second < 32) ∨
    (address.first = 192 ∧ address.second = 168)

/-- `169.254.0.0/16`. -/
def Ipv4.IsLinkLocal (address : Ipv4) : Prop := address.first = 169 ∧ address.second = 254

def Ipv4.IsUnspecified (address : Ipv4) : Prop := address = ⟨0, 0, 0, 0⟩

/-- An address that is no address of the public network by its range. -/
def Ipv4.Internal (address : Ipv4) : Prop :=
  address.IsLoopback ∨ address.IsPrivate ∨ address.IsLinkLocal ∨ address.IsUnspecified

instance : DecidablePred Ipv4.Internal := fun address => by
  unfold Ipv4.Internal Ipv4.IsLoopback Ipv4.IsPrivate Ipv4.IsLinkLocal Ipv4.IsUnspecified
  infer_instance

/-- The octet of decimal digits without leading zeros. -/
def octetOf (digits : List Char) : Option ℕ :=
  (List.range 256).find? fun octet => Nat.toDigits 10 octet = digits

/-- The address of four octets with dots. -/
def ipv4Of (text : List Char) : Option Ipv4 :=
  match text.splitOn '.' with
  | [first, second, third, fourth] => do
    return ⟨← octetOf first, ← octetOf second, ← octetOf third, ← octetOf fourth⟩
  | _ => none

/-! ### IPv6 -/

/-- The group of one to four hexadecimal digits. -/
def groupOf (digits : List Char) : Option ℕ :=
  if digits = [] ∨ 4 < digits.length then none else readNumber "0123456789abcdef".toList digits

/-- The groups of pieces of which the last can be octets for two groups. -/
def groupsOf : List (List Char) → Option (List ℕ)
  | [] => some []
  | [last] =>
    match ipv4Of last with
    | some address =>
      some [256 * address.first + address.second, 256 * address.third + address.fourth]
    | none => (groupOf last).map fun group => [group]
  | piece :: pieces => do
    return (← groupOf piece) :: (← groupsOf pieces)

/-- The text before and after the first `::`. -/
def atElision : List Char → Option (List Char × List Char)
  | ':' :: ':' :: after => some ([], after)
  | c :: text => (atElision text).map fun (before, after) => (c :: before, after)
  | [] => none

/-- The pieces of a text between colons. -/
def pieces (text : List Char) : List (List Char) := if text = [] then [] else text.splitOn ':'

/-- The eight groups of an address without a zone. -/
def ipv6Of (text : List Char) : Option (List ℕ) :=
  match atElision text with
  | none => (groupsOf (text.splitOn ':')).filter fun groups => groups.length = 8
  | some (before, after) => do
    let high ← (pieces before).mapM groupOf
    let low ← groupsOf (pieces after)
    if high.length + low.length < 8 then
      return high ++ List.replicate (8 - high.length - low.length) 0 ++ low
    none

/-- The eight groups of an address that a zone can follow. -/
def scopedIpv6Of (text : List Char) : Option (List ℕ) :=
  match text.dropWhile (· ≠ '%') with
  | [] => ipv6Of text
  | _ :: zone =>
    if zone = [] ∨ '%' ∈ zone then none else ipv6Of (text.takeWhile (· ≠ '%'))

/-- `::`, `::1`, `fe80::/10`, `fc00::/7` and the internal IPv4 addresses in `::ffff:0:0/96`. -/
def InternalIpv6 (groups : List ℕ) : Prop :=
  groups = [0, 0, 0, 0, 0, 0, 0, 0] ∨ groups = [0, 0, 0, 0, 0, 0, 0, 1] ∨
    groups.headD 0 / 2 ^ 6 = 0xfe80 / 2 ^ 6 ∨ groups.headD 0 / 2 ^ 9 = 0xfc00 / 2 ^ 9 ∨
    (groups.take 6 = [0, 0, 0, 0, 0, 0xffff] ∧
      Ipv4.Internal ⟨groups.getD 6 0 / 256, groups.getD 6 0 % 256,
        groups.getD 7 0 / 256, groups.getD 7 0 % 256⟩)

instance : DecidablePred InternalIpv6 := fun groups => by
  unfold InternalIpv6
  infer_instance

/-- A host name that spells an internal address. -/
def InternalHost (host : List Char) : Prop :=
  (∃ address, ipv4Of host = some address ∧ address.Internal) ∨
    ∃ groups, scopedIpv6Of host = some groups ∧ InternalIpv6 groups

/-! ### Spellings -/

variable {text digits : List Char} {octet : ℕ} {address : Ipv4} {groups : List ℕ}

theorem octetOf_eq_some (h : octetOf digits = some octet) :
    digits = Nat.toDigits 10 octet := by
  have hdigits := List.find?_some h
  exact (of_decide_eq_true hdigits).symm

/-- An IPv4 address has one spelling. -/
theorem ipv4Of_eq_some (h : ipv4Of text = some address) :
    text = Nat.toDigits 10 address.first ++ '.' :: (Nat.toDigits 10 address.second ++
      '.' :: (Nat.toDigits 10 address.third ++ '.' :: Nat.toDigits 10 address.fourth)) := by
  rw [ipv4Of] at h
  split at h
  · rename_i first second third fourth hsplit
    simp only [Option.bind_eq_bind, Option.bind_eq_some_iff, Option.pure_def,
      Option.some.injEq] at h
    obtain ⟨a, hfirst, b, hsecond, c, hthird, d, hfourth, rfl⟩ := h
    have htext : ['.'].intercalate (text.splitOn '.') = text := List.intercalate_splitOn '.'
    rw [hsplit] at htext
    obtain rfl := octetOf_eq_some hfirst
    obtain rfl := octetOf_eq_some hsecond
    obtain rfl := octetOf_eq_some hthird
    obtain rfl := octetOf_eq_some hfourth
    rw [← htext]
    simp [List.intercalate, List.intersperse]
  · cases h

/-- Two hosts that spell one IPv4 address are the same text. -/
theorem ipv4Of_injective {text' : List Char} (h : ipv4Of text = some address)
    (h' : ipv4Of text' = some address) : text = text' :=
  (ipv4Of_eq_some h).trans (ipv4Of_eq_some h').symm

theorem mem_of_readNumber {symbols : List Char} {n : ℕ} (h : readNumber symbols text = some n)
    {c : Char} (hc : c ∈ text) : c ∈ symbols := by
  rw [readNumber, Option.map_eq_some_iff] at h
  obtain ⟨values, hvalues, -⟩ := h
  clear * - hvalues hc
  induction text generalizing values with
  | nil => exact absurd hc List.not_mem_nil
  | cons d text ih =>
    simp only [List.mapM_cons, Option.bind_eq_bind, Option.bind_eq_some_iff] at hvalues
    obtain ⟨value, hvalue, rest, hrest, -⟩ := hvalues
    rcases List.mem_cons.mp hc with rfl | hc
    · simp only [digitOf] at hvalue
      split at hvalue
      · rename_i hplace
        exact List.idxOf_lt_length_iff.mp hplace
      · cases hvalue
    · exact ih hc rest hrest

theorem dot_notMem_of_groupOf {group : ℕ} (h : groupOf digits = some group) : '.' ∉ digits := by
  rw [groupOf] at h
  split at h
  · cases h
  · intro hmem
    exact absurd (mem_of_readNumber h hmem) (by decide)

/-- A text is its first piece, or goes on with a colon after it. -/
theorem eq_or_eq_append_of_splitOn {piece : List Char} {rest : List (List Char)}
    (h : text.splitOn ':' = piece :: rest) :
    (rest = [] ∧ text = piece) ∨ (rest ≠ [] ∧ ∃ after, text = piece ++ ':' :: after) := by
  have htext : [':'].intercalate (text.splitOn ':') = text := List.intercalate_splitOn ':'
  rw [h] at htext
  cases rest with
  | nil =>
    left
    rw [← htext]
    simp [List.intercalate]
  | cons next rest =>
    right
    refine ⟨List.cons_ne_nil _ _, [':'].intercalate (next :: rest), ?_⟩
    rw [← htext]
    simp [List.intercalate, List.intersperse]

theorem eq_of_atElision {before after : List Char} (h : atElision text = some (before, after)) :
    text = before ++ ':' :: ':' :: after := by
  induction text using atElision.induct generalizing before with
  | case1 rest =>
    simp only [atElision, Option.some.injEq, Prod.mk.injEq] at h
    obtain ⟨rfl, rfl⟩ := h
    rfl
  | case2 c text hne ih =>
    rw [atElision, Option.map_eq_some_iff] at h
    · obtain ⟨⟨before, after⟩, hrest, heq⟩ := h
      obtain ⟨rfl, rfl⟩ := Prod.mk.inj heq
      rw [ih hrest]
      rfl
    · exact hne
  | case3 => cases h

/-- In an IPv6 address a colon stands before every dot. -/
theorem exists_colon_of_ipv6Of (h : ipv6Of text = some groups) :
    ∃ first rest, text = first ++ ':' :: rest ∧ '.' ∉ first := by
  rw [ipv6Of] at h
  cases helision : atElision text with
  | none =>
    rw [helision] at h
    obtain ⟨hgroups, hlength⟩ := Option.filter_eq_some_iff.mp h
    cases hpieces : text.splitOn ':' with
    | nil => exact absurd hpieces (List.splitOn_ne_nil ':' text)
    | cons piece pieces =>
      rw [hpieces] at hgroups
      obtain ⟨rfl, -⟩ | ⟨hne, after, htext⟩ := eq_or_eq_append_of_splitOn hpieces
      · -- one piece has two groups at most
        rw [groupsOf] at hgroups
        split at hgroups
        · cases hgroups
          cases hlength
        · obtain ⟨group, -, rfl⟩ := Option.map_eq_some_iff.mp hgroups
          cases hlength
      · rw [groupsOf] at hgroups
        · simp only [Option.bind_eq_bind, Option.bind_eq_some_iff] at hgroups
          obtain ⟨group, hgroup, -⟩ := hgroups
          exact ⟨piece, after, htext, dot_notMem_of_groupOf hgroup⟩
        · exact hne
  | some halves =>
    obtain ⟨before, after⟩ := halves
    rw [helision] at h
    simp only [Option.bind_eq_bind, Option.bind_eq_some_iff] at h
    obtain ⟨high, hhigh, -⟩ := h
    have htext := eq_of_atElision helision
    rw [pieces] at hhigh
    split at hhigh
    · rename_i hbefore
      subst hbefore
      exact ⟨[], ':' :: after, htext, List.not_mem_nil⟩
    · cases hpieces : before.splitOn ':' with
      | nil => exact absurd hpieces (List.splitOn_ne_nil ':' before)
      | cons piece pieces =>
        rw [hpieces] at hhigh
        simp only [List.mapM_cons, Option.bind_eq_bind, Option.bind_eq_some_iff] at hhigh
        obtain ⟨group, hgroup, -⟩ := hhigh
        have hdot := dot_notMem_of_groupOf hgroup
        obtain ⟨-, rfl⟩ | ⟨-, rest, rfl⟩ := eq_or_eq_append_of_splitOn hpieces
        · exact ⟨before, ':' :: after, htext, hdot⟩
        · exact ⟨piece, rest ++ ':' :: ':' :: after, by rw [htext]; simp, hdot⟩

theorem exists_colon_of_scopedIpv6Of (h : scopedIpv6Of text = some groups) :
    ∃ first rest, text = first ++ ':' :: rest ∧ '.' ∉ first := by
  rw [scopedIpv6Of] at h
  split at h
  · exact exists_colon_of_ipv6Of h
  · split at h
    · cases h
    · obtain ⟨first, rest, hbefore, hdot⟩ := exists_colon_of_ipv6Of h
      refine ⟨first, rest ++ text.dropWhile (· ≠ '%'), ?_, hdot⟩
      have htext := List.takeWhile_append_dropWhile (p := (· ≠ '%')) (l := text)
      rw [hbefore, List.append_assoc, List.cons_append] at htext
      exact htext.symm

/-- A beginning with a dot and without a colon is no beginning of an IPv6 address. -/
theorem not_prefix_of_scopedIpv6Of (h : scopedIpv6Of text = some groups) {start : List Char}
    (hdot : '.' ∈ start) (hcolon : ':' ∉ start) : ¬start <+: text := by
  obtain ⟨first, rest, rfl, hfirst⟩ := exists_colon_of_scopedIpv6Of h
  intro hstart
  have hcut : first ++ [':'] <+: first ++ ':' :: rest := ⟨rest, by simp⟩
  rcases List.prefix_or_prefix_of_prefix hstart hcut with hbefore | hafter
  · have hmem := hbefore.subset hdot
    simp [hfirst] at hmem
  · exact hcolon (hafter.subset (by simp))

end Lib
