import Mathlib.Algebra.BigOperators.Group.List.Basic
import Mathlib.Algebra.Ring.Nat
import OpenKit.Core.InetAddressValidator

/-!
# IP addresses

An address has four decimal numbers with dots between them, or groups of hexadecimal digits with colons
between them, of which the last two may be written as an address of the first kind. Two colons in a row
stand for groups that are left out. The patterns for such an address do not count the groups.

## Main definitions

* `InetAddressValidator.IsIPv4`, `IsIPv6`, `IsAddress`: what an address is
* `HasTooManyGroups`: groups are left out, but none is missing

## Main results

* `isAccepted_iff`: what the patterns accept
* `IsCompressed.count`: the number of groups is determined
-/

namespace OpenKit

open UTF8String RegularExpression

namespace InetAddressValidator

variable {data left right : List UInt8} {m n : ℕ}

/-! ## Addresses -/

/-- Four numbers with dots between them. -/
def IsIPv4 (data : List UInt8) : Prop := ∃ blocks : List (List UInt8),
  blocks.length = 4 ∧ data = [46].intercalate blocks ∧ ∀ g ∈ blocks, IsOctet g

/-- Some groups with colons between them. -/
def IsHexGroups (data : List UInt8) (n : ℕ) : Prop := ∃ groups : List (List UInt8),
  groups.length = n ∧ data = [58].intercalate groups ∧ ∀ g ∈ groups, IsHexGroup g

/-- Some groups, of which the last two may be written as four numbers. -/
def IsGroups (data : List UInt8) (n : ℕ) : Prop :=
  IsHexGroups data n ∨ ∃ (groups : List (List UInt8)) (last : List UInt8), groups.length + 2 = n ∧
    data = [58].intercalate (groups ++ [last]) ∧ (∀ g ∈ groups, IsHexGroup g) ∧ IsIPv4 last

/-- Groups are left out where two colons stand in a row. -/
def IsCompressed (data : List UInt8) (n : ℕ) : Prop :=
  ∃ left right m k, IsHexGroups left m ∧ IsGroups right k ∧ data = left ++ ([58, 58] ++ right) ∧ m + k = n

def IsIPv6 (data : List UInt8) : Prop := IsGroups data 8 ∨ ∃ n ≤ 7, IsCompressed data n

def IsAddress (data : List UInt8) : Prop := IsIPv4 data ∨ IsIPv6 data

/-- Groups are left out, but there are eight or more. -/
def HasTooManyGroups (data : List UInt8) : Prop := ∃ n > 7, IsCompressed data n

/-! ## What the patterns accept -/

/-- The part of a mixed address before its four numbers. -/
def IsMixedFront (front : List UInt8) : Prop :=
  ipv6MixedNonCompressedRegex.rmatch front = true ∨ ipv6MixedCompressedRegex.rmatch front = true

/-- A mixed address, cut behind its last colon. -/
def IsMixed (data : List UInt8) : Prop := ∃ front last, data = front ++ last ∧ IsMixedFront front ∧ IsIPv4 last

/-- What is accepted without a zone index. -/
def IsAccepted (data : List UInt8) : Prop :=
  IsIPv4 data ∨ ipv6StdRegex.rmatch data = true ∨ ipv6HexCompressedRegex.rmatch data = true ∨ IsMixed data

theorem isMixed_iff : IsMixed data ↔
    (∃ groups last, groups.length = 6 ∧ data = [58].intercalate (groups ++ [last]) ∧
      (∀ g ∈ groups, IsHexGroup g) ∧ IsIPv4 last) ∨
    ∃ left groups last, data = [58].intercalate left ++ ([58, 58] ++ [58].intercalate (groups ++ [last])) ∧
      (∀ g ∈ left, IsHexGroup g) ∧ (∀ g ∈ groups, IsHexGroup g) ∧ IsIPv4 last := by
  constructor
  · rintro ⟨front, last, rfl, hfront | hfront, hlast⟩
    · obtain ⟨groups, hlength, rfl, hgroups⟩ := ipv6MixedNonCompressedRegex_iff.mp hfront
      exact .inl ⟨groups, last, hlength, (intercalate_concat _ _ _).symm, hgroups, hlast⟩
    · obtain ⟨left, groups, rfl, hleft, hgroups⟩ := ipv6MixedCompressedRegex_iff.mp hfront
      refine .inr ⟨left, groups, last, ?_, hleft, hgroups, hlast⟩
      rw [intercalate_concat, List.append_assoc, List.append_assoc]
  · rintro (⟨groups, last, hlength, rfl, hgroups, hlast⟩ | ⟨left, groups, last, rfl, hleft, hgroups, hlast⟩)
    · refine ⟨_, last, intercalate_concat _ _ _, .inl ?_, hlast⟩
      exact ipv6MixedNonCompressedRegex_iff.mpr ⟨groups, hlength, rfl, hgroups⟩
    · refine ⟨[58].intercalate left ++ ([58, 58] ++ groups.flatMap fun g => g ++ [58]), last, ?_, .inr ?_,
        hlast⟩
      · rw [intercalate_concat, List.append_assoc, List.append_assoc]
      · exact ipv6MixedCompressedRegex_iff.mpr ⟨left, groups, rfl, hleft, hgroups⟩

/-- **What the patterns accept** are addresses, and compressed ones with any number of groups. -/
theorem isAccepted_iff : IsAccepted data ↔ IsAddress data ∨ HasTooManyGroups data := by
  have hcompressed {n : ℕ} (h : IsCompressed data n) : IsAddress data ∨ HasTooManyGroups data := by
    rcases Nat.lt_or_ge 7 n with hn | hn
    · exact .inr ⟨n, hn, h⟩
    · exact .inl (.inr (.inr ⟨n, hn, h⟩))
  constructor
  · rintro (h | h | h | h)
    · exact .inl (.inl h)
    · exact .inl (.inr (.inl (.inl (ipv6StdRegex_iff.mp h))))
    · obtain ⟨left, right, rfl, hleft, hright⟩ := ipv6HexCompressedRegex_iff.mp h
      exact hcompressed ⟨_, _, _, _, ⟨left, rfl, rfl, hleft⟩, .inl ⟨right, rfl, rfl, hright⟩, rfl, rfl⟩
    · rcases isMixed_iff.mp h with ⟨groups, last, hlength, hdata, hgroups, hlast⟩ |
        ⟨left, groups, last, hdata, hleft, hgroups, hlast⟩
      · exact .inl (.inr (.inl (.inr ⟨groups, last, by rw [hlength], hdata, hgroups, hlast⟩)))
      · exact hcompressed ⟨_, _, _, _, ⟨left, rfl, rfl, hleft⟩,
          .inr ⟨groups, last, rfl, rfl, hgroups, hlast⟩, hdata, rfl⟩
  · have hcompressed' {n : ℕ} (h : IsCompressed data n) : IsAccepted data := by
      obtain ⟨_, _, m, k, ⟨left, -, rfl, hleft⟩, hright, hdata, -⟩ := h
      rcases hright with ⟨right, -, rfl, hright⟩ | ⟨groups, last, -, rfl, hgroups, hlast⟩
      · exact .inr (.inr (.inl (ipv6HexCompressedRegex_iff.mpr ⟨left, right, hdata, hleft, hright⟩)))
      · exact .inr (.inr (.inr (isMixed_iff.mpr (.inr ⟨left, groups, last, hdata, hleft, hgroups, hlast⟩))))
    rintro ((h | (h | ⟨groups, last, hlength, hdata, hgroups, hlast⟩) | ⟨n, -, h⟩) | ⟨n, -, h⟩)
    · exact .inl h
    · exact .inr (.inl (ipv6StdRegex_iff.mpr h))
    · exact .inr (.inr (.inr (isMixed_iff.mpr (.inl ⟨groups, last, Nat.add_right_cancel hlength, hdata,
        hgroups, hlast⟩))))
    · exact hcompressed' h
    · exact hcompressed' h

/-! ## Characters of an address -/

/-- The characters of an address: digits, dots and colons. -/
def addressCharacters : List UInt8 := 46 :: 58 :: hexDigits

theorem mem_addressCharacters_of_digit {b : UInt8} (h : b ∈ digits) : b ∈ hexDigits := by
  have hall : ∀ b ∈ digits, b ∈ hexDigits := List.all_iff_forall_prop.mp rfl
  exact hall b h

theorem forall_mem_intercalate {x : UInt8} {groups : List (List UInt8)} {P : UInt8 → Prop} (hx : P x)
    (h : ∀ g ∈ groups, ∀ b ∈ g, P b) : ∀ b ∈ [x].intercalate groups, P b := by
  cases groups with
  | nil => exact List.forall_mem_nil _
  | cons g groups =>
    obtain ⟨hg, hgroups⟩ := List.forall_mem_cons.mp h
    rw [intercalate_cons]
    refine List.forall_mem_append.mpr ⟨hg, fun b hb => ?_⟩
    obtain ⟨g', hg', hb⟩ := List.mem_flatMap.mp hb
    rcases List.mem_cons.mp hb with rfl | hb
    · exact hx
    · exact hgroups g' hg' b hb

/-- Four numbers are not empty, have up to fifteen characters, and no colon. -/
theorem IsIPv4.spec (h : IsIPv4 data) : data ≠ [] ∧ data.length ≤ 15 ∧ 46 ∈ data ∧ 58 ∉ data ∧
    ∀ b ∈ data, b ∈ addressCharacters := by
  obtain ⟨blocks, hlength, rfl, hblocks⟩ := h
  match blocks, hlength with
  | [a, b, c, d], _ =>
    have ha := hblocks a (by simp)
    have hb := hblocks b (by simp)
    have hc := hblocks c (by simp)
    have hd := hblocks d (by simp)
    have hcolon : ∀ g ∈ [a, b, c, d], ∀ b ∈ g, b ≠ 58 := by
      intro g hg b hb hsame
      have hdigit := (hblocks g hg).2.2.1 b hb
      rw [hsame] at hdigit
      exact absurd hdigit (by decide)
    refine ⟨by simp, ?_, by simp, fun hmem => ?_, ?_⟩
    · simp only [List.intercalate_cons_cons, List.intercalate_singleton, List.length_append,
        List.length_singleton]
      have hblock {g : List UInt8} (hg : IsOctet g) : g.length ≤ 3 := hg.2.1
      have ha := hblock ha
      have hb := hblock hb
      have hc := hblock hc
      have hd := hblock hd
      omega
    · exact forall_mem_intercalate (by decide) hcolon 58 hmem rfl
    · refine forall_mem_intercalate List.mem_cons_self fun g hg b hb => ?_
      exact List.mem_cons_of_mem _ (List.mem_cons_of_mem _
        (mem_addressCharacters_of_digit ((hblocks g hg).2.2.1 b hb)))

theorem IsHexGroup.spec {g : List UInt8} (h : IsHexGroup g) : g ≠ [] ∧ 46 ∉ g ∧ 58 ∉ g := by
  refine ⟨fun hnil => ?_, fun hmem => ?_, fun hmem => ?_⟩
  · rw [hnil] at h
    exact absurd h.1 (by decide)
  · exact absurd (h.2.2 46 hmem) (by decide)
  · exact absurd (h.2.2 58 hmem) (by decide)

theorem mem_addressCharacters_of_hexGroups {groups : List (List UInt8)}
    (h : ∀ g ∈ groups, IsHexGroup g) : ∀ b ∈ [58].intercalate groups, b ∈ addressCharacters :=
  forall_mem_intercalate (by decide) fun g hg b hb =>
    List.mem_cons_of_mem _ (List.mem_cons_of_mem _ ((h g hg).2.2 b hb))

/-- **Accepted strings** have characters of addresses only. -/
theorem IsAccepted.characters (h : IsAccepted data) : ∀ b ∈ data, b ∈ addressCharacters := by
  have hcolons : ∀ b ∈ ([58, 58] : List UInt8), b ∈ addressCharacters :=
    List.all_iff_forall_prop.mp rfl
  have hmixed {groups : List (List UInt8)} {last : List UInt8} (hgroups : ∀ g ∈ groups, IsHexGroup g)
      (hlast : IsIPv4 last) : ∀ b ∈ [58].intercalate (groups ++ [last]), b ∈ addressCharacters := by
    refine forall_mem_intercalate (by decide) (List.forall_mem_append.mpr ⟨fun g hg b hb => ?_, ?_⟩)
    · exact List.mem_cons_of_mem _ (List.mem_cons_of_mem _ ((hgroups g hg).2.2 b hb))
    · exact List.forall_mem_singleton.mpr hlast.spec.2.2.2.2
  rcases h with h | h | h | h
  · exact h.spec.2.2.2.2
  · obtain ⟨groups, -, rfl, hgroups⟩ := ipv6StdRegex_iff.mp h
    exact mem_addressCharacters_of_hexGroups hgroups
  · obtain ⟨left, right, rfl, hleft, hright⟩ := ipv6HexCompressedRegex_iff.mp h
    exact List.forall_mem_append.mpr ⟨mem_addressCharacters_of_hexGroups hleft,
      List.forall_mem_append.mpr ⟨hcolons, mem_addressCharacters_of_hexGroups hright⟩⟩
  · rcases isMixed_iff.mp h with ⟨groups, last, -, rfl, hgroups, hlast⟩ |
      ⟨left, groups, last, rfl, hleft, hgroups, hlast⟩
    · exact hmixed hgroups hlast
    · exact List.forall_mem_append.mpr ⟨mem_addressCharacters_of_hexGroups hleft,
        List.forall_mem_append.mpr ⟨hcolons, hmixed hgroups hlast⟩⟩

/-! ## The number of groups -/

/-- The number of groups that a part between colons counts for. -/
def weight (g : List UInt8) : ℕ := if g = [] then 0 else if 46 ∈ g then 2 else 1

/-- The number of groups in all parts between colons. -/
def groupCount (data : List UInt8) : ℕ := ((data.splitOn 58).map weight).sum

theorem IsHexGroup.weight {g : List UInt8} (h : IsHexGroup g) : weight g = 1 := by
  obtain ⟨hne, hdot, -⟩ := h.spec
  rw [InetAddressValidator.weight, if_neg hne, if_neg hdot]

theorem IsIPv4.weight (h : IsIPv4 data) : weight data = 2 := by
  obtain ⟨hne, -, hdot, -⟩ := h.spec
  rw [InetAddressValidator.weight, if_neg hne, if_pos hdot]

theorem sum_weight_of_hexGroups {groups : List (List UInt8)} (h : ∀ g ∈ groups, IsHexGroup g) :
    (groups.map InetAddressValidator.weight).sum = groups.length := by
  induction groups with
  | nil => rfl
  | cons g groups ih =>
    obtain ⟨hg, hgroups⟩ := List.forall_mem_cons.mp h
    rw [List.map_cons, List.sum_cons, hg.weight, ih hgroups, List.length_cons, Nat.add_comm]

/-- **Groups are counted**, and none of them is empty if there is one. -/
theorem IsGroups.count (h : IsGroups data n) : groupCount data = n ∧ (0 < n → [] ∉ data.splitOn 58) := by
  rcases h with ⟨groups, rfl, rfl, hgroups⟩ | ⟨groups, last, rfl, rfl, hgroups, hlast⟩
  · rcases eq_or_ne groups [] with rfl | hne
    · exact ⟨rfl, fun h => absurd h (lt_irrefl 0)⟩
    · rw [groupCount, List.splitOn_intercalate 58 (fun g hg => (hgroups g hg).spec.2.2) hne]
      exact ⟨sum_weight_of_hexGroups hgroups, fun _ hmem => (hgroups [] hmem).spec.1 rfl⟩
  · have hparts : ∀ g ∈ groups ++ [last], 58 ∉ g := List.forall_mem_append.mpr
      ⟨fun g hg => (hgroups g hg).spec.2.2, List.forall_mem_singleton.mpr hlast.spec.2.2.2.1⟩
    rw [groupCount, List.splitOn_intercalate 58 hparts (List.append_ne_nil_of_right_ne_nil _ (by simp))]
    refine ⟨?_, fun _ hmem => ?_⟩
    · rw [List.map_append, List.sum_append, sum_weight_of_hexGroups hgroups, List.map_singleton,
        List.sum_singleton, hlast.weight]
    · rcases List.mem_append.mp hmem with hmem | hmem
      · exact (hgroups [] hmem).spec.1 rfl
      · exact hlast.spec.1 (List.mem_singleton.mp hmem).symm

/-- **The number of groups** is determined. -/
theorem IsCompressed.count (h : IsCompressed data n) : groupCount data = n ∧ [] ∈ data.splitOn 58 := by
  obtain ⟨left, right, m, k, hleft, hright, rfl, rfl⟩ := h
  have hsplit : (left ++ ([58, 58] ++ right)).splitOn 58 = left.splitOn 58 ++ ([] :: right.splitOn 58) := by
    have hnil := List.splitOn_append_cons_self (a := (58 : UInt8)) [] right
    rw [List.splitOn_nil] at hnil
    have hall := List.splitOn_append_cons_self (a := (58 : UInt8)) left (58 :: right)
    rw [← List.nil_append (58 :: right), hnil] at hall
    exact hall
  refine ⟨?_, by rw [hsplit]; exact List.mem_append_right _ List.mem_cons_self⟩
  rw [groupCount, hsplit, List.map_append, List.sum_append, List.map_cons, List.sum_cons]
  have hl := (IsGroups.count (.inl hleft)).1
  have hr := hright.count.1
  rw [groupCount] at hl hr
  rw [hl, hr]
  exact congrArg (m + ·) (Nat.zero_add k)

/-- **No address has too many groups.** -/
theorem IsAddress.not_hasTooManyGroups (h : IsAddress data) : ¬ HasTooManyGroups data := by
  rintro ⟨n, hn, hcompressed⟩
  obtain ⟨hcount, hnil⟩ := hcompressed.count
  rcases h with h | h | ⟨n', hn', h⟩
  · rw [List.splitOn_eq_singleton h.spec.2.2.2.1, List.mem_singleton] at hnil
    exact h.spec.1 hnil.symm
  · exact h.count.2 (by decide) hnil
  · have hcount' := h.count.1
    omega

end InetAddressValidator

end OpenKit
