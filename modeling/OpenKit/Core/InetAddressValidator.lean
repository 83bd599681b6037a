import OpenKit.Core.BrokenStrings
import OpenKit.Core.Substring
import OpenKit.Library.RegularText

/-!
# The validation of IP addresses

Addresses are checked against patterns: one for IPv4, and for IPv6 those of the standard, of the
compressed and of the mixed notation. A mixed address is cut at its last colon, by the position of the
byte in one place, and by that of the character in the other. Last comes an address with a zone index,
whose percent sign is searched by characters.

## Main definitions

* `InetAddressValidator.isValidIP` and what it consists of: the code

## Main results

* `block_iff`, `hexBlock_iff`: what the blocks of an address are
* `ipv4Regex_iff`, `ipv6StdRegex_iff` and so on: the languages of the patterns
-/

namespace OpenKit

open UTF8String RegularExpression

namespace InetAddressValidator

/-! ## The patterns -/

/-- `\d` -/
def digits : List UInt8 := (UTF8String.ofAscii "0123456789".toList).data

/-- `[0-9A-Fa-f]` -/
def hexDigits : List UInt8 := (UTF8String.ofAscii "0123456789ABCDEFabcdef".toList).data

/-- `25[0-5]|2[0-4]\d|[0-1]?\d?\d` -/
def block : RegularExpression UInt8 :=
  literal [50, 53] * oneOf [48, 49, 50, 51, 52, 53] +
    (literal [50] * (oneOf [48, 49, 50, 51, 52] * oneOf digits) +
      RegularExpression.optional (oneOf [48, 49]) * (RegularExpression.optional (oneOf digits) * oneOf digits))

/-- `[0-9A-Fa-f]{1,4}` -/
def hexBlock : RegularExpression UInt8 := between 1 4 (oneOf hexDigits)

def ipv4Regex : RegularExpression UInt8 := block * (literal [46] * block) ^ 3

def ipv6StdRegex : RegularExpression UInt8 := (hexBlock * literal [58]) ^ 7 * hexBlock

/-- Any number of blocks. -/
def hexBlocks : RegularExpression UInt8 :=
  RegularExpression.optional (hexBlock * (literal [58] * hexBlock).star)

def ipv6HexCompressedRegex : RegularExpression UInt8 := hexBlocks * (literal [58, 58] * hexBlocks)

def ipv6MixedCompressedRegex : RegularExpression UInt8 :=
  hexBlocks * (literal [58, 58] *
    RegularExpression.optional (hexBlock * literal [58] * (hexBlock * literal [58]).star))

def ipv6MixedNonCompressedRegex : RegularExpression UInt8 := (hexBlock * literal [58]) ^ 6

/-! ## The checks -/

/-- `find_last_of`: the position of the last byte of a kind. -/
def findLastOf (byte : UInt8) : List UInt8 → Option ℕ
  | [] => none
  | b :: data =>
    match findLastOf byte data with
    | some i => some (i + 1)
    | none => if b = byte then some 0 else none

def isIPv4Address (ipAddress : UTF8String) : Bool := ipv4Regex.rmatch ipAddress.getStringData

def isIPv6StdAddress (ipAddress : UTF8String) : Bool := ipv6StdRegex.rmatch ipAddress.getStringData

def isIPv6HexCompressedAddress (ipAddress : UTF8String) : Bool :=
  ipv6HexCompressedRegex.rmatch ipAddress.getStringData

def isIPv6MixedAddress (ipAddress : UTF8String) : Except WalkFault Bool :=
  match findLastOf 58 ipAddress.getStringData with
  | none => .ok false
  | some splitIndex => do
    let ipv4Part ← substringFrom ipAddress (splitIndex + 1)
    let ipv4PartIsValid := isIPv4Address ipv4Part
    let ipV6Part := ipAddress.substring 0 (splitIndex + 1)
    if ipV6Part.getStringData = [58, 58] then return ipv4PartIsValid
    else
      return ipv4PartIsValid && (ipv6MixedNonCompressedRegex.rmatch ipV6Part.getStringData ||
        ipv6MixedCompressedRegex.rmatch ipV6Part.getStringData)

def isLinkLocalIPv6WithZoneIndex (ipAddress : UTF8String) : Except WalkFault Bool := do
  let positionOfZoneIndex ← (ipAddress.getIndexOf [37] 5).mapError fun _ => WalkFault.readPastEnd
  match positionOfZoneIndex with
  | none => return false
  | some positionOfZoneIndex =>
    if ipAddress.getStringLength > 5 ∧ positionOfZoneIndex < ipAddress.getStringLength - 1 then
      let ipPart := ipAddress.substring 0 positionOfZoneIndex
      return isIPv6StdAddress ipPart || isIPv6HexCompressedAddress ipPart
    else return false

def isIPv6Address (ipAddress : UTF8String) : Except WalkFault Bool :=
  if isIPv6StdAddress ipAddress then return true
  else if isIPv6HexCompressedAddress ipAddress then return true
  else do
    if ← isIPv6MixedAddress ipAddress then return true else isLinkLocalIPv6WithZoneIndex ipAddress

def isValidIP (ipAddress : UTF8String) : Except WalkFault Bool :=
  if isIPv4Address ipAddress then return true else isIPv6Address ipAddress

/-! ## What the blocks are -/

variable {w data : List UInt8} {b : UInt8}

/-- The number that some digits stand for. -/
def decimalValue (g : List UInt8) : ℕ := g.foldl (fun n b => 10 * n + (b.toNat - 48)) 0

/-- **A part of an IPv4 address**: a number of one to three digits, up to 255. -/
def IsOctet (g : List UInt8) : Prop :=
  1 ≤ g.length ∧ g.length ≤ 3 ∧ (∀ b ∈ g, b ∈ digits) ∧ decimalValue g ≤ 255

/-- **A group of an IPv6 address**: one to four hexadecimal digits. -/
def IsHexGroup (g : List UInt8) : Prop := 1 ≤ g.length ∧ g.length ≤ 4 ∧ ∀ b ∈ g, b ∈ hexDigits

theorem hexBlock_iff : w ∈ hexBlock.matches' ↔ IsHexGroup w := mem_between_oneOf (by decide)

theorem mem_digits : b ∈ digits ↔ 48 ≤ b.toNat ∧ b.toNat ≤ 57 := by
  have hdigits : digits = [48, 49, 50, 51, 52, 53, 54, 55, 56, 57] := rfl
  simp only [hdigits, List.mem_cons, List.not_mem_nil, or_false, ← UInt8.toNat_inj, UInt8.reduceToNat]
  omega

/-- The digits that a class of the pattern has, as bounds. -/
theorem mem_leading_digits :
    (b ∈ ([48, 49, 50, 51, 52, 53] : List UInt8) ↔ 48 ≤ b.toNat ∧ b.toNat ≤ 53) ∧
      (b ∈ ([48, 49, 50, 51, 52] : List UInt8) ↔ 48 ≤ b.toNat ∧ b.toNat ≤ 52) ∧
        (b ∈ ([48, 49] : List UInt8) ↔ 48 ≤ b.toNat ∧ b.toNat ≤ 49) := by
  simp only [List.mem_cons, List.not_mem_nil, or_false, ← UInt8.toNat_inj, UInt8.reduceToNat]
  omega

/-- A first digit that may be left out. -/
theorem decimalValue_of_mem_optional_first (h : w ∈ (RegularExpression.optional (oneOf [48, 49])).matches') :
    w.length ≤ 1 ∧ (∀ b ∈ w, b ∈ digits) ∧ decimalValue w ≤ 1 := by
  rcases mem_optional.mp h with rfl | h
  · exact ⟨Nat.zero_le 1, List.forall_mem_nil _, Nat.zero_le 1⟩
  · obtain ⟨a, ha, rfl⟩ := mem_oneOf.mp h
    rw [mem_leading_digits.2.2] at ha
    refine ⟨le_refl 1, List.forall_mem_singleton.mpr (mem_digits.mpr ⟨ha.1, by omega⟩), ?_⟩
    simp only [decimalValue, List.foldl_cons, List.foldl_nil]
    omega

/-- The last two digits, the first of which may be left out, behind a number. -/
theorem decimalValue_append_of_mem {v : List UInt8} (hvalue : decimalValue w ≤ 1)
    (h : v ∈ (RegularExpression.optional (oneOf digits) * oneOf digits).matches') :
    1 ≤ v.length ∧ v.length ≤ 2 ∧ (∀ b ∈ v, b ∈ digits) ∧ decimalValue (w ++ v) ≤ 199 := by
  obtain ⟨u, hu, last, hlast, rfl⟩ := mem_mul.mp h
  obtain ⟨c, hc, rfl⟩ := mem_oneOf.mp hlast
  have hc' := mem_digits.mp hc
  simp only [decimalValue, List.foldl_append, List.foldl_cons, List.foldl_nil] at hvalue ⊢
  rcases mem_optional.mp hu with rfl | hu
  · refine ⟨le_refl 1, Nat.le_succ 1, List.forall_mem_singleton.mpr hc, ?_⟩
    rw [List.foldl_nil]
    omega
  · obtain ⟨b, hb, rfl⟩ := mem_oneOf.mp hu
    have hb' := mem_digits.mp hb
    refine ⟨Nat.le_succ 1, le_refl 2,
      List.forall_mem_cons.mpr ⟨hb, List.forall_mem_singleton.mpr hc⟩, ?_⟩
    rw [List.foldl_cons, List.foldl_nil]
    omega

theorem isOctet_of_mem_block (h : w ∈ block.matches') : IsOctet w := by
  rw [block, mem_add, mem_add] at h
  rcases h with h | h | h
  · obtain ⟨v, hv, rfl⟩ := mem_literal_mul.mp h
    obtain ⟨c, hc, rfl⟩ := mem_oneOf.mp hv
    rw [mem_leading_digits.1] at hc
    refine ⟨by simp, by simp, ?_, ?_⟩
    · simp [mem_digits]
      omega
    · simp [decimalValue]
      omega
  · obtain ⟨v, hv, rfl⟩ := mem_literal_mul.mp h
    obtain ⟨t, ht, u, hu, rfl⟩ := mem_mul.mp hv
    obtain ⟨b, hb, rfl⟩ := mem_oneOf.mp ht
    obtain ⟨c, hc, rfl⟩ := mem_oneOf.mp hu
    rw [mem_leading_digits.2.1] at hb
    rw [mem_digits] at hc
    refine ⟨by simp, by simp, ?_, ?_⟩
    · simp [mem_digits]
      omega
    · simp [decimalValue]
      omega
  · obtain ⟨t, ht, v, hv, rfl⟩ := mem_mul.mp h
    obtain ⟨htlength, htdigits, htvalue⟩ := decimalValue_of_mem_optional_first ht
    obtain ⟨hmin, hmax, hvdigits, hvalue⟩ := decimalValue_append_of_mem htvalue hv
    refine ⟨?_, ?_, List.forall_mem_append.mpr ⟨htdigits, hvdigits⟩, by omega⟩
    · rw [List.length_append]
      omega
    · rw [List.length_append]
      omega

/-- A number is found by its first digit, and one from 200 on by its second one too. -/
theorem mem_block_of_isOctet (h : IsOctet w) : w ∈ block.matches' := by
  have hone {c : UInt8} (hc : c ∈ digits) : [c] ∈ (oneOf digits).matches' := mem_oneOf.mpr ⟨c, hc, rfl⟩
  have hlast {c : UInt8} (hc : c ∈ digits) :
      [c] ∈ (RegularExpression.optional (oneOf digits) * oneOf digits).matches' :=
    mem_mul.mpr ⟨[], mem_optional.mpr (.inl rfl), [c], hone hc, rfl⟩
  have htwo {b c : UInt8} (hb : b ∈ digits) (hc : c ∈ digits) :
      [b, c] ∈ (RegularExpression.optional (oneOf digits) * oneOf digits).matches' :=
    mem_mul.mpr ⟨[b], mem_optional.mpr (.inr (hone hb)), [c], hone hc, rfl⟩
  obtain ⟨hmin, hmax, hall, hvalue⟩ := h
  rw [block, mem_add, mem_add]
  rcases w with _ | ⟨a, _ | ⟨b, _ | ⟨c, _ | ⟨d, w⟩⟩⟩⟩
  · cases hmin
  · exact .inr (.inr (mem_mul.mpr ⟨[], mem_optional.mpr (.inl rfl), [a], hlast (hall a (by simp)), rfl⟩))
  · exact .inr (.inr (mem_mul.mpr ⟨[], mem_optional.mpr (.inl rfl), [a, b],
      htwo (hall a (by simp)) (hall b (by simp)), rfl⟩))
  · have ha := mem_digits.mp (hall a (by simp))
    have hb := mem_digits.mp (hall b (by simp))
    have hc := mem_digits.mp (hall c (by simp))
    simp only [decimalValue, List.foldl_cons, List.foldl_nil] at hvalue
    by_cases hsmall : a.toNat ≤ 49
    · exact .inr (.inr (mem_mul.mpr ⟨[a], mem_optional.mpr (.inr (mem_oneOf.mpr
        ⟨a, mem_leading_digits.2.2.mpr ⟨ha.1, hsmall⟩, rfl⟩)), [b, c],
          htwo (hall b (by simp)) (hall c (by simp)), rfl⟩))
    · have htwice : a.toNat = 50 := by omega
      obtain rfl : a = 50 := UInt8.toNat_inj.mp htwice
      by_cases hfour : b.toNat ≤ 52
      · exact .inr (.inl (mem_literal_mul.mpr ⟨[b, c], mem_mul.mpr ⟨[b], mem_oneOf.mpr
          ⟨b, mem_leading_digits.2.1.mpr ⟨hb.1, hfour⟩, rfl⟩, [c], hone (hall c (by simp)), rfl⟩, rfl⟩))
      · have hfive : b.toNat = 53 := by omega
        obtain rfl : b = 53 := UInt8.toNat_inj.mp hfive
        refine .inl (mem_literal_mul.mpr ⟨[c], mem_oneOf.mpr
          ⟨c, mem_leading_digits.1.mpr ⟨hc.1, ?_⟩, rfl⟩, rfl⟩)
        rw [htwice, hfive] at hvalue
        omega
  · exact absurd hmax (by simp)

/-- **The blocks of an IPv4 address** are the numbers up to 255. -/
theorem block_iff : w ∈ block.matches' ↔ IsOctet w := ⟨isOctet_of_mem_block, mem_block_of_isOctet⟩

/-! ## The languages of the patterns -/

theorem ipv4Regex_iff : ipv4Regex.rmatch data = true ↔ ∃ blocks : List (List UInt8),
    blocks.length = 4 ∧ data = [46].intercalate blocks ∧ ∀ g ∈ blocks, IsOctet g := by
  rw [rmatch_iff_matches', ipv4Regex, mem_separated_pow]
  simp only [block_iff]

theorem ipv6StdRegex_iff : ipv6StdRegex.rmatch data = true ↔ ∃ groups : List (List UInt8),
    groups.length = 8 ∧ data = [58].intercalate groups ∧ ∀ g ∈ groups, IsHexGroup g := by
  rw [rmatch_iff_matches', ipv6StdRegex, mem_pow_separated]
  simp only [hexBlock_iff]

theorem hexBlocks_iff : w ∈ hexBlocks.matches' ↔ ∃ groups : List (List UInt8),
    w = [58].intercalate groups ∧ ∀ g ∈ groups, IsHexGroup g := by
  rw [hexBlocks, mem_separated]
  simp only [hexBlock_iff]

theorem ipv6HexCompressedRegex_iff : ipv6HexCompressedRegex.rmatch data = true ↔
    ∃ left right : List (List UInt8),
      data = [58].intercalate left ++ ([58, 58] ++ [58].intercalate right) ∧
        (∀ g ∈ left, IsHexGroup g) ∧ ∀ g ∈ right, IsHexGroup g := by
  rw [rmatch_iff_matches', ipv6HexCompressedRegex, mem_mul]
  constructor
  · rintro ⟨u, hu, v, hv, rfl⟩
    obtain ⟨left, rfl, hleft⟩ := hexBlocks_iff.mp hu
    obtain ⟨behind, hbehind, rfl⟩ := mem_literal_mul.mp hv
    obtain ⟨right, rfl, hright⟩ := hexBlocks_iff.mp hbehind
    exact ⟨left, right, rfl, hleft, hright⟩
  · rintro ⟨left, right, rfl, hleft, hright⟩
    exact ⟨_, hexBlocks_iff.mpr ⟨left, rfl, hleft⟩, _, mem_literal_mul.mpr
      ⟨_, hexBlocks_iff.mpr ⟨right, rfl, hright⟩, rfl⟩, rfl⟩

theorem ipv6MixedNonCompressedRegex_iff : ipv6MixedNonCompressedRegex.rmatch data = true ↔
    ∃ groups : List (List UInt8), groups.length = 6 ∧
      (data = groups.flatMap fun g => g ++ [58]) ∧ ∀ g ∈ groups, IsHexGroup g := by
  rw [rmatch_iff_matches', ipv6MixedNonCompressedRegex, mem_pow_terminated]
  simp only [hexBlock_iff]

theorem ipv6MixedCompressedRegex_iff : ipv6MixedCompressedRegex.rmatch data = true ↔
    ∃ left right : List (List UInt8),
      data = [58].intercalate left ++ ([58, 58] ++ right.flatMap fun g => g ++ [58]) ∧
        (∀ g ∈ left, IsHexGroup g) ∧ ∀ g ∈ right, IsHexGroup g := by
  rw [rmatch_iff_matches', ipv6MixedCompressedRegex, mem_mul]
  constructor
  · rintro ⟨u, hu, v, hv, rfl⟩
    obtain ⟨left, rfl, hleft⟩ := hexBlocks_iff.mp hu
    obtain ⟨behind, hbehind, rfl⟩ := mem_literal_mul.mp hv
    obtain ⟨right, rfl, hright⟩ := mem_terminated.mp hbehind
    exact ⟨left, right, rfl, hleft, fun g hg => hexBlock_iff.mp (hright g hg)⟩
  · rintro ⟨left, right, rfl, hleft, hright⟩
    exact ⟨_, hexBlocks_iff.mpr ⟨left, rfl, hleft⟩, _, mem_literal_mul.mpr
      ⟨_, mem_terminated.mpr ⟨right, rfl, fun g hg => hexBlock_iff.mpr (hright g hg)⟩, rfl⟩, rfl⟩

end InetAddressValidator

end OpenKit
