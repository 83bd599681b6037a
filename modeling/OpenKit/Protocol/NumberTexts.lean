import Mathlib.Data.UInt
import OpenKit.Protocol.EventData

/-!
# The text of a number

A number is written in decimal, with ASCII characters. None of them is a separator, and none is escaped
in the value of a pair.

## Main definitions

* `EventData.readNumber`: the number that a text stands for

## Main results

* `EventData.readNumber_toInvariantString`: a number is read as it was written
* `EventData.data_urlencode_toInvariantString`: the text of a number is its own encoded value
-/

namespace OpenKit

namespace UTF8String

theorem consistent_ofAscii (cs : List Char) : (ofAscii cs).Consistent := by
  intro hlength
  rw [ofAscii, List.length_eq_zero_iff.mp hlength]
  rfl

/-- The byte of an ASCII character is its code. -/
theorem toNat_toUInt8 {c : Char} (hc : c.toNat < 128) : c.toNat.toUInt8.toNat = c.toNat :=
  Nat.mod_eq_of_lt (hc.trans (by decide))

end UTF8String

namespace EventData

/-- A number is written with digits, and with a sign if it is negative. -/
theorem eq_or_isDigit_of_mem_toString {value : ℤ} {c : Char} (h : c ∈ (toString value).toList) :
    c = '-' ∨ c.isDigit = true := by
  have hdigit {n : ℕ} (hn : c ∈ n.repr.toList) : c.isDigit = true := by
    rw [Nat.toList_repr] at hn
    exact Nat.isDigit_of_mem_toDigits (by decide) (by decide) hn
  rw [Int.toString_eq_repr, Int.repr_eq_if] at h
  split at h
  · exact .inr (hdigit h)
  · rw [String.toList_append, List.mem_append] at h
    rcases h with hsign | hn
    · exact .inl (List.mem_singleton.mp hsign)
    · exact .inr (hdigit hn)

/-- The characters of a number lie between the minus sign and the last digit. -/
theorem toNat_of_mem_toString {value : ℤ} {c : Char} (h : c ∈ (toString value).toList) :
    45 ≤ c.toNat ∧ c.toNat ≤ 57 := by
  rcases eq_or_isDigit_of_mem_toString h with rfl | hdigit
  · decide
  · obtain ⟨hzero, hnine⟩ := Char.isDigit_iff_toNat.mp hdigit
    exact ⟨le_trans (by decide) hzero, hnine⟩

theorem isAscii_of_mem_toString {value : ℤ} {c : Char} (h : c ∈ (toString value).toList) :
    c.toNat < 128 :=
  (toNat_of_mem_toString h).2.trans_lt (by decide)

/-- There is no underscore in a number. -/
theorem underscore_notMem_toInvariantString (value : ℤ) :
    95 ∉ (toInvariantString value).data := by
  intro hmem
  obtain ⟨c, hc, hbyte⟩ := List.mem_map.mp hmem
  have hcode : c.toNat = 95 := by
    rw [← UTF8String.toNat_toUInt8 (isAscii_of_mem_toString hc), hbyte]
    rfl
  have hle := (toNat_of_mem_toString hc).2
  omega

/-- **A number is not escaped** in the value of a pair. -/
theorem data_urlencode_toInvariantString (value : ℤ) :
    (urlencode (toInvariantString value) [95]).data = (toInvariantString value).data := by
  have hdigits : ∀ n < 58, 48 ≤ n → n.toUInt8 ∈ unreservedCharactersRFC3986 ∧
      n.toUInt8 ∉ ([95] : List UInt8) := by decide
  have hkept (byte : UInt8) (hbyte : byte ∈ (toInvariantString value).data) :
      urlencodeByte [95] byte = [byte] := by
    obtain ⟨c, hc, rfl⟩ := List.mem_map.mp hbyte
    refine if_pos ?_
    rcases eq_or_isDigit_of_mem_toString hc with rfl | hdigit
    · decide
    · obtain ⟨hzero, hnine⟩ := Char.isDigit_iff_toNat.mp hdigit
      exact hdigits _ (Nat.lt_succ_of_le hnine) hzero
  exact (List.flatMap_congr hkept).trans (List.flatMap_singleton' _)

/-! ## Reading -/

/-- The characters of a text of ASCII characters. -/
def charsOf (data : List UInt8) : List Char := data.map fun byte => Char.ofNat byte.toNat

theorem charsOf_ofAscii {cs : List Char} (hcs : ∀ c ∈ cs, c.toNat < 128) :
    charsOf (UTF8String.ofAscii cs).data = cs := by
  rw [charsOf, UTF8String.ofAscii, List.map_map]
  refine (List.map_congr_left fun c hc => ?_).trans (List.map_id cs)
  show Char.ofNat c.toNat.toUInt8.toNat = c
  rw [UTF8String.toNat_toUInt8 (hcs c hc), Char.ofNat_toNat]

/-- The number that a decimal text stands for. -/
def readNumber (data : List UInt8) : ℤ :=
  match charsOf data with
  | '-' :: digits => -(Nat.ofDigitChars 10 digits 0 : ℤ)
  | digits => Nat.ofDigitChars 10 digits 0

/-- **A number** is read as it was written. -/
theorem readNumber_toInvariantString (value : ℤ) :
    readNumber (toInvariantString value).data = value := by
  rw [readNumber, toInvariantString, charsOf_ofAscii fun _ => isAscii_of_mem_toString,
    Int.toString_eq_repr, Int.repr_eq_if]
  by_cases hsign : 0 ≤ value
  · rw [if_pos hsign, Nat.toList_repr]
    split
    next digits hdigits =>
      -- there is no sign among the digits
      have hmem : '-' ∈ Nat.toDigits 10 value.toNat := hdigits ▸ List.mem_cons_self
      exact absurd (Nat.isDigit_of_mem_toDigits (by decide) (by decide) hmem) (by decide)
    next =>
      rw [Nat.ofDigitChars_ten_toDigits]
      exact Int.toNat_of_nonneg hsign
  · rw [if_neg hsign, String.toList_append, Nat.toList_repr]
    show -(Nat.ofDigitChars 10 (Nat.toDigits 10 _) 0 : ℤ) = value
    rw [Nat.ofDigitChars_ten_toDigits]
    omega

/-- **The text of a number** determines it. -/
theorem toInvariantString_injective {value value' : ℤ}
    (h : (toInvariantString value).data = (toInvariantString value').data) : value = value' := by
  rw [← readNumber_toInvariantString value, h, readNumber_toInvariantString]

end EventData

end OpenKit
