import Mathlib.Algebra.Order.Group.Int
import Mathlib.Tactic.Common

/-!
# Strings and machine integers

`UTF8String` keeps its bytes next to the number of characters in them; the two are updated
separately, and `concatenate` looks at the number of characters only. The machine integers of
the code are integers here, with the conversions written out where the code converts.

## Main definitions

* `UTF8String`: bytes and a character count; `UTF8String.concatenate`
* `UTF8String.substring`: a slice by characters; `UTF8String.HasPrefix`
* `UTF8String.Consistent`: no characters only without bytes, as every constructor leaves it
* `toInt32`, `toSizeT`: the conversions to `int32_t` and to a 64-bit `size_t`

## Main results

* `UTF8String.concatenate_data`: on a consistent argument, concatenation appends the bytes
-/

namespace OpenKit

/-- Conversion to `int32_t`: the value modulo `2 ^ 32`, from `-2 ^ 31` on. -/
def toInt32 (n : ℤ) : ℤ := (n + 2147483648) % 4294967296 - 2147483648

/-- Conversion to a 64-bit `size_t`: the value modulo `2 ^ 64`. -/
def toSizeT (n : ℤ) : ℕ := (n % 18446744073709551616).toNat

theorem toInt32_of_mem {n : ℤ} (h : -2 ^ 31 ≤ n) (h' : n < 2 ^ 31) : toInt32 n = n := by
  unfold toInt32
  omega

/-- An `int32_t` that is counted on. -/
theorem toInt32_toInt32_add_one (n : ℤ) : toInt32 (toInt32 n + 1) = toInt32 (n + 1) := by
  unfold toInt32
  omega

/-- A string of the library: its bytes, and the number of characters counted in them. -/
structure UTF8String where
  data : List UInt8
  stringLength : ℕ
deriving DecidableEq, Repr

namespace UTF8String

/-- The default-constructed string. -/
def nil : UTF8String := ⟨[], 0⟩

/-- The string of some ASCII characters. -/
def ofAscii (cs : List Char) : UTF8String := ⟨cs.map fun c => c.toNat.toUInt8, cs.length⟩

def getStringLength (s : UTF8String) : ℕ := s.stringLength

def getStringData (s : UTF8String) : List UInt8 := s.data

/-- `empty()`: the character count is zero. -/
def isEmpty (s : UTF8String) : Bool := s.stringLength == 0

/-- Appends `t`, unless `t` counts no character. -/
def concatenate (s t : UTF8String) : UTF8String :=
  if t.getStringLength > 0 then ⟨s.data ++ t.data, s.stringLength + t.stringLength⟩ else s

/-- The number of bytes of the character that starts with the given byte, and zero for a byte that
starts none. -/
def getByteWidthOfCharacter (character : UInt8) : ℕ :=
  if character &&& 0x80 == 0 then 1
  else if character &&& 0xE0 == 0xC0 then 2
  else if character &&& 0xF0 == 0xE0 then 3
  else if character &&& 0xF8 == 0xF0 then 4
  else 0

/-- The loop of `substring`: the offsets of the first byte and of the last one, and the number of
characters. Every round is for one character. The offset of the last byte is below zero if the first
byte has no width; the code has the largest number then, which is no offset, either. -/
def substringOffsets (data : List UInt8) (start length : ℕ) :
    ℕ → ℕ → ℕ → ℤ → ℕ → ℕ → ℕ × ℤ × ℕ
  | 0, _, byteOffsetStart, byteOffsetEnd, _, characterCounter =>
    (byteOffsetStart, byteOffsetEnd, characterCounter)
  | rounds + 1, byteIndex, byteOffsetStart, byteOffsetEnd, characterIndex, characterCounter =>
    if byteIndex < data.length ∧ characterCounter < length then
      let numberOfBytes := getByteWidthOfCharacter (data.getD byteIndex 0)
      substringOffsets data start length rounds (byteIndex + numberOfBytes)
        (if characterIndex = start then byteIndex else byteOffsetStart)
        (byteIndex + numberOfBytes - 1) (characterIndex + 1)
        (if start ≤ characterIndex then characterCounter + 1 else characterCounter)
    else (byteOffsetStart, byteOffsetEnd, characterCounter)

/-- The characters from `start` on, `length` of them at most. -/
def substring (s : UTF8String) (start length : ℕ) : UTF8String :=
  if length = 0 ∨ s.data.length < start then nil
  else
    let (byteOffsetStart, byteOffsetEnd, characterCounter) :=
      substringOffsets s.data start length (start + length) 0 0 0 0 0
    if byteOffsetStart ≤ byteOffsetEnd ∧ byteOffsetEnd < s.data.length then
      ⟨(s.data.take (byteOffsetEnd.toNat + 1)).drop byteOffsetStart, characterCounter⟩
    else nil

/-- A string that counts no character has no byte. -/
def Consistent (s : UTF8String) : Prop := s.stringLength = 0 → s.data = []

instance (s : UTF8String) : Decidable s.Consistent :=
  inferInstanceAs (Decidable (s.stringLength = 0 → s.data = []))

@[simp] theorem getStringLength_concatenate (s t : UTF8String) :
    (s.concatenate t).getStringLength = s.getStringLength + t.getStringLength := by
  unfold concatenate getStringLength
  split
  · rfl
  · omega

@[simp] theorem concatenate_stringLength (s t : UTF8String) :
    (s.concatenate t).stringLength = s.stringLength + t.stringLength :=
  getStringLength_concatenate s t

theorem concatenate_data {t : UTF8String} (ht : t.Consistent) (s : UTF8String) :
    (s.concatenate t).data = s.data ++ t.data := by
  unfold concatenate getStringLength
  split
  · rfl
  · rw [ht (by omega), List.append_nil]

theorem Consistent.concatenate {s t : UTF8String} (hs : s.Consistent) (ht : t.Consistent) :
    (s.concatenate t).Consistent := by
  intro h
  rw [concatenate_stringLength] at h
  rw [concatenate_data ht, hs (by omega), ht (by omega), List.append_nil]

/-- `s` starts with the string `p`. -/
def HasPrefix (p s : UTF8String) : Prop := p.data <+: s.data ∧ p.stringLength ≤ s.stringLength

theorem HasPrefix.refl (s : UTF8String) : s.HasPrefix s := ⟨List.prefix_rfl, le_refl _⟩

/-- Appending leaves a prefix. -/
theorem HasPrefix.concatenate {p s : UTF8String} (h : p.HasPrefix s) (t : UTF8String) :
    p.HasPrefix (s.concatenate t) := by
  rw [UTF8String.concatenate]
  split
  · exact ⟨h.1.trans (List.prefix_append _ _), h.2.trans (Nat.le_add_right _ _)⟩
  · exact h

theorem isEmpty_eq_false_iff {s : UTF8String} : s.isEmpty = false ↔ 0 < s.stringLength := by
  unfold isEmpty
  rw [beq_eq_false_iff_ne]
  omega

end UTF8String

end OpenKit
