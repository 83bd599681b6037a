import Mathlib.Data.Bool.AllAny
import Mathlib.Data.List.Flatten
import OpenKit.Core.UTF8String

/-!
# Characters of several bytes

The first byte of a character tells how many bytes it has, and all others continue it. A string that is
made of characters counts them, and its bytes are theirs.

## Main definitions

* `Utf8Character`: a lead byte with the bytes that continue it
* `UTF8String.ofCharacters`: the string that is made of some characters

## Main results

* `UTF8String.getByteWidth_le_four`, `getByteWidth_of_continuation`: what the bytes can be
* `UTF8String.drop_bytesOf`: the bytes from a character on
-/

namespace OpenKit

namespace UTF8String

/-- A byte that continues a character. -/
def isPartOfPreviousUtf8Multibyte (character : UInt8) : Bool := character &&& 0xC0 == 0x80

/-- A fact about all bytes. -/
theorem forall_byte {P : UInt8 → Prop} (h : ∀ n < 256, P (UInt8.ofNat n)) (b : UInt8) : P b := by
  have hb := h b.toNat b.toNat_lt
  rwa [UInt8.ofNat_toNat] at hb

theorem getByteWidth_le_four (b : UInt8) : getByteWidthOfCharacter b ≤ 4 := by
  unfold getByteWidthOfCharacter
  repeat' split
  all_goals decide

/-- No character starts with a byte that continues one. -/
theorem getByteWidth_of_continuation {b : UInt8} (h : isPartOfPreviousUtf8Multibyte b = true) :
    getByteWidthOfCharacter b = 0 := by
  have hall : ∀ b : UInt8, isPartOfPreviousUtf8Multibyte b = true → getByteWidthOfCharacter b = 0 :=
    forall_byte (by decide +kernel)
  exact hall b h

end UTF8String

/-- A complete character: its first byte is not the end of a string, and tells how many there are. -/
structure Utf8Character where
  lead : UInt8
  rest : List UInt8
  lead_ne_zero : lead ≠ 0
  width_lead : UTF8String.getByteWidthOfCharacter lead = rest.length + 1
  continues : ∀ b ∈ rest, UTF8String.isPartOfPreviousUtf8Multibyte b = true
deriving DecidableEq

namespace Utf8Character

def bytes (c : Utf8Character) : List UInt8 := c.lead :: c.rest

theorem length_bytes (c : Utf8Character) :
    c.bytes.length = UTF8String.getByteWidthOfCharacter c.lead := by
  rw [c.width_lead]
  rfl

theorem length_pos (c : Utf8Character) : 0 < c.bytes.length := Nat.succ_pos _

/-- Characters are determined by their bytes. -/
theorem bytes_injective : Function.Injective bytes := by
  rintro ⟨lead, rest, _, _, _⟩ ⟨lead', rest', _, _, _⟩ h
  obtain ⟨rfl, rfl⟩ := List.cons.inj h
  rfl

/-- An ASCII character. -/
def ofAscii (b : UInt8) (hzero : b ≠ 0) (hwidth : UTF8String.getByteWidthOfCharacter b = 1) :
    Utf8Character :=
  ⟨b, [], hzero, hwidth, List.forall_mem_nil _⟩

end Utf8Character

namespace UTF8String

/-- The string that is made of some characters. -/
def ofCharacters (cs : List Utf8Character) : UTF8String :=
  ⟨cs.flatMap Utf8Character.bytes, cs.length⟩

/-- The bytes of some characters. -/
abbrev bytesOf (cs : List Utf8Character) : List UInt8 := cs.flatMap Utf8Character.bytes

variable {cs : List Utf8Character}

@[simp] theorem data_ofCharacters : (ofCharacters cs).data = bytesOf cs := rfl

@[simp] theorem getStringLength_ofCharacters : (ofCharacters cs).getStringLength = cs.length := rfl

theorem bytesOf_append (cs ds : List Utf8Character) : bytesOf (cs ++ ds) = bytesOf cs ++ bytesOf ds :=
  List.flatMap_append

/-- Every character has a byte. -/
theorem length_le_length_bytesOf (cs : List Utf8Character) : cs.length ≤ (bytesOf cs).length := by
  induction cs with
  | nil => exact le_refl 0
  | cons c cs ih =>
    have hpos := c.length_pos
    show cs.length + 1 ≤ (c.bytes ++ bytesOf cs).length
    rw [List.length_append]
    omega

theorem bytesOf_eq_nil_iff : bytesOf cs = [] ↔ cs = [] := by
  constructor
  · intro h
    have hle := length_le_length_bytesOf cs
    rw [h] at hle
    exact List.length_eq_zero_iff.mp (Nat.le_zero.mp hle)
  · rintro rfl
    rfl

/-- **The bytes from a character on** are those of the characters from it on. -/
theorem drop_bytesOf (cs : List Utf8Character) (k : ℕ) :
    (bytesOf cs).drop (bytesOf (cs.take k)).length = bytesOf (cs.drop k) := by
  have hsplit : bytesOf cs = bytesOf (cs.take k) ++ bytesOf (cs.drop k) := by
    rw [← bytesOf_append, List.take_append_drop]
  rw [hsplit, List.drop_left]

theorem take_bytesOf (cs : List Utf8Character) (k : ℕ) :
    (bytesOf cs).take (bytesOf (cs.take k)).length = bytesOf (cs.take k) := by
  have hsplit : bytesOf cs = bytesOf (cs.take k) ++ bytesOf (cs.drop k) := by
    rw [← bytesOf_append, List.take_append_drop]
  rw [hsplit, List.take_left]

section Tail

variable {data tail : List UInt8} {i : ℕ} {c : Utf8Character} {ds : List Utf8Character}

/-- The byte at the beginning of what is left. -/
theorem getD_of_drop_append (h : data.drop i = c.bytes ++ tail) :
    i < data.length ∧ data.getD i 0 = c.lead := by
  have hi : i < data.length := by
    by_contra hle
    rw [List.drop_eq_nil_of_le (not_lt.mp hle)] at h
    cases h
  refine ⟨hi, ?_⟩
  rw [List.drop_eq_getElem_cons hi] at h
  rw [List.getD_eq_getElem?_getD, List.getElem?_eq_getElem hi]
  exact (List.cons.inj h).1

/-- Behind the first character that is left is the rest. -/
theorem drop_add_of_drop_append (h : data.drop i = c.bytes ++ tail) :
    data.drop (i + getByteWidthOfCharacter c.lead) = tail := by
  rw [← List.drop_drop, h, ← c.length_bytes, List.drop_left]

theorem getD_of_drop_eq (h : data.drop i = bytesOf (c :: ds)) :
    i < data.length ∧ data.getD i 0 = c.lead :=
  have hbytes : data.drop i = c.bytes ++ bytesOf ds := h
  getD_of_drop_append hbytes

theorem drop_add_of_drop_eq (h : data.drop i = bytesOf (c :: ds)) :
    data.drop (i + getByteWidthOfCharacter c.lead) = bytesOf ds :=
  have hbytes : data.drop i = c.bytes ++ bytesOf ds := h
  drop_add_of_drop_append hbytes

end Tail

end UTF8String

end OpenKit
