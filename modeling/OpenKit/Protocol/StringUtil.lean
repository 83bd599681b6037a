import Mathlib.Data.List.DropRight
import OpenKit.Protocol.DecimalTexts

/-!
# Device ids from strings

A device id that is given as a string is the number it shows, or a hash if it shows none. The number is read
with `strtol`, which stops at the bounds of its type and still ends behind the last digit: every number above
the range is the same device id, and every one below.

## Main definitions

* `StringUtil.trim`: a string without the whitespace around it
* `StringUtil.to64BitHash`, `StringUtil.toNumericOr64BitHash`: the device ids of strings
* `StringUtil.IsNumericOrHash`: the value of a number in the range, and the hash of anything else

## Main results

* `StringUtil.toNumericOr64BitHash_eq`: which strings are taken for numbers
* `StringUtil.isNumericOrHash_iff`: the strings whose device id is right
-/

namespace OpenKit

open JsonNumberValue

/-- A number in the type `long` of 64 bits: beyond the range, the bound that is next to it. -/
def saturateLong (value : ℤ) : ℤ := max (-2 ^ 63) (min value (2 ^ 63 - 1))

/-- `std::strtol` with base ten: the number, and where it ends. Without a digit, nothing is read. -/
def strtol (str : List UInt8) : ℤ × List UInt8 :=
  if digitsOf str = [] then (0, str)
  else (saturateLong (signOf str * digitsValue (digitsOf str)), behindDigits str)

/-- The string that starts at a pointer. -/
def cString (str : List UInt8) : List UInt8 := str.takeWhile (· ≠ 0)

namespace StringUtil

def leftTrim (string : List UInt8) : List UInt8 := string.dropWhile isspace

def rightTrim (string : List UInt8) : List UInt8 := string.rdropWhile isspace

def trim (string : List UInt8) : List UInt8 := rightTrim (leftTrim string)

/-- One step of a hash; a character has a sign. -/
def hashStep (hash : Int64) (chr : UInt8) : Int64 := ((hash <<< 5) + hash) ^^^ chr.toInt8.toInt64

/-- The loop over two characters at a time. -/
def hashLoop : Int64 → Int64 → List UInt8 → Int64 × Int64
  | hash1, hash2, [] => (hash1, hash2)
  | hash1, hash2, [chr] => (hashStep hash1 chr, hash2)
  | hash1, hash2, chr :: chr' :: string => hashLoop (hashStep hash1 chr) (hashStep hash2 chr') string

def to64BitHash (str : List UInt8) : ℤ :=
  let string := trim str
  if string = [] then 0
  else
    let hashes := hashLoop 5381 5381 string
    (hashes.1 + hashes.2 * 1566083941).toInt

/-- `none` is the null pointer. What the number ends at is the terminating zero if nothing is behind it. -/
def toNumericOr64BitHash : Option (List UInt8) → ℤ
  | none => 0
  | some str =>
    let string := trim (cString str)
    if string = [] then 0
    else
      let parsedDeviceId := strtol string
      if parsedDeviceId.2.headD 0 = 0 then parsedDeviceId.1 else to64BitHash string

/-! ## Trimmed strings -/

section Trimming

variable {text : List UInt8}

/-- No whitespace is left at the front. -/
theorem dropWhile_trim (str : List UInt8) : (trim str).dropWhile isspace = trim str := by
  obtain ⟨rest, hrest⟩ : trim str <+: leftTrim str := List.rdropWhile_prefix _ _
  cases htrim : trim str with
  | nil => rfl
  | cons chr string =>
    -- the first character is that of the string without its leading whitespace
    rw [htrim] at hrest
    have hleft : (leftTrim str).dropWhile isspace = leftTrim str := List.dropWhile_idempotent _ _
    have hchr : ¬isspace chr = true := by
      have hhead := List.dropWhile_eq_self_iff.mp hleft
      rw [← hrest] at hhead
      exact hhead (Nat.succ_pos _)
    exact List.dropWhile_cons_of_neg hchr

theorem mem_of_mem_trim {chr : UInt8} {str : List UInt8} (h : chr ∈ trim str) : chr ∈ str :=
  (List.dropWhile_suffix _).subset ((List.rdropWhile_prefix _ _).subset h)

theorem ne_zero_of_mem_cString {chr : UInt8} {str : List UInt8} (h : chr ∈ cString str) : chr ≠ 0 := by
  have hkept := List.mem_takeWhile_imp h
  simpa using hkept

/-- A string without zeros ends where a zero is read. -/
theorem headD_eq_zero_iff {rest : List UInt8} (h : ∀ chr ∈ rest, chr ≠ 0) :
    rest.headD 0 = 0 ↔ rest = [] := by
  cases rest with
  | nil => exact iff_of_true rfl rfl
  | cons chr rest => exact iff_of_false (h chr List.mem_cons_self) (List.cons_ne_nil _ _)

theorem skipSign_suffix (str : List UInt8) : skipSign str <:+ str := by
  cases str with
  | nil => exact List.suffix_rfl
  | cons chr str =>
    rw [skipSign]
    split
    · exact List.suffix_cons _ _
    · exact List.suffix_rfl

theorem mem_of_mem_behindDigits {chr : UInt8} (h : chr ∈ behindDigits text) : chr ∈ text := by
  have hsuffix : behindDigits text <:+ text :=
    (List.dropWhile_suffix _).trans ((skipSign_suffix _).trans (List.dropWhile_suffix _))
  exact hsuffix.subset h

end Trimming

/-! ## Device ids -/

/-- What a device id is to be: the number that a trimmed string shows, `0` for no character at all, and the
hash of any other string. -/
structure IsNumericOrHash (text : List UInt8) (id : ℤ) : Prop where
  numeric : ∀ v, IsDecimal v text → InLongRange v → id = v
  empty : text = [] → id = 0
  hash : text ≠ [] → (¬∃ v, IsDecimal v text ∧ InLongRange v) → id = to64BitHash text

section DeviceIds

variable {str : List UInt8} {v : ℤ}

/-- **What is taken for a number** is every decimal number; beyond the range it gets the bound. -/
theorem toNumericOr64BitHash_eq (h : IsDecimal v (trim (cString str))) :
    toNumericOr64BitHash (some str) = saturateLong v := by
  obtain ⟨-, hne, hbehind, hvalue⟩ := h.scan
  rw [toNumericOr64BitHash]
  dsimp only
  rw [if_neg h.ne_nil, strtol, if_neg hne, hvalue, hbehind]
  exact if_pos rfl

/-- Any other string is hashed. -/
theorem toNumericOr64BitHash_of_not_isDecimal (hne : trim (cString str) ≠ [])
    (h : ¬∃ v, IsDecimal v (trim (cString str))) :
    toNumericOr64BitHash (some str) = to64BitHash (trim (cString str)) := by
  have hzero : ∀ chr ∈ trim (cString str), chr ≠ 0 := fun chr hchr =>
    ne_zero_of_mem_cString (mem_of_mem_trim hchr)
  have hdrop := dropWhile_trim (cString str)
  rw [toNumericOr64BitHash]
  dsimp only
  generalize trim (cString str) = text at *
  rw [if_neg hne, if_neg]
  rw [strtol]
  by_cases hdigits : digitsOf text = []
  · rw [if_pos hdigits]
    exact mt (headD_eq_zero_iff hzero).mp hne
  · rw [if_neg hdigits]
    intro hend
    have hbehind : behindDigits text = [] :=
      (headD_eq_zero_iff fun chr hchr => hzero chr (mem_of_mem_behindDigits hchr)).mp hend
    exact h ⟨_, isDecimal_of_scan hdrop hdigits hbehind⟩

theorem saturateLong_eq_self_iff : saturateLong v = v ↔ InLongRange v := by
  unfold saturateLong InLongRange
  omega

/-- **The strings whose device id is right** are those that show no number beyond the range, unless their hash
happens to be the bound. -/
theorem isNumericOrHash_iff (str : List UInt8) :
    IsNumericOrHash (trim (cString str)) (toNumericOr64BitHash (some str)) ↔
      ∀ v, IsDecimal v (trim (cString str)) →
        InLongRange v ∨ to64BitHash (trim (cString str)) = saturateLong v := by
  by_cases hdecimal : ∃ v, IsDecimal v (trim (cString str))
  · obtain ⟨v, hv⟩ := hdecimal
    rw [toNumericOr64BitHash_eq hv]
    constructor
    · intro hid w hw
      obtain rfl := hv.unique hw
      by_cases hrange : InLongRange v
      · exact .inl hrange
      · refine .inr (hid.hash hv.ne_nil ?_).symm
        rintro ⟨w, hw, hwrange⟩
        exact hrange (hv.unique hw ▸ hwrange)
    · intro hall
      refine ⟨?_, ?_, ?_⟩
      · intro w hw hrange
        obtain rfl := hv.unique hw
        exact saturateLong_eq_self_iff.mpr hrange
      · intro hnil
        exact absurd hnil hv.ne_nil
      · intro _ hout
        exact ((hall v hv).resolve_left fun hrange => hout ⟨v, hv, hrange⟩).symm
  · refine iff_of_true ⟨?_, ?_, ?_⟩ ?_
    · intro v hv
      exact absurd ⟨v, hv⟩ hdecimal
    · intro hnil
      rw [toNumericOr64BitHash]
      exact if_pos hnil
    · intro hne _
      exact toNumericOr64BitHash_of_not_isDecimal hne hdecimal
    · intro v hv
      exact absurd ⟨v, hv⟩ hdecimal

/-- The text of `2 ^ 63`. -/
def firstNumberAbove : List UInt8 :=
  (UTF8String.ofAscii
    ['9', '2', '2', '3', '3', '7', '2', '0', '3', '6', '8', '5', '4', '7', '7', '5', '8', '0', '8']).data

/-- **The first number above the range** gets the number below it, and no hash. -/
theorem not_isNumericOrHash_above :
    ¬ IsNumericOrHash (trim (cString firstNumberAbove)) (toNumericOr64BitHash (some firstNumberAbove)) := by
  have hdecimal : IsDecimal (2 ^ 63) (trim (cString firstNumberAbove)) :=
    isDecimal_iff.mpr (by decide)
  have hhash : to64BitHash (trim (cString firstNumberAbove)) ≠ saturateLong (2 ^ 63) := by
    decide
  rw [isNumericOrHash_iff]
  intro hall
  rcases hall _ hdecimal with hrange | heq
  · exact absurd hrange (by decide)
  · exact hhash heq

end DeviceIds

end StringUtil

end OpenKit
