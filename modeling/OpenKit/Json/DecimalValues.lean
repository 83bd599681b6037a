import Mathlib.Data.List.TakeWhile
import OpenKit.Json.JsonGrammar
import OpenKit.Json.JsonParser

/-!
# The values of decimal numbers

The value of digits is below the power of ten that has one more. So a decimal fraction has its value less
than one above that of the digits in front of the point.

## Main results

* `decimalValue_of_isIntegerLiteral`: the value of an integer literal
* `decimalValue_digits`, `decimalValue_fraction`: the value of digits with and without a fraction
-/

namespace OpenKit

open JsonLexer

namespace JsonNumberValue

variable {digits ds literal : List UInt8}

theorem foldl_digits (n : ℕ) (ds : List UInt8) :
    ds.foldl (fun n chr => n * 10 + (chr.toNat - 0x30)) n = n * 10 ^ ds.length + digitsValue ds := by
  induction ds generalizing n with
  | nil => simp [digitsValue]
  | cons d ds ih =>
    rw [digitsValue, List.foldl_cons, List.foldl_cons, ih, ih, List.length_cons]
    ring

/-- Digits in front of others count as many powers of ten more. -/
theorem digitsValue_append (digits ds : List UInt8) :
    digitsValue (digits ++ ds) = digitsValue digits * 10 ^ ds.length + digitsValue ds := by
  rw [digitsValue, List.foldl_append, foldl_digits]
  rfl

theorem digitsValue_lt (h : ∀ c ∈ ds, isDigit c = true) : digitsValue ds < 10 ^ ds.length := by
  induction ds with
  | nil => exact Nat.one_pos
  | cons d ds ih =>
    obtain ⟨hd, hds⟩ := List.forall_mem_cons.mp h
    have hnine : d.toNat - 0x30 ≤ 9 := by
      have hdigit : d ≤ 0x39 := by
        rw [isDigit, Bool.and_eq_true, decide_eq_true_iff, decide_eq_true_iff] at hd
        exact hd.2
      have hle : d.toNat ≤ 0x39 := UInt8.le_iff_toNat_le.mp hdigit
      omega
    have hvalue : digitsValue (d :: ds) = (d.toNat - 0x30) * 10 ^ ds.length + digitsValue ds := by
      rw [digitsValue, List.foldl_cons, foldl_digits, Nat.zero_mul, Nat.zero_add]
    rw [hvalue, List.length_cons, pow_succ]
    have hmul := Nat.mul_le_mul_right (10 ^ ds.length) hnine
    have hlt := ih hds
    omega

/-! ## Parts of a literal -/

/-- A digit is none of the characters that end the integer part or the fraction. -/
theorem ne_of_isDigit {c : UInt8} (h : isDigit c = true) :
    c ≠ 0x2E ∧ c ≠ 0x65 ∧ c ≠ 0x45 ∧ c ≠ 0x2D := by
  refine ⟨?_, ?_, ?_, ?_⟩ <;> rintro rfl <;> exact absurd h (by decide)

/-- The value of a literal without a point and an exponent. -/
theorem decimalValue_of_forall (h : ∀ c ∈ literal, c ≠ 0x2E ∧ c ≠ 0x65 ∧ c ≠ 0x45) :
    decimalValue literal = integerValue literal := by
  have hinteger : integerPart literal = literal :=
    List.takeWhile_eq_self_iff.mpr fun c hc => decide_eq_true (h c hc)
  have hmantissa : literal.takeWhile (fun chr => decide (chr ≠ 0x65 ∧ chr ≠ 0x45)) = literal :=
    List.takeWhile_eq_self_iff.mpr fun c hc => decide_eq_true (h c hc).2
  have hfraction : fractionPart literal = [] := by
    rw [fractionPart, hmantissa, List.dropWhile_eq_nil_iff.mpr fun c hc => decide_eq_true (h c hc).1]
    rfl
  have hexponent : exponentValue literal = 0 := by
    rw [exponentValue, List.dropWhile_eq_nil_iff.mpr fun c hc => decide_eq_true (h c hc).2]
    rfl
  rw [decimalValue, hinteger, hfraction, hexponent, List.append_nil, List.length_nil]
  simp

theorem integerValue_of_digits (h : ∀ c ∈ digits, isDigit c = true) :
    integerValue digits = digitsValue digits := by
  cases digits with
  | nil => rfl
  | cons d ds => rw [integerValue, if_neg (ne_of_isDigit (h d List.mem_cons_self)).2.2.2]

theorem decimalValue_digits (h : ∀ c ∈ digits, isDigit c = true) :
    decimalValue digits = digitsValue digits := by
  have hne : ∀ c ∈ digits, c ≠ 0x2E ∧ c ≠ 0x65 ∧ c ≠ 0x45 := fun c hc =>
    ⟨(ne_of_isDigit (h c hc)).1, (ne_of_isDigit (h c hc)).2.1, (ne_of_isDigit (h c hc)).2.2.1⟩
  rw [decimalValue_of_forall hne, integerValue_of_digits h, Int.cast_natCast]

/-- **The value of an integer literal** is its integer. -/
theorem decimalValue_of_isIntegerLiteral (h : IsIntegerLiteral literal) :
    decimalValue literal = integerValue literal := by
  obtain ⟨minus, integer, hminus, hinteger, rfl⟩ := h
  have hdigits : ∀ c ∈ integer, isDigit c = true := by
    rcases hinteger with rfl | ⟨d, ds, rfl, -, hd, hds⟩
    · exact List.forall_mem_singleton.mpr (by decide)
    · exact List.forall_mem_cons.mpr ⟨hd, hds⟩
  refine decimalValue_of_forall fun c hc => ?_
  rcases List.mem_append.mp hc with hc | hc
  · rcases hminus with rfl | rfl
    · cases hc
    · obtain rfl := List.mem_singleton.mp hc
      decide
  · have hne := ne_of_isDigit (hdigits c hc)
    exact ⟨hne.1, hne.2.1, hne.2.2.1⟩

/-- The value of digits with a fraction. -/
theorem decimalValue_fraction (h : ∀ c ∈ digits, isDigit c = true) (hds : ∀ c ∈ ds, isDigit c = true) :
    decimalValue (digits ++ 0x2E :: ds) = digitsValue digits + digitsValue ds / 10 ^ ds.length := by
  have hinteger : integerPart (digits ++ 0x2E :: ds) = digits := by
    rw [integerPart, List.takeWhile_append_of_pos fun c hc => decide_eq_true
      ⟨(ne_of_isDigit (h c hc)).1, (ne_of_isDigit (h c hc)).2.1, (ne_of_isDigit (h c hc)).2.2.1⟩]
    simp
  have hall : ∀ c ∈ digits ++ 0x2E :: ds, c ≠ 0x65 ∧ c ≠ 0x45 := by
    intro c hc
    rcases List.mem_append.mp hc with hc | hc
    · exact ⟨(ne_of_isDigit (h c hc)).2.1, (ne_of_isDigit (h c hc)).2.2.1⟩
    · rcases List.mem_cons.mp hc with rfl | hc
      · decide
      · exact ⟨(ne_of_isDigit (hds c hc)).2.1, (ne_of_isDigit (hds c hc)).2.2.1⟩
  have hmantissa : (digits ++ 0x2E :: ds).takeWhile (fun chr => decide (chr ≠ 0x65 ∧ chr ≠ 0x45)) =
      digits ++ 0x2E :: ds := List.takeWhile_eq_self_iff.mpr fun c hc => decide_eq_true (hall c hc)
  have hfraction : fractionPart (digits ++ 0x2E :: ds) = ds := by
    rw [fractionPart, hmantissa, List.dropWhile_append_of_pos fun c hc =>
      decide_eq_true (ne_of_isDigit (h c hc)).1]
    simp
  have hexponent : exponentValue (digits ++ 0x2E :: ds) = 0 := by
    rw [exponentValue, List.dropWhile_eq_nil_iff.mpr fun c hc => decide_eq_true (hall c hc)]
    rfl
  have hdigits : ∀ c ∈ digits ++ ds, isDigit c = true := List.forall_mem_append.mpr ⟨h, hds⟩
  rw [decimalValue, hinteger, hfraction, hexponent, integerValue_of_digits hdigits, digitsValue_append,
    zero_sub, zpow_neg, zpow_natCast]
  push_cast
  field_simp

end JsonNumberValue

end OpenKit
