import OpenKit.Json.DecimalValues
import OpenKit.Protocol.KeyValueResponseParser

/-!
# The conversions of numbers

A number of a response is converted to 64 bits, from there to 32 bits, and is multiplied by the factor of its
unit in 32 bits. A product that wraps around differs from the number by so much that it is no multiple of
the number that was written, which is at most one or two away from the one that was converted. So the
product is right exactly if an integer was written and the product fits.

## Main results

* `toInt32_mul_eq_iff`: when a product is right
* `JsonNumberValue.doubleToLong_round_eq_iff`: when a number in double precision is converted to itself
-/

namespace OpenKit

open FloatFormat

/-! ## Wrapping around -/

theorem inInt32Range_toInt32 (n : ℤ) : InInt32Range (toInt32 n) := by
  unfold InInt32Range toInt32
  omega

theorem toInt32_of_inInt32Range {n : ℤ} (h : InInt32Range n) : toInt32 n = n := toInt32_of_mem h.1 h.2

/-- Wrapping around takes multiples of `2 ^ 32` away. -/
theorem exists_toInt32_eq (n : ℤ) : ∃ k : ℤ, toInt32 n = n - 4294967296 * k := by
  refine ⟨(n + 2147483648) / 4294967296, ?_⟩
  unfold toInt32
  omega

theorem toInt32_sub_mul (n k : ℤ) : toInt32 (n - 4294967296 * k) = toInt32 n := by
  unfold toInt32
  omega

/-- A factor may be applied before or after. -/
theorem toInt32_toInt32_mul (a b : ℤ) : toInt32 (toInt32 a * b) = toInt32 (a * b) := by
  obtain ⟨k, hk⟩ := exists_toInt32_eq a
  rw [hk, sub_mul, mul_assoc, toInt32_sub_mul]

/-- **A product is right** if an integer was written and the product fits. Here `v` was written and `n` was
read, which are close to each other, and equal if `v` is an integer. -/
theorem toInt32_mul_eq_iff {n f : ℤ} {v : ℚ} (hf : 1 ≤ f) (hf' : f ≤ 2 ^ 30)
    (hclose : |v| ≤ 2 ^ 31 → |v - n| < 2) (hexact : ∀ m : ℤ, v = m → |m| ≤ 2 ^ 31 → n = m) :
    ((toInt32 (n * f) : ℤ) : ℚ) = v * f ↔ ∃ m : ℤ, v = m ∧ InInt32Range (m * f) := by
  have hfpos : (1 : ℚ) ≤ f := by exact_mod_cast hf
  constructor
  · intro heq
    have hrange := inInt32Range_toInt32 (n * f)
    -- The written number is in range, as its product is.
    have habs : |v| ≤ 2 ^ 31 := by
      have hproduct : |v| * f ≤ 2 ^ 31 := by
        rw [← abs_of_pos (show (0 : ℚ) < f by linarith), ← abs_mul, ← heq, ← Int.cast_abs]
        have hle : |toInt32 (n * f)| ≤ 2 ^ 31 := abs_le.mpr ⟨hrange.1, hrange.2.le⟩
        exact_mod_cast hle
      exact (le_mul_of_one_le_right (abs_nonneg v) hfpos).trans hproduct
    -- So the product cannot have wrapped around.
    obtain ⟨k, hk⟩ := exists_toInt32_eq (n * f)
    have hdistance : |(4294967296 * k : ℤ)| < 2 * f := by
      have hvalue : ((4294967296 * k : ℤ) : ℚ) = (n - v) * f := by
        rw [hk] at heq
        push_cast at heq ⊢
        linarith
      have hlt : |((4294967296 * k : ℤ) : ℚ)| < 2 * f := by
        rw [hvalue, abs_mul, abs_of_pos (show (0 : ℚ) < f by linarith), abs_sub_comm]
        exact mul_lt_mul_of_pos_right (hclose habs) (by linarith)
      exact_mod_cast hlt
    have hzero : k = 0 := by
      rw [abs_lt] at hdistance
      omega
    rw [hzero, mul_zero, sub_zero] at hk
    refine ⟨n, ?_, hk ▸ hrange⟩
    rw [hk, Int.cast_mul] at heq
    exact (mul_right_cancel₀ (by linarith) heq).symm
  · rintro ⟨m, rfl, hrange⟩
    have habs : |m| ≤ 2 ^ 31 := by
      have hproduct : |m| * f ≤ 2 ^ 31 := by
        rw [← abs_of_pos (show 0 < f by omega), ← abs_mul]
        exact abs_le.mpr ⟨hrange.1, hrange.2.le⟩
      exact (le_mul_of_one_le_right (abs_nonneg m) hf).trans hproduct
    rw [hexact m rfl habs, toInt32_of_inInt32Range hrange]
    push_cast
    rfl

/-! ## Double precision -/

namespace JsonNumberValue

variable {r v : ℚ} {m : ℤ}

theorem inLongRange_doubleToLong (r : ℚ) : InLongRange (doubleToLong r) := by
  unfold doubleToLong
  split
  next h => exact h
  next => exact ⟨le_refl _, by norm_num⟩

@[simp] theorem truncate_intCast (m : ℤ) : truncate (m : ℚ) = m := by
  unfold truncate
  rw [Int.floor_intCast, Int.ceil_intCast, ite_self]

theorem abs_truncate_sub_lt (r : ℚ) : |(truncate r : ℚ) - r| < 1 := by
  unfold truncate
  split
  · rw [abs_lt]
    exact ⟨by linarith [Int.lt_floor_add_one r], by linarith [Int.floor_le r]⟩
  · rw [abs_lt]
    exact ⟨by linarith [Int.le_ceil r], by linarith [Int.ceil_lt_add_one r]⟩

theorem abs_doubleToLong_sub_lt (h : |r| ≤ 2 ^ 62) : |(doubleToLong r : ℚ) - r| < 1 := by
  have htruncated := abs_truncate_sub_lt r
  have hrange : InLongRange (truncate r) := by
    have hle : |(truncate r : ℚ)| < 2 ^ 63 := by
      have hsum := abs_sub_abs_le_abs_sub (truncate r : ℚ) r
      linarith
    rw [abs_lt] at hle
    exact ⟨by exact_mod_cast hle.1.le, by exact_mod_cast hle.2⟩
  rw [doubleToLong, if_pos hrange]
  exact htruncated

theorem doubleToLong_intCast (h : InLongRange m) : doubleToLong (m : ℚ) = m := by
  rw [doubleToLong, truncate_intCast, if_pos h]

/-- An integer of up to 53 bits is a number of double precision. -/
theorem represents_of_abs_lt (h : |m| < 2 ^ 53) : binary64.Represents (m : ℚ) :=
  represents_intCast binary64 h (by decide)

theorem abs_doubleToLong_round_sub_lt (h : |v| ≤ 2 ^ 31) :
    |v - doubleToLong (binary64.round v)| < 2 := by
  have hround := two_mul_abs_round_sub_le_one binary64 (x := v) (h.trans_lt (by norm_num [binary64]))
    (by decide)
  have hsmall : |binary64.round v| ≤ 2 ^ 62 := by
    have hsum := abs_sub_abs_le_abs_sub (binary64.round v) v
    linarith
  have htruncated := abs_doubleToLong_sub_lt hsmall
  calc |v - doubleToLong (binary64.round v)|
      ≤ |v - binary64.round v| + |binary64.round v - doubleToLong (binary64.round v)| := abs_sub_le _ _ _
    _ = |binary64.round v - v| + |doubleToLong (binary64.round v) - binary64.round v| := by
      rw [abs_sub_comm v, abs_sub_comm (binary64.round v) (doubleToLong (binary64.round v) : ℚ)]
    _ < 2 := by linarith

theorem doubleToLong_round_of_represents (hm : InLongRange m) (h : binary64.Represents (m : ℚ)) :
    doubleToLong (binary64.round (m : ℚ)) = m := by
  rw [binary64.round_of_represents h, doubleToLong_intCast hm]

/-- **A number is converted to itself** if it is an integer of 64 bits that double precision represents. -/
theorem doubleToLong_round_eq_iff :
    (doubleToLong (binary64.round v) : ℚ) = v ↔
      ∃ m : ℤ, v = m ∧ InLongRange m ∧ binary64.Represents (m : ℚ) := by
  constructor
  · intro heq
    have hlong := inLongRange_doubleToLong (binary64.round v)
    refine ⟨doubleToLong (binary64.round v), heq.symm, hlong, ?_⟩
    rw [heq]
    by_cases hexponent : 0 ≤ binary64.exponent v
    · -- A number with that many places is rounded to an integer.
      obtain ⟨n, hn⟩ := binary64.exists_round_eq_intCast hexponent
      by_cases hrange : InLongRange n
      · rw [hn, doubleToLong_intCast hrange] at heq
        rw [← binary64.round_eq_self_iff, hn, heq]
      · have hout : doubleToLong (binary64.round v) = -2 ^ 63 := by
          rw [hn, doubleToLong, truncate_intCast, if_neg hrange]
        rw [hout] at heq
        exact ⟨-1, 63, by decide, by decide, by rw [← heq]; norm_num⟩
    · have hlt : |v| < 2 ^ 53 := by
        refine (binary64.abs_lt_zpow v).trans_le ?_
        have hle : (2 : ℚ) ^ binary64.exponent v ≤ 1 :=
          zpow_le_one_of_nonpos₀ one_le_two (not_le.mp hexponent).le
        have hbits : binary64.precision = 53 := rfl
        rw [hbits]
        linarith [mul_le_mul_of_nonneg_left hle (show (0 : ℚ) ≤ 2 ^ 53 by norm_num)]
      rw [← heq] at hlt ⊢
      exact represents_of_abs_lt (by exact_mod_cast hlt)
  · rintro ⟨m, rfl, hm, h⟩
    rw [doubleToLong_round_of_represents hm h]

end JsonNumberValue

end OpenKit
