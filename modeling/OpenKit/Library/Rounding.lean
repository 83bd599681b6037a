import Mathlib.Data.Int.Log
import Mathlib.Algebra.Order.Round
import Mathlib.Tactic.Linarith
import Mathlib.Tactic.Ring

/-!
# Rounding to a format of floating-point numbers

A format has a number of significant bits and a smallest exponent. A number is rounded to the nearest
multiple of the last place that the format has for it, and to an even multiple if it is halfway between
two. The numbers that the format represents are those that are not changed.

## Main definitions

* `roundHalfEven`: the nearest integer
* `FloatFormat.round`: the nearest number of a format
* `FloatFormat.Represents`: the numbers of a format

## Main results

* `FloatFormat.round_eq_self_iff`: the numbers that are not changed
* `FloatFormat.represents_intCast`: a format represents the integers of its bits
* `FloatFormat.two_mul_abs_round_sub_le`: the error is half of the last place at most
-/

namespace OpenKit

section Rounding

variable {K : Type} [Field K] [LinearOrder K] [IsStrictOrderedRing K] [FloorRing K]

/-- The nearest integer, and the even one halfway between two. -/
def roundHalfEven (x : K) : ℤ :=
  if 2 * Int.fract x < 1 then ⌊x⌋
  else if 1 < 2 * Int.fract x then ⌊x⌋ + 1
  else if Even ⌊x⌋ then ⌊x⌋
  else ⌊x⌋ + 1

@[simp] theorem roundHalfEven_intCast (n : ℤ) : roundHalfEven (n : K) = n := by
  unfold roundHalfEven
  simp

/-- The nearest integer is not further away than a half. -/
theorem two_mul_abs_roundHalfEven_sub_le (x : K) : 2 * |(roundHalfEven x : K) - x| ≤ 1 := by
  have hsum := Int.floor_add_fract x
  have hnonneg := Int.fract_nonneg x
  have hlt := Int.fract_lt_one x
  -- The integer below is as far away as the fractional part, and the one above is as far as the rest.
  have hbelow : (⌊x⌋ : K) - x = -Int.fract x := by linarith
  have habove : ((⌊x⌋ + 1 : ℤ) : K) - x = 1 - Int.fract x := by
    push_cast
    linarith
  unfold roundHalfEven
  split
  next hlow =>
    rw [hbelow, abs_neg, abs_of_nonneg hnonneg]
    exact hlow.le
  next hlow =>
    have hhigh : 2 * |1 - Int.fract x| ≤ 1 := by
      rw [abs_of_nonneg (by linarith)]
      linarith
    split
    next =>
      rw [habove]
      exact hhigh
    next hnot =>
      split
      next =>
        rw [hbelow, abs_neg, abs_of_nonneg hnonneg]
        linarith
      next =>
        rw [habove]
        exact hhigh

end Rounding

/-- A format: the number of significant bits, and the smallest exponent. -/
structure FloatFormat where
  precision : ℕ
  minExponent : ℤ

namespace FloatFormat

/-- Double precision. -/
def binary64 : FloatFormat := ⟨53, -1074⟩

variable {K : Type} [Field K] [LinearOrder K] [IsStrictOrderedRing K] [FloorRing K]
variable (F : FloatFormat) {x : K}

/-- The exponent of the last place for a number. -/
def exponent (x : K) : ℤ := max (Int.log 2 |x| + 1 - F.precision) F.minExponent

/-- The nearest number of a format. -/
def round (x : K) : K := roundHalfEven (x / 2 ^ F.exponent x) * 2 ^ F.exponent x

/-- The numbers of a format. -/
def Represents (x : K) : Prop :=
  ∃ m e : ℤ, |m| < 2 ^ F.precision ∧ F.minExponent ≤ e ∧ x = m * 2 ^ e

/-! ## The numbers that are not changed -/

/-- No number has more places than the format has bits. -/
theorem abs_lt_zpow (x : K) : |x| < 2 ^ F.precision * 2 ^ F.exponent x := by
  have hlog : |x| < ((2 : ℕ) : K) ^ (Int.log 2 |x| + 1) := Int.lt_zpow_succ_log_self Nat.one_lt_two _
  have hle : Int.log 2 |x| + 1 ≤ F.precision + F.exponent x := by
    have := le_max_left (Int.log 2 |x| + 1 - F.precision) F.minExponent
    unfold exponent
    omega
  calc |x| < ((2 : ℕ) : K) ^ (Int.log 2 |x| + 1) := hlog
    _ ≤ (2 : K) ^ (F.precision + F.exponent x) := by
      rw [Nat.cast_ofNat]
      exact zpow_le_zpow_right₀ one_le_two hle
    _ = 2 ^ F.precision * 2 ^ F.exponent x := by
      rw [zpow_add₀ two_ne_zero, zpow_natCast]

/-- A number with few places has a low exponent. -/
theorem exponent_le {e : ℤ} (hx : |x| < 2 ^ F.precision * 2 ^ e) (he : F.minExponent ≤ e) (hne : x ≠ 0) :
    F.exponent x ≤ e := by
  have hpos : 0 < |x| := abs_pos.mpr hne
  have hlt : |x| < ((2 : ℕ) : K) ^ (F.precision + e) := by
    rwa [Nat.cast_ofNat, zpow_add₀ two_ne_zero, zpow_natCast]
  have hlog := (Int.lt_zpow_iff_log_lt Nat.one_lt_two hpos).mp hlt
  exact max_le (by omega) he

theorem round_of_represents (h : F.Represents x) : F.round x = x := by
  obtain ⟨m, e, hm, he, hx⟩ := h
  rcases eq_or_ne x 0 with rfl | hne
  · unfold round
    rw [zero_div, ← Int.cast_zero, roundHalfEven_intCast, Int.cast_zero, zero_mul]
  · -- The number is an integer number of last places, as its own last place is not below that of the format.
    have hpow : (0 : K) < 2 ^ e := zpow_pos two_pos e
    have hlt : |x| < 2 ^ F.precision * 2 ^ e := by
      rw [hx, abs_mul, abs_of_pos hpow]
      refine mul_lt_mul_of_pos_right ?_ hpow
      exact_mod_cast hm
    have hle := F.exponent_le hlt he hne
    obtain ⟨k, hk⟩ := Int.le.dest hle
    have hquotient : x / 2 ^ F.exponent x = ((m * 2 ^ k : ℤ) : K) := by
      rw [div_eq_iff (zpow_ne_zero _ two_ne_zero)]
      calc x = m * 2 ^ (F.exponent x + k) := by rw [hk, ← hx]
        _ = ((m * 2 ^ k : ℤ) : K) * 2 ^ F.exponent x := by
          rw [zpow_add₀ two_ne_zero, zpow_natCast]
          push_cast
          ring
    unfold round
    rw [hquotient, roundHalfEven_intCast, ← hquotient, div_mul_cancel₀ _ (zpow_ne_zero _ two_ne_zero)]

/-- **The numbers of a format** are those that rounding does not change. -/
theorem round_eq_self_iff : F.round x = x ↔ F.Represents x := by
  refine ⟨fun h => ⟨roundHalfEven (x / 2 ^ F.exponent x), F.exponent x, ?_, le_max_right _ _, h.symm⟩,
    F.round_of_represents⟩
  have hlt := F.abs_lt_zpow x
  have hpos : (0 : K) < 2 ^ F.exponent x := zpow_pos two_pos _
  rw [← h] at hlt
  nth_rewrite 1 [round] at hlt
  rw [h, abs_mul, abs_of_pos hpos] at hlt
  exact_mod_cast lt_of_mul_lt_mul_right hlt hpos.le

omit [LinearOrder K] [IsStrictOrderedRing K] [FloorRing K] in
theorem represents_intCast {n : ℤ} (hn : |n| < 2 ^ F.precision) (hmin : F.minExponent ≤ 0) :
    F.Represents (n : K) :=
  ⟨n, 0, hn, hmin, by rw [zpow_zero, mul_one]⟩

omit [IsStrictOrderedRing K] in
/-- Numbers with more places than the format has bits are rounded to integers. -/
theorem exists_round_eq_intCast (h : 0 ≤ F.exponent x) : ∃ n : ℤ, F.round x = n := by
  obtain ⟨k, hk⟩ := Int.eq_ofNat_of_zero_le h
  refine ⟨roundHalfEven (x / 2 ^ F.exponent x) * 2 ^ k, ?_⟩
  unfold round
  nth_rewrite 2 [hk]
  rw [zpow_natCast]
  push_cast
  rfl

/-! ## The error -/

/-- The error is half of the last place at most. -/
theorem two_mul_abs_round_sub_le (x : K) : 2 * |F.round x - x| ≤ 2 ^ F.exponent x := by
  have hpos : (0 : K) < 2 ^ F.exponent x := zpow_pos two_pos _
  have hnearest := two_mul_abs_roundHalfEven_sub_le (x / 2 ^ F.exponent x)
  have herror : F.round x - x =
      (roundHalfEven (x / 2 ^ F.exponent x) - x / 2 ^ F.exponent x) * 2 ^ F.exponent x := by
    rw [sub_mul, div_mul_cancel₀ _ hpos.ne']
    rfl
  rw [herror, abs_mul, abs_of_pos hpos, ← mul_assoc]
  exact mul_le_of_le_one_left hpos.le hnearest

/-- A number with no more integral places than bits is rounded to one that is not further away than a
half. -/
theorem two_mul_abs_round_sub_le_one (h : |x| < 2 ^ F.precision) (hmin : F.minExponent ≤ 0) :
    2 * |F.round x - x| ≤ 1 := by
  rcases eq_or_ne x 0 with rfl | hne
  · have hzero : F.Represents (0 : K) := ⟨0, 0, by simp, hmin, by simp⟩
    rw [F.round_of_represents hzero]
    simp
  · have hexponent : F.exponent x ≤ 0 := F.exponent_le (by simpa using h) hmin hne
    calc 2 * |F.round x - x| ≤ 2 ^ F.exponent x := F.two_mul_abs_round_sub_le x
      _ ≤ 1 := zpow_le_one_of_nonpos₀ one_le_two hexponent

end FloatFormat

end OpenKit
