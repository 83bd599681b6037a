import Mathlib.Data.Int.ModEq
import Mathlib.Logic.Function.Iterate

/-!
# Counters that start over

A counter draws the numbers from one to a largest one, and starts over then. As many draws in a row as
there are numbers are all different.

## Main definitions

* `WrappingCounter.next`: the number behind another one
* `WrappingCounter.drawn`: the numbers that are drawn one after the other

## Main results

* `WrappingCounter.drawn_injective`: they are different
-/

namespace WrappingCounter

variable {max last : ℤ} {m n : ℕ}

/-- The number behind the last one, which is one behind the largest. -/
def next (max last : ℤ) : ℤ := (if last = max then 0 else last) + 1

/-- The number that is drawn after `n` others. -/
def drawn (max last : ℤ) (n : ℕ) : ℤ := (next max)^[n + 1] last

theorem drawn_succ : drawn max last (n + 1) = next max (drawn max last n) :=
  Function.iterate_succ_apply' _ _ _

theorem next_eq (hmin : 0 ≤ last) (hmax : last ≤ max) :
    next max last = last % max + 1 := by
  rw [next]
  split
  next h => rw [h, Int.emod_self]
  next h => rw [Int.emod_eq_of_lt hmin (lt_of_le_of_ne hmax h)]

theorem drawn_eq (hmin : 0 ≤ last) (hmax : last ≤ max) (hpos : 0 < max) (n : ℕ) :
    drawn max last n = (last + n) % max + 1 := by
  induction n with
  | zero =>
    rw [Nat.cast_zero, add_zero]
    exact next_eq hmin hmax
  | succ n ih =>
    have hnonneg : 0 ≤ (last + n) % max := Int.emod_nonneg _ hpos.ne'
    have hlt : (last + n) % max < max := Int.emod_lt_of_pos _ hpos
    rw [drawn_succ, ih, next_eq (by omega) (by omega), Int.emod_add_emod, Nat.cast_succ, add_assoc]

theorem drawn_pos (hmin : 0 ≤ last) (hmax : last ≤ max) (hpos : 0 < max) (n : ℕ) :
    0 < drawn max last n := by
  rw [drawn_eq hmin hmax hpos]
  exact Int.lt_add_one_of_le (Int.emod_nonneg _ hpos.ne')

/-- **The numbers are different** up to as many draws as there are numbers. -/
theorem drawn_injective (hmin : 0 ≤ last) (hmax : last ≤ max) (hm : (m : ℤ) < max) (hn : (n : ℤ) < max)
    (h : drawn max last m = drawn max last n) : m = n := by
  have hpos : 0 < max := lt_of_le_of_lt (Int.natCast_nonneg m) hm
  rw [drawn_eq hmin hmax hpos, drawn_eq hmin hmax hpos, add_left_inj] at h
  have hmod : (m : ℤ) ≡ n [ZMOD max] := Int.ModEq.add_left_cancel' last h
  rw [Int.ModEq, Int.emod_eq_of_lt (Int.natCast_nonneg m) hm,
    Int.emod_eq_of_lt (Int.natCast_nonneg n) hn] at hmod
  exact Int.natCast_inj.mp hmod

end WrappingCounter
