import Mathlib.Data.List.Basic
import Mathlib.Algebra.Order.Group.Int
import Mathlib.Order.MinMax

/-!
# Looking at deadlines

A thread looks at items with deadlines, one after the other, and reads the clock for each. Some are due
then; of the others it takes the shortest time left, and waits for it, though never longer than some time.

## Main definitions

* `Deadlines.due`: the items that are due when they are looked at
* `Deadlines.wait`: how long the thread waits

## Main results

* `mem_due_iff`: an item is due by the reading that belongs to it
* `wait_le_of_lt`: the thread waits no longer than the time left of an item that is not due
-/

namespace Deadlines

variable {α : Type} (deadline : α → ℤ) (clock : ℕ → ℤ)

/-- The items that are due, from the `n`-th reading of the clock on. -/
def due : ℕ → List α → List α
  | _, [] => []
  | n, x :: xs => if deadline x ≤ clock n then x :: due (n + 1) xs else due (n + 1) xs

/-- The time to wait, from the `n`-th reading of the clock on, if some time is known already. -/
def wait : ℕ → ℤ → List α → ℤ
  | _, time, [] => time
  | n, time, x :: xs =>
    wait (n + 1) (if deadline x ≤ clock n then time else min time (deadline x - clock n)) xs

variable {deadline clock} {n i : ℕ} {time : ℤ} {x : α} {xs : List α}

theorem due_sublist : (due deadline clock n xs).Sublist xs := by
  induction xs generalizing n with
  | nil => exact .slnil
  | cons x xs ih =>
    rw [due]
    split
    · exact ih.cons_cons x
    · exact ih.cons x

/-- **An item is due** by the reading that belongs to it. -/
theorem mem_due_iff : x ∈ due deadline clock n xs ↔
    ∃ i, xs[i]? = some x ∧ deadline x ≤ clock (n + i) := by
  induction xs generalizing n with
  | nil => simp [due]
  | cons y ys ih =>
    rw [due]
    constructor
    · intro hx
      split at hx
      next hdue =>
        rcases List.mem_cons.mp hx with rfl | hx
        · exact ⟨0, rfl, hdue⟩
        · obtain ⟨i, hi, hlate⟩ := ih.mp hx
          exact ⟨i + 1, hi, by rwa [Nat.add_comm i 1, ← Nat.add_assoc]⟩
      next =>
        obtain ⟨i, hi, hlate⟩ := ih.mp hx
        exact ⟨i + 1, hi, by rwa [Nat.add_comm i 1, ← Nat.add_assoc]⟩
    · rintro ⟨i, hi, hlate⟩
      cases i with
      | zero =>
        obtain rfl := Option.some.inj hi
        rw [Nat.add_zero] at hlate
        rw [if_pos hlate]
        exact List.mem_cons_self
      | succ i =>
        have hrest : x ∈ due deadline clock (n + 1) ys :=
          ih.mpr ⟨i, hi, by rwa [Nat.add_assoc, Nat.add_comm 1 i]⟩
        split
        · exact List.mem_cons_of_mem y hrest
        · exact hrest

/-- In a list without duplicates, an item that is not due by its reading is not due. -/
theorem notMem_due_of_lt (hnodup : xs.Nodup) (hi : xs[i]? = some x)
    (hearly : clock (n + i) < deadline x) : x ∉ due deadline clock n xs := by
  intro hx
  obtain ⟨j, hj, hlate⟩ := mem_due_iff.mp hx
  obtain ⟨hlt, -⟩ := List.getElem?_eq_some_iff.mp hi
  obtain rfl := (List.getElem?_inj hlt hnodup).mp (hi.trans hj.symm)
  exact absurd hlate (not_le.mpr hearly)

theorem wait_le : wait deadline clock n time xs ≤ time := by
  induction xs generalizing n time with
  | nil => exact le_refl time
  | cons x xs ih =>
    rw [wait]
    split
    · exact ih
    · exact ih.trans (min_le_left _ _)

/-- **The thread does not wait** for longer than the time left of an item. -/
theorem wait_le_of_lt (hi : xs[i]? = some x) (hearly : clock (n + i) < deadline x) :
    wait deadline clock n time xs ≤ deadline x - clock (n + i) := by
  induction xs generalizing n time i with
  | nil => cases hi
  | cons y ys ih =>
    rw [wait]
    cases i with
    | zero =>
      obtain rfl := Option.some.inj hi
      rw [Nat.add_zero] at hearly ⊢
      rw [if_neg (not_le.mpr hearly)]
      exact wait_le.trans (min_le_right _ _)
    | succ i =>
      rw [Nat.add_comm i 1, ← Nat.add_assoc] at hearly ⊢
      exact ih hi hearly

theorem wait_nonneg (htime : 0 ≤ time) : 0 ≤ wait deadline clock n time xs := by
  induction xs generalizing n time with
  | nil => exact htime
  | cons x xs ih =>
    rw [wait]
    split
    · exact ih htime
    next hearly =>
      refine ih (le_min htime ?_)
      omega

end Deadlines
