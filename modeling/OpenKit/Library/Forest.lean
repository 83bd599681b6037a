import Mathlib.Data.Nat.Notation
import Mathlib.Order.Basic
import Mathlib.Order.Lattice

/-!
# Forests by parent pointers

Every item has a parent at most, and the parents of an item form a chain. Two items with a common
descendant are on one such chain, so that the descendants of siblings have nothing in common.

## Main definitions

* `Forest.Below up r q`: `r` is `q`, or the parent of `q`, or its parent, and so on

## Main results

* `Below.linear`: of two items above a third, one is above the other
* `Below.eq_of_siblings`: siblings with a common descendant are the same
* `Below.eq_or_exists_child`: what is below an item is below one of its children
* `Below.exists_root`: every item is below one without a parent
-/

namespace Forest

variable {α : Type} {up : α → Option α} {p q r r' : α}

/-- An item, and all that are below it. -/
inductive Below (up : α → Option α) (r : α) : α → Prop
  | refl : Below up r r
  | child {p q : α} (h : Below up r p) (hup : up q = some p) : Below up r q

namespace Below

theorem trans (h : Below up r p) (h' : Below up p q) : Below up r q := by
  induction h' with
  | refl => exact h
  | child _ hup ih => exact ih.child hup

theorem of_up (hup : up q = some p) : Below up p q := refl.child hup

/-- **The items above an item** form a chain. -/
theorem linear (h : Below up r q) (h' : Below up r' q) : Below up r r' ∨ Below up r' r := by
  induction h with
  | refl => exact .inr h'
  | @child p q h hup ih =>
    cases h' with
    | refl => exact .inl (h.child hup)
    | @child p' _ h' hup' =>
      obtain rfl := Option.some.inj (hup.symm.trans hup')
      exact ih h'

/-- What is below an item, but not the item, is below one of its children. -/
theorem eq_or_exists_child (h : Below up r q) : q = r ∨ ∃ c, up c = some r ∧ Below up c q := by
  induction h with
  | refl => exact .inl rfl
  | @child p q h hup ih =>
    rcases ih with rfl | ⟨c, hc, hbelow⟩
    · exact .inr ⟨q, hup, refl⟩
    · exact .inr ⟨c, hc, hbelow.child hup⟩

/-- A property that is passed on from a child to its parent. -/
theorem induction_up {P : α → Prop} (h : Below up r q) (hq : P q)
    (hup : ∀ q p, up q = some p → P q → P p) : P r := by
  induction h with
  | refl => exact hq
  | child h hparent ih => exact ih (hup _ _ hparent hq)

section Rank

variable (rank : α → ℕ) (hrank : ∀ q p, up q = some p → rank p < rank q)

include hrank

theorem rank_le (h : Below up r q) : rank r ≤ rank q := by
  induction h with
  | refl => exact le_refl _
  | child h hup ih => exact ih.trans (hrank _ _ hup).le

/-- A parent is not below its child. -/
theorem not_below_of_up (hup : up q = some p) : ¬ Below up q p := by
  intro h
  exact absurd (rank_le rank hrank h) (not_le.mpr (hrank q p hup))

/-- **Siblings** with a common descendant are the same. -/
theorem eq_of_siblings (h : Below up r q) (h' : Below up r' q) (hsiblings : up r = up r') :
    r = r' := by
  -- the last step of the chain from the one to the other goes to the common parent
  have hlast (c c' : α) (hc : Below up c c') (hup : up c = up c') : c = c' := by
    cases hc with
    | refl => rfl
    | @child p _ hbelow hparent => exact absurd hbelow (not_below_of_up rank hrank (hup.trans hparent))
  rcases linear h h' with hc | hc
  · exact hlast r r' hc hsiblings
  · exact (hlast r' r hc hsiblings.symm).symm

/-- **Every item** is below one without a parent. -/
theorem exists_root (q : α) : ∃ c, up c = none ∧ Below up c q := by
  induction hn : rank q using Nat.strong_induction_on generalizing q with
  | _ n ih =>
    cases hup : up q with
    | none => exact ⟨q, hup, refl⟩
    | some p =>
      obtain ⟨c, hc, hbelow⟩ := ih (rank p) (hn ▸ hrank q p hup) p rfl
      exact ⟨c, hc, hbelow.child hup⟩

end Rank

end Below

end Forest
