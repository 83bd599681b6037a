import Mathlib.Tactic.Common

/-!
# Results and errors

A computation that may fail ends with a result or with an error. `Fallible.Ends` says something about
both, and is composed along sequences and loops.

## Main definitions

* `Fallible.Ends Q E x`: `Q` holds of the result of `x`, and `E` of its error

## Main results

* `Fallible.Ends.bind`: sequences
* `Fallible.ends_foldlM`: loops over a list
-/

namespace OpenKit

namespace Fallible

variable {ε ε' α β : Type} {Q : α → Prop} {E : ε → Prop} {x : Except ε α}

/-- The result satisfies `Q`, and the error `E`. -/
def Ends (Q : α → Prop) (E : ε → Prop) : Except ε α → Prop
  | .ok a => Q a
  | .error e => E e

theorem Ends.mono {Q' : α → Prop} {E' : ε → Prop} (h : Ends Q E x) (hQ : ∀ a, Q a → Q' a)
    (hE : ∀ e, E e → E' e) : Ends Q' E' x := by
  cases x with
  | ok a => exact hQ a h
  | error e => exact hE e h

/-- **A sequence**: what follows ends as it should after every result. -/
theorem Ends.bind {P : β → Prop} {f : α → Except ε β} (h : Ends (fun a => Ends P E (f a)) E x) :
    Ends P E (x >>= f) := by
  cases x with
  | ok a => exact h
  | error e => exact h

theorem Ends.mapError {E' : ε' → Prop} {f : ε → ε'} (h : Ends Q (fun e => E' (f e)) x) :
    Ends Q E' (x.mapError f) := by
  cases x with
  | ok a => exact h
  | error e => exact h

/-- **A loop** keeps what each of its rounds keeps. -/
theorem ends_foldlM {I : β → Prop} {f : β → α → Except ε β} {xs : List α} {b : β} (hb : I b)
    (hround : ∀ b, ∀ x ∈ xs, I b → Ends I E (f b x)) : Ends I E (xs.foldlM f b) := by
  induction xs generalizing b with
  | nil => exact hb
  | cons x xs ih =>
    rw [List.foldlM_cons]
    refine Ends.bind ((hround b x List.mem_cons_self hb).mono (fun b' hb' => ?_) fun _ he => he)
    exact ih hb' fun b y hy => hround b y (List.mem_cons_of_mem _ hy)

/-- A loop that ends with a result has one in each round. -/
theorem exists_ok_of_foldlM {f : β → α → Except ε β} {xs : List α} {b c : β} (h : xs.foldlM f b = .ok c) :
    ∀ x ∈ xs, ∃ b' c', f b' x = .ok c' := by
  induction xs generalizing b with
  | nil => exact List.forall_mem_nil _
  | cons x xs ih =>
    rw [List.foldlM_cons] at h
    cases hx : f b x with
    | error e =>
      rw [hx] at h
      cases h
    | ok b' =>
      rw [hx] at h
      exact List.forall_mem_cons.mpr ⟨⟨b, b', hx⟩, ih h⟩

/-- Where nothing is an error, there is a result. -/
theorem Ends.exists_ok (h : Ends Q (fun _ => False) x) : ∃ a, x = .ok a ∧ Q a := by
  cases x with
  | ok a => exact ⟨a, rfl, h⟩
  | error e => exact h.elim

end Fallible

end OpenKit
