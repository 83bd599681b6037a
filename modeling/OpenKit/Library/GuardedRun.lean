import Mathlib.Tactic.Common

/-!
# Runs of a step function and their guards

A run applies a step function to a sequence of inputs. A property of the states holds along the
whole run exactly when every step meets a guard, provided that a step from a state with the
property keeps it exactly when the guard holds.

## Main definitions

* `Always step P s is`: `P` holds in `s` and in every state the run over `is` reaches
* `Guarded step G s is`: every step of the run meets the guard `G` in the state it starts from

## Main results

* `always_iff_guarded`: a property holds along a run iff every step meets its exact guard
-/

namespace Runs

variable {σ ι : Type} (step : σ → ι → σ)

/-- The property `P` in the state `s` and in all states of the run over the inputs. -/
def Always (P : σ → Prop) : σ → List ι → Prop
  | s, [] => P s
  | s, i :: is => P s ∧ Always P (step s i) is

/-- The guard `G` at each step of the run over the inputs. -/
def Guarded (G : σ → ι → Prop) : σ → List ι → Prop
  | _, [] => True
  | s, i :: is => G s i ∧ Guarded G (step s i) is

variable {step} {P : σ → Prop} {G : σ → ι → Prop}

theorem Always.head {s : σ} {is : List ι} (h : Always step P s is) : P s := by
  cases is with
  | nil => exact h
  | cons i is => exact h.1

/-- The property holds in the last state of the run. -/
theorem Always.last {s : σ} {is : List ι} (h : Always step P s is) : P (is.foldl step s) := by
  induction is generalizing s with
  | nil => exact h
  | cons i is ih => exact ih h.2

theorem Always.and {Q : σ → Prop} {s : σ} {is : List ι} (hp : Always step P s is)
    (hq : Always step Q s is) : Always step (fun t => P t ∧ Q t) s is := by
  induction is generalizing s with
  | nil => exact ⟨hp, hq⟩
  | cons i is ih => exact ⟨⟨hp.1, hq.1⟩, ih hp.2 hq.2⟩

theorem Always.mono {Q : σ → Prop} (hpq : ∀ t, P t → Q t) {s : σ} {is : List ι}
    (h : Always step P s is) : Always step Q s is := by
  induction is generalizing s with
  | nil => exact hpq s h
  | cons i is ih => exact ⟨hpq s h.1, ih h.2⟩

/-- **Exact guards**: the property holds along the run iff each step meets its guard. -/
theorem always_iff_guarded (hstep : ∀ s i, P s → (P (step s i) ↔ G s i)) {s : σ} (hs : P s)
    (is : List ι) : Always step P s is ↔ Guarded step G s is := by
  induction is generalizing s with
  | nil => exact iff_of_true hs trivial
  | cons i is ih =>
    constructor
    · rintro ⟨-, h⟩
      exact ⟨(hstep s i hs).mp h.head, (ih h.head).mp h⟩
    · rintro ⟨hg, h⟩
      have hp := (hstep s i hs).mpr hg
      exact ⟨hs, (ih hp).mpr h⟩

end Runs
