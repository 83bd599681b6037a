import Mathlib.Data.List.Basic

/-!
# Noninterference

A machine takes one call after the other, some of which are hidden. Hidden calls do not interfere if runs
that differ in them only look the same: the calls that are seen get the same replies, and the states that
are reached have the same view.

It is enough to look at single calls. Those that are hidden keep the view, and the others do the same in
states with the same view.

## Main definitions

* `Noninterference.seen`: the replies to the calls that are seen
* `Noninterference.Unwinds`: what is asked of single calls

## Main results

* `Noninterference.Unwinds.noninterference`: runs that differ in hidden calls look the same
-/

namespace Noninterference

variable {S I O V : Type}

/-- The state after some calls. -/
def after (step : S → I → O × S) (s : S) (calls : List I) : S :=
  calls.foldl (fun s call => (step s call).2) s

/-- The replies to the calls that are seen. -/
def seen (step : S → I → O × S) (visible : I → Bool) : S → List I → List O
  | _, [] => []
  | s, call :: calls =>
    if visible call then (step s call).1 :: seen step visible (step s call).2 calls
    else seen step visible (step s call).2 calls

/-- **What is asked of single calls**, in the states of an invariant. -/
structure Unwinds (step : S → I → O × S) (visible : I → Bool) (view : S → V) (Inv : S → Prop) :
    Prop where
  invariant : ∀ s call, Inv s → Inv (step s call).2
  hidden : ∀ s call, Inv s → visible call = false → view (step s call).2 = view s
  reply : ∀ s t call, visible call = true → view s = view t → (step s call).1 = (step t call).1
  next : ∀ s t call, visible call = true → view s = view t →
    view (step s call).2 = view (step t call).2

namespace Unwinds

variable {step : S → I → O × S} {visible : I → Bool} {view : S → V} {Inv : S → Prop} {s t : S}

/-- A run looks as it does without its hidden calls. -/
theorem purge (h : Unwinds step visible view Inv) (calls : List I) (hs : Inv s) (hst : view s = view t) :
    seen step visible s calls = seen step visible t (calls.filter visible) ∧
      view (after step s calls) = view (after step t (calls.filter visible)) := by
  induction calls generalizing s t with
  | nil => exact ⟨rfl, hst⟩
  | cons call calls ih =>
    have hs' := h.invariant s call hs
    cases hvisible : visible call with
    | false =>
      rw [List.filter_cons_of_neg (by simp [hvisible]), seen, hvisible, if_neg Bool.false_ne_true]
      exact ih hs' ((h.hidden s call hs hvisible).trans hst)
    | true =>
      obtain ⟨hseen, hview⟩ := ih hs' (h.next s t call hvisible hst)
      rw [List.filter_cons_of_pos hvisible, seen, seen, hvisible, if_pos rfl, if_pos rfl,
        h.reply s t call hvisible hst, hseen]
      exact ⟨rfl, hview⟩

/-- **Noninterference**: runs that differ in hidden calls look the same. -/
theorem noninterference (h : Unwinds step visible view Inv) {calls calls' : List I} (hs : Inv s)
    (ht : Inv t) (hst : view s = view t) (hcalls : calls.filter visible = calls'.filter visible) :
    seen step visible s calls = seen step visible t calls' ∧
      view (after step s calls) = view (after step t calls') := by
  obtain ⟨hseen, hview⟩ := h.purge calls hs hst
  obtain ⟨hseen', hview'⟩ := h.purge calls' ht rfl
  rw [hcalls] at hseen hview
  exact ⟨hseen.trans hseen'.symm, hview.trans hview'.symm⟩

end Unwinds

end Noninterference
