import Mathlib.Algebra.BigOperators.Group.List.Basic
import Mathlib.Data.List.Forall2
import Mathlib.Tactic.Abel
import OpenKit.Library.RelyGuarantee

/-!
# Tallies of the threads of a pool

A pool runs a main thread, which makes one call after the other, next to any number of other
threads. While a thread is in the middle of its program, a measure of the shared state may be off by
what the thread has changed so far and will make up for. The tally of a thread is that change, and
it is kept next to the state as an auxiliary value. When each program ends with a tally of zero, the
measure is zero whenever no program is running.

The main thread may rely on what the actions of the other threads guarantee. The others rely on
nothing but an invariant of the state.

## Main definitions

* `Program.tally f p`: the program `p`, with a tally of its changes to the measure `f`
* `Program.Balances R I f p s`: run among threads that step by `R`, `p` ends with a tally of zero
* `Pool`, `Pool.Step`: the threads, and their steps

## Main results

* `Program.tally_bind`: the tally of a sequence
* `Pool.measure_of_reaches`: the measure is the sum of the tallies
* `Pool.Measured.of_idle`: it is zero when no program is running
-/

namespace Thread

variable {ε σ α β M : Type}

namespace Program

/-- The steps of other threads, which leave a tally alone. -/
def Beside (R : σ → σ → Prop) (t t' : σ × M) : Prop := R t.1 t'.1 ∧ t'.2 = t.2

variable {R : σ → σ → Prop} {I : σ → Prop}

theorem stable_beside {P : σ → Prop} (h : Stable R P) :
    Stable (Beside R) fun t : σ × M => P t.1 :=
  fun _ _ hstep hP => h _ _ hstep.1 hP

theorem stable_tally (d : M) : Stable (Beside R) fun t : σ × M => t.2 = d :=
  fun _ _ hstep hd => hstep.2.trans hd

section Tally

variable [AddCommGroup M]

/-- The program with a tally of the changes it makes to the measure `f`. -/
def tally (f : σ → M) : Program ε σ α → Program ε (σ × M) α
  | ret a => ret a
  | fail e => fail e
  | act g k => act (fun t => (g t.1, t.2 + (f (g t.1) - f t.1))) fun t => (k t.1).tally f

variable {f : σ → M}

theorem tally_bind (p : Program ε σ α) (g : α → Program ε σ β) :
    (p >>= g).tally f = p.tally f >>= fun a => (g a).tally f := by
  induction p with
  | ret a => rfl
  | fail e => rfl
  | act h k ih =>
    rw [act_bind, tally, tally, act_bind]
    exact congrArg _ (funext fun t => ih t.1)

/-- In every run of the program from `s` among threads that step by `R`, the invariant `I` holds at
every point, and the tally is zero at the end. -/
def Balances (R : σ → σ → Prop) (I : σ → Prop) (f : σ → M) (p : Program ε σ α) (s : σ) (d : M) :
    Prop :=
  Sat (Beside R) (fun t => I t.1) (p.tally f) (fun _ t => t.2 = 0) (s, d)

/-- The first part of a sequence ends in a state of `Q` with a tally that it determines. -/
theorem balances_bind {p : Program ε σ α} {g : α → Program ε σ β} {Q : α → σ → M → Prop} {s : σ}
    {d : M} (hp : Sat (Beside R) (fun t => I t.1) (p.tally f) (fun a t => Q a t.1 t.2) (s, d))
    (hg : ∀ a s d, I s → Q a s d → Balances R I f (g a) s d) : Balances R I f (p >>= g) s d := by
  rw [Balances, tally_bind]
  exact hp.seq fun a t hI hQ => hg a t.1 t.2 hI hQ

theorem balances_ret {a : α} {s : σ} (hI : Stable R I) (h : I s) :
    Balances R I f (ret a : Program ε σ α) s 0 :=
  sat_ret (stable_beside hI) (stable_tally 0) h rfl

/-- One action, from a state of `P`. -/
theorem sat_tally_atomic {F : σ → α × σ} {P : σ → Prop} {Q : α → σ → Prop} {δ : α → M} {s : σ}
    {d : M} (hI : Stable R I) (hP : Stable R P) (hQ : ∀ a, Stable R (Q a))
    (hstep : ∀ s, I s → P s → I (F s).2 ∧ Q (F s).1 (F s).2 ∧ f (F s).2 - f s = δ (F s).1)
    (hi : I s) (hp : P s) :
    Sat (Beside R) (fun t => I t.1) ((atomic F : Program ε σ α).tally f)
      (fun a t => Q a t.1 ∧ t.2 = d + δ a) (s, d) := by
  refine sat_atomic (f := fun t : σ × M => ((F t.1).1, (F t.1).2, t.2 + (f (F t.1).2 - f t.1)))
    (P := fun t => P t.1 ∧ t.2 = d) (stable_beside hI) ((stable_beside hP).and (stable_tally d))
    (fun a => (stable_beside (hQ a)).and (stable_tally _)) (fun t ht hpt => ?_) hi ⟨hp, rfl⟩
  obtain ⟨hi', hq, hδ⟩ := hstep t.1 ht hpt.1
  refine ⟨hi', hq, ?_⟩
  show t.2 + (f (F t.1).2 - f t.1) = d + δ (F t.1).1
  rw [hδ, hpt.2]

/-- A first action changes the tally by what the rest makes up for. -/
theorem balances_atomic_bind {F : σ → α × σ} {g : α → Program ε σ β} (P : σ → Prop)
    (Q : α → σ → Prop) (δ : α → M) {s : σ} {d : M} (hI : Stable R I) (hP : Stable R P)
    (hQ : ∀ a, Stable R (Q a))
    (hstep : ∀ s, I s → P s → I (F s).2 ∧ Q (F s).1 (F s).2 ∧ f (F s).2 - f s = δ (F s).1)
    (hi : I s) (hp : P s) (hg : ∀ a s, I s → Q a s → Balances R I f (g a) s (d + δ a)) :
    Balances R I f (atomic F >>= g) s d := by
  have hfirst : Sat (Beside R) (fun t => I t.1) ((atomic F : Program ε σ α).tally f)
      (fun a t => Q a t.1 ∧ t.2 = d + δ a) (s, d) := sat_tally_atomic hI hP hQ hstep hi hp
  refine balances_bind (Q := fun a s e => Q a s ∧ e = d + δ a) hfirst fun a s e hs hq => ?_
  rw [hq.2]
  exact hg a s hs hq.1

/-- A first read leaves the tally as it is. -/
theorem balances_read_bind {F : σ → α} {g : α → Program ε σ β} (P : σ → Prop)
    (Q : α → σ → Prop) {s : σ} {d : M} (hI : Stable R I) (hP : Stable R P)
    (hQ : ∀ a, Stable R (Q a)) (hstep : ∀ s, I s → P s → Q (F s) s) (hi : I s) (hp : P s)
    (hg : ∀ a s, I s → Q a s → Balances R I f (g a) s d) :
    Balances R I f (read F >>= g) s d := by
  refine balances_atomic_bind P Q (fun _ => 0) hI hP hQ
    (fun s hi hp => ⟨hi, hstep s hi hp, sub_self (f s)⟩) hi hp fun a s hs hq => ?_
  rw [add_zero]
  exact hg a s hs hq

/-- A last action makes up for the tally. -/
theorem balances_atomic {F : σ → α × σ} (P : σ → Prop) {s : σ} {d : M} (hI : Stable R I)
    (hP : Stable R P) (hstep : ∀ s, I s → P s → I (F s).2 ∧ f (F s).2 - f s = -d) (hi : I s)
    (hp : P s) : Balances R I f (atomic F : Program ε σ α) s d := by
  have h : Sat (Beside R) (fun t => I t.1) ((atomic F : Program ε σ α).tally f)
      (fun _ t => True ∧ t.2 = d + -d) (s, d) :=
    sat_tally_atomic hI hP (fun _ => Stable.const True)
      (fun s hi hp => ⟨(hstep s hi hp).1, trivial, (hstep s hi hp).2⟩) hi hp
  exact h.mono fun a t _ ht => ht.2.trans (add_neg_cancel d)

end Tally

end Program

/-! ## Pools -/

/-- A main thread and others, each with the rest of its program, over a shared state. -/
structure Pool (ε σ : Type) where
  main : Program ε σ Unit
  others : List (Program ε σ Unit)
  state : σ

namespace Pool

/-- No program is running. -/
def Idle (t : Pool ε σ) : Prop := t.main = .ret () ∧ t.others = []

/-- A step of the pool: the main thread makes its next call, another thread starts with one, or one
of them performs its next action or returns. -/
inductive Step (mainCalls otherCalls : Program ε σ Unit → Prop) : Pool ε σ → Pool ε σ → Prop
  | call (p : Program ε σ Unit) (others : List (Program ε σ Unit)) (s : σ) (h : mainCalls p) :
      Step mainCalls otherCalls ⟨.ret (), others, s⟩ ⟨p, others, s⟩
  | start (p main : Program ε σ Unit) (others : List (Program ε σ Unit)) (s : σ)
      (h : otherCalls p) : Step mainCalls otherCalls ⟨main, others, s⟩ ⟨main, p :: others, s⟩
  | main (g : σ → σ) (k : σ → Program ε σ Unit) (others : List (Program ε σ Unit)) (s : σ) :
      Step mainCalls otherCalls ⟨.act g k, others, s⟩ ⟨k s, others, g s⟩
  | other (main : Program ε σ Unit) (l r : List (Program ε σ Unit)) (g : σ → σ)
      (k : σ → Program ε σ Unit) (s : σ) :
      Step mainCalls otherCalls ⟨main, l ++ .act g k :: r, s⟩ ⟨main, l ++ k s :: r, g s⟩
  | done (main : Program ε σ Unit) (l r : List (Program ε σ Unit)) (s : σ) :
      Step mainCalls otherCalls ⟨main, l ++ .ret () :: r, s⟩ ⟨main, l ++ r, s⟩

/-- What a pool becomes after some steps. -/
def Reaches (mainCalls otherCalls : Program ε σ Unit → Prop) : Pool ε σ → Pool ε σ → Prop :=
  Relation.ReflTransGen (Step mainCalls otherCalls)

section Measure

variable [AddCommGroup M]

/-- The steps that keep an invariant. -/
def Keeps (I : σ → Prop) (s s' : σ) : Prop := I s → I s'

variable {G : σ → σ → Prop} {I : σ → Prop} {f : σ → M}

/-- What holds of another thread and its tally. -/
def OtherBalances (G : σ → σ → Prop) (I : σ → Prop) (f : σ → M) (s : σ) (p : Program ε σ Unit)
    (d : M) : Prop :=
  Program.Guarantees G p ∧ Program.Balances (Keeps I) I f p s d

/-- The measure is the sum of the tallies. -/
def Measured (G : σ → σ → Prop) (I : σ → Prop) (f : σ → M) (t : Pool ε σ) : Prop :=
  I t.state ∧ ∃ d ds, Program.Balances G I f t.main t.state d ∧
    List.Forall₂ (OtherBalances G I f t.state) t.others ds ∧ f t.state = d + ds.sum

theorem exists_append_of_forall₂ {R : α → β → Prop} {l r : List α} {ds : List β}
    (h : List.Forall₂ R (l ++ r) ds) :
    ∃ dl dr, List.Forall₂ R l dl ∧ List.Forall₂ R r dr ∧ ds = dl ++ dr := by
  induction l generalizing ds with
  | nil => exact ⟨[], ds, .nil, h, rfl⟩
  | cons a l ih =>
    cases h with
    | cons ha h =>
      obtain ⟨dl, dr, hl, hr, rfl⟩ := ih h
      exact ⟨_ :: dl, dr, .cons ha hl, hr, rfl⟩

/-- The tallies of the others, after a step that keeps the invariant. -/
theorem OtherBalances.step {s s' : σ} (hI : I s → I s') {ps : List (Program ε σ Unit)}
    {ds : List M} (h : List.Forall₂ (OtherBalances G I f s) ps ds) :
    List.Forall₂ (OtherBalances G I f s') ps ds := by
  refine h.imp fun p d hp => ⟨hp.1, ?_⟩
  exact hp.2.env (.single ⟨hI, rfl⟩)

variable {mainCalls otherCalls : Program ε σ Unit → Prop}

/-- **One step** keeps the measure the sum of the tallies. -/
theorem Measured.step
    (hmain : ∀ p, mainCalls p → ∀ s, I s → Program.Balances G I f p s 0)
    (hothers : ∀ p, otherCalls p → ∀ s, I s → OtherBalances G I f s p 0)
    {t t' : Pool ε σ} (h : Measured G I f t) (hstep : Step mainCalls otherCalls t t') :
    Measured G I f t' := by
  obtain ⟨hI, d, ds, hd, hds, hsum⟩ := h
  cases hstep with
  | call p others s hp =>
    -- a program that has returned has a tally of zero
    obtain rfl : d = 0 := (hd (s, d) .refl).2
    exact ⟨hI, 0, ds, hmain p hp s hI, hds, hsum⟩
  | start p main others s hp =>
    refine ⟨hI, d, 0 :: ds, hd, .cons (hothers p hp s hI) hds, ?_⟩
    rw [List.sum_cons, zero_add]
    exact hsum
  | main g k others s =>
    have hown := (hd (s, d) .refl).2
    have hI' : I (g s) := hown.here
    refine ⟨hI', d + (f (g s) - f s), ds, hown, OtherBalances.step (fun _ => hI') hds, ?_⟩
    show f (g s) = _
    rw [add_right_comm, ← hsum]
    exact (add_sub_cancel _ _).symm
  | other main l r g k s =>
    obtain ⟨dl, dr', hl, hr', rfl⟩ := exists_append_of_forall₂ hds
    cases hr' with
    | @cons _ e _ dr hp hr =>
      have hown := (hp.2 (s, e) .refl).2
      have hI' : I (g s) := hown.here
      have hkeeps : I s → I (g s) := fun _ => hI'
      have hG : G s (g s) := (hp.1 s).1
      refine ⟨hI', d, dl ++ (e + (f (g s) - f s)) :: dr, hd.env (.single ⟨hG, rfl⟩), ?_, ?_⟩
      · exact List.rel_append (OtherBalances.step hkeeps hl)
          (.cons ⟨(hp.1 s).2, hown⟩ (OtherBalances.step hkeeps hr))
      · show f (g s) = _
        have hsum' : f s = d + (dl ++ e :: dr).sum := hsum
        rw [List.sum_append, List.sum_cons] at hsum' ⊢
        have hchange : f (g s) = f s + (f (g s) - f s) := (add_sub_cancel _ _).symm
        rw [hchange, hsum']
        abel
  | done main l r s =>
    obtain ⟨dl, dr', hl, hr', rfl⟩ := exists_append_of_forall₂ hds
    cases hr' with
    | @cons _ e _ dr hp hr =>
      obtain rfl : e = 0 := (hp.2 (s, e) .refl).2
      refine ⟨hI, d, dl ++ dr, hd, List.rel_append hl hr, ?_⟩
      rw [List.sum_append]
      rw [List.sum_append, List.sum_cons, zero_add] at hsum
      exact hsum

/-- **The measure is the sum of the tallies**, in every state that is reached. -/
theorem measure_of_reaches
    (hmain : ∀ p, mainCalls p → ∀ s, I s → Program.Balances G I f p s 0)
    (hothers : ∀ p, otherCalls p → ∀ s, I s → OtherBalances G I f s p 0)
    {t t' : Pool ε σ} (h : Measured G I f t) (hreaches : Reaches mainCalls otherCalls t t') :
    Measured G I f t' := by
  induction hreaches with
  | refl => exact h
  | tail _ hstep ih => exact ih.step hmain hothers hstep

/-- When no program is running, it is zero. -/
theorem Measured.of_idle {t : Pool ε σ} (h : Measured G I f t) (hidle : t.Idle) :
    I t.state ∧ f t.state = 0 := by
  obtain ⟨main, others, s⟩ := t
  obtain ⟨rfl, rfl⟩ := hidle
  obtain ⟨hI, d, ds, hd, hds, hsum⟩ := h
  obtain rfl := List.forall₂_nil_left_iff.mp hds
  obtain rfl : d = 0 := (hd (s, d) .refl).2
  exact ⟨hI, by rw [hsum]; exact add_zero 0⟩

end Measure

end Pool

end Thread
