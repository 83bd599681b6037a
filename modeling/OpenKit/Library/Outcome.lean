import OpenKit.Library.Loop

/-!
# The outcome of a program run alone

A program that is run with no other thread ends with a result or with an error. `Program.Ends` says
what holds then, and `Program.Within` that the state has moved by a relation and which errors are
possible. Both are proved action by action.

## Main definitions

* `Program.Ends Q E p s`: `Q` holds of the result of `p` run from `s`, and `E` of its error
* `Program.Within K E p s`: `p` run from `s` moves the state by `K`, and fails with `E` only

## Main results

* `Program.Ends.run_ok`, `Program.Ends.run_error`: what `Ends` says about the run
* `Program.Ends.bind`, `Program.Within.bind`: sequences
* `Program.ends_loop`: the invariant of a loop that lowers a variant
* `Program.Guarantees.ends`: what every action does, at the end
-/

namespace Thread

variable {ε σ α β : Type}

namespace Program

/-- `Q` holds of the result and the state at the end of the run from `s`, or `E` of the error and
that state. -/
def Ends (Q : α → σ → Prop) (E : ε → σ → Prop) : Program ε σ α → σ → Prop
  | ret a, s => Q a s
  | fail e, s => E e s
  | act f k, s => Ends Q E (k s) (f s)

section Ends

variable {Q Q' : α → σ → Prop} {E E' : ε → σ → Prop} {p : Program ε σ α} {s t : σ}

theorem Ends.run_ok {a : α} (h : Ends Q E p s) (hrun : p.run s = (.ok a, t)) : Q a t := by
  induction p generalizing s with
  | ret b =>
    obtain ⟨hb, rfl⟩ := Prod.mk.inj hrun
    obtain rfl := Except.ok.inj hb
    exact h
  | fail e => cases (Prod.mk.inj hrun).1
  | act f k ih => exact ih s h hrun

theorem Ends.run_error {e : ε} (h : Ends Q E p s) (hrun : p.run s = (.error e, t)) : E e t := by
  induction p generalizing s with
  | ret b => cases (Prod.mk.inj hrun).1
  | fail e' =>
    obtain ⟨he, rfl⟩ := Prod.mk.inj hrun
    obtain rfl := Except.error.inj he
    exact h
  | act f k ih => exact ih s h hrun

/-- What is known about the run holds at its end. -/
theorem ends_of_run (hQ : ∀ a t, p.run s = (.ok a, t) → Q a t)
    (hE : ∀ e t, p.run s = (.error e, t) → E e t) : Ends Q E p s := by
  induction p generalizing s with
  | ret a => exact hQ a s rfl
  | fail e => exact hE e s rfl
  | act f k ih => exact ih s hQ hE

theorem Ends.mono (h : Ends Q E p s) (hQ : ∀ a t, Q a t → Q' a t) (hE : ∀ e t, E e t → E' e t) :
    Ends Q' E' p s := by
  induction p generalizing s with
  | ret a => exact hQ a s h
  | fail e => exact hE e s h
  | act f k ih => exact ih s h

/-- Two things that hold at the end hold together. -/
theorem Ends.and (h : Ends Q E p s) (h' : Ends Q' E' p s) :
    Ends (fun a t => Q a t ∧ Q' a t) (fun e t => E e t ∧ E' e t) p s := by
  induction p generalizing s with
  | ret a => exact ⟨h, h'⟩
  | fail e => exact ⟨h, h'⟩
  | act f k ih => exact ih s h h'

/-- Sequencing: the second part starts where the first returned. -/
theorem Ends.bind {P : β → σ → Prop} {g : α → Program ε σ β}
    (h : Ends (fun a t => Ends P E (g a) t) E p s) : Ends P E (p >>= g) s := by
  induction p generalizing s with
  | ret a => exact h
  | fail e => exact h
  | act f k ih => exact ih s h

/-- What holds wherever the first part of a sequence returns. -/
theorem Returns.ends_bind {P : β → σ → Prop} {g : α → Program ε σ β} (hp : Returns p)
    (hg : ∀ a t, Ends P E (g a) t) : Ends P E (p >>= g) s := by
  induction p generalizing s with
  | ret a => exact hg a s
  | fail e => exact hp.elim
  | act f k ih => exact ih s (hp s)

/-- A loop over a list that carries something along, with an invariant of both. -/
theorem ends_foldlM {I : β → σ → Prop} {f : β → α → Program ε σ β} {xs : List α} {b : β}
    (hb : I b s) (hf : ∀ b, ∀ x ∈ xs, ∀ t, I b t → Ends I E (f b x) t) :
    Ends I E (xs.foldlM f b) s := by
  induction xs generalizing b s with
  | nil => exact hb
  | cons x xs ih =>
    rw [List.foldlM_cons]
    refine Ends.bind ((hf b x List.mem_cons_self s hb).mono (fun b' t ht => ih ht ?_) fun _ _ => id)
    exact fun b'' y hy => hf b'' y (List.mem_cons_of_mem x hy)

theorem ends_forM {I : σ → Prop} {f : α → Program ε σ Unit} {xs : List α} (hs : I s)
    (hf : ∀ x ∈ xs, ∀ t, I t → Ends (fun _ => I) E (f x) t) :
    Ends (fun _ => I) E (xs.forM f) s := by
  induction xs generalizing s with
  | nil => exact hs
  | cons x xs ih =>
    refine Ends.bind ((hf x List.mem_cons_self s hs).mono (fun _ t ht => ih ht ?_) fun _ _ => id)
    exact fun y hy => hf y (List.mem_cons_of_mem x hy)

/-- A program that has no way to fail returns. -/
theorem Ends.exists_run (h : Ends Q (fun _ _ => False) p s) :
    ∃ a t, p.run s = (.ok a, t) ∧ Q a t := by
  rcases hrun : p.run s with ⟨e | a, t⟩
  · exact (h.run_error hrun).elim
  · exact ⟨a, t, rfl, h.run_ok hrun⟩

/-- A loop whose body keeps an assertion and lowers a variant does not run out of its rounds. -/
theorem ends_loop {e : ε} {body : α → Program ε σ (ForInStep α)} {J : α → σ → Prop}
    (V : α → σ → ℕ)
    (hbody : ∀ a s, J a s → Ends (Round (fun a' t => J a' t ∧ V a' t < V a s) Q) E (body a) s)
    {n : ℕ} {a : α} (hj : J a s) (hn : V a s < n) : Ends Q E (loop e body n a) s := by
  induction n generalizing a s with
  | zero => exact absurd hn (Nat.not_lt_zero _)
  | succ n ih =>
    refine Ends.bind ((hbody a s hj).mono (fun r t hround => ?_) fun _ _ => id)
    cases r with
    | yield a' => exact ih hround.1 (Nat.lt_of_lt_of_le hround.2 (Nat.le_of_lt_succ hn))
    | done a' => exact hround

/-- What every action of a program does, at its end. -/
theorem Guarantees.ends {K : σ → σ → Prop} (hK : Guarantees K p) (hrefl : ∀ s, K s s)
    (htrans : ∀ s t u, K s t → K t u → K s u) :
    Ends (fun _ t => K s t) (fun _ t => K s t) p s := by
  induction p generalizing s with
  | ret a => exact hrefl s
  | fail e => exact hrefl s
  | act f k ih =>
    exact (ih s (hK s).2).mono (fun _ t ht => htrans _ _ _ (hK s).1 ht) fun _ t ht =>
      htrans _ _ _ (hK s).1 ht

end Ends

/-! ## Moves of the state -/

/-- The run from `s` moves the state by `K`, and fails with an error of `E` at most. -/
def Within (K : σ → σ → Prop) (E : ε → Prop) (p : Program ε σ α) (s : σ) : Prop :=
  Ends (fun _ t => K s t) (fun e t => K s t ∧ E e) p s

section Within

variable {K : σ → σ → Prop} {E : ε → Prop} {p : Program ε σ α} {s t : σ}

theorem within_atomic {f : σ → α × σ} (h : K s (f s).2) :
    Within K E (atomic f : Program ε σ α) s := h

/-- A sequence whose first part tells something about its result. -/
theorem Within.bind_of {Q : α → σ → Prop} {g : α → Program ε σ β}
    (htrans : ∀ s t u, K s t → K t u → K s u) (h : Within K E p s)
    (hQ : Ends Q (fun _ _ => True) p s) (hg : ∀ a t, K s t → Q a t → Within K E (g a) t) :
    Within K E (p >>= g) s := by
  refine Ends.bind ((h.and hQ).mono (fun a t ht => ?_) fun e t ht => ht.1)
  refine (hg a t ht.1 ht.2).mono (fun b u hu => htrans s t u ht.1 hu) fun e u hu => ?_
  exact ⟨htrans s t u ht.1 hu.1, hu.2⟩

/-- Sequencing. -/
theorem Within.bind {g : α → Program ε σ β} (htrans : ∀ s t u, K s t → K t u → K s u)
    (h : Within K E p s) (hg : ∀ a t, K s t → Within K E (g a) t) : Within K E (p >>= g) s := by
  refine Ends.bind (h.mono (fun a t ht => ?_) fun e t ht => ht)
  refine (hg a t ht).mono (fun b u hu => htrans s t u ht hu) fun e u hu => ?_
  exact ⟨htrans s t u ht hu.1, hu.2⟩

/-- An action, and what follows from where it leads. -/
theorem within_atomic_bind {f : σ → β × σ} {g : β → Program ε σ α}
    (htrans : ∀ s t u, K s t → K t u → K s u) (h : K s (f s).2)
    (hg : Within K E (g (f s).1) (f s).2) : Within K E (atomic f >>= g) s := by
  show Ends _ _ (g (f s).1) (f s).2
  exact hg.mono (fun a u hu => htrans _ _ _ h hu) fun e u hu => ⟨htrans _ _ _ h hu.1, hu.2⟩

/-- The state at the end, whether the run has returned or failed. -/
theorem Within.run (h : Within K E p s) : K s (p.run s).2 := by
  rcases hrun : p.run s with ⟨e | a, t⟩
  · exact (h.run_error hrun).1
  · exact h.run_ok hrun

theorem Within.run_error {e : ε} (h : Within K E p s) (hrun : (p.run s).1 = .error e) : E e := by
  rcases hpair : p.run s with ⟨x, t⟩
  rw [hpair] at hrun
  subst hrun
  exact (Ends.run_error h hpair).2

theorem Within.mono {K' : σ → σ → Prop} {E' : ε → Prop} (h : Within K E p s)
    (hK : ∀ t, K s t → K' s t) (hE : ∀ e, E e → E' e) : Within K' E' p s :=
  Ends.mono h (fun _ t ht => hK t ht) fun e t ht => ⟨hK t ht.1, hE e ht.2⟩

end Within

end Program

end Thread
