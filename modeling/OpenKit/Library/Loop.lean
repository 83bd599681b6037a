import Mathlib.Data.Nat.Notation
import Mathlib.Order.RelClasses
import OpenKit.Library.RelyGuarantee

/-!
# Loops of a thread's program

Two loops over a loop variable: one whose body says after each round whether to go on, bounded by
a number of rounds, and one over the elements of a list, which its body can leave early. A loop
that is still to go on when its rounds are used up stops with an error, so that a statement about
its result says that it ends.

## Main definitions

* `Program.loop e body n a`: up to `n` rounds of `body` from `a`, with the error `e` after them
* `Program.forEach body l a`: `body` at each element of `l`, until it breaks
* `Program.loopValue`: the loop variable a loop over a list ended with
* `Program.Round J Q`: the outcome of a round, `J` if the loop goes on and `Q` if it ends

## Main results

* `Program.run_loop_of_variant`: a loop whose body lowers a variant returns
* `Program.run_loop_returns`: the same for a variant in any well-founded order
* `Program.run_loop_diverges`: a loop whose body always goes on uses up every bound
* `Program.run_loop_ok`, `Program.run_forEach_ok`: invariants of the loops run alone
* `Program.sat_loop`, `Program.sat_forEach`: invariants of the loops among other threads
-/

namespace Thread

namespace Program

variable {ε σ α γ : Type}

/-- A loop: a `yield` of the body starts the next round, a `done` ends the loop. -/
def loop (e : ε) (body : α → Program ε σ (ForInStep α)) : ℕ → α → Program ε σ α
  | 0, _ => fail e
  | n + 1, a => body a >>= fun
    | .yield a' => loop e body n a'
    | .done a' => ret a'

/-- A loop over a list: a `done` of the body breaks out of it. The result tells whether the loop
came to the end of the list. -/
def forEach (body : γ → α → Program ε σ (ForInStep α)) : List γ → α → Program ε σ (ForInStep α)
  | [], a => ret (.yield a)
  | c :: cs, a => body c a >>= fun
    | .yield a' => forEach body cs a'
    | .done a' => ret (.done a')

/-- The loop variable after a loop over a list. -/
def loopValue : ForInStep α → α
  | .yield a => a
  | .done a => a

/-- What holds after a round: `J` of the loop variable if the loop goes on, `Q` if it ends. -/
def Round (J Q : α → σ → Prop) : ForInStep α → σ → Prop
  | .yield a, s => J a s
  | .done a, s => Q a s

/-! ## The run alone -/

section Loop

variable {e : ε} {body : α → Program ε σ (ForInStep α)} {J Q : α → σ → Prop}

theorem run_loop_yield {n : ℕ} {a a' : α} {s t : σ} (h : (body a).run s = (.ok (.yield a'), t)) :
    (loop e body (n + 1) a).run s = (loop e body n a').run t :=
  run_bind_ok h

theorem run_loop_done {n : ℕ} {a a' : α} {s t : σ} (h : (body a).run s = (.ok (.done a'), t)) :
    (loop e body (n + 1) a).run s = (.ok a', t) :=
  run_bind_ok h

/-- **Termination**: a loop whose body keeps an assertion and lowers a variant returns, given
more rounds than the variant. -/
theorem run_loop_of_variant (V : α → σ → ℕ)
    (hbody : ∀ a s, J a s → ∃ r t, (body a).run s = (.ok r, t) ∧
      Round (fun a' t => J a' t ∧ V a' t < V a s) Q r t)
    {n : ℕ} {a : α} {s : σ} (hj : J a s) (hn : V a s < n) :
    ∃ b t, (loop e body n a).run s = (.ok b, t) ∧ Q b t := by
  induction n generalizing a s with
  | zero => exact absurd hn (Nat.not_lt_zero _)
  | succ n ih =>
    obtain ⟨r, t, hrun, hround⟩ := hbody a s hj
    cases r with
    | yield a' =>
      obtain ⟨hj', hv⟩ := hround
      rw [run_loop_yield hrun]
      exact ih hj' (by omega)
    | done a' => exact ⟨a', t, run_loop_done hrun, hround⟩

/-- A variant in any well-founded order bounds no number of rounds, but some number is enough. -/
theorem run_loop_returns {β : Type} [LT β] [WellFoundedLT β] (V : α → σ → β)
    (hbody : ∀ a s, J a s → ∃ r t, (body a).run s = (.ok r, t) ∧
      Round (fun a' t => J a' t ∧ V a' t < V a s) Q r t)
    {a : α} {s : σ} (hj : J a s) :
    ∃ n b t, (loop e body n a).run s = (.ok b, t) ∧ Q b t := by
  induction hv : V a s using WellFoundedLT.induction generalizing a s with
  | ind v ih =>
    obtain ⟨r, t, hrun, hround⟩ := hbody a s hj
    cases r with
    | yield a' =>
      obtain ⟨hj', hlt⟩ := hround
      obtain ⟨n, b, t', hloop, hq⟩ := ih (V a' t) (hv ▸ hlt) hj' rfl
      exact ⟨n + 1, b, t', (run_loop_yield hrun).trans hloop, hq⟩
    | done a' => exact ⟨1, a', t, run_loop_done hrun, hround⟩

/-- **Divergence**: a loop whose body always goes on ends with the error, whatever the bound. -/
theorem run_loop_diverges
    (hbody : ∀ a s, J a s → ∃ a' t, (body a).run s = (.ok (.yield a'), t) ∧ J a' t)
    (n : ℕ) {a : α} {s : σ} (hj : J a s) : ∃ t, (loop e body n a).run s = (.error e, t) := by
  induction n generalizing a s with
  | zero => exact ⟨s, rfl⟩
  | succ n ih =>
    obtain ⟨a', t, hrun, hj'⟩ := hbody a s hj
    rw [run_loop_yield hrun]
    exact ih hj'

/-- A loop that returned does the same when it is allowed more rounds. -/
theorem run_loop_le {n m : ℕ} (hnm : n ≤ m) {a b : α} {s t : σ}
    (h : (loop e body n a).run s = (.ok b, t)) : (loop e body m a).run s = (.ok b, t) := by
  induction n generalizing m a s with
  | zero => simp [loop] at h
  | succ n ih =>
    obtain ⟨m, rfl⟩ : ∃ m', m = m' + 1 := ⟨m - 1, by omega⟩
    obtain ⟨r, u, hrun, hrest⟩ := run_bind_eq_ok.mp h
    cases r with
    | yield a' =>
      rw [run_loop_yield hrun]
      exact ih (by omega) hrest
    | done a' =>
      rw [run_loop_done hrun]
      exact hrest

/-- A loop that returned kept the assertion of its body up to the round that ended it. -/
theorem run_loop_ok
    (hbody : ∀ a s r t, J a s → (body a).run s = (.ok r, t) → Round J Q r t)
    {n : ℕ} {a b : α} {s t : σ} (hj : J a s) (h : (loop e body n a).run s = (.ok b, t)) :
    Q b t := by
  induction n generalizing a s with
  | zero => simp [loop] at h
  | succ n ih =>
    obtain ⟨r, t', hrun, hrest⟩ := run_bind_eq_ok.mp h
    have hround := hbody a s r t' hj hrun
    cases r with
    | yield a' => exact ih hround hrest
    | done a' =>
      simp only [run_ret, Prod.mk.injEq, Except.ok.injEq] at hrest
      obtain ⟨rfl, rfl⟩ := hrest
      exact hround

end Loop

section ForEach

variable {e : ε} {body : γ → α → Program ε σ (ForInStep α)}

@[simp] theorem forEach_nil (a : α) : forEach body [] a = ret (.yield a) := rfl

theorem run_forEach_yield {c : γ} {cs : List γ} {a a' : α} {s t : σ}
    (h : (body c a).run s = (.ok (.yield a'), t)) :
    (forEach body (c :: cs) a).run s = (forEach body cs a').run t :=
  run_bind_ok h

theorem run_forEach_done {c : γ} {cs : List γ} {a a' : α} {s t : σ}
    (h : (body c a).run s = (.ok (.done a'), t)) :
    (forEach body (c :: cs) a).run s = (.ok (.done a'), t) :=
  run_bind_ok h

/-- A loop that came through some elements goes on with the rest. -/
theorem run_forEach_append {l l' : List γ} {a a' : α} {s t : σ}
    (h : (forEach body l a).run s = (.ok (.yield a'), t)) :
    (forEach body (l ++ l') a).run s = (forEach body l' a').run t := by
  induction l generalizing a s with
  | nil =>
    simp only [forEach_nil, run_ret, Prod.mk.injEq, Except.ok.injEq, ForInStep.yield.injEq] at h
    obtain ⟨rfl, rfl⟩ := h
    rfl
  | cons c cs ih =>
    obtain ⟨r, t', hrun, hrest⟩ := run_bind_eq_ok.mp h
    cases r with
    | yield a'' =>
      rw [List.cons_append, run_forEach_yield hrun]
      exact ih hrest
    | done a'' => simp at hrest

/-- A loop over a list whose rounds only write is a fold. -/
theorem run_forEach_of_write {body : γ → Unit → Program ε σ (ForInStep Unit)} {f : γ → σ → σ}
    (hbody : ∀ c s, (body c ()).run s = (.ok (.yield ()), f c s)) (l : List γ) (s : σ) :
    (forEach body l ()).run s = (.ok (.yield ()), l.foldl (fun s c => f c s) s) := by
  induction l generalizing s with
  | nil => rfl
  | cons c cs ih =>
    rw [run_forEach_yield (hbody c s), List.foldl_cons]
    exact ih _

/-- A loop over a list that returned kept the assertion of its body, which may depend on the
elements still to come. -/
theorem run_forEach_ok {J : List γ → α → σ → Prop} {Q : α → σ → Prop}
    (hbody : ∀ c cs a s r t, J (c :: cs) a s → (body c a).run s = (.ok r, t) →
      Round (J cs) Q r t)
    {l : List γ} {a : α} {s t : σ} {r : ForInStep α} (hj : J l a s)
    (h : (forEach body l a).run s = (.ok r, t)) : Round (J []) Q r t := by
  induction l generalizing a s with
  | nil =>
    simp only [forEach_nil, run_ret, Prod.mk.injEq, Except.ok.injEq] at h
    obtain ⟨rfl, rfl⟩ := h
    exact hj
  | cons c cs ih =>
    obtain ⟨r', t', hrun, hrest⟩ := run_bind_eq_ok.mp h
    have hround := hbody c cs a s r' t' hj hrun
    cases r' with
    | yield a' => exact ih hround hrest
    | done a' =>
      simp only [run_ret, Prod.mk.injEq, Except.ok.injEq] at hrest
      obtain ⟨rfl, rfl⟩ := hrest
      exact hround

end ForEach

/-! ## Among other threads -/

section Sat

variable {R : σ → σ → Prop} {I : σ → Prop} {e : ε}

theorem Round.stable {J Q : α → σ → Prop} (hJ : ∀ a, Stable R (J a)) (hQ : ∀ a, Stable R (Q a))
    (r : ForInStep α) : Stable R (Round J Q r) := by
  cases r with
  | yield a => exact hJ a
  | done a => exact hQ a

/-- The invariant of a loop among other threads; it holds as well when the rounds are used up. -/
theorem sat_loop {body : α → Program ε σ (ForInStep α)} {J Q : α → σ → Prop} (hI : Stable R I)
    (hQ : ∀ a, Stable R (Q a))
    (hbody : ∀ a s, I s → J a s → Sat R I (body a) (Round J Q) s)
    (n : ℕ) {a : α} {s : σ} (hi : I s) (hj : J a s) : Sat R I (loop e body n a) Q s := by
  induction n generalizing a s with
  | zero => exact sat_fail hI hi
  | succ n ih =>
    refine (hbody a s hi hj).seq fun r t hit hround => ?_
    cases r with
    | yield a' => exact ih hit hround
    | done a' => exact sat_ret hI (hQ a') hit hround

/-- The invariant of a loop over a list, which may depend on the elements still to come. -/
theorem sat_forEach {body : γ → α → Program ε σ (ForInStep α)} {J : List γ → α → σ → Prop}
    {Q : α → σ → Prop} (hI : Stable R I) (hJ : ∀ a, Stable R (J [] a)) (hQ : ∀ a, Stable R (Q a))
    (hbody : ∀ c cs a s, I s → J (c :: cs) a s → Sat R I (body c a) (Round (J cs) Q) s)
    {l : List γ} {a : α} {s : σ} (hi : I s) (hj : J l a s) :
    Sat R I (forEach body l a) (Round (J []) Q) s := by
  induction l generalizing a s with
  | nil => exact sat_ret hI (Round.stable hJ hQ _) hi hj
  | cons c cs ih =>
    refine (hbody c cs a s hi hj).seq fun r t hit hround => ?_
    cases r with
    | yield a' => exact ih hit hround
    | done a' => exact sat_ret hI (Round.stable hJ hQ _) hit hround

variable {G : σ → σ → Prop}

theorem guarantees_loop {body : α → Program ε σ (ForInStep α)}
    (hbody : ∀ a, Guarantees G (body a)) (n : ℕ) (a : α) : Guarantees G (loop e body n a) := by
  induction n generalizing a with
  | zero => trivial
  | succ n ih =>
    refine (hbody a).bind fun r => ?_
    cases r with
    | yield a' => exact ih a'
    | done a' => trivial

theorem guarantees_forEach {body : γ → α → Program ε σ (ForInStep α)} {l : List γ}
    (hbody : ∀ c ∈ l, ∀ a, Guarantees G (body c a)) (a : α) :
    Guarantees G (forEach body l a) := by
  induction l generalizing a with
  | nil => trivial
  | cons c cs ih =>
    obtain ⟨hc, hcs⟩ := List.forall_mem_cons.mp hbody
    refine (hc a).bind fun r => ?_
    cases r with
    | yield a' => exact ih hcs a'
    | done a' => trivial

end Sat

end Program

end Thread
