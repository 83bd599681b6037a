import Mathlib.Data.Nat.Notation
import Mathlib.Logic.Relation

/-!
# Programs of a thread over shared state

A program returns a value, stops with an error, or performs one atomic action on the shared
state and continues with what it read there. Run alone it is a state transformer; run among
other threads, whose steps a relation `R` describes, any number of their steps may fall
between two of its actions.

## Main definitions

* `Program ε σ α`: programs over the state `σ`, with errors `ε` and results `α`
* `Program.atomic`, `Program.read`, `Program.write`: the programs of one action
* `Program.run`: the program run alone
* `Program.Returns`: a program that stops with no error
* `Program.Reaches R`: the program run among threads that step by `R`
* `Program.runInterrupted`: the program run alone, but for one step of another thread

## Main results

* `Program.run_bind`: a sequence runs its parts one after the other
* `Program.reaches_of_run`, `Program.reaches_of_runInterrupted`: the run alone, or with one step of
  another thread, is one of the interleaved runs
-/

namespace Thread

variable {ε σ α β γ : Type}

/-- A thread's program: a result, an error, or one atomic action and what follows it. The
continuation reads the state the action found. -/
inductive Program (ε σ α : Type) : Type
  | ret (a : α)
  | fail (e : ε)
  | act (f : σ → σ) (k : σ → Program ε σ α)

namespace Program

/-- Sequencing: `p`, then `g` on its result. An error of `p` ends the whole. -/
def bind : Program ε σ α → (α → Program ε σ β) → Program ε σ β
  | ret a, g => g a
  | fail e, _ => fail e
  | act f k, g => act f fun s => (k s).bind g

instance : Monad (Program ε σ) where
  pure := ret
  bind := bind

@[simp] theorem pure_eq (a : α) : (pure a : Program ε σ α) = ret a := rfl

@[simp] theorem ret_bind (a : α) (g : α → Program ε σ β) : (ret a >>= g) = g a := rfl

@[simp] theorem fail_bind (e : ε) (g : α → Program ε σ β) :
    ((fail e : Program ε σ α) >>= g) = fail e := rfl

theorem act_bind (f : σ → σ) (k : σ → Program ε σ α) (g : α → Program ε σ β) :
    (act f k >>= g) = act f fun s => k s >>= g := rfl

theorem bind_ret (p : Program ε σ α) : (p >>= ret) = p := by
  induction p with
  | ret a => rfl
  | fail e => rfl
  | act f k ih => rw [act_bind]; exact congrArg _ (funext ih)

theorem bind_assoc' (p : Program ε σ α) (g : α → Program ε σ β) (h : β → Program ε σ γ) :
    (p >>= g) >>= h = p >>= fun a => g a >>= h := by
  induction p with
  | ret a => rfl
  | fail e => rfl
  | act f k ih => rw [act_bind, act_bind, act_bind]; exact congrArg _ (funext ih)

instance : LawfulMonad (Program ε σ) :=
  LawfulMonad.mk' _ (fun p => bind_ret p) (fun _ _ => rfl) bind_assoc'

/-- One atomic action with a result. -/
def atomic (f : σ → α × σ) : Program ε σ α := act (fun s => (f s).2) fun s => ret (f s).1

/-- One atomic read. -/
def read (f : σ → α) : Program ε σ α := atomic fun s => (f s, s)

/-- One atomic update. -/
def write (f : σ → σ) : Program ε σ Unit := atomic fun s => ((), f s)

/-! ## The run alone -/

/-- The program run with no other thread: its result or error, and the state it leaves. -/
def run : Program ε σ α → σ → Except ε α × σ
  | ret a, s => (.ok a, s)
  | fail e, s => (.error e, s)
  | act f k, s => (k s).run (f s)

@[simp] theorem run_ret (a : α) (s : σ) : (ret a : Program ε σ α).run s = (.ok a, s) := rfl

@[simp] theorem run_fail (e : ε) (s : σ) :
    (fail e : Program ε σ α).run s = (.error e, s) := rfl

@[simp] theorem run_atomic (f : σ → α × σ) (s : σ) :
    (atomic f : Program ε σ α).run s = (.ok (f s).1, (f s).2) := rfl

@[simp] theorem run_read (f : σ → α) (s : σ) :
    (read f : Program ε σ α).run s = (.ok (f s), s) := rfl

@[simp] theorem run_write (f : σ → σ) (s : σ) :
    (write f : Program ε σ Unit).run s = (.ok (), f s) := rfl

/-- A sequence runs its second part from where the first ended, if it returned. -/
theorem run_bind (p : Program ε σ α) (g : α → Program ε σ β) (s : σ) :
    (p >>= g).run s = match p.run s with
      | (.ok a, s') => (g a).run s'
      | (.error e, s') => (.error e, s') := by
  induction p generalizing s with
  | ret a => rfl
  | fail e => rfl
  | act f k ih => exact ih s (f s)

theorem run_bind_ok {p : Program ε σ α} {g : α → Program ε σ β} {s s' : σ} {a : α}
    (h : p.run s = (.ok a, s')) : (p >>= g).run s = (g a).run s' := by
  rw [run_bind, h]

theorem run_bind_error {p : Program ε σ α} {g : α → Program ε σ β} {s s' : σ} {e : ε}
    (h : p.run s = (.error e, s')) : (p >>= g).run s = (.error e, s') := by
  rw [run_bind, h]

/-- What only returns after a program leaves the state of that program. -/
theorem run_bind_ret (p : Program ε σ α) (g : α → β) (s : σ) :
    ((p >>= fun a => ret (g a)).run s).2 = (p.run s).2 := by
  rw [run_bind]
  rcases p.run s with ⟨e | a, t⟩ <;> rfl

/-- A sequence that returned ran its first part to a result. -/
theorem run_bind_eq_ok {p : Program ε σ α} {g : α → Program ε σ β} {s s' : σ} {b : β} :
    (p >>= g).run s = (.ok b, s') ↔
      ∃ a t, p.run s = (.ok a, t) ∧ (g a).run t = (.ok b, s') := by
  constructor
  · intro h
    rcases hp : p.run s with ⟨e | a, t⟩
    · rw [run_bind_error hp] at h
      simp at h
    · exact ⟨a, t, rfl, by rwa [run_bind_ok hp] at h⟩
  · rintro ⟨a, t, hp, hg⟩
    rwa [run_bind_ok hp]

/-- The program has no way to stop with an error. -/
def Returns : Program ε σ α → Prop
  | ret _ => True
  | fail _ => False
  | act _ k => ∀ s, Returns (k s)

theorem returns_atomic (f : σ → α × σ) : Returns (atomic f : Program ε σ α) := fun _ => trivial

theorem Returns.bind {p : Program ε σ α} {g : α → Program ε σ β} (hp : Returns p)
    (hg : ∀ a, Returns (g a)) : Returns (p >>= g) := by
  induction p with
  | ret a => exact hg a
  | fail e => exact hp.elim
  | act f k ih => exact fun s => ih s (hp s)

theorem Returns.run {p : Program ε σ α} (h : Returns p) (s : σ) :
    ∃ a t, p.run s = (.ok a, t) := by
  induction p generalizing s with
  | ret a => exact ⟨a, s, rfl⟩
  | fail e => exact h.elim
  | act f k ih => exact ih s (h s) (f s)

/-! ## The run among other threads -/

/-- One step of the whole: the program's next action, or a step of another thread. -/
inductive Step (R : σ → σ → Prop) : Program ε σ α × σ → Program ε σ α × σ → Prop
  | own (f : σ → σ) (k : σ → Program ε σ α) (s : σ) : Step R (act f k, s) (k s, f s)
  | other (p : Program ε σ α) {s s' : σ} (h : R s s') : Step R (p, s) (p, s')

/-- What the program and the state become after some steps of the whole. -/
def Reaches (R : σ → σ → Prop) : Program ε σ α × σ → Program ε σ α × σ → Prop :=
  Relation.ReflTransGen (Step R)

/-- The run alone is the interleaved run in which no other thread steps. -/
theorem reaches_of_run {R : σ → σ → Prop} {p : Program ε σ α} {s s' : σ} {a : α}
    (h : p.run s = (.ok a, s')) : Reaches R (p, s) (ret a, s') := by
  induction p generalizing s with
  | ret b =>
    simp only [run_ret, Prod.mk.injEq, Except.ok.injEq] at h
    rw [h.1, h.2]
    exact .refl
  | fail e => simp at h
  | act f k ih => exact .head (.own f k s) (ih s h)

/-- The program run alone, but for a change of the state by another thread after its first `n` actions. -/
def runInterrupted (g : σ → σ) : ℕ → Program ε σ α → σ → Except ε α × σ
  | n + 1, act f k, s => runInterrupted g n (k s) (f s)
  | _, p, s => p.run (g s)

/-- A run that is interrupted by a step of another thread is one of the interleaved runs. -/
theorem reaches_of_runInterrupted {R : σ → σ → Prop} {g : σ → σ} (hg : ∀ s, R s (g s)) {n : ℕ}
    {p : Program ε σ α} {s s' : σ} {a : α} (h : p.runInterrupted g n s = (.ok a, s')) :
    Reaches R (p, s) (ret a, s') := by
  induction n generalizing p s with
  | zero => exact .head (.other p (hg s)) (reaches_of_run h)
  | succ n ih =>
    cases p with
    | ret b => exact .head (.other _ (hg s)) (reaches_of_run h)
    | fail e => exact .head (.other _ (hg s)) (reaches_of_run h)
    | act f k => exact .head (.own f k s) (ih h)

end Program

end Thread
