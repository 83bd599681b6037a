import Mathlib.Data.List.Induction
import Mathlib.Logic.Function.Basic
import Mathlib.Order.Lattice

/-!
# Monitors

A monitor is a state with a mutex and a condition variable. A thread that calls a method gets the lock, and
waits until it finds that the method is ready or that its time is up; then the method is finished before the
lock is left. Threads that wait give the lock back, and get it again when they wake up, because they were
notified, because their time is up, or for no reason. What happens from getting the lock to giving it back is
one step.

The state is that of the finished methods one after the other, in the order in which they return. If every
method that makes another one ready notifies the waiting threads, no wake-up is lost: no thread is asleep in a
method that is ready.

## Main definitions

* `Monitor.Methods`: what the methods of a monitor do
* `Monitor.step`, `Monitor.run`: calls, wake-ups and the time
* `Monitor.Methods.Signals`: who makes a method ready notifies

## Main results

* `Monitor.ordered_run`: the state, and what each method has found
* `Monitor.not_ready_of_asleep`: no wake-up is lost
* `Monitor.released_of_ready`: a thread in a method that is ready returns when it wakes up
-/

/-- A finished call: what it found under the lock, when, and what it returned. -/
structure Monitor.Return (τ ι σ ρ : Type) where
  thread : τ
  call : ι
  before : σ
  time : ℤ
  result : ρ

/-- A monitor with its threads. A thread that waits in a method may have been notified. -/
structure Monitor (τ ι σ ρ : Type) where
  shared : σ
  now : ℤ
  waiting : τ → Option (ι × Bool)
  returns : List (Monitor.Return τ ι σ ρ)

namespace Monitor

/-- What the methods of a monitor do. -/
structure Methods (ι σ ρ : Type) where
  /-- Whether a method does not have to wait any more. -/
  ready : ι → σ → Bool
  /-- The time up to which it waits, if it does not wait forever. -/
  deadline : ι → Option ℤ
  finish : ι → σ → ρ × σ
  /-- Whether all waiting threads are notified. -/
  notifies : ι → σ → Bool

namespace Methods

variable {ι σ ρ : Type} (M : Methods ι σ ρ)

def isDue (call : ι) (now : ℤ) : Bool := (M.deadline call).any (· ≤ now)

/-- The state after some methods one after the other. -/
def after (s : σ) (calls : List ι) : σ := calls.foldl (fun s call => (M.finish call s).2) s

/-- **Who makes a method ready** notifies. -/
def Signals : Prop :=
  ∀ call s waiter, M.notifies call s = false → M.ready waiter (M.finish call s).2 = true →
    M.ready waiter s = true

end Methods

/-- What may happen. -/
inductive Act (τ ι : Type)
  | call (t : τ) (call : ι)
  /-- A thread wakes up, notified or not. -/
  | wake (t : τ)
  | tick (now : ℤ)

variable {τ ι σ ρ : Type}

def new (s : σ) (now : ℤ) : Monitor τ ι σ ρ := ⟨s, now, fun _ => none, []⟩

/-- All waiting threads are notified. -/
def notifyAll (waiting : τ → Option (ι × Bool)) : τ → Option (ι × Bool) :=
  fun t => (waiting t).map fun w => (w.1, true)

variable [DecidableEq τ] (M : Methods ι σ ρ)

/-- A thread has got the lock: it finishes the method, or goes to sleep. -/
def enter (m : Monitor τ ι σ ρ) (t : τ) (call : ι) : Monitor τ ι σ ρ :=
  if M.ready call m.shared || M.isDue call m.now then
    let waiting := Function.update m.waiting t none
    { m with
      shared := (M.finish call m.shared).2
      waiting := if M.notifies call m.shared then notifyAll waiting else waiting
      returns := m.returns ++ [⟨t, call, m.shared, m.now, (M.finish call m.shared).1⟩] }
  else { m with waiting := Function.update m.waiting t (some (call, false)) }

/-- A step. A thread that waits calls no method, and one that does not wait does not wake up. -/
def step (m : Monitor τ ι σ ρ) : Act τ ι → Monitor τ ι σ ρ
  | .call t call =>
    match m.waiting t with
    | none => m.enter M t call
    | some _ => m
  | .wake t =>
    match m.waiting t with
    | none => m
    | some (call, _) => m.enter M t call
  | .tick now => { m with now := max m.now now }

/-- The monitor after some steps, in any order. -/
def run (s : σ) (now : ℤ) (acts : List (Act τ ι)) : Monitor τ ι σ ρ :=
  acts.foldl (step M) (new s now)

/-! ## Invariants -/

variable {M}

/-- A step does nothing to the threads, or a thread gets the lock. -/
theorem step_cases (m : Monitor τ ι σ ρ) (act : Act τ ι) :
    (∃ now, m.step M act = { m with now := now }) ∨ ∃ t call, m.step M act = m.enter M t call := by
  cases act with
  | call t call =>
    rw [step]
    cases m.waiting t with
    | none => exact .inr ⟨t, call, rfl⟩
    | some waiting => exact .inl ⟨m.now, rfl⟩
  | wake t =>
    rw [step]
    cases m.waiting t with
    | none => exact .inl ⟨m.now, rfl⟩
    | some waiting => exact .inr ⟨t, waiting.1, rfl⟩
  | tick now => exact .inl ⟨max m.now now, rfl⟩

/-- **What holds at first and is kept by who gets the lock** holds always. -/
theorem run_induction {P : Monitor τ ι σ ρ → Prop} {s : σ} {now : ℤ} (hnew : P (new s now))
    (htime : ∀ m now, P m → P { m with now := now })
    (henter : ∀ m t call, P m → P (m.enter M t call)) (acts : List (Act τ ι)) :
    P (run M s now acts) := by
  unfold run
  induction acts using List.reverseRecOn with
  | nil => exact hnew
  | append_singleton acts act ih =>
    rw [List.foldl_append, List.foldl_cons, List.foldl_nil]
    rcases step_cases (M := M) (acts.foldl (step M) (new s now)) act with ⟨now', h⟩ | ⟨t, call, h⟩
    · rw [h]
      exact htime _ now' ih
    · rw [h]
      exact henter _ t call ih

/-! ## The order of the returns -/

/-- The state is that of the finished methods, and each of them has found that of those before. -/
structure Ordered (M : Methods ι σ ρ) (s : σ) (m : Monitor τ ι σ ρ) : Prop where
  shared : m.shared = M.after s (m.returns.map Return.call)
  returned : ∀ before r after, m.returns = before ++ r :: after →
    r.before = M.after s (before.map Return.call) ∧ r.result = (M.finish r.call r.before).1 ∧
      (M.ready r.call r.before || M.isDue r.call r.time) = true

theorem Ordered.enter {s : σ} {m : Monitor τ ι σ ρ} (h : Ordered M s m) (t : τ) (call : ι) :
    Ordered M s (m.enter M t call) := by
  unfold Monitor.enter
  split
  next hready =>
    constructor
    · dsimp only
      rw [List.map_append, Methods.after, List.foldl_append]
      exact congrArg (fun s => (M.finish call s).2) h.shared
    · intro before r after hreturns
      rcases List.append_eq_append_iff.mp hreturns with ⟨new, hbefore, hnew⟩ | ⟨old, hold, hrest⟩
      · -- it is the new one, or there would be one behind it
        cases new with
        | nil =>
          rw [List.nil_append, List.cons.injEq] at hnew
          rw [List.append_nil] at hbefore
          rw [← hnew.1, hbefore]
          exact ⟨h.shared, rfl, hready⟩
        | cons r' new => exact absurd hnew (by simp)
      · cases old with
        | nil =>
          rw [List.nil_append, List.cons.injEq] at hrest
          rw [List.append_nil] at hold
          rw [hrest.1, ← hold]
          exact ⟨h.shared, rfl, hready⟩
        | cons r' old =>
          rw [List.cons_append, List.cons.injEq] at hrest
          rw [hrest.1]
          exact h.returned before r' old hold
  next => exact ⟨h.shared, h.returned⟩

/-- **A run is in order**, whatever the order of its steps. -/
theorem ordered_run (s : σ) (now : ℤ) (acts : List (Act τ ι)) : Ordered M s (run M s now acts) := by
  refine run_induction ?_ ?_ ?_ acts
  · exact ⟨rfl, fun before r after h => absurd h (by simp [new])⟩
  · intro m now h
    exact ⟨h.shared, h.returned⟩
  · intro m t call h
    exact h.enter t call

/-! ## Wake-ups -/

/-- **No wake-up is lost**: no thread is asleep in a method that is ready. -/
theorem not_ready_of_asleep (hsignals : M.Signals) {s : σ} {now : ℤ} {acts : List (Act τ ι)} {t : τ}
    {call : ι} (h : (run M s now acts).waiting t = some (call, false)) :
    M.ready call (run M s now acts).shared = false := by
  refine run_induction (P := fun m => ∀ t call, m.waiting t = some (call, false) →
    M.ready call m.shared = false) ?_ ?_ ?_ acts t call h
  · intro t call h
    cases h
  · intro m now h
    exact h
  · intro m t call ih t' call' hasleep
    unfold enter at hasleep ⊢
    by_cases hready : (M.ready call m.shared || M.isDue call m.now) = true
    · rw [if_pos hready] at hasleep ⊢
      dsimp only at hasleep ⊢
      by_cases hnotifies : M.notifies call m.shared = true
      · -- nobody is asleep who was notified
        rw [if_pos hnotifies, notifyAll, Option.map_eq_some_iff] at hasleep
        obtain ⟨w, -, hw⟩ := hasleep
        exact absurd (Prod.mk.inj hw).2 (by simp)
      · rw [if_neg hnotifies, Function.update_apply] at hasleep
        by_cases ht : t' = t
        · rw [if_pos ht] at hasleep
          cases hasleep
        · rw [if_neg ht] at hasleep
          have hbefore := ih t' call' hasleep
          rw [Bool.not_eq_true] at hnotifies
          rw [← Bool.not_eq_true] at hbefore ⊢
          exact mt (hsignals call m.shared call' hnotifies) hbefore
    · rw [if_neg hready] at hasleep ⊢
      dsimp only at hasleep ⊢
      rw [Function.update_apply] at hasleep
      by_cases ht : t' = t
      · rw [if_pos ht, Option.some.injEq, Prod.mk.injEq] at hasleep
        rw [Bool.or_eq_true, not_or, Bool.not_eq_true] at hready
        rw [← hasleep.1]
        exact hready.1
      · rw [if_neg ht] at hasleep
        exact ih t' call' hasleep

/-- A thread that gets the lock of a method that is ready finishes it. -/
theorem waiting_enter_of_ready {m : Monitor τ ι σ ρ} {t : τ} {call : ι}
    (hready : (M.ready call m.shared || M.isDue call m.now) = true) :
    (m.enter M t call).waiting t = none := by
  rw [enter, if_pos hready]
  dsimp only
  split
  · rw [notifyAll, Function.update_self]
    rfl
  · exact Function.update_self t none m.waiting

/-- **A thread that wakes up** in a method that is ready, or whose time is up, returns. -/
theorem waiting_wake_of_ready {m : Monitor τ ι σ ρ} {t : τ} {call : ι} {notified : Bool}
    (hwaiting : m.waiting t = some (call, notified))
    (hready : (M.ready call m.shared || M.isDue call m.now) = true) :
    (m.step M (.wake t)).waiting t = none := by
  rw [step, hwaiting]
  exact waiting_enter_of_ready hready

/-- **A thread in a method that is ready** has been notified, and returns when it wakes up. -/
theorem released_of_ready (hsignals : M.Signals) {s : σ} {now : ℤ} {acts : List (Act τ ι)} {t : τ} {call : ι}
    {notified : Bool} (hwaiting : (run M s now acts).waiting t = some (call, notified))
    (hready : M.ready call (run M s now acts).shared = true) :
    notified = true ∧ ((run M s now acts).step M (.wake t)).waiting t = none := by
  constructor
  · cases notified with
    | true => rfl
    | false => exact absurd hready (by rw [not_ready_of_asleep hsignals hwaiting]; simp)
  · exact waiting_wake_of_ready hwaiting (by rw [hready, Bool.true_or])

/-- **A thread that calls** a method that is ready, or whose time is up, returns. -/
theorem waiting_call_of_ready {m : Monitor τ ι σ ρ} {t : τ} {call : ι} (hwaiting : m.waiting t = none)
    (hready : (M.ready call m.shared || M.isDue call m.now) = true) :
    (m.step M (.call t call)).waiting t = none := by
  rw [step, hwaiting]
  exact waiting_enter_of_ready hready

end Monitor
