import Mathlib.Algebra.Group.Nat.Units
import Mathlib.Data.List.Count
import OpenKit.Library.Monitor

/-!
# What threads wait with

A latch that is counted down, a sleep that can be interrupted, and a thread that can be joined. Each is a monitor,
and each call of the source is one of its methods. The time at which a thread stops waiting is an argument of the
call, whether the source computes it before it takes the lock, as `await` and `sleep` do, or under it, as `join`
does. That the time fits into the clock's own type is assumed.

## Main definitions

* `CountDownLatch`, `InterruptibleThreadSuspender`, `ThreadSurrogate`: the states, with their `methods`

## Main results

* `CountDownLatch.latched_run`: who waits for the latch returns when it has been counted down, and not before
* `InterruptibleThreadSuspender.interrupted_run`: nobody sleeps after a wake-up
* `ThreadSurrogate.joined_run`: one start succeeds, and who joins returns when the thread has stopped
-/

namespace OpenKit

open Monitor

variable {τ : Type} [DecidableEq τ]

/-! ## The latch -/

structure CountDownLatch where
  count : UInt32
deriving DecidableEq, Repr

namespace CountDownLatch

inductive Call
  | countDown
  | await
  | awaitUntil (waitUntil : ℤ)
deriving DecidableEq, Repr

/-- The count starts over below zero. -/
def countDown (l : CountDownLatch) : CountDownLatch := { l with count := l.count - 1 }

def methods : Methods Call CountDownLatch Unit where
  ready call l :=
    match call with
    | .countDown => true
    | .await => !(l.count > 0)
    | .awaitUntil _ => !(l.count > 0)
  deadline call :=
    match call with
    | .countDown => none
    | .await => none
    | .awaitUntil waitUntil => some waitUntil
  finish call l :=
    match call with
    | .countDown => ((), l.countDown)
    | .await => ((), l)
    | .awaitUntil _ => ((), l)
  notifies call l :=
    match call with
    | .countDown => l.countDown.count == 0
    | .await => false
    | .awaitUntil _ => false

/-- How often it was counted down. -/
def numCountDowns (returns : List (Return τ Call CountDownLatch Unit)) : ℕ :=
  (returns.map Return.call).count .countDown

theorem signals : methods.Signals := by
  intro call l waiter hnotifies hready
  cases call with
  | countDown =>
    cases waiter with
    | countDown => rfl
    | await => simp_all [methods]
    | awaitUntil waitUntil => simp_all [methods]
  | await => exact hready
  | awaitUntil waitUntil => exact hready

theorem toNat_countDown (l : CountDownLatch) :
    (l.countDown.count.toNat + 1) % 2 ^ 32 = l.count.toNat := by
  have hlt := l.count.toNat_lt
  rw [countDown, UInt32.toNat_sub]
  simp only [UInt32.reduceToNat]
  omega

/-- The count, up to its size. -/
theorem count_after (l : CountDownLatch) (calls : List Call) :
    ((methods.after l calls).count.toNat + calls.count .countDown) % 2 ^ 32 = l.count.toNat := by
  induction calls generalizing l with
  | nil => exact Nat.mod_eq_of_lt l.count.toNat_lt
  | cons call calls ih =>
    have hrest := ih (methods.finish call l).2
    cases call with
    | countDown =>
      have hfirst := toNat_countDown l
      rw [List.count_cons_self, ← hfirst, ← Nat.add_assoc, Nat.add_mod]
      exact congrArg (fun n => (n + 1 % 2 ^ 32) % 2 ^ 32) hrest
    | await => exact hrest
    | awaitUntil waitUntil => exact hrest

/-- A method that waits is ready when the count is zero. -/
theorem ready_iff {call : Call} (hcall : call ≠ .countDown) (l : CountDownLatch) :
    methods.ready call l = true ↔ l.count = 0 := by
  cases call with
  | countDown => exact absurd rfl hcall
  | await => simp [methods]
  | awaitUntil waitUntil => simp [methods]

/-- **Who waits for the latch** is released when it has been counted down as often as it was told, up to the size of
the count: nobody is asleep then, and whoever wakes up returns. Without a time to wait for, nobody has returned
before. -/
theorem latched_run (initial : UInt32) (now : ℤ) (acts : List (Act τ Call)) :
    ((run methods ⟨initial⟩ now acts).shared.count.toNat +
          numCountDowns (run methods ⟨initial⟩ now acts).returns) % 2 ^ 32 = initial.toNat ∧
      (∀ t call notified, (run methods ⟨initial⟩ now acts).waiting t = some (call, notified) →
        (run methods ⟨initial⟩ now acts).shared.count = 0 →
          notified = true ∧ ((run methods ⟨initial⟩ now acts).step methods (.wake t)).waiting t = none) ∧
      ∀ before r after, (run methods ⟨initial⟩ now acts).returns = before ++ r :: after →
        (r.call = .await → numCountDowns before % 2 ^ 32 = initial.toNat) ∧
        ∀ waitUntil, r.call = .awaitUntil waitUntil →
          numCountDowns before % 2 ^ 32 = initial.toNat ∨ waitUntil ≤ r.time := by
  have hordered := ordered_run (M := methods) ⟨initial⟩ now acts
  refine ⟨?_, ?_, ?_⟩
  · rw [hordered.shared]
    exact count_after _ _
  · intro t call notified hwaiting hcount
    have hready : methods.ready call (run methods ⟨initial⟩ now acts).shared = true := by
      by_cases hcall : call = .countDown
      · rw [hcall]
        rfl
      · exact (ready_iff hcall _).mpr hcount
    exact released_of_ready signals hwaiting hready
  · intro before r after hreturns
    obtain ⟨hbefore, -, hready⟩ := hordered.returned before r after hreturns
    have hcount := count_after ⟨initial⟩ (before.map Return.call)
    rw [← hbefore] at hcount
    have hreleased (hcall : r.call ≠ .countDown) (h : methods.ready r.call r.before = true) :
        numCountDowns before % 2 ^ 32 = initial.toNat := by
      rw [(ready_iff hcall _).mp h, UInt32.toNat_zero, Nat.zero_add] at hcount
      exact hcount
    rw [Bool.or_eq_true] at hready
    constructor
    · intro hcall
      refine hreleased (by rw [hcall]; simp) (hready.resolve_right ?_)
      rw [hcall]
      simp [methods, Methods.isDue]
    · intro waitUntil hcall
      refine hready.imp (hreleased (by rw [hcall]; simp)) ?_
      rw [hcall]
      simp [methods, Methods.isDue]

end CountDownLatch

/-! ## The sleep -/

structure InterruptibleThreadSuspender where
  signaled : Bool
deriving DecidableEq, Repr

namespace InterruptibleThreadSuspender

inductive Call
  | sleep (waitUntil : ℤ)
  | wakeup
deriving DecidableEq, Repr

def methods : Methods Call InterruptibleThreadSuspender Unit where
  ready call s :=
    match call with
    | .sleep _ => s.signaled
    | .wakeup => true
  deadline call :=
    match call with
    | .sleep waitUntil => some waitUntil
    | .wakeup => none
  finish call s :=
    match call with
    | .sleep _ => ((), s)
    | .wakeup => ((), { s with signaled := true })
  notifies call _ := call == .wakeup

theorem signals : methods.Signals := by
  intro call s waiter hnotifies hready
  cases call with
  | sleep waitUntil => exact hready
  | wakeup => cases hnotifies

/-- The signal is never taken back. -/
theorem signaled_after (s : InterruptibleThreadSuspender) (calls : List Call) :
    (methods.after s calls).signaled = (s.signaled || calls.contains .wakeup) := by
  induction calls generalizing s with
  | nil => exact (Bool.or_false _).symm
  | cons call calls ih =>
    refine (ih (methods.finish call s).2).trans ?_
    cases call with
    | sleep waitUntil => rfl
    | wakeup => simp [methods]

/-- **After a wake-up** nobody sleeps: a thread that is still waiting was notified and returns when it wakes up, and
a further sleep returns at once. Before it, a sleep takes its time. -/
theorem interrupted_run (now : ℤ) (acts : List (Act τ Call)) :
    (∀ r ∈ (run methods ⟨false⟩ now acts).returns, r.call = .wakeup → ∀ t,
      (∀ call notified, (run methods ⟨false⟩ now acts).waiting t = some (call, notified) →
        notified = true ∧ ((run methods ⟨false⟩ now acts).step methods (.wake t)).waiting t = none) ∧
      ∀ call, (run methods ⟨false⟩ now acts).waiting t = none →
        ((run methods ⟨false⟩ now acts).step methods (.call t call)).waiting t = none) ∧
      ∀ before r after waitUntil, (run methods ⟨false⟩ now acts).returns = before ++ r :: after →
        r.call = .sleep waitUntil → (∀ r' ∈ before, r'.call ≠ .wakeup) → waitUntil ≤ r.time := by
  have hordered := ordered_run (M := methods) ⟨false⟩ now acts
  constructor
  · intro r hr hwakeup t
    have hsignaled : (run methods ⟨false⟩ now acts).shared.signaled = true := by
      rw [hordered.shared, signaled_after, Bool.false_or, List.contains_iff_mem, ← hwakeup]
      exact List.mem_map_of_mem hr
    have hready (call : Call) : methods.ready call (run methods ⟨false⟩ now acts).shared = true := by
      cases call with
      | sleep waitUntil => exact hsignaled
      | wakeup => rfl
    constructor
    · intro call notified hwaiting
      exact released_of_ready signals hwaiting (hready call)
    · intro call hwaiting
      exact waiting_call_of_ready hwaiting (by rw [hready, Bool.true_or])
  · intro before r after waitUntil hreturns hcall hnone
    obtain ⟨hbefore, -, hready⟩ := hordered.returned before r after hreturns
    have hsignaled : r.before.signaled = false := by
      rw [hbefore, signaled_after, Bool.false_or, Bool.eq_false_iff, ne_eq, List.contains_iff_mem,
        List.mem_map]
      rintro ⟨r', hr', hcall'⟩
      exact hnone r' hr' hcall'
    rw [hcall, Bool.or_eq_true] at hready
    simpa [methods, Methods.isDue, hsignaled] using hready

end InterruptibleThreadSuspender

/-! ## The thread -/

structure ThreadSurrogate where
  /-- There is a thread. -/
  isStarted : Bool
  isThreadStopped : Bool
deriving DecidableEq, Repr

namespace ThreadSurrogate

inductive Call
  | start
  | join (waitUntil : ℤ)
  | isStarted
  | isAlive
  /-- The end of the thread. -/
  | threadStopped
deriving DecidableEq, Repr

/-- The results, where there is one. -/
def methods : Methods Call ThreadSurrogate (Option Bool) where
  ready call s :=
    match call with
    | .join _ => !s.isStarted || s.isThreadStopped
    | _ => true
  deadline call :=
    match call with
    | .join waitUntil => some waitUntil
    | _ => none
  finish call s :=
    match call with
    | .start => (some !s.isStarted, { s with isStarted := true })
    | .join _ => (some (if !s.isStarted then true else s.isThreadStopped), s)
    | .isStarted => (some s.isStarted, s)
    | .isAlive => (some (s.isStarted && !s.isThreadStopped), s)
    | .threadStopped => (none, { s with isThreadStopped := true })
  notifies call _ := call == .threadStopped

theorem signals : methods.Signals := by
  intro call s waiter hnotifies hready
  cases call with
  | start =>
    cases waiter with
    | join waitUntil =>
      have hstopped : s.isThreadStopped = true := hready
      simp [methods, hstopped]
    | _ => rfl
  | threadStopped => cases hnotifies
  | _ => exact hready

theorem after_eq (s : ThreadSurrogate) (calls : List Call) :
    methods.after s calls =
      ⟨s.isStarted || calls.contains .start, s.isThreadStopped || calls.contains .threadStopped⟩ := by
  induction calls generalizing s with
  | nil => exact (congrArg₂ ThreadSurrogate.mk (Bool.or_false _) (Bool.or_false _)).symm
  | cons call calls ih =>
    refine (ih (methods.finish call s).2).trans ?_
    cases call with
    | start => simp [methods]
    | threadStopped => simp [methods]
    | _ => rfl

/-- **One start succeeds**, the first one. Who joins is told whether the thread has stopped or has never been
started, or its time is up; and when it has stopped, nobody sleeps who has joined. -/
theorem joined_run (now : ℤ) (acts : List (Act τ Call)) :
    (∀ before r after, (run methods ⟨false, false⟩ now acts).returns = before ++ r :: after →
      (r.call = .start → (r.result = some true ↔ ∀ r' ∈ before, r'.call ≠ .start)) ∧
        (∀ waitUntil, r.call = .join waitUntil →
          (r.result = some true ↔
            (∀ r' ∈ before, r'.call ≠ .start) ∨ ∃ r' ∈ before, r'.call = .threadStopped) ∧
          (r.result ≠ some true → waitUntil ≤ r.time)) ∧
        (r.call = .isAlive → (r.result = some true ↔
          (∃ r' ∈ before, r'.call = .start) ∧ ∀ r' ∈ before, r'.call ≠ .threadStopped))) ∧
      ∀ r ∈ (run methods ⟨false, false⟩ now acts).returns, r.call = .threadStopped →
        ∀ t call notified, (run methods ⟨false, false⟩ now acts).waiting t = some (call, notified) →
          notified = true ∧
            ((run methods ⟨false, false⟩ now acts).step methods (.wake t)).waiting t = none := by
  have hordered := ordered_run (M := methods) ⟨false, false⟩ now acts
  constructor
  · intro before r after hreturns
    obtain ⟨hbefore, hresult, hready⟩ := hordered.returned before r after hreturns
    rw [after_eq, Bool.false_or, Bool.false_or] at hbefore
    rw [hbefore] at hresult hready
    have hcontains (call : Call) :
        (before.map Return.call).contains call = true ↔ ∃ r' ∈ before, r'.call = call := by
      rw [List.contains_iff_mem, List.mem_map]
    have hnone (call : Call) :
        (before.map Return.call).contains call = false ↔ ∀ r' ∈ before, r'.call ≠ call := by
      rw [← Bool.not_eq_true, hcontains]
      simp
    rw [hresult]
    refine ⟨?_, ?_, ?_⟩
    · intro hcall
      rw [hcall, ← hnone]
      simp [methods]
    · intro waitUntil hcall
      rw [hcall] at hready ⊢
      rw [← hnone, ← hcontains]
      generalize (before.map Return.call).contains .start = started at hready ⊢
      generalize (before.map Return.call).contains .threadStopped = stopped at hready ⊢
      cases started with
      | false => simp [methods]
      | true =>
        cases stopped with
        | false => simpa [methods, Methods.isDue] using hready
        | true => simp [methods]
    · intro hcall
      rw [hcall, ← hcontains, ← hnone]
      simp [methods]
  · intro r hr hstopped t call notified hwaiting
    refine released_of_ready signals hwaiting ?_
    have hmem : ((run methods ⟨false, false⟩ now acts).returns.map Return.call).contains
        .threadStopped = true := by
      rw [List.contains_iff_mem, ← hstopped]
      exact List.mem_map_of_mem hr
    rw [hordered.shared, after_eq, hmem]
    cases call with
    | join waitUntil => simp [methods]
    | _ => rfl

end ThreadSurrogate

end OpenKit
