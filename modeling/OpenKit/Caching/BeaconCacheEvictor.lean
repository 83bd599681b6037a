import OpenKit.Core.ThreadSynchronization

/-!
# The eviction thread

The eviction thread waits until a record has been added to the cache, runs the strategies, and waits again, until
it is told to stop. Records are added and the stop is requested by other threads at any time. Several records may be
added before the thread looks; then it runs the strategies once.

A stop is requested only of a thread that is alive. `stop` looks at the thread first, and takes the lock of the
evictor after that, so it is two methods, and the state counts the callers between them.

## Main definitions

* `BeaconCacheEvictor.methods`: what is done under the locks of the evictor and of its thread
* `BeaconCacheEvictor.isRecordPending`: a record was added since the strategies were started last
* `BeaconCacheEvictor.isStopped`: a stop was requested

## Main results

* `BeaconCacheEvictor.isRecordPending_iff`: when a record is pending, said of the calls that have returned
* `BeaconCacheEvictor.evicted_run`: no record is missed, no strategy is started for nothing or after a requested
  stop, and a stop is requested of a thread that is alive only
-/

namespace OpenKit

open Monitor

structure BeaconCacheEvictor where
  evictionThread : ThreadSurrogate
  stop : Bool
  recordAdded : Bool
  /-- How many callers of `stop` have found the thread alive, and have not got the lock yet. -/
  numStopping : ℕ
deriving DecidableEq, Repr

namespace BeaconCacheEvictor

inductive Call
  /-- The start of the thread, unless there is one. -/
  | start
  /-- The guard of `stop`. -/
  | stop
  /-- What `stop` does under the lock. -/
  | requestStop
  | isStopRequested
  | isAlive
  /-- A record has been added. -/
  | update
  /-- The part of `cacheEvictionLoopFunc` that waits for a record. -/
  | awaitRecord
  /-- The end of the thread. -/
  | threadStopped
deriving DecidableEq, Repr

inductive Reply
  | done
  | answer (value : Bool)
  | exitThread
  | executeStrategies
deriving DecidableEq, Repr

def new : BeaconCacheEvictor := ⟨⟨false, false⟩, false, false, 0⟩

def isAlive (e : BeaconCacheEvictor) : Bool :=
  e.evictionThread.isStarted && !e.evictionThread.isThreadStopped

/-- `requestStop` answers whether there was a caller between the guard and the lock. -/
def methods : Methods Call BeaconCacheEvictor Reply where
  ready call e :=
    match call with
    | .awaitRecord => !(!e.recordAdded && !e.stop)
    | _ => true
  deadline _ := none
  finish call e :=
    match call with
    | .start => (.done, { e with evictionThread.isStarted := true })
    | .stop => if e.isAlive then (.answer true, { e with numStopping := e.numStopping + 1 }) else (.answer false, e)
    | .requestStop =>
      if 0 < e.numStopping then (.answer true, { e with stop := true, numStopping := e.numStopping - 1 })
      else (.answer false, e)
    | .isStopRequested => (.answer e.stop, e)
    | .isAlive => (.answer e.isAlive, e)
    | .update => (.done, { e with recordAdded := true })
    | .awaitRecord =>
      if e.stop then (.exitThread, e) else (.executeStrategies, { e with recordAdded := false })
    | .threadStopped => (.done, { e with evictionThread.isThreadStopped := true })
  notifies call _ := call == .update || call == .requestStop

section Methods

variable (e : BeaconCacheEvictor)

@[simp] theorem ready_awaitRecord : methods.ready .awaitRecord e = !(!e.recordAdded && !e.stop) := rfl

@[simp] theorem isDue_eq (call : Call) (now : ℤ) : methods.isDue call now = false := rfl

@[simp] theorem finish_stop : methods.finish .stop e =
    if e.isAlive then (.answer true, { e with numStopping := e.numStopping + 1 }) else (.answer false, e) := rfl

@[simp] theorem finish_requestStop : methods.finish .requestStop e =
    if 0 < e.numStopping then (.answer true, { e with stop := true, numStopping := e.numStopping - 1 })
    else (.answer false, e) := rfl

@[simp] theorem finish_awaitRecord : methods.finish .awaitRecord e =
    if e.stop then (.exitThread, e) else (.executeStrategies, { e with recordAdded := false }) := rfl

end Methods

/-- Nothing but a record or a request to stop makes the eviction thread go on. -/
theorem signals : methods.Signals := by
  intro call e waiter hnotifies hready
  cases waiter with
  | awaitRecord =>
    cases call with
    | update => cases hnotifies
    | requestStop => cases hnotifies
    | stop =>
      rw [finish_stop] at hready
      split at hready
      · exact hready
      · exact hready
    | awaitRecord =>
      rw [finish_awaitRecord] at hready
      split at hready
      · exact hready
      next hstop => simp [hstop] at hready
    | start => exact hready
    | isStopRequested => exact hready
    | isAlive => exact hready
    | threadStopped => exact hready
  | _ => rfl

variable {τ : Type}

/-- The start of the strategies. -/
def isPass (r : Return τ Call BeaconCacheEvictor Reply) : Bool :=
  r.call == .awaitRecord && r.result == .executeStrategies

/-- A record was added since the strategies were started last. -/
def isRecordPending (returns : List (Return τ Call BeaconCacheEvictor Reply)) : Bool :=
  returns.foldl (fun isPending r => r.call == .update || !isPass r && isPending) false

/-- A call of `stop` that has found the thread alive. -/
def findsAlive (r : Return τ Call BeaconCacheEvictor Reply) : Bool :=
  r.call == .stop && r.result == .answer true

/-- A stop is requested. -/
def isStop (r : Return τ Call BeaconCacheEvictor Reply) : Bool :=
  r.call == .requestStop && r.result == .answer true

def isStopped (returns : List (Return τ Call BeaconCacheEvictor Reply)) : Bool := returns.any isStop

def isStarted (returns : List (Return τ Call BeaconCacheEvictor Reply)) : Bool :=
  returns.any fun r => r.call == .start

def isThreadStopped (returns : List (Return τ Call BeaconCacheEvictor Reply)) : Bool :=
  returns.any fun r => r.call == .threadStopped

/-- How many callers of `stop` are between the guard and the lock. -/
def numCallers (returns : List (Return τ Call BeaconCacheEvictor Reply)) : ℕ :=
  returns.countP findsAlive - returns.countP isStop

theorem isRecordPending_concat (returns : List (Return τ Call BeaconCacheEvictor Reply))
    (r : Return τ Call BeaconCacheEvictor Reply) :
    isRecordPending (returns ++ [r]) = (r.call == .update || !isPass r && isRecordPending returns) := by
  rw [isRecordPending, List.foldl_append]
  rfl

/-- **A record is pending** if it was added and no strategy was started after that. -/
theorem isRecordPending_iff (returns : List (Return τ Call BeaconCacheEvictor Reply)) :
    isRecordPending returns = true ↔
      ∃ before r after, returns = before ++ r :: after ∧ r.call = .update ∧
        ∀ r' ∈ after, isPass r' = false := by
  induction returns using List.reverseRecOn with
  | nil => exact iff_of_false Bool.false_ne_true (by simp)
  | append_singleton returns last ih =>
    rw [isRecordPending_concat, Bool.or_eq_true, beq_iff_eq, Bool.and_eq_true, Bool.not_eq_true', ih]
    constructor
    · rintro (hupdate | ⟨hpass, before, r, after, rfl, hupdate, hafter⟩)
      · exact ⟨returns, last, [], rfl, hupdate, List.forall_mem_nil _⟩
      · refine ⟨before, r, after ++ [last], by simp, hupdate, ?_⟩
        exact List.forall_mem_append.mpr ⟨hafter, List.forall_mem_singleton.mpr hpass⟩
    · rintro ⟨before, r, after, hreturns, hupdate, hafter⟩
      rcases List.eq_nil_or_concat after with rfl | ⟨after', last', rfl⟩
      · obtain ⟨-, hlast⟩ := List.append_inj' hreturns rfl
        rw [List.cons.injEq] at hlast
        rw [hlast.1]
        exact .inl hupdate
      · rw [List.concat_eq_append] at hreturns hafter
        rw [← List.cons_append, ← List.append_assoc] at hreturns
        obtain ⟨hinit, hlast⟩ := List.append_inj' hreturns rfl
        rw [List.cons.injEq] at hlast
        obtain ⟨hafter', hlast'⟩ := List.forall_mem_append.mp hafter
        rw [hlast.1]
        exact .inr ⟨hlast' _ (List.mem_singleton_self _), before, r, after', hinit, hupdate, hafter'⟩

/-- What some finished methods make of the evictor. -/
def told (returns : List (Return τ Call BeaconCacheEvictor Reply)) : BeaconCacheEvictor where
  evictionThread := ⟨isStarted returns, isThreadStopped returns⟩
  stop := isStopped returns
  recordAdded := isRecordPending returns
  numStopping := numCallers returns

/-- No more stops are requested than callers have found the thread alive. -/
def Balanced (returns : List (Return τ Call BeaconCacheEvictor Reply)) : Prop :=
  returns.countP isStop ≤ returns.countP findsAlive

/-- One more method. -/
theorem told_concat (returns : List (Return τ Call BeaconCacheEvictor Reply))
    (r : Return τ Call BeaconCacheEvictor Reply) :
    told (returns ++ [r]) =
      { evictionThread := ⟨isStarted returns || r.call == .start,
          isThreadStopped returns || r.call == .threadStopped⟩
        stop := isStopped returns || isStop r
        recordAdded := r.call == .update || !isPass r && isRecordPending returns
        numStopping := returns.countP findsAlive + (if findsAlive r then 1 else 0) -
          (returns.countP isStop + if isStop r then 1 else 0) } := by
  simp [told, isStarted, isThreadStopped, isStopped, isRecordPending_concat, numCallers, List.countP_append,
    List.countP_cons]

/-- One more method, which returns what it finds. -/
theorem told_finish {returns : List (Return τ Call BeaconCacheEvictor Reply)}
    {r : Return τ Call BeaconCacheEvictor Reply} (hbalanced : Balanced returns)
    (hresult : r.result = (methods.finish r.call (told returns)).1) :
    Balanced (returns ++ [r]) ∧ told (returns ++ [r]) = (methods.finish r.call (told returns)).2 := by
  obtain ⟨t, call, before, time, result⟩ := r
  dsimp only at hresult ⊢
  subst hresult
  unfold Balanced at hbalanced ⊢
  rw [told_concat, List.countP_append, List.countP_append]
  cases call with
  | stop =>
    rw [finish_stop]
    split
    · simp [findsAlive, isStop, isPass, beq_eq_decide, told, numCallers]
      omega
    · simp [findsAlive, isStop, isPass, beq_eq_decide, told, numCallers, hbalanced]
  | requestStop =>
    rw [finish_requestStop]
    split
    next hpast =>
      have hpast : 0 < returns.countP findsAlive - returns.countP isStop := hpast
      simp [findsAlive, isStop, isPass, beq_eq_decide, told, numCallers]
      omega
    next => simp [findsAlive, isStop, isPass, beq_eq_decide, told, numCallers, hbalanced]
  | awaitRecord =>
    rw [finish_awaitRecord]
    split
    · simp [findsAlive, isStop, isPass, beq_eq_decide, told, numCallers, hbalanced]
    · simp [findsAlive, isStop, isPass, beq_eq_decide, told, numCallers, hbalanced]
  | _ => simp [findsAlive, isStop, isPass, beq_eq_decide, told, numCallers, hbalanced, methods]

/-- What some methods have made of the evictor, each of which has found what those before left. -/
theorem after_eq {returns : List (Return τ Call BeaconCacheEvictor Reply)}
    (h : ∀ before r after, returns = before ++ r :: after →
      r.result = (methods.finish r.call (methods.after new (before.map Return.call))).1) :
    Balanced returns ∧ methods.after new (returns.map Return.call) = told returns := by
  induction returns using List.reverseRecOn with
  | nil => exact ⟨le_refl _, rfl⟩
  | append_singleton returns last ih =>
    obtain ⟨hbalanced, hbefore⟩ := ih fun before r after hreturns =>
      h before r (after ++ [last]) (by rw [hreturns, List.append_assoc, List.cons_append])
    have hresult := h returns last [] rfl
    rw [hbefore] at hresult
    obtain ⟨hbalanced', htold⟩ := told_finish hbalanced hresult
    refine ⟨hbalanced', ?_⟩
    rw [htold, ← hbefore, List.map_append, Methods.after, List.foldl_append]
    rfl

variable [DecidableEq τ]

/-- **The eviction thread** is not asleep while a record is pending or after a requested stop, and whoever wakes it
up finds it ready. It starts the strategies only if a record was added after the last start, and none after a
requested stop. A caller of `stop` goes on exactly if the thread was started and has not ended, and a stop is
requested only after that. -/
theorem evicted_run (now : ℤ) (acts : List (Act τ Call)) :
    (∀ t notified, (run methods new now acts).waiting t = some (.awaitRecord, notified) →
      isStopped (run methods new now acts).returns = true ∨
          isRecordPending (run methods new now acts).returns = true →
        notified = true ∧ ((run methods new now acts).step methods (.wake t)).waiting t = none) ∧
      ∀ (before after : List (Return τ Call BeaconCacheEvictor Reply))
        (r : Return τ Call BeaconCacheEvictor Reply),
        (run methods new now acts).returns = before ++ r :: after →
          (r.call = .awaitRecord →
            (isStopped before = true ∧ r.result = .exitThread ∨
              isStopped before = false ∧ isRecordPending before = true ∧ r.result = .executeStrategies)) ∧
          (r.call = .stop →
            r.result = .answer (isStarted before && !isThreadStopped before)) ∧
          (isStop r = true → ∃ r' ∈ before, findsAlive r' = true) := by
  have hordered := ordered_run (M := methods) new now acts
  -- the state that a call finds is told by what returned before it
  have hafter {before rest : List (Return τ Call BeaconCacheEvictor Reply)}
      (hreturns : (run methods new now acts).returns = before ++ rest) :
      Balanced before ∧ methods.after new (before.map Return.call) = told before := by
    refine after_eq ?_
    intro before' r' after' hbefore
    obtain ⟨hfound, hresult, -⟩ := hordered.returned before' r' (after' ++ rest)
      (by rw [hreturns, hbefore, List.append_assoc, List.cons_append])
    rw [← hfound]
    exact hresult
  constructor
  · intro t notified hwaiting hready
    refine released_of_ready signals hwaiting ?_
    rw [hordered.shared, (hafter (List.append_nil _).symm).2, ready_awaitRecord, told]
    rcases hready with hstopped | hpending
    · simp [hstopped]
    · simp [hpending]
  · intro before after r hreturns
    obtain ⟨hfound, hresult, hready⟩ := hordered.returned before r after hreturns
    rw [(hafter hreturns).2] at hfound
    rw [hfound] at hresult hready
    refine ⟨?_, ?_, ?_⟩
    · intro hcall
      rw [hcall, finish_awaitRecord] at hresult
      rw [hcall, ready_awaitRecord, isDue_eq, Bool.or_false] at hready
      have htold : (told before).stop = isStopped before := rfl
      rw [htold] at hresult hready
      cases hstopped : isStopped before with
      | true =>
        rw [hstopped, if_pos rfl] at hresult
        exact .inl ⟨rfl, hresult⟩
      | false =>
        rw [hstopped, if_neg Bool.false_ne_true] at hresult
        refine .inr ⟨rfl, ?_, hresult⟩
        simpa [told, hstopped] using hready
    · intro hcall
      rw [hresult, hcall, finish_stop]
      split
      next halive => exact congrArg Reply.answer halive.symm
      next halive => exact congrArg Reply.answer (Bool.eq_false_iff.mpr halive).symm
    · intro hstop
      obtain ⟨hcall, hanswer⟩ := Bool.and_eq_true_iff.mp hstop
      rw [eq_of_beq hcall, finish_requestStop] at hresult
      split at hresult
      next hpast =>
        -- there is a caller past the guard
        have hpast : 0 < before.countP findsAlive - before.countP isStop := hpast
        exact List.countP_pos_iff.mp (hpast.trans_le (Nat.sub_le _ _))
      next => exact absurd (hresult.symm.trans (eq_of_beq hanswer)) (by simp)

end BeaconCacheEvictor

end OpenKit
