import OpenKit.Caching.BeaconCache
import OpenKit.Library.Loop
import OpenKit.Library.Total

/-!
# Eviction by space

The strategy runs when the cache holds more bytes than the upper bound, and evicts one record of
each beacon in turn until the cache holds at most as many as the lower bound. Both loops read the
counter of the cache, which evictions by number do not lower: once started, the strategy does not
end.

## Main definitions

* `BeaconCacheConfiguration`: the bounds
* `SpaceEvictionStrategy.execute`: the strategy as a program of the eviction thread
* `Reclaims`: the strategy ends, with the cache within the lower bound or no active record left,
  and evicts nothing while the active records are within it

## Main results

* `execute_of_le_upperBound`: up to the upper bound the strategy does nothing
* `execute_diverges`: above it, the strategy uses up every bound on its rounds
* `reclaims_iff`: for an enabled configuration the strategy reclaims memory iff it has nothing to
  do
-/

namespace OpenKit

open Thread

/-- The bounds of the cache. -/
structure BeaconCacheConfiguration where
  cacheSizeLowerBound : ℤ
  cacheSizeUpperBound : ℤ
deriving Repr

/-- One call of `evictRecordsByNumber` by the strategy, with the bytes of the active records before
it. -/
structure Eviction where
  key : BeaconKey
  activeBytes : ℤ
  numRecordsRemoved : ℕ

/-- What the eviction thread works on: the cache, the request to stop, and the evictions made. -/
structure EvictionState where
  cache : BeaconCache
  stopRequested : Bool
  evictions : List Eviction

/-- A bounded loop ran out of its rounds. -/
inductive EvictionFault
  | outOfRounds
deriving DecidableEq, Repr

/-- The bytes of all active records. -/
def BeaconCache.activeBytes (c : BeaconCache) : ℤ := AList.total (·.activeBytes) c.beacons

namespace SpaceEvictionStrategy

variable (configuration : BeaconCacheConfiguration)

def isStrategyDisabled : Bool :=
  configuration.cacheSizeLowerBound ≤ 0 || configuration.cacheSizeUpperBound ≤ 0 ||
    configuration.cacheSizeUpperBound < configuration.cacheSizeLowerBound

def shouldRun (s : EvictionState) : Bool :=
  s.cache.getNumBytesInCache > configuration.cacheSizeUpperBound

def isStopRequested (s : EvictionState) : Bool := s.stopRequested

def isAboveLowerBound (s : EvictionState) : Bool :=
  s.cache.getNumBytesInCache > configuration.cacheSizeLowerBound

/-- Evicts one record of the beacon. -/
def evictOne (k : BeaconKey) (s : EvictionState) : EvictionState :=
  let removed := s.cache.evictRecordsByNumber k 1
  { s with
    cache := removed.2
    evictions := s.evictions ++ [⟨k, s.cache.activeBytes, removed.1⟩] }

/-- The inner loop, over the keys read before it. -/
def evictFromBeacons : List BeaconKey → Program EvictionFault EvictionState Unit
  | [] => pure ()
  | k :: ks => do
    if ← Program.read isStopRequested then return ()
    if ← Program.read (isAboveLowerBound configuration) then
      Program.write (evictOne k)
      evictFromBeacons ks

/-- A round of the outer loop. `order` is the order in which the set of keys is iterated. -/
def evictionRound (order : List BeaconKey → List BeaconKey) (_ : Unit) :
    Program EvictionFault EvictionState (ForInStep Unit) := do
  if ← Program.read isStopRequested then return .done ()
  if ← Program.read (isAboveLowerBound configuration) then
    let beaconKeys ← Program.read fun s => order s.cache.getBeaconKeys
    evictFromBeacons configuration beaconKeys
    return .yield ()
  else return .done ()

def doExecute (order : List BeaconKey → List BeaconKey) (rounds : ℕ) :
    Program EvictionFault EvictionState Unit :=
  Program.loop .outOfRounds (evictionRound configuration order) rounds ()

def execute (order : List BeaconKey → List BeaconKey) (rounds : ℕ) :
    Program EvictionFault EvictionState Unit := do
  if isStrategyDisabled configuration then return ()
  if ← Program.read (shouldRun configuration) then
    doExecute configuration order rounds

/-- The strategy ends. It did not run because the cache was within the upper bound, or it leaves
the cache within the lower bound, or it leaves no active record. Each record it evicted, it
evicted while the active records were above the lower bound. -/
def Reclaims (order : List BeaconKey → List BeaconKey) (s : EvictionState) : Prop :=
  ∃ rounds t, (execute configuration order rounds).run s = (.ok (), t) ∧
    (t = s ∧ s.cache.getNumBytesInCache ≤ configuration.cacheSizeUpperBound ∨
      t.cache.getNumBytesInCache ≤ configuration.cacheSizeLowerBound ∨
      ∀ k, (t.cache.entryAt k).eventData = [] ∧ (t.cache.entryAt k).actionData = []) ∧
    ∃ new, t.evictions = s.evictions ++ new ∧
      ∀ eviction ∈ new, 0 < eviction.numRecordsRemoved →
        configuration.cacheSizeLowerBound < eviction.activeBytes

variable {configuration} {order : List BeaconKey → List BeaconKey} {s : EvictionState}

/-! ## The counter during the eviction -/

@[simp] theorem evictRecordsByNumber_cacheSizeInBytes (c : BeaconCache) (k : BeaconKey) (n : ℕ) :
    (c.evictRecordsByNumber k n).2.cacheSizeInBytes = c.cacheSizeInBytes := by
  unfold BeaconCache.evictRecordsByNumber
  cases c.getCachedEntry k with
  | none => rfl
  | some entry => exact Int.add_zero _

/-- No stop is requested and the counter is still the same and above the lower bound. -/
def Above (configuration : BeaconCacheConfiguration) (size : ℤ) (s : EvictionState) : Prop :=
  s.stopRequested = false ∧ s.cache.cacheSizeInBytes = size ∧
    configuration.cacheSizeLowerBound < size

theorem Above.isAboveLowerBound {size : ℤ} (h : Above configuration size s) :
    isAboveLowerBound configuration s = true := by
  obtain ⟨-, hsize, hlt⟩ := h
  rw [← hsize] at hlt
  exact decide_eq_true hlt

theorem Above.evictOne {size : ℤ} (h : Above configuration size s) (k : BeaconKey) :
    Above configuration size (evictOne k s) :=
  ⟨h.1, (evictRecordsByNumber_cacheSizeInBytes s.cache k 1).trans h.2.1, h.2.2⟩

/-- The inner loop comes to the end of the keys, since it never sees the counter move. -/
theorem run_evictFromBeacons {size : ℤ} (ks : List BeaconKey) (h : Above configuration size s) :
    ∃ t, (evictFromBeacons configuration ks).run s = (.ok (), t) ∧
      Above configuration size t := by
  induction ks generalizing s with
  | nil => exact ⟨s, rfl, h⟩
  | cons k ks ih =>
    obtain ⟨t, hrun, ht⟩ := ih (h.evictOne k)
    refine ⟨t, ?_, ht⟩
    rw [evictFromBeacons, Program.run_bind_ok (Program.run_read isStopRequested s), isStopRequested,
      h.1]
    simp only [Bool.false_eq_true, if_false]
    rw [Program.run_bind_ok (Program.run_read (isAboveLowerBound configuration) s),
      h.isAboveLowerBound]
    simp only [if_true]
    rw [Program.run_bind_ok (Program.run_write (evictOne k) s)]
    exact hrun

theorem run_evictionRound {size : ℤ} (h : Above configuration size s) :
    ∃ t, (evictionRound configuration order ()).run s = (.ok (.yield ()), t) ∧
      Above configuration size t := by
  obtain ⟨t, hrun, ht⟩ := run_evictFromBeacons (order s.cache.getBeaconKeys) h
  refine ⟨t, ?_, ht⟩
  rw [evictionRound, Program.run_bind_ok (Program.run_read isStopRequested s), isStopRequested, h.1]
  simp only [Bool.false_eq_true, if_false]
  rw [Program.run_bind_ok (Program.run_read (isAboveLowerBound configuration) s),
    h.isAboveLowerBound]
  simp only [if_true]
  rw [Program.run_bind_ok (Program.run_read _ s), Program.run_bind_ok hrun]
  rfl

/-! ## The strategy -/

/-- Within the upper bound the strategy does nothing. -/
theorem execute_of_le_upperBound (rounds : ℕ)
    (h : s.cache.getNumBytesInCache ≤ configuration.cacheSizeUpperBound) :
    (execute configuration order rounds).run s = (.ok (), s) := by
  have hrun : shouldRun configuration s = false := decide_eq_false (not_lt.mpr h)
  unfold execute
  split
  · rfl
  · rw [Program.run_bind_ok (Program.run_read (shouldRun configuration) s), hrun]
    rfl

/-- Above the upper bound an enabled strategy uses up every bound on its rounds. -/
theorem execute_diverges (rounds : ℕ) (henabled : isStrategyDisabled configuration = false)
    (hstop : s.stopRequested = false)
    (h : configuration.cacheSizeUpperBound < s.cache.getNumBytesInCache) :
    ∃ t, (execute configuration order rounds).run s = (.error .outOfRounds, t) := by
  have hrun : shouldRun configuration s = true := decide_eq_true h
  have habove : Above configuration s.cache.cacheSizeInBytes s := by
    simp only [isStrategyDisabled, Bool.or_eq_false_iff, decide_eq_false_iff_not] at henabled
    have hle := not_lt.mp henabled.2
    exact ⟨hstop, rfl, lt_of_le_of_lt hle h⟩
  rw [execute, henabled]
  simp only [Bool.false_eq_true, if_false]
  rw [Program.run_bind_ok (Program.run_read (shouldRun configuration) s), hrun]
  simp only [if_true]
  exact Program.run_loop_diverges
    (J := fun _ => Above configuration s.cache.cacheSizeInBytes)
    (fun _ t ht => ⟨(), run_evictionRound ht⟩) rounds habove

/-- **Reclaiming memory**: with no stop requested, an enabled strategy ends as documented iff the
cache is within the upper bound, so that there is nothing to do. -/
theorem reclaims_iff (henabled : isStrategyDisabled configuration = false)
    (hstop : s.stopRequested = false) :
    Reclaims configuration order s ↔
      s.cache.getNumBytesInCache ≤ configuration.cacheSizeUpperBound := by
  constructor
  · rintro ⟨rounds, t, hrun, -⟩
    by_contra h
    obtain ⟨t', hrun'⟩ : ∃ t', (execute configuration order rounds).run s =
        (.error .outOfRounds, t') := execute_diverges rounds henabled hstop (not_le.mp h)
    rw [hrun'] at hrun
    simp at hrun
  · intro h
    refine ⟨0, s, execute_of_le_upperBound 0 h, .inl ⟨rfl, h⟩, [], ?_, ?_⟩
    · rw [List.append_nil]
    · simp

/-- A cache of one record of three bytes. -/
def oneRecord : EvictionState :=
  ⟨BeaconCache.empty.addEventData ⟨1, 0⟩ 10 (.ofAscii ['a', 'b', 'c']), false, []⟩

theorem reclaims_iff_oneRecord : Reclaims ⟨2, 3⟩ id oneRecord :=
  (reclaims_iff (by decide) rfl).mpr (by decide)

/-- With an upper bound of two bytes the strategy evicts the record and goes on for ever. -/
theorem not_reclaims : ¬ ∀ configuration order s, isStrategyDisabled configuration = false →
    s.stopRequested = false → Reclaims configuration order s := by
  intro h
  obtain ⟨rounds, t, hrun, -⟩ := h ⟨1, 2⟩ id oneRecord (by decide) rfl
  obtain ⟨t', hrun'⟩ : ∃ t', (execute ⟨1, 2⟩ id rounds).run oneRecord =
      (.error .outOfRounds, t') := execute_diverges rounds (by decide) rfl (by decide)
  rw [hrun'] at hrun
  simp at hrun

end SpaceEvictionStrategy

end OpenKit
