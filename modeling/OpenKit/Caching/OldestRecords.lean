import OpenKit.Caching.BeaconCache

/-!
# Eviction by number

Eviction by number removes the older one of the heads of the two active lists, as often as it is told, or
until both lists are empty. The number has 32 bits without a sign in the cache, and with a sign in the entry:
from `2 ^ 31` on it is negative there, and nothing is removed.

## Main definitions

* `BeaconCacheEntry.mergedHeads`: the active records in the order in which they are the older head
* `BeaconCache.EvictsOldest`: the first ones of these are removed, and nothing else is

## Main results

* `BeaconCacheEntry.removeOldestFrom_spec`: what is removed from the two lists
* `BeaconCache.evictsOldest_iff`: the numbers for which it works
-/

namespace OpenKit

namespace BeaconCacheEntry

/-- The timestamp of a record of either list. -/
def timestampOf : BeaconCacheRecord ⊕ BeaconCacheRecord → ℤ :=
  Sum.elim BeaconCacheRecord.timestamp BeaconCacheRecord.timestamp

/-- The merge of the events (to the left) and the actions (to the right) that always takes the head with
the smaller timestamp, and the event on equal timestamps. -/
def mergedHeads (events actions : List BeaconCacheRecord) :
    List (BeaconCacheRecord ⊕ BeaconCacheRecord) :=
  List.merge (events.map .inl) (actions.map .inr) fun x y => timestampOf x ≤ timestampOf y

section MergedHeads

variable {event action : BeaconCacheRecord} {events actions : List BeaconCacheRecord}

@[simp] theorem mergedHeads_nil_left (actions : List BeaconCacheRecord) :
    mergedHeads [] actions = actions.map .inr := by
  rw [mergedHeads, List.map_nil, List.nil_merge]

@[simp] theorem mergedHeads_nil_right (events : List BeaconCacheRecord) :
    mergedHeads events [] = events.map .inl := by
  rw [mergedHeads, List.map_nil, List.merge_right]

theorem mergedHeads_of_lt (h : action.timestamp < event.timestamp) :
    mergedHeads (event :: events) (action :: actions) =
      .inr action :: mergedHeads (event :: events) actions := by
  have hle : ¬ timestampOf (.inl event) ≤ timestampOf (.inr action) := not_le.mpr h
  rw [mergedHeads, List.map_cons, List.map_cons, List.cons_merge_cons, if_neg (by simpa using hle)]
  rfl

theorem mergedHeads_of_le (h : event.timestamp ≤ action.timestamp) :
    mergedHeads (event :: events) (action :: actions) =
      .inl event :: mergedHeads events (action :: actions) := by
  have hle : timestampOf (.inl event) ≤ timestampOf (.inr action) := h
  rw [mergedHeads, List.map_cons, List.map_cons, List.cons_merge_cons, if_pos (by simpa using hle)]
  rfl

/-- The records of a merge that are in the first list. -/
def eventsIn (records : List (BeaconCacheRecord ⊕ BeaconCacheRecord)) : List BeaconCacheRecord :=
  records.filterMap Sum.getLeft?

def actionsIn (records : List (BeaconCacheRecord ⊕ BeaconCacheRecord)) : List BeaconCacheRecord :=
  records.filterMap Sum.getRight?

end MergedHeads

/-- **What is removed** from the two lists: the first ones of the merge. The rest is kept in order. -/
theorem removeOldestFrom_spec (n : ℕ) (events actions : List BeaconCacheRecord) :
    events = eventsIn ((mergedHeads events actions).take n) ++ (removeOldestFrom n events actions).2.1 ∧
      actions =
        actionsIn ((mergedHeads events actions).take n) ++ (removeOldestFrom n events actions).2.2 := by
  unfold eventsIn actionsIn
  -- one case for each round of the loop
  fun_induction removeOldestFrom n events actions with
  | case1 events actions => exact ⟨rfl, rfl⟩
  | case2 n => exact ⟨by simp, by simp⟩
  | case3 n action actions rest ih =>
    simp only [mergedHeads_nil_left] at ih ⊢
    exact ⟨ih.1, congrArg (action :: ·) ih.2⟩
  | case4 n event events rest ih =>
    simp only [mergedHeads_nil_right] at ih ⊢
    exact ⟨congrArg (event :: ·) ih.1, ih.2⟩
  | case5 n event events action actions h rest ih =>
    rw [mergedHeads_of_lt h]
    exact ⟨ih.1, congrArg (action :: ·) ih.2⟩
  | case6 n event events action actions h rest ih =>
    rw [mergedHeads_of_le (not_lt.mp h)]
    exact ⟨congrArg (event :: ·) ih.1, ih.2⟩

/-- The number of active records. -/
def numActive (e : BeaconCacheEntry) : ℕ := e.eventData.length + e.actionData.length

/-- The first records of the merge are removed, the rest of the active lists is kept in order, and the lists
being sent are unchanged. -/
structure RemovesHeads (numRecords : ℕ) (e e' : BeaconCacheEntry) : Prop where
  eventData : e.eventData =
    eventsIn ((mergedHeads e.eventData e.actionData).take numRecords) ++ e'.eventData
  actionData : e.actionData =
    actionsIn ((mergedHeads e.eventData e.actionData).take numRecords) ++ e'.actionData
  eventDataBeingSent : e'.eventDataBeingSent = e.eventDataBeingSent
  actionDataBeingSent : e'.actionDataBeingSent = e.actionDataBeingSent

theorem length_mergedHeads (events actions : List BeaconCacheRecord) :
    (mergedHeads events actions).length = events.length + actions.length := by
  rw [mergedHeads, (List.merge_perm_append _).length_eq, List.length_append, List.length_map,
    List.length_map]

/-- **An entry** removes as many heads as it has, at most. -/
theorem removeOldestRecords_spec (e : BeaconCacheEntry) (numRecords : ℤ) :
    (e.removeOldestRecords numRecords).1 = min numRecords.toNat e.numActive ∧
      RemovesHeads (min numRecords.toNat e.numActive) e (e.removeOldestRecords numRecords).2 := by
  have htake : (mergedHeads e.eventData e.actionData).take (min numRecords.toNat e.numActive) =
      (mergedHeads e.eventData e.actionData).take numRecords.toNat := by
    rw [numActive, ← length_mergedHeads, ← List.take_take, List.take_length]
  obtain ⟨hevents, hactions⟩ := removeOldestFrom_spec numRecords.toNat e.eventData e.actionData
  refine ⟨(removeOldestFrom_eq _ _ _).1, ⟨?_, ?_, rfl, rfl⟩⟩
  · rw [htake]
    exact hevents
  · rw [htake]
    exact hactions

end BeaconCacheEntry

namespace BeaconCache

/-- The oldest heads are removed, as many as there are at most, and their number is returned. -/
def EvictsOldest (c : BeaconCache) (k : BeaconKey) (numRecords : UInt32) : Prop :=
  (c.evictRecordsByNumber k numRecords.toNat).1 = min numRecords.toNat (c.entryAt k).numActive ∧
    (c.entryAt k).RemovesHeads (min numRecords.toNat (c.entryAt k).numActive)
      ((c.evictRecordsByNumber k numRecords.toNat).2.entryAt k)

variable {c : BeaconCache} {k : BeaconKey} {numRecords : UInt32}

theorem evictRecordsByNumber_of_some {entry : BeaconCacheEntry}
    (hentry : c.getCachedEntry k = some entry) (numRecords : ℕ) :
    c.evictRecordsByNumber k numRecords =
      ((entry.removeOldestRecords (toInt32 numRecords)).1,
        c.setEntry k (entry.removeOldestRecords (toInt32 numRecords)).2 0) := by
  rw [evictRecordsByNumber, hentry]

/-- The number that is returned. -/
theorem evictRecordsByNumber_fst (c : BeaconCache) (k : BeaconKey) (numRecords : ℕ) :
    (c.evictRecordsByNumber k numRecords).1 =
      ((c.entryAt k).removeOldestRecords (toInt32 numRecords)).1 := by
  cases hentry : c.getCachedEntry k with
  | none =>
    have hnew : BeaconCacheEntry.new.numActive = 0 := rfl
    rw [entryAt_of_none hentry, (BeaconCacheEntry.removeOldestRecords_spec _ _).1, hnew, Nat.min_zero,
      evictRecordsByNumber, hentry]
  | some entry =>
    -- for any pair: what the entry removes is not to be unfolded when the two sides are compared
    have hfst : ∀ removed : ℕ × BeaconCacheEntry,
        c.evictRecordsByNumber k numRecords = (removed.1, c.setEntry k removed.2 0) →
          (c.evictRecordsByNumber k numRecords).1 = removed.1 := by
      intro removed h
      rw [h]
    rw [entryAt_of_some hentry]
    exact hfst _ (evictRecordsByNumber_of_some hentry numRecords)

/-- The number in the entry: what is too large for its type removes nothing. -/
theorem toNat_toInt32 {n : ℕ} (h : n < 2 ^ 32) :
    (toInt32 n).toNat = if n < 2 ^ 31 then n else 0 := by
  unfold toInt32
  split
  · omega
  · omega

/-- **The numbers for which eviction works**: those below `2 ^ 31`, unless nothing is active. -/
theorem evictsOldest_iff (c : BeaconCache) (k : BeaconKey) (numRecords : UInt32) :
    c.EvictsOldest k numRecords ↔
      numRecords.toNat < 2 ^ 31 ∨ (c.entryAt k).eventData = [] ∧ (c.entryAt k).actionData = [] := by
  have hnumber := toNat_toInt32 numRecords.toNat_lt
  obtain ⟨hreturned, hremoves⟩ :=
    (c.entryAt k).removeOldestRecords_spec (toInt32 numRecords.toNat)
  have hnone : (c.entryAt k).numActive = 0 ↔
      (c.entryAt k).eventData = [] ∧ (c.entryAt k).actionData = [] := by
    rw [BeaconCacheEntry.numActive, Nat.add_eq_zero_iff, List.length_eq_zero_iff,
      List.length_eq_zero_iff]
  rw [EvictsOldest, evictRecordsByNumber_fst, entryAt_evictRecordsByNumber, if_pos rfl, ← hnone]
  rw [hnumber] at hreturned hremoves
  generalize numRecords.toNat = n at hreturned hremoves ⊢
  by_cases hsmall : n < 2 ^ 31
  · rw [if_pos hsmall] at hreturned hremoves
    exact iff_of_true ⟨hreturned, hremoves⟩ (.inl hsmall)
  · rw [if_neg hsmall, Nat.zero_min] at hreturned hremoves
    constructor
    · rintro ⟨hmin, -⟩
      rw [hreturned] at hmin
      omega
    · intro h
      have hactive := h.resolve_left hsmall
      rw [hactive, Nat.min_zero]
      exact ⟨hreturned, hremoves⟩

/-- **Two billion records** are to be evicted, and the only one is kept. -/
theorem not_evictsOldest_large :
    ¬ (empty.addEventData ⟨1, 0⟩ 0 (.ofAscii ['a'])).EvictsOldest ⟨1, 0⟩ 2147483648 := by
  rintro ⟨hreturned, -⟩
  exact absurd hreturned (by decide)

end BeaconCache

end OpenKit
