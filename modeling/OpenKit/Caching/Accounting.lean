import OpenKit.Caching.BeaconCache
import OpenKit.Library.GuardedRun
import OpenKit.Library.Total

/-!
# Byte accounting of the cache

Each entry counts the bytes of its active records, and the cache counts the bytes of all entries.
Adding, sending, restoring and deleting keep both counters. The two evictions remove records and
leave the counter of the entry as it was, so they keep it only when the records they remove
carry no bytes; the counter of the cache stays the sum of the counters of the entries all the
same.

## Main definitions

* `BeaconCacheEntry.Accounted`, `BeaconCache.Accounted`: the counters are right
* `BeaconCache.EvictsNoBytes`: an operation removes no active record that carries bytes, unless
  it deletes the entry

## Main results

* `BeaconCache.Accounted.step_iff`: from a cache with right counters, an operation keeps them right iff it
  evicts no bytes
* `always_accounted_iff`: so does a whole sequence of operations from the empty cache
-/

namespace OpenKit

namespace BeaconCacheEntry

/-- The counter of the entry is the number of bytes of its active records. -/
def Accounted (e : BeaconCacheEntry) : Prop := e.totalNumBytes = e.activeBytes

instance (e : BeaconCacheEntry) : Decidable e.Accounted :=
  inferInstanceAs (Decidable (_ = _))

variable {e : BeaconCacheEntry}

theorem accounted_new : BeaconCacheEntry.new.Accounted := rfl

theorem Accounted.addEventData (h : e.Accounted) (record : BeaconCacheRecord) :
    (e.addEventData record).Accounted := by
  unfold Accounted activeBytes at h ⊢
  simp only [BeaconCacheEntry.addEventData, dataSize_append, dataSize_cons, dataSize_nil, h]
  omega

theorem Accounted.addActionData (h : e.Accounted) (record : BeaconCacheRecord) :
    (e.addActionData record).Accounted := by
  unfold Accounted activeBytes at h ⊢
  simp only [BeaconCacheEntry.addActionData, dataSize_append, dataSize_cons, dataSize_nil, h]
  omega

theorem accounted_copyDataForSending (e : BeaconCacheEntry) : e.copyDataForSending.Accounted := rfl

/-- Chunking touches the records being sent only. -/
theorem Accounted.getChunk (h : e.Accounted) (chunkPrefix : UTF8String) (maxSize : ℕ)
    (delimiter : UTF8String) : (e.getChunk chunkPrefix maxSize delimiter).2.Accounted := by
  unfold BeaconCacheEntry.getChunk
  split
  · exact h
  · exact h

theorem Accounted.removeDataMarkedForSending (h : e.Accounted) :
    e.removeDataMarkedForSending.Accounted := by
  rw [removeDataMarkedForSending_eq]
  exact h

theorem Accounted.resetDataMarkedForSending (h : e.Accounted) :
    e.resetDataMarkedForSending.Accounted := by
  rw [resetDataMarkedForSending_eq]
  unfold Accounted activeBytes at h ⊢
  simp only [dataSize_append, dataSize_map_unsetSending, h]
  omega

/-- Eviction by age leaves the counter, so it is right iff nothing with bytes was removed. -/
theorem Accounted.removeRecordsOlderThan_iff (h : e.Accounted) (minTimestamp : ℤ) :
    (e.removeRecordsOlderThan minTimestamp).2.Accounted ↔
      ∀ r ∈ e.olderThan minTimestamp, r.getDataSizeInBytes = 0 := by
  rw [← dataSize_eq_zero_iff, Accounted, removeRecordsOlderThan_activeBytes]
  change e.totalNumBytes = _ ↔ _
  rw [h]
  omega

theorem Accounted.removeOldestRecords_iff (h : e.Accounted) (numRecords : ℤ) :
    (e.removeOldestRecords numRecords).2.Accounted ↔
      ∀ r ∈ e.oldest numRecords, r.getDataSizeInBytes = 0 := by
  rw [← dataSize_eq_zero_iff, Accounted, removeOldestRecords_activeBytes]
  change e.totalNumBytes = _ ↔ _
  rw [h]
  omega

end BeaconCacheEntry

namespace BeaconCache

/-- The counter of each entry is the number of bytes of its active records, and the counter of
the cache is the sum of the counters of its entries. -/
def Accounted (c : BeaconCache) : Prop :=
  (∀ p ∈ c.beacons.entries, BeaconCacheEntry.Accounted p.2) ∧
    c.cacheSizeInBytes = AList.total (·.totalNumBytes) c.beacons

instance (c : BeaconCache) : Decidable c.Accounted :=
  inferInstanceAs (Decidable (_ ∧ _))

/-- The operation does not evict an active record that carries bytes: neither one older than the
timestamp given to eviction by age, nor one of the oldest that eviction by number takes. -/
def EvictsNoBytes (c : BeaconCache) : CacheOperation → Prop
  | .evictRecordsByAge k minTimestamp =>
    ∀ r ∈ (c.entryAt k).olderThan minTimestamp, r.getDataSizeInBytes = 0
  | .evictRecordsByNumber k numRecords =>
    ∀ r ∈ (c.entryAt k).oldest (toInt32 numRecords), r.getDataSizeInBytes = 0
  | _ => True

variable {c : BeaconCache}

theorem accounted_empty : empty.Accounted := by decide

theorem forall_entries_iff {P : BeaconCacheEntry → Prop} :
    (∀ p ∈ c.beacons.entries, P p.2) ↔ ∀ k e, c.getCachedEntry k = some e → P e := by
  constructor
  · intro h k e he
    exact h ⟨k, e⟩ (AList.mem_lookup_iff.mp he)
  · rintro h ⟨k, e⟩ hp
    exact h k e (AList.mem_lookup_iff.mpr hp)

theorem Accounted.entry (h : c.Accounted) {k : BeaconKey} {e : BeaconCacheEntry}
    (he : c.getCachedEntry k = some e) : e.Accounted :=
  forall_entries_iff.mp h.1 k e he

theorem Accounted.entryAt (h : c.Accounted) (k : BeaconKey) : (c.entryAt k).Accounted := by
  cases he : c.getCachedEntry k with
  | none =>
    rw [entryAt_of_none he]
    exact BeaconCacheEntry.accounted_new
  | some e =>
    rw [entryAt_of_some he]
    exact h.entry he

theorem lookup_total (c : BeaconCache) (k : BeaconKey) :
    ((c.beacons.lookup k).map (·.totalNumBytes)).getD 0 = (c.entryAt k).totalNumBytes := by
  unfold BeaconCache.entryAt getCachedEntry
  cases c.beacons.lookup k <;> rfl

/-- Replacing an entry and counting the difference keeps the counters right iff the new counter
of the entry is right. -/
theorem Accounted.setEntry_iff (h : c.Accounted) {k : BeaconKey} {e : BeaconCacheEntry} {n : ℤ}
    (hn : n = e.totalNumBytes - (c.entryAt k).totalNumBytes) :
    (c.setEntry k e n).Accounted ↔ e.Accounted := by
  have htotal : (c.setEntry k e n).cacheSizeInBytes =
      AList.total (·.totalNumBytes) (c.setEntry k e n).beacons := by
    simp only [setEntry]
    rw [AList.total_insert, lookup_total, h.2, hn]
    omega
  rw [Accounted, forall_entries_iff, and_iff_left htotal]
  constructor
  · intro hall
    exact hall k e (AList.lookup_insert c.beacons)
  · intro he k' e' he'
    by_cases hk : k' = k
    · subst hk
      obtain rfl : e = e' := Option.some.inj ((AList.lookup_insert c.beacons).symm.trans he')
      exact he
    · exact h.entry ((AList.lookup_insert_ne hk).symm.trans he')

theorem Accounted.addEventData (h : c.Accounted) (k : BeaconKey) (timestamp : ℤ)
    (data : UTF8String) : (c.addEventData k timestamp data).Accounted := by
  unfold BeaconCache.addEventData
  rw [getCachedEntryOrInsert_eq]
  refine (h.setEntry_iff ?_).mpr ((h.entryAt k).addEventData _)
  simp only [BeaconCacheEntry.addEventData]
  omega

theorem Accounted.addActionData (h : c.Accounted) (k : BeaconKey) (timestamp : ℤ)
    (data : UTF8String) : (c.addActionData k timestamp data).Accounted := by
  unfold BeaconCache.addActionData
  rw [getCachedEntryOrInsert_eq]
  refine (h.setEntry_iff ?_).mpr ((h.entryAt k).addActionData _)
  simp only [BeaconCacheEntry.addActionData]
  omega

theorem Accounted.deleteCacheEntry (h : c.Accounted) (k : BeaconKey) :
    (c.deleteCacheEntry k).Accounted := by
  unfold BeaconCache.deleteCacheEntry
  cases he : c.getCachedEntry k with
  | none => exact h
  | some e =>
    constructor
    · refine forall_entries_iff.mpr fun k' e' he' => ?_
      by_cases hk : k' = k
      · subst hk
        simp [getCachedEntry] at he'
      · exact h.entry ((AList.lookup_erase_ne hk).symm.trans he')
    · simp only
      rw [AList.total_erase, lookup_total, h.2, entryAt_of_some he]
      rfl

theorem Accounted.prepareDataForSending (h : c.Accounted) (k : BeaconKey) :
    (c.prepareDataForSending k).Accounted := by
  unfold BeaconCache.prepareDataForSending
  cases he : c.getCachedEntry k with
  | none => exact h
  | some e =>
    by_cases hn : e.needsDataCopyBeforeSending
    · simp only [hn, if_true]
      refine (h.setEntry_iff ?_).mpr e.accounted_copyDataForSending
      rw [entryAt_of_some he]
      simp [BeaconCacheEntry.copyDataForSending, BeaconCacheEntry.getTotalNumberOfBytes]
    · simp only [hn, Bool.false_eq_true, if_false]
      exact h

theorem Accounted.getNextBeaconChunk (h : c.Accounted) (k : BeaconKey) (chunkPrefix : UTF8String)
    (maxSize : ℤ) (delimiter : UTF8String) :
    (c.getNextBeaconChunk k chunkPrefix maxSize delimiter).2.Accounted := by
  unfold BeaconCache.getNextBeaconChunk
  cases he : c.getCachedEntry k with
  | none => exact h
  | some e =>
    refine (h.setEntry_iff ?_).mpr ((h.entry he).getChunk _ _ _)
    rw [entryAt_of_some he, BeaconCacheEntry.getChunk]
    split
    · simp
    · simp [BeaconCacheEntry.getNextChunk]

theorem Accounted.removeChunkedData (h : c.Accounted) (k : BeaconKey) :
    (c.removeChunkedData k).Accounted := by
  unfold BeaconCache.removeChunkedData
  cases he : c.getCachedEntry k with
  | none => exact h
  | some e =>
    refine (h.setEntry_iff ?_).mpr (h.entry he).removeDataMarkedForSending
    rw [entryAt_of_some he, BeaconCacheEntry.removeDataMarkedForSending_eq]
    simp

theorem Accounted.resetChunkedData (h : c.Accounted) (k : BeaconKey) :
    (c.resetChunkedData k).Accounted := by
  unfold BeaconCache.resetChunkedData
  cases he : c.getCachedEntry k with
  | none => exact h
  | some e =>
    refine (h.setEntry_iff ?_).mpr (h.entry he).resetDataMarkedForSending
    rw [entryAt_of_some he]
    rfl

theorem Accounted.evictRecordsByAge_iff (h : c.Accounted) (k : BeaconKey) (minTimestamp : ℤ) :
    (c.evictRecordsByAge k minTimestamp).2.Accounted ↔
      ∀ r ∈ (c.entryAt k).olderThan minTimestamp, r.getDataSizeInBytes = 0 := by
  unfold BeaconCache.evictRecordsByAge
  cases he : c.getCachedEntry k with
  | none =>
    rw [entryAt_of_none he]
    exact iff_of_true h (List.forall_mem_nil _)
  | some e =>
    rw [entryAt_of_some he, ← (h.entry he).removeRecordsOlderThan_iff minTimestamp]
    refine h.setEntry_iff ?_
    rw [entryAt_of_some he]
    simp [BeaconCacheEntry.removeRecordsOlderThan]

theorem Accounted.evictRecordsByNumber_iff (h : c.Accounted) (k : BeaconKey) (numRecords : ℕ) :
    (c.evictRecordsByNumber k numRecords).2.Accounted ↔
      ∀ r ∈ (c.entryAt k).oldest (toInt32 numRecords), r.getDataSizeInBytes = 0 := by
  cases he : c.getCachedEntry k with
  | none =>
    have hstep : (c.evictRecordsByNumber k numRecords).2 = c := by
      rw [evictRecordsByNumber, he]
    rw [hstep, entryAt_of_none he]
    refine iff_of_true h fun r hr => ?_
    simp [BeaconCacheEntry.oldest, BeaconCacheEntry.oldestFirst, BeaconCacheEntry.new] at hr
  | some e =>
    have hstep : (c.evictRecordsByNumber k numRecords).2 =
        c.setEntry k (e.removeOldestRecords (toInt32 numRecords)).2 0 := by
      rw [evictRecordsByNumber, he]
    rw [hstep, entryAt_of_some he, ← (h.entry he).removeOldestRecords_iff]
    refine h.setEntry_iff ?_
    rw [entryAt_of_some he, BeaconCacheEntry.removeOldestRecords_totalNumBytes, Int.sub_self]

/-- **One operation** keeps right counters right iff it evicts no bytes. -/
theorem Accounted.step_iff (h : c.Accounted) (op : CacheOperation) :
    (c.step op).Accounted ↔ c.EvictsNoBytes op := by
  cases op with
  | addEventData k timestamp data => exact iff_of_true (h.addEventData k timestamp data) trivial
  | addActionData k timestamp data => exact iff_of_true (h.addActionData k timestamp data) trivial
  | prepareDataForSending k => exact iff_of_true (h.prepareDataForSending k) trivial
  | getNextBeaconChunk k chunkPrefix maxSize delimiter =>
    exact iff_of_true (h.getNextBeaconChunk k chunkPrefix maxSize delimiter) trivial
  | removeChunkedData k => exact iff_of_true (h.removeChunkedData k) trivial
  | resetChunkedData k => exact iff_of_true (h.resetChunkedData k) trivial
  | evictRecordsByAge k minTimestamp => exact h.evictRecordsByAge_iff k minTimestamp
  | evictRecordsByNumber k numRecords => exact h.evictRecordsByNumber_iff k numRecords
  | deleteCacheEntry k => exact iff_of_true (h.deleteCacheEntry k) trivial

/-- Right counters along a run whose operations evict no bytes. -/
theorem accounted_of_guarded {ops : List CacheOperation}
    (h : Runs.Guarded step EvictsNoBytes empty ops) : Runs.Always step Accounted empty ops :=
  (Runs.always_iff_guarded (fun _ op h => h.step_iff op) accounted_empty ops).mpr h

/-- **Byte accounting**: along a sequence of operations from the empty cache the counters are
right in every state iff no operation evicts bytes. -/
theorem always_accounted_iff (ops : List CacheOperation) :
    Runs.Always step Accounted empty ops ↔ Runs.Guarded step EvictsNoBytes empty ops :=
  Runs.always_iff_guarded (fun _ op h => h.step_iff op) accounted_empty ops

/-- Evicting the one record of a beacon leaves its three bytes counted. -/
theorem not_always_accounted : ¬ ∀ ops, Runs.Always step Accounted empty ops := by
  intro h
  have hrun := h [.addEventData ⟨1, 0⟩ 10 (.ofAscii ['a', 'b', 'c']),
    .evictRecordsByNumber ⟨1, 0⟩ 1]
  exact absurd hrun.2.2.head (by decide)

end BeaconCache

end OpenKit
