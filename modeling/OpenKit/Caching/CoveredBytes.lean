import OpenKit.Caching.Accounting

/-!
# Counters that evictions leave too large

The evictions take records and leave the counter of the entry, so a counter may count bytes that are
gone. It never counts too few: an entry with a record that carries bytes has a counter that is not
zero, whatever was done to the cache before.

## Main definitions

* `BeaconCacheEntry.Covered`, `BeaconCache.Covered`: no counter is smaller than the bytes it counts

## Main results

* `BeaconCache.Covered.step`: every operation of the cache keeps the counters large enough
* `BeaconCache.Covered.isEmpty_eq_false`: an entry with a record that carries bytes is not empty
-/

namespace OpenKit

namespace BeaconCacheEntry

/-- The counter of the entry is at least the number of bytes of its active records. -/
def Covered (e : BeaconCacheEntry) : Prop := e.activeBytes ≤ e.totalNumBytes

variable {e : BeaconCacheEntry}

theorem Accounted.covered (h : e.Accounted) : e.Covered := h.ge

theorem Covered.addEventData (h : e.Covered) (record : BeaconCacheRecord) :
    (e.addEventData record).Covered := by
  unfold Covered activeBytes at h ⊢
  simp only [BeaconCacheEntry.addEventData, dataSize_append, dataSize_cons, dataSize_nil]
  omega

theorem Covered.addActionData (h : e.Covered) (record : BeaconCacheRecord) :
    (e.addActionData record).Covered := by
  unfold Covered activeBytes at h ⊢
  simp only [BeaconCacheEntry.addActionData, dataSize_append, dataSize_cons, dataSize_nil]
  omega

theorem Covered.getChunk (h : e.Covered) (chunkPrefix : UTF8String) (maxSize : ℕ)
    (delimiter : UTF8String) : (e.getChunk chunkPrefix maxSize delimiter).2.Covered := by
  unfold BeaconCacheEntry.getChunk
  split
  · exact h
  · exact h

theorem Covered.removeDataMarkedForSending (h : e.Covered) :
    e.removeDataMarkedForSending.Covered := by
  rw [removeDataMarkedForSending_eq]
  exact h

theorem Covered.resetDataMarkedForSending (h : e.Covered) :
    e.resetDataMarkedForSending.Covered := by
  rw [resetDataMarkedForSending_eq]
  unfold Covered activeBytes at h ⊢
  simp only [dataSize_append, dataSize_map_unsetSending]
  omega

/-- The evictions lower the number of bytes only. -/
theorem Covered.removeRecordsOlderThan (h : e.Covered) (minTimestamp : ℤ) :
    (e.removeRecordsOlderThan minTimestamp).2.Covered := by
  have hremoved := dataSize_nonneg (e.olderThan minTimestamp)
  rw [Covered, removeRecordsOlderThan_activeBytes]
  calc e.activeBytes - dataSize (e.olderThan minTimestamp) ≤ e.activeBytes := by omega
    _ ≤ e.totalNumBytes := h

theorem Covered.removeOldestRecords (h : e.Covered) (numRecords : ℤ) :
    (e.removeOldestRecords numRecords).2.Covered := by
  have hremoved := dataSize_nonneg (e.oldest numRecords)
  rw [Covered, removeOldestRecords_activeBytes, removeOldestRecords_totalNumBytes]
  calc e.activeBytes - dataSize (e.oldest numRecords) ≤ e.activeBytes := by omega
    _ ≤ e.totalNumBytes := h

end BeaconCacheEntry

namespace BeaconCache

/-- The counter of each entry is at least the number of bytes of its active records. -/
def Covered (c : BeaconCache) : Prop := ∀ k, (c.entryAt k).Covered

variable {c : BeaconCache}

theorem covered_empty : empty.Covered := fun _ => BeaconCacheEntry.accounted_new.covered

theorem Accounted.covered (h : c.Accounted) : c.Covered := fun k => (h.entryAt k).covered

/-- A change of one entry. -/
theorem Covered.of_entryAt (h : c.Covered) {c' : BeaconCache} {k : BeaconKey}
    {e : BeaconCacheEntry} (he : e.Covered)
    (hentry : ∀ k', c'.entryAt k' = if k' = k then e else c.entryAt k') : c'.Covered := by
  intro k'
  rw [hentry]
  split
  · exact he
  · exact h k'

/-- **Every operation** of the cache keeps the counters large enough. -/
theorem Covered.step (h : c.Covered) (op : CacheOperation) : (c.step op).Covered := by
  cases op with
  | addEventData k timestamp data =>
    exact h.of_entryAt ((h k).addEventData _) fun _ => entryAt_addEventData timestamp data
  | addActionData k timestamp data =>
    exact h.of_entryAt ((h k).addActionData _) fun _ => entryAt_addActionData timestamp data
  | prepareDataForSending k =>
    refine h.of_entryAt ?_ fun _ => entryAt_prepareDataForSending
    split
    · exact (c.entryAt k).accounted_copyDataForSending.covered
    · exact h k
  | getNextBeaconChunk k chunkPrefix maxSize delimiter =>
    exact h.of_entryAt ((h k).getChunk _ _ _) fun _ => entryAt_getNextBeaconChunk _ _ _
  | removeChunkedData k =>
    exact h.of_entryAt (h k).removeDataMarkedForSending fun _ => entryAt_removeChunkedData
  | resetChunkedData k =>
    exact h.of_entryAt (h k).resetDataMarkedForSending fun _ => entryAt_resetChunkedData
  | evictRecordsByAge k minTimestamp =>
    exact h.of_entryAt ((h k).removeRecordsOlderThan _) fun _ => entryAt_evictRecordsByAge _
  | evictRecordsByNumber k numRecords =>
    exact h.of_entryAt ((h k).removeOldestRecords _) fun _ => entryAt_evictRecordsByNumber _
  | deleteCacheEntry k =>
    exact h.of_entryAt BeaconCacheEntry.accounted_new.covered fun _ => entryAt_deleteCacheEntry

/-- **An entry with a record** that carries bytes is not empty. -/
theorem Covered.isEmpty_eq_false (h : c.Covered) {k : BeaconKey} {kind : RecordKind}
    {r : BeaconCacheRecord} (hr : r ∈ (c.entryAt k).active kind) (hsize : 0 < r.getDataSizeInBytes) :
    c.isEmpty k = false := by
  have hevents := dataSize_nonneg (c.entryAt k).eventData
  have hactions := dataSize_nonneg (c.entryAt k).actionData
  have hkind : dataSize ((c.entryAt k).active kind) ≠ 0 := fun hzero =>
    hsize.ne' (dataSize_eq_zero_iff.mp hzero r hr)
  have hcovered : (c.entryAt k).activeBytes ≤ (c.entryAt k).totalNumBytes := h k
  have hbytes : 0 < (c.entryAt k).activeBytes := by
    unfold BeaconCacheEntry.activeBytes
    cases kind with
    | event =>
      have hevents' : dataSize (c.entryAt k).eventData ≠ 0 := hkind
      omega
    | action =>
      have hactions' : dataSize (c.entryAt k).actionData ≠ 0 := hkind
      omega
  rw [isEmpty_eq]
  exact beq_eq_false_iff_ne.mpr (hbytes.trans_le hcovered).ne'

end BeaconCache

end OpenKit
