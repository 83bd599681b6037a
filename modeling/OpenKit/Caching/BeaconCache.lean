import Mathlib.Data.List.AList
import OpenKit.Caching.BeaconCacheEntry

/-!
# The beacon cache

The cache maps beacon keys to entries and counts the bytes of all active records. A beacon
without an entry behaves as one with an empty entry, except that it has nothing to delete.

## Main definitions

* `BeaconCache`: the entries, and the counter of the cache
* `CacheOperation`, `BeaconCache.step`: the operations of the cache and their effect
* `BeaconCache.entryAt`: the entry of a key, empty when there is none

## Main results

* `entryAt_addEventData` and the others: each operation acts on the entry of its key alone, by
  the operation of the entry
-/

namespace OpenKit

/-- The key of a beacon. -/
structure BeaconKey where
  beaconId : ℤ
  beaconSequenceNumber : ℤ
deriving DecidableEq, Repr

/-- The beacons with their entries, and the number of bytes in the cache. -/
structure BeaconCache where
  beacons : AList fun _ : BeaconKey => BeaconCacheEntry
  cacheSizeInBytes : ℤ

namespace BeaconCache

/-- The cache as constructed. -/
def empty : BeaconCache := ⟨∅, 0⟩

def getCachedEntry (c : BeaconCache) (k : BeaconKey) : Option BeaconCacheEntry :=
  c.beacons.lookup k

/-- The entry of the key, a new one if there is none. -/
def getCachedEntryOrInsert (c : BeaconCache) (k : BeaconKey) : BeaconCacheEntry :=
  match c.getCachedEntry k with
  | none => BeaconCacheEntry.new
  | some entry => entry

/-- The cache with a changed entry and `numBytes` more bytes. -/
def setEntry (c : BeaconCache) (k : BeaconKey) (entry : BeaconCacheEntry) (numBytes : ℤ) :
    BeaconCache :=
  ⟨c.beacons.insert k entry, c.cacheSizeInBytes + numBytes⟩

def addEventData (c : BeaconCache) (k : BeaconKey) (timestamp : ℤ) (data : UTF8String) :
    BeaconCache :=
  let entry := c.getCachedEntryOrInsert k
  let record := BeaconCacheRecord.new timestamp data
  c.setEntry k (entry.addEventData record) record.getDataSizeInBytes

def addActionData (c : BeaconCache) (k : BeaconKey) (timestamp : ℤ) (data : UTF8String) :
    BeaconCache :=
  let entry := c.getCachedEntryOrInsert k
  let record := BeaconCacheRecord.new timestamp data
  c.setEntry k (entry.addActionData record) record.getDataSizeInBytes

def deleteCacheEntry (c : BeaconCache) (k : BeaconKey) : BeaconCache :=
  match c.getCachedEntry k with
  | none => c
  | some entry => ⟨c.beacons.erase k, c.cacheSizeInBytes - entry.getTotalNumberOfBytes⟩

def prepareDataForSending (c : BeaconCache) (k : BeaconKey) : BeaconCache :=
  match c.getCachedEntry k with
  | none => c
  | some entry =>
    if entry.needsDataCopyBeforeSending then
      c.setEntry k entry.copyDataForSending (-entry.getTotalNumberOfBytes)
    else c

def hasDataForSending (c : BeaconCache) (k : BeaconKey) : Bool :=
  match c.getCachedEntry k with
  | none => false
  | some entry => entry.hasDataToSend

/-- The maximum size is an `int32_t` here and a `size_t` in the entry. -/
def getNextBeaconChunk (c : BeaconCache) (k : BeaconKey) (chunkPrefix : UTF8String) (maxSize : ℤ)
    (delimiter : UTF8String) : UTF8String × BeaconCache :=
  match c.getCachedEntry k with
  | none => (UTF8String.nil, c)
  | some entry =>
    let chunk := entry.getChunk chunkPrefix (toSizeT maxSize) delimiter
    (chunk.1, c.setEntry k chunk.2 0)

def removeChunkedData (c : BeaconCache) (k : BeaconKey) : BeaconCache :=
  match c.getCachedEntry k with
  | none => c
  | some entry => c.setEntry k entry.removeDataMarkedForSending 0

def resetChunkedData (c : BeaconCache) (k : BeaconKey) : BeaconCache :=
  match c.getCachedEntry k with
  | none => c
  | some entry =>
    let oldSize := entry.getTotalNumberOfBytes
    let newSize := entry.resetDataMarkedForSending.getTotalNumberOfBytes
    c.setEntry k entry.resetDataMarkedForSending (newSize - oldSize)

/-- The keys; the order of the `unordered_set` returned is not specified. -/
def getBeaconKeys (c : BeaconCache) : List BeaconKey := c.beacons.keys

def evictRecordsByAge (c : BeaconCache) (k : BeaconKey) (minTimestamp : ℤ) : ℕ × BeaconCache :=
  match c.getCachedEntry k with
  | none => (0, c)
  | some entry =>
    let removed := entry.removeRecordsOlderThan minTimestamp
    (removed.1, c.setEntry k removed.2 0)

/-- `numRecords` is a `uint32_t` here and an `int32_t` in the entry. -/
def evictRecordsByNumber (c : BeaconCache) (k : BeaconKey) (numRecords : ℕ) : ℕ × BeaconCache :=
  match c.getCachedEntry k with
  | none => (0, c)
  | some entry =>
    let removed := entry.removeOldestRecords (toInt32 numRecords)
    (removed.1, c.setEntry k removed.2 0)

def getNumBytesInCache (c : BeaconCache) : ℤ := c.cacheSizeInBytes

def isEmpty (c : BeaconCache) (k : BeaconKey) : Bool :=
  match c.getCachedEntry k with
  | none => true
  | some entry => entry.getTotalNumberOfBytes == 0

end BeaconCache

/-- The operations that change the cache. -/
inductive CacheOperation
  | addEventData (k : BeaconKey) (timestamp : ℤ) (data : UTF8String)
  | addActionData (k : BeaconKey) (timestamp : ℤ) (data : UTF8String)
  | prepareDataForSending (k : BeaconKey)
  | getNextBeaconChunk (k : BeaconKey) (chunkPrefix : UTF8String) (maxSize : ℤ)
      (delimiter : UTF8String)
  | removeChunkedData (k : BeaconKey)
  | resetChunkedData (k : BeaconKey)
  | evictRecordsByAge (k : BeaconKey) (minTimestamp : ℤ)
  | evictRecordsByNumber (k : BeaconKey) (numRecords : ℕ)
  | deleteCacheEntry (k : BeaconKey)

namespace BeaconCache

/-- The cache after an operation. -/
def step (c : BeaconCache) : CacheOperation → BeaconCache
  | .addEventData k timestamp data => c.addEventData k timestamp data
  | .addActionData k timestamp data => c.addActionData k timestamp data
  | .prepareDataForSending k => c.prepareDataForSending k
  | .getNextBeaconChunk k chunkPrefix maxSize delimiter =>
    (c.getNextBeaconChunk k chunkPrefix maxSize delimiter).2
  | .removeChunkedData k => c.removeChunkedData k
  | .resetChunkedData k => c.resetChunkedData k
  | .evictRecordsByAge k minTimestamp => (c.evictRecordsByAge k minTimestamp).2
  | .evictRecordsByNumber k numRecords => (c.evictRecordsByNumber k numRecords).2
  | .deleteCacheEntry k => c.deleteCacheEntry k

/-! ## The entry of a key -/

/-- The entry of a key, empty when the cache has none. -/
def entryAt (c : BeaconCache) (k : BeaconKey) : BeaconCacheEntry :=
  (c.getCachedEntry k).getD BeaconCacheEntry.new

variable {c : BeaconCache} {k k' : BeaconKey}

theorem entryAt_of_some {entry : BeaconCacheEntry} (h : c.getCachedEntry k = some entry) :
    c.entryAt k = entry := by
  rw [entryAt, h]
  rfl

theorem entryAt_of_none (h : c.getCachedEntry k = none) : c.entryAt k = BeaconCacheEntry.new := by
  rw [entryAt, h]
  rfl

@[simp] theorem entryAt_empty (k : BeaconKey) : empty.entryAt k = BeaconCacheEntry.new := rfl

theorem getCachedEntryOrInsert_eq (c : BeaconCache) (k : BeaconKey) :
    c.getCachedEntryOrInsert k = c.entryAt k := by
  unfold getCachedEntryOrInsert entryAt
  cases c.getCachedEntry k <;> rfl

@[simp] theorem entryAt_setEntry (c : BeaconCache) (k k' : BeaconKey) (entry : BeaconCacheEntry)
    (numBytes : ℤ) :
    (c.setEntry k entry numBytes).entryAt k' = if k' = k then entry else c.entryAt k' := by
  unfold entryAt getCachedEntry setEntry
  by_cases h : k' = k
  · subst h
    rw [AList.lookup_insert, if_pos rfl]
    rfl
  · rw [AList.lookup_insert_ne h, if_neg h]

theorem ite_entryAt : (if k' = k then c.entryAt k else c.entryAt k') = c.entryAt k' := by
  by_cases h : k' = k
  · rw [if_pos h, h]
  · rw [if_neg h]

/-- An operation that replaces an entry by its image under `f`, and does nothing without an
entry, acts on `entryAt` by `f` if `f` keeps the new entry. -/
theorem entryAt_match {f : BeaconCacheEntry → BeaconCacheEntry} {d : BeaconCacheEntry → ℤ}
    {c' : BeaconCache} (hnew : f BeaconCacheEntry.new = BeaconCacheEntry.new)
    (hnone : c.getCachedEntry k = none → c' = c)
    (hsome : ∀ entry, c.getCachedEntry k = some entry →
      c' = c.setEntry k (f entry) (d entry)) :
    c'.entryAt k' = if k' = k then f (c.entryAt k) else c.entryAt k' := by
  cases h : c.getCachedEntry k with
  | none =>
    rw [hnone h, entryAt_of_none h, hnew, ← entryAt_of_none h, ite_entryAt]
  | some entry => rw [hsome entry h, entryAt_setEntry, entryAt_of_some h]

theorem entryAt_addEventData (timestamp : ℤ) (data : UTF8String) :
    (c.addEventData k timestamp data).entryAt k' =
      if k' = k then (c.entryAt k).addEventData (.new timestamp data) else c.entryAt k' := by
  unfold addEventData
  rw [entryAt_setEntry, getCachedEntryOrInsert_eq]

theorem entryAt_addActionData (timestamp : ℤ) (data : UTF8String) :
    (c.addActionData k timestamp data).entryAt k' =
      if k' = k then (c.entryAt k).addActionData (.new timestamp data) else c.entryAt k' := by
  unfold addActionData
  rw [entryAt_setEntry, getCachedEntryOrInsert_eq]

/-- `addEventData` or `addActionData`. -/
def addData (c : BeaconCache) (k : BeaconKey) (kind : RecordKind) (timestamp : ℤ)
    (data : UTF8String) : BeaconCache :=
  match kind with
  | .event => c.addEventData k timestamp data
  | .action => c.addActionData k timestamp data

theorem entryAt_addData (kind : RecordKind) (timestamp : ℤ) (data : UTF8String) :
    (c.addData k kind timestamp data).entryAt k' =
      if k' = k then (c.entryAt k).addData kind (.new timestamp data) else c.entryAt k' := by
  cases kind with
  | event => exact entryAt_addEventData timestamp data
  | action => exact entryAt_addActionData timestamp data

theorem entryAt_deleteCacheEntry :
    (c.deleteCacheEntry k).entryAt k' = if k' = k then .new else c.entryAt k' := by
  unfold deleteCacheEntry
  cases h : c.getCachedEntry k with
  | none => rw [← entryAt_of_none h, ite_entryAt]
  | some entry =>
    by_cases hk : k' = k
    · subst hk
      rw [if_pos rfl]
      exact entryAt_of_none (AList.lookup_erase k' c.beacons)
    · rw [if_neg hk]
      exact congrArg (Option.getD · _) (AList.lookup_erase_ne hk)

theorem entryAt_prepareDataForSending :
    (c.prepareDataForSending k).entryAt k' =
      if k' = k then
        if (c.entryAt k).needsDataCopyBeforeSending then (c.entryAt k).copyDataForSending
        else c.entryAt k
      else c.entryAt k' := by
  unfold prepareDataForSending
  cases h : c.getCachedEntry k with
  | none =>
    have hn : (c.entryAt k).needsDataCopyBeforeSending = false := by rw [entryAt_of_none h]; rfl
    rw [hn, if_neg Bool.false_ne_true, ite_entryAt]
  | some entry =>
    rw [← entryAt_of_some h]
    by_cases hn : (c.entryAt k).needsDataCopyBeforeSending
    · simp only [hn, if_true, entryAt_setEntry]
    · simp only [hn, Bool.false_eq_true, if_false, ite_entryAt]

theorem prepareDataForSending_of_not (h : (c.entryAt k).needsDataCopyBeforeSending = false) :
    c.prepareDataForSending k = c := by
  rw [prepareDataForSending]
  cases he : c.getCachedEntry k with
  | none => rfl
  | some entry =>
    rw [entryAt_of_some he] at h
    simp only [h, Bool.false_eq_true, if_false]

theorem hasDataForSending_eq : c.hasDataForSending k = (c.entryAt k).hasDataToSend := by
  unfold hasDataForSending entryAt
  cases c.getCachedEntry k <;> rfl

theorem getNextBeaconChunk_fst (chunkPrefix : UTF8String) (maxSize : ℤ) (delimiter : UTF8String) :
    (c.getNextBeaconChunk k chunkPrefix maxSize delimiter).1 =
      ((c.entryAt k).getChunk chunkPrefix (toSizeT maxSize) delimiter).1 := by
  unfold getNextBeaconChunk entryAt
  cases c.getCachedEntry k <;> rfl

theorem entryAt_getNextBeaconChunk (chunkPrefix : UTF8String) (maxSize : ℤ)
    (delimiter : UTF8String) :
    (c.getNextBeaconChunk k chunkPrefix maxSize delimiter).2.entryAt k' =
      if k' = k then ((c.entryAt k).getChunk chunkPrefix (toSizeT maxSize) delimiter).2
      else c.entryAt k' := by
  refine entryAt_match (f := fun e => (e.getChunk chunkPrefix (toSizeT maxSize) delimiter).2)
    (d := fun _ => 0) rfl (fun h => ?_) (fun entry h => ?_)
  · rw [getNextBeaconChunk, h]
  · rw [getNextBeaconChunk, h]

theorem entryAt_removeChunkedData :
    (c.removeChunkedData k).entryAt k' =
      if k' = k then (c.entryAt k).removeDataMarkedForSending else c.entryAt k' := by
  refine entryAt_match (d := fun _ => 0) rfl (fun h => ?_) (fun entry h => ?_)
  · rw [removeChunkedData, h]
  · rw [removeChunkedData, h]

theorem entryAt_resetChunkedData :
    (c.resetChunkedData k).entryAt k' =
      if k' = k then (c.entryAt k).resetDataMarkedForSending else c.entryAt k' := by
  refine entryAt_match (d := fun e => e.resetDataMarkedForSending.getTotalNumberOfBytes -
    e.getTotalNumberOfBytes) rfl (fun h => ?_) (fun entry h => ?_)
  · rw [resetChunkedData, h]
  · rw [resetChunkedData, h]

theorem entryAt_evictRecordsByAge (minTimestamp : ℤ) :
    (c.evictRecordsByAge k minTimestamp).2.entryAt k' =
      if k' = k then ((c.entryAt k).removeRecordsOlderThan minTimestamp).2
      else c.entryAt k' := by
  refine entryAt_match (f := fun e => (e.removeRecordsOlderThan minTimestamp).2)
    (d := fun _ => 0) rfl (fun h => ?_) (fun entry h => ?_)
  · rw [evictRecordsByAge, h]
  · rw [evictRecordsByAge, h]

theorem removeOldestRecords_new (numRecords : ℤ) :
    (BeaconCacheEntry.new.removeOldestRecords numRecords).2 = BeaconCacheEntry.new := by
  unfold BeaconCacheEntry.removeOldestRecords
  cases numRecords.toNat <;> rfl

theorem entryAt_evictRecordsByNumber (numRecords : ℕ) :
    (c.evictRecordsByNumber k numRecords).2.entryAt k' =
      if k' = k then ((c.entryAt k).removeOldestRecords (toInt32 numRecords)).2
      else c.entryAt k' := by
  refine entryAt_match (f := fun e => (e.removeOldestRecords (toInt32 numRecords)).2)
    (d := fun _ => 0) (removeOldestRecords_new _) (fun h => ?_) (fun entry h => ?_)
  · rw [evictRecordsByNumber, h]
  · rw [evictRecordsByNumber, h]

/-! ## The keys of the cache -/

theorem getCachedEntry_setEntry (entry : BeaconCacheEntry) (numBytes : ℤ) :
    (c.setEntry k entry numBytes).getCachedEntry k' =
      if k' = k then some entry else c.getCachedEntry k' := by
  unfold getCachedEntry setEntry
  by_cases h : k' = k
  · subst h
    rw [AList.lookup_insert, if_pos rfl]
  · rw [AList.lookup_insert_ne h, if_neg h]

theorem getCachedEntry_deleteCacheEntry :
    (c.deleteCacheEntry k).getCachedEntry k' = if k' = k then none else c.getCachedEntry k' := by
  unfold deleteCacheEntry
  by_cases hk : k' = k
  · subst hk
    rw [if_pos rfl]
    cases h : c.getCachedEntry k' with
    | none => exact h
    | some entry => exact AList.lookup_erase k' c.beacons
  · rw [if_neg hk]
    cases c.getCachedEntry k with
    | none => rfl
    | some entry => exact AList.lookup_erase_ne hk

/-- An operation that does nothing without an entry does not make one. -/
theorem getCachedEntry_of_match {c' : BeaconCache} (hnone : c.getCachedEntry k = none → c' = c)
    (hsome : ∀ entry, c.getCachedEntry k = some entry →
      c' = c ∨ ∃ entry' numBytes, c' = c.setEntry k entry' numBytes)
    (h : c.getCachedEntry k' = none) : c'.getCachedEntry k' = none := by
  cases he : c.getCachedEntry k with
  | none => rwa [hnone he]
  | some entry =>
    rcases hsome entry he with hsame | ⟨entry', numBytes, hset⟩
    · rwa [hsame]
    · have hk : k' ≠ k := by
        rintro rfl
        rw [h] at he
        cases he
      rw [hset, getCachedEntry_setEntry, if_neg hk, h]

theorem getCachedEntry_prepareDataForSending (h : c.getCachedEntry k' = none) :
    (c.prepareDataForSending k).getCachedEntry k' = none := by
  refine getCachedEntry_of_match (k := k) (fun hk => ?_) (fun entry hk => ?_) h
  · rw [prepareDataForSending, hk]
  · rw [prepareDataForSending, hk]
    by_cases hn : entry.needsDataCopyBeforeSending
    · exact .inr ⟨_, _, if_pos hn⟩
    · exact .inl (if_neg hn)

theorem getCachedEntry_getNextBeaconChunk {chunkPrefix : UTF8String} {maxSize : ℤ}
    {delimiter : UTF8String} (h : c.getCachedEntry k' = none) :
    (c.getNextBeaconChunk k chunkPrefix maxSize delimiter).2.getCachedEntry k' = none := by
  refine getCachedEntry_of_match (k := k) (fun hk => ?_) (fun entry hk => ?_) h
  · rw [getNextBeaconChunk, hk]
  · rw [getNextBeaconChunk, hk]
    exact .inr ⟨_, _, rfl⟩

theorem getCachedEntry_removeChunkedData (h : c.getCachedEntry k' = none) :
    (c.removeChunkedData k).getCachedEntry k' = none := by
  refine getCachedEntry_of_match (k := k) (fun hk => ?_) (fun entry hk => ?_) h
  · rw [removeChunkedData, hk]
  · rw [removeChunkedData, hk]
    exact .inr ⟨_, _, rfl⟩

theorem getCachedEntry_resetChunkedData (h : c.getCachedEntry k' = none) :
    (c.resetChunkedData k).getCachedEntry k' = none := by
  refine getCachedEntry_of_match (k := k) (fun hk => ?_) (fun entry hk => ?_) h
  · rw [resetChunkedData, hk]
  · rw [resetChunkedData, hk]
    exact .inr ⟨_, _, rfl⟩

theorem isEmpty_eq : c.isEmpty k = ((c.entryAt k).totalNumBytes == 0) := by
  unfold isEmpty entryAt
  cases c.getCachedEntry k <;> rfl

end BeaconCache

end OpenKit
