import OpenKit.Caching.BeaconCache
import OpenKit.Library.Program
import OpenKit.Library.Total

/-!
# The shared cache

The threads of the application add records to the cache while the sending thread copies, restores
and deletes. The map of the entries has one lock and each entry another, and the counter of the
cache is atomic, so an operation on the cache is a sequence of critical sections. A thread that has
looked up an entry keeps its reference, even if the entry leaves the map.

## Main definitions

* `SharedCache`: the map to references, the entries, and the counter
* `addEventData`, `addActionData`, `prepareDataForSending`, `resetChunkedData`,
  `deleteCacheEntry`: the operations, critical section by critical section
* `SharedCache.Represents`: the cache that a shared cache stands for

## Main results

* `refines_addEventData` and the others: an operation run alone is that of the cache
-/

namespace OpenKit

open Thread

/-- A reference to an entry. -/
abbrev EntryRef := ℕ

/-- The map from keys to references, the entries made so far, and the number of bytes in the cache.
The stray records were added to entries that were not in the map any more. -/
structure SharedCache where
  beacons : AList fun _ : BeaconKey => EntryRef
  entries : EntryRef → BeaconCacheEntry
  numEntries : ℕ
  cacheSizeInBytes : ℤ
  strayRecords : List BeaconCacheRecord

/-- Programs of a thread that works on the cache. -/
abbrev CacheProgram (α : Type) : Type := Program Empty SharedCache α

namespace SharedCache

/-- The cache as constructed. -/
def empty : SharedCache := ⟨∅, fun _ => .new, 0, 0, []⟩

/-- The entry is in the map. -/
def IsMapped (s : SharedCache) (entry : EntryRef) : Prop := entry ∈ s.beacons.values

instance (s : SharedCache) (entry : EntryRef) : Decidable (s.IsMapped entry) :=
  inferInstanceAs (Decidable (_ ∈ _))

/-- The bytes of all entries in the map. -/
def totalNumberOfBytes (s : SharedCache) : ℤ :=
  AList.total (fun entry => (s.entries entry).getTotalNumberOfBytes) s.beacons

def setEntry (s : SharedCache) (entry : EntryRef) (e : BeaconCacheEntry) : SharedCache :=
  { s with entries := Function.update s.entries entry e }

theorem entries_setEntry (s : SharedCache) (entry entry' : EntryRef) (e : BeaconCacheEntry) :
    (s.setEntry entry e).entries entry' = if entry' = entry then e else s.entries entry' :=
  Function.update_apply s.entries entry e entry'

def addToCacheSize (s : SharedCache) (numBytes : ℤ) : SharedCache :=
  { s with cacheSizeInBytes := s.cacheSizeInBytes + numBytes }

/-! ## Critical sections -/

/-- The second look at the map, under its write lock. -/
def insertIfMissing (k : BeaconKey) (s : SharedCache) : EntryRef × SharedCache :=
  match s.beacons.lookup k with
  | some entry => (entry, s)
  | none =>
    (s.numEntries,
      { s.setEntry s.numEntries .new with
        beacons := s.beacons.insert k s.numEntries
        numEntries := s.numEntries + 1 })

/-- Adds a record to an entry, under the lock of the entry. -/
def addRecord (entry : EntryRef) (kind : RecordKind) (record : BeaconCacheRecord)
    (s : SharedCache) : SharedCache :=
  { s.setEntry entry ((s.entries entry).addData kind record) with
    strayRecords := if s.IsMapped entry then s.strayRecords else s.strayRecords ++ [record] }

/-- Copies the data of an entry, under its lock. The result is the number of its bytes before. -/
def copyEntry (entry : EntryRef) (s : SharedCache) : ℤ × SharedCache :=
  ((s.entries entry).getTotalNumberOfBytes, s.setEntry entry (s.entries entry).copyDataForSending)

/-- Restores the data of an entry, under its lock. The result is the growth of its bytes. -/
def resetEntry (entry : EntryRef) (s : SharedCache) : ℤ × SharedCache :=
  ((s.entries entry).resetDataMarkedForSending.getTotalNumberOfBytes -
      (s.entries entry).getTotalNumberOfBytes,
    s.setEntry entry (s.entries entry).resetDataMarkedForSending)

/-- Deletes the entry of a key, under the write lock of the map. -/
def eraseEntry (k : BeaconKey) (s : SharedCache) : SharedCache :=
  match s.beacons.lookup k with
  | none => s
  | some entry =>
    { s with
      cacheSizeInBytes := s.cacheSizeInBytes - (s.entries entry).getTotalNumberOfBytes
      beacons := s.beacons.erase k }

/-! ## The operations -/

def getCachedEntry (k : BeaconKey) : CacheProgram (Option EntryRef) :=
  .read fun s => s.beacons.lookup k

def getCachedEntryOrInsert (k : BeaconKey) : CacheProgram EntryRef := do
  match ← getCachedEntry k with
  | some entry => return entry
  | none => .atomic (insertIfMissing k)

/-- What `addEventData` and `addActionData` have in common. -/
def addData (k : BeaconKey) (kind : RecordKind) (timestamp : ℤ) (data : UTF8String) :
    CacheProgram Unit := do
  let entry ← getCachedEntryOrInsert k
  Program.write (addRecord entry kind (.new timestamp data))
  Program.write (addToCacheSize · (BeaconCacheRecord.new timestamp data).getDataSizeInBytes)

def addEventData (k : BeaconKey) (timestamp : ℤ) (data : UTF8String) : CacheProgram Unit :=
  addData k .event timestamp data

def addActionData (k : BeaconKey) (timestamp : ℤ) (data : UTF8String) : CacheProgram Unit :=
  addData k .action timestamp data

def deleteCacheEntry (k : BeaconKey) : CacheProgram Unit := .write (eraseEntry k)

/-- What is done with the entry of a key, if there is one. -/
def withEntry (k : BeaconKey) (body : EntryRef → CacheProgram Unit) : CacheProgram Unit := do
  match ← getCachedEntry k with
  | none => return ()
  | some entry => body entry

def prepareDataForSending (k : BeaconKey) : CacheProgram Unit :=
  withEntry k fun entry => do
    if ← .read fun s => (s.entries entry).needsDataCopyBeforeSending then
      let numBytes ← Program.atomic (copyEntry entry)
      Program.write (addToCacheSize · (-numBytes))
    else
      return ()

/-- The text of the chunk is left out. -/
def getNextBeaconChunk (k : BeaconKey) (chunkPrefix : UTF8String) (maxSize : ℤ)
    (delimiter : UTF8String) : CacheProgram Unit :=
  withEntry k fun entry =>
    .write fun s =>
      s.setEntry entry ((s.entries entry).getChunk chunkPrefix (toSizeT maxSize) delimiter).2

def removeChunkedData (k : BeaconKey) : CacheProgram Unit :=
  withEntry k fun entry =>
    .write fun s => s.setEntry entry (s.entries entry).removeDataMarkedForSending

def resetChunkedData (k : BeaconKey) : CacheProgram Unit :=
  withEntry k fun entry => do
    let numBytes ← Program.atomic (resetEntry entry)
    Program.write (addToCacheSize · numBytes)

/-! ## The map -/

/-- The references in the map are distinct, and none of them is to an entry still to be made. -/
structure WellFormed (s : SharedCache) : Prop where
  nodup : s.beacons.values.Nodup
  lt_numEntries : ∀ entry ∈ s.beacons.values, entry < s.numEntries

section Map

variable {s : SharedCache} {k : BeaconKey}

/-- A change of an entry keeps the map. -/
theorem WellFormed.setEntry (h : s.WellFormed) (entry : EntryRef) (e : BeaconCacheEntry) :
    (s.setEntry entry e).WellFormed := ⟨h.nodup, h.lt_numEntries⟩

theorem WellFormed.insertIfMissing (h : s.WellFormed) : (s.insertIfMissing k).2.WellFormed := by
  rw [SharedCache.insertIfMissing]
  cases hk : s.beacons.lookup k with
  | some entry => exact h
  | none =>
    have hvalues := AList.values_insert_of_lookup s.numEntries hk
    refine ⟨?_, fun entry hentry => ?_⟩
    · show (s.beacons.insert k s.numEntries).values.Nodup
      rw [hvalues]
      exact List.nodup_cons.mpr
        ⟨fun hmem => absurd (h.lt_numEntries _ hmem) (lt_irrefl _), h.nodup⟩
    · change entry ∈ (s.beacons.insert k s.numEntries).values at hentry
      rw [hvalues] at hentry
      show entry < s.numEntries + 1
      rcases List.mem_cons.mp hentry with rfl | hentry
      · exact Nat.lt_succ_self _
      · exact Nat.lt_succ_of_lt (h.lt_numEntries entry hentry)

theorem WellFormed.eraseEntry (h : s.WellFormed) : (s.eraseEntry k).WellFormed := by
  rw [SharedCache.eraseEntry]
  cases s.beacons.lookup k with
  | none => exact h
  | some entry =>
    have hsub := AList.values_erase_sublist k s.beacons
    exact ⟨hsub.nodup h.nodup, fun entry hentry => h.lt_numEntries entry (hsub.subset hentry)⟩

end Map

/-! ## The operations alone -/

/-- The cache that a shared cache stands for when no operation is in progress. -/
structure Represents (s : SharedCache) (c : BeaconCache) : Prop where
  getCachedEntry : ∀ k, c.getCachedEntry k = (s.beacons.lookup k).map s.entries
  cacheSizeInBytes : c.cacheSizeInBytes = s.cacheSizeInBytes

/-- Run alone, the program does what the operation of the cache does. -/
def Refines (p : CacheProgram Unit) (operation : BeaconCache → BeaconCache) : Prop :=
  ∀ s c, WellFormed s → Represents s c →
    ∃ s', p.run s = (.ok (), s') ∧ s'.WellFormed ∧ s'.Represents (operation c)

section Alone

variable {s : SharedCache} {c : BeaconCache} {k : BeaconKey} {entry : EntryRef}

/-- A changed entry, with a changed counter, shows under its key alone. -/
theorem Represents.setEntry (h : s.Represents c) (hs : s.WellFormed)
    (hk : s.beacons.lookup k = some entry) (e : BeaconCacheEntry) (numBytes : ℤ) :
    ((s.setEntry entry e).addToCacheSize numBytes).Represents (c.setEntry k e numBytes) := by
  refine ⟨fun k' => ?_, congrArg (· + numBytes) h.cacheSizeInBytes⟩
  rw [BeaconCache.getCachedEntry_setEntry]
  show _ = (s.beacons.lookup k').map (s.setEntry entry e).entries
  by_cases hkey : k' = k
  · rw [if_pos hkey, hkey, hk, Option.map_some, entries_setEntry, if_pos rfl]
  · rw [if_neg hkey, h.getCachedEntry]
    cases hk' : s.beacons.lookup k' with
    | none => rfl
    | some entry' =>
      have hne : entry' ≠ entry := by
        rintro rfl
        exact hkey (AList.eq_of_lookup hs.nodup hk' hk)
      rw [Option.map_some, Option.map_some, entries_setEntry, if_neg hne]

/-- An operation on the entry of a key, if there is one. -/
theorem refines_withEntry {body : EntryRef → CacheProgram Unit}
    {operation : BeaconCache → BeaconCache} {f : BeaconCache → BeaconCacheEntry → BeaconCache}
    (hoperation : ∀ c : BeaconCache, operation c = match c.getCachedEntry k with
      | none => c
      | some e => f c e)
    (hbody : ∀ s c entry, WellFormed s → Represents s c → s.beacons.lookup k = some entry →
      ∃ s' : SharedCache, (body entry).run s = (.ok (), s') ∧ s'.WellFormed ∧
        s'.Represents (f c (s.entries entry))) : Refines (withEntry k body) operation := by
  intro s c hs hrep
  have hrun : (withEntry k body).run s = match s.beacons.lookup k with
      | none => (.ok (), s)
      | some entry => (body entry).run s := by
    show Program.run (match s.beacons.lookup k with
      | none => Program.ret ()
      | some entry => body entry) s = _
    cases s.beacons.lookup k <;> rfl
  rw [hrun, hoperation, hrep.getCachedEntry]
  cases hk : s.beacons.lookup k with
  | none => exact ⟨s, rfl, hs, hrep⟩
  | some entry => exact hbody s c entry hs hrep hk

/-- The same for a key that may get its entry first. -/
theorem Represents.insertIfMissing (h : s.Represents c) (hs : s.WellFormed)
    (e : BeaconCacheEntry) (numBytes : ℤ) :
    (((s.insertIfMissing k).2.setEntry (s.insertIfMissing k).1 e).addToCacheSize
      numBytes).Represents (c.setEntry k e numBytes) := by
  rw [SharedCache.insertIfMissing]
  cases hk : s.beacons.lookup k with
  | some entry => exact h.setEntry hs hk e numBytes
  | none =>
    refine ⟨fun k' => ?_, congrArg (· + numBytes) h.cacheSizeInBytes⟩
    rw [BeaconCache.getCachedEntry_setEntry]
    show _ = ((s.beacons.insert k s.numEntries).lookup k').map
      ((s.setEntry s.numEntries .new).setEntry s.numEntries e).entries
    by_cases hkey : k' = k
    · rw [if_pos hkey, hkey, AList.lookup_insert, Option.map_some, entries_setEntry, if_pos rfl]
    · rw [if_neg hkey, h.getCachedEntry, AList.lookup_insert_ne hkey]
      cases hk' : s.beacons.lookup k' with
      | none => rfl
      | some entry' =>
        have hne : entry' ≠ s.numEntries :=
          (hs.lt_numEntries entry' (AList.mem_values_of_lookup hk')).ne
        rw [Option.map_some, Option.map_some, entries_setEntry, if_neg hne, entries_setEntry,
          if_neg hne]

/-- The entry found or made is the one of the key. -/
theorem Represents.entries_insertIfMissing (h : s.Represents c) :
    (s.insertIfMissing k).2.entries (s.insertIfMissing k).1 = c.getCachedEntryOrInsert k := by
  have hentry := h.getCachedEntry k
  rw [SharedCache.insertIfMissing, BeaconCache.getCachedEntryOrInsert, hentry]
  cases s.beacons.lookup k with
  | some entry => rfl
  | none => exact (entries_setEntry s s.numEntries s.numEntries .new).trans (if_pos rfl)

theorem run_getCachedEntryOrInsert (k : BeaconKey) (s : SharedCache) :
    (getCachedEntryOrInsert k).run s = (.ok (s.insertIfMissing k).1, (s.insertIfMissing k).2) := by
  show Program.run (match s.beacons.lookup k with
    | some entry => Program.ret entry
    | none => Program.atomic (SharedCache.insertIfMissing k)) s = _
  cases hk : s.beacons.lookup k with
  | none => rfl
  | some entry =>
    rw [SharedCache.insertIfMissing, hk]
    rfl

/-- An addition alone sets the entry of its key and raises the counter. -/
theorem refines_addData (kind : RecordKind) (timestamp : ℤ) (data : UTF8String) :
    Refines (addData k kind timestamp data) fun c =>
      c.setEntry k ((c.getCachedEntryOrInsert k).addData kind (.new timestamp data))
        (BeaconCacheRecord.new timestamp data).getDataSizeInBytes := by
  intro s c hs hrep
  have hs' : (s.insertIfMissing k).2.WellFormed := hs.insertIfMissing
  refine ⟨_, Program.run_bind_ok (run_getCachedEntryOrInsert k s),
    ⟨hs'.nodup, hs'.lt_numEntries⟩, ?_⟩
  have hset := hrep.insertIfMissing (k := k) hs
    ((c.getCachedEntryOrInsert k).addData kind (.new timestamp data))
    (BeaconCacheRecord.new timestamp data).getDataSizeInBytes
  rw [← hrep.entries_insertIfMissing (k := k)] at hset
  show Represents _ (c.setEntry k ((c.getCachedEntryOrInsert k).addData kind _) _)
  rw [← hrep.entries_insertIfMissing (k := k)]
  exact ⟨hset.getCachedEntry, hset.cacheSizeInBytes⟩

theorem refines_addEventData (timestamp : ℤ) (data : UTF8String) :
    Refines (addEventData k timestamp data) (·.addEventData k timestamp data) :=
  refines_addData .event timestamp data

theorem refines_addActionData (timestamp : ℤ) (data : UTF8String) :
    Refines (addActionData k timestamp data) (·.addActionData k timestamp data) :=
  refines_addData .action timestamp data

theorem refines_deleteCacheEntry : Refines (deleteCacheEntry k) (·.deleteCacheEntry k) := by
  intro s c hs hrep
  refine ⟨s.eraseEntry k, rfl, hs.eraseEntry, ?_⟩
  have hentry := hrep.getCachedEntry k
  show (s.eraseEntry k).Represents (c.deleteCacheEntry k)
  rw [eraseEntry, BeaconCache.deleteCacheEntry, hentry]
  cases hk : s.beacons.lookup k with
  | none => exact hrep
  | some entry =>
    refine ⟨fun k' => ?_, ?_⟩
    · show (c.beacons.erase k).lookup k' = ((s.beacons.erase k).lookup k').map s.entries
      by_cases hkey : k' = k
      · rw [hkey, AList.lookup_erase, AList.lookup_erase]
        rfl
      · rw [AList.lookup_erase_ne hkey, AList.lookup_erase_ne hkey]
        exact hrep.getCachedEntry k'
    · show c.cacheSizeInBytes - _ = s.cacheSizeInBytes - _
      rw [hrep.cacheSizeInBytes]

theorem refines_prepareDataForSending :
    Refines (prepareDataForSending k) (·.prepareDataForSending k) := by
  refine refines_withEntry (fun c => rfl) fun s c entry hs hrep hk => ?_
  have hset := hrep.setEntry hs hk (s.entries entry).copyDataForSending
    (-(s.entries entry).getTotalNumberOfBytes)
  rw [Program.run_bind_ok (Program.run_read _ s)]
  by_cases hcopy : (s.entries entry).needsDataCopyBeforeSending
  · rw [if_pos hcopy, if_pos hcopy]
    exact ⟨_, rfl, ⟨hs.nodup, hs.lt_numEntries⟩, hset⟩
  · rw [if_neg hcopy, if_neg hcopy]
    exact ⟨s, rfl, hs, hrep⟩

theorem refines_getNextBeaconChunk (chunkPrefix : UTF8String) (maxSize : ℤ)
    (delimiter : UTF8String) :
    Refines (getNextBeaconChunk k chunkPrefix maxSize delimiter) fun c =>
      (c.getNextBeaconChunk k chunkPrefix maxSize delimiter).2 := by
  refine refines_withEntry
    (f := fun c e => c.setEntry k (e.getChunk chunkPrefix (toSizeT maxSize) delimiter).2 0)
    (fun c => ?_) fun s c entry hs hrep hk => ?_
  · show (c.getNextBeaconChunk k chunkPrefix maxSize delimiter).2 = _
    rw [BeaconCache.getNextBeaconChunk]
    cases c.getCachedEntry k <;> rfl
  · have hset := hrep.setEntry hs hk
      ((s.entries entry).getChunk chunkPrefix (toSizeT maxSize) delimiter).2 0
    exact ⟨_, rfl, hs.setEntry entry _, hset.getCachedEntry,
      hset.cacheSizeInBytes.trans (add_zero _)⟩

theorem refines_removeChunkedData :
    Refines (removeChunkedData k) (·.removeChunkedData k) := by
  refine refines_withEntry (fun c => rfl) fun s c entry hs hrep hk => ?_
  have hset := hrep.setEntry hs hk (s.entries entry).removeDataMarkedForSending 0
  exact ⟨_, rfl, hs.setEntry entry _, hset.getCachedEntry,
    hset.cacheSizeInBytes.trans (add_zero _)⟩

theorem refines_resetChunkedData :
    Refines (resetChunkedData k) (·.resetChunkedData k) := by
  refine refines_withEntry (fun c => rfl) fun s c entry hs hrep hk => ?_
  exact ⟨_, rfl, ⟨hs.nodup, hs.lt_numEntries⟩, hrep.setEntry hs hk _ _⟩

end Alone

end SharedCache

end OpenKit
