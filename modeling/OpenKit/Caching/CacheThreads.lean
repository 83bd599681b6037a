import OpenKit.Caching.SharedCache
import OpenKit.Library.Tally

/-!
# The cache among threads

The application adds records while the sending thread copies, restores and deletes. An addition
has three critical sections, and a deletion may fall between them. Then the record goes to an entry
that is not in the map any more, and its bytes stay in the counter.

## Main definitions

* `CacheThreads`: the threads of the application, and the sending thread
* `difference`: the counter without the bytes of the entries and of the stray records

## Main results

* `otherBalances_addData`, `balances_of_senderCall`: what each operation leaves of the difference
* `counter_of_reaches`: the counter is the sum of the entries and of the stray records
* `accounted_iff_of_reaches`: it is the sum of the entries iff all stray records are empty
-/

namespace OpenKit

open Thread

namespace SharedCache

/-- What the threads of the application call. -/
inductive ApplicationCall : CacheProgram Unit → Prop
  | addEventData (k : BeaconKey) (timestamp : ℤ) (data : UTF8String) :
      ApplicationCall (addEventData k timestamp data)
  | addActionData (k : BeaconKey) (timestamp : ℤ) (data : UTF8String) :
      ApplicationCall (addActionData k timestamp data)

/-- What the sending thread calls. -/
inductive SenderCall : CacheProgram Unit → Prop
  | prepareDataForSending (k : BeaconKey) : SenderCall (prepareDataForSending k)
  | getNextBeaconChunk (k : BeaconKey) (chunkPrefix : UTF8String) (maxSize : ℤ)
      (delimiter : UTF8String) : SenderCall (getNextBeaconChunk k chunkPrefix maxSize delimiter)
  | removeChunkedData (k : BeaconKey) : SenderCall (removeChunkedData k)
  | resetChunkedData (k : BeaconKey) : SenderCall (resetChunkedData k)
  | deleteCacheEntry (k : BeaconKey) : SenderCall (deleteCacheEntry k)

/-- The sending thread and the threads of the application. -/
abbrev CacheThreads : Type := Pool Empty SharedCache

/-- The runs of the threads from an empty cache. -/
def Reaches : CacheThreads → Prop :=
  Pool.Reaches SenderCall ApplicationCall ⟨.ret (), [], empty⟩

/-! ## The critical sections and the counter -/

/-- By how much the counter differs from the bytes of the entries and of the stray records. -/
def difference (s : SharedCache) : ℤ :=
  s.cacheSizeInBytes - s.totalNumberOfBytes - dataSize s.strayRecords

section Sections

variable {s : SharedCache} {entry : EntryRef} {k : BeaconKey}

/-- A changed entry changes the total if it is in the map. -/
theorem totalNumberOfBytes_setEntry (h : s.WellFormed) (entry : EntryRef) (e : BeaconCacheEntry) :
    (s.setEntry entry e).totalNumberOfBytes =
      s.totalNumberOfBytes +
        if s.IsMapped entry then e.totalNumBytes - (s.entries entry).totalNumBytes else 0 := by
  have hupdate := AList.total_update (fun entry => (s.entries entry).getTotalNumberOfBytes) entry
    e.getTotalNumberOfBytes h.nodup
  have hmeasure : (fun entry' => ((s.setEntry entry e).entries entry').getTotalNumberOfBytes) =
      Function.update (fun entry => (s.entries entry).getTotalNumberOfBytes) entry
        e.getTotalNumberOfBytes := by
    funext entry'
    rw [entries_setEntry, Function.update_apply]
    split <;> rfl
  rw [totalNumberOfBytes, hmeasure]
  exact hupdate

theorem difference_addToCacheSize (s : SharedCache) (numBytes : ℤ) :
    (s.addToCacheSize numBytes).difference - s.difference = numBytes := by
  show s.cacheSizeInBytes + numBytes - s.totalNumberOfBytes - dataSize s.strayRecords -
    (s.cacheSizeInBytes - s.totalNumberOfBytes - dataSize s.strayRecords) = numBytes
  omega

/-- A change of an entry that is in the map, or that does not change its bytes. -/
theorem difference_setEntry (h : s.WellFormed) {e : BeaconCacheEntry}
    (hmapped : s.IsMapped entry ∨ e.totalNumBytes = (s.entries entry).totalNumBytes) :
    (s.setEntry entry e).difference - s.difference =
      (s.entries entry).totalNumBytes - e.totalNumBytes := by
  have htotal := totalNumberOfBytes_setEntry h entry e
  show s.cacheSizeInBytes - (s.setEntry entry e).totalNumberOfBytes - dataSize s.strayRecords -
    (s.cacheSizeInBytes - s.totalNumberOfBytes - dataSize s.strayRecords) = _
  rw [htotal]
  split
  next => omega
  next hnot =>
    have hsame := hmapped.resolve_left hnot
    omega

/-- A record counts as one of an entry in the map, or as a stray record. -/
theorem difference_addRecord (h : s.WellFormed) (kind : RecordKind) (record : BeaconCacheRecord) :
    (s.addRecord entry kind record).difference - s.difference = -record.getDataSizeInBytes := by
  have htotal := totalNumberOfBytes_setEntry h entry
    ((s.entries entry).addData kind record)
  have hbytes : ((s.entries entry).addData kind record).totalNumBytes =
      (s.entries entry).totalNumBytes + record.getDataSizeInBytes := by
    cases kind <;> rfl
  show s.cacheSizeInBytes - (s.setEntry entry _).totalNumberOfBytes - dataSize (ite _ _ _) -
    (s.cacheSizeInBytes - s.totalNumberOfBytes - dataSize s.strayRecords) = _
  rw [htotal, hbytes]
  by_cases hmapped : s.IsMapped entry
  · rw [if_pos hmapped, if_pos hmapped]
    omega
  · rw [if_neg hmapped, if_neg hmapped, dataSize_append, dataSize_cons, dataSize_nil]
    omega

/-- A new entry has no bytes. -/
theorem difference_insertIfMissing (h : s.WellFormed) :
    (s.insertIfMissing k).2.difference - s.difference = 0 := by
  rw [insertIfMissing]
  cases hk : s.beacons.lookup k with
  | some entry => exact sub_self _
  | none =>
    have hfresh : ¬ s.IsMapped s.numEntries := fun hmem =>
      absurd (h.lt_numEntries _ hmem) (lt_irrefl _)
    have htotal := totalNumberOfBytes_setEntry h s.numEntries .new
    rw [if_neg hfresh, add_zero] at htotal
    have hinsert := AList.total_insert
      (fun entry => ((s.setEntry s.numEntries .new).entries entry).getTotalNumberOfBytes)
      k s.numEntries s.beacons
    rw [hk] at hinsert
    have hnew : ((s.setEntry s.numEntries .new).entries s.numEntries).getTotalNumberOfBytes = 0 := by
      rw [entries_setEntry, if_pos rfl]
      rfl
    simp only [hnew, Option.map_none, Option.getD_none, sub_zero, zero_add] at hinsert
    show s.cacheSizeInBytes - AList.total _ (s.beacons.insert k s.numEntries) -
      dataSize s.strayRecords -
        (s.cacheSizeInBytes - s.totalNumberOfBytes - dataSize s.strayRecords) = 0
    rw [totalNumberOfBytes] at htotal
    rw [hinsert]
    change s.cacheSizeInBytes - AList.total
      (fun entry => ((s.setEntry s.numEntries .new).entries entry).getTotalNumberOfBytes)
        (s.setEntry s.numEntries .new).beacons - _ - _ = 0
    rw [htotal]
    exact sub_self _

/-- The bytes of an entry leave with it. -/
theorem difference_eraseEntry : (s.eraseEntry k).difference - s.difference = 0 := by
  rw [eraseEntry]
  cases hk : s.beacons.lookup k with
  | none => exact sub_self _
  | some entry =>
    have herase := AList.total_erase (fun entry => (s.entries entry).getTotalNumberOfBytes) k
      s.beacons
    rw [hk] at herase
    show s.cacheSizeInBytes - (s.entries entry).getTotalNumberOfBytes -
      AList.total _ (s.beacons.erase k) - dataSize s.strayRecords -
        (s.cacheSizeInBytes - s.totalNumberOfBytes - dataSize s.strayRecords) = 0
    rw [herase, totalNumberOfBytes]
    show _ - _ - (_ - (s.entries entry).getTotalNumberOfBytes) - _ - _ = (0 : ℤ)
    omega

end Sections

/-! ## The operations and the counter -/

/-- What the actions of the application guarantee: no entry leaves the map. -/
structure AddStep (s s' : SharedCache) : Prop where
  lookup : ∀ k entry, s.beacons.lookup k = some entry → s'.beacons.lookup k = some entry
  wellFormed : s.WellFormed → s'.WellFormed

/-- A step that leaves the map alone. -/
theorem AddStep.of_beacons {s s' : SharedCache} (hbeacons : s'.beacons = s.beacons)
    (hnum : s'.numEntries = s.numEntries) : AddStep s s' := by
  refine ⟨fun k entry h => by rw [hbeacons, h], fun h => ⟨?_, ?_⟩⟩
  · rw [hbeacons]
    exact h.nodup
  · rw [hbeacons, hnum]
    exact h.lt_numEntries

theorem addStep_insertIfMissing (k : BeaconKey) (s : SharedCache) :
    AddStep s (s.insertIfMissing k).2 := by
  refine ⟨fun k' entry h => ?_, WellFormed.insertIfMissing⟩
  rw [insertIfMissing]
  cases hk : s.beacons.lookup k with
  | some entry' => exact h
  | none =>
    have hne : k' ≠ k := by
      rintro rfl
      rw [hk] at h
      cases h
    exact (AList.lookup_insert_ne hne).trans h

section Operations

variable {s : SharedCache} {k : BeaconKey} {kind : RecordKind} {timestamp : ℤ} {data : UTF8String}

theorem guarantees_addData :
    Program.Guarantees AddStep (addData k kind timestamp data) := by
  have hlookup : Program.Guarantees AddStep (getCachedEntryOrInsert k) := by
    refine Program.Guarantees.bind
      (Program.guarantees_atomic fun s => AddStep.of_beacons rfl rfl) fun found => ?_
    cases found with
    | some entry => trivial
    | none => exact Program.guarantees_atomic fun s => addStep_insertIfMissing k s
  refine hlookup.bind fun entry => ?_
  refine Program.Guarantees.bind
    (Program.guarantees_atomic fun s => AddStep.of_beacons rfl rfl) fun _ => ?_
  exact Program.guarantees_atomic fun s => AddStep.of_beacons rfl rfl

/-- Nothing is known of the steps of the others but that they keep the map well formed. -/
theorem stable_keeps : Stable (Pool.Keeps WellFormed) WellFormed := fun _ _ hstep h => hstep h

/-- The rest of an addition, once the entry is known. -/
theorem balances_addRecord (h : s.WellFormed) (entry : EntryRef) :
    Program.Balances (Pool.Keeps WellFormed) WellFormed difference
      (do
        Program.write (addRecord entry kind (.new timestamp data))
        Program.write (addToCacheSize · (BeaconCacheRecord.new timestamp data).getDataSizeInBytes) :
        CacheProgram Unit) s 0 := by
  have htrue : Stable (Pool.Keeps WellFormed) fun _ : SharedCache => True := Stable.const True
  refine Program.balances_atomic_bind (fun _ => True) (fun _ _ => True)
    (fun _ => -(BeaconCacheRecord.new timestamp data).getDataSizeInBytes) stable_keeps htrue
    (fun _ => htrue) (fun s hs _ => ?_) h trivial fun _ s hs _ => ?_
  · exact ⟨⟨hs.nodup, hs.lt_numEntries⟩, trivial, difference_addRecord hs kind _⟩
  · refine Program.balances_atomic (fun _ => True) stable_keeps htrue (fun s hs _ => ?_) hs trivial
    refine ⟨⟨hs.nodup, hs.lt_numEntries⟩, (difference_addToCacheSize s _).trans ?_⟩
    omega

/-- **Adding** leaves the difference as it is: what the entry has gained, the counter gains. -/
theorem balances_addData (h : s.WellFormed) :
    Program.Balances (Pool.Keeps WellFormed) WellFormed difference
      (addData k kind timestamp data) s 0 := by
  have htrue : Stable (Pool.Keeps WellFormed) fun _ : SharedCache => True := Stable.const True
  rw [addData, getCachedEntryOrInsert, Program.bind_assoc']
  refine Program.balances_read_bind (fun _ => True) (fun _ _ => True) stable_keeps htrue
    (fun _ => htrue) (fun _ _ _ => trivial) h trivial fun found s hs _ => ?_
  cases found with
  | some entry => exact balances_addRecord hs entry
  | none =>
    refine Program.balances_atomic_bind (fun _ => True) (fun _ _ => True) (fun _ => 0) stable_keeps
      htrue (fun _ => htrue) (fun s hs _ => ?_) hs trivial fun entry s hs _ => ?_
    · exact ⟨hs.insertIfMissing, trivial, difference_insertIfMissing hs⟩
    · exact balances_addRecord hs entry

theorem otherBalances_addData {p : CacheProgram Unit} (hp : ApplicationCall p)
    (h : s.WellFormed) : Pool.OtherBalances AddStep WellFormed difference s p 0 := by
  cases hp with
  | addEventData k timestamp data => exact ⟨guarantees_addData, balances_addData h⟩
  | addActionData k timestamp data => exact ⟨guarantees_addData, balances_addData h⟩

end Operations

/-! ### The sending thread -/

section Sender

variable {s : SharedCache} {k : BeaconKey}

theorem stable_wellFormed : Stable AddStep WellFormed := fun _ _ hstep => hstep.wellFormed

/-- The entry that the sending thread has looked up stays in the map. -/
theorem stable_lookup (entry : EntryRef) :
    Stable AddStep fun s => s.beacons.lookup k = some entry :=
  fun _ _ hstep h => hstep.lookup k entry h

theorem balances_withEntry {body : EntryRef → CacheProgram Unit}
    (hbody : ∀ entry s, WellFormed s → s.beacons.lookup k = some entry →
      Program.Balances AddStep WellFormed difference (body entry) s 0) (h : s.WellFormed) :
    Program.Balances AddStep WellFormed difference (withEntry k body) s 0 := by
  have hlookup (found : Option EntryRef) :
      Stable AddStep fun s => ∀ entry, found = some entry → s.beacons.lookup k = some entry :=
    fun _ _ hstep h entry hentry => hstep.lookup k entry (h entry hentry)
  refine Program.balances_read_bind (fun _ => True)
    (fun found s => ∀ entry, found = some entry → s.beacons.lookup k = some entry)
    stable_wellFormed (Stable.const True) hlookup (fun s _ _ entry hentry => hentry) h trivial
    fun found s hs hmapped => ?_
  cases found with
  | none => exact Program.balances_ret stable_wellFormed hs
  | some entry => exact hbody entry s hs (hmapped entry rfl)

/-- A change of the entry, after which the counter follows. -/
theorem balances_change {F : EntryRef → SharedCache → ℤ × SharedCache}
    {e : BeaconCacheEntry → BeaconCacheEntry} {c : ℤ → ℤ} {entry : EntryRef}
    (hF : ∀ s, (F entry s).2 = s.setEntry entry (e (s.entries entry)))
    (hc : ∀ s, c (F entry s).1 =
      (e (s.entries entry)).totalNumBytes - (s.entries entry).totalNumBytes)
    (h : s.WellFormed) (hmapped : s.beacons.lookup k = some entry) :
    Program.Balances AddStep WellFormed difference
      (do
        let numBytes ← Program.atomic (F entry)
        Program.write (addToCacheSize · (c numBytes)) : CacheProgram Unit) s 0 := by
  refine Program.balances_atomic_bind (fun s => s.beacons.lookup k = some entry) (fun _ _ => True)
    (fun numBytes => -c numBytes) stable_wellFormed (stable_lookup entry)
    (fun _ => Stable.const True) (fun s hs hmapped => ?_) h hmapped fun numBytes s hs _ => ?_
  · rw [hF, hc]
    refine ⟨hs.setEntry entry _, trivial, ?_⟩
    rw [difference_setEntry hs (.inl (AList.mem_values_of_lookup hmapped)), neg_sub]
  · refine Program.balances_atomic (fun _ => True) stable_wellFormed (Stable.const True)
      (fun s hs _ => ?_) hs trivial
    refine ⟨⟨hs.nodup, hs.lt_numEntries⟩, (difference_addToCacheSize s _).trans ?_⟩
    omega

/-- A change of the entry that leaves its bytes as they are. -/
theorem balances_sameBytes {e : BeaconCacheEntry → BeaconCacheEntry} {entry : EntryRef}
    (he : ∀ entry, (e entry).totalNumBytes = entry.totalNumBytes) (h : s.WellFormed) :
    Program.Balances AddStep WellFormed difference
      (Program.write fun s => s.setEntry entry (e (s.entries entry)) : CacheProgram Unit) s 0 := by
  refine Program.balances_atomic (fun _ => True) stable_wellFormed (Stable.const True)
    (fun s hs _ => ?_) h trivial
  refine ⟨hs.setEntry entry _, (difference_setEntry hs (.inr (he _))).trans ?_⟩
  rw [he, sub_self, neg_zero]

/-- **The calls of the sending thread** leave the difference as it is. -/
theorem balances_of_senderCall {p : CacheProgram Unit} (hp : SenderCall p) (h : s.WellFormed) :
    Program.Balances AddStep WellFormed difference p s 0 := by
  cases hp with
  | prepareDataForSending k =>
    refine balances_withEntry (fun entry s hs hmapped => ?_) h
    refine Program.balances_read_bind (fun s => s.beacons.lookup k = some entry)
      (fun _ s => s.beacons.lookup k = some entry) stable_wellFormed (stable_lookup entry)
      (fun _ => stable_lookup entry) (fun _ _ h => h) hs hmapped fun needsCopy s hs hmapped => ?_
    cases needsCopy with
    | true =>
      refine balances_change (c := fun numBytes => -numBytes) (fun _ => rfl) (fun s => ?_) hs hmapped
      exact (zero_sub _).symm
    | false => exact Program.balances_ret stable_wellFormed hs
  | getNextBeaconChunk k chunkPrefix maxSize delimiter =>
    refine balances_withEntry (fun entry s hs _ => ?_) h
    refine balances_sameBytes
      (e := fun entry => (entry.getChunk chunkPrefix (toSizeT maxSize) delimiter).2)
      (fun entry => ?_) hs
    rw [BeaconCacheEntry.getChunk]
    split <;> rfl
  | removeChunkedData k =>
    refine balances_withEntry (fun entry s hs _ => ?_) h
    refine balances_sameBytes (e := BeaconCacheEntry.removeDataMarkedForSending)
      (fun entry => ?_) hs
    rw [BeaconCacheEntry.removeDataMarkedForSending]
    split <;> rfl
  | resetChunkedData k =>
    refine balances_withEntry (fun entry s hs hmapped => ?_) h
    exact balances_change (c := fun numBytes => numBytes) (fun _ => rfl) (fun _ => rfl) hs hmapped
  | deleteCacheEntry k =>
    refine Program.balances_atomic (fun _ => True) stable_wellFormed (Stable.const True)
      (fun s hs _ => ?_) h trivial
    exact ⟨hs.eraseEntry, difference_eraseEntry.trans neg_zero.symm⟩

end Sender

/-! ## Runs -/

theorem measured_empty : Pool.Measured AddStep WellFormed difference
    (⟨.ret (), [], empty⟩ : CacheThreads) := by
  have hempty : empty.WellFormed := ⟨List.nodup_nil, fun _ hentry => by cases hentry⟩
  exact ⟨hempty, 0, [], Program.balances_ret stable_wellFormed hempty, .nil, rfl⟩

/-- When no operation is in progress, the counter is the sum of the entries in the map and of the
records that came too late for their entry. -/
theorem counter_of_reaches {t : CacheThreads} (hreaches : Reaches t) (hidle : t.Idle) :
    t.state.cacheSizeInBytes = t.state.totalNumberOfBytes + dataSize t.state.strayRecords := by
  have hmeasured := Pool.measure_of_reaches (fun p hp s hs => balances_of_senderCall hp hs)
    (fun p hp s hs => otherBalances_addData hp hs) measured_empty hreaches
  have hzero : t.state.difference = 0 := (hmeasured.of_idle hidle).2
  rw [difference] at hzero
  omega

/-- **The counter among threads**: when no operation is in progress, the counter is the sum of the
entries in the map, unless a record with bytes was added to an entry that had left the map. -/
theorem accounted_iff_of_reaches {t : CacheThreads} (hreaches : Reaches t) (hidle : t.Idle) :
    t.state.cacheSizeInBytes = t.state.totalNumberOfBytes ↔
      ∀ record ∈ t.state.strayRecords, record.getDataSizeInBytes = 0 := by
  rw [counter_of_reaches hreaches hidle, ← dataSize_eq_zero_iff]
  omega

/-- A cache with one record, of the event `data`. -/
def oneRecord (k : BeaconKey) (data : UTF8String) : SharedCache :=
  addToCacheSize (addRecord 0 .event (.new 0 data) (insertIfMissing k empty).2)
    (BeaconCacheRecord.new 0 data).getDataSizeInBytes

theorem accounted_of_oneRecord :
    (oneRecord ⟨1, 0⟩ ⟨[97], 1⟩).cacheSizeInBytes =
      (oneRecord ⟨1, 0⟩ ⟨[97], 1⟩).totalNumberOfBytes := by
  have hreaches : Reaches ⟨.ret (), [], oneRecord ⟨1, 0⟩ ⟨[97], 1⟩⟩ := by
    refine .head (.start _ _ _ _ (.addEventData ⟨1, 0⟩ 0 ⟨[97], 1⟩)) ?_
    refine .head (.other _ [] [] _ _ _) <| .head (.other _ [] [] _ _ _) <|
      .head (.other _ [] [] _ _ _) <| .head (.other _ [] [] _ _ _) ?_
    exact .single (.done _ [] [] _)
  exact (accounted_iff_of_reaches hreaches ⟨rfl, rfl⟩).mpr (by decide)

/-- A cache without entries, after the record of the event `data` came too late. -/
def lateRecord (k : BeaconKey) (data : UTF8String) : SharedCache :=
  addToCacheSize (addRecord 0 .event (.new 0 data) (eraseEntry k (insertIfMissing k empty).2))
    (BeaconCacheRecord.new 0 data).getDataSizeInBytes

/-- The counter of an empty cache is one: its key was deleted between the look-up of an addition
and the record. -/
theorem not_accounted_of_lateRecord :
    ∃ t : CacheThreads, Reaches t ∧ t.Idle ∧
      t.state.cacheSizeInBytes ≠ t.state.totalNumberOfBytes := by
  refine ⟨⟨.ret (), [], lateRecord ⟨1, 0⟩ ⟨[97], 1⟩⟩, ?_, ⟨rfl, rfl⟩, by decide⟩
  refine .head (.start _ _ _ _ (.addEventData ⟨1, 0⟩ 0 ⟨[97], 1⟩)) ?_
  -- the addition has its entry, but has not added its record
  refine .head (.other _ [] [] _ _ _) <| .head (.other _ [] [] _ _ _) ?_
  refine .head (.call _ _ _ (.deleteCacheEntry ⟨1, 0⟩)) <| .head (.main _ _ _ _) ?_
  refine .head (.other _ [] [] _ _ _) <| .head (.other _ [] [] _ _ _) ?_
  exact .single (.done _ [] [] _)

end SharedCache

end OpenKit
