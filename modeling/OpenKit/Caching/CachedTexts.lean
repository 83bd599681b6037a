import OpenKit.Caching.BeaconCache

/-!
# The texts in the cache

The operations of the cache move records, mark them and drop some. None of them touches the text of a
record, so a property of the texts that were added is one of the texts in the cache.

## Main definitions

* `BeaconCacheEntry.AllTexts P`, `BeaconCache.AllTexts P`: the texts of all records have the property

## Main results

* `BeaconCache.AllTexts.addData`, `BeaconCache.AllTexts.evictRecordsByAge` and so on: each operation
  keeps the property
-/

namespace OpenKit

variable {P : UTF8String → Prop}

namespace BeaconCacheEntry

/-- The texts of the records of an entry, active or being sent, have a property. -/
structure AllTexts (P : UTF8String → Prop) (e : BeaconCacheEntry) : Prop where
  active : ∀ kind, ∀ r ∈ e.active kind, P r.data
  sending : ∀ kind, ∀ r ∈ e.sending kind, P r.data

theorem allTexts_new : AllTexts P .new := by
  constructor
  · intro kind
    rw [active_new]
    exact List.forall_mem_nil _
  · intro kind
    rw [sending_new]
    exact List.forall_mem_nil _

/-- Marking a record does not change its text. -/
theorem forall_mem_markFirst {rs : List BeaconCacheRecord} (h : ∀ r ∈ rs, P r.data) (n : ℕ) :
    ∀ r ∈ markFirst n rs, P r.data := by
  intro r hr
  rcases List.mem_append.mp hr with hmarked | hrest
  · obtain ⟨r', hr', rfl⟩ := List.mem_map.mp hmarked
    exact h r' (List.mem_of_mem_take hr')
  · exact h r (List.mem_of_mem_drop hrest)

/-- What is removed is removed from the front. -/
theorem removeOldestFrom_suffix (n : ℕ) (events actions : List BeaconCacheRecord) :
    (removeOldestFrom n events actions).2.1 <:+ events ∧
      (removeOldestFrom n events actions).2.2 <:+ actions := by
  fun_induction removeOldestFrom n events actions with
  | case1 events actions => exact ⟨List.suffix_rfl, List.suffix_rfl⟩
  | case2 n => exact ⟨List.suffix_rfl, List.suffix_rfl⟩
  | case3 n action actions rest ih => exact ⟨ih.1, ih.2.trans (List.suffix_cons _ _)⟩
  | case4 n event events rest ih => exact ⟨ih.1.trans (List.suffix_cons _ _), ih.2⟩
  | case5 n event events action actions h rest ih => exact ⟨ih.1, ih.2.trans (List.suffix_cons _ _)⟩
  | case6 n event events action actions h rest ih => exact ⟨ih.1.trans (List.suffix_cons _ _), ih.2⟩

namespace AllTexts

variable {e : BeaconCacheEntry}

theorem addData (h : e.AllTexts P) (kind : RecordKind) {r : BeaconCacheRecord} (hr : P r.data) :
    (e.addData kind r).AllTexts P := by
  constructor
  · intro kind'
    rw [active_addData]
    split
    · exact List.forall_mem_append.mpr ⟨h.active kind', List.forall_mem_singleton.mpr hr⟩
    · exact h.active kind'
  · intro kind'
    rw [sending_addData]
    exact h.sending kind'

theorem copyDataForSending (h : e.AllTexts P) : e.copyDataForSending.AllTexts P := by
  constructor
  · intro kind
    rw [active_copyDataForSending]
    exact List.forall_mem_nil _
  · intro kind
    rw [sending_copyDataForSending]
    exact List.forall_mem_append.mpr ⟨h.active kind, h.sending kind⟩

theorem getChunk (h : e.AllTexts P) (chunkPrefix : UTF8String) (maxSize : ℕ)
    (delimiter : UTF8String) : (e.getChunk chunkPrefix maxSize delimiter).2.AllTexts P := by
  constructor
  · intro kind
    rw [active_getChunk]
    exact h.active kind
  · intro kind
    rw [sending_getChunk]
    exact forall_mem_markFirst (h.sending kind) _

theorem removeDataMarkedForSending (h : e.AllTexts P) :
    e.removeDataMarkedForSending.AllTexts P := by
  constructor
  · intro kind
    rw [active_removeDataMarkedForSending]
    exact h.active kind
  · intro kind r hr
    rw [sending_removeDataMarkedForSending] at hr
    exact h.sending kind r (List.mem_of_mem_filter hr)

theorem resetDataMarkedForSending (h : e.AllTexts P) : e.resetDataMarkedForSending.AllTexts P := by
  constructor
  · intro kind r hr
    rw [active_resetDataMarkedForSending] at hr
    rcases List.mem_append.mp hr with hr | hr
    · obtain ⟨r', hr', rfl⟩ := List.mem_map.mp hr
      exact h.sending kind r' hr'
    · exact h.active kind r hr
  · intro kind
    rw [sending_resetDataMarkedForSending]
    exact List.forall_mem_nil _

theorem removeRecordsOlderThan (h : e.AllTexts P) (minTimestamp : ℤ) :
    (e.removeRecordsOlderThan minTimestamp).2.AllTexts P := by
  constructor
  · intro kind r hr
    rw [BeaconCacheEntry.removeRecordsOlderThan, removeRecordsOlderThanFrom_eq,
      removeRecordsOlderThanFrom_eq] at hr
    cases kind with
    | event => exact h.active .event r (List.mem_of_mem_filter hr)
    | action => exact h.active .action r (List.mem_of_mem_filter hr)
  · intro kind
    cases kind with
    | event => exact h.sending .event
    | action => exact h.sending .action

theorem removeOldestRecords (h : e.AllTexts P) (numRecords : ℤ) :
    (e.removeOldestRecords numRecords).2.AllTexts P := by
  obtain ⟨hevents, hactions⟩ := removeOldestFrom_suffix numRecords.toNat e.eventData e.actionData
  constructor
  · intro kind r hr
    cases kind with
    | event => exact h.active .event r (hevents.subset hr)
    | action => exact h.active .action r (hactions.subset hr)
  · intro kind
    cases kind with
    | event => exact h.sending .event
    | action => exact h.sending .action

/-- All records being sent. -/
theorem beingSent (h : e.AllTexts P) : ∀ r ∈ e.beingSent, P r.data := by
  intro r hr
  obtain ⟨kind, hr⟩ := mem_beingSent_iff.mp hr
  exact h.sending kind r hr

end AllTexts

end BeaconCacheEntry

namespace BeaconCache

/-- The texts of all records of a cache have a property. -/
def AllTexts (P : UTF8String → Prop) (c : BeaconCache) : Prop := ∀ k, (c.entryAt k).AllTexts P

theorem allTexts_empty : AllTexts P .empty := by
  intro k
  rw [entryAt_empty]
  exact BeaconCacheEntry.allTexts_new

namespace AllTexts

variable {c c' : BeaconCache} {k : BeaconKey}

/-- An operation on one entry. -/
theorem update (h : c.AllTexts P) {e : BeaconCacheEntry} (he : e.AllTexts P)
    (hentry : ∀ k', c'.entryAt k' = if k' = k then e else c.entryAt k') : c'.AllTexts P := by
  intro k'
  rw [hentry]
  split
  · exact he
  · exact h k'

theorem addData (h : c.AllTexts P) (k : BeaconKey) (kind : RecordKind) (timestamp : ℤ)
    {data : UTF8String} (hdata : P data) : (c.addData k kind timestamp data).AllTexts P :=
  h.update ((h k).addData kind hdata) fun _ => entryAt_addData kind timestamp data

theorem deleteCacheEntry (h : c.AllTexts P) (k : BeaconKey) : (c.deleteCacheEntry k).AllTexts P :=
  h.update BeaconCacheEntry.allTexts_new fun _ => entryAt_deleteCacheEntry

theorem prepareDataForSending (h : c.AllTexts P) (k : BeaconKey) :
    (c.prepareDataForSending k).AllTexts P := by
  refine h.update ?_ fun _ => entryAt_prepareDataForSending
  split
  · exact (h k).copyDataForSending
  · exact h k

theorem getNextBeaconChunk (h : c.AllTexts P) (k : BeaconKey) (chunkPrefix : UTF8String) (maxSize : ℤ)
    (delimiter : UTF8String) :
    (c.getNextBeaconChunk k chunkPrefix maxSize delimiter).2.AllTexts P :=
  h.update ((h k).getChunk chunkPrefix _ delimiter) fun _ =>
    entryAt_getNextBeaconChunk chunkPrefix maxSize delimiter

theorem removeChunkedData (h : c.AllTexts P) (k : BeaconKey) : (c.removeChunkedData k).AllTexts P :=
  h.update (h k).removeDataMarkedForSending fun _ => entryAt_removeChunkedData

theorem resetChunkedData (h : c.AllTexts P) (k : BeaconKey) : (c.resetChunkedData k).AllTexts P :=
  h.update (h k).resetDataMarkedForSending fun _ => entryAt_resetChunkedData

theorem evictRecordsByAge (h : c.AllTexts P) (k : BeaconKey) (minTimestamp : ℤ) :
    (c.evictRecordsByAge k minTimestamp).2.AllTexts P :=
  h.update ((h k).removeRecordsOlderThan minTimestamp) fun _ => entryAt_evictRecordsByAge minTimestamp

theorem evictRecordsByNumber (h : c.AllTexts P) (k : BeaconKey) (numRecords : ℕ) :
    (c.evictRecordsByNumber k numRecords).2.AllTexts P :=
  h.update ((h k).removeOldestRecords _) fun _ => entryAt_evictRecordsByNumber numRecords

end AllTexts

end BeaconCache

end OpenKit
