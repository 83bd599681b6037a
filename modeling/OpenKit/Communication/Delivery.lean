import OpenKit.Communication.BeaconSend

/-!
# Delivery of the records of a beacon

Every record added to a beacon whose data is not cleared is, at every point of every interleaving
of the sender with the threads of the application, either in an acknowledged chunk or in the cache,
once and in order. Each chunk consists of its prefix and of the first records being sent.

## Main definitions

* `Delivery L`: the invariant, for the beacons cleared so far `L`
* `BeaconChunk.WellFormed`: what a chunk consists of
* `Idle`, `Sending`, `InChunk`: the assertions between sends, between chunks, and from a chunk to
  its removal or restoration
* `BeaconSend.Sent`: what a send leaves behind

## Main results

* `BeaconSend.sat_send`: sending keeps the invariant, and leaves nothing being sent
* `BeaconSend.exactlyOnce_of_reaches`: the invariant at every point of any number of sends
-/

namespace OpenKit

open Thread

/-! ## The assertions -/

/-- All records of an entry of one kind, those being sent first. -/
def BeaconCacheEntry.records (e : BeaconCacheEntry) (kind : RecordKind) :
    List BeaconCacheRecord :=
  (e.sending kind).map (·.unsetSending) ++ e.active kind

/-- The records being sent are not marked. -/
def BeaconCacheEntry.Unmarked (e : BeaconCacheEntry) : Prop :=
  ∀ kind, ∀ r ∈ e.sending kind, r.markedForSending = false

/-- What a chunk consists of: it marks the first records being sent, none of which was marked
before, and its text is the prefix with the delimiter and the data of each of them. Without its last
record it is within the maximum size, if that is not negative. -/
structure BeaconChunk.WellFormed (c : BeaconChunk) : Prop where
  unmarked : ∀ r ∈ c.entry.beingSent, r.markedForSending = false
  marks : c.entryAfter.beingSent =
    (c.entry.beingSent.take c.numRecords).map (·.markForSending) ++
      c.entry.beingSent.drop c.numRecords
  text : c.text = (c.entry.beingSent.take c.numRecords).foldl
    (fun text r => (text.concatenate c.delimiter).concatenate r.data)
    (UTF8String.nil.concatenate c.chunkPrefix)
  size : 0 ≤ c.maxSize → 0 < c.numRecords →
    (((c.entry.beingSent.take (c.numRecords - 1)).foldl
      (fun text r => (text.concatenate c.delimiter).concatenate r.data)
      (UTF8String.nil.concatenate c.chunkPrefix)).getStringLength : ℤ) ≤ c.maxSize

/-- The chunk was requested and answered successfully. -/
def Answered (chunk : BeaconChunk) (w : World) : Prop :=
  ∃ answer, (chunk, answer) ∈ requests w.log ∧
    BeaconSendingResponseUtil.isSuccessfulResponse answer = true

/-- The invariant of delivery. The data of the beacons in `L` has been cleared. -/
structure Delivery (L : List BeaconKey) (w : World) : Prop where
  cleared : cleared w.log = L
  exactlyOnce : ∀ k ∉ L, ∀ kind,
    acknowledged k kind w.log ++ (w.cache.entryAt k).records kind = added k kind w.log
  active : ∀ k kind, ∀ r ∈ (w.cache.entryAt k).active kind, r.markedForSending = false
  chunks : ∀ request ∈ requests w.log, request.1.WellFormed
  answered : ∀ chunk, .acknowledged chunk ∈ w.log → Answered chunk w

/-- Nothing is being sent. -/
def Idle (w : World) : Prop := ∀ k, (w.cache.entryAt k).beingSent = []

/-- Only data of `k` is being sent, and no chunk is taken from it. -/
structure Sending (k : BeaconKey) (w : World) : Prop where
  others : ∀ k' ≠ k, (w.cache.entryAt k').beingSent = []
  unmarked : (w.cache.entryAt k).Unmarked

/-- Only data of `k` is being sent, and `chunk` is taken from it. -/
structure InChunk (k : BeaconKey) (chunk : BeaconChunk) (w : World) : Prop where
  others : ∀ k' ≠ k, (w.cache.entryAt k').beingSent = []
  key : chunk.key = k
  unmarked : chunk.entry.Unmarked
  sending : ∀ kind, (w.cache.entryAt k).sending kind = chunk.entryAfter.sending kind

/-- Under the condition `hf`, the session is finished and nothing but the data being sent is left
of it. -/
def Drained (hf : Prop) (k : BeaconKey) (w : World) : Prop :=
  hf → (k ∈ w.created ∧ (w.session k).isSessionFinished = true) ∧
    ∀ kind, (w.cache.entryAt k).active kind = []

theorem Drained.mono {hf hf' : Prop} {k : BeaconKey} {w : World} (h : Drained hf k w)
    (himp : hf' → hf) : Drained hf' k w :=
  fun hhf => h (himp hhf)

/-! ## Chunks -/

theorem toSizeT_le {n : ℤ} (h : 0 ≤ n) : (toSizeT n : ℤ) ≤ n := by
  rw [toSizeT]
  omega

theorem BeaconChunk.WellFormed.of_getNextBeaconChunk {c : BeaconCache} {k : BeaconKey}
    {chunkPrefix : UTF8String} {maxSize : ℤ} {delimiter : UTF8String}
    (hdata : c.hasDataForSending k = true) (hu : (c.entryAt k).Unmarked) :
    BeaconChunk.WellFormed ⟨k, c.entryAt k, chunkPrefix, maxSize, delimiter,
      (c.getNextBeaconChunk k chunkPrefix maxSize delimiter).1⟩ := by
  rw [BeaconCache.hasDataForSending_eq] at hdata
  have hget : (c.entryAt k).getChunk chunkPrefix (toSizeT maxSize) delimiter =
      (c.entryAt k).getNextChunk chunkPrefix (toSizeT maxSize) delimiter := by
    rw [BeaconCacheEntry.getChunk, hdata]
    rfl
  constructor
  · intro r hr
    obtain ⟨kind, hr⟩ := BeaconCacheEntry.mem_beingSent_iff.mp hr
    exact hu kind r hr
  · rw [BeaconChunk.entryAfter, hget]
    exact BeaconCacheEntry.getNextChunk_beingSent
  · simp only
    rw [BeaconCache.getNextBeaconChunk_fst, hget]
    exact BeaconCacheEntry.getNextChunk_fst
  · intro hmax hn
    have hlen := BeaconCacheEntry.length_appendRecords_le (Nat.sub_lt hn Nat.one_pos)
    exact le_trans (by exact_mod_cast hlen) (toSizeT_le hmax)

/-! ## Steps of the application -/

variable {mayAdd : World → BeaconKey → UTF8String → Prop} {w w' : World} {L : List BeaconKey}
  {k : BeaconKey}

/-- A step of the application adds a record, or leaves the cache and the log as they are. -/
theorem AppStep.add_or_keep (h : AppStep mayAdd w w') :
    (∃ k kind timestamp data, mayAdd w k data ∧ w' = w.addData k kind timestamp data) ∨
      w'.cache = w.cache ∧ w'.log = w.log := by
  cases h with
  | add k kind timestamp data h => exact .inl ⟨k, kind, timestamp, data, h, rfl⟩
  | touch => exact .inr ⟨rfl, rfl⟩
  | finish => exact .inr ⟨rfl, rfl⟩
  | create => exact .inr ⟨rfl, rfl⟩
  | requestShutdown => exact .inr ⟨rfl, rfl⟩
  | tick => exact .inr ⟨rfl, rfl⟩

@[simp] theorem World.entryAt_addData (w : World) (k k' : BeaconKey) (kind : RecordKind)
    (timestamp : ℤ) (data : UTF8String) :
    (w.addData k kind timestamp data).cache.entryAt k' =
      if k' = k then (w.cache.entryAt k).addData kind (.new timestamp data)
      else w.cache.entryAt k' :=
  BeaconCache.entryAt_addData kind timestamp data

/-- The application does not touch the records being sent. -/
theorem AppStep.sending_eq (h : AppStep mayAdd w w') (k : BeaconKey) (kind : RecordKind) :
    (w'.cache.entryAt k).sending kind = (w.cache.entryAt k).sending kind := by
  rcases h.add_or_keep with ⟨k', kind', timestamp, data, -, rfl⟩ | ⟨hcache, -⟩
  · rw [World.entryAt_addData]
    split
    next hk => rw [hk, BeaconCacheEntry.sending_addData]
    next => rfl
  · rw [hcache]

theorem AppStep.beingSent_eq_nil_iff (h : AppStep mayAdd w w') (k : BeaconKey) :
    (w'.cache.entryAt k).beingSent = [] ↔ (w.cache.entryAt k).beingSent = [] := by
  simp only [BeaconCacheEntry.beingSent_eq_nil_iff, h.sending_eq]

theorem AppStep.finished (h : AppStep mayAdd w w')
    (hk : k ∈ w.created ∧ (w.session k).isSessionFinished = true) :
    k ∈ w'.created ∧ (w'.session k).isSessionFinished = true := by
  cases h with
  | add => exact hk
  | touch k' session hsame =>
    refine ⟨hk.1, ?_⟩
    rw [World.session_updateSession]
    split
    next hkk =>
      subst hkk
      exact hsame.isSessionFinished.trans hk.2
    next => exact hk.2
  | finish k' =>
    refine ⟨hk.1, ?_⟩
    by_cases hkk : k = k'
    · subst hkk
      simp [World.session, World.updateSession, Session.markAsFinished]
    · simp only [World.session, World.updateSession, Function.update_of_ne hkk]
      exact hk.2
  | create k' session hnew hopen =>
    have hkk : k ≠ k' := fun hkk => hnew (hkk ▸ hk.1)
    refine ⟨List.mem_append_left _ hk.1, ?_⟩
    simp only [World.session, World.updateSession, Function.update_of_ne hkk]
    exact hk.2
  | requestShutdown => exact hk
  | tick => exact hk

theorem stable_idle : Stable (AppStep mayAdd) Idle :=
  fun _ _ hstep h k => (hstep.beingSent_eq_nil_iff k).mpr (h k)

theorem stable_sending : Stable (AppStep mayAdd) (Sending k) := by
  intro w w' hstep h
  refine ⟨fun k' hk => (hstep.beingSent_eq_nil_iff k').mpr (h.others k' hk), fun kind r hr => ?_⟩
  rw [hstep.sending_eq] at hr
  exact h.unmarked kind r hr

theorem stable_inChunk {chunk : BeaconChunk} : Stable (AppStep mayAdd) (InChunk k chunk) := by
  intro w w' hstep h
  refine ⟨fun k' hk => (hstep.beingSent_eq_nil_iff k').mpr (h.others k' hk), h.key, h.unmarked,
    fun kind => ?_⟩
  rw [hstep.sending_eq]
  exact h.sending kind

theorem stable_hasData : Stable (AppStep mayAdd) fun w => w.cache.hasDataForSending k = true := by
  intro w w' hstep h
  simp only [BeaconCache.hasDataForSending_eq, BeaconCacheEntry.hasDataToSend_iff] at h ⊢
  rwa [ne_eq, hstep.beingSent_eq_nil_iff]

theorem stable_drained {hf : Prop}
    (hguard : hf → ∀ w data, mayAdd w k data → (w.session k).isSessionFinished = false) :
    Stable (AppStep mayAdd) (Drained hf k) := by
  intro w w' hstep h hhf
  obtain ⟨hfin, hactive⟩ := h hhf
  refine ⟨hstep.finished hfin, fun kind => ?_⟩
  rcases hstep.add_or_keep with ⟨k', kind', timestamp, data, hmay, rfl⟩ | ⟨hcache, -⟩
  · -- nothing is added to a finished session
    have hk : k ≠ k' := by
      rintro rfl
      exact Bool.false_ne_true ((hguard hhf w data hmay).symm.trans hfin.2)
    rw [World.entryAt_addData, if_neg hk]
    exact hactive kind
  · rw [hcache]
    exact hactive kind

/-- The log only grows. -/
theorem Answered.append {chunk : BeaconChunk} {new : List Event} (h : Answered chunk w)
    (hlog : w'.log = w.log ++ new) : Answered chunk w' := by
  obtain ⟨answer, hr, hs⟩ := h
  refine ⟨answer, ?_, hs⟩
  rw [hlog, requests_append]
  exact List.mem_append_left _ hr

theorem stable_answered {chunk : BeaconChunk} :
    Stable (AppStep mayAdd) (Answered chunk) := by
  intro w w' hstep h
  rcases hstep.add_or_keep with ⟨k, kind, timestamp, data, -, rfl⟩ | ⟨-, hlog⟩
  · exact h.append rfl
  · exact h.append (hlog.trans (List.append_nil _).symm)

/-- Adding a record appends it to the active records and to those added. -/
theorem Delivery.addData (h : Delivery L w) (k : BeaconKey) (kind : RecordKind) (timestamp : ℤ)
    (data : UTF8String) : Delivery L (w.addData k kind timestamp data) := by
  have hlog : (w.addData k kind timestamp data).log =
      w.log ++ [.added k kind (.new timestamp data)] := rfl
  refine ⟨?_, fun k' hk' kind' => ?_, fun k' kind' r hr => ?_, fun request hr => ?_,
    fun chunk hc => ?_⟩
  · rw [hlog, cleared_append]
    exact (List.append_nil _).trans h.cleared
  · have hold := h.exactlyOnce k' hk' kind'
    rw [hlog, acknowledged_append, added_append, ← hold, World.entryAt_addData]
    simp only [BeaconCacheEntry.records]
    by_cases hk : k' = k
    · subst hk
      rw [if_pos rfl, BeaconCacheEntry.sending_addData, BeaconCacheEntry.active_addData]
      by_cases hkind : kind' = kind
      · subst hkind
        simp [acknowledged, added]
      · simp [acknowledged, added, hkind, Ne.symm hkind]
    · simp [acknowledged, added, hk, Ne.symm hk]
  · rw [World.entryAt_addData] at hr
    split at hr
    next hk =>
      rw [BeaconCacheEntry.active_addData] at hr
      split at hr
      · rcases List.mem_append.mp hr with hr | hr
        · exact h.active k kind' r hr
        · rw [List.mem_singleton.mp hr]
          rfl
      · exact h.active k kind' r hr
    next => exact h.active k' kind' r hr
  · rw [hlog, requests_append] at hr
    rcases List.mem_append.mp hr with hr | hr
    · exact h.chunks request hr
    · exact absurd hr (List.not_mem_nil)
  · rw [hlog] at hc
    rcases List.mem_append.mp hc with hc | hc
    · exact (h.answered chunk hc).append hlog
    · simp at hc

theorem stable_delivery : Stable (AppStep mayAdd) (Delivery L) := by
  intro w w' hstep h
  rcases hstep.add_or_keep with ⟨k, kind, timestamp, data, -, rfl⟩ | ⟨hcache, hlog⟩
  · exact h.addData k kind timestamp data
  · refine ⟨?_, ?_, ?_, ?_, fun chunk hc => ?_⟩
    · rw [hlog]
      exact h.cleared
    · rw [hlog, hcache]
      exact h.exactlyOnce
    · rw [hcache]
      exact h.active
    · rw [hlog]
      exact h.chunks
    · exact (h.answered chunk (hlog ▸ hc)).append (hlog.trans (List.append_nil _).symm)

/-! ## Records in the cache -/

namespace BeaconCache

variable {c : BeaconCache} (k' : BeaconKey) (kind : RecordKind)

/-- Preparing the data of a beacon keeps the records in their order. -/
theorem records_prepareDataForSending
    (hactive : ∀ r ∈ (c.entryAt k').active kind, r.markedForSending = false) :
    ((c.prepareDataForSending k).entryAt k').records kind = (c.entryAt k').records kind := by
  rw [entryAt_prepareDataForSending]
  split
  next hk =>
    subst hk
    split
    next hn =>
      have hs := (BeaconCacheEntry.needsDataCopyBeforeSending_iff.mp hn).1
      have hu := BeaconCacheEntry.map_unsetSending_of_unmarked hactive
      simp only [BeaconCacheEntry.records, BeaconCacheEntry.sending_copyDataForSending,
        BeaconCacheEntry.active_copyDataForSending, BeaconCacheEntry.beingSent_eq_nil_iff.mp hs,
        List.append_nil, List.map_nil, List.nil_append, hu]
    next => rfl
  next => rfl

/-- Taking a chunk keeps them as well. -/
theorem records_getNextBeaconChunk (chunkPrefix : UTF8String) (maxSize : ℤ)
    (delimiter : UTF8String) :
    ((c.getNextBeaconChunk k chunkPrefix maxSize delimiter).2.entryAt k').records kind =
      (c.entryAt k').records kind := by
  rw [entryAt_getNextBeaconChunk]
  split
  next hk =>
    subst hk
    simp only [BeaconCacheEntry.records, BeaconCacheEntry.active_getChunk,
      BeaconCacheEntry.sending_getChunk, BeaconCacheEntry.map_unsetSending_markFirst]
  next => rfl

/-- Restoring a chunk keeps them as well. -/
theorem records_resetChunkedData :
    ((c.resetChunkedData k).entryAt k').records kind = (c.entryAt k').records kind := by
  rw [entryAt_resetChunkedData]
  split
  next hk =>
    subst hk
    simp [BeaconCacheEntry.records]
  next => rfl

end BeaconCache

/-- The records being sent after a chunk is removed are those not in it. -/
theorem InChunk.sending_removeChunkedData {chunk : BeaconChunk} (h : InChunk k chunk w)
    (kind : RecordKind) :
    ((w.cache.removeChunkedData k).entryAt k).sending kind =
      (chunk.entry.sending kind).drop (chunk.entry.kindCount chunk.numRecords kind) := by
  rw [BeaconCache.entryAt_removeChunkedData, if_pos rfl,
    BeaconCacheEntry.sending_removeDataMarkedForSending, h.sending, BeaconChunk.entryAfter,
    BeaconCacheEntry.sending_getChunk, BeaconCacheEntry.filter_markFirst (h.unmarked kind)]
  rfl

/-- The records of a chunk that is removed are the first ones of those that were there. -/
theorem InChunk.records_removeChunkedData {chunk : BeaconChunk} (h : InChunk k chunk w)
    (k' : BeaconKey) (kind : RecordKind) :
    acknowledged k' kind [.acknowledged chunk] ++
        ((w.cache.removeChunkedData k).entryAt k').records kind =
      (w.cache.entryAt k').records kind := by
  by_cases hk : k' = k
  · subst hk
    have hchunk : acknowledged k' kind [.acknowledged chunk] = chunk.records kind := by
      simp [acknowledged, h.key]
    have hold : (w.cache.entryAt k').sending kind =
        BeaconCacheEntry.markFirst (chunk.entry.kindCount chunk.numRecords kind)
          (chunk.entry.sending kind) := by
      rw [h.sending, BeaconChunk.entryAfter, BeaconCacheEntry.sending_getChunk]
      rfl
    have hdrop : ∀ r ∈ (chunk.entry.sending kind).drop
        (chunk.entry.kindCount chunk.numRecords kind), r.markedForSending = false :=
      fun r hr => h.unmarked kind r (List.mem_of_mem_drop hr)
    rw [hchunk, BeaconCacheEntry.records, h.sending_removeChunkedData, BeaconCacheEntry.records,
      hold, BeaconCacheEntry.map_unsetSending_markFirst,
      BeaconCacheEntry.map_unsetSending_of_unmarked hdrop,
      BeaconCacheEntry.map_unsetSending_of_unmarked (h.unmarked kind), ← List.append_assoc,
      BeaconChunk.records, List.take_append_drop, BeaconCache.entryAt_removeChunkedData,
      if_pos rfl, BeaconCacheEntry.active_removeDataMarkedForSending]
  · have hchunk : acknowledged k' kind [.acknowledged chunk] = [] := by
      simp [acknowledged, h.key, Ne.symm hk]
    rw [hchunk, BeaconCache.entryAt_removeChunkedData, if_neg hk, List.nil_append]

/-! ## Steps of the sender -/

/-- The entry of the log for a request. -/
def requestEvent (r : Phase × BeaconChunk × Option Answer) : Event := .requested r.1 r.2.1 r.2.2

@[simp] theorem cleared_map_requestEvent (rs : List (Phase × BeaconChunk × Option Answer)) :
    cleared (rs.map requestEvent) = [] := by
  refine List.filterMap_eq_nil_iff.mpr fun event he => ?_
  obtain ⟨r, -, rfl⟩ := List.mem_map.mp he
  rfl

@[simp] theorem acknowledged_map_requestEvent (kind : RecordKind)
    (rs : List (Phase × BeaconChunk × Option Answer)) :
    acknowledged k kind (rs.map requestEvent) = [] := by
  refine List.flatMap_eq_nil_iff.mpr fun event he => ?_
  obtain ⟨r, -, rfl⟩ := List.mem_map.mp he
  rfl

@[simp] theorem added_map_requestEvent (kind : RecordKind)
    (rs : List (Phase × BeaconChunk × Option Answer)) :
    added k kind (rs.map requestEvent) = [] := by
  refine List.filterMap_eq_nil_iff.mpr fun event he => ?_
  obtain ⟨r, -, rfl⟩ := List.mem_map.mp he
  rfl

@[simp] theorem requests_map_requestEvent (rs : List (Phase × BeaconChunk × Option Answer)) :
    requests (rs.map requestEvent) = rs.map fun r => (r.2.1, r.2.2) := by
  induction rs with
  | nil => rfl
  | cons r rs ih => exact congrArg ((r.2.1, r.2.2) :: ·) ih

/-- A step of the sender that changes marks and places of records only keeps the invariant. It may
log requests. -/
theorem Delivery.of_records (h : Delivery L w) (new : List (Phase × BeaconChunk × Option Answer))
    (hlog : w'.log = w.log ++ new.map requestEvent)
    (hchunks : ∀ r ∈ new, r.2.1.WellFormed)
    (hrecords : ∀ k kind, (w'.cache.entryAt k).records kind = (w.cache.entryAt k).records kind)
    (hactive : ∀ k kind, ∀ r ∈ (w'.cache.entryAt k).active kind, r.markedForSending = false) :
    Delivery L w' := by
  refine ⟨?_, fun k hk kind => ?_, hactive, fun request hr => ?_, fun chunk hc => ?_⟩
  · rw [hlog, cleared_append, cleared_map_requestEvent, List.append_nil]
    exact h.cleared
  · rw [hlog, acknowledged_append, added_append, acknowledged_map_requestEvent,
      added_map_requestEvent, hrecords, List.append_nil, List.append_nil]
    exact h.exactlyOnce k hk kind
  · rw [hlog, requests_append, requests_map_requestEvent] at hr
    rcases List.mem_append.mp hr with hr | hr
    · exact h.chunks request hr
    · obtain ⟨r, hnew, rfl⟩ := List.mem_map.mp hr
      exact hchunks r hnew
  · rw [hlog] at hc
    rcases List.mem_append.mp hc with hc | hc
    · exact (h.answered chunk hc).append hlog
    · obtain ⟨r, -, hr⟩ := List.mem_map.mp hc
      exact absurd hr Event.noConfusion

/-- The same, if the log stays as it is. -/
theorem Delivery.of_cache (h : Delivery L w) {cache : BeaconCache}
    (hrecords : ∀ k kind, (cache.entryAt k).records kind = (w.cache.entryAt k).records kind)
    (hactive : ∀ k kind, ∀ r ∈ (cache.entryAt k).active kind, r.markedForSending = false) :
    Delivery L (w.setCache cache) :=
  h.of_records [] (List.append_nil _).symm (List.forall_mem_nil _) hrecords hactive

theorem Delivery.prepareDataForSending (h : Delivery L w) (k : BeaconKey) :
    Delivery L (w.setCache (w.cache.prepareDataForSending k)) := by
  refine h.of_cache (fun k' kind => ?_) (fun k' kind r hr => ?_)
  · exact BeaconCache.records_prepareDataForSending k' kind (h.active k' kind)
  · rw [BeaconCache.entryAt_prepareDataForSending] at hr
    split at hr
    next hk =>
      split at hr
      next => simp at hr
      next => exact h.active k kind r hr
    next => exact h.active k' kind r hr

/-- Preparing the data of one beacon while nothing is being sent. -/
theorem Idle.prepareDataForSending (h : Idle w)
    (hactive : ∀ k kind, ∀ r ∈ (w.cache.entryAt k).active kind, r.markedForSending = false)
    (k : BeaconKey) : Sending k (w.setCache (w.cache.prepareDataForSending k)) := by
  constructor
  · intro k' hk
    rw [World.cache_setCache, BeaconCache.entryAt_prepareDataForSending, if_neg hk]
    exact h k'
  · intro kind r hr
    have hs := BeaconCacheEntry.beingSent_eq_nil_iff.mp (h k) kind
    rw [World.cache_setCache, BeaconCache.entryAt_prepareDataForSending, if_pos rfl] at hr
    split at hr
    · rw [BeaconCacheEntry.sending_copyDataForSending, hs, List.append_nil] at hr
      exact hactive k kind r hr
    · rw [hs] at hr
      exact absurd hr List.not_mem_nil

/-- Preparing the data of a beacon that has nothing being sent leaves nothing active. -/
theorem active_prepareDataForSending {c : BeaconCache} (h : (c.entryAt k).beingSent = [])
    (kind : RecordKind) : ((c.prepareDataForSending k).entryAt k).active kind = [] := by
  rw [BeaconCache.entryAt_prepareDataForSending, if_pos rfl]
  split
  next => exact BeaconCacheEntry.active_copyDataForSending _ _
  next hn =>
    rw [BeaconCacheEntry.needsDataCopyBeforeSending_iff, not_and_or, not_or] at hn
    rcases hn with hn | hn
    · exact absurd h hn
    · exact BeaconCacheEntry.active_eq_nil_iff.mpr ⟨not_not.mp hn.1, not_not.mp hn.2⟩ kind

theorem Delivery.getNextBeaconChunk (h : Delivery L w) (k : BeaconKey) (chunkPrefix : UTF8String)
    (maxSize : ℤ) (delimiter : UTF8String) :
    Delivery L (w.setCache (w.cache.getNextBeaconChunk k chunkPrefix maxSize delimiter).2) := by
  refine h.of_cache (fun k' kind => ?_) (fun k' kind r hr => ?_)
  · exact BeaconCache.records_getNextBeaconChunk k' kind _ _ _
  · rw [BeaconCache.entryAt_getNextBeaconChunk] at hr
    split at hr
    next hk =>
      rw [BeaconCacheEntry.active_getChunk] at hr
      exact h.active k kind r hr
    next => exact h.active k' kind r hr

theorem Sending.getNextBeaconChunk (h : Sending k w) (chunkPrefix : UTF8String) (maxSize : ℤ)
    (delimiter text : UTF8String) :
    InChunk k ⟨k, w.cache.entryAt k, chunkPrefix, maxSize, delimiter, text⟩
      (w.setCache (w.cache.getNextBeaconChunk k chunkPrefix maxSize delimiter).2) := by
  refine ⟨fun k' hk => ?_, rfl, h.unmarked, fun kind => ?_⟩
  · rw [World.cache_setCache, BeaconCache.entryAt_getNextBeaconChunk, if_neg hk]
    exact h.others k' hk
  · rw [World.cache_setCache, BeaconCache.entryAt_getNextBeaconChunk, if_pos rfl]
    rfl

/-- **Acknowledging a chunk** moves its records from those being sent to those acknowledged. -/
theorem InChunk.delivery_removeChunkedData {chunk : BeaconChunk} (h : InChunk k chunk w)
    (hd : Delivery L w) (hanswered : Answered chunk w) :
    Delivery L ((w.setCache (w.cache.removeChunkedData k)).write (.acknowledged chunk)) := by
  refine ⟨?_, fun k' hk' kind => ?_, fun k' kind r hr => ?_, fun request hr => ?_,
    fun chunk' hc => ?_⟩
  · rw [World.log_write, World.log_setCache, cleared_append]
    exact (List.append_nil _).trans hd.cleared
  · have hnone : added k' kind [.acknowledged chunk] = [] := rfl
    rw [World.log_write, World.cache_write, World.log_setCache, World.cache_setCache,
      acknowledged_append, added_append, hnone, List.append_nil, ← hd.exactlyOnce k' hk' kind,
      List.append_assoc, h.records_removeChunkedData]
  · rw [World.cache_write, World.cache_setCache, BeaconCache.entryAt_removeChunkedData] at hr
    split at hr
    next hk =>
      rw [BeaconCacheEntry.active_removeDataMarkedForSending] at hr
      exact hd.active k kind r hr
    next => exact hd.active k' kind r hr
  · rw [World.log_write, World.log_setCache, requests_append] at hr
    rcases List.mem_append.mp hr with hr | hr
    · exact hd.chunks request hr
    · exact absurd hr List.not_mem_nil
  · rw [World.log_write, World.log_setCache] at hc
    rcases List.mem_append.mp hc with hc | hc
    · exact (hd.answered chunk' hc).append rfl
    · obtain rfl := Event.acknowledged.inj (List.mem_singleton.mp hc)
      exact hanswered.append rfl

theorem InChunk.removeChunkedData {chunk : BeaconChunk} (h : InChunk k chunk w) :
    Sending k ((w.setCache (w.cache.removeChunkedData k)).write (.acknowledged chunk)) := by
  refine ⟨fun k' hk => ?_, fun kind r hr => ?_⟩
  · rw [World.cache_write, World.cache_setCache, BeaconCache.entryAt_removeChunkedData,
      if_neg hk]
    exact h.others k' hk
  · rw [World.cache_write, World.cache_setCache, h.sending_removeChunkedData] at hr
    exact h.unmarked kind r (List.mem_of_mem_drop hr)

/-- **Restoring a chunk** puts all records being sent back in front of the active ones. -/
theorem Delivery.resetChunkedData (h : Delivery L w) (k : BeaconKey) :
    Delivery L (w.setCache (w.cache.resetChunkedData k)) := by
  refine h.of_cache (fun k' kind => ?_) (fun k' kind r hr => ?_)
  · exact BeaconCache.records_resetChunkedData k' kind
  · rw [BeaconCache.entryAt_resetChunkedData] at hr
    split at hr
    next hk =>
      rw [BeaconCacheEntry.active_resetDataMarkedForSending] at hr
      rcases List.mem_append.mp hr with hr | hr
      · obtain ⟨r', -, rfl⟩ := List.mem_map.mp hr
        rfl
      · exact h.active k kind r hr
    next => exact h.active k' kind r hr

theorem InChunk.resetChunkedData {chunk : BeaconChunk} (h : InChunk k chunk w) :
    Idle (w.setCache (w.cache.resetChunkedData k)) := by
  intro k'
  rw [World.cache_setCache, BeaconCache.entryAt_resetChunkedData]
  split
  next =>
    exact BeaconCacheEntry.beingSent_eq_nil_iff.mpr fun kind =>
      BeaconCacheEntry.sending_resetDataMarkedForSending _ kind
  next hk => exact h.others k' hk

/-- The request for a chunk is logged with the chunk, which was well formed when it was taken. -/
theorem Delivery.request (h : Delivery L w) {chunk : BeaconChunk} (hc : chunk.WellFormed)
    (phase : Phase) (answer : Option Answer) (numRequests : ℕ) :
    Delivery L ({ w with numRequests := numRequests }.write (.requested phase chunk answer)) :=
  h.of_records [(phase, chunk, answer)] rfl (List.forall_mem_singleton.mpr hc)
    (fun _ _ => rfl) h.active

/-! ## Sending -/

namespace BeaconSend

variable {env : Environment} {hf : Prop}

/-- What a send leaves behind: nothing is being sent, and after a successful last answer nothing
at all is left of a session that was finished before. -/
def Sent (hf : Prop) (k : BeaconKey) (answer : Option Answer) (w : World) : Prop :=
  Idle w ∧ Drained (hf ∧ BeaconSendingResponseUtil.isSuccessfulResponse answer = true) k w

theorem idle_of_no_data (hs : Sending k w) (h : w.cache.hasDataForSending k = false) : Idle w := by
  intro k'
  by_cases hk : k' = k
  · rw [hk]
    rw [BeaconCache.hasDataForSending_eq, BeaconCacheEntry.hasDataToSend_eq_false_iff] at h
    exact h
  · exact hs.others k' hk

section Guard

variable (hguard : hf → ∀ w data, mayAdd w k data → (w.session k).isSessionFinished = false)

include hguard

theorem stable_sent (answer : Option Answer) : Stable (AppStep mayAdd) (Sent hf k answer) :=
  stable_idle.and (stable_drained fun h => hguard h.1)

/-- **A round** keeps the invariant: it goes on with some data of the beacon being sent, or
leaves nothing being sent. -/
theorem sat_sendChunk (hd : Delivery L w) (hs : Sending k w) (hdrained : Drained hf k w)
    (response : Option Answer) :
    Program.Sat (AppStep mayAdd) (Delivery L) (sendChunk env k response)
      (Program.Round (fun _ w => Sending k w ∧ Drained hf k w) (Sent hf k)) w := by
  have hbegun : Stable (AppStep mayAdd) fun w => Sending k w ∧ Drained hf k w :=
    stable_sending.and (stable_drained hguard)
  have htaken (chunk : BeaconChunk) : Stable (AppStep mayAdd) fun w =>
      InChunk k chunk w ∧ Drained hf k w := stable_inChunk.and (stable_drained hguard)
  have hround := Program.Round.stable (fun _ : Option Answer => hbegun) (stable_sent hguard)
  -- is there data to send?
  refine (Program.sat_read (Q := fun b w => (Sending k w ∧ Drained hf k w) ∧
      ((b = true → w.cache.hasDataForSending k = true) ∧ (b = false → Idle w)))
    stable_delivery hbegun (fun b => ?_) (fun t _ ht => ⟨ht, id, idle_of_no_data ht.1⟩)
    hd ⟨hs, hdrained⟩).seq fun b w hd hb => ?_
  · refine hbegun.and (Stable.and ?_ ?_)
    · exact fun _ _ hstep h hb => stable_hasData _ _ hstep (h hb)
    · exact fun _ _ hstep h hb => stable_idle _ _ hstep (h hb)
  cases b with
  | false =>
    obtain ⟨⟨-, hdrained⟩, -, hidle⟩ := hb
    exact Program.sat_ret stable_delivery (hround _) hd ⟨hidle rfl, Drained.mono hdrained And.left⟩
  | true =>
    obtain ⟨hb, hdata, -⟩ := hb
    have hready : Stable (AppStep mayAdd) fun w =>
        (Sending k w ∧ Drained hf k w) ∧ w.cache.hasDataForSending k = true :=
      hbegun.and stable_hasData
    -- the prefix and the size
    refine (Program.sat_read (Q := fun (chunkPrefix : UTF8String) w =>
        ((Sending k w ∧ Drained hf k w) ∧ w.cache.hasDataForSending k = true) ∧
          0 < chunkPrefix.stringLength)
      stable_delivery hready (fun _ => hready.and (.const _)) (fun t _ ht => ⟨ht, chunkPrefix_pos⟩)
      hd ⟨hb, hdata rfl⟩).seq fun chunkPrefix w hd hb => ?_
    obtain ⟨hb, hprefix⟩ := hb
    refine (Program.sat_read (Q := fun (_ : ℤ) w =>
        (Sending k w ∧ Drained hf k w) ∧ w.cache.hasDataForSending k = true)
      stable_delivery hready (fun _ => hready) (fun _ _ ht => ht) hd hb).seq fun maxSize w hd hb => ?_
    -- the chunk, which is not empty as there is data
    refine (Program.sat_atomic (Q := fun (chunk : BeaconChunk) w =>
        (InChunk k chunk w ∧ Drained hf k w) ∧ (chunk.WellFormed ∧ chunk.text.isEmpty = false))
      stable_delivery hready (fun chunk => (htaken chunk).and (.const _)) (fun t hd ht => ?_)
      hd hb).seq fun chunk w hd hb => ?_
    · obtain ⟨⟨hs, hdrained⟩, hdata⟩ := ht
      refine ⟨hd.getNextBeaconChunk k _ _ _, ⟨hs.getNextBeaconChunk _ _ _ _, fun hhf => ?_⟩,
        .of_getNextBeaconChunk hdata hs.unmarked, getNextBeaconChunk_isEmpty hprefix hdata⟩
      obtain ⟨hfin, hactive⟩ := hdrained hhf
      refine ⟨hfin, fun kind => ?_⟩
      rw [World.cache_setCache, BeaconCache.entryAt_getNextBeaconChunk, if_pos rfl,
        BeaconCacheEntry.active_getChunk]
      exact hactive kind
    obtain ⟨hb, hwell, htext⟩ := hb
    rw [htext]
    -- the request
    have hasked (answer : Option Answer) : Stable (AppStep mayAdd) fun w =>
        (InChunk k chunk w ∧ Drained hf k w) ∧
          (BeaconSendingResponseUtil.isSuccessfulResponse answer = true → Answered chunk w) :=
      (htaken chunk).and fun _ _ hstep h hs => stable_answered _ _ hstep (h hs)
    refine (Program.sat_atomic (Q := fun (answer : Option Answer) w =>
        (InChunk k chunk w ∧ Drained hf k w) ∧
          (BeaconSendingResponseUtil.isSuccessfulResponse answer = true → Answered chunk w))
      stable_delivery (htaken chunk) hasked (fun t hd ht => ?_) hd hb).seq fun answer w hd hb => ?_
    · refine ⟨hd.request hwell _ _ _, ⟨⟨ht.1.others, ht.1.key, ht.1.unmarked, ht.1.sending⟩,
        ht.2⟩, fun hs => ⟨_, ?_, hs⟩⟩
      rw [World.log_write, requests_append]
      exact List.mem_append_right _ (List.mem_singleton_self _)
    cases hanswer : BeaconSendingResponseUtil.isSuccessfulResponse answer with
    | true =>
      refine (Program.sat_write (Q := fun _ w => Sending k w ∧ Drained hf k w) stable_delivery
        (hasked answer) (fun _ => hbegun) (fun t hd ht => ?_) hd hb).seq fun _ w hd hb =>
        Program.sat_ret stable_delivery (hround _) hd hb
      obtain ⟨⟨hchunk, hdrained⟩, hanswered⟩ := ht
      refine ⟨hchunk.delivery_removeChunkedData hd (hanswered hanswer), hchunk.removeChunkedData,
        fun hhf => ?_⟩
      obtain ⟨hfin, hactive⟩ := hdrained hhf
      refine ⟨hfin, fun kind => ?_⟩
      rw [World.cache_write, World.cache_setCache, BeaconCache.entryAt_removeChunkedData,
        if_pos rfl, BeaconCacheEntry.active_removeDataMarkedForSending]
      exact hactive kind
    | false =>
      refine (Program.sat_write (Q := fun _ w => Idle w) stable_delivery (hasked answer)
        (fun _ => stable_idle) (fun t hd ht => ⟨hd.resetChunkedData k, ht.1.1.resetChunkedData⟩)
        hd hb).seq fun _ w hd hidle =>
        Program.sat_ret stable_delivery (hround _) hd ⟨hidle, fun h => ?_⟩
      exact absurd (hanswer.symm.trans h.2) Bool.false_ne_true

/-- **Sending** keeps the invariant, from nothing being sent to nothing being sent. -/
theorem sat_send (rounds : ℕ) (hd : Delivery L w) (hidle : Idle w)
    (hfin : hf → k ∈ w.created ∧ (w.session k).isSessionFinished = true) :
    Program.Sat (AppStep mayAdd) (Delivery L) (send env rounds k) (Sent hf k) w := by
  have hfinished : Stable (AppStep mayAdd) fun w =>
      hf → k ∈ w.created ∧ (w.session k).isSessionFinished = true :=
    fun _ _ hstep h hhf => hstep.finished (h hhf)
  refine (Program.sat_write (Q := fun _ w => Sending k w ∧ Drained hf k w) stable_delivery
    (stable_idle.and hfinished) (fun _ => stable_sending.and (stable_drained hguard))
    (fun t hd ht => ?_) hd ⟨hidle, hfin⟩).seq fun _ w hd hw => ?_
  · obtain ⟨hidle, hfin⟩ := ht
    refine ⟨hd.prepareDataForSending k, hidle.prepareDataForSending hd.active k, fun hhf => ?_⟩
    exact ⟨hfin hhf, active_prepareDataForSending (hidle k)⟩
  · exact Program.sat_loop stable_delivery (stable_sent hguard)
      (fun response w hd hw => sat_sendChunk hguard hd hw.1 hw.2 response) rounds hd hw

end Guard

/-- The sends of some beacons, one after the other. -/
def sendEach (env : Environment) (rounds : ℕ) (ks : List BeaconKey) :
    Sender (ForInStep (Option Answer)) :=
  Program.forEach (fun k _ => do return .yield (← send env rounds k)) ks none

/-- At the start nothing is added, and nothing sent. -/
theorem delivery_of_empty (hcache : w.cache = .empty) (hlog : w.log = []) : Delivery [] w := by
  have hentry (k : BeaconKey) : w.cache.entryAt k = BeaconCacheEntry.new := by
    rw [hcache, BeaconCache.entryAt_empty]
  refine ⟨?_, fun k _ kind => ?_, fun k kind r hr => ?_, ?_, ?_⟩
  · rw [hlog]
    rfl
  · rw [hlog, hentry, BeaconCacheEntry.records, BeaconCacheEntry.sending_new,
      BeaconCacheEntry.active_new]
    rfl
  · rw [hentry, BeaconCacheEntry.active_new] at hr
    exact absurd hr List.not_mem_nil
  · rw [hlog]
    exact List.forall_mem_nil _
  · rw [hlog]
    exact fun _ hc => absurd hc List.not_mem_nil

theorem idle_of_empty (hcache : w.cache = .empty) : Idle w := by
  intro k
  rw [hcache, BeaconCache.entryAt_empty]
  rfl

/-- **Any number of sends** keeps the invariant. -/
theorem sat_sendEach (rounds : ℕ) (ks : List BeaconKey) (hd : Delivery L w) (hidle : Idle w) :
    Program.Sat (AppStep mayAdd) (Delivery L) (sendEach env rounds ks)
      (Program.Round (fun _ w => Idle w) fun _ w => Idle w) w := by
  refine Program.sat_forEach (J := fun _ _ w => Idle w) stable_delivery (fun _ => stable_idle)
    (fun _ => stable_idle) (fun k _ _ w hd hidle => ?_) hd hidle
  have hsend : Program.Sat (AppStep mayAdd) (Delivery L) (send env rounds k) (Sent False k) w :=
    sat_send False.elim rounds hd hidle False.elim
  refine hsend.seq fun _ w hd hsent => ?_
  exact Program.sat_ret stable_delivery stable_idle hd hsent.1

/-- **Exactly-once delivery**: at every point of any number of sends among threads that add any
records, the records added to a beacon are those of its acknowledged chunks, those being sent and
the active ones, in this order, and every chunk is well formed. -/
theorem exactlyOnce_of_reaches (env : Environment) (rounds : ℕ) (ks : List BeaconKey)
    {w w' : World} {p : Sender (ForInStep (Option Answer))} (hcache : w.cache = .empty)
    (hlog : w.log = [])
    (h : Program.Reaches (AppStep fun _ _ _ => True) (sendEach env rounds ks, w) (p, w')) :
    (∀ k kind, acknowledged k kind w'.log ++ (w'.cache.entryAt k).records kind =
      added k kind w'.log) ∧
    (∀ request ∈ requests w'.log, request.1.WellFormed) ∧
    ∀ chunk, .acknowledged chunk ∈ w'.log → Answered chunk w' := by
  have hd := (sat_sendEach rounds ks (delivery_of_empty hcache hlog)
    (idle_of_empty hcache)).invariant h
  exact ⟨fun k kind => hd.exactlyOnce k List.not_mem_nil kind, hd.chunks, hd.answered⟩

/-- A server that answers the first request with an error, and all others with success. -/
def failingFirst : Environment where
  response n := some (if n = 0 then .createErrorResponse 500 else ⟨.undefined, 200, 0⟩)
  mutableBeaconData _ _ := .nil

/-- Nothing is cached yet. -/
def nothingCached : World :=
  .new (fun _ => .new (.new (.new ⟨.userBehavior, .optInCrashes⟩) 0 0 (.ofAscii ['v', 'v', '=', '3'])))
    (.new ⟨1, .nil⟩)

/-- An event and an action are reported. -/
def twoCached : World :=
  (nothingCached.addData ⟨1, 0⟩ .event 0 (.ofAscii ['a'])).addData ⟨1, 0⟩ .action 1 (.ofAscii ['b'])

/-- Two sends, and a second event that is reported when the first chunk is on its way. -/
def twoSends : Except SendFault (ForInStep (Option Answer)) × World :=
  (sendEach failingFirst 2 [⟨1, 0⟩, ⟨1, 0⟩]).runInterrupted
    (·.addData ⟨1, 0⟩ .event 2 (.ofAscii ['c'])) 5 twoCached

/-- The records of a request that fails are sent again, and none is lost or sent twice. -/
theorem exactlyOnce_of_failedRequest :
    (requests twoSends.2.log).map (fun request => request.2.map fun answer =>
        answer.response.isErroneousResponse) = [some true, some false] ∧
      acknowledged ⟨1, 0⟩ .event twoSends.2.log ++ (twoSends.2.cache.entryAt ⟨1, 0⟩).records .event =
        [.new 0 (.ofAscii ['a']), .new 2 (.ofAscii ['c'])] ∧
      acknowledged ⟨1, 0⟩ .action twoSends.2.log ++ (twoSends.2.cache.entryAt ⟨1, 0⟩).records .action =
        [.new 1 (.ofAscii ['b'])] := by
  have hevents : added ⟨1, 0⟩ .event twoSends.2.log =
      [.new 0 (.ofAscii ['a']), .new 2 (.ofAscii ['c'])] := by decide
  have hactions : added ⟨1, 0⟩ .action twoSends.2.log = [.new 1 (.ofAscii ['b'])] := by decide
  have hok : twoSends.1.isOk = true := by decide
  have hanswers : (requests twoSends.2.log).map (fun request => request.2.map fun answer =>
      answer.response.isErroneousResponse) = [some true, some false] := by decide
  rcases hrun : twoSends with ⟨r, w'⟩
  rw [hrun] at hevents hactions hok hanswers
  cases r with
  | error e => exact absurd hok Bool.false_ne_true
  | ok r =>
    have hreaches : Program.Reaches (AppStep fun _ _ _ => True)
        (sendEach failingFirst 2 [⟨1, 0⟩, ⟨1, 0⟩], nothingCached) (.ret r, w') := by
      refine .head (.other _ (.add nothingCached ⟨1, 0⟩ .event 0 (.ofAscii ['a']) trivial)) ?_
      refine .head (.other _ (.add _ ⟨1, 0⟩ .action 1 (.ofAscii ['b']) trivial)) ?_
      exact Program.reaches_of_runInterrupted (fun w => .add w ⟨1, 0⟩ .event 2 _ trivial) hrun
    have h := (exactlyOnce_of_reaches failingFirst 2 [⟨1, 0⟩, ⟨1, 0⟩] rfl rfl hreaches).1 ⟨1, 0⟩
    exact ⟨hanswers, (h .event).trans hevents, (h .action).trans hactions⟩

end BeaconSend

end OpenKit
