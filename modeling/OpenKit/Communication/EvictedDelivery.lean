import OpenKit.Caching.OldestRecords
import OpenKit.Communication.Delivery

/-!
# Delivery among evictions

While the sender works, the eviction thread removes active records by their age and by their number. Then not all
records are delivered. Those that are come once and in order, and nothing but an eviction takes a record away:
a record that every eviction spares is in an acknowledged chunk or in the cache, once and in its place.

## Main definitions

* `Thinned spared`: some records are missing, but none that is spared
* `EvictingStep spared`: the steps of the threads of the application and of the eviction thread
* `Retention spared`: the invariant

## Main results

* `BeaconSend.sat_sendEach_evicting`: any number of sends keeps the invariant
* `BeaconSend.retained_of_reaches`: what is delivered, at every point among evictions
-/

namespace OpenKit

open Thread

/-! ## What is left of some records -/

/-- Some records are missing, but none that is spared. -/
structure Thinned (spared : BeaconCacheRecord → Bool) (rs all : List BeaconCacheRecord) : Prop where
  sublist : rs.Sublist all
  filter : rs.filter spared = all.filter spared

namespace Thinned

variable {spared : BeaconCacheRecord → Bool} {rs rs' rs'' all all' : List BeaconCacheRecord}

theorem refl (rs : List BeaconCacheRecord) : Thinned spared rs rs := ⟨.refl rs, rfl⟩

theorem trans (h : Thinned spared rs rs') (h' : Thinned spared rs' rs'') : Thinned spared rs rs'' :=
  ⟨h.sublist.trans h'.sublist, h.filter.trans h'.filter⟩

theorem append (h : Thinned spared rs all) (h' : Thinned spared rs' all') :
    Thinned spared (rs ++ rs') (all ++ all') := by
  refine ⟨h.sublist.append h'.sublist, ?_⟩
  rw [List.filter_append, List.filter_append, h.filter, h'.filter]

end Thinned

namespace BeaconCacheEntry

variable (e : BeaconCacheEntry) (kind : RecordKind)

theorem active_removeRecordsOlderThan (minTimestamp : ℤ) :
    (e.removeRecordsOlderThan minTimestamp).2.active kind =
      (e.active kind).filter (minTimestamp ≤ ·.timestamp) := by
  cases kind
  all_goals exact congrArg Prod.snd (removeRecordsOlderThanFrom_eq _ minTimestamp)

/-- Eviction by number removes records from the heads of the lists. -/
theorem active_removeOldestRecords_sublist (numRecords : ℤ) :
    ((e.removeOldestRecords numRecords).2.active kind).Sublist (e.active kind) := by
  have hheads := (e.removeOldestRecords_spec numRecords).2
  cases kind with
  | event =>
    have hevents := List.sublist_append_right
      (eventsIn ((mergedHeads e.eventData e.actionData).take (min numRecords.toNat e.numActive)))
      (e.removeOldestRecords numRecords).2.eventData
    rwa [← hheads.eventData] at hevents
  | action =>
    have hactions := List.sublist_append_right
      (actionsIn ((mergedHeads e.eventData e.actionData).take (min numRecords.toNat e.numActive)))
      (e.removeOldestRecords numRecords).2.actionData
    rwa [← hheads.actionData] at hactions

theorem sending_removeRecordsOlderThan (minTimestamp : ℤ) :
    (e.removeRecordsOlderThan minTimestamp).2.sending kind = e.sending kind := by
  cases kind
  all_goals rfl

theorem sending_removeOldestRecords (numRecords : ℤ) :
    (e.removeOldestRecords numRecords).2.sending kind = e.sending kind := by
  cases kind
  all_goals rfl

end BeaconCacheEntry

/-! ## The other threads -/

/-- A step of a thread of the application, or an eviction that spares some records. -/
inductive EvictingStep (spared : BeaconCacheRecord → Bool) : World → World → Prop
  | application {w w' : World} (h : AppStep (fun _ _ _ => True) w w') : EvictingStep spared w w'
  | byAge (w : World) (k : BeaconKey) (minTimestamp : ℤ)
      (h : ∀ kind, ∀ r ∈ (w.cache.entryAt k).active kind, spared r = true → minTimestamp ≤ r.timestamp) :
      EvictingStep spared w (w.setCache (w.cache.evictRecordsByAge k minTimestamp).2)
  | byNumber (w : World) (k : BeaconKey) (numRecords : ℕ)
      (h : ∀ kind, ((w.cache.evictRecordsByNumber k numRecords).2.entryAt k |>.active kind).filter spared =
        ((w.cache.entryAt k).active kind).filter spared) :
      EvictingStep spared w (w.setCache (w.cache.evictRecordsByNumber k numRecords).2)

/-- An eviction leaves the records being sent as they are, and takes no active record that is spared. -/
structure EvictedTo (spared : BeaconCacheRecord → Bool) (w w' : World) : Prop where
  log : w'.log = w.log
  sending : ∀ k kind, (w'.cache.entryAt k).sending kind = (w.cache.entryAt k).sending kind
  active : ∀ k kind, Thinned spared ((w'.cache.entryAt k).active kind) ((w.cache.entryAt k).active kind)

variable {spared : BeaconCacheRecord → Bool} {w w' : World} {k : BeaconKey}

/-- **A step** of the other threads is one of the application, or an eviction. -/
theorem EvictingStep.cases (h : EvictingStep spared w w') :
    AppStep (fun _ _ _ => True) w w' ∨ EvictedTo spared w w' := by
  cases h with
  | application h => exact .inl h
  | byAge k minTimestamp hspared =>
    refine .inr ⟨rfl, fun k' kind => ?_, fun k' kind => ?_⟩
    · rw [World.cache_setCache, BeaconCache.entryAt_evictRecordsByAge]
      split
      next hk => rw [hk, BeaconCacheEntry.sending_removeRecordsOlderThan]
      next => rfl
    · rw [World.cache_setCache, BeaconCache.entryAt_evictRecordsByAge]
      split
      next hk =>
        rw [hk, BeaconCacheEntry.active_removeRecordsOlderThan]
        refine ⟨List.filter_sublist, ?_⟩
        rw [List.filter_filter]
        refine List.filter_congr fun r hr => ?_
        cases hr' : spared r with
        | false => rfl
        | true => simpa using hspared kind r hr hr'
      next => exact .refl _
  | byNumber k numRecords hspared =>
    refine .inr ⟨rfl, fun k' kind => ?_, fun k' kind => ?_⟩
    · rw [World.cache_setCache, BeaconCache.entryAt_evictRecordsByNumber]
      split
      next hk => rw [hk, BeaconCacheEntry.sending_removeOldestRecords]
      next => rfl
    · by_cases hk : k' = k
      · subst hk
        refine ⟨?_, hspared kind⟩
        rw [World.cache_setCache, BeaconCache.entryAt_evictRecordsByNumber, if_pos rfl]
        exact BeaconCacheEntry.active_removeOldestRecords_sublist _ _ _
      · rw [World.cache_setCache, BeaconCache.entryAt_evictRecordsByNumber, if_neg hk]
        exact .refl _

/-- No step of the others touches the records being sent. -/
theorem EvictingStep.sending_eq (h : EvictingStep spared w w') (k : BeaconKey) (kind : RecordKind) :
    (w'.cache.entryAt k).sending kind = (w.cache.entryAt k).sending kind := by
  rcases h.cases with happ | hevicted
  · exact happ.sending_eq k kind
  · exact hevicted.sending k kind

theorem EvictingStep.beingSent_eq_nil_iff (h : EvictingStep spared w w') (k : BeaconKey) :
    (w'.cache.entryAt k).beingSent = [] ↔ (w.cache.entryAt k).beingSent = [] := by
  rw [BeaconCacheEntry.beingSent_eq_nil_iff, BeaconCacheEntry.beingSent_eq_nil_iff]
  simp only [h.sending_eq]

theorem stable_idle_evicting : Stable (EvictingStep spared) Idle :=
  fun _ _ hstep h k => (hstep.beingSent_eq_nil_iff k).mpr (h k)

theorem stable_sending_evicting : Stable (EvictingStep spared) (Sending k) := by
  intro w w' hstep h
  refine ⟨fun k' hk => (hstep.beingSent_eq_nil_iff k').mpr (h.others k' hk), fun kind r hr => ?_⟩
  rw [hstep.sending_eq] at hr
  exact h.unmarked kind r hr

theorem stable_inChunk_evicting {chunk : BeaconChunk} :
    Stable (EvictingStep spared) (InChunk k chunk) := by
  intro w w' hstep h
  refine ⟨fun k' hk => (hstep.beingSent_eq_nil_iff k').mpr (h.others k' hk), h.key, h.unmarked, ?_⟩
  intro kind
  rw [hstep.sending_eq]
  exact h.sending kind

theorem stable_hasData_evicting :
    Stable (EvictingStep spared) fun w => w.cache.hasDataForSending k = true := by
  intro w w' hstep h
  simp only [BeaconCache.hasDataForSending_eq, BeaconCacheEntry.hasDataToSend_iff] at h ⊢
  rwa [ne_eq, hstep.beingSent_eq_nil_iff]

theorem stable_answered_evicting {chunk : BeaconChunk} :
    Stable (EvictingStep spared) (Answered chunk) := by
  intro w w' hstep h
  rcases hstep.cases with happ | hevicted
  · exact stable_answered _ _ happ h
  · exact h.append (hevicted.log.trans (List.append_nil _).symm)

/-! ## The invariant -/

/-- **The invariant**: of the records added to a beacon, those in acknowledged chunks, those being sent and the
active ones are left, in this order, and none is missing that is spared. -/
structure Retention (spared : BeaconCacheRecord → Bool) (w : World) : Prop where
  kept : ∀ k kind, Thinned spared (acknowledged k kind w.log ++ (w.cache.entryAt k).records kind)
    (added k kind w.log)
  active : ∀ k kind, ∀ r ∈ (w.cache.entryAt k).active kind, r.markedForSending = false
  answered : ∀ chunk, .acknowledged chunk ∈ w.log → Answered chunk w

/-- A record that is added is the last one of its kind. -/
theorem records_addData (w : World) (k k' : BeaconKey) (kind kind' : RecordKind) (timestamp : ℤ)
    (data : UTF8String) :
    ((w.addData k kind timestamp data).cache.entryAt k').records kind' =
      (w.cache.entryAt k').records kind' ++ added k' kind' [.added k kind (.new timestamp data)] := by
  rw [World.entryAt_addData]
  by_cases hk : k' = k
  · subst hk
    rw [if_pos rfl, BeaconCacheEntry.records, BeaconCacheEntry.sending_addData,
      BeaconCacheEntry.active_addData, BeaconCacheEntry.records]
    by_cases hkind : kind' = kind
    · subst hkind
      simp [added]
    · simp [added, hkind, Ne.symm hkind]
  · simp [added, hk, Ne.symm hk]

theorem Retention.addData (h : Retention spared w) (k : BeaconKey) (kind : RecordKind) (timestamp : ℤ)
    (data : UTF8String) : Retention spared (w.addData k kind timestamp data) := by
  have hlog : (w.addData k kind timestamp data).log = w.log ++ [.added k kind (.new timestamp data)] := rfl
  refine ⟨?_, ?_, ?_⟩
  · intro k' kind'
    have hnone : acknowledged k' kind' [.added k kind (.new timestamp data)] = [] := rfl
    rw [records_addData, hlog, acknowledged_append, added_append, hnone, List.append_nil,
      ← List.append_assoc]
    exact (h.kept k' kind').append (.refl _)
  · intro k' kind' r hr
    rw [World.entryAt_addData] at hr
    split at hr
    next hk =>
      rw [BeaconCacheEntry.active_addData] at hr
      split at hr
      · rcases List.mem_append.mp hr with hr | hr
        · exact h.active k kind' r hr
        · rw [List.mem_singleton.mp hr]
          rfl
      · exact h.active k kind' r hr
    next => exact h.active k' kind' r hr
  · intro chunk hc
    rw [hlog] at hc
    rcases List.mem_append.mp hc with hc | hc
    · exact (h.answered chunk hc).append hlog
    · exact absurd (List.mem_singleton.mp hc) Event.noConfusion

theorem stable_retention : Stable (EvictingStep spared) (Retention spared) := by
  intro w w' hstep h
  rcases hstep.cases with happ | hevicted
  · rcases happ.add_or_keep with ⟨k, kind, timestamp, data, -, rfl⟩ | ⟨hcache, hlog⟩
    · exact h.addData k kind timestamp data
    · refine ⟨?_, ?_, ?_⟩
      · rw [hlog, hcache]
        exact h.kept
      · rw [hcache]
        exact h.active
      · intro chunk hc
        exact (h.answered chunk (hlog ▸ hc)).append (hlog.trans (List.append_nil _).symm)
  · refine ⟨?_, ?_, ?_⟩
    · intro k kind
      rw [hevicted.log]
      refine (Thinned.append (.refl _) ?_).trans (h.kept k kind)
      rw [BeaconCacheEntry.records, BeaconCacheEntry.records, hevicted.sending]
      exact Thinned.append (.refl _) (hevicted.active k kind)
    · intro k kind r hr
      exact h.active k kind r ((hevicted.active k kind).sublist.subset hr)
    · intro chunk hc
      exact (h.answered chunk (hevicted.log ▸ hc)).append (hevicted.log.trans (List.append_nil _).symm)

/-! ## Steps of the sender -/

/-- A step of the sender that changes marks and places of records only keeps the invariant. -/
theorem Retention.of_cache (h : Retention spared w) {cache : BeaconCache}
    (hrecords : ∀ k kind, (cache.entryAt k).records kind = (w.cache.entryAt k).records kind)
    (hactive : ∀ k kind, ∀ r ∈ (cache.entryAt k).active kind, r.markedForSending = false) :
    Retention spared (w.setCache cache) := by
  refine ⟨?_, hactive, ?_⟩
  · intro k kind
    rw [World.log_setCache, World.cache_setCache, hrecords]
    exact h.kept k kind
  · intro chunk hc
    exact (h.answered chunk hc).append (List.append_nil _).symm

theorem Retention.prepareDataForSending (h : Retention spared w) (k : BeaconKey) :
    Retention spared (w.setCache (w.cache.prepareDataForSending k)) := by
  refine h.of_cache ?_ ?_
  · exact fun k' kind => BeaconCache.records_prepareDataForSending k' kind (h.active k' kind)
  · intro k' kind r hr
    rw [BeaconCache.entryAt_prepareDataForSending] at hr
    split at hr
    next hk =>
      split at hr
      next => simp at hr
      next => exact h.active k kind r hr
    next => exact h.active k' kind r hr

theorem Retention.getNextBeaconChunk (h : Retention spared w) (k : BeaconKey) (chunkPrefix : UTF8String)
    (maxSize : ℤ) (delimiter : UTF8String) :
    Retention spared (w.setCache (w.cache.getNextBeaconChunk k chunkPrefix maxSize delimiter).2) := by
  refine h.of_cache ?_ ?_
  · exact fun k' kind => BeaconCache.records_getNextBeaconChunk k' kind _ _ _
  · intro k' kind r hr
    rw [BeaconCache.entryAt_getNextBeaconChunk] at hr
    split at hr
    next hk =>
      rw [BeaconCacheEntry.active_getChunk] at hr
      exact h.active k kind r hr
    next => exact h.active k' kind r hr

theorem Retention.resetChunkedData (h : Retention spared w) (k : BeaconKey) :
    Retention spared (w.setCache (w.cache.resetChunkedData k)) := by
  refine h.of_cache ?_ ?_
  · exact fun k' kind => BeaconCache.records_resetChunkedData k' kind
  · intro k' kind r hr
    rw [BeaconCache.entryAt_resetChunkedData] at hr
    split at hr
    next hk =>
      rw [BeaconCacheEntry.active_resetDataMarkedForSending] at hr
      rcases List.mem_append.mp hr with hr | hr
      · obtain ⟨r', -, rfl⟩ := List.mem_map.mp hr
        rfl
      · exact h.active k kind r hr
    next => exact h.active k' kind r hr

theorem Retention.request (h : Retention spared w) (phase : Phase) (chunk : BeaconChunk)
    (answer : Option Answer) (numRequests : ℕ) :
    Retention spared ({ w with numRequests := numRequests }.write (.requested phase chunk answer)) := by
  refine ⟨?_, h.active, ?_⟩
  · intro k kind
    have hlog : ({ w with numRequests := numRequests }.write (.requested phase chunk answer)).log =
        w.log ++ [.requested phase chunk answer] := rfl
    rw [hlog, acknowledged_append, added_append]
    simpa [acknowledged, added] using h.kept k kind
  · intro chunk' hc
    rcases List.mem_append.mp hc with hc | hc
    · exact (h.answered chunk' hc).append rfl
    · exact absurd (List.mem_singleton.mp hc) Event.noConfusion

/-- **Acknowledging a chunk** takes nothing away. -/
theorem InChunk.retention_removeChunkedData {chunk : BeaconChunk} (h : InChunk k chunk w)
    (hr : Retention spared w) (hanswered : Answered chunk w) :
    Retention spared ((w.setCache (w.cache.removeChunkedData k)).write (.acknowledged chunk)) := by
  refine ⟨?_, ?_, ?_⟩
  · intro k' kind
    have hnone : added k' kind [.acknowledged chunk] = [] := rfl
    rw [World.log_write, World.cache_write, World.log_setCache, World.cache_setCache, acknowledged_append,
      added_append, hnone, List.append_nil, List.append_assoc, h.records_removeChunkedData]
    exact hr.kept k' kind
  · intro k' kind r hmem
    rw [World.cache_write, World.cache_setCache, BeaconCache.entryAt_removeChunkedData] at hmem
    split at hmem
    next hk =>
      rw [BeaconCacheEntry.active_removeDataMarkedForSending] at hmem
      exact hr.active k kind r hmem
    next => exact hr.active k' kind r hmem
  · intro chunk' hc
    rw [World.log_write, World.log_setCache] at hc
    rcases List.mem_append.mp hc with hc | hc
    · exact (hr.answered chunk' hc).append rfl
    · obtain rfl := Event.acknowledged.inj (List.mem_singleton.mp hc)
      exact hanswered.append rfl

/-! ## Sending -/

namespace BeaconSend

variable {env : Environment}

/-- **A round** keeps the invariant among evictions: it goes on with some data of the beacon being sent, or leaves
nothing being sent. -/
theorem sat_sendChunk_evicting (hr : Retention spared w) (hs : Sending k w) (response : Option Answer) :
    Program.Sat (EvictingStep spared) (Retention spared) (sendChunk env k response)
      (Program.Round (fun _ w => Sending k w) fun _ w => Idle w) w := by
  have hround (r : ForInStep (Option Answer)) : Stable (EvictingStep spared)
      (Program.Round (fun _ w => Sending k w) (fun _ w => Idle w) r) :=
    Program.Round.stable (fun _ => stable_sending_evicting) (fun _ => stable_idle_evicting) r
  -- is there data to send?
  refine (Program.sat_read (Q := fun b w => Sending k w ∧
      ((b = true → w.cache.hasDataForSending k = true) ∧ (b = false → Idle w)))
    stable_retention stable_sending_evicting (fun b => ?_)
    (fun t _ ht => ⟨ht, id, idle_of_no_data ht⟩) hr hs).seq fun b w hr hb => ?_
  · refine stable_sending_evicting.and (Stable.and ?_ ?_)
    · exact fun _ _ hstep h hb => stable_hasData_evicting _ _ hstep (h hb)
    · exact fun _ _ hstep h hb => stable_idle_evicting _ _ hstep (h hb)
  cases b with
  | false => exact Program.sat_ret stable_retention (hround _) hr (hb.2.2 rfl)
  | true =>
    obtain ⟨hs, hdata, -⟩ := hb
    have hready : Stable (EvictingStep spared) fun w =>
        Sending k w ∧ w.cache.hasDataForSending k = true :=
      stable_sending_evicting.and stable_hasData_evicting
    -- the prefix and the size
    refine (Program.sat_read (Q := fun (chunkPrefix : UTF8String) w =>
        (Sending k w ∧ w.cache.hasDataForSending k = true) ∧ 0 < chunkPrefix.stringLength)
      stable_retention hready (fun _ => hready.and (.const _)) (fun t _ ht => ⟨ht, chunkPrefix_pos⟩)
      hr ⟨hs, hdata rfl⟩).seq fun chunkPrefix w hr hb => ?_
    obtain ⟨hb, hprefix⟩ := hb
    refine (Program.sat_read (Q := fun (_ : ℤ) w => Sending k w ∧ w.cache.hasDataForSending k = true)
      stable_retention hready (fun _ => hready) (fun _ _ ht => ht) hr hb).seq fun maxSize w hr hb => ?_
    -- the chunk, which is not empty as there is data
    refine (Program.sat_atomic (Q := fun (chunk : BeaconChunk) w =>
        InChunk k chunk w ∧ chunk.text.isEmpty = false)
      stable_retention hready (fun chunk => stable_inChunk_evicting.and (.const _)) (fun t hr ht => ?_)
      hr hb).seq fun chunk w hr hb => ?_
    · exact ⟨hr.getNextBeaconChunk k _ _ _, ht.1.getNextBeaconChunk _ _ _ _,
        getNextBeaconChunk_isEmpty hprefix ht.2⟩
    obtain ⟨hchunk, htext⟩ := hb
    rw [htext]
    -- the request
    have hasked (answer : Option Answer) : Stable (EvictingStep spared) fun w => InChunk k chunk w ∧
        (BeaconSendingResponseUtil.isSuccessfulResponse answer = true → Answered chunk w) :=
      stable_inChunk_evicting.and fun _ _ hstep h hs => stable_answered_evicting _ _ hstep (h hs)
    refine (Program.sat_atomic (Q := fun (answer : Option Answer) w => InChunk k chunk w ∧
        (BeaconSendingResponseUtil.isSuccessfulResponse answer = true → Answered chunk w))
      stable_retention stable_inChunk_evicting hasked (fun t hr ht => ?_) hr hchunk).seq
      fun answer w hr hb => ?_
    · refine ⟨hr.request _ _ _ _, ⟨ht.others, ht.key, ht.unmarked, ht.sending⟩, fun hs => ⟨_, ?_, hs⟩⟩
      rw [World.log_write, requests_append]
      exact List.mem_append_right _ (List.mem_singleton_self _)
    cases hanswer : BeaconSendingResponseUtil.isSuccessfulResponse answer with
    | true =>
      refine (Program.sat_write (Q := fun _ w => Sending k w) stable_retention (hasked answer)
        (fun _ => stable_sending_evicting) (fun t hr ht => ?_) hr hb).seq fun _ w hr hs =>
        Program.sat_ret stable_retention (hround _) hr hs
      exact ⟨ht.1.retention_removeChunkedData hr (ht.2 hanswer), ht.1.removeChunkedData⟩
    | false =>
      refine (Program.sat_write (Q := fun _ w => Idle w) stable_retention (hasked answer)
        (fun _ => stable_idle_evicting) (fun t hr ht => ?_) hr hb).seq fun _ w hr hidle =>
        Program.sat_ret stable_retention (hround _) hr hidle
      exact ⟨hr.resetChunkedData k, ht.1.resetChunkedData⟩

/-- **Sending** keeps the invariant among evictions, from nothing being sent to nothing being sent. -/
theorem sat_send_evicting (rounds : ℕ) (k : BeaconKey) (hr : Retention spared w) (hidle : Idle w) :
    Program.Sat (EvictingStep spared) (Retention spared) (send env rounds k) (fun _ w => Idle w) w := by
  refine (Program.sat_write (Q := fun _ w => Sending k w) stable_retention stable_idle_evicting
    (fun _ => stable_sending_evicting) (fun t hr ht => ?_) hr hidle).seq fun _ w hr hs => ?_
  · exact ⟨hr.prepareDataForSending k, ht.prepareDataForSending hr.active k⟩
  · exact Program.sat_loop stable_retention (fun _ => stable_idle_evicting)
      (fun response w hr hs => sat_sendChunk_evicting hr hs response) rounds hr hs

/-- **Any number of sends** keeps the invariant among evictions. -/
theorem sat_sendEach_evicting (rounds : ℕ) (ks : List BeaconKey) (hr : Retention spared w)
    (hidle : Idle w) :
    Program.Sat (EvictingStep spared) (Retention spared) (sendEach env rounds ks)
      (Program.Round (fun _ w => Idle w) fun _ w => Idle w) w := by
  refine Program.sat_forEach (J := fun _ _ w => Idle w) stable_retention
    (fun _ => stable_idle_evicting) (fun _ => stable_idle_evicting) (fun k _ _ w hr hidle => ?_) hr hidle
  refine (sat_send_evicting rounds k hr hidle).seq fun _ w hr hidle => ?_
  exact Program.sat_ret stable_retention stable_idle_evicting hr hidle

theorem retention_of_empty (hcache : w.cache = .empty) (hlog : w.log = []) : Retention spared w := by
  have hd := delivery_of_empty hcache hlog
  refine ⟨?_, hd.active, hd.answered⟩
  intro k kind
  rw [hd.exactlyOnce k List.not_mem_nil]
  exact .refl _

/-- **Delivery among evictions**: at every point of any number of sends, among threads that add records and evict
them, the records in acknowledged chunks, those being sent and the active ones are among those added, once and in
their order, and no record is missing that all evictions spare. -/
theorem retained_of_reaches (env : Environment) (rounds : ℕ) (ks : List BeaconKey)
    (spared : BeaconCacheRecord → Bool) {w w' : World} {p : Sender (ForInStep (Option Answer))}
    (hcache : w.cache = .empty) (hlog : w.log = [])
    (h : Program.Reaches (EvictingStep spared) (sendEach env rounds ks, w) (p, w')) :
    (∀ k kind, (acknowledged k kind w'.log ++ (w'.cache.entryAt k).records kind).Sublist
        (added k kind w'.log) ∧
      (acknowledged k kind w'.log ++ (w'.cache.entryAt k).records kind).filter spared =
        (added k kind w'.log).filter spared) ∧
      ∀ chunk, .acknowledged chunk ∈ w'.log → Answered chunk w' := by
  have hr := (sat_sendEach_evicting rounds ks (retention_of_empty hcache hlog)
    (idle_of_empty hcache)).invariant h
  exact ⟨fun k kind => ⟨(hr.kept k kind).sublist, (hr.kept k kind).filter⟩, hr.answered⟩

/-- Two events, of which the eviction spares the younger one, which is sent then. -/
theorem retained_of_twoEvents :
    let k : BeaconKey := ⟨1, 0⟩
    let env : Environment := ⟨fun _ => some ⟨.undefined, 200, 0⟩, fun _ _ => .nil⟩
    let session := Session.new
      (.new (.new ⟨.userBehavior, .optInCrashes⟩) 0 0 (.ofAscii ['v', 'v', '=', '3']))
    let w := World.new (fun _ => session) (.new ⟨1, .nil⟩)
    let added := (w.addData k .event 0 (.ofAscii ['a'])).addData k .event 9 (.ofAscii ['b'])
    let evicted := added.setCache (added.cache.evictRecordsByAge k 5).2
    let w' := ((sendEach env 2 [k]).run evicted).2
    (acknowledged k .event w'.log ++ (w'.cache.entryAt k).records .event).filter (5 ≤ ·.timestamp) =
      [.new 9 (.ofAscii ['b'])] := by
  intro k env session w added evicted
  have hok : ((sendEach env 2 [k]).run evicted).1.isOk = true := by decide
  have hadded : (OpenKit.added k .event ((sendEach env 2 [k]).run evicted).2.log).filter (5 ≤ ·.timestamp) =
      [.new 9 (.ofAscii ['b'])] := by decide
  rcases hrun : (sendEach env 2 [k]).run evicted with ⟨r, w'⟩
  rw [hrun] at hok hadded
  cases r with
  | error e => exact absurd hok Bool.false_ne_true
  | ok r =>
    have h := (retained_of_reaches env 2 [k] (5 ≤ ·.timestamp) (w := w) rfl rfl
      (.head (.other _ (.application (.add w k .event 0 _ trivial)))
        (.head (.other _ (.application (.add _ k .event 9 _ trivial)))
          (.head (.other _ (.byAge added k 5 fun _ _ _ h => of_decide_eq_true h))
            (Program.reaches_of_run hrun))))).1 k .event
    exact h.2.trans hadded

end BeaconSend

end OpenKit
