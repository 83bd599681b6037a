import OpenKit.Communication.EvictedDelivery
import OpenKit.Communication.NoLoss
import OpenKit.Library.Preservation

/-!
# The cache between two sends

Whatever the sender has done and whatever the other threads do, evictions included, the cache is in
good order between two sends: nothing is being sent, no active record is marked, every record has a
text, and no counter of an entry is too small. The list of the sessions names none of them twice.

## Main definitions

* `OtherStep`: the steps of the threads of the application and of the eviction thread
* `Inventory`, `Stocked`: what holds at every point
* `QuietStep`: a step of the sender that adds no record and acknowledges none

## Main results

* `stable_stocked`: the other threads keep the cache in order
* `preserves_send`: so does sending
-/

namespace OpenKit

open Thread

/-! ## The other threads -/

/-- A step of a thread of the application, which reports texts that a beacon builds, or an eviction. -/
inductive OtherStep : World → World → Prop
  | application {w w' : World} (h : AppStep (fun _ _ data => EventData.IsReportText data) w w') :
      OtherStep w w'
  | byAge (w : World) (k : BeaconKey) (minTimestamp : ℤ) :
      OtherStep w (w.setCache (w.cache.evictRecordsByAge k minTimestamp).2)
  | byNumber (w : World) (k : BeaconKey) (numRecords : ℕ) :
      OtherStep w (w.setCache (w.cache.evictRecordsByNumber k numRecords).2)

variable {w w' w'' : World} {k : BeaconKey}

/-- A step of the application is one under any weaker condition on what it adds. -/
theorem AppStep.mono {mayAdd mayAdd' : World → BeaconKey → UTF8String → Prop}
    (h : AppStep mayAdd w w') (hmono : ∀ w k data, mayAdd w k data → mayAdd' w k data) :
    AppStep mayAdd' w w' := by
  cases h with
  | add k kind timestamp data h => exact .add w k kind timestamp data (hmono _ _ _ h)
  | touch k session h => exact .touch w k session h
  | finish k => exact .finish w k
  | create k session hnew hopen => exact .create w k session hnew hopen
  | requestShutdown => exact .requestShutdown w
  | tick currentTime h => exact .tick w currentTime h

/-- An eviction need not spare any record. -/
theorem OtherStep.evictingStep (h : OtherStep w w') : EvictingStep (fun _ => false) w w' := by
  cases h with
  | application h => exact .application (h.mono fun _ _ _ _ => trivial)
  | byAge k minTimestamp => exact .byAge w k minTimestamp fun _ _ _ h => absurd h Bool.false_ne_true
  | byNumber k numRecords =>
    refine .byNumber w k numRecords fun kind => ?_
    rw [List.filter_false, List.filter_false]

/-! ## The invariant -/

/-- The texts, the counters and the list of the sessions. -/
structure Inventory (w : World) : Prop where
  reported : ∀ k kind, ∀ r ∈ added k kind w.log, 0 < r.getDataSizeInBytes
  covered : w.cache.Covered
  nodup : w.context.sessions.Nodup
  created : ∀ k ∈ w.context.sessions, k ∈ w.created

/-- **The invariant**: the records left are some of those added, and the inventory. -/
def Stocked (w : World) : Prop := Retention (fun _ => false) w ∧ Inventory w

/-- What a step shows that adds no record. -/
theorem Inventory.extend (h : Inventory w) {new : List Event} (hlog : w'.log = w.log ++ new)
    (hadded : ∀ k kind, added k kind new = []) (hcovered : w'.cache.Covered)
    (hsublist : w'.context.sessions.Sublist w.context.sessions)
    (hcreated : w'.created = w.created) : Inventory w' := by
  refine ⟨fun k kind r hr => ?_, hcovered, hsublist.nodup h.nodup, fun k hk => ?_⟩
  · rw [hlog, added_append, hadded, List.append_nil] at hr
    exact h.reported k kind r hr
  · rw [hcreated]
    exact h.created k (hsublist.subset hk)

theorem stable_inventory : Stable OtherStep Inventory := by
  intro w w' hstep h
  cases hstep with
  | application happ =>
    cases happ with
    | add k kind timestamp data htext =>
      refine ⟨fun k' kind' r hr => ?_, ?_, h.nodup, h.created⟩
      · have hlog : (w.addData k kind timestamp data).log =
            w.log ++ [.added k kind (.new timestamp data)] := rfl
        rw [hlog, added_append, added_single] at hr
        rcases List.mem_append.mp hr with hr | hr
        · exact h.reported k' kind' r hr
        · split at hr
          · obtain rfl := List.mem_singleton.mp hr
            exact getDataSizeInBytes_pos htext timestamp
          · exact absurd hr List.not_mem_nil
      · cases kind with
        | event => exact h.covered.step (.addEventData k timestamp data)
        | action => exact h.covered.step (.addActionData k timestamp data)
    | create k session hnew hopen =>
      refine ⟨h.reported, h.covered, ?_, fun k' hk' => ?_⟩
      · have hk : k ∉ w.context.sessions := fun hk => hnew (h.created k hk)
        exact List.nodup_append_comm.mp (List.nodup_cons.mpr ⟨hk, h.nodup⟩)
      · rcases List.mem_append.mp hk' with hk' | hk'
        · exact List.mem_append_left _ (h.created k' hk')
        · exact List.mem_append_right _ hk'
    | touch => exact ⟨h.reported, h.covered, h.nodup, h.created⟩
    | finish => exact ⟨h.reported, h.covered, h.nodup, h.created⟩
    | requestShutdown => exact ⟨h.reported, h.covered, h.nodup, h.created⟩
    | tick => exact ⟨h.reported, h.covered, h.nodup, h.created⟩
  | byAge k minTimestamp =>
    exact ⟨h.reported, h.covered.step (.evictRecordsByAge k minTimestamp), h.nodup, h.created⟩
  | byNumber k numRecords =>
    exact ⟨h.reported, h.covered.step (.evictRecordsByNumber k numRecords), h.nodup, h.created⟩

/-- **The other threads** keep the cache in order. -/
theorem stable_stocked : Stable OtherStep Stocked :=
  fun _ _ hstep h =>
    ⟨stable_retention _ _ hstep.evictingStep h.1, stable_inventory _ _ hstep h.2⟩

theorem stable_idle_other : Stable OtherStep Idle :=
  fun _ _ hstep h => stable_idle_evicting _ _ hstep.evictingStep h

/-- At the start nothing is cached, logged or listed. -/
theorem stocked_new (sessions : BeaconKey → Session) (http : HTTPClientConfiguration) :
    Stocked (.new sessions (.new http)) ∧ Idle (.new sessions (.new http)) := by
  refine ⟨⟨BeaconSend.retention_of_empty rfl rfl, ?_⟩, BeaconSend.idle_of_empty rfl⟩
  refine ⟨fun k kind r hr => ?_, BeaconCache.covered_empty, List.nodup_nil, fun k hk => ?_⟩
  · exact absurd hr List.not_mem_nil
  · exact absurd hk List.not_mem_nil

/-- A record of the cache has a text. -/
theorem Stocked.getDataSizeInBytes_pos (h : Stocked w) {kind : RecordKind} {r : BeaconCacheRecord}
    (hr : r ∈ (w.cache.entryAt k).records kind) : 0 < r.getDataSizeInBytes :=
  h.2.reported k kind r ((h.1.kept k kind).sublist.subset (List.mem_append_right _ hr))

/-! ## Quiet steps -/

/-- An entry of the log that is neither about a record added nor about a chunk acknowledged. -/
def Event.IsQuiet : Event → Prop
  | .added .. => False
  | .acknowledged _ => False
  | _ => True

/-- A step that adds no record and acknowledges none: it may clear data, and take sessions out of the
context. -/
structure QuietStep (w w' : World) : Prop where
  entryAt : ∀ k, w'.cache.entryAt k = w.cache.entryAt k ∨ w'.cache.entryAt k = .new
  created : w'.created = w.created
  sublist : w'.context.sessions.Sublist w.context.sessions
  log : ∃ new, w'.log = w.log ++ new ∧ ∀ event ∈ new, event.IsQuiet

namespace QuietStep

theorem refl (w : World) : QuietStep w w :=
  ⟨fun _ => .inl rfl, rfl, .refl _, [], (List.append_nil _).symm, List.forall_mem_nil _⟩

/-- A step that leaves the cache and the log. -/
theorem of_context (hcache : w'.cache = w.cache) (hcreated : w'.created = w.created)
    (hsublist : w'.context.sessions.Sublist w.context.sessions) (hlog : w'.log = w.log) :
    QuietStep w w' :=
  ⟨fun k => .inl (by rw [hcache]), hcreated, hsublist, [], hlog.trans (List.append_nil _).symm,
    List.forall_mem_nil _⟩

/-- A step that is noted by one entry of the log. -/
theorem of_event {event : Event} (hlog : w'.log = w.log ++ [event]) (hevent : event.IsQuiet)
    (hcache : w'.cache = w.cache) (hcreated : w'.created = w.created)
    (hsublist : w'.context.sessions.Sublist w.context.sessions) : QuietStep w w' :=
  ⟨fun k => .inl (by rw [hcache]), hcreated, hsublist, [event], hlog,
    List.forall_mem_singleton.mpr hevent⟩

theorem enter (w : World) (phase : Phase) : QuietStep w (w.enter phase) :=
  .of_context rfl rfl (.refl _) rfl

theorem clear (w : World) (phase : Phase) (k : BeaconKey) :
    QuietStep w ((w.setCache (w.cache.deleteCacheEntry k)).write (.cleared phase k)) := by
  refine ⟨fun k' => ?_, rfl, .refl _, [.cleared phase k], rfl, List.forall_mem_singleton.mpr trivial⟩
  rw [World.cache_write, World.cache_setCache, BeaconCache.entryAt_deleteCacheEntry]
  split
  · exact .inr rfl
  · exact .inl rfl

theorem removeSession (w : World) (k : BeaconKey) :
    QuietStep w (w.setContext (w.context.removeSession k)) :=
  .of_context rfl rfl List.erase_sublist rfl

end QuietStep

theorem NoteStep.quietStep (h : NoteStep w w') : QuietStep w w' := by
  obtain ⟨new, hlog, hnew⟩ := h.log
  refine ⟨fun k => .inl (by rw [h.cache]), h.created, by rw [h.listed], new, hlog, fun event he => ?_⟩
  have hinert := (hnew event he).1
  cases event with
  | added => exact hinert
  | acknowledged => exact hinert
  | _ => trivial

theorem HandlingStep.quietStep (h : HandlingStep w w') : QuietStep w w' := by
  cases h with
  | note h hnumber => exact h.quietStep
  | clear k => exact .clear w .handling k
  | drop k => exact .removeSession w k

/-- **A quiet step** keeps the cache in order. -/
theorem QuietStep.stocked (h : QuietStep w w') (hs : Stocked w) (hidle : Idle w) :
    Stocked w' ∧ Idle w' := by
  obtain ⟨new, hlog, hnew⟩ := h.log
  -- nothing is added and nothing acknowledged, and an entry stays or is made anew
  have hadded (k : BeaconKey) (kind : RecordKind) : added k kind new = [] := by
    refine List.filterMap_eq_nil_iff.mpr fun event he => ?_
    cases event with
    | added => exact absurd (hnew _ he) id
    | _ => rfl
  have hacknowledged (k : BeaconKey) (kind : RecordKind) : acknowledged k kind new = [] := by
    refine List.flatMap_eq_nil_iff.mpr fun event he => ?_
    cases event with
    | acknowledged => exact absurd (hnew _ he) id
    | _ => rfl
  have hrecords (k : BeaconKey) (kind : RecordKind) :
      ((w'.cache.entryAt k).records kind).Sublist ((w.cache.entryAt k).records kind) := by
    rcases h.entryAt k with hsame | hnew
    · rw [hsame]
    · rw [hnew, BeaconCacheEntry.records, BeaconCacheEntry.sending_new, BeaconCacheEntry.active_new]
      exact List.nil_sublist _
  refine ⟨⟨⟨fun k kind => ⟨?_, ?_⟩, fun k kind r hr => ?_, fun chunk hc => ?_⟩, ?_⟩, fun k => ?_⟩
  · rw [hlog, acknowledged_append, added_append, hacknowledged, hadded, List.append_nil,
      List.append_nil]
    exact ((List.Sublist.refl _).append (hrecords k kind)).trans (hs.1.kept k kind).sublist
  · rw [List.filter_false, List.filter_false]
  · rcases h.entryAt k with hsame | hnew
    · rw [hsame] at hr
      exact hs.1.active k kind r hr
    · rw [hnew, BeaconCacheEntry.active_new] at hr
      exact absurd hr List.not_mem_nil
  · rw [hlog] at hc
    rcases List.mem_append.mp hc with hc | hc
    · exact (hs.1.answered chunk hc).append hlog
    · exact absurd (hnew _ hc) id
  · refine hs.2.extend hlog hadded (fun k => ?_) h.sublist h.created
    rcases h.entryAt k with hsame | hnew
    · rw [hsame]
      exact hs.2.covered k
    · rw [hnew]
      exact BeaconCacheEntry.accounted_new.covered
  · rcases h.entryAt k with hsame | hnew
    · rw [hsame]
      exact hidle k
    · rw [hnew]
      rfl

/-! ## Parts of the sender -/

/-- A part of the sender that leaves the cache in order, whatever the other threads do. -/
abbrev LeavesStocked {α : Type} (p : Sender α) : Prop := Program.Preserves OtherStep Stocked Idle p

/-- A part all of whose actions are quiet leaves the cache in order. -/
theorem preserves_quiet {α : Type} {p : Sender α} (hp : Program.Guarantees QuietStep p) :
    LeavesStocked p :=
  hp.preserves stable_stocked stable_idle_other fun _ _ h hs hidle => h.stocked hs hidle

theorem preserves_return {α : Type} (a : α) : LeavesStocked (.ret a) :=
  Program.preserves_ret stable_stocked stable_idle_other a

/-- Sending keeps the inventory. -/
theorem stable_inventory_send : Stable (SendStep k) Inventory := by
  intro w w' hstep h
  obtain ⟨new, hlog, hnew⟩ := hstep.log
  refine h.extend hlog (fun k kind => ?_) (hstep.covered h.covered) (by rw [hstep.context])
    hstep.created
  refine List.filterMap_eq_nil_iff.mpr fun event he => ?_
  cases event with
  | added => exact absurd (hnew _ he) id
  | _ => rfl

/-- **Sending** leaves the cache in order. -/
theorem preserves_send {env : Environment} (rounds : ℕ) (k : BeaconKey) :
    LeavesStocked (BeaconSend.send env rounds k) := by
  intro w hs hidle
  have hsteps : Program.Guarantees (SendStep k) (BeaconSend.send env rounds k) :=
    BeaconSend.guarantees_send rounds
  have hevicting : Program.Sat (EvictingStep fun _ => false) (Retention fun _ => false)
      (BeaconSend.send env rounds k) (fun _ w => Idle w) w :=
    BeaconSend.sat_send_evicting rounds k hs.1 hidle
  have hretained := hevicting.rely fun _ _ h => OtherStep.evictingStep h
  have hboth := hretained.and (hsteps.sat stable_inventory stable_inventory_send hs.2)
  exact hboth.mono fun _ _ _ h => h.1

end OpenKit
