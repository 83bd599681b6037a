import OpenKit.Communication.Delivery
import OpenKit.Communication.SendFrame
import OpenKit.Protocol.EventData

/-!
# The ledger of the sessions removed

A finished session is removed once its last data is acknowledged, or when its byte counter says that
there is none. For this to be right three things have to agree: the records of the cache with
those added, the counters with the records, and the sessions of the context with those created and
not removed. `NoLoss` states the three together with what follows from them: of a session
removed all records were acknowledged before, unless its data was cleared somewhere else.

The application reports to sessions that are not finished and no empty texts.

## Main definitions

* `Reports`: when a thread of the application may add a record
* `ClearsFinishedOnly`: no data is cleared outside the loop over the finished sessions
* `Ledger`, `NoLoss`: the invariants
* `NoteStep`: a step of the sender that touches no data and no list of sessions

## Main results

* `Ledger.extend`: what a step has to show to keep the ledger
* `NoLoss.of_noteStep`, `NoLoss.clear`, `NoLoss.remove`: the steps of the sender outside sending
* `stable_noLoss`: the steps of the application
-/

namespace OpenKit

open Thread

/-- Records are added to sessions that are not finished, and with texts that a beacon builds. -/
def Reports (w : World) (k : BeaconKey) (data : UTF8String) : Prop :=
  (w.session k).isSessionFinished = false ∧ EventData.IsReportText data

/-- Data was cleared by the loop over the finished sessions only. -/
def ClearsFinishedOnly (log : List Event) : Prop :=
  ∀ phase k, .cleared phase k ∈ log → phase = .finishedSessions

/-- Data was cleared outside that loop. -/
def Event.clearsElsewhere : Event → Bool
  | .cleared phase _ => phase != .finishedSessions
  | _ => false

theorem clearsFinishedOnly_iff {log : List Event} :
    ClearsFinishedOnly log ↔ ∀ event ∈ log, event.clearsElsewhere = false := by
  constructor
  · intro h event he
    cases event with
    | cleared phase k => exact bne_eq_false_iff_eq.mpr (h phase k he)
    | _ => rfl
  · exact fun h phase k hk => bne_eq_false_iff_eq.mp (h _ hk)

instance (log : List Event) : Decidable (ClearsFinishedOnly log) :=
  decidable_of_iff _ clearsFinishedOnly_iff.symm

/-- The sessions removed although their data was to be sent. -/
def removals : List Event → List BeaconKey :=
  List.filterMap fun
    | .removed k true => some k
    | _ => none

theorem mem_removals {k : BeaconKey} {log : List Event} (h : k ∈ removals log) :
    .removed k true ∈ log := by
  obtain ⟨event, he, hsome⟩ := List.mem_filterMap.mp h
  split at hsome
  · obtain rfl := Option.some.inj hsome
    exact he
  · exact absurd hsome.symm (Option.some_ne_none k)

theorem ClearsFinishedOnly.of_append {log new : List Event}
    (h : ClearsFinishedOnly (log ++ new)) : ClearsFinishedOnly log :=
  fun phase k hk => h phase k (List.mem_append_left _ hk)

/-- The session is one of those created, and finished. -/
def Finished (k : BeaconKey) (w : World) : Prop :=
  k ∈ w.created ∧ (w.session k).isSessionFinished = true

/-- The counters, the texts, the list of sessions, and what is known of the sessions removed. -/
structure Ledger (w : World) : Prop where
  accounted : w.cache.Accounted
  reported : ∀ k kind, ∀ r ∈ added k kind w.log, 0 < r.getDataSizeInBytes
  nodup : w.context.sessions.Nodup
  created : ∀ k ∈ w.context.sessions, k ∈ w.created
  gone : ∀ k, .cleared .finishedSessions k ∈ w.log → k ∈ w.created ∧ k ∉ w.context.sessions
  removed : ∀ l l' k, w.log = l ++ .removed k true :: l' → Finished k w ∧
    (ClearsFinishedOnly l → ∀ kind, acknowledged k kind l = added k kind w.log)

/-- **The invariant of the sender**: delivery, and the ledger. -/
structure NoLoss (w : World) : Prop where
  delivery : Delivery (cleared w.log) w
  ledger : Ledger w

theorem Delivery.self {L : List BeaconKey} {w : World} (h : Delivery L w) :
    Delivery (OpenKit.cleared w.log) w := by
  rw [h.cleared]
  exact h

/-! ## Steps that extend the log -/

variable {w w' : World} {k : BeaconKey}

/-- An entry of a longer log is in the old part or in the new one. -/
theorem split_append {α : Type} {old new l l' : List α} {e : α}
    (h : old ++ new = l ++ e :: l') :
    (∃ l'', old = l ++ e :: l'') ∨ ∃ l'', l = old ++ l'' ∧ new = l'' ++ e :: l' := by
  rcases List.append_eq_append_iff.mp h with ⟨mid, hl, hnew⟩ | ⟨mid, hold, hnew⟩
  · exact .inr ⟨mid, hl, hnew⟩
  · cases mid with
    | nil => exact .inr ⟨[], by simpa using hold.symm, by simpa using hnew.symm⟩
    | cons e' mid =>
      obtain ⟨rfl, -⟩ := List.cons.inj hnew
      exact .inl ⟨mid, hold⟩

/-- **What keeps the ledger**: right counters, positive sizes of what is added, nothing added to
finished sessions, a list of sessions that gets only new ones, and a reason for each session
removed. -/
theorem Ledger.extend (h : Ledger w) (new : List Event) (hlog : w'.log = w.log ++ new)
    (haccounted : w'.cache.Accounted)
    (hreported : ∀ k kind, ∀ r ∈ added k kind new, 0 < r.getDataSizeInBytes)
    (hnodup : w'.context.sessions.Nodup)
    (hcreated : ∀ k ∈ w'.context.sessions, k ∈ w'.created)
    (hmono : ∀ k ∈ w.created, k ∈ w'.created)
    (hold : ∀ k ∈ w.created, k ∈ w'.context.sessions → k ∈ w.context.sessions)
    (hfinished : ∀ k, Finished k w → Finished k w' ∧ ∀ kind, added k kind new = [])
    (hgone : ∀ k, .cleared .finishedSessions k ∈ new → k ∈ w'.created ∧ k ∉ w'.context.sessions)
    (hremoved : ∀ l l' k, new = l ++ .removed k true :: l' → Finished k w' ∧
      (ClearsFinishedOnly (w.log ++ l) →
        ∀ kind, acknowledged k kind (w.log ++ l) = added k kind w'.log)) :
    Ledger w' := by
  refine ⟨haccounted, fun k kind r hr => ?_, hnodup, hcreated, fun k hk => ?_,
    fun l l' k hsplit => ?_⟩
  · rw [hlog, added_append] at hr
    rcases List.mem_append.mp hr with hr | hr
    · exact h.reported k kind r hr
    · exact hreported k kind r hr
  · rw [hlog] at hk
    rcases List.mem_append.mp hk with hk | hk
    · obtain ⟨hc, hs⟩ := h.gone k hk
      exact ⟨hmono k hc, fun hs' => hs (hold k hc hs')⟩
    · exact hgone k hk
  · rw [hlog] at hsplit
    rcases split_append hsplit with ⟨l'', hl⟩ | ⟨l'', rfl, hnew⟩
    · obtain ⟨hfin, hacked⟩ := h.removed l l'' k hl
      obtain ⟨hfin', hnone⟩ := hfinished k hfin
      refine ⟨hfin', fun hclears kind => ?_⟩
      rw [hlog, added_append, hnone kind, List.append_nil]
      exact hacked hclears kind
    · exact hremoved l'' l' k hnew

/-- A session of the context was not cleared by the loop over the finished sessions. -/
theorem Ledger.not_mem_cleared (h : Ledger w) (hk : k ∈ w.context.sessions)
    (hclears : ClearsFinishedOnly w.log) : k ∉ cleared w.log := by
  intro hmem
  obtain ⟨event, he, hsome⟩ := List.mem_filterMap.mp hmem
  cases event with
  | cleared phase k' =>
    obtain rfl := Option.some.inj hsome
    obtain rfl := hclears phase k' he
    exact (h.gone k' he).2 hk
  | _ => simp at hsome

/-- What is not in the new part of the log needs no reason. -/
theorem no_removal {new : List Event} {P : List Event → List Event → BeaconKey → Prop}
    (h : ∀ k, .removed k true ∉ new) (l l' : List Event) (k : BeaconKey)
    (hnew : new = l ++ .removed k true :: l') : P l l' k := by
  refine absurd ?_ (h k)
  rw [hnew]
  exact List.mem_append_right _ List.mem_cons_self

/-! ## Steps of the application -/

theorem AppStep.log_grows {mayAdd : World → BeaconKey → UTF8String → Prop}
    (h : AppStep mayAdd w w') : ∃ new, w'.log = w.log ++ new := by
  rcases h.add_or_keep with ⟨k, kind, timestamp, data, -, rfl⟩ | ⟨-, hlog⟩
  · exact ⟨_, rfl⟩
  · exact ⟨[], hlog.trans (List.append_nil _).symm⟩

theorem stable_finished {mayAdd : World → BeaconKey → UTF8String → Prop} :
    Stable (AppStep mayAdd) (Finished k) :=
  fun _ _ hstep h => hstep.finished h

theorem getDataSizeInBytes_pos {data : UTF8String} (h : EventData.IsReportText data)
    (timestamp : ℤ) : 0 < (BeaconCacheRecord.new timestamp data).getDataSizeInBytes := by
  have hlen : 0 < data.getStringData.length := List.length_pos_of_ne_nil h.getStringData_ne_nil
  rw [BeaconCacheRecord.getDataSizeInBytes]
  simp only [BeaconCacheRecord.new, h.isEmpty, Bool.false_eq_true, if_false]
  exact_mod_cast hlen

theorem added_single {k' : BeaconKey} {kind kind' : RecordKind} {record : BeaconCacheRecord} :
    added k kind [.added k' kind' record] = if k' = k ∧ kind' = kind then [record] else [] := by
  by_cases h : k' = k ∧ kind' = kind
  · simp [added, h]
  · simp [added, h]

/-- A record added to an unfinished session. -/
theorem Ledger.addData (h : Ledger w) {kind : RecordKind} {timestamp : ℤ} {data : UTF8String}
    (hmay : Reports w k data) : Ledger (w.addData k kind timestamp data) := by
  have haccounted : (w.cache.addData k kind timestamp data).Accounted := by
    cases kind with
    | event => exact h.accounted.addEventData k timestamp data
    | action => exact h.accounted.addActionData k timestamp data
  refine h.extend [.added k kind (.new timestamp data)] rfl haccounted
    (fun k' kind' r hr => ?_) h.nodup h.created (fun _ => id) (fun _ _ => id)
    (fun k' hfin => ⟨hfin, fun kind' => ?_⟩) (fun k' hk' => ?_) (no_removal fun k' hk' => ?_)
  · rw [added_single] at hr
    split at hr
    · obtain rfl := List.mem_singleton.mp hr
      exact getDataSizeInBytes_pos hmay.2 timestamp
    · exact absurd hr List.not_mem_nil
  · rw [added_single, if_neg]
    rintro ⟨rfl, -⟩
    exact Bool.false_ne_true (hmay.1.symm.trans hfin.2)
  · simp at hk'
  · simp at hk'

/-- A step that leaves the cache, the log and the old sessions as they are. -/
theorem Ledger.keep (h : Ledger w) (hcache : w'.cache = w.cache) (hlog : w'.log = w.log)
    (hnodup : w'.context.sessions.Nodup) (hcreated : ∀ k ∈ w'.context.sessions, k ∈ w'.created)
    (hmono : ∀ k ∈ w.created, k ∈ w'.created)
    (hold : ∀ k ∈ w.created, k ∈ w'.context.sessions → k ∈ w.context.sessions)
    (hfinished : ∀ k, Finished k w → Finished k w') : Ledger w' := by
  have haccounted : w'.cache.Accounted := by
    rw [hcache]
    exact h.accounted
  refine h.extend [] (hlog.trans (List.append_nil _).symm) haccounted ?_ hnodup hcreated
    hmono hold (fun k hfin => ⟨hfinished k hfin, fun _ => rfl⟩) ?_ (no_removal ?_)
  · exact fun _ _ _ hr => absurd hr List.not_mem_nil
  · exact fun _ hk => absurd hk List.not_mem_nil
  · exact fun _ => List.not_mem_nil

theorem stable_ledger : Stable (AppStep Reports) Ledger := by
  intro w w' hstep h
  have hfinished : ∀ k, Finished k w → Finished k w' := fun k => hstep.finished
  cases hstep with
  | add k kind timestamp data hmay => exact h.addData hmay
  | touch k session hsame =>
    exact h.keep rfl rfl h.nodup h.created (fun _ => id) (fun _ _ => id) hfinished
  | finish k => exact h.keep rfl rfl h.nodup h.created (fun _ => id) (fun _ _ => id) hfinished
  | create k session hnew hopen =>
    have hk : k ∉ w.context.sessions := fun hk => hnew (h.created k hk)
    refine h.keep rfl rfl ?_ ?_ ?_ ?_ hfinished
    · exact List.nodup_append_comm.mp (List.nodup_cons.mpr ⟨hk, h.nodup⟩)
    · intro k' hk'
      rcases List.mem_append.mp hk' with hk' | hk'
      · exact List.mem_append_left _ (h.created k' hk')
      · exact List.mem_append_right _ hk'
    · exact fun _ => List.mem_append_left _
    · intro k' hc hk'
      rcases List.mem_append.mp hk' with hk' | hk'
      · exact hk'
      · obtain rfl := List.mem_singleton.mp hk'
        exact absurd hc hnew
  | requestShutdown => exact h.keep rfl rfl h.nodup h.created (fun _ => id) (fun _ _ => id) hfinished
  | tick => exact h.keep rfl rfl h.nodup h.created (fun _ => id) (fun _ _ => id) hfinished

/-- **The application** keeps the invariant. -/
theorem stable_noLoss : Stable (AppStep Reports) NoLoss :=
  fun _ _ hstep h => ⟨(stable_delivery _ _ hstep h.delivery).self, stable_ledger _ _ hstep h.ledger⟩

/-! ## Steps of the sender -/

/-- An entry that is neither about a record or a chunk nor about cleared data. -/
def Event.IsInert : Event → Prop
  | .newSessionRequested _ => True
  | .sent .. => True
  | .removed .. => True
  | .handled _ => True
  | _ => False

section Inert

variable {new : List Event} (hnew : ∀ event ∈ new, event.IsInert)

include hnew

theorem cleared_of_inert : cleared new = [] := by
  refine List.filterMap_eq_nil_iff.mpr fun event he => ?_
  cases event with
  | cleared phase k => exact absurd (hnew _ he) id
  | _ => rfl

theorem requests_of_inert : requests new = [] := by
  refine List.filterMap_eq_nil_iff.mpr fun event he => ?_
  cases event with
  | requested phase chunk answer => exact absurd (hnew _ he) id
  | _ => rfl

theorem added_of_inert (k : BeaconKey) (kind : RecordKind) : added k kind new = [] := by
  refine List.filterMap_eq_nil_iff.mpr fun event he => ?_
  cases event with
  | added k' kind' record => exact absurd (hnew _ he) id
  | _ => rfl

theorem acknowledged_of_inert (k : BeaconKey) (kind : RecordKind) :
    acknowledged k kind new = [] := by
  refine List.flatMap_eq_nil_iff.mpr fun event he => ?_
  cases event with
  | acknowledged chunk => exact absurd (hnew _ he) id
  | _ => rfl

/-- Entries that say nothing of records keep delivery. -/
theorem Delivery.of_inert {L : List BeaconKey} (h : Delivery L w) (hcache : w'.cache = w.cache)
    (hlog : w'.log = w.log ++ new) : Delivery L w' := by
  refine ⟨?_, fun k hk kind => ?_, ?_, fun request hr => ?_, fun chunk hc => ?_⟩
  · rw [hlog, cleared_append, cleared_of_inert hnew, List.append_nil]
    exact h.cleared
  · rw [hlog, acknowledged_append, added_append, acknowledged_of_inert hnew, added_of_inert hnew,
      List.append_nil, List.append_nil, hcache]
    exact h.exactlyOnce k hk kind
  · rw [hcache]
    exact h.active
  · rw [hlog, requests_append, requests_of_inert hnew, List.append_nil] at hr
    exact h.chunks request hr
  · rw [hlog] at hc
    rcases List.mem_append.mp hc with hc | hc
    · exact (h.answered chunk hc).append hlog
    · exact absurd (hnew _ hc) id

end Inert

/-- A step of the sender that touches no data and no list of sessions. -/
structure NoteStep (w w' : World) : Prop where
  cache : w'.cache = w.cache
  created : w'.created = w.created
  listed : w'.context.sessions = w.context.sessions
  finished : ∀ k, (w'.session k).isSessionFinished = (w.session k).isSessionFinished
  log : ∃ new, w'.log = w.log ++ new ∧
    ∀ event ∈ new, event.IsInert ∧ ∀ k, event ≠ .removed k true

/-- A step that changes neither the data nor the sessions nor the log. -/
theorem NoteStep.of_log (hcache : w'.cache = w.cache) (hcreated : w'.created = w.created)
    (hlisted : w'.context.sessions = w.context.sessions)
    (hfinished : ∀ k, (w'.session k).isSessionFinished = (w.session k).isSessionFinished)
    (hlog : w'.log = w.log) : NoteStep w w' :=
  ⟨hcache, hcreated, hlisted, hfinished, [], hlog.trans (List.append_nil _).symm,
    List.forall_mem_nil _⟩

theorem NoteStep.refl (w : World) : NoteStep w w := .of_log rfl rfl rfl (fun _ => rfl) rfl

theorem NoteStep.trans {w'' : World} (h : NoteStep w w') (h' : NoteStep w' w'') :
    NoteStep w w'' := by
  obtain ⟨new, hlog, hnew⟩ := h.log
  obtain ⟨new', hlog', hnew'⟩ := h'.log
  refine ⟨h'.cache.trans h.cache, h'.created.trans h.created, h'.listed.trans h.listed,
    fun k => (h'.finished k).trans (h.finished k), new ++ new', ?_, fun event he => ?_⟩
  · rw [hlog', hlog, List.append_assoc]
  · rcases List.mem_append.mp he with he | he
    · exact hnew event he
    · exact hnew' event he

theorem NoLoss.of_noteStep (h : NoLoss w) (hstep : NoteStep w w') : NoLoss w' := by
  obtain ⟨new, hlog, hnew⟩ := hstep.log
  have hinert : ∀ event ∈ new, event.IsInert := fun event he => (hnew event he).1
  have hfinished (k : BeaconKey) (hfin : Finished k w) : Finished k w' := by
    rw [Finished, hstep.created, hstep.finished]
    exact hfin
  refine ⟨(h.delivery.of_inert hinert hstep.cache hlog).self, h.ledger.extend _ hlog ?_ ?_ ?_ ?_ ?_ ?_
    (fun k hfin => ⟨hfinished k hfin, added_of_inert hinert k⟩) ?_
    (no_removal fun k hk => (hnew _ hk).2 k rfl)⟩
  · rw [hstep.cache]
    exact h.ledger.accounted
  · intro k kind r hr
    rw [added_of_inert hinert] at hr
    exact absurd hr List.not_mem_nil
  · rw [hstep.listed]
    exact h.ledger.nodup
  · rw [hstep.listed, hstep.created]
    exact h.ledger.created
  · rw [hstep.created]
    exact fun _ => id
  · rw [hstep.listed]
    exact fun _ _ => id
  · exact fun k hk => absurd (hinert _ hk) id

/-- Sending keeps the ledger. -/
theorem stable_ledger_send : Stable (SendStep k) Ledger := by
  intro w w' hstep h
  obtain ⟨new, hlog, hnew⟩ := hstep.log
  have hadded (k : BeaconKey) (kind : RecordKind) : added k kind new = [] := by
    refine List.filterMap_eq_nil_iff.mpr fun event he => ?_
    cases event with
    | added k' kind' record => exact absurd (hnew _ he) id
    | _ => rfl
  have hfinished (k : BeaconKey) (hfin : Finished k w) : Finished k w' := by
    rw [Finished, hstep.created, hstep.session]
    exact hfin
  refine h.extend _ hlog (hstep.accounted h.accounted) ?_ ?_ ?_ ?_ ?_
    (fun k hfin => ⟨hfinished k hfin, hadded k⟩) ?_ (no_removal fun k hk => hnew _ hk)
  · intro k kind r hr
    rw [hadded] at hr
    exact absurd hr List.not_mem_nil
  · rw [hstep.context]
    exact h.nodup
  · rw [hstep.context, hstep.created]
    exact h.created
  · rw [hstep.created]
    exact fun _ => id
  · rw [hstep.context]
    exact fun _ _ => id
  · exact fun k hk => absurd (hnew _ hk) id

/-- Clearing the data of a session takes it out of those that delivery speaks of. -/
theorem Delivery.clear {L : List BeaconKey} (h : Delivery L w) (phase : Phase) (k : BeaconKey) :
    Delivery (L ++ [k])
      ((w.setCache (w.cache.deleteCacheEntry k)).write (.cleared phase k)) := by
  refine ⟨?_, fun k' hk' kind => ?_, fun k' kind r hr => ?_, fun request hr => ?_,
    fun chunk hc => ?_⟩
  · rw [World.log_write, World.log_setCache, cleared_append, h.cleared]
    rfl
  · obtain ⟨hL, hne⟩ := not_or.mp (List.mem_append.not.mp hk')
    have hne : k' ≠ k := fun heq => hne (List.mem_singleton.mpr heq)
    rw [World.log_write, World.log_setCache, World.cache_write, World.cache_setCache,
      acknowledged_append, added_append, BeaconCache.entryAt_deleteCacheEntry, if_neg hne]
    exact (congrArg₂ (· ++ ·) (List.append_nil _) rfl).trans
      ((h.exactlyOnce k' hL kind).trans (List.append_nil _).symm)
  · rw [World.cache_write, World.cache_setCache, BeaconCache.entryAt_deleteCacheEntry] at hr
    split at hr
    · rw [BeaconCacheEntry.active_new] at hr
      exact absurd hr List.not_mem_nil
    · exact h.active k' kind r hr
  · rw [World.log_write, World.log_setCache, requests_append] at hr
    rcases List.mem_append.mp hr with hr | hr
    · exact h.chunks request hr
    · exact absurd hr List.not_mem_nil
  · rw [World.log_write, World.log_setCache] at hc
    rcases List.mem_append.mp hc with hc | hc
    · exact (h.answered chunk hc).append rfl
    · simp at hc

theorem Idle.clear (h : Idle w) (phase : Phase) (k : BeaconKey) :
    Idle ((w.setCache (w.cache.deleteCacheEntry k)).write (.cleared phase k)) := by
  intro k'
  rw [World.cache_write, World.cache_setCache, BeaconCache.entryAt_deleteCacheEntry]
  split
  · rfl
  · exact h k'

/-- **Clearing** keeps the invariant, in the loop over the finished sessions after the removal. -/
theorem NoLoss.clear (h : NoLoss w) {phase : Phase}
    (hgone : phase = .finishedSessions → k ∈ w.created ∧ k ∉ w.context.sessions) :
    NoLoss ((w.setCache (w.cache.deleteCacheEntry k)).write (.cleared phase k)) := by
  refine ⟨(h.delivery.clear phase k).self, h.ledger.extend [.cleared phase k] rfl
    (h.ledger.accounted.deleteCacheEntry k) ?_ h.ledger.nodup h.ledger.created (fun _ => id)
    (fun _ _ => id) (fun _ hfin => ⟨hfin, fun _ => rfl⟩) ?_ (no_removal ?_)⟩
  · exact fun _ _ _ hr => absurd hr List.not_mem_nil
  · intro k' hk'
    obtain ⟨rfl, rfl⟩ := Event.cleared.inj (List.mem_singleton.mp hk')
    exact hgone rfl
  · intro k' hk'
    simp at hk'

/-- **Removing** a session keeps the invariant, if it has no record left or is not to be sent. -/
theorem NoLoss.remove (h : NoLoss w) (hk : k ∈ w.context.sessions) (hfin : Finished k w)
    {allowed : Bool} (hempty : allowed = true → ClearsFinishedOnly w.log →
      ∀ kind, (w.cache.entryAt k).records kind = []) :
    NoLoss ((w.setContext (w.context.removeSession k)).write (.removed k allowed)) := by
  have hinert : ∀ event ∈ [Event.removed k allowed], event.IsInert :=
    List.forall_mem_singleton.mpr trivial
  have hdelivery : Delivery (cleared w.log)
      ((w.setContext (w.context.removeSession k)).write (.removed k allowed)) :=
    h.delivery.of_inert hinert rfl rfl
  refine ⟨hdelivery.self, h.ledger.extend [.removed k allowed] rfl
    h.ledger.accounted ?_ (h.ledger.nodup.erase k) ?_ (fun _ => id)
    (fun _ _ => List.mem_of_mem_erase) (fun _ hfin => ⟨hfin, fun _ => rfl⟩) ?_ ?_⟩
  · exact fun _ _ _ hr => absurd hr List.not_mem_nil
  · exact fun k' hk' => h.ledger.created k' (List.mem_of_mem_erase hk')
  · intro k' hk'
    simp at hk'
  · -- the session removed has its records acknowledged
    intro l l' k' hnew
    obtain ⟨rfl, hev, -⟩ : l = [] ∧ Event.removed k allowed = .removed k' true ∧ l' = [] := by
      cases l with
      | nil => simpa using hnew
      | cons e l => simp at hnew
    obtain ⟨rfl, rfl⟩ := Event.removed.inj hev
    refine ⟨hfin, fun hclears kind => ?_⟩
    rw [List.append_nil] at hclears ⊢
    have hacked := h.delivery.exactlyOnce k (h.ledger.not_mem_cleared hk hclears) kind
    rw [hempty rfl hclears kind, List.append_nil] at hacked
    rw [World.log_write, World.log_setContext, added_append, hacked]
    exact (List.append_nil _).symm

/-- Removing a session without a note of it, as after clearing. -/
theorem NoLoss.drop (h : NoLoss w) (k : BeaconKey) :
    NoLoss (w.setContext (w.context.removeSession k)) := by
  have hnone : ∀ event ∈ ([] : List Event), event.IsInert := List.forall_mem_nil _
  have hdelivery : Delivery (cleared w.log) (w.setContext (w.context.removeSession k)) :=
    h.delivery.of_inert hnone rfl (List.append_nil _).symm
  refine ⟨hdelivery.self, h.ledger.keep rfl rfl (h.ledger.nodup.erase k) ?_
    (fun _ => id) (fun _ _ => List.mem_of_mem_erase) (fun _ => id)⟩
  exact fun k' hk' => h.ledger.created k' (List.mem_of_mem_erase hk')

end OpenKit
