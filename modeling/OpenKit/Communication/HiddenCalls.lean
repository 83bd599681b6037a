import OpenKit.Caching.OldestRecords
import OpenKit.Communication.LiveBeacon
import OpenKit.Library.Noninterference

/-!
# What users are asked about

Values, events and the user are reported by users only who have agreed to all of it. Without this consent,
such reports leave no trace: the records of a beacon and its requests are those of a run without them. Nor
does it make a difference which device id is configured, and which session id was drawn.

## Main definitions

* `LiveBeacon.View`: a beacon without the ids that are not told
* `LiveCall.isHidden`: the calls that report what the user has not agreed to
* `LiveBeacon.observed`: the replies, the records and the requests of a run

## Main results

* `unwinds_step`: hidden calls do nothing, and the others do the same in states with one view
* `observed_eq`: runs that differ in hidden calls and in ids that are not told are the same to see
-/

namespace OpenKit

open Thread

namespace BeaconCache

variable {c c' : BeaconCache} {k k' : BeaconKey}

/-- Records go to the entry of their key. -/
theorem entryAt_addRecords_congr (h : c.entryAt k = c'.entryAt k') (records : List BeaconRecord) :
    (c.addRecords k records).entryAt k = (c'.addRecords k' records).entryAt k' := by
  induction records generalizing c c' with
  | nil => exact h
  | cons record records ih =>
    refine ih ?_
    rw [entryAt_addData, entryAt_addData, if_pos rfl, if_pos rfl, h]

theorem entryAt_getNextBeaconChunk_self (chunkPrefix : UTF8String) (maxSize : ℤ)
    (delimiter : UTF8String) :
    (c.getNextBeaconChunk k chunkPrefix maxSize delimiter).2.entryAt k =
      ((c.entryAt k).getChunk chunkPrefix (toSizeT maxSize) delimiter).2 := by
  rw [entryAt_getNextBeaconChunk, if_pos rfl]

/-- An operation that removes records from an entry, and none without an entry. -/
theorem fst_match {f : BeaconCacheEntry → ℕ × BeaconCacheEntry} {r : ℕ × BeaconCache}
    (hnew : (f .new).1 = 0) (hnone : c.getCachedEntry k = none → r = (0, c))
    (hsome : ∀ entry, c.getCachedEntry k = some entry → r = ((f entry).1, c.setEntry k (f entry).2 0)) :
    r.1 = (f (c.entryAt k)).1 := by
  cases h : c.getCachedEntry k with
  | none => rw [hnone h, entryAt_of_none h, hnew]
  | some entry => rw [hsome entry h, entryAt_of_some h]

theorem evictRecordsByAge_fst (minTimestamp : ℤ) :
    (c.evictRecordsByAge k minTimestamp).1 = ((c.entryAt k).removeRecordsOlderThan minTimestamp).1 := by
  refine fst_match (f := fun e => e.removeRecordsOlderThan minTimestamp) rfl (fun h => ?_)
    (fun entry h => ?_)
  · rw [evictRecordsByAge, h]
  · rw [evictRecordsByAge, h]

end BeaconCache

namespace LiveCall

/-- The calls that report what the user is asked about. -/
def isHidden : LiveCall → Bool
  | reportIntValue .. | reportDoubleValue .. | reportStringValue .. | reportEvent .. | identifyUser ..
  | sendEvent .. => true
  | _ => false

end LiveCall

namespace LiveBeacon

/-- **The view** of a beacon: everything but the configured device id, the id of its key, and what the cache
has of others. -/
structure View where
  openKitConfiguration : OpenKitDescription
  beaconSequenceNumber : ℤ
  deviceID : ℤ
  sessionNumber : ℤ
  useClientIPAddress : Bool
  supplementaryBasicData : SupplementaryBasicData
  reporting : Reporting
  numNanoReads : ℕ
  entry : BeaconCacheEntry
  requests : List BeaconTransmission

def view (s : LiveBeacon) : View where
  openKitConfiguration := { s.openKitConfiguration with deviceID := 0 }
  beaconSequenceNumber := s.beaconKey.beaconSequenceNumber
  deviceID := s.deviceID
  sessionNumber := s.sessionNumber
  useClientIPAddress := s.useClientIPAddress
  supplementaryBasicData := s.supplementaryBasicData
  reporting := s.reporting
  numNanoReads := s.numNanoReads
  entry := s.cache.entryAt s.beaconKey
  requests := s.requests

/-- Two beacons with the same view. -/
structure Alike (s t : LiveBeacon) : Prop where
  openKitConfiguration :
    { s.openKitConfiguration with deviceID := 0 } = { t.openKitConfiguration with deviceID := 0 }
  beaconSequenceNumber : s.beaconKey.beaconSequenceNumber = t.beaconKey.beaconSequenceNumber
  deviceID : s.deviceID = t.deviceID
  sessionNumber : s.sessionNumber = t.sessionNumber
  useClientIPAddress : s.useClientIPAddress = t.useClientIPAddress
  supplementaryBasicData : s.supplementaryBasicData = t.supplementaryBasicData
  reporting : s.reporting = t.reporting
  numNanoReads : s.numNanoReads = t.numNanoReads
  entry : s.cache.entryAt s.beaconKey = t.cache.entryAt t.beaconKey
  requests : s.requests = t.requests

variable {env : BeaconEnvironment} {threadID : ℤ} {s t : LiveBeacon}

theorem view_eq_iff : s.view = t.view ↔ Alike s t := by
  constructor
  · intro h
    rw [view, view, View.mk.injEq] at h
    obtain ⟨h1, h2, h3, h4, h5, h6, h7, h8, h9, h10⟩ := h
    exact ⟨h1, h2, h3, h4, h5, h6, h7, h8, h9, h10⟩
  · rintro ⟨h1, h2, h3, h4, h5, h6, h7, h8, h9, h10⟩
    rw [view, view, h1, h2, h3, h4, h5, h6, h7, h8, h9, h10]

/-! ## Hidden calls -/

section Hidden

/-- A report that the user has not agreed to does nothing. -/
theorem run_report_of_not_allowed {allowed : PrivacyConfiguration → Bool} (capturing : Beacon → Bool)
    (body : Reporter Unit) {r : Reporting} (h : allowed r.beacon.privacyConfiguration = false) :
    (BeaconReports.report allowed capturing body).run r = (.ok (), r) := by
  rw [BeaconReports.report, Program.run_bind_ok (Program.run_read _ r), h]
  rfl

/-- Nor does it after a check of its arguments. -/
theorem run_checked_report_of_not_allowed (text : UTF8String) (message : String)
    {allowed : PrivacyConfiguration → Bool} (capturing : Beacon → Bool) (body : Reporter Unit)
    {r : Reporting} (h : allowed r.beacon.privacyConfiguration = false) :
    ((BeaconReports.requireNonEmpty text message >>= fun _ =>
      BeaconReports.report allowed capturing body).run r).2 = r := by
  rw [BeaconReports.requireNonEmpty]
  split
  · rfl
  · exact congrArg Prod.snd (run_report_of_not_allowed capturing body h)

/-- What reports nothing leaves a beacon as it is. -/
theorem report_of_quiet {α : Type} {p : Reporter α} (reply : α → LiveReply)
    (h : (p.run s.reporting).2 = s.reporting) : (s.report p reply).2 = s := by
  rw [report]
  dsimp only
  rw [h, List.drop_length]
  rfl

/-- A beacon of a user who has not agreed to all. -/
def IsRestricted (s : LiveBeacon) : Prop :=
  s.beacon.privacyConfiguration.dataCollectionLevel ≠ .userBehavior

/-- **Hidden calls** do nothing without the consent of the user. -/
theorem step_of_isHidden (h : s.IsRestricted) {call : LiveCall} (hcall : call.isHidden = true) :
    (s.step env threadID call).2 = s := by
  have hrestricted : (s.beacon.privacyConfiguration.dataCollectionLevel == .userBehavior) = false :=
    beq_eq_false_iff_ne.mpr h
  cases call with
  | reportIntValue => exact report_of_quiet _ (run_checked_report_of_not_allowed _ _ _ _ hrestricted)
  | reportDoubleValue => exact report_of_quiet _ (run_checked_report_of_not_allowed _ _ _ _ hrestricted)
  | reportStringValue => exact report_of_quiet _ (run_checked_report_of_not_allowed _ _ _ _ hrestricted)
  | reportEvent => exact report_of_quiet _ (run_checked_report_of_not_allowed _ _ _ _ hrestricted)
  | identifyUser =>
    exact report_of_quiet _ (congrArg Prod.snd (run_report_of_not_allowed _ _ hrestricted))
  | sendEvent name attributes maps =>
    -- the clock is not read either
    have hread : s.readNanoClock (!name.isEmpty &&
        s.beacon.privacyConfiguration.isEventReportingAllowed && s.beacon.isDataCapturingEnabled) = s := by
      rw [PrivacyConfiguration.isEventReportingAllowed, hrestricted, Bool.and_false, Bool.false_and]
      rfl
    rw [step, sendEvent, hread]
    exact report_of_quiet _ (run_checked_report_of_not_allowed _ _ _ _ hrestricted)
  | _ => cases hcall

end Hidden

/-! ## The other calls -/

namespace Alike

/-- The same report. -/
theorem report (h : Alike s t) {α : Type} (p : Reporter α) (reply : α → LiveReply) :
    (s.report p reply).1 = (t.report p reply).1 ∧ Alike (s.report p reply).2 (t.report p reply).2 := by
  rw [LiveBeacon.report, LiveBeacon.report, h.reporting]
  refine ⟨rfl, { h with reporting := rfl, entry := ?_ }⟩
  exact BeaconCache.entryAt_addRecords_congr h.entry _

theorem beacon (h : Alike s t) : s.beacon = t.beacon := congrArg Reporting.beacon h.reporting

theorem configure (h : Alike s t) (f : BeaconConfiguration → BeaconConfiguration) :
    Alike (s.configure f) (t.configure f) :=
  { h with reporting := by rw [LiveBeacon.configure, LiveBeacon.configure, h.reporting] }

theorem readNanoClock (h : Alike s t) (isRead : Bool) :
    Alike (s.readNanoClock isRead) (t.readNanoClock isRead) :=
  { h with numNanoReads := by rw [LiveBeacon.readNanoClock, LiveBeacon.readNanoClock, h.numNanoReads] }

/-- A change of the cache that changes the entry of its key. -/
theorem setCache (h : Alike s t) {c c' : BeaconCache} {f : BeaconCacheEntry → BeaconCacheEntry}
    (hc : c.entryAt s.beaconKey = f (s.cache.entryAt s.beaconKey))
    (hc' : c'.entryAt t.beaconKey = f (t.cache.entryAt t.beaconKey)) :
    Alike { s with cache := c } { t with cache := c' } :=
  { h with entry := by rw [hc, hc', h.entry] }

theorem getMutableBeaconData (h : Alike s t) (env : BeaconEnvironment) :
    (s.getMutableBeaconData env).1 = (t.getMutableBeaconData env).1 ∧
      Alike (s.getMutableBeaconData env).2 (t.getMutableBeaconData env).2 := by
  constructor
  · rw [LiveBeacon.getMutableBeaconData, LiveBeacon.getMutableBeaconData, h.beacon,
      h.beaconSequenceNumber, h.reporting, h.supplementaryBasicData]
  · refine { h with reporting := ?_ }
    show Reporting.mk s.reporting.session (s.reporting.numReads + 1) s.reporting.records =
      ⟨t.reporting.session, t.reporting.numReads + 1, t.reporting.records⟩
    rw [h.reporting]

/-- The same chunk. -/
theorem getNextBeaconChunk (h : Alike s t) (env : BeaconEnvironment) :
    (s.getNextBeaconChunk env).1 = (t.getNextBeaconChunk env).1 ∧
      Alike (s.getNextBeaconChunk env).2 (t.getNextBeaconChunk env).2 := by
  obtain ⟨hdata, hnext⟩ := h.getMutableBeaconData env
  constructor
  · rw [LiveBeacon.getNextBeaconChunk, LiveBeacon.getNextBeaconChunk]
    dsimp only
    rw [hdata, hnext.reporting, BeaconCache.getNextBeaconChunk_fst, BeaconCache.getNextBeaconChunk_fst,
      hnext.entry]
  · refine hnext.setCache (f := fun entry => (entry.getChunk
      (BeaconSend.beaconPrefix (t.getMutableBeaconData env).2.reporting.session
        (t.getMutableBeaconData env).1)
      (toSizeT (BeaconSend.maxChunkSize (t.getMutableBeaconData env).2.reporting.session))
      BeaconSend.beaconDataDelimiter).2) ?_ ?_
    · rw [← hdata, ← hnext.reporting]
      exact BeaconCache.entryAt_getNextBeaconChunk_self _ _ _
    · exact BeaconCache.entryAt_getNextBeaconChunk_self _ _ _

theorem sendBeaconRequest (h : Alike s t) (env : BeaconEnvironment) (chunk : UTF8String)
    (configurationTimestamp : ℤ) :
    (s.sendBeaconRequest env chunk configurationTimestamp).1 =
        (t.sendBeaconRequest env chunk configurationTimestamp).1 ∧
      Alike (s.sendBeaconRequest env chunk configurationTimestamp).2
        (t.sendBeaconRequest env chunk configurationTimestamp).2 := by
  constructor
  · rw [LiveBeacon.sendBeaconRequest, LiveBeacon.sendBeaconRequest, h.requests]
  · refine { h with requests := ?_ }
    show s.requests ++ _ = t.requests ++ _
    rw [h.requests, h.beacon, h.sessionNumber, h.deviceID]

theorem removeChunkedData (h : Alike s t) : Alike s.removeChunkedData t.removeChunkedData := by
  refine h.setCache (f := BeaconCacheEntry.removeDataMarkedForSending) ?_ ?_
  · rw [BeaconCache.entryAt_removeChunkedData, if_pos rfl]
  · rw [BeaconCache.entryAt_removeChunkedData, if_pos rfl]

theorem resetChunkedData (h : Alike s t) : Alike s.resetChunkedData t.resetChunkedData := by
  refine h.setCache (f := BeaconCacheEntry.resetDataMarkedForSending) ?_ ?_
  · rw [BeaconCache.entryAt_resetChunkedData, if_pos rfl]
  · rw [BeaconCache.entryAt_resetChunkedData, if_pos rfl]

/-- **The loop of `send`** makes the same requests. -/
theorem sendChunks (h : Alike s t) (configurationTimestamp : ℤ) (rounds : ℕ)
    (response : Option StatusResponse) :
    (LiveBeacon.sendChunks env configurationTimestamp rounds response s).1 =
        (LiveBeacon.sendChunks env configurationTimestamp rounds response t).1 ∧
      Alike (LiveBeacon.sendChunks env configurationTimestamp rounds response s).2
        (LiveBeacon.sendChunks env configurationTimestamp rounds response t).2 := by
  induction rounds generalizing response s t with
  | zero => exact ⟨rfl, h⟩
  | succ rounds ih =>
    rw [LiveBeacon.sendChunks, LiveBeacon.sendChunks, BeaconCache.hasDataForSending_eq,
      BeaconCache.hasDataForSending_eq, h.entry]
    split
    · exact ⟨rfl, h⟩
    · obtain ⟨hchunk, hnext⟩ := h.getNextBeaconChunk env
      dsimp only
      rw [hchunk]
      split
      · exact ⟨rfl, hnext⟩
      · obtain ⟨hanswer, hrequest⟩ := hnext.sendBeaconRequest env (t.getNextBeaconChunk env).1
          configurationTimestamp
        rw [hanswer]
        split
        · exact ih hrequest.removeChunkedData _
        · exact ⟨rfl, hrequest.resetChunkedData⟩

theorem send (h : Alike s t) (rounds : ℕ) (configurationTimestamp : ℤ) :
    (s.send env rounds configurationTimestamp).1 = (t.send env rounds configurationTimestamp).1 ∧
      Alike (s.send env rounds configurationTimestamp).2 (t.send env rounds configurationTimestamp).2 := by
  refine Alike.sendChunks (h.setCache (f := fun entry =>
    if entry.needsDataCopyBeforeSending then entry.copyDataForSending else entry) ?_ ?_) _ _ _
  · rw [BeaconCache.entryAt_prepareDataForSending, if_pos rfl]
  · rw [BeaconCache.entryAt_prepareDataForSending, if_pos rfl]

/-- The payload of an event does not have the configured device id. -/
theorem sendBizEvent (h : Alike s t) (type : UTF8String) (attributes : Option ℕ)
    (maps : Heap JsonObjectMap) :
    (s.sendBizEvent env threadID type attributes maps).1 =
        (t.sendBizEvent env threadID type attributes maps).1 ∧
      Alike (s.sendBizEvent env threadID type attributes maps).2
        (t.sendBizEvent env threadID type attributes maps).2 := by
  have htext : EventPayloads.bizEventText (s.eventSource env) env.doubleText type attributes maps =
      EventPayloads.bizEventText (t.eventSource env) env.doubleText type attributes maps := by
    have hsource : EventSource.mk { s.openKitConfiguration with deviceID := 0 } s.deviceID s.sessionNumber
        (env.nanoClock s.numNanoReads) =
      ⟨{ t.openKitConfiguration with deviceID := 0 }, t.deviceID, t.sessionNumber,
        env.nanoClock t.numNanoReads⟩ := by
      rw [h.openKitConfiguration, h.deviceID, h.sessionNumber, h.numNanoReads]
    have htext := congrArg (fun source =>
      EventPayloads.bizEventText source env.doubleText type attributes maps) hsource
    exact htext
  rw [LiveBeacon.sendBizEvent, LiveBeacon.sendBizEvent, EventPayloads.sendBizEvent,
    EventPayloads.sendBizEvent, htext, h.beacon]
  exact (h.readNanoClock _).report _ _

/-- A tag does not have the configured device id. -/
theorem createTag (h : Alike s t) (parentActionID sequenceNumber : ℤ) :
    s.sessionObject.createTag threadID parentActionID sequenceNumber =
      t.sessionObject.createTag threadID parentActionID sequenceNumber := by
  have hobject : SessionObject.mk 0 s.reporting.session ⟨0, s.beaconKey.beaconSequenceNumber⟩
      s.sessionNumber s.deviceID ⟨s.openKitConfiguration.applicationID, 0⟩ ⟨0, .nil⟩ (-1) =
    ⟨0, t.reporting.session, ⟨0, t.beaconKey.beaconSequenceNumber⟩, t.sessionNumber, t.deviceID,
      ⟨t.openKitConfiguration.applicationID, 0⟩, ⟨0, .nil⟩, -1⟩ := by
    have happlication : s.openKitConfiguration.applicationID = t.openKitConfiguration.applicationID := by
      injection h.openKitConfiguration with hconfiguration
      injection hconfiguration
    rw [h.reporting, h.beaconSequenceNumber, h.sessionNumber, h.deviceID, happlication]
  have htag := congrArg (fun o => SessionObject.createTag o threadID parentActionID sequenceNumber) hobject
  exact htag

/-- **The other calls** do the same. -/
theorem step (h : Alike s t) {call : LiveCall} (hcall : call.isHidden = false) :
    (s.step env threadID call).1 = (t.step env threadID call).1 ∧
      Alike (s.step env threadID call).2 (t.step env threadID call).2 := by
  have hask (f : Beacon → LiveReply) : f s.beacon = f t.beacon := congrArg f h.beacon
  cases call with
  | startSession => exact (h.report (BeaconReports.startSession _) _ :)
  | endSession => exact (h.report (BeaconReports.endSession _) _ :)
  | createSequenceNumber | getCurrentTimestamp | createID | addAction | reportErrorCode | reportErrorCause | reportCrash | addWebRequest => exact h.report _ _
  | createTag => exact ⟨congrArg LiveReply.text (h.createTag ..), h⟩
  | sendBizEvent => exact h.sendBizEvent ..
  | send => exact h.send ..
  | isEmpty =>
    refine ⟨congrArg LiveReply.flag ?_, h⟩
    rw [BeaconCache.isEmpty_eq, BeaconCache.isEmpty_eq, h.entry]
  | clearData =>
    refine ⟨rfl, h.setCache (f := fun _ => .new) ?_ ?_⟩
    · rw [BeaconCache.entryAt_deleteCacheEntry, if_pos rfl]
    · rw [BeaconCache.entryAt_deleteCacheEntry, if_pos rfl]
  | getSessionNumber => exact ⟨congrArg LiveReply.number h.sessionNumber, h⟩
  | getSessionSequenceNumber => exact ⟨congrArg LiveReply.number h.beaconSequenceNumber, h⟩
  | getDeviceID => exact ⟨congrArg LiveReply.number h.deviceID, h⟩
  | useClientIPAddress => exact ⟨congrArg LiveReply.flag h.useClientIPAddress, h⟩
  | getClientIPAddress => exact ⟨hask fun b => .text b.clientIPAddress, h⟩
  | getSessionStartTime => exact ⟨hask fun b => .number b.sessionStartTime, h⟩
  | initializeServerConfiguration config =>
    exact ⟨hask fun b => .callback (b.beaconConfiguration.initializeServerConfiguration config).2,
      h.configure _⟩
  | updateServerConfiguration config =>
    exact ⟨hask fun b => .callback (b.beaconConfiguration.updateServerConfiguration config).2,
      h.configure _⟩
  | isServerConfigurationSet =>
    exact ⟨hask fun b => .flag b.beaconConfiguration.isServerConfigurationSet, h⟩
  | isActionReportingAllowedByPrivacySettings =>
    exact ⟨hask fun b => .flag b.privacyConfiguration.isActionReportingAllowed, h⟩
  | isDataCapturingEnabled => exact ⟨hask fun b => .flag b.isDataCapturingEnabled, h⟩
  | isErrorCapturingEnabled => exact ⟨hask fun b => .flag b.isErrorCapturingEnabled, h⟩
  | isCrashCapturingEnabled => exact ⟨hask fun b => .flag b.isCrashCapturingEnabled, h⟩
  | enableCapture => exact ⟨rfl, h.configure _⟩
  | disableCapture => exact ⟨rfl, h.configure _⟩
  | supplement => exact ⟨rfl, { h with supplementaryBasicData := rfl }⟩
  | evictRecordsByAge minTimestamp =>
    have hnumber (s : LiveBeacon) : (s.step env threadID (.evictRecordsByAge minTimestamp)).1 =
        .number ((s.cache.entryAt s.beaconKey).removeRecordsOlderThan minTimestamp).1 :=
      congrArg (fun n : ℕ => LiveReply.number n) (BeaconCache.evictRecordsByAge_fst _)
    refine ⟨by rw [hnumber, hnumber, h.entry],
      h.setCache (f := fun entry => (entry.removeRecordsOlderThan minTimestamp).2) ?_ ?_⟩
    · exact (BeaconCache.entryAt_evictRecordsByAge _).trans (if_pos rfl)
    · exact (BeaconCache.entryAt_evictRecordsByAge _).trans (if_pos rfl)
  | evictRecordsByNumber numRecords =>
    have hnumber (s : LiveBeacon) : (s.step env threadID (.evictRecordsByNumber numRecords)).1 =
        .number ((s.cache.entryAt s.beaconKey).removeOldestRecords (toInt32 numRecords)).1 :=
      congrArg (fun n : ℕ => LiveReply.number n) (BeaconCache.evictRecordsByNumber_fst _ _ _)
    refine ⟨by rw [hnumber, hnumber, h.entry],
      h.setCache (f := fun entry => (entry.removeOldestRecords (toInt32 numRecords)).2) ?_ ?_⟩
    · exact (BeaconCache.entryAt_evictRecordsByNumber _).trans (if_pos rfl)
    · exact (BeaconCache.entryAt_evictRecordsByNumber _).trans (if_pos rfl)
  | _ => cases hcall

end Alike

/-! ## Runs -/

/-- A call by a thread that is not hidden. -/
def isVisible (call : ℤ × LiveCall) : Bool := !call.2.isHidden

/-- **Single calls**: hidden ones do nothing, and the others do the same in states with one view. -/
theorem unwinds_step (env : BeaconEnvironment) :
    Noninterference.Unwinds (fun (s : LiveBeacon) (call : ℤ × LiveCall) => s.step env call.1 call.2)
      isVisible view IsRestricted where
  invariant s call h := by
    have hkeeps : Keeps s (s.step env call.1 call.2).2 := keeps_step call.2
    rw [IsRestricted, hkeeps.privacyConfiguration]
    exact h
  hidden s call h hcall := by
    rw [step_of_isHidden h (by simpa [isVisible] using hcall)]
  reply s t call hcall hview :=
    ((view_eq_iff.mp hview).step (by simpa [isVisible] using hcall)).1
  next s t call hcall hview :=
    view_eq_iff.mpr ((view_eq_iff.mp hview).step (by simpa [isVisible] using hcall)).2

/-- What is seen of a run: the replies to the calls that are not hidden, the records that are handed to the
cache, and the requests. -/
structure Observation where
  replies : List LiveReply
  records : List BeaconRecord
  requests : List BeaconTransmission

/-- What is seen of a run from a new beacon, if its address can be validated. -/
def observed (env : BeaconEnvironment) (new : Except UTF8String.WalkFault LiveBeacon)
    (calls : List (ℤ × LiveCall)) : Except UTF8String.WalkFault Observation :=
  new.map fun s =>
    let step (s : LiveBeacon) (call : ℤ × LiveCall) := s.step env call.1 call.2
    let last := Noninterference.after step s calls
    ⟨Noninterference.seen step isVisible s calls, last.reporting.records, last.requests⟩

/-- Beacons with one view, of users who have not agreed to all. -/
theorem observed_of_alike (hrestricted : s.IsRestricted) (h : Alike s t) {calls calls' : List (ℤ × LiveCall)}
    (hcalls : calls.filter isVisible = calls'.filter isVisible) :
    observed env (.ok s) calls = observed env (.ok t) calls' := by
  have hrestricted' : t.IsRestricted := by
    rw [IsRestricted, ← h.beacon]
    exact hrestricted
  obtain ⟨hseen, hview⟩ :=
    (unwinds_step env).noninterference hrestricted hrestricted' (view_eq_iff.mpr h) hcalls
  have hlast := view_eq_iff.mp hview
  apply congrArg Except.ok
  rw [Observation.mk.injEq]
  exact ⟨hseen, congrArg Reporting.records hlast.reporting, hlast.requests⟩

section New

variable {openKitConfiguration : OpenKitDescription} {beaconConfiguration : BeaconConfiguration}
  {initializer : BeaconInitializer} {supplementaryBasicData : SupplementaryBasicData}
  {cache cache' : BeaconCache}

/-- **New beacons** are alike without consent: the ids that are told are drawn or fixed. -/
theorem alike_new (deviceID deviceID' sessionID sessionID' : ℤ)
    (hlevel : beaconConfiguration.privacyConfiguration.dataCollectionLevel ≠ .userBehavior)
    (hcache : cache.entryAt ⟨sessionID, initializer.sessionSequenceNumber⟩ =
      cache'.entryAt ⟨sessionID', initializer.sessionSequenceNumber⟩) (useClientIPAddress : Bool) :
    Alike
      (new { openKitConfiguration with deviceID := deviceID } beaconConfiguration
        { initializer with sessionID := sessionID } supplementaryBasicData cache useClientIPAddress)
      (new { openKitConfiguration with deviceID := deviceID' } beaconConfiguration
        { initializer with sessionID := sessionID' } supplementaryBasicData cache' useClientIPAddress) := by
  have hrestricted : (beaconConfiguration.privacyConfiguration.dataCollectionLevel == .userBehavior) =
      false := beq_eq_false_iff_ne.mpr hlevel
  have hdeviceID (openKitConfiguration : OpenKitDescription) (initializer : BeaconInitializer) :
      Beacon.initialDeviceID openKitConfiguration beaconConfiguration initializer =
        initializer.randomInt64Number := by
    rw [Beacon.initialDeviceID, PrivacyConfiguration.isDeviceIdSendingAllowed, hrestricted,
      if_neg Bool.false_ne_true]
  have hsessionNumber (initializer : BeaconInitializer) :
      Beacon.initialSessionNumber beaconConfiguration initializer = 1 := by
    rw [Beacon.initialSessionNumber, PrivacyConfiguration.isSessionNumberReportingAllowed, hrestricted,
      if_neg Bool.false_ne_true]
  rw [new, new, Beacon.construct, Beacon.construct, hdeviceID, hdeviceID, hsessionNumber, hsessionNumber]
  exact ⟨rfl, rfl, rfl, rfl, rfl, rfl, rfl, rfl, hcache, rfl⟩

/-- **Runs without consent** that differ in hidden calls, in the configured device id and in the session id
drawn are the same to see. -/
theorem observed_eq (deviceID deviceID' sessionID sessionID' : ℤ) {calls calls' : List (ℤ × LiveCall)}
    (hlevel : beaconConfiguration.privacyConfiguration.dataCollectionLevel ≠ .userBehavior)
    (hcache : cache.entryAt ⟨sessionID, initializer.sessionSequenceNumber⟩ =
      cache'.entryAt ⟨sessionID', initializer.sessionSequenceNumber⟩)
    (hcalls : calls.filter isVisible = calls'.filter isVisible) :
    observed env (construct { openKitConfiguration with deviceID := deviceID } beaconConfiguration
        { initializer with sessionID := sessionID } supplementaryBasicData cache) calls =
      observed env (construct { openKitConfiguration with deviceID := deviceID' } beaconConfiguration
        { initializer with sessionID := sessionID' } supplementaryBasicData cache') calls' := by
  have haddress : usesClientIPAddress { initializer with sessionID := sessionID } =
      usesClientIPAddress { initializer with sessionID := sessionID' } := rfl
  rw [construct, construct, haddress]
  cases usesClientIPAddress { initializer with sessionID := sessionID' } with
  | error fault => rfl
  | ok useClientIPAddress =>
    refine observed_of_alike ?_ (alike_new deviceID deviceID' sessionID sessionID' hlevel hcache _) hcalls
    exact hlevel

/-- A user who has agreed to the performance only, and a run with a value and a user tag. -/
theorem observed_eq_performance :
    observed ⟨id, fun n => n, fun _ => some ⟨.undefined, 200, 0⟩, fun _ => []⟩
        (construct ⟨⟨.ofAscii ['a'], 1⟩, .nil, .nil, .nil, .nil⟩ (.new ⟨.performance, .off⟩)
          ⟨false, .nil, 5, 0, 0, 77, 1000⟩ ⟨.nil, .nil, .unset, false, false, false⟩ .empty)
        [(1, .startSession), (1, .reportIntValue 0 (.ofAscii ['v']) 3), (2, .identifyUser (.ofAscii ['u'])),
          (1, .send 8 0)] =
      observed ⟨id, fun n => n, fun _ => some ⟨.undefined, 200, 0⟩, fun _ => []⟩
        (construct ⟨⟨.ofAscii ['a'], 2⟩, .nil, .nil, .nil, .nil⟩ (.new ⟨.performance, .off⟩)
          ⟨false, .nil, 6, 0, 0, 77, 1000⟩ ⟨.nil, .nil, .unset, false, false, false⟩ .empty)
        [(1, .startSession), (1, .send 8 0)] :=
  @observed_eq _ ⟨⟨.ofAscii ['a'], 0⟩, .nil, .nil, .nil, .nil⟩ _ ⟨false, .nil, 0, 0, 0, 77, 1000⟩ _ _ _ 1 2 5 6
    _ _ (by decide) rfl rfl

end New

end LiveBeacon

end OpenKit
