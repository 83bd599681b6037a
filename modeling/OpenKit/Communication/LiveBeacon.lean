import OpenKit.Communication.ClientAddress
import OpenKit.Objects.EventPayloads

/-!
# A beacon with its cache

The functions of a beacon that other objects call, run one after the other. A report goes to the cache, and
what is sent is taken from there, with the data of the moment before it. The beacon reads two clocks and the
answers to its requests from outside.

## Main definitions

* `LiveBeacon`: a beacon with the cache, and with the requests it has made
* `LiveBeacon.construct`: the constructor
* `LiveBeacon.send`: `Beacon::send`
* `LiveCall`, `LiveBeacon.step`: the functions that are called

## Main results

* `construct_beacon`: the constructor makes the beacon that `Beacon.constructValidated` makes
* `keeps_step`: a call keeps the consent of the user
-/

namespace OpenKit

open Thread

/-- What a beacon reads from outside. -/
structure BeaconEnvironment where
  /-- The readings in milliseconds. -/
  clock : ℕ → ℕ
  /-- The readings in nanoseconds. -/
  nanoClock : ℕ → ℤ
  response : ℕ → Option StatusResponse
  doubleText : Double → List UInt8

/-- The arguments of `sendBeaconRequest`. -/
structure BeaconTransmission where
  clientIPAddress : UTF8String
  beaconData : UTF8String
  /-- The additional query parameters. -/
  configurationTimestamp : ℤ
  sessionNumber : ℤ
  deviceID : ℤ
deriving DecidableEq, Repr

/-- A beacon, the cache, and the requests that were made. -/
structure LiveBeacon where
  openKitConfiguration : OpenKitDescription
  beaconKey : BeaconKey
  deviceID : ℤ
  sessionNumber : ℤ
  useClientIPAddress : Bool
  supplementaryBasicData : SupplementaryBasicData
  reporting : Reporting
  /-- The number of times the clock was read in nanoseconds. -/
  numNanoReads : ℕ
  cache : BeaconCache
  requests : List BeaconTransmission

/-- The functions of a beacon. What the application supplements and what the evictor removes of the beacon
are calls as well. -/
inductive LiveCall
  | createSequenceNumber
  | getCurrentTimestamp
  | getSessionStartTime
  | createID
  | createTag (parentActionID sequenceNumber : ℤ)
  | addAction (action : ActionCommon)
  | startSession
  | endSession
  | reportIntValue (actionID : ℤ) (valueName : UTF8String) (value : ℤ)
  | reportDoubleValue (actionID : ℤ) (valueName value : UTF8String)
  | reportStringValue (actionID : ℤ) (valueName value : UTF8String)
  | reportEvent (actionID : ℤ) (eventName : UTF8String)
  | reportErrorCode (actionID : ℤ) (errorName : UTF8String) (errorCode : ℤ)
  | reportErrorCause (actionID : ℤ)
      (errorName causeName causeDescription causeStackTrace : UTF8String)
  | reportCrash (errorName reason stacktrace : UTF8String)
  | addWebRequest (parentActionID : ℤ) (tracer : WebRequestTracer)
  | identifyUser (userTag : UTF8String)
  | sendBizEvent (type : UTF8String) (attributes : Option ℕ) (maps : Heap JsonObjectMap)
  | sendEvent (name : UTF8String) (attributes : Option ℕ) (maps : Heap JsonObjectMap)
  | send (rounds : ℕ) (configurationTimestamp : ℤ)
  | isEmpty
  | clearData
  | getSessionNumber
  | getSessionSequenceNumber
  | getDeviceID
  | useClientIPAddress
  | getClientIPAddress
  | initializeServerConfiguration (config : Option ServerConfigurationRef)
  | updateServerConfiguration (config : Option ServerConfigurationRef)
  | isServerConfigurationSet
  | isActionReportingAllowedByPrivacySettings
  | isDataCapturingEnabled
  | isErrorCapturingEnabled
  | isCrashCapturingEnabled
  | enableCapture
  | disableCapture
  | supplement (supplementaryBasicData : SupplementaryBasicData)
  | evictRecordsByAge (minTimestamp : ℤ)
  | evictRecordsByNumber (numRecords : ℕ)

/-- What a call returns. The callback for updates is called during a call. -/
inductive LiveReply
  | done
  | exception (error : BeaconError)
  | number (value : ℤ)
  | flag (value : Bool)
  | text (value : UTF8String)
  | response (value : Option StatusResponse)
  | outOfRounds
  | callback (config : Option ServerConfigurationRef)

namespace BeaconCache

/-- The cache with the records of a report. -/
def addRecords (c : BeaconCache) (k : BeaconKey) (records : List BeaconRecord) : BeaconCache :=
  records.foldl (fun c record => c.addData k record.kind record.timestamp record.data) c

end BeaconCache

namespace LiveBeacon

/-- Whether a new beacon uses the address: only if it is valid. -/
def usesClientIPAddress (initializer : BeaconInitializer) : Except UTF8String.WalkFault Bool :=
  if initializer.useClientIPAddress then InetAddressValidator.isValidIP initializer.clientIPAddress
  else .ok false

section Construct

variable (openKitConfiguration : OpenKitDescription) (beaconConfiguration : BeaconConfiguration)
  (initializer : BeaconInitializer) (supplementaryBasicData : SupplementaryBasicData)
  (cache : BeaconCache)

/-- A new beacon, which uses the address or not. -/
def new (useClientIPAddress : Bool) : LiveBeacon where
  openKitConfiguration := openKitConfiguration
  beaconKey := ⟨initializer.sessionID, initializer.sessionSequenceNumber⟩
  deviceID := Beacon.initialDeviceID openKitConfiguration beaconConfiguration initializer
  sessionNumber := Beacon.initialSessionNumber beaconConfiguration initializer
  useClientIPAddress := useClientIPAddress
  supplementaryBasicData := supplementaryBasicData
  reporting :=
    { session := .new
        (.construct (fun _ => useClientIPAddress) openKitConfiguration beaconConfiguration initializer)
      numReads := 0
      records := [] }
  numNanoReads := 0
  cache := cache
  requests := []

/-- The constructor, with the cache that there is. -/
def construct : Except UTF8String.WalkFault LiveBeacon := do
  let useClientIPAddress ← usesClientIPAddress initializer
  return new openKitConfiguration beaconConfiguration initializer supplementaryBasicData cache
    useClientIPAddress

end Construct

section Functions

variable (env : BeaconEnvironment) (threadID : ℤ) (s : LiveBeacon)

def beacon : Beacon := s.reporting.beacon

/-- The beacon with a changed configuration. -/
def configure (f : BeaconConfiguration → BeaconConfiguration) : LiveBeacon :=
  { s with reporting := s.reporting.setSession (s.reporting.session.configure f) }

/-- Runs a report. The records go to the cache one by one. -/
def report {α : Type} (p : Reporter α) (reply : α → LiveReply) : LiveReply × LiveBeacon :=
  let (result, reporting) := p.run s.reporting
  (match result with
    | .ok a => reply a
    | .error e => .exception e,
   { s with
      reporting := reporting
      cache := s.cache.addRecords s.beaconKey
        (reporting.records.drop s.reporting.records.length) })

/-- The session of the beacon, with what a tag is made of. -/
def sessionObject : SessionObject where
  parent := 0
  session := s.reporting.session
  beaconKey := s.beaconKey
  sessionNumber := s.sessionNumber
  deviceID := s.deviceID
  openKitConfiguration := s.openKitConfiguration.toOpenKitConfiguration
  httpClientConfiguration := ⟨0, .nil⟩
  splitByEventsGracePeriodEndTimeInMillis := -1

/-- What the payload of the next event is made of. -/
def eventSource : EventSource where
  openKitConfiguration := s.openKitConfiguration
  deviceID := s.deviceID
  sessionNumber := s.sessionNumber
  timestamp := env.nanoClock s.numNanoReads

/-- The beacon after the clock was read in nanoseconds, if it was. -/
def readNanoClock (isRead : Bool) : LiveBeacon :=
  { s with numNanoReads := if isRead then s.numNanoReads + 1 else s.numNanoReads }

/-- The data of the moment, for which the clock is read. -/
def getMutableBeaconData : UTF8String × LiveBeacon :=
  (OpenKit.getMutableBeaconData
    { serverConfiguration := s.beacon.beaconConfiguration.getServerConfiguration
      sessionSequenceNumber := s.beaconKey.beaconSequenceNumber
      transmissionTime := env.clock s.reporting.numReads
      sessionStartTime := s.beacon.sessionStartTime
      supplementaryBasicData := s.supplementaryBasicData },
   { s with reporting := { s.reporting with numReads := s.reporting.numReads + 1 } })

/-- The next chunk, with its prefix built anew. -/
def getNextBeaconChunk : UTF8String × LiveBeacon :=
  let (mutableBeaconData, s) := s.getMutableBeaconData env
  let chunk := s.cache.getNextBeaconChunk s.beaconKey
    (BeaconSend.beaconPrefix s.reporting.session mutableBeaconData)
    (BeaconSend.maxChunkSize s.reporting.session) BeaconSend.beaconDataDelimiter
  (chunk.1, { s with cache := chunk.2 })

/-- The request for a chunk, and its answer. -/
def sendBeaconRequest (chunk : UTF8String) (configurationTimestamp : ℤ) :
    Option StatusResponse × LiveBeacon :=
  (env.response s.requests.length,
   { s with
      requests := s.requests ++
        [⟨s.beacon.clientIPAddress, chunk, configurationTimestamp, s.sessionNumber, s.deviceID⟩] })

/-- An answer after which the chunk is removed. -/
def isSuccessful : Option StatusResponse → Bool
  | none => false
  | some response => !response.isErroneousResponse

def removeChunkedData : LiveBeacon := { s with cache := s.cache.removeChunkedData s.beaconKey }

def resetChunkedData : LiveBeacon := { s with cache := s.cache.resetChunkedData s.beaconKey }

/-- The loop of `send`. -/
def sendChunks (configurationTimestamp : ℤ) :
    ℕ → Option StatusResponse → LiveBeacon → LiveReply × LiveBeacon
  | 0, _, s => (.outOfRounds, s)
  | rounds + 1, response, s =>
    if !s.cache.hasDataForSending s.beaconKey then (.response response, s)
    else
      let (chunk, s) := s.getNextBeaconChunk env
      if chunk.isEmpty then (.response response, s)
      else
        let (response, s) := s.sendBeaconRequest env chunk configurationTimestamp
        if isSuccessful response then
          sendChunks configurationTimestamp rounds response s.removeChunkedData
        else (.response response, s.resetChunkedData)

/-- `Beacon::send`, with a bound on the rounds of its loop. -/
def send (rounds : ℕ) (configurationTimestamp : ℤ) : LiveReply × LiveBeacon :=
  sendChunks env configurationTimestamp rounds none
    { s with cache := s.cache.prepareDataForSending s.beaconKey }

def sendBizEvent (type : UTF8String) (attributes : Option ℕ) (maps : Heap JsonObjectMap) :
    LiveReply × LiveBeacon :=
  (s.readNanoClock (!type.isEmpty && s.beacon.isDataCapturingEnabled)).report
    (EventPayloads.sendBizEvent (s.eventSource env) env.doubleText ⟨threadID, env.clock⟩ type attributes
      maps) fun _ => .done

def sendEvent (name : UTF8String) (attributes : Option ℕ) (maps : Heap JsonObjectMap) :
    LiveReply × LiveBeacon :=
  (s.readNanoClock (!name.isEmpty && s.beacon.privacyConfiguration.isEventReportingAllowed &&
      s.beacon.isDataCapturingEnabled)).report
    (BeaconReports.sendEvent ⟨threadID, env.clock⟩ name
      (EventPayloads.eventText (s.eventSource env) env.doubleText name attributes maps)) fun _ => .done

/-- A call by a thread. -/
def step : LiveCall → LiveReply × LiveBeacon
  | .createSequenceNumber => s.report BeaconReports.createSequenceNumber .number
  | .getCurrentTimestamp =>
    s.report (BeaconReports.provideTimestampInMilliseconds ⟨threadID, env.clock⟩) .number
  | .getSessionStartTime => (.number s.beacon.sessionStartTime, s)
  | .createID => s.report BeaconReports.createID .number
  | .createTag parentActionID sequenceNumber =>
    (.text (s.sessionObject.createTag threadID parentActionID sequenceNumber), s)
  | .addAction action => s.report (BeaconReports.addAction ⟨threadID, env.clock⟩ action) fun _ => .done
  | .startSession => s.report (BeaconReports.startSession ⟨threadID, env.clock⟩) fun _ => .done
  | .endSession => s.report (BeaconReports.endSession ⟨threadID, env.clock⟩) fun _ => .done
  | .reportIntValue actionID valueName value =>
    s.report (BeaconReports.reportIntValue ⟨threadID, env.clock⟩ actionID valueName value) fun _ => .done
  | .reportDoubleValue actionID valueName value =>
    s.report (BeaconReports.reportDoubleValue ⟨threadID, env.clock⟩ actionID valueName value)
      fun _ => .done
  | .reportStringValue actionID valueName value =>
    s.report (BeaconReports.reportStringValue ⟨threadID, env.clock⟩ actionID valueName value)
      fun _ => .done
  | .reportEvent actionID eventName =>
    s.report (BeaconReports.reportEvent ⟨threadID, env.clock⟩ actionID eventName) fun _ => .done
  | .reportErrorCode actionID errorName errorCode =>
    s.report (BeaconReports.reportErrorCode ⟨threadID, env.clock⟩ actionID errorName errorCode)
      fun _ => .done
  | .reportErrorCause actionID errorName causeName causeDescription causeStackTrace =>
    s.report (BeaconReports.reportErrorCause ⟨threadID, env.clock⟩ actionID errorName causeName
      causeDescription causeStackTrace) fun _ => .done
  | .reportCrash errorName reason stacktrace =>
    s.report (BeaconReports.reportCrash ⟨threadID, env.clock⟩ errorName reason stacktrace) fun _ => .done
  | .addWebRequest parentActionID tracer =>
    s.report (BeaconReports.addWebRequest ⟨threadID, env.clock⟩ parentActionID tracer) fun _ => .done
  | .identifyUser userTag =>
    s.report (BeaconReports.identifyUser ⟨threadID, env.clock⟩ userTag) fun _ => .done
  | .sendBizEvent type attributes maps => s.sendBizEvent env threadID type attributes maps
  | .sendEvent name attributes maps => s.sendEvent env threadID name attributes maps
  | .send rounds configurationTimestamp => s.send env rounds configurationTimestamp
  | .isEmpty => (.flag (s.cache.isEmpty s.beaconKey), s)
  | .clearData => (.done, { s with cache := s.cache.deleteCacheEntry s.beaconKey })
  | .getSessionNumber => (.number s.sessionNumber, s)
  | .getSessionSequenceNumber => (.number s.beaconKey.beaconSequenceNumber, s)
  | .getDeviceID => (.number s.deviceID, s)
  | .useClientIPAddress => (.flag s.useClientIPAddress, s)
  | .getClientIPAddress => (.text s.beacon.clientIPAddress, s)
  | .initializeServerConfiguration config =>
    (.callback (s.beacon.beaconConfiguration.initializeServerConfiguration config).2,
      s.configure fun c => (c.initializeServerConfiguration config).1)
  | .updateServerConfiguration config =>
    (.callback (s.beacon.beaconConfiguration.updateServerConfiguration config).2,
      s.configure fun c => (c.updateServerConfiguration config).1)
  | .isServerConfigurationSet => (.flag s.beacon.beaconConfiguration.isServerConfigurationSet, s)
  | .isActionReportingAllowedByPrivacySettings =>
    (.flag s.beacon.privacyConfiguration.isActionReportingAllowed, s)
  | .isDataCapturingEnabled => (.flag s.beacon.isDataCapturingEnabled, s)
  | .isErrorCapturingEnabled => (.flag s.beacon.isErrorCapturingEnabled, s)
  | .isCrashCapturingEnabled => (.flag s.beacon.isCrashCapturingEnabled, s)
  | .enableCapture => (.done, s.configure (·.enableCapture))
  | .disableCapture => (.done, s.configure (·.disableCapture))
  | .supplement supplementaryBasicData => (.done, { s with supplementaryBasicData := supplementaryBasicData })
  | .evictRecordsByAge minTimestamp =>
    let (numRecords, cache) := s.cache.evictRecordsByAge s.beaconKey minTimestamp
    (.number numRecords, { s with cache := cache })
  | .evictRecordsByNumber numRecords =>
    let (numRecords, cache) := s.cache.evictRecordsByNumber s.beaconKey numRecords
    (.number numRecords, { s with cache := cache })

end Functions

/-! ## The constructor -/

/-- **The constructor** makes the beacon that the other modules construct. -/
theorem construct_beacon (openKitConfiguration : OpenKitDescription)
    (beaconConfiguration : BeaconConfiguration) (initializer : BeaconInitializer)
    (supplementaryBasicData : SupplementaryBasicData) (cache : BeaconCache) :
    (·.beacon) <$> construct openKitConfiguration beaconConfiguration initializer supplementaryBasicData
        cache =
      Beacon.constructValidated openKitConfiguration beaconConfiguration initializer := by
  rw [construct, Beacon.constructValidated, usesClientIPAddress]
  cases initializer.useClientIPAddress with
  | false => rfl
  | true =>
    rw [if_pos rfl, if_pos rfl]
    cases InetAddressValidator.isValidIP initializer.clientIPAddress with
    | error fault => rfl
    | ok valid => rfl

/-! ## The consent of the user -/

variable {env : BeaconEnvironment} {threadID : ℤ} {s : LiveBeacon}

/-- What a call keeps of a beacon: the consent of the user, and who it is. -/
structure Keeps (s s' : LiveBeacon) : Prop where
  privacyConfiguration : s'.beacon.privacyConfiguration = s.beacon.privacyConfiguration
  beaconKey : s'.beaconKey = s.beaconKey
  deviceID : s'.deviceID = s.deviceID
  sessionNumber : s'.sessionNumber = s.sessionNumber

namespace Keeps

variable {s' s'' : LiveBeacon}

theorem refl (s : LiveBeacon) : Keeps s s := ⟨rfl, rfl, rfl, rfl⟩

theorem trans (h : Keeps s s') (h' : Keeps s' s'') : Keeps s s'' :=
  ⟨h'.privacyConfiguration.trans h.privacyConfiguration, h'.beaconKey.trans h.beaconKey,
    h'.deviceID.trans h.deviceID, h'.sessionNumber.trans h.sessionNumber⟩

/-- A change of the configuration. -/
theorem configure {f : BeaconConfiguration → BeaconConfiguration}
    (h : (f s.beacon.beaconConfiguration).privacyConfiguration =
      s.beacon.beaconConfiguration.privacyConfiguration) : Keeps s (s.configure f) :=
  ⟨h, rfl, rfl, rfl⟩

end Keeps

/-- Reports draw numbers only. -/
theorem keeps_report {α : Type} {p : Reporter α}
    (hp : Program.Guarantees (ReportStepOf fun _ => True) p) (reply : α → LiveReply) :
    Keeps s (s.report p reply).2 := by
  have hstep := hp.run ReportStepOf.refl (fun _ _ _ => ReportStepOf.trans)
    (t := (p.run s.reporting).2) (x := (p.run s.reporting).1) rfl
  refine ⟨?_, rfl, rfl, rfl⟩
  exact congrArg BeaconConfiguration.privacyConfiguration hstep.toReportStep.beacon.beaconConfiguration

/-- Sending does not change the configuration. -/
theorem keeps_sendChunks (configurationTimestamp : ℤ) (rounds : ℕ) (response : Option StatusResponse) :
    Keeps s (sendChunks env configurationTimestamp rounds response s).2 := by
  induction rounds generalizing response s with
  | zero => exact .refl s
  | succ rounds ih =>
    rw [sendChunks]
    split
    · exact .refl s
    · have hchunk : Keeps s (s.getNextBeaconChunk env).2 := ⟨rfl, rfl, rfl, rfl⟩
      dsimp only
      split
      · exact hchunk
      · split
        · refine hchunk.trans (Keeps.trans ?_ (ih _))
          exact ⟨rfl, rfl, rfl, rfl⟩
        · exact hchunk.trans ⟨rfl, rfl, rfl, rfl⟩

/-- **A call** keeps the consent of the user, and who the beacon is. -/
theorem keeps_step (call : LiveCall) : Keeps s (s.step env threadID call).2 := by
  have hreport {s : LiveBeacon} {p : Reporter Unit}
      (hp : Program.Guarantees (ReportStepOf fun _ => True) p) :
      Keeps s (s.report p fun _ => .done).2 := keeps_report hp _
  have hread (isRead : Bool) : Keeps s (s.readNanoClock isRead) := ⟨rfl, rfl, rfl, rfl⟩
  cases call with
  | createSequenceNumber => exact (keeps_report BeaconReports.guarantees_createSequenceNumber _ :)
  | getCurrentTimestamp =>
    exact (keeps_report BeaconReports.guarantees_provideTimestampInMilliseconds _ :)
  | createID => exact (keeps_report BeaconReports.guarantees_createID _ :)
  | addAction action => exact (hreport (BeaconReports.guarantees_addAction trivial _) :)
  | startSession =>
    exact (hreport (BeaconReports.guarantees_startSession trivial) :)
  | endSession => exact (hreport (BeaconReports.guarantees_endSession trivial) :)
  | reportIntValue actionID valueName value =>
    exact (hreport (BeaconReports.guarantees_reportValue trivial (fun _ h => h.addKeyIntPair _ _) _ _) :)
  | reportDoubleValue actionID valueName value =>
    exact (hreport (BeaconReports.guarantees_reportValue trivial (fun _ h => h.addKeyValuePair _ _) _ _) :)
  | reportStringValue actionID valueName value =>
    exact (hreport (BeaconReports.guarantees_reportValue trivial
      (fun _ h => h.addKeyValuePairIfNotEmpty _ _) _ _) :)
  | reportEvent actionID eventName => exact (hreport (BeaconReports.guarantees_reportEvent trivial _ _) :)
  | reportErrorCode actionID errorName errorCode =>
    exact (hreport (BeaconReports.guarantees_reportErrorCode trivial _ _ _) :)
  | reportErrorCause actionID errorName causeName causeDescription causeStackTrace =>
    exact (hreport (BeaconReports.guarantees_reportErrorCause trivial _ _ _ _ _) :)
  | reportCrash errorName reason stacktrace =>
    exact (hreport (BeaconReports.guarantees_reportCrash trivial _ _ _) :)
  | addWebRequest parentActionID tracer =>
    exact (hreport (BeaconReports.guarantees_addWebRequest trivial _ _) :)
  | identifyUser userTag => exact (hreport (BeaconReports.guarantees_identifyUser trivial _) :)
  | sendBizEvent type attributes maps =>
    rw [step, sendBizEvent]
    exact (hread _).trans (hreport (BeaconReports.guarantees_sendBizEvent trivial _ _))
  | sendEvent name attributes maps =>
    rw [step, sendEvent]
    exact (hread _).trans (hreport (BeaconReports.guarantees_sendEvent trivial _ _))
  | send rounds configurationTimestamp =>
    have hprepare : Keeps s { s with cache := s.cache.prepareDataForSending s.beaconKey } :=
      ⟨rfl, rfl, rfl, rfl⟩
    exact hprepare.trans (keeps_sendChunks ..)
  | initializeServerConfiguration config =>
    exact .configure
      (BeaconConfiguration.evolves_initializeServerConfiguration _ _).privacyConfiguration
  | updateServerConfiguration config =>
    exact .configure (BeaconConfiguration.evolves_updateServerConfiguration _ _).privacyConfiguration
  | enableCapture => exact .configure rfl
  | disableCapture => exact .configure rfl
  | _ => exact ⟨rfl, rfl, rfl, rfl⟩

end LiveBeacon

end OpenKit
