import OpenKit.Core.Validation
import OpenKit.Library.RelyGuarantee
import OpenKit.Objects.Session
import OpenKit.Protocol.EventData

/-!
# What a beacon reports

Each reporting function of a beacon asks whether the user has opted in and whether the server allows
capturing, draws a sequence number, builds the text of a record and adds it to the cache, where it
is asked once more whether capturing is enabled.

A report is a program that works on the session of the beacon. The records it hands to the cache are
collected, and the clock is read as often as the code reads it.

## Main definitions

* `Reporting`, `Reporter`: what a report works on, and the programs that report
* `Caller`: the thread that reports, with the clock as it reads it
* `BeaconReports.report`: what the reporting functions have in common
* `BeaconReports.reportEvent`, `reportCrash`, `addAction` and so on: the reporting functions
* `ReportStep`, `ReportStepOf`: what every action of a report may do, and with which event types

## Main results

* `guarantees_report`: a report adds records only while capturing is enabled, and with texts that
  start with the event type
* `guarantees_startSession`, `guarantees_endSession` and so on: the event types of each function
* `returns_addAction`, `returns_addWebRequest`: what is well formed raises no exception
-/

namespace OpenKit

open Thread

/-- The exceptions of a beacon. -/
inductive BeaconError
  | invalidArgument (message : String)
deriving DecidableEq, Repr

/-- The session that is reported for, the number of times the clock was read, and the records handed
to the cache. -/
structure Reporting where
  session : Session
  numReads : ℕ
  records : List BeaconRecord

namespace Reporting

def beacon (s : Reporting) : Beacon := s.session.beacon

def setSession (s : Reporting) (session : Session) : Reporting := { s with session := session }

def setBeacon (s : Reporting) (beacon : Beacon) : Reporting :=
  s.setSession { s.session with beacon := beacon }

end Reporting

/-- A program that reports. -/
abbrev Reporter (α : Type) : Type := Program BeaconError Reporting α

/-- The thread that reports: its id, and what it reads from the clock. -/
structure Caller where
  threadID : ℤ
  clock : ℕ → ℕ

namespace BeaconReports

open EventData UTF8String

variable (caller : Caller)

def provideTimestampInMilliseconds : Reporter ℤ :=
  .atomic fun s => (caller.clock s.numReads, { s with numReads := s.numReads + 1 })

def createSequenceNumber : Reporter ℤ :=
  .atomic fun s => (s.beacon.sequenceNumber + 1,
    s.setBeacon { s.beacon with sequenceNumber := s.beacon.sequenceNumber + 1 })

def createID : Reporter ℤ :=
  .atomic fun s => (s.beacon.lastID + 1, s.setBeacon { s.beacon with lastID := s.beacon.lastID + 1 })

/-- `addEventData` and `addActionData`, by the kind of the record. -/
def addData (kind : RecordKind) (timestamp : ℤ) (data : UTF8String) : Reporter Unit :=
  .write fun s =>
    if s.beacon.isDataCapturingEnabled then
      { s with records := s.records ++ [⟨kind, timestamp, data⟩] }
    else s

def addEventData (timestamp : ℤ) (eventData : UTF8String) : Reporter Unit :=
  addData .event timestamp eventData

def addActionData (timestamp : ℤ) (actionData : UTF8String) : Reporter Unit :=
  addData .action timestamp actionData

/-- An argument that must not be empty. -/
def requireNonEmpty (text : UTF8String) (message : String) : Reporter Unit :=
  if text.isEmpty then .fail (.invalidArgument message) else return ()

/-- Reports unless the user has not opted in or the server does not allow it. -/
def report (allowed : PrivacyConfiguration → Bool) (capturing : Beacon → Bool)
    (body : Reporter Unit) : Reporter Unit := do
  if !(← .read fun s => allowed s.beacon.privacyConfiguration) then
    return ()
  else if !(← .read fun s => capturing s.beacon) then
    return ()
  else
    body

/-- The pairs of the parent, of a new sequence number and of the time since the session started. -/
def addOrigin (eventData : UTF8String) (parentActionID time0 : ℤ) : Reporter UTF8String := do
  let startSequenceNumber ← createSequenceNumber
  let eventData := addKeyIntPair eventData keyParentActionID parentActionID
  let eventData := addKeyIntPair eventData keyStartSequenceNumber startSequenceNumber
  return addKeyIntPair eventData keyTime0 time0

def timeSinceSessionStart (timestamp : ℤ) : Reporter ℤ :=
  .read fun s => s.beacon.getTimeSinceSessionStartTime timestamp

/-- The text of an event up to its time, and the timestamp. -/
def buildEvent (eventData : UTF8String) (parentActionID : ℤ) : Reporter (UTF8String × ℤ) := do
  let eventTimestamp ← provideTimestampInMilliseconds caller
  let time0 ← timeSinceSessionStart eventTimestamp
  let eventData ← addOrigin eventData parentActionID time0
  return (eventData, eventTimestamp)

def startSession : Reporter Unit :=
  report (fun _ => true) (·.isDataCapturingEnabled) do
    let eventData ← addOrigin (createBasicEventDataWithoutName caller.threadID .sessionStart) 0 0
    let sessionStartTime ← Program.read fun s => s.beacon.sessionStartTime
    addEventData sessionStartTime eventData

def endSession : Reporter Unit :=
  report (·.isSessionReportingAllowed) (·.isDataCapturingEnabled) do
    let (eventData, endTime) ←
      buildEvent caller (createBasicEventDataWithoutName caller.threadID .sessionEnd) 0
    addEventData endTime eventData

/-- What the functions that report a value have in common. -/
def reportValue (eventType : EventType) (addValue : UTF8String → UTF8String) (actionID : ℤ)
    (valueName : UTF8String) : Reporter Unit := do
  requireNonEmpty valueName "valueName.empty() is true"
  report (·.isValueReportingAllowed) (·.isDataCapturingEnabled) do
    let (eventData, eventTimestamp) ←
      buildEvent caller (createBasicEventData caller.threadID eventType valueName) actionID
    addEventData eventTimestamp (addValue eventData)

/-- `reportValue` of an `int32_t` or an `int64_t`. -/
def reportIntValue (actionID : ℤ) (valueName : UTF8String) (value : ℤ) : Reporter Unit :=
  reportValue caller .valueInt (addKeyIntPair · keyValue value) actionID valueName

/-- `reportValue` of a `double`, which is given by its decimal text. -/
def reportDoubleValue (actionID : ℤ) (valueName value : UTF8String) : Reporter Unit :=
  reportValue caller .valueDouble (addKeyValuePair · keyValue value) actionID valueName

def reportStringValue (actionID : ℤ) (valueName value : UTF8String) : Reporter Unit :=
  reportValue caller .valueString (addKeyValuePairIfNotEmpty · keyValue value) actionID valueName

def reportEvent (actionID : ℤ) (eventName : UTF8String) : Reporter Unit := do
  requireNonEmpty eventName "eventName.empty() is true"
  report (·.isEventReportingAllowed) (·.isDataCapturingEnabled) do
    let (eventData, eventTimestamp) ←
      buildEvent caller (createBasicEventData caller.threadID .namedEvent eventName) actionID
    addEventData eventTimestamp eventData

/-- `reportError` with an error code. -/
def reportErrorCode (actionID : ℤ) (errorName : UTF8String) (errorCode : ℤ) : Reporter Unit := do
  requireNonEmpty errorName "errorName.empty() is true"
  report (·.isErrorReportingAllowed) (·.isErrorCapturingEnabled) do
    let (eventData, timestamp) ←
      buildEvent caller (createBasicEventData caller.threadID .failureError errorName) actionID
    let eventData := addKeyIntPair eventData keyErrorValue errorCode
    addEventData timestamp (addKeyValuePair eventData keyErrorTechnologyType errorTechnologyType)

/-- `reportError` with a cause. -/
def reportErrorCause (actionID : ℤ)
    (errorName causeName causeDescription causeStackTrace : UTF8String) : Reporter Unit := do
  requireNonEmpty errorName "errorName.empty() is true"
  report (·.isErrorReportingAllowed) (·.isErrorCapturingEnabled) do
    let (eventData, timestamp) ←
      buildEvent caller (createBasicEventData caller.threadID .failureException errorName) actionID
    let eventData := addKeyValuePairIfNotEmpty eventData keyErrorValue causeName
    let eventData := addKeyValuePairIfNotEmpty eventData keyErrorReason
      (truncate causeDescription maxReasonLen)
    let eventData := addKeyValuePairIfNotEmpty eventData keyErrorStacktrace
      (truncate causeStackTrace (maxStackTraceLength causeStackTrace))
    addEventData timestamp (addKeyValuePair eventData keyErrorTechnologyType errorTechnologyType)

def reportCrash (errorName reason stacktrace : UTF8String) : Reporter Unit := do
  requireNonEmpty errorName "errorName.empty() is true"
  report (·.isCrashReportingAllowed) (·.isCrashCapturingEnabled) do
    let (eventData, timestamp) ←
      buildEvent caller (createBasicEventData caller.threadID .failureCrash errorName) 0
    let eventData := addKeyValuePairIfNotEmpty eventData keyErrorReason
      (truncate reason maxReasonLen)
    let eventData := addKeyValuePairIfNotEmpty eventData keyErrorStacktrace
      (truncate stacktrace (maxStackTraceLength stacktrace))
    addEventData timestamp (addKeyValuePair eventData keyErrorTechnologyType errorTechnologyType)

def identifyUser (userTag : UTF8String) : Reporter Unit :=
  report (·.isUserIdentificationAllowed) (·.isDataCapturingEnabled) do
    let (eventData, timestamp) ← buildEvent caller
      (if userTag.isEmpty then createBasicEventDataWithoutName caller.threadID .identifyUser
        else createBasicEventData caller.threadID .identifyUser userTag) 0
    addEventData timestamp eventData

def addAction (action : ActionCommon) : Reporter Unit := do
  requireNonEmpty action.name "action is nullptr or action->getName().empty() is true"
  report (·.isActionReportingAllowed) (·.isDataCapturingEnabled) do
    let time0 ← timeSinceSessionStart action.startTime
    let actionData := createBasicEventData caller.threadID .action action.name
    let actionData := addKeyIntPair actionData keyActionID action.id
    let actionData := addKeyIntPair actionData keyParentActionID action.parentID
    let actionData := addKeyIntPair actionData keyStartSequenceNumber action.startSequenceNumber
    let actionData := addKeyIntPair actionData keyTime0 time0
    let actionData := addKeyIntPair actionData keyEndSequenceNumber action.endSequenceNumber
    addActionData action.startTime
      (addKeyIntPair actionData keyTime1 (action.endTime - action.startTime))

/-- The sizes are kept as 64-bit numbers, and converted to `int32_t` here. -/
def addWebRequest (parentActionID : ℤ) (tracer : WebRequestTracer) : Reporter Unit := do
  requireNonEmpty tracer.url
    "webRequestTracer == nullptr || webRequestTracer->getURL().empty() is true"
  report (·.isWebRequestTracingAllowed) (·.isDataCapturingEnabled) do
    let time0 ← timeSinceSessionStart tracer.startTime
    let eventData := createBasicEventData caller.threadID .webRequest tracer.url
    let eventData := addKeyIntPair eventData keyParentActionID parentActionID
    let eventData := addKeyIntPair eventData keyStartSequenceNumber tracer.startSequenceNo
    let eventData := addKeyIntPair eventData keyTime0 time0
    let eventData := addKeyIntPair eventData keyEndSequenceNumber tracer.endSequenceNo
    let eventData := addKeyIntPair eventData keyTime1 (tracer.endTime - tracer.startTime)
    let eventData := addKeyIntPairIfPresent eventData keyWebrequestBytesSent
      (toInt32 tracer.bytesSent)
    let eventData := addKeyIntPairIfPresent eventData keyWebrequestBytesReceived
      (toInt32 tracer.bytesReceived)
    addEventData tracer.startTime
      (addKeyIntPairIfPresent eventData keyWebrequestResponseCode tracer.responseCode)

/-- `EVENT_PAYLOAD_BYTES_LENGTH`. -/
def eventPayloadBytesLength : ℕ := 16 * 1024

/-- The payload is given by its JSON text. Its bytes are counted before it becomes a string of characters. -/
def sendEventPayload (jsonPayload : List UInt8) : Reporter Unit :=
  if jsonPayload.length > eventPayloadBytesLength then
    .fail (.invalidArgument "Event payload is exceeding 16384 bytes!")
  else do
    let timestamp ← provideTimestampInMilliseconds caller
    let eventData := addKeyIntPair .nil keyEventType EventType.event.toInt
    addEventData timestamp (addKeyValuePair eventData keyEventPayload (validateString jsonPayload))

/-- The user cannot opt out of business events. -/
def sendBizEvent (type : UTF8String) (jsonPayload : List UInt8) : Reporter Unit := do
  requireNonEmpty type "type.empty() is true"
  report (fun _ => true) (·.isDataCapturingEnabled) (sendEventPayload caller jsonPayload)

def sendEvent (name : UTF8String) (jsonPayload : List UInt8) : Reporter Unit := do
  requireNonEmpty name "name.empty() is true"
  report (·.isEventReportingAllowed) (·.isDataCapturingEnabled)
    (sendEventPayload caller jsonPayload)

end BeaconReports

/-! ## What a report may do -/

/-- An action of a report: numbers are drawn, and records with texts of reports are added while
capturing is enabled. -/
structure ReportStep (s s' : Reporting) : Prop where
  session : ∃ beacon, s'.session = { s.session with beacon := beacon } ∧
    s.beacon.SameButNumbers beacon
  numReads : s.numReads ≤ s'.numReads
  records : ∃ new, s'.records = s.records ++ new ∧
    ∀ record ∈ new, EventData.IsReportText record.data ∧ s.beacon.isDataCapturingEnabled = true

namespace ReportStep

variable {s s' s'' : Reporting}

/-- A step that adds no record. -/
theorem of_beacon {beacon : Beacon} (h : s.beacon.SameButNumbers beacon) :
    ReportStep s (s.setBeacon beacon) :=
  ⟨⟨beacon, rfl, h⟩, le_refl _, [], (List.append_nil _).symm, List.forall_mem_nil _⟩

theorem refl (s : Reporting) : ReportStep s s := of_beacon (.refl s.beacon)

theorem beacon (h : ReportStep s s') : s.beacon.SameButNumbers s'.beacon := by
  obtain ⟨beacon, hsession, hsame⟩ := h.session
  rw [Reporting.beacon, Reporting.beacon, hsession]
  exact hsame

theorem trans (h : ReportStep s s') (h' : ReportStep s' s'') : ReportStep s s'' := by
  obtain ⟨beacon, hsession, hsame⟩ := h.session
  obtain ⟨beacon', hsession', hsame'⟩ := h'.session
  obtain ⟨new, hrecords, hnew⟩ := h.records
  obtain ⟨new', hrecords', hnew'⟩ := h'.records
  refine ⟨⟨beacon', ?_, ?_⟩, h.numReads.trans h'.numReads, new ++ new', ?_, ?_⟩
  · rw [hsession', hsession]
  · rw [Reporting.beacon, hsession] at hsame'
    exact hsame.trans hsame'
  · rw [hrecords', hrecords, List.append_assoc]
  · rw [h.beacon.isDataCapturingEnabled] at hnew'
    exact List.forall_mem_append.mpr ⟨hnew, hnew'⟩

end ReportStep

/-- An action of a report whose records have one of some event types. -/
structure ReportStepOf (types : EventType → Prop) (s s' : Reporting) : Prop
    extends ReportStep s s' where
  hasEventTypeOf : ∀ new, s'.records = s.records ++ new →
    ∀ record ∈ new, EventData.HasEventTypeOf types record.data

namespace ReportStepOf

variable {types : EventType → Prop} {s s' s'' : Reporting}

theorem of_beacon {beacon : Beacon} (h : s.beacon.SameButNumbers beacon) :
    ReportStepOf types s (s.setBeacon beacon) := by
  refine ⟨.of_beacon h, fun new hnew => ?_⟩
  rw [List.self_eq_append_right.mp hnew]
  exact List.forall_mem_nil _

theorem refl (s : Reporting) : ReportStepOf types s s := of_beacon (.refl s.beacon)

theorem trans (h : ReportStepOf types s s') (h' : ReportStepOf types s' s'') :
    ReportStepOf types s s'' := by
  refine ⟨h.toReportStep.trans h'.toReportStep, fun new hnew => ?_⟩
  obtain ⟨new₁, hrecords₁, -⟩ := h.records
  obtain ⟨new₂, hrecords₂, -⟩ := h'.records
  rw [hrecords₂, hrecords₁, List.append_assoc] at hnew
  rw [← List.append_cancel_left hnew]
  exact List.forall_mem_append.mpr
    ⟨h.hasEventTypeOf new₁ hrecords₁, h'.hasEventTypeOf new₂ hrecords₂⟩

end ReportStepOf

namespace BeaconReports

open EventData UTF8String

variable {caller : Caller} {types : EventType → Prop}

theorem guarantees_ask {α : Type} (f : Reporting → α) :
    Program.Guarantees (ReportStepOf types) (Program.read f : Reporter α) :=
  Program.guarantees_atomic ReportStepOf.refl

/-- A step that draws a number from the clock only. -/
theorem guarantees_provideTimestampInMilliseconds :
    Program.Guarantees (ReportStepOf types) (provideTimestampInMilliseconds caller) := by
  refine Program.guarantees_atomic fun s => ⟨?_, fun new hnew => ?_⟩
  · exact ⟨⟨s.beacon, rfl, .refl _⟩, Nat.le_succ _, [], (List.append_nil _).symm,
      List.forall_mem_nil _⟩
  · rw [List.self_eq_append_right.mp hnew]
    exact List.forall_mem_nil _

theorem guarantees_createSequenceNumber :
    Program.Guarantees (ReportStepOf types) createSequenceNumber :=
  Program.guarantees_atomic fun _ => .of_beacon ⟨rfl, rfl, rfl, rfl, rfl⟩

theorem guarantees_createID : Program.Guarantees (ReportStepOf types) createID :=
  Program.guarantees_atomic fun _ => .of_beacon ⟨rfl, rfl, rfl, rfl, rfl⟩

section Records

variable {eventType : EventType}

/-- The last question before a record is added is whether capturing is enabled. -/
theorem guarantees_addData {kind : RecordKind} {timestamp : ℤ} {data : UTF8String}
    (htype : types eventType) (h : HasEventType eventType data) :
    Program.Guarantees (ReportStepOf types) (addData kind timestamp data) := by
  apply Program.guarantees_atomic
  intro s
  show ReportStepOf types s (ite _ _ _)
  split
  next hcapturing =>
    refine ⟨⟨⟨s.beacon, rfl, .refl _⟩, le_refl _, [⟨kind, timestamp, data⟩], rfl,
      List.forall_mem_singleton.mpr ⟨h.isReportText, hcapturing⟩⟩, fun new hnew => ?_⟩
    rw [← List.append_cancel_left hnew]
    exact List.forall_mem_singleton.mpr ⟨eventType, htype, h⟩
  next => exact ReportStepOf.refl s

theorem guarantees_requireNonEmpty (text : UTF8String) (message : String) :
    Program.Guarantees (ReportStepOf types) (requireNonEmpty text message) := by
  rw [requireNonEmpty]
  split
  · trivial
  · trivial

/-- **A report** may do what its body may. -/
theorem guarantees_report {allowed : PrivacyConfiguration → Bool} {capturing : Beacon → Bool}
    {body : Reporter Unit} (h : Program.Guarantees (ReportStepOf types) body) :
    Program.Guarantees (ReportStepOf types) (report allowed capturing body) := by
  refine (guarantees_ask _).bind fun optedIn => ?_
  split
  · trivial
  · refine (guarantees_ask _).bind fun enabled => ?_
    split
    · trivial
    · exact h

/-- The text with its origin has the event type that it had. -/
theorem guarantees_addOrigin_bind {eventData : UTF8String} (h : HasEventType eventType eventData)
    (parentActionID time0 : ℤ) {α : Type} {g : UTF8String → Reporter α}
    (hg : ∀ text, HasEventType eventType text → Program.Guarantees (ReportStepOf types) (g text)) :
    Program.Guarantees (ReportStepOf types)
      (addOrigin eventData parentActionID time0 >>= g) := by
  rw [addOrigin, bind_assoc]
  refine guarantees_createSequenceNumber.bind fun startSequenceNumber => ?_
  exact hg _ (((h.addKeyIntPair _ _).addKeyIntPair _ _).addKeyIntPair _ _)

/-- So has what `buildEvent` returns. -/
theorem guarantees_buildEvent_bind {eventData : UTF8String}
    (h : HasEventType eventType eventData) (parentActionID : ℤ)
    {g : UTF8String × ℤ → Reporter Unit}
    (hg : ∀ text timestamp, HasEventType eventType text →
      Program.Guarantees (ReportStepOf types) (g (text, timestamp))) :
    Program.Guarantees (ReportStepOf types)
      (buildEvent caller eventData parentActionID >>= g) := by
  rw [buildEvent, bind_assoc]
  refine guarantees_provideTimestampInMilliseconds.bind fun eventTimestamp => ?_
  rw [bind_assoc]
  refine (guarantees_ask _).bind fun time0 => ?_
  rw [bind_assoc]
  exact guarantees_addOrigin_bind h parentActionID time0 fun text htext =>
    hg text eventTimestamp htext

end Records

theorem guarantees_startSession (htype : types .sessionStart) :
    Program.Guarantees (ReportStepOf types) (startSession caller) := by
  refine guarantees_report (guarantees_addOrigin_bind
    (hasEventType_createBasicEventDataWithoutName _ _) 0 0 fun text htext => ?_)
  exact (guarantees_ask _).bind fun _ => guarantees_addData htype htext

theorem guarantees_endSession (htype : types .sessionEnd) :
    Program.Guarantees (ReportStepOf types) (endSession caller) := by
  refine guarantees_report (guarantees_buildEvent_bind
    (hasEventType_createBasicEventDataWithoutName _ _) 0 fun text timestamp htext => ?_)
  exact guarantees_addData htype htext

theorem guarantees_identifyUser (htype : types .identifyUser) (userTag : UTF8String) :
    Program.Guarantees (ReportStepOf types) (identifyUser caller userTag) := by
  have htext : HasEventType .identifyUser (if userTag.isEmpty then
      createBasicEventDataWithoutName caller.threadID .identifyUser
      else createBasicEventData caller.threadID .identifyUser userTag) := by
    split
    · exact hasEventType_createBasicEventDataWithoutName _ _
    · exact hasEventType_createBasicEventData _ _ _
  exact guarantees_report (guarantees_buildEvent_bind htext 0 fun text timestamp htext =>
    guarantees_addData htype htext)

theorem guarantees_reportValue {eventType : EventType} (htype : types eventType)
    {addValue : UTF8String → UTF8String}
    (hvalue : ∀ text, HasEventType eventType text → HasEventType eventType (addValue text))
    (actionID : ℤ) (valueName : UTF8String) :
    Program.Guarantees (ReportStepOf types)
      (reportValue caller eventType addValue actionID valueName) := by
  refine (guarantees_requireNonEmpty _ _).bind fun _ => guarantees_report ?_
  refine guarantees_buildEvent_bind (hasEventType_createBasicEventData _ _ _) actionID ?_
  exact fun text timestamp htext => guarantees_addData htype (hvalue text htext)

theorem guarantees_reportEvent (htype : types .namedEvent) (actionID : ℤ) (eventName : UTF8String) :
    Program.Guarantees (ReportStepOf types) (reportEvent caller actionID eventName) := by
  refine (guarantees_requireNonEmpty _ _).bind fun _ => guarantees_report ?_
  refine guarantees_buildEvent_bind (hasEventType_createBasicEventData _ _ _) actionID ?_
  exact fun text timestamp htext => guarantees_addData htype htext

theorem guarantees_reportErrorCode (htype : types .failureError) (actionID : ℤ)
    (errorName : UTF8String) (errorCode : ℤ) :
    Program.Guarantees (ReportStepOf types)
      (reportErrorCode caller actionID errorName errorCode) := by
  refine (guarantees_requireNonEmpty _ _).bind fun _ => guarantees_report ?_
  refine guarantees_buildEvent_bind (hasEventType_createBasicEventData _ _ _) actionID ?_
  intro text timestamp htext
  exact guarantees_addData htype ((htext.addKeyIntPair _ _).addKeyValuePair _ _)

theorem guarantees_reportErrorCause (htype : types .failureException) (actionID : ℤ)
    (errorName causeName causeDescription causeStackTrace : UTF8String) :
    Program.Guarantees (ReportStepOf types)
      (reportErrorCause caller actionID errorName causeName causeDescription causeStackTrace) := by
  refine (guarantees_requireNonEmpty _ _).bind fun _ => guarantees_report ?_
  refine guarantees_buildEvent_bind (hasEventType_createBasicEventData _ _ _) actionID ?_
  intro text timestamp htext
  refine guarantees_addData htype (HasEventType.addKeyValuePair ?_ _ _)
  apply HasEventType.addKeyValuePairIfNotEmpty
  apply HasEventType.addKeyValuePairIfNotEmpty
  exact htext.addKeyValuePairIfNotEmpty _ _

theorem guarantees_reportCrash (htype : types .failureCrash)
    (errorName reason stacktrace : UTF8String) :
    Program.Guarantees (ReportStepOf types) (reportCrash caller errorName reason stacktrace) := by
  refine (guarantees_requireNonEmpty _ _).bind fun _ => guarantees_report ?_
  refine guarantees_buildEvent_bind (hasEventType_createBasicEventData _ _ _) 0 ?_
  intro text timestamp htext
  refine guarantees_addData htype (HasEventType.addKeyValuePair ?_ _ _)
  apply HasEventType.addKeyValuePairIfNotEmpty
  exact htext.addKeyValuePairIfNotEmpty _ _

theorem guarantees_addAction (htype : types .action) (action : ActionCommon) :
    Program.Guarantees (ReportStepOf types) (addAction caller action) := by
  refine (guarantees_requireNonEmpty _ _).bind fun _ => guarantees_report ?_
  refine (guarantees_ask _).bind fun time0 => guarantees_addData htype ?_
  exact (((((hasEventType_createBasicEventData _ _ _).addKeyIntPair _ _).addKeyIntPair _ _
    |>.addKeyIntPair _ _).addKeyIntPair _ _).addKeyIntPair _ _).addKeyIntPair _ _

theorem guarantees_addWebRequest (htype : types .webRequest) (parentActionID : ℤ)
    (tracer : WebRequestTracer) :
    Program.Guarantees (ReportStepOf types) (addWebRequest caller parentActionID tracer) := by
  refine (guarantees_requireNonEmpty _ _).bind fun _ => guarantees_report ?_
  refine (guarantees_ask _).bind fun time0 => guarantees_addData htype ?_
  apply HasEventType.addKeyIntPairIfPresent
  apply HasEventType.addKeyIntPairIfPresent
  apply HasEventType.addKeyIntPairIfPresent
  exact (((((hasEventType_createBasicEventData _ _ _).addKeyIntPair _ _).addKeyIntPair _ _
    |>.addKeyIntPair _ _).addKeyIntPair _ _).addKeyIntPair _ _)

/-- A payload that is too long is refused before anything is read. -/
theorem guarantees_sendEventPayload (htype : types .event) (jsonPayload : List UInt8) :
    Program.Guarantees (ReportStepOf types) (sendEventPayload caller jsonPayload) := by
  rw [sendEventPayload]
  split
  · trivial
  · refine guarantees_provideTimestampInMilliseconds.bind fun timestamp => ?_
    exact guarantees_addData htype (hasEventType_addKeyValuePair_eventType _ _ _)

theorem guarantees_sendBizEvent (htype : types .event) (type : UTF8String) (jsonPayload : List UInt8) :
    Program.Guarantees (ReportStepOf types) (sendBizEvent caller type jsonPayload) :=
  (guarantees_requireNonEmpty _ _).bind fun _ =>
    guarantees_report (guarantees_sendEventPayload htype jsonPayload)

theorem guarantees_sendEvent (htype : types .event) (name : UTF8String) (jsonPayload : List UInt8) :
    Program.Guarantees (ReportStepOf types) (sendEvent caller name jsonPayload) :=
  (guarantees_requireNonEmpty _ _).bind fun _ =>
    guarantees_report (guarantees_sendEventPayload htype jsonPayload)

/-! ## Reports that raise no exception -/

theorem returns_requireNonEmpty {text : UTF8String} (h : text.isEmpty = false)
    (message : String) : (requireNonEmpty text message).Returns := by
  rw [requireNonEmpty, h, if_neg Bool.false_ne_true]
  trivial

theorem returns_report {allowed : PrivacyConfiguration → Bool} {capturing : Beacon → Bool}
    {body : Reporter Unit} (h : body.Returns) : (report allowed capturing body).Returns := by
  refine (Program.returns_atomic _).bind fun optedIn => ?_
  split
  · trivial
  · refine (Program.returns_atomic _).bind fun enabled => ?_
    split
    · trivial
    · exact h

theorem returns_addOrigin (eventData : UTF8String) (parentActionID time0 : ℤ) :
    (addOrigin eventData parentActionID time0).Returns :=
  (Program.returns_atomic _).bind fun _ => trivial

theorem returns_buildEvent (eventData : UTF8String) (parentActionID : ℤ) :
    (buildEvent caller eventData parentActionID).Returns := by
  refine (Program.returns_atomic _).bind fun eventTimestamp => ?_
  refine (Program.returns_atomic _).bind fun time0 => ?_
  exact (returns_addOrigin _ _ _).bind fun _ => trivial

theorem returns_endSession : (endSession caller).Returns :=
  returns_report ((returns_buildEvent _ _).bind fun _ => Program.returns_atomic _)

/-- A crash that has a name. -/
theorem returns_reportCrash {errorName : UTF8String} (h : errorName.isEmpty = false)
    (reason stacktrace : UTF8String) :
    (reportCrash caller errorName reason stacktrace).Returns := by
  refine (returns_requireNonEmpty h _).bind fun _ => returns_report ?_
  exact (returns_buildEvent _ _).bind fun _ => Program.returns_atomic _

/-- An action has a name. -/
theorem returns_addAction (action : ActionCommon) : (addAction caller action).Returns := by
  refine (returns_requireNonEmpty action.isEmpty_name _).bind fun _ => returns_report ?_
  exact (Program.returns_atomic _).bind fun _ => Program.returns_atomic _

/-- A web request has a URL. -/
theorem returns_addWebRequest (parentActionID : ℤ) (tracer : WebRequestTracer) :
    (addWebRequest caller parentActionID tracer).Returns := by
  refine (returns_requireNonEmpty tracer.isEmpty_url _).bind fun _ => returns_report ?_
  exact (Program.returns_atomic _).bind fun _ => Program.returns_atomic _

/-- While capturing is enabled, a business event is added; the user is not asked. -/
theorem run_sendBizEvent {type : UTF8String} {jsonPayload : List UInt8} {s : Reporting}
    (henabled : s.beacon.isDataCapturingEnabled = true) (htype : type.isEmpty = false)
    (hlength : jsonPayload.length ≤ eventPayloadBytesLength) :
    (sendBizEvent caller type jsonPayload).run s = (.ok (), { s with
      numReads := s.numReads + 1
      records := s.records ++ [⟨.event, caller.clock s.numReads,
        addKeyValuePair (addKeyIntPair .nil keyEventType EventType.event.toInt) keyEventPayload
          (validateString jsonPayload)⟩] }) := by
  rw [sendBizEvent, requireNonEmpty, htype, if_neg Bool.false_ne_true, Program.pure_eq,
    Program.ret_bind, report, Program.run_bind_ok (Program.run_read _ s)]
  show (Program.read _ >>= _).run s = _
  rw [Program.run_bind_ok (Program.run_read _ s), henabled]
  show (sendEventPayload caller jsonPayload).run s = _
  rw [sendEventPayload, if_neg (not_lt.mpr hlength), provideTimestampInMilliseconds,
    Program.run_bind_ok (Program.run_atomic _ s)]
  exact congrArg (Prod.mk (Except.ok ())) (if_pos henabled)

end BeaconReports

end OpenKit
