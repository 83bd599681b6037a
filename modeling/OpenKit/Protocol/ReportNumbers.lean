import OpenKit.Protocol.BeaconReports
import OpenKit.Protocol.RecordPairs

/-!
# The sequence numbers of reports

A report draws one sequence number at most, and its record shows it. An action or a web request shows
the two numbers that it was given before.

## Main definitions

* `Draws`: what a report does to the numbers, and what its record shows
* `IsReport`: a program that reports an event
* `Adds`: the record of an action or a web request is added

## Main results

* `isReport_reportEvent`, `isReport_identifyUser` and so on: the reporting functions are such programs
* `adds_addAction`, `adds_addWebRequest`: what is added shows the numbers of the action or web request
-/

namespace OpenKit

open Thread

/-- The last sequence number that was drawn. -/
def Reporting.lastNumber (r : Reporting) : ℤ := r.beacon.sequenceNumber

/-- The event types of actions and web requests. -/
def EventType.isObject : EventType → Bool
  | action => true
  | webRequest => true
  | _ => false

/-- **What a report does**: the numbers that its record shows were drawn for it. -/
structure Draws (r r' : Reporting) : Prop where
  lastNumber : r.lastNumber ≤ r'.lastNumber
  records : r'.records = r.records ∨ ∃ record eventType numbers,
    r'.records = r.records ++ [record] ∧ eventType.isObject = false ∧
    EventData.Shows eventType numbers [] record.data ∧ numbers.Nodup ∧
    ∀ n ∈ numbers, r.lastNumber < n ∧ n ≤ r'.lastNumber

/-- The record of an action or a web request is added, unless it is not captured. -/
structure Adds (eventType : EventType) (start finish : ℤ) (r r' : Reporting) : Prop where
  lastNumber : r'.lastNumber = r.lastNumber
  records : r'.records = r.records ∨ ∃ record,
    r'.records = r.records ++ [record] ∧ EventData.Shows eventType [start] [finish] record.data

/-- A program that reports an event. -/
structure IsReport (body : Reporter Unit) : Prop where
  guarantees : Program.Guarantees (ReportStepOf fun _ => True) body
  draws : ∀ r, Draws r (body.run r).2

theorem Draws.refl (r : Reporting) : Draws r r := ⟨le_refl _, .inl rfl⟩

namespace BeaconReports

open EventData

variable {caller : Caller} {r r' : Reporting} {body : Reporter Unit} {eventType : EventType}

/-- A report does what its body does, or nothing. -/
theorem run_report_snd (allowed : PrivacyConfiguration → Bool) (capturing : Beacon → Bool) :
    ((report allowed capturing body).run r).2 = r ∨
      ((report allowed capturing body).run r).2 = (body.run r).2 := by
  rw [report, Program.run_bind_ok (Program.run_read _ r)]
  split
  · exact .inl rfl
  · rw [Program.run_bind_ok (Program.run_read _ r)]
    split
    · exact .inl rfl
    · exact .inr rfl

/-- An argument that must not be empty. -/
theorem run_requireNonEmpty_bind_snd (text : UTF8String) (message : String) :
    ((requireNonEmpty text message >>= fun _ => body).run r).2 = r ∨
      ((requireNonEmpty text message >>= fun _ => body).run r).2 = (body.run r).2 := by
  rw [requireNonEmpty]
  split
  · exact .inl rfl
  · exact .inr rfl

theorem draws_report {allowed : PrivacyConfiguration → Bool} {capturing : Beacon → Bool}
    (h : Draws r (body.run r).2) : Draws r ((report allowed capturing body).run r).2 := by
  rcases run_report_snd allowed capturing with hrun | hrun
  · rw [hrun]
    exact .refl r
  · rw [hrun]
    exact h

theorem draws_requireNonEmpty_bind {text : UTF8String} {message : String}
    (h : Draws r (body.run r).2) :
    Draws r ((requireNonEmpty text message >>= fun _ => body).run r).2 := by
  rcases run_requireNonEmpty_bind_snd text message with hrun | hrun
  · rw [hrun]
    exact .refl r
  · rw [hrun]
    exact h

/-- A record is added, unless it is not captured. -/
theorem run_addData_snd (kind : RecordKind) (timestamp : ℤ) (data : UTF8String) :
    ((addData kind timestamp data).run r).2 = r ∨ ((addData kind timestamp data).run r).2 =
      { r with records := r.records ++ [⟨kind, timestamp, data⟩] } := by
  rw [addData, Program.run_write]
  split
  · exact .inr rfl
  · exact .inl rfl

/-- A record that is added to others is what was written. -/
theorem mem_drop_addData {kind : RecordKind} {timestamp : ℤ} {data : UTF8String}
    {record : BeaconRecord} (h : record ∈ ((addData kind timestamp data).run r).2.records.drop r.records.length) :
    record.data = data := by
  rcases run_addData_snd (r := r) kind timestamp data with hrun | hrun
  · rw [hrun, List.drop_length] at h
    cases h
  · rw [hrun, List.drop_left] at h
    rw [List.mem_singleton.mp h]

/-- The record of an event, once its number is drawn. -/
theorem draws_addEventData (r' : Reporting) {timestamp : ℤ} {data : UTF8String} (numbers : List ℤ)
    (hlast : r.lastNumber ≤ r'.lastNumber) (hrecords : r'.records = r.records)
    (hobject : eventType.isObject = false) (hshows : Shows eventType numbers [] data)
    (hnodup : numbers.Nodup) (hdrawn : ∀ n ∈ numbers, r.lastNumber < n ∧ n ≤ r'.lastNumber) :
    Draws r ((addEventData timestamp data).run r').2 := by
  rcases run_addData_snd (r := r') .event timestamp data with hrun | hrun
  · rw [addEventData, hrun]
    exact ⟨hlast, .inl hrecords⟩
  · rw [addEventData, hrun]
    exact ⟨hlast, .inr ⟨_, eventType, numbers, congrArg (· ++ _) hrecords, hobject, hshows, hnodup,
      hdrawn⟩⟩

/-- What was drawn last is new. -/
theorem lastNumber_lt_of_mem {n : ℤ} (hn : n ∈ [r.lastNumber + 1]) :
    r.lastNumber < n ∧ n ≤ r.lastNumber + 1 := by
  rw [List.mem_singleton.mp hn]
  exact ⟨Int.lt_succ _, le_refl _⟩

/-- The text of an event with its origin shows its number. -/
theorem shows_addOrigin {eventData : UTF8String} (h : Shows eventType [] [] eventData)
    (parentActionID number time0 : ℤ) :
    Shows eventType [number] [] (addKeyIntPair (addKeyIntPair
      (addKeyIntPair eventData keyParentActionID parentActionID) keyStartSequenceNumber number)
      keyTime0 time0) :=
  ((h.addOther (by decide) _).addStart number).addOther (by decide) _

/-- **An event** that is built and added. -/
theorem draws_buildEvent_bind (hobject : eventType.isObject = false) {eventData : UTF8String}
    (h : Shows eventType [] [] eventData) (parentActionID : ℤ) (addValue : UTF8String → UTF8String)
    (hvalue : ∀ text numbers, Shows eventType numbers [] text →
      Shows eventType numbers [] (addValue text)) :
    Draws r ((buildEvent caller eventData parentActionID >>= fun built =>
      addEventData built.2 (addValue built.1)).run r).2 := by
  let r' : Reporting := { r.setBeacon { r.beacon with sequenceNumber := r.beacon.sequenceNumber + 1 } with
    numReads := r.numReads + 1 }
  have hbuilt : (buildEvent caller eventData parentActionID).run r = (.ok (addKeyIntPair (addKeyIntPair
      (addKeyIntPair eventData keyParentActionID parentActionID) keyStartSequenceNumber
      (r.lastNumber + 1)) keyTime0
      (r.beacon.getTimeSinceSessionStartTime (caller.clock r.numReads)), (caller.clock r.numReads : ℤ)),
      r') := rfl
  rw [Program.run_bind_ok hbuilt]
  exact draws_addEventData r' [r.lastNumber + 1] (Int.lt_succ _).le rfl hobject
    (hvalue _ _ (shows_addOrigin h _ _ _)) (List.nodup_singleton _) fun n hn => lastNumber_lt_of_mem hn

/-! ## The reporting functions -/

theorem isReport_endSession : IsReport (endSession caller) :=
  ⟨guarantees_endSession trivial, fun _ => draws_report (draws_buildEvent_bind rfl
    (shows_createBasicEventDataWithoutName _ .sessionEnd) 0 id fun _ _ h => h)⟩

theorem isReport_identifyUser (userTag : UTF8String) : IsReport (identifyUser caller userTag) := by
  refine ⟨guarantees_identifyUser trivial userTag, fun r => draws_report ?_⟩
  have htext : Shows .identifyUser [] [] (if userTag.isEmpty then
      createBasicEventDataWithoutName caller.threadID .identifyUser
      else createBasicEventData caller.threadID .identifyUser userTag) := by
    split
    · exact shows_createBasicEventDataWithoutName _ _
    · exact shows_createBasicEventData _ _ _
  exact draws_buildEvent_bind rfl htext 0 id fun _ _ h => h

theorem isReport_reportEvent (actionID : ℤ) (eventName : UTF8String) :
    IsReport (reportEvent caller actionID eventName) :=
  ⟨guarantees_reportEvent trivial actionID eventName, fun _ => draws_requireNonEmpty_bind
    (draws_report (draws_buildEvent_bind rfl (shows_createBasicEventData _ .namedEvent _)
      actionID id fun _ _ h => h))⟩

/-- What the functions that report a value have in common. -/
theorem isReport_reportValue (hobject : eventType.isObject = false)
    {addValue : UTF8String → UTF8String}
    (hvalue : ∀ text numbers, Shows eventType numbers [] text →
      Shows eventType numbers [] (addValue text))
    (htype : ∀ text, HasEventType eventType text → HasEventType eventType (addValue text))
    (actionID : ℤ) (valueName : UTF8String) :
    IsReport (reportValue caller eventType addValue actionID valueName) :=
  ⟨guarantees_reportValue trivial htype actionID valueName, fun _ => draws_requireNonEmpty_bind
    (draws_report (draws_buildEvent_bind hobject (shows_createBasicEventData _ eventType _) actionID
      addValue hvalue))⟩

theorem isReport_reportIntValue (actionID : ℤ) (valueName : UTF8String) (value : ℤ) :
    IsReport (reportIntValue caller actionID valueName value) :=
  isReport_reportValue rfl (fun _ _ h => h.addOther (by decide) _) (fun _ h => h.addKeyIntPair _ _)
    actionID valueName

theorem isReport_reportDoubleValue (actionID : ℤ) (valueName value : UTF8String) :
    IsReport (reportDoubleValue caller actionID valueName value) :=
  isReport_reportValue rfl (fun _ _ h => h.addOther (by decide) _) (fun _ h => h.addKeyValuePair _ _)
    actionID valueName

theorem isReport_reportStringValue (actionID : ℤ) (valueName value : UTF8String) :
    IsReport (reportStringValue caller actionID valueName value) :=
  isReport_reportValue rfl (fun _ _ h => h.addOtherIfNotEmpty (by decide) _)
    (fun _ h => h.addKeyValuePairIfNotEmpty _ _) actionID valueName

theorem isReport_reportErrorCode (actionID : ℤ) (errorName : UTF8String) (errorCode : ℤ) :
    IsReport (reportErrorCode caller actionID errorName errorCode) :=
  ⟨guarantees_reportErrorCode trivial actionID errorName errorCode, fun _ => draws_requireNonEmpty_bind
    (draws_report (draws_buildEvent_bind rfl (shows_createBasicEventData _ .failureError _) actionID
      (fun text => addKeyValuePair (addKeyIntPair text keyErrorValue errorCode) keyErrorTechnologyType
        errorTechnologyType) fun _ _ h => (h.addOther (by decide) _).addOther (by decide) _))⟩

theorem isReport_reportErrorCause (actionID : ℤ)
    (errorName causeName causeDescription causeStackTrace : UTF8String) :
    IsReport (reportErrorCause caller actionID errorName causeName causeDescription causeStackTrace) :=
  ⟨guarantees_reportErrorCause trivial actionID errorName _ _ _, fun _ => draws_requireNonEmpty_bind
    (draws_report (draws_buildEvent_bind rfl (shows_createBasicEventData _ .failureException _) actionID
      (fun text => addKeyValuePair (addKeyValuePairIfNotEmpty (addKeyValuePairIfNotEmpty
        (addKeyValuePairIfNotEmpty text keyErrorValue causeName) keyErrorReason
        (truncate causeDescription maxReasonLen)) keyErrorStacktrace
        (truncate causeStackTrace (maxStackTraceLength causeStackTrace))) keyErrorTechnologyType
        errorTechnologyType) fun _ _ h => (((h.addOtherIfNotEmpty (by decide) _).addOtherIfNotEmpty (by decide)
        _).addOtherIfNotEmpty (by decide) _).addOther (by decide) _))⟩

theorem isReport_reportCrash (errorName reason stacktrace : UTF8String) :
    IsReport (reportCrash caller errorName reason stacktrace) :=
  ⟨guarantees_reportCrash trivial errorName reason stacktrace, fun _ => draws_requireNonEmpty_bind
    (draws_report (draws_buildEvent_bind rfl (shows_createBasicEventData _ .failureCrash _) 0
      (fun text => addKeyValuePair (addKeyValuePairIfNotEmpty (addKeyValuePairIfNotEmpty text
        keyErrorReason (truncate reason maxReasonLen)) keyErrorStacktrace
        (truncate stacktrace (maxStackTraceLength stacktrace))) keyErrorTechnologyType
        errorTechnologyType) fun _ _ h => ((h.addOtherIfNotEmpty (by decide) _).addOtherIfNotEmpty (by decide)
        _).addOther (by decide) _))⟩

/-- Events with a payload show no number. -/
theorem draws_sendEventPayload (jsonPayload : List UInt8) :
    Draws r ((sendEventPayload caller jsonPayload).run r).2 := by
  rw [sendEventPayload]
  split
  · exact .refl r
  · exact draws_addEventData { r with numReads := r.numReads + 1 } [] (le_refl _) rfl rfl
      (shows_addKeyValuePair_eventType .event (by decide) (UTF8String.validateString jsonPayload)) List.nodup_nil
      (List.forall_mem_nil _)

theorem isReport_sendEvent (name : UTF8String) (jsonPayload : List UInt8) :
    IsReport (sendEvent caller name jsonPayload) :=
  ⟨guarantees_sendEvent trivial name jsonPayload, fun _ =>
    draws_requireNonEmpty_bind (draws_report (draws_sendEventPayload jsonPayload))⟩

theorem isReport_sendBizEvent (type : UTF8String) (jsonPayload : List UInt8) :
    IsReport (sendBizEvent caller type jsonPayload) :=
  ⟨guarantees_sendBizEvent trivial type jsonPayload, fun _ =>
    draws_requireNonEmpty_bind (draws_report (draws_sendEventPayload jsonPayload))⟩

/-! ## Actions and web requests -/

theorem adds_refl (start finish : ℤ) (r : Reporting) : Adds eventType start finish r r :=
  ⟨rfl, .inl rfl⟩

theorem adds_addData (kind : RecordKind) (timestamp : ℤ) {data : UTF8String} {start finish : ℤ}
    (h : Shows eventType [start] [finish] data) :
    Adds eventType start finish r ((addData kind timestamp data).run r).2 := by
  rcases run_addData_snd (r := r) kind timestamp data with hrun | hrun
  · rw [hrun]
    exact adds_refl start finish r
  · rw [hrun]
    exact ⟨rfl, .inr ⟨_, rfl, h⟩⟩

/-- **An action** that is reported shows its numbers. -/
theorem adds_addAction (a : ActionCommon) :
    Adds .action a.startSequenceNumber a.endSequenceNumber r ((addAction caller a).run r).2 := by
  rcases run_requireNonEmpty_bind_snd (r := r) a.name _ with hrun | hrun
  · rw [addAction, hrun]
    exact adds_refl _ _ r
  · rw [addAction, hrun]
    rcases run_report_snd (r := r) (·.isActionReportingAllowed) (·.isDataCapturingEnabled)
      with hrun | hrun
    · rw [hrun]
      exact adds_refl _ _ r
    · have htime : (timeSinceSessionStart a.startTime).run r =
          (.ok (r.beacon.getTimeSinceSessionStartTime a.startTime), r) := rfl
      rw [hrun, Program.run_bind_ok htime]
      refine adds_addData .action a.startTime ?_
      exact ((((((shows_createBasicEventData _ .action _).addOther (by decide) _).addOther (by decide)
        _).addStart _).addOther (by decide) _).addEnd _).addOther (by decide) _

/-- **A web request** that is reported shows its numbers. -/
theorem adds_addWebRequest (parentActionID : ℤ) (tracer : WebRequestTracer) :
    Adds .webRequest tracer.startSequenceNo tracer.endSequenceNo r
      ((addWebRequest caller parentActionID tracer).run r).2 := by
  rcases run_requireNonEmpty_bind_snd (r := r) tracer.url _ with hrun | hrun
  · rw [addWebRequest, hrun]
    exact adds_refl _ _ r
  · rw [addWebRequest, hrun]
    rcases run_report_snd (r := r) (·.isWebRequestTracingAllowed) (·.isDataCapturingEnabled)
      with hrun | hrun
    · rw [hrun]
      exact adds_refl _ _ r
    · have htime : (timeSinceSessionStart tracer.startTime).run r =
          (.ok (r.beacon.getTimeSinceSessionStartTime tracer.startTime), r) := rfl
      rw [hrun, Program.run_bind_ok htime]
      refine adds_addData .event tracer.startTime ?_
      have hparent : IsOtherKey keyParentActionID := by decide
      have htime0 : IsOtherKey keyTime0 := by decide
      have hnumbers := ((((shows_createBasicEventData caller.threadID .webRequest tracer.url).addOther
        hparent (toInvariantString parentActionID)).addStart tracer.startSequenceNo).addOther htime0
        (toInvariantString (r.beacon.getTimeSinceSessionStartTime tracer.startTime))).addEnd
        tracer.endSequenceNo
      exact (((hnumbers.addOther (by decide) _).addOtherIfPresent (by decide) _).addOtherIfPresent
        (by decide) _).addOtherIfPresent (by decide) _

end BeaconReports

end OpenKit
