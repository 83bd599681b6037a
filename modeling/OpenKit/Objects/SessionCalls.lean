import OpenKit.Protocol.BeaconReports

/-!
# The calls on a session

The application calls a session, and the actions and web requests in it. A session that is finishing
or finished ignores calls, and so does an action that was left and a web request that was stopped.
Ending a session leaves its actions and stops its web requests first, and then reports the end.

Each call is a program that reports. A call is taken as one step, so between two calls a session is
either open or finished, and has no children when it is finished.

## Main definitions

* `ObjectCall`, `SessionCall`: the calls
* `SessionCalls.leaveObject`: leaves an action or stops a web request, with all that is below it
* `SessionCalls.endWith`: `Session::end`
* `SessionCalls.perform`: what a call does
* `Session.Settled`: the sessions between calls

## Main results

* `settled_of_run_perform`: calls keep sessions settled
* `guarantees_perform`: what a call does to the session, and which event types it reports
-/

namespace OpenKit

open Thread

/-- The calls on an action or a web request. Texts are given as the code has converted them, the URL
of a web request without its query, and the payload of an event by its JSON text. -/
inductive ObjectCall
  | enterAction (name : UTF8String)
  | reportEvent (eventName : UTF8String)
  | reportIntValue (valueName : UTF8String) (value : ℤ)
  | reportDoubleValue (valueName value : UTF8String)
  | reportStringValue (valueName value : UTF8String)
  | reportErrorCode (errorName : UTF8String) (errorCode : ℤ)
  | reportErrorCause (errorName causeName causeDescription causeStackTrace : UTF8String)
  | traceWebRequest (url : UTF8String)
  | leaveAction
  | cancelAction
  | start
  | setBytesSent (bytesSent : ℤ)
  | setBytesReceived (bytesReceived : ℤ)
  | stop (responseCode : ℤ)

/-- The calls on a session, or on an object in it. -/
inductive SessionCall
  | enterAction (name : UTF8String)
  | identifyUser (userTag : UTF8String)
  | reportCrash (errorName reason stacktrace : UTF8String)
  | traceWebRequest (url : UTF8String)
  | sendEvent (name : UTF8String) (jsonPayload : List UInt8)
  | sendBizEvent (type : UTF8String) (jsonPayload : List UInt8)
  | close
  | onObject (handle : ℤ) (call : ObjectCall)

namespace SessionCalls

open BeaconReports

variable (caller : Caller)

/-! ## New children -/

def newAction (name : UTF8String) (h : name.isEmpty = false) (parentID : ℤ) :
    Reporter OpenKitObject := do
  let startTime ← provideTimestampInMilliseconds caller
  let startSequenceNumber ← createSequenceNumber
  let id ← createID
  return .action ⟨name, h, startTime, -1, startSequenceNumber, -1, id, parentID⟩ []

def newWebRequest (url : UTF8String) (h : url.isEmpty = false) (parentActionID : ℤ) :
    Reporter OpenKitObject := do
  let startTime ← provideTimestampInMilliseconds caller
  let startSequenceNo ← createSequenceNumber
  return .webRequest ⟨parentActionID, url, h, -1, -1, -1, startTime, -1, startSequenceNo, -1⟩

/-- Changes the children of the session. -/
def updateChildren (f : List OpenKitObject → List OpenKitObject) : Reporter Unit :=
  .write fun s => s.setSession { s.session with children := f s.session.children }

/-- `storeChildInList` of the session. -/
def storeChild (child : OpenKitObject) : Reporter Unit := updateChildren (· ++ [child])

/-- `storeChildInList` of an action. -/
def storeChildAt (handle : ℤ) (child : OpenKitObject) : Reporter Unit :=
  updateChildren (OpenKitObject.updateIn handle fun
    | .action a children => some (.action a (children ++ [child]))
    | object => some object)

/-- Changes a web request. -/
def updateTracer (handle : ℤ) (f : WebRequestTracer → WebRequestTracer) : Reporter Unit :=
  updateChildren (OpenKitObject.updateIn handle fun
    | .webRequest tracer => some (.webRequest (f tracer))
    | object => some object)

/-! ## Closing -/

/-- `WebRequestTracer::doStop`. -/
def doStop (responseCode : ℤ) (discardData : Bool) (tracer : WebRequestTracer) :
    Reporter Unit := do
  let endSequenceNo ← createSequenceNumber
  let endTime ← provideTimestampInMilliseconds caller
  if !discardData then
    addWebRequest caller tracer.parentActionID
      { tracer with
        responseCode := responseCode
        endSequenceNo := endSequenceNo
        endTime := endTime }
  else
    return ()

mutual

/-- Leaves an action, its children first, or stops a web request. -/
def leaveObject (discardData : Bool) : OpenKitObject → Reporter Unit
  | .action action children => do
    leaveChildren discardData children
    let endTime ← provideTimestampInMilliseconds caller
    let endSequenceNumber ← createSequenceNumber
    if !discardData then
      addAction caller
        { action with endTime := endTime, endSequenceNumber := endSequenceNumber }
    else
      return ()
  | .webRequest tracer => doStop caller tracer.responseCode discardData tracer

/-- Leaves some objects, one after the other. -/
def leaveChildren (discardData : Bool) : List OpenKitObject → Reporter Unit
  | [] => return ()
  | child :: children => do
    leaveObject discardData child
    leaveChildren discardData children

end

/-- `Session::end`. The event of the end is sent only if the session is ended explicitly. -/
def endWith (sendSessionEndEvent : Bool) : Reporter Unit := do
  if ← .read fun s => s.session.isFinishingOrFinished then
    return ()
  else
    Program.write fun s => s.setSession { s.session with isSessionFinishing := true }
    let children ← Program.read fun s => s.session.children
    leaveChildren caller false children
    updateChildren fun _ => []
    if sendSessionEndEvent then
      endSession caller
      Program.write fun s => s.setSession s.session.markAsFinished
    else
      Program.write fun s => s.setSession s.session.markAsFinished

/-- Detaches an object that was closed; a session that waits for its last child ends then. -/
def onChildClosed (handle : ℤ) : Reporter Unit := do
  updateChildren (OpenKitObject.updateIn handle fun _ => none)
  if ← .read fun s => s.session.wasTriedForEnding && s.session.children.isEmpty then
    endWith caller true
  else
    return ()

/-- `Session::tryEnd`: ends a session without children, and marks another one. -/
def tryEnd : Reporter Bool := do
  if ← .read fun s => s.session.isFinishingOrFinished then
    return true
  else if ← .read fun s => s.session.children.isEmpty then
    endWith caller false
    return true
  else
    Program.write fun s => s.setSession { s.session with wasTriedForEnding := true }
    return false

/-! ## The calls -/

/-- What is done for a session that is neither finishing nor finished. -/
def whenOpen (body : Reporter Unit) : Reporter Unit := do
  if !(← .read fun s => s.session.isFinishingOrFinished) then body else return ()

/-- A call on an open object. An empty name is refused with a warning. -/
def performObjectCall (handle : ℤ) : ObjectCall → OpenKitObject → Reporter Unit
  | .enterAction name, .action a _ =>
    if h : name.isEmpty = false then do
      let child ← newAction caller name h a.id
      storeChildAt handle child
    else
      return ()
  | .reportEvent eventName, .action a _ =>
    if !eventName.isEmpty then reportEvent caller a.id eventName else return ()
  | .reportIntValue valueName value, .action a _ =>
    if !valueName.isEmpty then reportIntValue caller a.id valueName value else return ()
  | .reportDoubleValue valueName value, .action a _ =>
    if !valueName.isEmpty then reportDoubleValue caller a.id valueName value else return ()
  | .reportStringValue valueName value, .action a _ =>
    if !valueName.isEmpty then reportStringValue caller a.id valueName value else return ()
  | .reportErrorCode errorName errorCode, .action a _ =>
    if !errorName.isEmpty then reportErrorCode caller a.id errorName errorCode else return ()
  | .reportErrorCause errorName causeName causeDescription causeStackTrace, .action a _ =>
    if !errorName.isEmpty then
      reportErrorCause caller a.id errorName causeName causeDescription causeStackTrace
    else
      return ()
  | .traceWebRequest url, .action a _ =>
    if h : url.isEmpty = false then do
      let child ← newWebRequest caller url h a.id
      storeChildAt handle child
    else
      return ()
  | .leaveAction, .action a children => do
    leaveObject caller false (.action a children)
    onChildClosed caller handle
  | .cancelAction, .action a children => do
    leaveObject caller true (.action a children)
    onChildClosed caller handle
  | .start, .webRequest _ => do
    let startTime ← provideTimestampInMilliseconds caller
    updateTracer handle fun tracer => { tracer with startTime := startTime }
  | .setBytesSent bytesSent, .webRequest _ =>
    updateTracer handle fun tracer => { tracer with bytesSent := bytesSent }
  | .setBytesReceived bytesReceived, .webRequest _ =>
    updateTracer handle fun tracer => { tracer with bytesReceived := bytesReceived }
  | .stop responseCode, .webRequest tracer => do
    doStop caller responseCode false tracer
    onChildClosed caller handle
  | _, _ => return ()

/-- A call. One on an object that was closed does nothing. -/
def perform : SessionCall → Reporter Unit
  | .enterAction name =>
    if h : name.isEmpty = false then
      whenOpen do
        let child ← newAction caller name h OpenKitObject.defaultActionID
        storeChild child
    else
      return ()
  | .identifyUser userTag => whenOpen (identifyUser caller userTag)
  | .reportCrash errorName reason stacktrace =>
    if !errorName.isEmpty then whenOpen (reportCrash caller errorName reason stacktrace)
    else return ()
  | .traceWebRequest url =>
    if h : url.isEmpty = false then
      whenOpen do
        let child ← newWebRequest caller url h OpenKitObject.defaultActionID
        storeChild child
    else
      return ()
  | .sendEvent name jsonPayload =>
    if !name.isEmpty then whenOpen (sendEvent caller name jsonPayload) else return ()
  | .sendBizEvent type jsonPayload =>
    if !type.isEmpty then whenOpen (sendBizEvent caller type jsonPayload) else return ()
  | .close => endWith caller true
  | .onObject handle call => do
    let object ← Program.read fun s => OpenKitObject.findIn handle s.session.children
    match object with
    | some object => performObjectCall caller handle call object
    | none => return ()

end SessionCalls

/-! ## What a call may do -/

/-- An action of a call: the numbers, the children and the progress of the session change, and
records are added while capturing is enabled. -/
structure CallStep (s s' : Reporting) : Prop where
  beacon : s.beacon.SameButNumbers s'.beacon
  numRemainingNewSessionRequests :
    s'.session.numRemainingNewSessionRequests = s.session.numRemainingNewSessionRequests
  numReads : s.numReads ≤ s'.numReads
  records : ∃ new, s'.records = s.records ++ new ∧
    ∀ record ∈ new, EventData.IsReportText record.data ∧ s.beacon.isDataCapturingEnabled = true

theorem ReportStep.callStep {s s' : Reporting} (h : ReportStep s s') : CallStep s s' := by
  obtain ⟨beacon, hsession, -⟩ := h.session
  exact ⟨h.beacon, by rw [hsession], h.numReads, h.records⟩

namespace CallStep

variable {s s' s'' : Reporting}

theorem refl (s : Reporting) : CallStep s s := (ReportStep.refl s).callStep

theorem trans (h : CallStep s s') (h' : CallStep s' s'') : CallStep s s'' := by
  obtain ⟨new, hrecords, hnew⟩ := h.records
  obtain ⟨new', hrecords', hnew'⟩ := h'.records
  refine ⟨h.beacon.trans h'.beacon, h'.numRemainingNewSessionRequests.trans
    h.numRemainingNewSessionRequests, h.numReads.trans h'.numReads, new ++ new', ?_, ?_⟩
  · rw [hrecords', hrecords, List.append_assoc]
  · rw [h.beacon.isDataCapturingEnabled] at hnew'
    exact List.forall_mem_append.mpr ⟨hnew, hnew'⟩

/-- A step that leaves the beacon alone, and adds no record. -/
theorem of_session {session : Session} (hbeacon : session.beacon = s.session.beacon)
    (hrequests : session.numRemainingNewSessionRequests =
      s.session.numRemainingNewSessionRequests) :
    CallStep s (s.setSession session) := by
  refine ⟨?_, hrequests, le_refl _, [], (List.append_nil _).symm, List.forall_mem_nil _⟩
  show s.session.beacon.SameButNumbers session.beacon
  rw [hbeacon]
  exact .refl _

end CallStep

/-- An action of a call whose records have one of some event types. -/
structure CallStepOf (types : EventType → Prop) (s s' : Reporting) : Prop
    extends CallStep s s' where
  hasEventTypeOf : ∀ new, s'.records = s.records ++ new →
    ∀ record ∈ new, EventData.HasEventTypeOf types record.data

theorem ReportStepOf.callStepOf {types : EventType → Prop} {s s' : Reporting}
    (h : ReportStepOf types s s') : CallStepOf types s s' :=
  ⟨h.callStep, h.hasEventTypeOf⟩

namespace CallStepOf

variable {types : EventType → Prop} {s s' s'' : Reporting}

theorem refl (s : Reporting) : CallStepOf types s s := (ReportStepOf.refl s).callStepOf

theorem trans (h : CallStepOf types s s') (h' : CallStepOf types s' s'') :
    CallStepOf types s s'' := by
  refine ⟨h.toCallStep.trans h'.toCallStep, fun new hnew => ?_⟩
  obtain ⟨new₁, hrecords₁, -⟩ := h.records
  obtain ⟨new₂, hrecords₂, -⟩ := h'.records
  rw [hrecords₂, hrecords₁, List.append_assoc] at hnew
  rw [← List.append_cancel_left hnew]
  exact List.forall_mem_append.mpr
    ⟨h.hasEventTypeOf new₁ hrecords₁, h'.hasEventTypeOf new₂ hrecords₂⟩

/-- A step that leaves the beacon alone, and adds no record. -/
theorem of_session {session : Session} (hbeacon : session.beacon = s.session.beacon)
    (hrequests : session.numRemainingNewSessionRequests =
      s.session.numRemainingNewSessionRequests) :
    CallStepOf types s (s.setSession session) := by
  refine ⟨.of_session hbeacon hrequests, fun new hnew => ?_⟩
  rw [List.self_eq_append_right.mp hnew]
  exact List.forall_mem_nil _

end CallStepOf

namespace SessionCalls

open BeaconReports

variable {caller : Caller} {types : EventType → Prop}

/-! ## Closing reports, and returns -/

section Closing

variable (discardData : Bool)

theorem guarantees_doStop (hrequest : types .webRequest) (responseCode : ℤ)
    (tracer : WebRequestTracer) :
    Program.Guarantees (ReportStepOf types) (doStop caller responseCode discardData tracer) := by
  refine guarantees_createSequenceNumber.bind fun endSequenceNo => ?_
  refine guarantees_provideTimestampInMilliseconds.bind fun endTime => ?_
  split
  · exact guarantees_addWebRequest hrequest _ _
  · trivial

mutual

theorem guarantees_leaveObject (haction : types .action) (hrequest : types .webRequest)
    (object : OpenKitObject) :
    Program.Guarantees (ReportStepOf types) (leaveObject caller discardData object) := by
  cases object with
  | action action children =>
    rw [leaveObject]
    refine (guarantees_leaveChildren haction hrequest children).bind fun _ => ?_
    refine guarantees_provideTimestampInMilliseconds.bind fun endTime => ?_
    refine guarantees_createSequenceNumber.bind fun endSequenceNumber => ?_
    split
    · exact guarantees_addAction haction _
    · trivial
  | webRequest tracer =>
    rw [leaveObject]
    exact guarantees_doStop discardData hrequest _ tracer

theorem guarantees_leaveChildren (haction : types .action) (hrequest : types .webRequest)
    (objects : List OpenKitObject) :
    Program.Guarantees (ReportStepOf types) (leaveChildren caller discardData objects) := by
  cases objects with
  | nil =>
    rw [leaveChildren]
    trivial
  | cons object objects =>
    rw [leaveChildren]
    exact (guarantees_leaveObject haction hrequest object).bind fun _ =>
      guarantees_leaveChildren haction hrequest objects

end

end Closing

/-! ## All actions of a call -/

theorem callStepOf_of_guarantees {α : Type} {p : Reporter α}
    (h : Program.Guarantees (ReportStepOf types) p) : Program.Guarantees (CallStepOf types) p :=
  h.mono fun _ _ => ReportStepOf.callStepOf

theorem guarantees_askSession {α : Type} (f : Reporting → α) :
    Program.Guarantees (CallStepOf types) (Program.read f : Reporter α) :=
  Program.guarantees_atomic CallStepOf.refl

/-- A change of the session that leaves its beacon alone. -/
theorem guarantees_setSession {f : Session → Session} (hbeacon : ∀ s, (f s).beacon = s.beacon)
    (hrequests : ∀ s, (f s).numRemainingNewSessionRequests = s.numRemainingNewSessionRequests) :
    Program.Guarantees (CallStepOf types)
      (Program.write fun s => s.setSession (f s.session) : Reporter Unit) :=
  Program.guarantees_atomic fun s => .of_session (hbeacon s.session) (hrequests s.session)

theorem guarantees_updateChildren (f : List OpenKitObject → List OpenKitObject) :
    Program.Guarantees (CallStepOf types) (updateChildren f) :=
  guarantees_setSession (f := fun session => { session with children := f session.children })
    (fun _ => rfl) fun _ => rfl

theorem guarantees_newAction (name : UTF8String) (h : name.isEmpty = false) (parentID : ℤ) :
    Program.Guarantees (ReportStepOf types) (newAction caller name h parentID) := by
  refine guarantees_provideTimestampInMilliseconds.bind fun startTime => ?_
  refine guarantees_createSequenceNumber.bind fun startSequenceNumber => ?_
  exact guarantees_createID.bind fun id => trivial

theorem guarantees_newWebRequest (url : UTF8String) (h : url.isEmpty = false)
    (parentActionID : ℤ) :
    Program.Guarantees (ReportStepOf types) (newWebRequest caller url h parentActionID) := by
  refine guarantees_provideTimestampInMilliseconds.bind fun startTime => ?_
  exact guarantees_createSequenceNumber.bind fun startSequenceNo => trivial

theorem guarantees_endWith (haction : types .action) (hrequest : types .webRequest)
    {sendSessionEndEvent : Bool} (hend : sendSessionEndEvent = true → types .sessionEnd) :
    Program.Guarantees (CallStepOf types) (endWith caller sendSessionEndEvent) := by
  refine (guarantees_askSession _).bind fun ended => ?_
  split
  · trivial
  · refine (guarantees_setSession (f := fun session => { session with isSessionFinishing := true })
      (fun _ => rfl) fun _ => rfl).bind fun _ => ?_
    refine (guarantees_askSession _).bind fun children => ?_
    refine (callStepOf_of_guarantees
      (guarantees_leaveChildren false haction hrequest children)).bind fun _ => ?_
    refine (guarantees_updateChildren _).bind fun _ => ?_
    split
    next hsend =>
      refine (callStepOf_of_guarantees (guarantees_endSession (hend hsend))).bind fun _ => ?_
      exact guarantees_setSession (f := (·.markAsFinished)) (fun _ => rfl) fun _ => rfl
    next => exact guarantees_setSession (f := (·.markAsFinished)) (fun _ => rfl) fun _ => rfl

/-- The event of the end is not sent. -/
theorem guarantees_tryEnd (haction : types .action) (hrequest : types .webRequest) :
    Program.Guarantees (CallStepOf types) (tryEnd caller) := by
  refine (guarantees_askSession _).bind fun ended => ?_
  split
  · trivial
  · refine (guarantees_askSession _).bind fun last => ?_
    split
    · exact (guarantees_endWith haction hrequest (fun h => absurd h Bool.false_ne_true)).bind
        fun _ => trivial
    · refine (guarantees_setSession (f := fun session => { session with wasTriedForEnding := true })
        (fun _ => rfl) fun _ => rfl).bind fun _ => trivial

theorem guarantees_whenOpen {body : Reporter Unit}
    (h : Program.Guarantees (CallStepOf types) body) :
    Program.Guarantees (CallStepOf types) (whenOpen body) := by
  refine (guarantees_askSession _).bind fun ended => ?_
  split
  · exact h
  · trivial

/-- A report behind a check of its argument. -/
theorem guarantees_ite {c : Prop} [Decidable c] {body : Reporter Unit}
    (h : Program.Guarantees (CallStepOf types) body) :
    Program.Guarantees (CallStepOf types) (if c then body else Program.ret ()) := by
  split
  · exact h
  · trivial

theorem guarantees_dite {c : Prop} [Decidable c] {body : c → Reporter Unit}
    (h : ∀ hc, Program.Guarantees (CallStepOf types) (body hc)) :
    Program.Guarantees (CallStepOf types) (if hc : c then body hc else Program.ret ()) := by
  split
  · exact h _
  · trivial

section Perform

/- The calls of the application report all event types but that of the start. -/
variable (htypes : ∀ eventType, eventType ≠ .sessionStart → types eventType)

include htypes

theorem guarantees_onChildClosed (handle : ℤ) :
    Program.Guarantees (CallStepOf types) (onChildClosed caller handle) := by
  refine (guarantees_updateChildren _).bind fun _ => ?_
  refine (guarantees_askSession _).bind fun last => ?_
  split
  · exact guarantees_endWith (htypes _ (by decide)) (htypes _ (by decide))
      fun _ => htypes _ (by decide)
  · trivial

theorem guarantees_performObjectCall (handle : ℤ) (call : ObjectCall) (object : OpenKitObject) :
    Program.Guarantees (CallStepOf types) (performObjectCall caller handle call object) := by
  have haction : types .action := htypes _ (by decide)
  have hrequest : types .webRequest := htypes _ (by decide)
  cases object with
  | action a children =>
    cases call with
    | enterAction name =>
      refine guarantees_dite fun h => ?_
      refine (callStepOf_of_guarantees (guarantees_newAction name h _)).bind fun child => ?_
      exact guarantees_updateChildren _
    | reportEvent eventName =>
      exact guarantees_ite (callStepOf_of_guarantees
        (guarantees_reportEvent (htypes _ (by decide)) _ _))
    | reportIntValue valueName value =>
      exact guarantees_ite (callStepOf_of_guarantees
        (guarantees_reportValue (htypes _ (by decide)) (fun _ h => h.addKeyIntPair _ _) _ _))
    | reportDoubleValue valueName value =>
      exact guarantees_ite (callStepOf_of_guarantees
        (guarantees_reportValue (htypes _ (by decide)) (fun _ h => h.addKeyValuePair _ _) _ _))
    | reportStringValue valueName value =>
      exact guarantees_ite (callStepOf_of_guarantees
        (guarantees_reportValue (htypes _ (by decide))
          (fun _ h => h.addKeyValuePairIfNotEmpty _ _) _ _))
    | reportErrorCode errorName errorCode =>
      exact guarantees_ite (callStepOf_of_guarantees
        (guarantees_reportErrorCode (htypes _ (by decide)) _ _ _))
    | reportErrorCause errorName causeName causeDescription causeStackTrace =>
      exact guarantees_ite (callStepOf_of_guarantees
        (guarantees_reportErrorCause (htypes _ (by decide)) _ _ _ _ _))
    | traceWebRequest url =>
      refine guarantees_dite fun h => ?_
      refine (callStepOf_of_guarantees (guarantees_newWebRequest url h _)).bind fun child => ?_
      exact guarantees_updateChildren _
    | leaveAction =>
      refine (callStepOf_of_guarantees (guarantees_leaveObject _ haction hrequest _)).bind
        fun _ => ?_
      exact guarantees_onChildClosed htypes handle
    | cancelAction =>
      refine (callStepOf_of_guarantees (guarantees_leaveObject _ haction hrequest _)).bind
        fun _ => ?_
      exact guarantees_onChildClosed htypes handle
    | _ => trivial
  | webRequest tracer =>
    cases call with
    | start =>
      refine (callStepOf_of_guarantees guarantees_provideTimestampInMilliseconds).bind fun _ => ?_
      exact guarantees_updateChildren _
    | setBytesSent bytesSent => exact guarantees_updateChildren _
    | setBytesReceived bytesReceived => exact guarantees_updateChildren _
    | stop responseCode =>
      refine (callStepOf_of_guarantees (guarantees_doStop _ hrequest _ _)).bind fun _ => ?_
      exact guarantees_onChildClosed htypes handle
    | _ => trivial

/-- **All actions of a call** on a session. -/
theorem guarantees_perform (call : SessionCall) :
    Program.Guarantees (CallStepOf types) (perform caller call) := by
  cases call with
  | enterAction name =>
    refine guarantees_dite fun h => guarantees_whenOpen ?_
    refine (callStepOf_of_guarantees (guarantees_newAction name h _)).bind fun child => ?_
    exact guarantees_updateChildren _
  | identifyUser userTag =>
    exact guarantees_whenOpen (callStepOf_of_guarantees
      (guarantees_identifyUser (htypes _ (by decide)) userTag))
  | reportCrash errorName reason stacktrace =>
    exact guarantees_ite (guarantees_whenOpen (callStepOf_of_guarantees
      (guarantees_reportCrash (htypes _ (by decide)) errorName reason stacktrace)))
  | traceWebRequest url =>
    refine guarantees_dite fun h => guarantees_whenOpen ?_
    refine (callStepOf_of_guarantees (guarantees_newWebRequest url h _)).bind fun child => ?_
    exact guarantees_updateChildren _
  | sendEvent name jsonPayload =>
    exact guarantees_ite (guarantees_whenOpen (callStepOf_of_guarantees
      (guarantees_sendEvent (htypes _ (by decide)) name jsonPayload)))
  | sendBizEvent type jsonPayload =>
    exact guarantees_ite (guarantees_whenOpen (callStepOf_of_guarantees
      (guarantees_sendBizEvent (htypes _ (by decide)) type jsonPayload)))
  | close =>
    exact guarantees_endWith (htypes _ (by decide)) (htypes _ (by decide))
      fun _ => htypes _ (by decide)
  | onObject handle call =>
    refine (guarantees_askSession _).bind fun object => ?_
    cases object with
    | none => trivial
    | some object => exact guarantees_performObjectCall htypes handle call object

end Perform

/-- The same for a call as a whole. -/
theorem callStep_of_run_perform {call : SessionCall} {s s' : Reporting}
    {x : Except BeaconError Unit} (h : (perform caller call).run s = (x, s')) : CallStep s s' :=
  ((guarantees_perform (fun _ h => h) call).run CallStepOf.refl (fun _ _ _ => CallStepOf.trans)
    h).toCallStep

/-! ## Ending a session -/

section Returns

variable (discardData : Bool)

theorem returns_doStop (responseCode : ℤ) (tracer : WebRequestTracer) :
    (doStop caller responseCode discardData tracer).Returns := by
  refine (Program.returns_atomic _).bind fun endSequenceNo => ?_
  refine (Program.returns_atomic _).bind fun endTime => ?_
  split
  · exact returns_addWebRequest _ _
  · trivial

mutual

theorem returns_leaveObject (object : OpenKitObject) :
    (leaveObject caller discardData object).Returns := by
  cases object with
  | action action children =>
    rw [leaveObject]
    refine (returns_leaveChildren children).bind fun _ => ?_
    refine (Program.returns_atomic _).bind fun endTime => ?_
    refine (Program.returns_atomic _).bind fun endSequenceNumber => ?_
    split
    · exact returns_addAction _
    · trivial
  | webRequest tracer =>
    rw [leaveObject]
    exact returns_doStop discardData _ tracer

theorem returns_leaveChildren (objects : List OpenKitObject) :
    (leaveChildren caller discardData objects).Returns := by
  cases objects with
  | nil =>
    rw [leaveChildren]
    trivial
  | cons object objects =>
    rw [leaveChildren]
    exact (returns_leaveObject object).bind fun _ => returns_leaveChildren objects

end

variable (caller) in
/-- A crash without a name is not passed on to the beacon. -/
theorem returns_perform_reportCrash (errorName reason stacktrace : UTF8String) :
    (perform caller (.reportCrash errorName reason stacktrace)).Returns := by
  rw [perform]
  split
  next hname =>
    refine (Program.returns_atomic _).bind fun ended => ?_
    split
    · exact returns_reportCrash (by simpa using hname) reason stacktrace
    · trivial
  next => trivial

end Returns

end SessionCalls

namespace Session

/-- A session between two calls: a session that is finishing is finished, and has no children. -/
structure Settled (s : Session) : Prop where
  finishing : s.isSessionFinishing = s.isSessionFinished
  children : s.isSessionFinished = true → s.children = []

/-- An open session. -/
def IsOpen (s : Session) : Prop := s.isSessionFinishing = false ∧ s.isSessionFinished = false

theorem IsOpen.settled {s : Session} (h : s.IsOpen) : s.Settled :=
  ⟨h.1.trans h.2.symm, fun hfinished => absurd (h.2.symm.trans hfinished) Bool.false_ne_true⟩

/-- A settled session is open or finished. -/
theorem Settled.isOpen {s : Session} (h : s.Settled) (hfinished : s.isSessionFinished = false) :
    s.IsOpen :=
  ⟨h.finishing.trans hfinished, hfinished⟩

end Session

namespace SessionCalls

open BeaconReports

variable {caller : Caller} {s s' : Reporting}

/-- A step that neither ends a session nor opens it. -/
def KeepsFlags (s s' : Reporting) : Prop :=
  s'.session.isSessionFinishing = s.session.isSessionFinishing ∧
    s'.session.isSessionFinished = s.session.isSessionFinished

theorem KeepsFlags.trans {s'' : Reporting} (h : KeepsFlags s s') (h' : KeepsFlags s' s'') :
    KeepsFlags s s'' :=
  ⟨h'.1.trans h.1, h'.2.trans h.2⟩

theorem keepsFlags_of_guarantees {α : Type} {p : Reporter α}
    (h : Program.Guarantees (ReportStepOf fun _ => True) p) : Program.Guarantees KeepsFlags p := by
  refine h.mono fun s s' hstep => ?_
  obtain ⟨beacon, hsession, -⟩ := hstep.session
  exact ⟨by rw [hsession], by rw [hsession]⟩

/-- **Ending an open session** finishes it, and leaves it without children. -/
theorem run_endWith (sendSessionEndEvent : Bool) (h : s.session.IsOpen) :
    ∃ s', (endWith caller sendSessionEndEvent).run s = (.ok (), s') ∧
      s'.session.isSessionFinishing = true ∧ s'.session.isSessionFinished = true ∧
      s'.session.children = [] := by
  have hopen : s.session.isFinishingOrFinished = false := by
    rw [Session.isFinishingOrFinished, h.1, h.2]
    rfl
  have hreturns : (leaveChildren caller false s.session.children).Returns :=
    returns_leaveChildren false _
  obtain ⟨_, t, hleave⟩ := hreturns.run (s.setSession { s.session with isSessionFinishing := true })
  rw [endWith, Program.run_bind_ok (Program.run_read _ s), hopen, if_neg Bool.false_ne_true,
    Program.run_bind_ok (Program.run_write _ s), Program.run_bind_ok (Program.run_read _ _)]
  show ∃ s', (leaveChildren caller false s.session.children >>= _).run _ = (.ok (), s') ∧ _
  rw [Program.run_bind_ok hleave, updateChildren, Program.run_bind_ok (Program.run_write _ t)]
  split
  · -- the event of the end is sent, which leaves the children alone
    have hreturns : (endSession caller).Returns := returns_endSession
    obtain ⟨_, u, hend⟩ := hreturns.run (t.setSession { t.session with children := [] })
    have hsteps : Program.Guarantees (ReportStepOf fun _ => True) (endSession caller) :=
      guarantees_endSession trivial
    obtain ⟨beacon, hsession, -⟩ := (hsteps.run ReportStepOf.refl
      (fun _ _ _ => ReportStepOf.trans) hend).session
    rw [Program.run_bind_ok hend]
    refine ⟨_, Program.run_write _ u, rfl, rfl, ?_⟩
    show u.session.children = []
    rw [hsession]
    rfl
  · exact ⟨_, Program.run_write _ _, rfl, rfl, rfl⟩

/-- Run from an open session, the program leaves a settled one, whether it returns or not. -/
def Settles {α : Type} (p : Reporter α) : Prop :=
  ∀ s x s', s.session.IsOpen → p.run s = (x, s') → s'.session.Settled

theorem settles_of_keepsFlags {α : Type} {p : Reporter α} (h : Program.Guarantees KeepsFlags p) :
    Settles p := by
  intro s x s' hopen hrun
  obtain ⟨hfinishing, hfinished⟩ := h.run (fun _ => ⟨rfl, rfl⟩) (fun _ _ _ => KeepsFlags.trans) hrun
  exact Session.IsOpen.settled ⟨hfinishing.trans hopen.1, hfinished.trans hopen.2⟩

theorem settles_bind {α β : Type} {p : Reporter α} {g : α → Reporter β}
    (hp : Program.Guarantees KeepsFlags p) (hg : ∀ a, Settles (g a)) : Settles (p >>= g) := by
  intro s x s' hopen hrun
  rcases hrunP : p.run s with ⟨y, t⟩
  obtain ⟨hfinishing, hfinished⟩ :=
    hp.run (fun _ => ⟨rfl, rfl⟩) (fun _ _ _ => KeepsFlags.trans) hrunP
  have hopen' : t.session.IsOpen := ⟨hfinishing.trans hopen.1, hfinished.trans hopen.2⟩
  cases y with
  | ok a =>
    rw [Program.run_bind_ok hrunP] at hrun
    exact hg a t x s' hopen' hrun
  | error e =>
    rw [Program.run_bind_error hrunP] at hrun
    obtain ⟨-, rfl⟩ := Prod.mk.inj hrun
    exact hopen'.settled

theorem settles_endWith (sendSessionEndEvent : Bool) :
    Settles (endWith caller sendSessionEndEvent) := by
  intro s x s' hopen hrun
  obtain ⟨t, hrunT, hfinishing, hfinished, hchildren⟩ := run_endWith sendSessionEndEvent hopen
  obtain ⟨-, rfl⟩ := Prod.mk.inj (hrunT.symm.trans hrun)
  exact ⟨hfinishing.trans hfinished.symm, fun _ => hchildren⟩

theorem keepsFlags_read {α : Type} (f : Reporting → α) :
    Program.Guarantees KeepsFlags (Program.read f : Reporter α) :=
  Program.guarantees_atomic fun _ => ⟨rfl, rfl⟩

theorem keepsFlags_updateChildren (f : List OpenKitObject → List OpenKitObject) :
    Program.Guarantees KeepsFlags (updateChildren f) :=
  Program.guarantees_atomic fun _ => ⟨rfl, rfl⟩

theorem settles_onChildClosed (handle : ℤ) : Settles (onChildClosed caller handle) := by
  refine settles_bind (keepsFlags_updateChildren _) fun _ => ?_
  refine settles_bind (keepsFlags_read _) fun last => ?_
  split
  · exact settles_endWith true
  · exact settles_of_keepsFlags trivial

theorem settles_ite {c : Prop} [Decidable c] {body : Reporter Unit}
    (h : Program.Guarantees (ReportStepOf fun _ => True) body) :
    Settles (if c then body else Program.ret ()) := by
  split
  · exact settles_of_keepsFlags (keepsFlags_of_guarantees h)
  · exact settles_of_keepsFlags trivial

/-- A new child is stored, if its name is not empty. -/
theorem settles_dite {c : Prop} [Decidable c] {create : c → Reporter OpenKitObject}
    {f : OpenKitObject → List OpenKitObject → List OpenKitObject}
    (h : ∀ hc, Program.Guarantees (ReportStepOf fun _ => True) (create hc)) :
    Settles (if hc : c then create hc >>= fun child => updateChildren (f child)
      else Program.ret ()) := by
  split
  · exact settles_bind (keepsFlags_of_guarantees (h _)) fun child =>
      settles_of_keepsFlags (keepsFlags_updateChildren _)
  · exact settles_of_keepsFlags trivial

theorem settles_performObjectCall (handle : ℤ) (call : ObjectCall) (object : OpenKitObject) :
    Settles (performObjectCall caller handle call object) := by
  cases object with
  | action a children =>
    cases call with
    | enterAction name => exact settles_dite fun h => guarantees_newAction name h _
    | reportEvent eventName => exact settles_ite (guarantees_reportEvent trivial _ _)
    | reportIntValue valueName value =>
      exact settles_ite (guarantees_reportValue trivial (fun _ h => h.addKeyIntPair _ _) _ _)
    | reportDoubleValue valueName value =>
      exact settles_ite (guarantees_reportValue trivial (fun _ h => h.addKeyValuePair _ _) _ _)
    | reportStringValue valueName value =>
      exact settles_ite (guarantees_reportValue trivial (fun _ h => h.addKeyValuePairIfNotEmpty _ _) _ _)
    | reportErrorCode errorName errorCode => exact settles_ite (guarantees_reportErrorCode trivial _ _ _)
    | reportErrorCause errorName causeName causeDescription causeStackTrace =>
      exact settles_ite (guarantees_reportErrorCause trivial _ _ _ _ _)
    | traceWebRequest url => exact settles_dite fun h => guarantees_newWebRequest url h _
    | leaveAction =>
      exact settles_bind (keepsFlags_of_guarantees (guarantees_leaveObject _ trivial trivial _)) fun _ =>
        settles_onChildClosed handle
    | cancelAction =>
      exact settles_bind (keepsFlags_of_guarantees (guarantees_leaveObject _ trivial trivial _)) fun _ =>
        settles_onChildClosed handle
    | _ => exact settles_of_keepsFlags trivial
  | webRequest tracer =>
    cases call with
    | start =>
      exact settles_bind (keepsFlags_of_guarantees guarantees_provideTimestampInMilliseconds)
        fun _ => settles_of_keepsFlags (keepsFlags_updateChildren _)
    | setBytesSent bytesSent => exact settles_of_keepsFlags (keepsFlags_updateChildren _)
    | setBytesReceived bytesReceived => exact settles_of_keepsFlags (keepsFlags_updateChildren _)
    | stop responseCode =>
      exact settles_bind (keepsFlags_of_guarantees (guarantees_doStop _ trivial _ _)) fun _ =>
        settles_onChildClosed handle
    | _ => exact settles_of_keepsFlags trivial

theorem settles_whenOpen {body : Reporter Unit} (h : Settles body) : Settles (whenOpen body) := by
  refine settles_bind (keepsFlags_read _) fun ended => ?_
  split
  · exact h
  · exact settles_of_keepsFlags trivial

theorem settles_perform (call : SessionCall) : Settles (perform caller call) := by
  cases call with
  | enterAction name =>
    rw [perform]
    split
    next h =>
      exact settles_whenOpen (settles_bind (keepsFlags_of_guarantees (guarantees_newAction _ h _))
        fun child => settles_of_keepsFlags (keepsFlags_updateChildren _))
    next => exact settles_of_keepsFlags trivial
  | identifyUser userTag =>
    exact settles_whenOpen (settles_of_keepsFlags
      (keepsFlags_of_guarantees (guarantees_identifyUser trivial userTag)))
  | reportCrash errorName reason stacktrace =>
    rw [perform]
    split
    · exact settles_whenOpen (settles_of_keepsFlags
        (keepsFlags_of_guarantees (guarantees_reportCrash trivial _ _ _)))
    · exact settles_of_keepsFlags trivial
  | traceWebRequest url =>
    rw [perform]
    split
    next h =>
      exact settles_whenOpen (settles_bind
        (keepsFlags_of_guarantees (guarantees_newWebRequest _ h _)) fun child =>
          settles_of_keepsFlags (keepsFlags_updateChildren _))
    next => exact settles_of_keepsFlags trivial
  | sendEvent name jsonPayload =>
    rw [perform]
    split
    · exact settles_whenOpen (settles_of_keepsFlags
        (keepsFlags_of_guarantees (guarantees_sendEvent trivial _ _)))
    · exact settles_of_keepsFlags trivial
  | sendBizEvent type jsonPayload =>
    rw [perform]
    split
    · exact settles_whenOpen (settles_of_keepsFlags
        (keepsFlags_of_guarantees (guarantees_sendBizEvent trivial _ _)))
    · exact settles_of_keepsFlags trivial
  | close => exact settles_endWith true
  | onObject handle call =>
    refine settles_bind (keepsFlags_read _) fun object => ?_
    cases object with
    | none => exact settles_of_keepsFlags trivial
    | some object => exact settles_performObjectCall handle call object

/-- **A finished session** ignores all calls. -/
theorem run_perform_of_finished (call : SessionCall) (hsettled : s.session.Settled)
    (hfinished : s.session.isSessionFinished = true) :
    (perform caller call).run s = (.ok (), s) := by
  have hended : s.session.isFinishingOrFinished = true := by
    rw [Session.isFinishingOrFinished, hfinished, Bool.or_true]
  have hignored (body : Reporter Unit) : (whenOpen body).run s = (.ok (), s) := by
    rw [whenOpen, Program.run_bind_ok (Program.run_read _ s), hended]
    rfl
  cases call with
  | enterAction name =>
    rw [perform]
    split
    · exact hignored _
    · rfl
  | identifyUser userTag => exact hignored _
  | reportCrash errorName reason stacktrace =>
    rw [perform]
    split
    · exact hignored _
    · rfl
  | traceWebRequest url =>
    rw [perform]
    split
    · exact hignored _
    · rfl
  | sendEvent name jsonPayload =>
    rw [perform]
    split
    · exact hignored _
    · rfl
  | sendBizEvent type jsonPayload =>
    rw [perform]
    split
    · exact hignored _
    · rfl
  | close =>
    rw [perform, endWith, Program.run_bind_ok (Program.run_read _ s), hended]
    rfl
  | onObject handle call =>
    rw [perform, Program.run_bind_ok (Program.run_read _ s), hsettled.children hfinished]
    rfl

/-- **Calls keep sessions settled**, also those that end with an exception. -/
theorem settled_of_run_perform {call : SessionCall} {x : Except BeaconError Unit}
    (hsettled : s.session.Settled) (h : (perform caller call).run s = (x, s')) :
    s'.session.Settled := by
  cases hfinished : s.session.isSessionFinished with
  | true =>
    rw [run_perform_of_finished call hsettled hfinished] at h
    obtain ⟨-, rfl⟩ := Prod.mk.inj h
    exact hsettled
  | false => exact settles_perform call s x s' (hsettled.isOpen hfinished) h

end SessionCalls

end OpenKit
