import OpenKit.Library.Heap
import OpenKit.Objects.SessionCalls

/-!
# The objects of a session by reference

Actions and web requests point to their parent, and a parent keeps the list of its open children. An
object that is closed closes its children first, which it takes from a copy of that list, and then calls
its parent back, which removes it from the list. So the closing functions call each other, and go around
in the objects; they have fuel here, which is spent by each call.

The objects stay when they are closed. What is reported to the beacon is remembered.

## Main definitions

* `ObjectNode`, `SessionHeap`: the objects, and the session with them
* `HeapCalls.closeObject`, `doLeaveAction`, `doStop`, `onChildClosed`, `endSession`: closing
* `HeapCall`, `SessionHeap.afterCalls`: the calls, and a run of them
-/

namespace OpenKit

open Thread

/-- A pointer to an action or a web request. -/
abbrev ObjectRef := ℕ

/-- `mParent`: the session or an action. -/
inductive ObjectParent
  | session
  | action (p : ObjectRef)
deriving DecidableEq, Repr

/-- An action or a web request with its pointers. -/
inductive ObjectNode
  | action (parent : ObjectParent) (action : ActionCommon) (isActionLeft : Bool)
      (children : List ObjectRef)
  | webRequest (parent : ObjectParent) (tracer : WebRequestTracer)

/-- `isStopped()`. -/
def WebRequestTracer.isStopped (tracer : WebRequestTracer) : Bool := tracer.endTime != -1

namespace ObjectNode

/-- A new object, which has no children. -/
def ofObject (parent : ObjectParent) : OpenKitObject → ObjectNode
  | .action a _ => .action parent a false []
  | .webRequest tracer => .webRequest parent tracer

def parent : ObjectNode → ObjectParent
  | action parent .. => parent
  | webRequest parent _ => parent

def isAction : ObjectNode → Bool
  | action .. => true
  | webRequest .. => false

/-- The action was left, or the web request was stopped. -/
def isClosed : ObjectNode → Bool
  | action _ _ isActionLeft _ => isActionLeft
  | webRequest _ tracer => tracer.isStopped

def children : ObjectNode → List ObjectRef
  | action _ _ _ children => children
  | webRequest .. => []

def mapChildren (f : List ObjectRef → List ObjectRef) : ObjectNode → ObjectNode
  | action parent a isActionLeft children => action parent a isActionLeft (f children)
  | webRequest parent tracer => webRequest parent tracer

def mapAction (f : ActionCommon → ActionCommon) : ObjectNode → ObjectNode
  | action parent a isActionLeft children => action parent (f a) isActionLeft children
  | webRequest parent tracer => webRequest parent tracer

def mapTracer (f : WebRequestTracer → WebRequestTracer) : ObjectNode → ObjectNode
  | action parent a isActionLeft children => action parent a isActionLeft children
  | webRequest parent tracer => webRequest parent (f tracer)

def markAsLeft : ObjectNode → ObjectNode
  | action parent a _ children => action parent a true children
  | webRequest parent tracer => webRequest parent tracer

section

variable (node : ObjectNode)

@[simp] theorem parent_mapChildren (f : List ObjectRef → List ObjectRef) :
    (node.mapChildren f).parent = node.parent := by
  cases node <;> rfl

@[simp] theorem isClosed_mapChildren (f : List ObjectRef → List ObjectRef) :
    (node.mapChildren f).isClosed = node.isClosed := by
  cases node <;> rfl

@[simp] theorem isAction_mapChildren (f : List ObjectRef → List ObjectRef) :
    (node.mapChildren f).isAction = node.isAction := by
  cases node <;> rfl

theorem mapChildren_mapChildren (f g : List ObjectRef → List ObjectRef) :
    (node.mapChildren f).mapChildren g = node.mapChildren fun children => g (f children) := by
  cases node <;> rfl

end

end ObjectNode

/-- What is reported to the beacon: an object, or the end of the session. -/
inductive HeapReport
  | object (r : ObjectRef)
  | sessionEnd
deriving DecidableEq, Repr

/-- A session with its objects. The tree of the session in `reporting` stays empty: the open children of
the session are in `children`. -/
structure SessionHeap where
  reporting : Reporting
  children : List ObjectRef
  objects : Heap ObjectNode
  reports : List HeapReport

/-- What stops a call. -/
inductive HeapFault
  | exception (e : BeaconError)
  | outOfFuel
deriving DecidableEq, Repr

abbrev HeapProgram (α : Type) : Type := Program HeapFault SessionHeap α

namespace SessionHeap

/-- A session without objects. -/
def new (beacon : Beacon) (numReads : ℕ) : SessionHeap where
  reporting := ⟨.new beacon, numReads, []⟩
  children := []
  objects := .empty (.action .session ⟨.ofAscii ['-'], rfl, 0, 0, 0, 0, 0, 0⟩ true [])
  reports := []

def object (s : SessionHeap) (r : ObjectRef) : ObjectNode := s.objects.get r

def updateObject (s : SessionHeap) (r : ObjectRef) (f : ObjectNode → ObjectNode) : SessionHeap :=
  { s with objects := s.objects.modify r f }

def setSession (s : SessionHeap) (session : Session) : SessionHeap :=
  { s with reporting := s.reporting.setSession session }

def remember (s : SessionHeap) (report : HeapReport) : SessionHeap :=
  { s with reports := s.reports ++ [report] }

/-- `getCopyOfChildObjects` of the session or of an action. -/
def childrenOf (s : SessionHeap) : ObjectParent → List ObjectRef
  | .session => s.children
  | .action p => (s.object p).children

/-- Changes the children of the session or of an action. -/
def mapChildrenOf (s : SessionHeap) (f : List ObjectRef → List ObjectRef) :
    ObjectParent → SessionHeap
  | .session => { s with children := f s.children }
  | .action p => s.updateObject p (·.mapChildren f)

/-- `removeChildFromList`. -/
def removeChild (s : SessionHeap) (parent : ObjectParent) (r : ObjectRef) : SessionHeap :=
  s.mapChildrenOf (List.filter (· ≠ r)) parent

/-- Makes an object, and stores it with its parent. -/
def addObject (s : SessionHeap) (parent : ObjectParent) (object : OpenKitObject) : SessionHeap :=
  { s with objects := s.objects.alloc (.ofObject parent object) }.mapChildrenOf
    (· ++ [s.objects.size]) parent

/-- What is enough for every call: two calls for each object, one more for the session, and those at the
end of each chain. -/
def fuel (s : SessionHeap) : ℕ := 2 * s.objects.size + 5

variable {s : SessionHeap} {r q : ObjectRef}

@[simp] theorem object_updateObject_self {f : ObjectNode → ObjectNode} :
    (s.updateObject r f).object r = f (s.object r) := Heap.get_modify_self

theorem object_updateObject_of_ne {f : ObjectNode → ObjectNode} (h : q ≠ r) :
    (s.updateObject r f).object q = s.object q := Heap.get_modify_of_ne h

end SessionHeap

namespace HeapCalls

open BeaconReports

/-- Runs a report of the beacon. Its exceptions are passed on. -/
def onBeacon {α : Type} (body : Reporter α) : HeapProgram α := do
  let result ← Program.atomic fun s =>
    ((body.run s.reporting).1, { s with reporting := (body.run s.reporting).2 })
  match result with
  | .ok a => return a
  | .error e => .fail (.exception e)

/-- A report that is left out if the data is discarded. -/
def unlessDiscarded (discardData : Bool) (body : HeapProgram Unit) : HeapProgram Unit :=
  if !discardData then body else return ()

variable (caller : Caller)

/-- `mBeacon->addAction(thisAction)`. -/
def addAction (r : ObjectRef) : HeapProgram Unit := do
  match ← .read fun s => s.object r with
  | .action _ a _ _ =>
    Program.write (·.remember (.object r))
    onBeacon (BeaconReports.addAction caller a)
  | .webRequest .. => return ()

/-- `mBeacon->addWebRequest(mParentActionID, shared_from_this())`. -/
def addWebRequest (r : ObjectRef) : HeapProgram Unit := do
  match ← .read fun s => s.object r with
  | .webRequest _ tracer =>
    Program.write (·.remember (.object r))
    onBeacon (BeaconReports.addWebRequest caller tracer.parentActionID tracer)
  | .action .. => return ()

/-- `mBeacon->endSession()`. -/
def reportEnd : HeapProgram Unit := do
  Program.write (·.remember .sessionEnd)
  onBeacon (BeaconReports.endSession caller)

mutual

/-- `close()` of an object, or its `cancel()`. -/
def closeObject (discardData : Bool) : ℕ → ObjectRef → HeapProgram Unit
  | 0, _ => .fail .outOfFuel
  | fuel + 1, r => do
    match ← .read fun s => s.object r with
    | .action .. => doLeaveAction discardData fuel r
    | .webRequest _ tracer => doStop tracer.responseCode discardData fuel r
termination_by structural fuel => fuel

/-- `ActionCommonImpl::doLeaveAction`. -/
def doLeaveAction (discardData : Bool) : ℕ → ObjectRef → HeapProgram Unit
  | 0, _ => .fail .outOfFuel
  | fuel + 1, r => do
    match ← .read fun s => s.object r with
    | .webRequest .. => return ()
    | .action parent _ isActionLeft children =>
      if isActionLeft then
        return ()
      else
        Program.write (·.updateObject r (·.markAsLeft))
        children.forM (closeObject discardData fuel)
        let endTime ← onBeacon (provideTimestampInMilliseconds caller)
        let endSequenceNumber ← onBeacon createSequenceNumber
        Program.write (·.updateObject r (·.mapAction fun a =>
          { a with endTime := endTime, endSequenceNumber := endSequenceNumber }))
        unlessDiscarded discardData (addAction caller r)
        onChildClosed fuel parent r
termination_by structural fuel => fuel

/-- `WebRequestTracer::doStop`. -/
def doStop (responseCode : ℤ) (discardData : Bool) : ℕ → ObjectRef → HeapProgram Unit
  | 0, _ => .fail .outOfFuel
  | fuel + 1, r => do
    match ← .read fun s => s.object r with
    | .action .. => return ()
    | .webRequest parent tracer =>
      if tracer.isStopped then
        return ()
      else
        let endSequenceNo ← onBeacon createSequenceNumber
        let endTime ← onBeacon (provideTimestampInMilliseconds caller)
        Program.write (·.updateObject r (·.mapTracer fun tracer =>
          { tracer with
            responseCode := responseCode
            endSequenceNo := endSequenceNo
            endTime := endTime }))
        unlessDiscarded discardData (addWebRequest caller r)
        onChildClosed fuel parent r
termination_by structural fuel => fuel

/-- `onChildClosed` of an action or of the session. The session ends if it waits for its last child. -/
def onChildClosed : ℕ → ObjectParent → ObjectRef → HeapProgram Unit
  | 0, _, _ => .fail .outOfFuel
  | _ + 1, .action p, r => .write (·.removeChild (.action p) r)
  | fuel + 1, .session, r => do
    Program.write (·.removeChild .session r)
    if ← .read fun s => s.reporting.session.wasTriedForEnding && s.children.isEmpty then
      endSession true fuel
    else
      return ()
termination_by structural fuel => fuel

/-- `Session::end`. -/
def endSession (sendSessionEndEvent : Bool) : ℕ → HeapProgram Unit
  | 0 => .fail .outOfFuel
  | fuel + 1 => do
    if ← .read fun s => s.reporting.session.isFinishingOrFinished then
      return ()
    else
      Program.write fun s =>
        s.setSession { s.reporting.session with isSessionFinishing := true }
      let childObjects ← Program.read fun s => s.children
      childObjects.forM (closeObject false fuel)
      unlessDiscarded (!sendSessionEndEvent) (reportEnd caller)
      Program.write fun s => s.setSession s.reporting.session.markAsFinished
termination_by structural fuel => fuel

end

/-- `Session::tryEnd`. -/
def tryEnd (fuel : ℕ) : HeapProgram Unit := do
  if ← .read fun s => s.reporting.session.isFinishingOrFinished then
    return ()
  else if ← .read fun s => s.children.isEmpty then
    endSession caller false fuel
  else
    .write fun s => s.setSession { s.reporting.session with wasTriedForEnding := true }

/-- What is done for an action that is not left. -/
def whenNotLeft (r : ObjectRef) (body : ActionCommon → HeapProgram Unit) : HeapProgram Unit := do
  match ← .read fun s => s.object r with
  | .action _ a false _ => body a
  | _ => return ()

/-- What is done for a web request that is not stopped. -/
def whenNotStopped (r : ObjectRef) (body : HeapProgram Unit) : HeapProgram Unit := do
  match ← .read fun s => s.object r with
  | .webRequest _ tracer => if tracer.isStopped then return () else body
  | .action .. => return ()

/-- What is done for a session that is neither finishing nor finished. -/
def whenOpen (body : HeapProgram Unit) : HeapProgram Unit := do
  if !(← .read fun s => s.reporting.session.isFinishingOrFinished) then body else return ()

/-- A new child of an action or of the session. -/
def newChild (parent : ObjectParent) (constructor : Reporter OpenKitObject) : HeapProgram Unit := do
  let object ← onBeacon constructor
  Program.write (·.addObject parent object)

/-- A call on an object. What only reports is done as for an object in the tree. -/
def performObjectCall (fuel : ℕ) (r : ObjectRef) : ObjectCall → HeapProgram Unit
  | .enterAction name =>
    if h : name.isEmpty = false then
      whenNotLeft r fun a => newChild (.action r) (SessionCalls.newAction caller name h a.id)
    else
      return ()
  | .traceWebRequest url =>
    if h : url.isEmpty = false then
      whenNotLeft r fun a => newChild (.action r) (SessionCalls.newWebRequest caller url h a.id)
    else
      return ()
  | .leaveAction => doLeaveAction caller false fuel r
  | .cancelAction => doLeaveAction caller true fuel r
  | .stop responseCode => doStop caller responseCode false fuel r
  | .start => whenNotStopped r do
    let startTime ← onBeacon (provideTimestampInMilliseconds caller)
    Program.write (·.updateObject r (·.mapTracer fun tracer => { tracer with startTime := startTime }))
  | .setBytesSent bytesSent => whenNotStopped r do
    Program.write (·.updateObject r (·.mapTracer fun tracer => { tracer with bytesSent := bytesSent }))
  | .setBytesReceived bytesReceived => whenNotStopped r do
    Program.write (·.updateObject r (·.mapTracer fun tracer =>
      { tracer with bytesReceived := bytesReceived }))
  | call => whenNotLeft r fun a =>
    onBeacon (SessionCalls.performObjectCall caller a.startSequenceNumber call (.action a []))

end HeapCalls

/-- The calls on a session and its objects. -/
inductive HeapCall
  | enterAction (name : UTF8String)
  | identifyUser (userTag : UTF8String)
  | reportCrash (errorName reason stacktrace : UTF8String)
  | traceWebRequest (url : UTF8String)
  | sendEvent (name : UTF8String) (jsonPayload : List UInt8)
  | sendBizEvent (type : UTF8String) (jsonPayload : List UInt8)
  | endSession (sendSessionEndEvent : Bool)
  | tryEnd
  | updateServerConfiguration (config : ServerConfigurationRef)
  | onObject (r : ObjectRef) (call : ObjectCall)

namespace HeapCall

open HeapCalls

/-- What a call does: nothing, if it names an object that has not been made. -/
def perform (caller : Caller) (fuel : ℕ) : HeapCall → HeapProgram Unit
  | enterAction name =>
    if h : name.isEmpty = false then
      whenOpen (newChild .session
        (SessionCalls.newAction caller name h OpenKitObject.defaultActionID))
    else
      return ()
  | traceWebRequest url =>
    if h : url.isEmpty = false then
      whenOpen (newChild .session
        (SessionCalls.newWebRequest caller url h OpenKitObject.defaultActionID))
    else
      return ()
  | identifyUser userTag => onBeacon (SessionCalls.perform caller (.identifyUser userTag))
  | reportCrash errorName reason stacktrace =>
    onBeacon (SessionCalls.perform caller (.reportCrash errorName reason stacktrace))
  | sendEvent name jsonPayload => onBeacon (SessionCalls.perform caller (.sendEvent name jsonPayload))
  | sendBizEvent type jsonPayload =>
    onBeacon (SessionCalls.perform caller (.sendBizEvent type jsonPayload))
  | endSession sendSessionEndEvent => HeapCalls.endSession caller sendSessionEndEvent fuel
  | tryEnd => HeapCalls.tryEnd caller fuel
  | updateServerConfiguration config =>
    .write fun s => s.setSession (s.reporting.session.updateServerConfiguration config)
  | onObject r call => do
    if ← .read fun s => decide (r < s.objects.size) then performObjectCall caller fuel r call else return ()

end HeapCall

namespace SessionHeap

/-- The outcome of a call: it returns, or fails. -/
def outcome (caller : Caller) (s : SessionHeap) (call : HeapCall) : Except HeapFault Unit :=
  ((call.perform caller s.fuel).run s).1

/-- The session after a call. -/
def afterCall (caller : Caller) (s : SessionHeap) (call : HeapCall) : SessionHeap :=
  ((call.perform caller s.fuel).run s).2

/-- The session after some calls, each by a thread. The clock goes on. -/
def afterCalls (clock : ℕ → ℕ) (s : SessionHeap) (calls : List (ℤ × HeapCall)) : SessionHeap :=
  calls.foldl (fun s call => s.afterCall ⟨call.1, clock⟩ call.2) s

end SessionHeap

end OpenKit
