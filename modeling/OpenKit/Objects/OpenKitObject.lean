import OpenKit.Core.UTF8String

/-!
# Actions and web requests

The open actions and web requests of a session form a tree: an action has the actions entered and
the web requests traced in it as its children. An object that was left or stopped is detached from
its parent, and has no part in the tree any more; calls on it do nothing.

## Main definitions

* `ActionCommon`, `WebRequestTracer`: what an action and a web request report
* `OpenKitObject`: an open object with its open children
* `OpenKitObject.findIn`, `updateIn`: the object that a call names, and its change
-/

namespace OpenKit

/-- An action, as it is reported. No action without a name is entered. -/
structure ActionCommon where
  name : UTF8String
  isEmpty_name : name.isEmpty = false
  startTime : ℤ
  endTime : ℤ
  startSequenceNumber : ℤ
  endSequenceNumber : ℤ
  id : ℤ
  parentID : ℤ
deriving DecidableEq, Repr

/-- A web request, as it is reported. Its URL is the one it was traced with, without the query, and
its numbers are missing below zero. -/
structure WebRequestTracer where
  parentActionID : ℤ
  url : UTF8String
  isEmpty_url : url.isEmpty = false
  responseCode : ℤ
  bytesSent : ℤ
  bytesReceived : ℤ
  startTime : ℤ
  endTime : ℤ
  startSequenceNo : ℤ
  endSequenceNo : ℤ
deriving DecidableEq, Repr

/-- An open object. -/
inductive OpenKitObject
  | action (action : ActionCommon) (children : List OpenKitObject)
  | webRequest (tracer : WebRequestTracer)
deriving Repr

namespace OpenKitObject

/-- The action id that the children of a session get as that of their parent. -/
def defaultActionID : ℤ := 0

/-- The start sequence number of an object. No two objects of a session have the same, so that calls
name their object by it. -/
def handle : OpenKitObject → ℤ
  | action a _ => a.startSequenceNumber
  | webRequest tracer => tracer.startSequenceNo

mutual

/-- The object with a handle, at or below an object. -/
def find (handle : ℤ) : OpenKitObject → Option OpenKitObject
  | action a children =>
    if a.startSequenceNumber = handle then some (action a children) else findIn handle children
  | webRequest tracer => if tracer.startSequenceNo = handle then some (webRequest tracer) else none

/-- The same, below some objects. -/
def findIn (handle : ℤ) : List OpenKitObject → Option OpenKitObject
  | [] => none
  | object :: objects => (find handle object).or (findIn handle objects)

end

mutual

/-- Changes the object with a handle, at or below an object; it is detached if nothing is left. -/
def update (handle : ℤ) (f : OpenKitObject → Option OpenKitObject) :
    OpenKitObject → Option OpenKitObject
  | action a children =>
    if a.startSequenceNumber = handle then f (action a children)
    else some (action a (updateIn handle f children))
  | webRequest tracer =>
    if tracer.startSequenceNo = handle then f (webRequest tracer) else some (webRequest tracer)

/-- The same, below some objects. -/
def updateIn (handle : ℤ) (f : OpenKitObject → Option OpenKitObject) :
    List OpenKitObject → List OpenKitObject
  | [] => []
  | object :: objects => (update handle f object).toList ++ updateIn handle f objects

end

end OpenKitObject

end OpenKit
