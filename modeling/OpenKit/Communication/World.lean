import OpenKit.Communication.BeaconSendingContext
import OpenKit.Library.Loop
import OpenKit.Objects.Session

/-!
# The sending thread and the threads of the application

The sending thread works on the cache, the sessions and the context, and meets the threads of the
application there: these report data for sessions, finish sessions, create new ones and may
request the shutdown. What happens is also written to a log that no code reads, so that
properties can speak of it.

## Main definitions

* `World`: what the threads share, and the log
* `Event`: the entries of the log
* `Environment`: the answers of the server, and the data of a beacon that changes with time
* `AppStep`: a step of a thread of the application
* `added`, `acknowledged`: the records added to a beacon, and those in acknowledged chunks
* `Sender`: programs of the sending thread
-/

namespace OpenKit

open Thread

/-- The loops of the sender: those of a cycle of capturing, and the one that flushes. -/
inductive Phase
  | newSessions
  | finishedSessions
  | openSessions
  | handling
  | flushing
deriving DecidableEq, Repr

/-- A chunk as `getNextBeaconChunk` returned it: its text, what it was asked for with, and the
entry it was taken from. -/
structure BeaconChunk where
  key : BeaconKey
  entry : BeaconCacheEntry
  chunkPrefix : UTF8String
  maxSize : ℤ
  delimiter : UTF8String
  text : UTF8String

namespace BeaconChunk

/-- The entry with the records in the chunk marked. -/
def entryAfter (c : BeaconChunk) : BeaconCacheEntry :=
  (c.entry.getChunk c.chunkPrefix (toSizeT c.maxSize) c.delimiter).2

/-- The number of records in the chunk. -/
def numRecords (c : BeaconChunk) : ℕ :=
  c.entry.numInChunk c.chunkPrefix (toSizeT c.maxSize) c.delimiter

/-- The records of one kind in the chunk. -/
def records (c : BeaconChunk) (kind : RecordKind) : List BeaconCacheRecord :=
  (c.entry.sending kind).take (c.entry.kindCount c.numRecords kind)

end BeaconChunk

/-- A status check of the capture-off state: its time to sleep, the time it read, the time of its
request, and the answer. -/
structure StatusCheck where
  sleepTimeInMilliseconds : ℤ
  currentTime : ℤ
  requestTime : ℤ
  statusResponse : Option Answer

/-- What the log tells about the states of the sender. -/
inductive StateEvent
  | initChecked (statusResponse : Option Answer) (shutdownRequested : Bool)
  | initCompleted (success : Bool)
  | statusChecked (check : StatusCheck)
  | stateChanged (currentState nextState : BeaconSendingState)

/-- What the log tells. -/
inductive Event
  | added (k : BeaconKey) (kind : RecordKind) (record : BeaconCacheRecord)
  | requested (phase : Phase) (chunk : BeaconChunk) (answer : Option Answer)
  | acknowledged (chunk : BeaconChunk)
  | newSessionRequested (answer : Option Answer)
  | sent (phase : Phase) (k : BeaconKey) (answer : Option Answer)
  | cleared (phase : Phase) (k : BeaconKey)
  | removed (k : BeaconKey) (dataSendingAllowed : Bool)
  | handled (answer : Answer)
  | state (event : StateEvent)

/-- What the threads share: the cache, the sessions with the keys of those created, the context,
the clock, the number of requests made, the loop the sender is in, and the log. -/
structure World where
  cache : BeaconCache
  sessions : BeaconKey → Session
  created : List BeaconKey
  context : BeaconSendingContext
  currentTime : ℤ
  numRequests : ℕ
  phase : Phase
  log : List Event

/-- The answers of the server by request number, and the basic data of a beacon that changes with
time, by the number of requests made before. -/
structure Environment where
  response : ℕ → Option StatusResponse
  mutableBeaconData : BeaconKey → ℕ → UTF8String

namespace World

/-- Nothing has happened yet. -/
def new (sessions : BeaconKey → Session) (context : BeaconSendingContext) : World where
  cache := .empty
  sessions := sessions
  created := []
  context := context
  currentTime := 0
  numRequests := 0
  phase := .newSessions
  log := []

def session (w : World) (k : BeaconKey) : Session := w.sessions k

def write (w : World) (event : Event) : World := { w with log := w.log ++ [event] }

def setCache (w : World) (cache : BeaconCache) : World := { w with cache := cache }

def setContext (w : World) (context : BeaconSendingContext) : World := { w with context := context }

def updateSession (w : World) (k : BeaconKey) (f : Session → Session) : World :=
  { w with sessions := Function.update w.sessions k (f (w.sessions k)) }

def enter (w : World) (phase : Phase) : World := { w with phase := phase }

/-- Adds a record to the cache, as `addEventData` and `addActionData` of the cache do. -/
def addData (w : World) (k : BeaconKey) (kind : RecordKind) (timestamp : ℤ) (data : UTF8String) :
    World :=
  (w.setCache (w.cache.addData k kind timestamp data)).write
    (.added k kind (.new timestamp data))

section Fields

variable (w : World) (cache : BeaconCache) (context : BeaconSendingContext) (event : Event)
  (phase : Phase)

@[simp] theorem cache_write : (w.write event).cache = w.cache := rfl
@[simp] theorem session_write (k : BeaconKey) : (w.write event).session k = w.session k := rfl
@[simp] theorem created_write : (w.write event).created = w.created := rfl
@[simp] theorem context_write : (w.write event).context = w.context := rfl
@[simp] theorem log_write : (w.write event).log = w.log ++ [event] := rfl

@[simp] theorem cache_setCache : (w.setCache cache).cache = cache := rfl
@[simp] theorem session_setCache (k : BeaconKey) :
    (w.setCache cache).session k = w.session k := rfl
@[simp] theorem created_setCache : (w.setCache cache).created = w.created := rfl
@[simp] theorem context_setCache : (w.setCache cache).context = w.context := rfl
@[simp] theorem log_setCache : (w.setCache cache).log = w.log := rfl

@[simp] theorem cache_setContext : (w.setContext context).cache = w.cache := rfl
@[simp] theorem session_setContext (k : BeaconKey) :
    (w.setContext context).session k = w.session k := rfl
@[simp] theorem created_setContext : (w.setContext context).created = w.created := rfl
@[simp] theorem context_setContext : (w.setContext context).context = context := rfl
@[simp] theorem log_setContext : (w.setContext context).log = w.log := rfl

@[simp] theorem cache_enter : (w.enter phase).cache = w.cache := rfl
@[simp] theorem session_enter (k : BeaconKey) : (w.enter phase).session k = w.session k := rfl
@[simp] theorem created_enter : (w.enter phase).created = w.created := rfl
@[simp] theorem context_enter : (w.enter phase).context = w.context := rfl
@[simp] theorem log_enter : (w.enter phase).log = w.log := rfl

@[simp] theorem cache_updateSession (k : BeaconKey) (f : Session → Session) :
    (w.updateSession k f).cache = w.cache := rfl
@[simp] theorem created_updateSession (k : BeaconKey) (f : Session → Session) :
    (w.updateSession k f).created = w.created := rfl
@[simp] theorem context_updateSession (k : BeaconKey) (f : Session → Session) :
    (w.updateSession k f).context = w.context := rfl
@[simp] theorem log_updateSession (k : BeaconKey) (f : Session → Session) :
    (w.updateSession k f).log = w.log := rfl

theorem session_updateSession (k k' : BeaconKey) (f : Session → Session) :
    (w.updateSession k f).session k' = if k' = k then f (w.session k') else w.session k' := by
  by_cases h : k' = k
  · subst h
    simp [session, updateSession]
  · simp [session, updateSession, h]

end Fields

end World

/-- A step of an application thread. Data may be added to a session where `mayAdd` allows it. -/
inductive AppStep (mayAdd : World → BeaconKey → UTF8String → Prop) : World → World → Prop
  | add (w : World) (k : BeaconKey) (kind : RecordKind) (timestamp : ℤ) (data : UTF8String)
      (h : mayAdd w k data) : AppStep mayAdd w (w.addData k kind timestamp data)
  | touch (w : World) (k : BeaconKey) (session : Session) (h : (w.session k).SameState session) :
      AppStep mayAdd w (w.updateSession k fun _ => session)
  | finish (w : World) (k : BeaconKey) : AppStep mayAdd w (w.updateSession k (·.markAsFinished))
  | create (w : World) (k : BeaconKey) (session : Session) (hnew : k ∉ w.created)
      (hopen : session.isFinishingOrFinished = false) :
      AppStep mayAdd w
        { w.updateSession k fun _ => session with
          created := w.created ++ [k]
          context := w.context.addSession k }
  | requestShutdown (w : World) :
      AppStep mayAdd w (w.setContext { w.context with shutdown := true })
  | tick (w : World) (currentTime : ℤ) (h : w.currentTime ≤ currentTime) :
      AppStep mayAdd w { w with currentTime := currentTime }

/-! ## What the log says -/

/-- The records added to a beacon, in order. -/
def added (k : BeaconKey) (kind : RecordKind) : List Event → List BeaconCacheRecord :=
  List.filterMap fun
    | .added k' kind' record => if k' = k ∧ kind' = kind then some record else none
    | _ => none

/-- The records in the acknowledged chunks of a beacon, in order. -/
def acknowledged (k : BeaconKey) (kind : RecordKind) : List Event → List BeaconCacheRecord :=
  List.flatMap fun
    | .acknowledged chunk => if chunk.key = k then chunk.records kind else []
    | _ => []

/-- The chunks requested, with their answers, in order. -/
def requests : List Event → List (BeaconChunk × Option Answer) :=
  List.filterMap fun
    | .requested _ chunk answer => some (chunk, answer)
    | _ => none

/-- What was said about the states of the sender, in order. -/
def stateEvents : List Event → List StateEvent :=
  List.filterMap fun
    | .state event => some event
    | _ => none

/-- The beacons whose data was cleared, in order. -/
def cleared : List Event → List BeaconKey :=
  List.filterMap fun
    | .cleared _ k => some k
    | _ => none

@[simp] theorem cleared_append (l l' : List Event) :
    cleared (l ++ l') = cleared l ++ cleared l' := List.filterMap_append

@[simp] theorem stateEvents_append (l l' : List Event) :
    stateEvents (l ++ l') = stateEvents l ++ stateEvents l' := List.filterMap_append

@[simp] theorem requests_append (l l' : List Event) :
    requests (l ++ l') = requests l ++ requests l' := List.filterMap_append

@[simp] theorem added_append (k : BeaconKey) (kind : RecordKind) (l l' : List Event) :
    added k kind (l ++ l') = added k kind l ++ added k kind l' := List.filterMap_append

@[simp] theorem acknowledged_append (k : BeaconKey) (kind : RecordKind) (l l' : List Event) :
    acknowledged k kind (l ++ l') = acknowledged k kind l ++ acknowledged k kind l' :=
  List.flatMap_append

/-! ## Programs of the sending thread -/

/-- A bounded loop of the sender ran out of its rounds. -/
inductive SendFault
  | outOfRounds
deriving DecidableEq, Repr

/-- Programs of the sending thread. -/
abbrev Sender (α : Type) : Type := Program SendFault World α

end OpenKit
