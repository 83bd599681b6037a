import OpenKit.Communication.ApplicationCalls
import OpenKit.Communication.StatusRequests

/-!
# The states of the sender

Before the sender stops it flushes the sessions: it turns capturing on for those that are not
configured, ends the open ones, and sends and removes all of them. With that the states of the sender
are complete, and `executeCurrentState` executes one after the other. What was set to be the next
state gives way to the shutdown state when shutdown was requested.

## Main definitions

* `FlushSessionsState.doExecute`: the flush
* `BeaconSendingState.execute`: the execution of a state
* `executeCurrentState`, `executions`: the execution of the current state, and the change of it
-/

namespace OpenKit

open Thread

section Execute

variable (caller : Caller) (env : Environment) (rounds : ℕ)

namespace FlushSessionsState

/-- Turns capturing on for a session without a configuration. -/
def enableCapture (k : BeaconKey) (_ : Unit) : Sender (ForInStep Unit) := do
  Program.write fun w => w.updateSession k (·.enableCapture)
  return .yield ()

/-- Ends a session, without the event of the end. -/
def endOpenSession (k : BeaconKey) (_ : Unit) : Sender (ForInStep Unit) := do
  Program.write fun w => w.report k (SessionCalls.endWith caller false)
  return .yield ()

/-- Removes a session. -/
def removeFlushed (k : BeaconKey) : Sender Unit := do
  clearCapturedData .flushing k
  Program.write fun w => w.setContext (w.context.removeSession k)

/-- Sends the data of a session, unless the server has asked for a pause, and removes it. -/
def flushSession (k : BeaconKey) (tooManyRequestsReceived : Bool) : Sender (ForInStep Bool) := do
  if !tooManyRequestsReceived && (← .read fun w => (w.session k).isDataSendingAllowed) then
    let response ← CaptureOnState.sendBeacon env rounds k
    removeFlushed k
    return .yield (BeaconSendingResponseUtil.isTooManyRequestsResponse response)
  else
    removeFlushed k
    return .yield tooManyRequestsReceived

def doExecute : Sender Unit := do
  let newSessions ← BeaconSendingContext.getAllNotConfiguredSessions
  let _ ← Program.forEach enableCapture newSessions ()
  let openSessions ← BeaconSendingContext.getAllOpenAndConfiguredSessions
  let _ ← Program.forEach (endOpenSession caller) openSessions ()
  Program.write (·.enter .flushing)
  let finishedSessions ← BeaconSendingContext.getAllFinishedAndConfiguredSessions
  let _ ← Program.forEach (flushSession env rounds) finishedSessions false
  Program.write fun w => w.setContext (w.context.setNextState .terminal)

end FlushSessionsState

namespace BeaconSendingState

/-- The default time that the capture-on state sleeps. -/
def defaultSleepTimeMilliseconds : ℤ := 1000

def doExecute : BeaconSendingState → Sender Unit
  | init _ => InitialState.doExecute env rounds
  | captureOn => do
    sleep defaultSleepTimeMilliseconds
    CaptureOnState.doExecute env rounds
  | captureOff sleepTimeInMilliseconds => CaptureOffState.doExecute env sleepTimeInMilliseconds
  | flushSessions => FlushSessionsState.doExecute caller env rounds
  | terminal => .write fun w => w.setContext w.context.requestShutdown

/-- Executes a state; when shutdown was requested, its shutdown state is the next. -/
def execute (state : BeaconSendingState) : Sender Unit := do
  doExecute caller env rounds state
  if ← .read fun w => w.context.isShutdownRequested then
    Program.write fun w => w.setContext (w.context.setNextState state.getShutdownState)
  else
    return ()

end BeaconSendingState

/-- The change to the next state, if one was set. -/
def World.changeState (w : World) : World :=
  match w.context.nextState with
  | none => w
  | some nextState =>
    (w.setContext { w.context with currentState := nextState }).write
      (.state (.stateChanged w.context.currentState nextState))

/-- Executes the current state of the context. -/
def executeCurrentState : Sender Unit := do
  Program.write fun w => w.setContext { w.context with nextState := none }
  let currentState ← Program.read fun w => w.context.currentState
  currentState.execute caller env rounds
  Program.write World.changeState

/-- Some executions, one after the other. -/
def executions : ℕ → Sender Unit
  | 0 => return ()
  | n + 1 => do
    executeCurrentState caller env rounds
    executions n

end Execute

end OpenKit
