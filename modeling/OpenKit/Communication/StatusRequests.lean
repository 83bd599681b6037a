import OpenKit.Communication.CaptureOnState

/-!
# The states that request the status

The initial state and the capture-off state ask the server for its status, the first until it gets a
successful answer, the second again and again until capturing is turned on. Between two requests they
sleep. A sleep lasts at least its time, unless shutdown is requested.

What the two states check and when is written to the log.

## Main definitions

* `sleep`: a sleep of the sender
* `sendStatusRequest`: a status request with its retries
* `InitialState.executeStatusRequest`, `InitialState.doExecute`
* `CaptureOffState.sleepDelay`, `CaptureOffState.doExecute`
-/

namespace OpenKit

open Thread BeaconSendingResponseUtil

/-- Sleeps for some time. The request of a shutdown ends this sleep and all later ones. -/
def sleep (millis : ℤ) : Sender Unit :=
  .write fun w =>
    if w.context.isShutdownRequested then w
    else { w with currentTime := w.currentTime + max millis 0 }

/-- Writes an entry about the states to the log. -/
def writeStateEvent (event : StateEvent) : Sender Unit := .write fun w => w.write (.state event)

section Requests

variable (env : Environment)

/-- One status request, and its answer. -/
def requestStatus : Sender (Option Answer) :=
  .atomic fun w =>
    ((env.response w.numRequests).map (Answer.mk w.numRequests),
      { w with numRequests := w.numRequests + 1 })

/-- The loop of `sendStatusRequest`, with the retries that are left and the next time to sleep. -/
def sendStatusRequestLoop : ℕ → ℤ → Option Answer → Sender (Option Answer)
  | numRetries, sleepTimeInMillis, statusResponse => do
    if ← .read fun w => w.context.isShutdownRequested then
      return statusResponse
    let statusResponse ← requestStatus env
    if isSuccessfulResponse statusResponse || isTooManyRequestsResponse statusResponse then
      return statusResponse
    match numRetries with
    | 0 => return statusResponse
    | numRetries + 1 =>
      sleep sleepTimeInMillis
      sendStatusRequestLoop numRetries (2 * sleepTimeInMillis) statusResponse

/-- A status request, which is retried after delays that double. -/
def sendStatusRequest (numRetries : ℕ) (initialRetryDelayInMillis : ℤ) : Sender (Option Answer) :=
  sendStatusRequestLoop env numRetries initialRetryDelayInMillis none

end Requests

/-! ## The initial state -/

namespace InitialState

def maxInitialStatusRequestRetries : ℕ := 5

def initialRetrySleepTimeMilliseconds : ℤ := 1000

/-- The delays between two status requests: one, five and 15 minutes, one hour and two. -/
def reinitDelayMilliseconds : Array ℤ :=
  #[60 * 1000, 5 * 60 * 1000, 15 * 60 * 1000, 60 * 60 * 1000, 2 * 60 * 60 * 1000]

/-- The index of the next delay, which the state keeps. -/
def reinitializeDelayIndex (c : BeaconSendingContext) : ℕ :=
  match c.currentState with
  | .init index => index
  | _ => 0

/-- The context with the next index. -/
def nextDelay (c : BeaconSendingContext) : BeaconSendingContext :=
  { c with
    currentState :=
      .init (min (reinitializeDelayIndex c + 1) (reinitDelayMilliseconds.size - 1)) }

section Execute

variable (env : Environment) (rounds : ℕ)

/-- The delay after an answer that was not successful. -/
def reinitDelay (statusResponse : Option Answer) : Sender ℤ := do
  let delay ← Program.read fun w =>
    reinitDelayMilliseconds.getD (reinitializeDelayIndex w.context) 0
  if isTooManyRequestsResponse statusResponse then
    let _ ← BeaconSendingContext.disableCaptureAndClear
    return retryAfterInMilliseconds statusResponse
  else
    return delay

/-- A round of `executeStatusRequest`. -/
def requestInitialStatus (statusResponse : Option Answer) :
    Sender (ForInStep (Option Answer)) := do
  if ← .read fun w => w.context.isShutdownRequested then
    return .done statusResponse
  let currentTimestamp ← Program.read fun w => w.currentTime
  Program.write fun w => w.setContext (w.context.setLastOpenSessionBeaconSendTime currentTimestamp)
  Program.write fun w => w.setContext (w.context.setLastStatusCheckTime currentTimestamp)
  let statusResponse ←
    sendStatusRequest env maxInitialStatusRequestRetries initialRetrySleepTimeMilliseconds
  if isSuccessfulResponse statusResponse then
    return .done statusResponse
  let sleepTime ← reinitDelay statusResponse
  sleep sleepTime
  Program.write fun w => w.setContext (nextDelay w.context)
  return .yield statusResponse

/-- Requests the status until it gets a successful answer, or shutdown is requested. -/
def executeStatusRequest : Sender (Option Answer) :=
  Program.loop .outOfRounds (requestInitialStatus env) rounds none

/-- Goes on with capturing on or off. -/
def leave (statusResponse : Option Answer) : Sender Unit := do
  let _ ← BeaconSendingContext.handleStatusResponse statusResponse
  if ← .read fun w => w.context.isCaptureOn then
    Program.write fun w => w.setContext (w.context.setNextState .captureOn)
  else
    Program.write fun w => w.setContext (w.context.setNextState (.captureOff (-1)))

def setInitCompleted (success : Bool) : Sender Unit :=
  .write fun w =>
    (w.setContext (w.context.setInitCompleted success)).write (.state (.initCompleted success))

def doExecute : Sender Unit := do
  let statusResponse ← executeStatusRequest env rounds
  let shutdownRequested ← Program.atomic fun w =>
    (w.context.isShutdownRequested,
      w.write (.state (.initChecked statusResponse w.context.isShutdownRequested)))
  if shutdownRequested then
    setInitCompleted false
  else if isSuccessfulResponse statusResponse then
    leave statusResponse
    setInitCompleted true
  else
    return ()

end Execute

end InitialState

/-! ## The capture-off state -/

namespace CaptureOffState

def statusRequestRetries : ℕ := 5

/-- Two hours. -/
def statusCheckIntervalMilliseconds : ℤ := 2 * 60 * 60 * 1000

def initialRetrySleepTimeMilliseconds : ℤ := 1000

/-- The time to sleep before the status is requested. -/
def sleepDelay (sleepTimeInMilliseconds currentTime lastStatusCheckTime : ℤ) : ℤ :=
  if sleepTimeInMilliseconds > 0 then sleepTimeInMilliseconds
  else statusCheckIntervalMilliseconds - (currentTime - lastStatusCheckTime)

section Execute

variable (env : Environment)

/-- Turns capturing off again, goes on sleeping, or turns it on. -/
def handleStatusResponse (statusResponse : Option Answer) : Sender Unit := do
  if statusResponse.isSome then
    let _ ← BeaconSendingContext.handleStatusResponse statusResponse
  if isTooManyRequestsResponse statusResponse then
    Program.write fun w =>
      w.setContext (w.context.setNextState (.captureOff (retryAfterInMilliseconds statusResponse)))
  else if isSuccessfulResponse statusResponse && (← .read fun w => w.context.isCaptureOn) then
    Program.write fun w => w.setContext (w.context.setNextState .captureOn)
  else
    return ()

/-- A status check: the request and what follows it. -/
def checkStatus (sleepTimeInMilliseconds currentTime : ℤ) : Sender Unit := do
  let requestTime ← Program.read fun w => w.currentTime
  let statusResponse ←
    sendStatusRequest env statusRequestRetries initialRetrySleepTimeMilliseconds
  writeStateEvent
    (.statusChecked ⟨sleepTimeInMilliseconds, currentTime, requestTime, statusResponse⟩)
  handleStatusResponse statusResponse
  Program.write fun w => w.setContext (w.context.setLastStatusCheckTime currentTime)

def doExecute (sleepTimeInMilliseconds : ℤ) : Sender Unit := do
  let _ ← BeaconSendingContext.disableCaptureAndClear
  let currentTime ← Program.read fun w => w.currentTime
  let lastStatusCheckTime ← Program.read fun w => w.context.lastStatusCheckTime
  let delta := sleepDelay sleepTimeInMilliseconds currentTime lastStatusCheckTime
  if delta > 0 && !(← .read fun w => w.context.isShutdownRequested) then
    sleep delta
    if ← .read fun w => w.context.isShutdownRequested then
      return ()
    checkStatus env sleepTimeInMilliseconds currentTime
  else
    checkStatus env sleepTimeInMilliseconds currentTime

end Execute

end CaptureOffState

end OpenKit
