import OpenKit.Communication.BeaconSend

/-!
# The capturing state of the sender

A cycle of `BeaconSendingCaptureOnState` requests the configuration of the sessions that have
none, then sends the finished sessions and removes them, then sends the open ones, if the send
interval has passed. It ends with handing one of the answers received to the context, which may
turn capturing off and clear the data of all sessions.

The three loops go over snapshots of the sessions, taken before they start. Where the source does
something that matters but leaves no trace, it is written to the log: the answer each send
returned, the sessions removed and those cleared, and the answer handed to the context.

## Main definitions

* `BeaconSendingContext.handleStatusResponse`, `disableCaptureAndClear`, `clearAllSessionData`: the
  functions of the context that touch sessions
* `CaptureOnState.sendNewSessionRequests`, `sendFinishedSessions`, `sendOpenSessions`: the loops
* `CaptureOnState.doExecute`: a cycle
* `CaptureOnState.cycles`: some cycles, one after the other
-/

namespace OpenKit

open Thread

/-- Clears the captured data of a session, in some loop of the sender. -/
def clearCapturedData (phase : Phase) (k : BeaconKey) : Sender Unit :=
  .write fun w => (w.setCache (w.cache.deleteCacheEntry k)).write (.cleared phase k)

/-- The sessions of a list that meet a condition, each of which is read in turn. -/
def filterSessions (p : Session → Bool) : List BeaconKey → Sender (List BeaconKey)
  | [] => return []
  | k :: ks => do
    let selected ← .read fun w => p (w.session k)
    let rest ← filterSessions p ks
    return if selected then k :: rest else rest

/-- The sessions of the context that meet a condition. -/
def selectSessions (p : Session → Bool) : Sender (List BeaconKey) := do
  let sessions ← .read fun w => w.context.sessions
  filterSessions p sessions

namespace BeaconSendingContext

def getAllNotConfiguredSessions : Sender (List BeaconKey) := selectSessions (!·.isConfigured)

def getAllFinishedAndConfiguredSessions : Sender (List BeaconKey) :=
  selectSessions (·.isConfiguredAndFinished)

def getAllOpenAndConfiguredSessions : Sender (List BeaconKey) :=
  selectSessions (·.isConfiguredAndOpen)

/-- A round of `clearAllSessionData`. -/
def clearSessionData (k : BeaconKey) (_ : Unit) : Sender (ForInStep Unit) := do
  clearCapturedData .handling k
  if ← .read fun w => (w.session k).isSessionFinished then
    Program.write fun w => w.setContext (w.context.removeSession k)
    return .yield ()
  else
    return .yield ()

/-- Clears the data of all sessions and removes the finished ones. -/
def clearAllSessionData : Sender (ForInStep Unit) := do
  let sessions ← .read fun w => w.context.sessions
  Program.forEach clearSessionData sessions ()

/-- Turns capturing off in the configuration of the context, and then clears. -/
def disableCaptureAndClear : Sender (ForInStep Unit) := do
  Program.write fun w => w.setContext w.context.disableCapture
  clearAllSessionData

/-- Handles the answer that a cycle ends with. -/
def handleStatusResponse (response : Option Answer) : Sender (ForInStep Unit) := do
  if !BeaconSendingResponseUtil.isSuccessfulResponse response then
    disableCaptureAndClear
  else
    Program.write fun w => w.setContext (w.context.updateFrom response).2
    if !(← .read fun w => w.context.isCaptureOn) then
      clearAllSessionData
    else
      return .yield ()

end BeaconSendingContext

/-- The delay that an answer asks for. -/
def retryAfterInMilliseconds : Option Answer → ℤ
  | none => 0
  | some answer => answer.response.retryAfterInMilliseconds

namespace CaptureOnState

open BeaconSendingResponseUtil

section Loops

variable (env : Environment) (rounds : ℕ)

/-- The request for a new session, and its answer. -/
def sendNewSessionRequest : Sender (Option Answer) :=
  .atomic fun w =>
    let answer := (env.response w.numRequests).map (Answer.mk w.numRequests)
    (answer, { w with numRequests := w.numRequests + 1 }.write (.newSessionRequested answer))

/-- A round of `sendNewSessionRequests`. -/
def requestNewSession (k : BeaconKey) (statusResponse : Option Answer) :
    Sender (ForInStep (Option Answer)) := do
  if !(← .read fun w => (w.session k).canSendNewSessionRequest) then
    Program.write fun w => w.updateSession k (·.disableCapture)
    return .yield statusResponse
  let statusResponse ← sendNewSessionRequest env
  if isSuccessfulResponse statusResponse then
    let updatedAttributes ← Program.atomic fun w =>
      ((w.context.updateFrom statusResponse).1,
        w.setContext (w.context.updateFrom statusResponse).2)
    Program.write fun w =>
      w.updateSession k (·.updateServerConfiguration (.ofAttributes updatedAttributes))
    return .yield statusResponse
  else if isTooManyRequestsResponse statusResponse then
    return .done statusResponse
  else
    Program.write fun w => w.updateSession k (·.decreaseNumRemainingSessionRequests)
    return .yield statusResponse

def sendNewSessionRequests : Sender (Option Answer) := do
  Program.write (·.enter .newSessions)
  let sessions ← BeaconSendingContext.getAllNotConfiguredSessions
  let outcome ← Program.forEach (requestNewSession env) sessions none
  return Program.loopValue outcome

/-- `Session::sendBeacon`. -/
def sendBeacon (k : BeaconKey) : Sender (Option Answer) := do
  let answer ← BeaconSend.send env rounds k
  Program.write fun w => w.write (.sent w.phase k answer)
  return answer

/-- Removes a session from the context, and clears its data. -/
def removeSession (k : BeaconKey) (dataSendingAllowed : Bool) : Sender Unit := do
  Program.write fun w =>
    (w.setContext (w.context.removeSession k)).write (.removed k dataSendingAllowed)
  clearCapturedData .finishedSessions k

/-- A round of `sendFinishedSessions`. -/
def sendFinishedSession (k : BeaconKey) (statusResponse : Option Answer) :
    Sender (ForInStep (Option Answer)) := do
  if ← .read fun w => (w.session k).isDataSendingAllowed then
    let statusResponse ← sendBeacon env rounds k
    if isSuccessfulResponse statusResponse then
      removeSession k true
      return .yield statusResponse
    else if isTooManyRequestsResponse statusResponse then
      return .done statusResponse
    else if !(← .read fun w => w.cache.isEmpty k) then
      return .done statusResponse
    else
      removeSession k true
      return .yield statusResponse
  else
    removeSession k false
    return .yield statusResponse

def sendFinishedSessions : Sender (Option Answer) := do
  Program.write (·.enter .finishedSessions)
  let sessions ← BeaconSendingContext.getAllFinishedAndConfiguredSessions
  let outcome ← Program.forEach (sendFinishedSession env rounds) sessions none
  return Program.loopValue outcome

/-- A round of `sendOpenSessions`. -/
def sendOpenSession (k : BeaconKey) (statusResponse : Option Answer) :
    Sender (ForInStep (Option Answer)) := do
  if ← .read fun w => (w.session k).isDataSendingAllowed then
    let statusResponse ← sendBeacon env rounds k
    if isTooManyRequestsResponse statusResponse then
      return .done statusResponse
    else
      return .yield statusResponse
  else
    clearCapturedData .openSessions k
    return .yield statusResponse

def sendOpenSessions : Sender (Option Answer) := do
  Program.write (·.enter .openSessions)
  let currentTimestamp ← Program.read fun w => w.currentTime
  let lastSendTime ← Program.read fun w => w.context.lastOpenSessionBeaconSendTime
  let sendInterval ← Program.read fun w => w.context.getSendInterval
  if currentTimestamp ≤ lastSendTime + sendInterval then
    return none
  let sessions ← BeaconSendingContext.getAllOpenAndConfiguredSessions
  let outcome ← Program.forEach (sendOpenSession env rounds) sessions none
  Program.write fun w => w.setContext (w.context.setLastOpenSessionBeaconSendTime currentTimestamp)
  return Program.loopValue outcome

/-- The answer that is handled at the end of a cycle. -/
def lastStatusResponse (newSessionsResponse finishedSessionsResponse openSessionsResponse :
    Option Answer) : Option Answer :=
  if openSessionsResponse.isSome then openSessionsResponse
  else if finishedSessionsResponse.isSome then finishedSessionsResponse
  else newSessionsResponse

/-- Handles the last answer, if there is one. -/
def handleStatusResponse : Option Answer → Sender Unit
  | none => return ()
  | some answer => do
    Program.write fun w => (w.enter .handling).write (.handled answer)
    let _ ← BeaconSendingContext.handleStatusResponse (some answer)
    if !(← .read fun w => w.context.isCaptureOn) then
      Program.write fun w => w.setContext (w.context.setNextState (.captureOff (-1)))
    else
      return ()

/-- The server asks for a pause. -/
def switchToCaptureOff (response : Option Answer) : Sender Unit :=
  .write fun w =>
    w.setContext (w.context.setNextState (.captureOff (retryAfterInMilliseconds response)))

/-- A cycle, after the sleep it starts with. -/
def doExecute : Sender Unit := do
  if ← .read fun w => w.context.isShutdownRequested then
    return ()
  let newSessionsResponse ← sendNewSessionRequests env
  if isTooManyRequestsResponse newSessionsResponse then
    switchToCaptureOff newSessionsResponse
  else
    let finishedSessionsResponse ← sendFinishedSessions env rounds
    if isTooManyRequestsResponse finishedSessionsResponse then
      switchToCaptureOff finishedSessionsResponse
    else
      let openSessionsResponse ← sendOpenSessions env rounds
      if isTooManyRequestsResponse openSessionsResponse then
        switchToCaptureOff openSessionsResponse
      else
        handleStatusResponse
          (lastStatusResponse newSessionsResponse finishedSessionsResponse openSessionsResponse)

/-- `executeCurrentState` in this state: a cycle, and the change of state if shutdown was
requested. -/
def execute : Sender Unit := do
  Program.write fun w => w.setContext { w.context with nextState := none }
  doExecute env rounds
  if ← .read fun w => w.context.isShutdownRequested then
    Program.write fun w => w.setContext (w.context.setNextState .flushSessions)
  else
    return ()

/-- Some cycles, one after the other. -/
def cycles : ℕ → Sender Unit
  | 0 => return ()
  | n + 1 => do
    execute env rounds
    cycles n

end Loops

end CaptureOnState

end OpenKit
