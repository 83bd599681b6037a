import OpenKit.Configuration.ServerConfiguration
import OpenKit.Caching.BeaconCache
import OpenKit.Protocol.StatusResponse

/-!
# The context of the beacon sender

The context keeps the sessions that the sender works on and the last configuration of the server.
Its functions that touch no session are pure here; those that clear sessions are programs of the
sending thread, in the module of the sender's states.

## Main definitions

* `BeaconSendingState`: the states of the sender
* `BeaconSendingContext`: the context
* `BeaconSendingContext.updateFrom`: the context after a response, and the merged attributes
* `BeaconSendingContext.disableCapture`, `isCaptureOn`
-/

namespace OpenKit

/-- The types of the states of the sender. -/
inductive StateType
  | init
  | captureOn
  | captureOff
  | flushSessions
  | terminal
deriving DecidableEq, Repr

/-- The states of the sender. The initial state keeps the index of its next delay, and capturing off
may come with a time to sleep. -/
inductive BeaconSendingState
  | init (reinitializeDelayIndex : ℕ)
  | captureOn
  | captureOff (sleepTimeInMilliseconds : ℤ)
  | flushSessions
  | terminal
deriving DecidableEq, Repr

namespace BeaconSendingState

def getStateType : BeaconSendingState → StateType
  | init _ => .init
  | captureOn => .captureOn
  | captureOff _ => .captureOff
  | flushSessions => .flushSessions
  | terminal => .terminal

/-- The state to go to when shutdown was requested. -/
def getShutdownState : BeaconSendingState → BeaconSendingState
  | init _ => terminal
  | captureOn => flushSessions
  | captureOff _ => flushSessions
  | flushSessions => terminal
  | terminal => terminal

end BeaconSendingState

/-- What the context reads of its HTTP client configuration. -/
structure HTTPClientConfiguration where
  serverID : ℤ
  applicationID : UTF8String
deriving DecidableEq, Repr

/-- The context: sessions are given by their keys. -/
structure BeaconSendingContext where
  currentState : BeaconSendingState
  initSucceeded : Bool
  initCountdownLatch : UInt32
  lastStatusCheckTime : ℤ
  sessions : List BeaconKey
  serverConfiguration : ServerConfigurationRef
  lastResponseAttributes : ResponseAttributes
  httpClientConfiguration : HTTPClientConfiguration
  lastOpenSessionBeaconSendTime : ℤ
  shutdown : Bool
  nextState : Option BeaconSendingState

namespace BeaconSendingContext

/-- The constructor. -/
def new (httpClientConfiguration : HTTPClientConfiguration) : BeaconSendingContext where
  currentState := .init 0
  initSucceeded := false
  initCountdownLatch := 1
  lastStatusCheckTime := 0
  sessions := []
  serverConfiguration := .defaultInstance
  lastResponseAttributes := .undefined
  httpClientConfiguration := httpClientConfiguration
  lastOpenSessionBeaconSendTime := 0
  shutdown := false
  nextState := none

def isCaptureOn (c : BeaconSendingContext) : Bool := c.serverConfiguration.get.isCaptureEnabled

def isShutdownRequested (c : BeaconSendingContext) : Bool := c.shutdown

def getSendInterval (c : BeaconSendingContext) : ℤ :=
  c.lastResponseAttributes.sendIntervalInMilliseconds

def setNextState (c : BeaconSendingContext) (nextState : BeaconSendingState) :
    BeaconSendingContext :=
  { c with nextState := some nextState }

/-- Sets the outcome of the initialisation, and wakes those who wait for it. -/
def setInitCompleted (c : BeaconSendingContext) (success : Bool) : BeaconSendingContext :=
  { c with initSucceeded := success, initCountdownLatch := c.initCountdownLatch - 1 }

def isInTerminalState (c : BeaconSendingContext) : Bool :=
  c.currentState.getStateType == .terminal

def requestShutdown (c : BeaconSendingContext) : BeaconSendingContext := { c with shutdown := true }

def setLastStatusCheckTime (c : BeaconSendingContext) (lastStatusCheckTime : ℤ) :
    BeaconSendingContext :=
  { c with lastStatusCheckTime := lastStatusCheckTime }

def setLastOpenSessionBeaconSendTime (c : BeaconSendingContext) (timestamp : ℤ) :
    BeaconSendingContext :=
  { c with lastOpenSessionBeaconSendTime := timestamp }

/-- Removes the first occurrence of the session. -/
def removeSession (c : BeaconSendingContext) (k : BeaconKey) : BeaconSendingContext :=
  { c with sessions := c.sessions.erase k }

def addSession (c : BeaconSendingContext) (k : BeaconKey) : BeaconSendingContext :=
  { c with sessions := c.sessions ++ [k] }

def disableCapture (c : BeaconSendingContext) : BeaconSendingContext :=
  { c with
    serverConfiguration := .made (c.serverConfiguration.get.builder.withCapture false) }

/-- A response that names another application than the configured one. -/
def isApplicationIdMismatch (c : BeaconSendingContext) (attributes : ResponseAttributes) : Bool :=
  if attributes.isAttributeSet .applicationId then
    c.httpClientConfiguration.applicationID.data != attributes.applicationId.data
  else false

/-- Merges a successful response into the attributes, and makes the configuration anew. -/
def updateFrom (c : BeaconSendingContext) (statusResponse : Option Answer) :
    ResponseAttributes × BeaconSendingContext :=
  match statusResponse with
  | none => (c.lastResponseAttributes, c)
  | some answer =>
    if !BeaconSendingResponseUtil.isSuccessfulResponse (some answer) then
      (c.lastResponseAttributes, c)
    else
      let attributes := c.lastResponseAttributes.merge answer.response.responseAttributes
      let builder := ServerConfiguration.ofAttributes attributes
      let config :=
        if c.isApplicationIdMismatch attributes then builder.withCapture false else builder
      (attributes,
        { c with
          lastResponseAttributes := attributes
          serverConfiguration := .made config
          httpClientConfiguration :=
            { c.httpClientConfiguration with serverID := config.serverId } })

@[simp] theorem updateFrom_sessions (c : BeaconSendingContext) (statusResponse : Option Answer) :
    (c.updateFrom statusResponse).2.sessions = c.sessions := by
  cases statusResponse with
  | none => rfl
  | some answer =>
    rw [updateFrom]
    split <;> rfl

end BeaconSendingContext

end OpenKit
