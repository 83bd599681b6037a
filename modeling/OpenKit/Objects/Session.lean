import OpenKit.Objects.OpenKitObject
import OpenKit.Protocol.Beacon

/-!
# Sessions

A session is open, then finishing, then finished, and may have been tried for ending before. Its
beacon keeps the configuration that decides what is captured and sent.

## Main definitions

* `Session`: a session with its beacon and its open actions and web requests
* `Session.isDataSendingAllowed`, `isConfiguredAndFinished`, `isConfiguredAndOpen`: what the sender
  asks about a session
-/

namespace OpenKit

/-- A session. -/
structure Session where
  beacon : Beacon
  numRemainingNewSessionRequests : ℤ
  isSessionFinishing : Bool
  isSessionFinished : Bool
  wasTriedForEnding : Bool
  children : List OpenKitObject

namespace Session

def maxNewSessionRequests : ℤ := 4

/-- The constructor. -/
def new (beacon : Beacon) : Session := ⟨beacon, maxNewSessionRequests, false, false, false, []⟩

def isFinishingOrFinished (s : Session) : Bool := s.isSessionFinishing || s.isSessionFinished

def isConfigured (s : Session) : Bool := s.beacon.beaconConfiguration.isServerConfigurationSet

def isConfiguredAndFinished (s : Session) : Bool := s.isConfigured && s.isSessionFinished

def isConfiguredAndOpen (s : Session) : Bool := s.isConfigured && !s.isSessionFinished

def isDataSendingAllowed (s : Session) : Bool := s.isConfigured && s.beacon.isDataCapturingEnabled

def canSendNewSessionRequest (s : Session) : Bool := s.numRemainingNewSessionRequests > 0

def decreaseNumRemainingSessionRequests (s : Session) : Session :=
  { s with numRemainingNewSessionRequests := s.numRemainingNewSessionRequests - 1 }

/-- The session with a changed beacon configuration. -/
def configure (s : Session) (f : BeaconConfiguration → BeaconConfiguration) : Session :=
  { s with beacon := { s.beacon with beaconConfiguration := f s.beacon.beaconConfiguration } }

def updateServerConfiguration (s : Session) (config : ServerConfigurationRef) : Session :=
  s.configure fun c => (c.updateServerConfiguration (some config)).1

def enableCapture (s : Session) : Session := s.configure (·.enableCapture)

def disableCapture (s : Session) : Session := s.configure (·.disableCapture)

/-- The session at the end of `end()`. -/
def markAsFinished (s : Session) : Session :=
  { s with isSessionFinishing := true, isSessionFinished := true }

/-- Two states of a session that differ in the numbers drawn, the children and the attempts to end
it at most. -/
structure SameState (s s' : Session) : Prop where
  beacon : s.beacon.SameButNumbers s'.beacon
  numRemainingNewSessionRequests :
    s'.numRemainingNewSessionRequests = s.numRemainingNewSessionRequests
  isSessionFinishing : s'.isSessionFinishing = s.isSessionFinishing
  isSessionFinished : s'.isSessionFinished = s.isSessionFinished

@[simp] theorem configure_isSessionFinished (s : Session)
    (f : BeaconConfiguration → BeaconConfiguration) :
    (s.configure f).isSessionFinished = s.isSessionFinished := rfl

@[simp] theorem configure_isSessionFinishing (s : Session)
    (f : BeaconConfiguration → BeaconConfiguration) :
    (s.configure f).isSessionFinishing = s.isSessionFinishing := rfl

end Session

end OpenKit
