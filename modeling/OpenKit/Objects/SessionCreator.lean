import OpenKit.Communication.BeaconSendingContext
import OpenKit.Objects.Session
import OpenKit.Protocol.EventData

/-!
# Session creators

Each session proxy has a creator. What it is built with stays the same for all sessions of the proxy:
the configurations, and the id of the server that the context knew then. The beacons created between
two resets share their id and their random numbers, and are told apart by a sequence number.

## Main definitions

* `OpenKitConfiguration`: what beacons read of the configuration of the instance
* `SessionIDProvider`: the provider of all creators of an instance
* `SessionObject`: a session with what its beacon was created with
* `SessionCreator.createSession`, `reset`
* `SessionObject.createTag`: the tag of a web request
-/

namespace OpenKit

/-- What beacons read of the configuration of the instance. -/
structure OpenKitConfiguration where
  applicationID : UTF8String
  deviceID : ℤ
deriving DecidableEq, Repr

/-- `DefaultSessionIDProvider`, by the number drawn last. -/
structure SessionIDProvider where
  lastSessionNumber : ℤ
deriving DecidableEq, Repr

/-- The next session id; the provider starts over after the largest. -/
def SessionIDProvider.getNextSessionID (provider : SessionIDProvider) : ℤ × SessionIDProvider :=
  let last := if provider.lastSessionNumber = 2 ^ 31 - 1 then 0 else provider.lastSessionNumber
  (last + 1, ⟨last + 1⟩)

/-- What a `FixedPRNGenerator` answers. -/
structure FixedPRNGenerator where
  randomPercentage : ℤ
  randomInt64Number : ℤ
deriving DecidableEq, Repr

/-- A reference to a session proxy. -/
abbrev ProxyRef := ℕ

/-- A reference to a session. -/
abbrev SessionRef := ℕ

/-- A session with its parent and with what its beacon was created with. -/
structure SessionObject where
  parent : ProxyRef
  session : Session
  beaconKey : BeaconKey
  sessionNumber : ℤ
  deviceID : ℤ
  openKitConfiguration : OpenKitConfiguration
  httpClientConfiguration : HTTPClientConfiguration
  splitByEventsGracePeriodEndTimeInMillis : ℤ

namespace SessionObject

def beaconConfiguration (o : SessionObject) : BeaconConfiguration :=
  o.session.beacon.beaconConfiguration

/-- `PROTOCOL_VERSION`. -/
def protocolVersion : ℤ := 3

/-- The beginning of a tag, up to the id of the server. -/
def tagPrefix (serverId : ℤ) : UTF8String :=
  ((((UTF8String.ofAscii ['M', 'T']).concatenate (.ofAscii ['_'])).concatenate
    (EventData.toInvariantString protocolVersion)).concatenate (.ofAscii ['_'])).concatenate
      (EventData.toInvariantString serverId)

/-- Appends a part of a tag. -/
def appendTagPart (tag part : UTF8String) : UTF8String :=
  (tag.concatenate (.ofAscii ['_'])).concatenate part

/-- `createTag`: the tag of a web request, which is empty without the consent of the user. -/
def createTag (o : SessionObject) (threadID parentActionID sequenceNumber : ℤ) : UTF8String :=
  if !o.beaconConfiguration.privacyConfiguration.isWebRequestTracingAllowed then .nil
  else
    let serverConfiguration := o.beaconConfiguration.getServerConfiguration
    let tag := appendTagPart (tagPrefix serverConfiguration.serverId)
      (EventData.toInvariantString o.deviceID)
    let tag := appendTagPart tag (EventData.toInvariantString o.sessionNumber)
    let tag :=
      if serverConfiguration.visitStoreVersion > 1 then
        (tag.concatenate (.ofAscii ['-'])).concatenate
          (EventData.toInvariantString o.beaconKey.beaconSequenceNumber)
      else tag
    let tag := appendTagPart tag (EventData.urlencode o.openKitConfiguration.applicationID [95])
    let tag := appendTagPart tag (EventData.toInvariantString parentActionID)
    let tag := appendTagPart tag (EventData.toInvariantString threadID)
    appendTagPart tag (EventData.toInvariantString sequenceNumber)

/-- The session with a changed state. -/
def setSession (o : SessionObject) (session : Session) : SessionObject :=
  { o with session := session }

@[simp] theorem setSession_parent (o : SessionObject) (session : Session) :
    (o.setSession session).parent = o.parent := rfl

@[simp] theorem setSession_httpClientConfiguration (o : SessionObject) (session : Session) :
    (o.setSession session).httpClientConfiguration = o.httpClientConfiguration := rfl

end SessionObject

/-- A session creator. -/
structure SessionCreator where
  openKitConfiguration : OpenKitConfiguration
  privacyConfiguration : PrivacyConfiguration
  serverId : ℤ
  /-- What the `FixedSessionIDProvider` answers. -/
  sessionId : ℤ
  randomNumberGenerator : FixedPRNGenerator
  sessionSequenceNumber : ℤ
deriving DecidableEq, Repr

namespace SessionCreator

/-- The constructor, with the session id and the random numbers that it draws. -/
def new (openKitConfiguration : OpenKitConfiguration) (privacyConfiguration : PrivacyConfiguration)
    (serverId sessionId : ℤ) (randomNumberGenerator : FixedPRNGenerator) : SessionCreator where
  openKitConfiguration := openKitConfiguration
  privacyConfiguration := privacyConfiguration
  serverId := serverId
  sessionId := sessionId
  randomNumberGenerator := randomNumberGenerator
  sessionSequenceNumber := 0

/-- The next session, with the beacon that its constructor makes. -/
def createSession (c : SessionCreator) (parent : ProxyRef) (sessionStartTime : ℤ)
    (immutableBasicBeaconData : UTF8String) : SessionObject where
  parent := parent
  session := .new (.new (.new c.privacyConfiguration) c.randomNumberGenerator.randomPercentage
    sessionStartTime immutableBasicBeaconData)
  beaconKey := ⟨c.sessionId, c.sessionSequenceNumber⟩
  sessionNumber := if c.privacyConfiguration.isSessionNumberReportingAllowed then c.sessionId else 1
  deviceID :=
    if c.privacyConfiguration.isDeviceIdSendingAllowed then c.openKitConfiguration.deviceID
    else c.randomNumberGenerator.randomInt64Number
  openKitConfiguration := c.openKitConfiguration
  httpClientConfiguration := ⟨c.serverId, c.openKitConfiguration.applicationID⟩
  splitByEventsGracePeriodEndTimeInMillis := -1

/-- The creator after it has created a session. Its counter is an `int32_t`. -/
def advance (c : SessionCreator) : SessionCreator :=
  { c with sessionSequenceNumber := toInt32 (c.sessionSequenceNumber + 1) }

/-- Starts over, with the session id and the random numbers that it draws anew. -/
def reset (c : SessionCreator) (sessionId : ℤ) (randomNumberGenerator : FixedPRNGenerator) :
    SessionCreator :=
  { c with
    sessionSequenceNumber := 0
    sessionId := sessionId
    randomNumberGenerator := randomNumberGenerator }

end SessionCreator

end OpenKit
