import OpenKit.Caching.BeaconCacheEntry
import OpenKit.Configuration.BeaconConfiguration

/-!
# Beacons

A beacon belongs to one session. It holds the configuration that decides what is captured, draws the
ids and sequence numbers of what is reported, and hands records to the cache.

## Main definitions

* `Beacon`: what the sender and the reporting functions read of a beacon
* `Beacon.isDataCapturingEnabled`, `isErrorCapturingEnabled`, `isCrashCapturingEnabled`
* `BeaconRecord`: a record as it is handed to the cache
-/

namespace OpenKit

/-- A beacon. Its key identifies it, and is kept outside. -/
structure Beacon where
  beaconConfiguration : BeaconConfiguration
  trafficControlValue : ℤ
  /-- The last sequence number drawn. -/
  sequenceNumber : ℤ
  /-- The last id drawn. -/
  lastID : ℤ
  sessionStartTime : ℤ
  immutableBasicBeaconData : UTF8String
  clientIPAddress : UTF8String := .nil
deriving DecidableEq, Repr

/-- A record for the cache. -/
structure BeaconRecord where
  kind : RecordKind
  timestamp : ℤ
  data : UTF8String
deriving DecidableEq, Repr

namespace Beacon

/-- A beacon that has drawn no number, without an address. -/
def new (beaconConfiguration : BeaconConfiguration) (trafficControlValue sessionStartTime : ℤ)
    (immutableBasicBeaconData : UTF8String) : Beacon where
  beaconConfiguration := beaconConfiguration
  trafficControlValue := trafficControlValue
  sequenceNumber := 0
  lastID := 0
  sessionStartTime := sessionStartTime
  immutableBasicBeaconData := immutableBasicBeaconData

def privacyConfiguration (b : Beacon) : PrivacyConfiguration :=
  b.beaconConfiguration.privacyConfiguration

def isDataCapturingEnabled (b : Beacon) : Bool :=
  let serverConfiguration := b.beaconConfiguration.getServerConfiguration
  serverConfiguration.isSendingDataAllowed &&
    b.trafficControlValue < serverConfiguration.trafficControlPercentage

def isErrorCapturingEnabled (b : Beacon) : Bool :=
  let serverConfiguration := b.beaconConfiguration.getServerConfiguration
  serverConfiguration.isSendingErrorsAllowed &&
    b.trafficControlValue < serverConfiguration.trafficControlPercentage

def isCrashCapturingEnabled (b : Beacon) : Bool :=
  let serverConfiguration := b.beaconConfiguration.getServerConfiguration
  serverConfiguration.isSendingCrashesAllowed &&
    b.trafficControlValue < serverConfiguration.trafficControlPercentage

def getTimeSinceSessionStartTime (b : Beacon) (timestamp : ℤ) : ℤ := timestamp - b.sessionStartTime

/-- Two states of a beacon that differ in the numbers drawn at most. -/
structure SameButNumbers (b b' : Beacon) : Prop where
  beaconConfiguration : b'.beaconConfiguration = b.beaconConfiguration
  trafficControlValue : b'.trafficControlValue = b.trafficControlValue
  sessionStartTime : b'.sessionStartTime = b.sessionStartTime
  immutableBasicBeaconData : b'.immutableBasicBeaconData = b.immutableBasicBeaconData
  clientIPAddress : b'.clientIPAddress = b.clientIPAddress

namespace SameButNumbers

variable {b b' b'' : Beacon}

theorem refl (b : Beacon) : SameButNumbers b b := ⟨rfl, rfl, rfl, rfl, rfl⟩

theorem trans (h : SameButNumbers b b') (h' : SameButNumbers b' b'') : SameButNumbers b b'' :=
  ⟨h'.beaconConfiguration.trans h.beaconConfiguration,
    h'.trafficControlValue.trans h.trafficControlValue,
    h'.sessionStartTime.trans h.sessionStartTime,
    h'.immutableBasicBeaconData.trans h.immutableBasicBeaconData,
    h'.clientIPAddress.trans h.clientIPAddress⟩

/-- Numbers drawn do not decide about capturing. -/
theorem isDataCapturingEnabled (h : SameButNumbers b b') :
    b'.isDataCapturingEnabled = b.isDataCapturingEnabled := by
  rw [Beacon.isDataCapturingEnabled, Beacon.isDataCapturingEnabled, h.beaconConfiguration,
    h.trafficControlValue]

end SameButNumbers

end Beacon

end OpenKit
