import OpenKit.Objects.SessionCreator
import OpenKit.Protocol.BeaconCalls

/-!
# The basic data of a beacon

Each chunk starts with the basic data of its beacon. One part is built when the beacon is constructed,
and stays the same; the other is built anew for each chunk, from the time, the configuration by the
server and the data that the application supplements.

## Main definitions

* `OpenKitDescription`, `BeaconInitializer`: what a beacon is constructed with
* `Beacon.construct`: the constructor of a beacon
* `createImmutableBeaconData`, `getMutableBeaconData`: the two parts

## Main results

* `builtOfPairs_createImmutableBeaconData`: the one is built of pairs
* `isAscii_getMutableBeaconData`: the other has ASCII characters only
-/

namespace OpenKit

/-- The number of a level. -/
def DataCollectionLevel.toInt : DataCollectionLevel → ℤ
  | off => 0
  | performance => 1
  | userBehavior => 2

/-- The number of a level. -/
def CrashReportingLevel.toInt : CrashReportingLevel → ℤ
  | off => 0
  | optOutCrashes => 1
  | optInCrashes => 2

/-- The configuration of the instance, with the data that goes into the basic data of its beacons. -/
structure OpenKitDescription extends OpenKitConfiguration where
  applicationVersion : UTF8String
  operatingSystem : UTF8String
  manufacturer : UTF8String
  modelID : UTF8String
deriving DecidableEq, Repr

/-- What a beacon is constructed with: the client address, and what the providers answer. -/
structure BeaconInitializer where
  useClientIPAddress : Bool
  clientIPAddress : UTF8String
  /-- The next session id. -/
  sessionID : ℤ
  sessionSequenceNumber : ℤ
  /-- The next percentage value. -/
  trafficControlValue : ℤ
  /-- The next positive random number. -/
  randomInt64Number : ℤ
  sessionStartTime : ℤ
deriving DecidableEq, Repr

inductive ConnectionType
  | mobile
  | wifi
  | offline
  | lan
  | unset
deriving DecidableEq, Repr

/-- `ConnectionTypeToString`. -/
def ConnectionType.toUTF8String : ConnectionType → UTF8String
  | mobile => .ofAscii ['m']
  | wifi => .ofAscii ['w']
  | offline => .ofAscii ['o']
  | lan => .ofAscii ['l']
  | unset => .nil

/-- What the application supplements. What was set and then reset is not available. -/
structure SupplementaryBasicData where
  carrier : UTF8String
  networkTechnology : UTF8String
  connectionType : ConnectionType
  isCarrierAvailable : Bool
  isNetworkTechnologyAvailable : Bool
  isConnectionTypeAvailable : Bool
deriving DecidableEq, Repr

namespace EventData

def keyProtocolVersion : UTF8String := .ofAscii ['v', 'v']

def keyOpenKitVersion : UTF8String := .ofAscii ['v', 'a']

def keyApplicationID : UTF8String := .ofAscii ['a', 'p']

def keyApplicationVersion : UTF8String := .ofAscii ['v', 'n']

def keyPlatformType : UTF8String := .ofAscii ['p', 't']

def keyAgentTechnologyType : UTF8String := .ofAscii ['t', 't']

def keyVisitorID : UTF8String := .ofAscii ['v', 'i']

def keySessionNumber : UTF8String := .ofAscii ['s', 'n']

def keySessionSequence : UTF8String := .ofAscii ['s', 's']

def keyClientIPAddress : UTF8String := .ofAscii ['i', 'p']

def keyMultiplicity : UTF8String := .ofAscii ['m', 'p']

def keyDataCollectionLevel : UTF8String := .ofAscii ['d', 'l']

def keyCrashReportingLevel : UTF8String := .ofAscii ['c', 'l']

def keyVisitStoreVersion : UTF8String := .ofAscii ['v', 's']

def keyDeviceOS : UTF8String := .ofAscii ['o', 's']

def keyDeviceManufacturer : UTF8String := .ofAscii ['m', 'f']

def keyDeviceModel : UTF8String := .ofAscii ['m', 'd']

def keyConnectionType : UTF8String := .ofAscii ['c', 't']

def keyNetworkTechnology : UTF8String := .ofAscii ['n', 'p']

def keyCarrier : UTF8String := .ofAscii ['c', 'r']

def keySessionStartTime : UTF8String := .ofAscii ['t', 'v']

def keyTransmissionTime : UTF8String := .ofAscii ['t', 'x']

def openKitVersion : UTF8String := .ofAscii ['8', '.', '3', '2', '3', '.', '3', '0', '5', '0', '0']

def platformTypeOpenKit : UTF8String := .ofAscii ['1']

def agentTechnologyType : UTF8String := .ofAscii ['o', 'k', 'c']

end EventData

open EventData

/-! ## The data that stays the same -/

/-- The immutable data of a beacon with a device id and a session number. -/
def createImmutableBeaconData (openKitConfiguration : OpenKitDescription)
    (privacyConfiguration : PrivacyConfiguration) (deviceID sessionNumber : ℤ)
    (useClientIPAddress : Bool) (clientIPAddress : UTF8String) : UTF8String :=
  let basicBeaconData := addKeyIntPair .nil keyProtocolVersion SessionObject.protocolVersion
  let basicBeaconData := addKeyValuePair basicBeaconData keyOpenKitVersion openKitVersion
  let basicBeaconData :=
    addKeyValuePair basicBeaconData keyApplicationID openKitConfiguration.applicationID
  let basicBeaconData := addKeyValuePairIfNotEmpty basicBeaconData keyApplicationVersion
    openKitConfiguration.applicationVersion
  let basicBeaconData := addKeyValuePair basicBeaconData keyPlatformType platformTypeOpenKit
  let basicBeaconData := addKeyValuePair basicBeaconData keyAgentTechnologyType agentTechnologyType
  let basicBeaconData := addKeyIntPair basicBeaconData keyVisitorID deviceID
  let basicBeaconData := addKeyIntPair basicBeaconData keySessionNumber sessionNumber
  let basicBeaconData :=
    if useClientIPAddress then addKeyValuePair basicBeaconData keyClientIPAddress clientIPAddress
    else basicBeaconData
  let basicBeaconData :=
    addKeyValuePairIfNotEmpty basicBeaconData keyDeviceOS openKitConfiguration.operatingSystem
  let basicBeaconData :=
    addKeyValuePairIfNotEmpty basicBeaconData keyDeviceManufacturer openKitConfiguration.manufacturer
  let basicBeaconData :=
    addKeyValuePairIfNotEmpty basicBeaconData keyDeviceModel openKitConfiguration.modelID
  let basicBeaconData := addKeyIntPair basicBeaconData keyDataCollectionLevel
    privacyConfiguration.dataCollectionLevel.toInt
  addKeyIntPair basicBeaconData keyCrashReportingLevel privacyConfiguration.crashReportingLevel.toInt

namespace Beacon

section Construct

variable (isValidIP : UTF8String → Bool) (openKitConfiguration : OpenKitDescription)
  (beaconConfiguration : BeaconConfiguration) (initializer : BeaconInitializer)

/-- The device id of a new beacon, which is a random one unless the user has agreed. -/
def initialDeviceID : ℤ :=
  if beaconConfiguration.privacyConfiguration.isDeviceIdSendingAllowed then
    openKitConfiguration.deviceID
  else initializer.randomInt64Number

/-- The session number of a new beacon. -/
def initialSessionNumber : ℤ :=
  if beaconConfiguration.privacyConfiguration.isSessionNumberReportingAllowed then
    initializer.sessionID
  else 1

/-- The constructor. The address is validated by the parameter `isValidIP`. -/
def construct : Beacon :=
  { Beacon.new beaconConfiguration initializer.trafficControlValue initializer.sessionStartTime
      (createImmutableBeaconData openKitConfiguration beaconConfiguration.privacyConfiguration
        (initialDeviceID openKitConfiguration beaconConfiguration initializer)
        (initialSessionNumber beaconConfiguration initializer)
        (initializer.useClientIPAddress && isValidIP initializer.clientIPAddress)
        initializer.clientIPAddress) with
    clientIPAddress := initializer.clientIPAddress }

end Construct

end Beacon

/-! ## The data of the moment -/

def createTimestampData (transmissionTime sessionStartTime : ℤ) : UTF8String :=
  addKeyIntPair (addKeyIntPair .nil keyTransmissionTime transmissionTime) keySessionStartTime
    sessionStartTime

def createMultiplicityData (serverConfiguration : ServerConfiguration) : UTF8String :=
  addKeyIntPair .nil keyMultiplicity serverConfiguration.multiplicity

/-- What the data of the moment is built from. -/
structure MutableBeaconInput where
  serverConfiguration : ServerConfiguration
  sessionSequenceNumber : ℤ
  transmissionTime : ℤ
  sessionStartTime : ℤ
  supplementaryBasicData : SupplementaryBasicData
deriving DecidableEq, Repr

def getMutableBeaconData (input : MutableBeaconInput) : UTF8String :=
  let visitStoreVersion := input.serverConfiguration.visitStoreVersion
  let supplementaryBasicData := input.supplementaryBasicData
  let mutableBeaconData := addKeyIntPair .nil keyVisitStoreVersion visitStoreVersion
  let mutableBeaconData :=
    if visitStoreVersion > 1 then
      addKeyIntPair mutableBeaconData keySessionSequence input.sessionSequenceNumber
    else mutableBeaconData
  let mutableBeaconData := (mutableBeaconData.concatenate (.ofAscii ['&'])).concatenate
    (createTimestampData input.transmissionTime input.sessionStartTime)
  let mutableBeaconData := (mutableBeaconData.concatenate (.ofAscii ['&'])).concatenate
    (createMultiplicityData input.serverConfiguration)
  let mutableBeaconData :=
    if supplementaryBasicData.isNetworkTechnologyAvailable then
      addKeyValuePair mutableBeaconData keyNetworkTechnology supplementaryBasicData.networkTechnology
    else mutableBeaconData
  let mutableBeaconData :=
    if supplementaryBasicData.isCarrierAvailable then
      addKeyValuePair mutableBeaconData keyCarrier
        (truncate supplementaryBasicData.carrier maxNameLen)
    else mutableBeaconData
  if supplementaryBasicData.isConnectionTypeAvailable &&
      supplementaryBasicData.connectionType != .unset then
    addKeyValuePair mutableBeaconData keyConnectionType
      supplementaryBasicData.connectionType.toUTF8String
  else mutableBeaconData

/-! ## ASCII characters only -/

/-- A pair that is appended on a condition. -/
theorem EventData.BuiltOfPairs.ite_add {s key : UTF8String} (h : BuiltOfPairs s) (hkey : key.IsAscii)
    (value : UTF8String) (c : Prop) [Decidable c] :
    BuiltOfPairs (if c then addKeyValuePair s key value else s) := by
  split
  · exact h.add hkey value
  · exact h

/-- The immutable data is built of pairs. -/
theorem builtOfPairs_createImmutableBeaconData (openKitConfiguration : OpenKitDescription)
    (privacyConfiguration : PrivacyConfiguration) (deviceID sessionNumber : ℤ)
    (useClientIPAddress : Bool) (clientIPAddress : UTF8String) :
    BuiltOfPairs (createImmutableBeaconData openKitConfiguration privacyConfiguration deviceID
      sessionNumber useClientIPAddress clientIPAddress) := by
  -- the pairs from the last one on
  refine BuiltOfPairs.addKeyIntPair (.addKeyIntPair ?_ (by decide) _) (by decide) _
  apply BuiltOfPairs.addKeyValuePairIfNotEmpty _ (by decide)
  apply BuiltOfPairs.addKeyValuePairIfNotEmpty _ (by decide)
  apply BuiltOfPairs.addKeyValuePairIfNotEmpty _ (by decide)
  apply BuiltOfPairs.ite_add _ (by decide)
  refine BuiltOfPairs.addKeyIntPair (.addKeyIntPair (.add (.add ?_ (by decide) _) (by decide) _)
    (by decide) _) (by decide) _
  apply BuiltOfPairs.addKeyValuePairIfNotEmpty _ (by decide)
  exact ((BuiltOfPairs.nil.addKeyIntPair (by decide) _).add (by decide) _).add (by decide) _

theorem isAscii_createTimestampData (transmissionTime sessionStartTime : ℤ) :
    (createTimestampData transmissionTime sessionStartTime).IsAscii :=
  ((BuiltOfPairs.nil.addKeyIntPair (by decide) _).addKeyIntPair (by decide) _).isAscii

theorem isAscii_createMultiplicityData (serverConfiguration : ServerConfiguration) :
    (createMultiplicityData serverConfiguration).IsAscii :=
  (BuiltOfPairs.nil.addKeyIntPair (by decide) _).isAscii

theorem isAscii_ite_addKeyValuePair {s key : UTF8String} (hs : s.IsAscii) (hkey : key.IsAscii)
    (value : UTF8String) (c : Prop) [Decidable c] :
    (if c then addKeyValuePair s key value else s).IsAscii := by
  split
  · exact isAscii_addKeyValuePair hs hkey value
  · exact hs

/-- **The data of the moment** has ASCII characters only. -/
theorem isAscii_getMutableBeaconData (input : MutableBeaconInput) :
    (getMutableBeaconData input).IsAscii := by
  have hdelimiter : (UTF8String.ofAscii ['&']).IsAscii := by decide
  refine isAscii_ite_addKeyValuePair (isAscii_ite_addKeyValuePair (isAscii_ite_addKeyValuePair
    ?_ (by decide) _ _) (by decide) _ _) (by decide) _ _
  refine UTF8String.IsAscii.concatenate (.concatenate ?_ hdelimiter)
    (isAscii_createMultiplicityData _)
  refine UTF8String.IsAscii.concatenate (.concatenate ?_ hdelimiter) (isAscii_createTimestampData _ _)
  exact isAscii_ite_addKeyValuePair (BuiltOfPairs.nil.addKeyIntPair (by decide) _).isAscii
    (by decide) _ _

end OpenKit
