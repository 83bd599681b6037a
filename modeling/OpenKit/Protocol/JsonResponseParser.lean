import OpenKit.Core.BrokenStrings
import OpenKit.Json.JsonParser
import OpenKit.Protocol.ResponseAttributes

/-!
# Responses in JSON

A response in JSON is an object with an object for each of three configurations. The attributes are looked
up in these objects, each under its key. A member that is missing or of another type is left out, but the
root is not checked to be an object.

## Main definitions

* `JsonNumberValue`: the values that are numbers, with their conversions
* `JsonResponseParser.getJsonObjectFrom` and so on: the look-up of a member
* `JsonResponseParser.parse`: the attributes of a response
-/

namespace OpenKit

open Thread

/-! ## Numbers -/

/-- The number of a JSON value. -/
structure JsonNumberValue where
  isInteger : Bool
  longValue : ℤ
  doubleValue : ℚ

namespace JsonNumberValue

/-- The integer in front of the point. -/
def truncate (value : ℚ) : ℤ := if 0 ≤ value then ⌊value⌋ else ⌈value⌉

/-- The conversion to `int64_t`, which cuts the fraction off. Out of the range of `int64_t` it is not
defined, and has the value that the instruction of the processor gives. -/
def doubleToLong (value : ℚ) : ℤ := if InLongRange (truncate value) then truncate value else -2 ^ 63

def fromLong (longValue : ℤ) : JsonNumberValue :=
  ⟨true, longValue, FloatFormat.binary64.round longValue⟩

def fromDouble (doubleValue : ℚ) : JsonNumberValue := ⟨false, doubleToLong doubleValue, doubleValue⟩

def getInt32Value (n : JsonNumberValue) : ℤ := toInt32 n.longValue

def getLongValue (n : JsonNumberValue) : ℤ := n.longValue

end JsonNumberValue

/-- A product of two `int32_t`. Overflow is not defined, and taken to wrap around. -/
def mulInt32 (a b : ℤ) : ℤ := toInt32 (a * b)

namespace JsonValue

/-- The map of an object. -/
abbrev ObjectMap : Type := List (List UInt8 × JsonValue)

/-- The casts of a pointer to a value, each of which may give the null pointer. -/
def asObject : JsonValue → Option ObjectMap
  | object map => some map
  | _ => none

def asString : JsonValue → Option (List UInt8)
  | string value => some value
  | _ => none

def asNumber : JsonValue → Option JsonNumberValue
  | long value => some (.fromLong value)
  | double literal =>
    some (.fromDouble (FloatFormat.binary64.round (JsonNumberValue.decimalValue literal)))
  | _ => none

end JsonValue

/-- What may end the parser of a response. -/
inductive ResponseFault
  | parsingFault (fault : ParsingFault)
  | invalidArgument
  | outOfRange
  | nullPointerDereferenced
  | walkFault (fault : UTF8String.WalkFault)
deriving DecidableEq, Repr

/-- The parser of a response, or a part of it. -/
abbrev Responding (α : Type) : Type := Except ResponseFault α

namespace JsonResponseParser

open JsonValue

/-! ## Members -/

/-- The member of an object under a key. A null pointer in place of the object is not checked. -/
def find (jsonObject : Option ObjectMap) (key : List UInt8) : Responding (Option JsonValue) :=
  match jsonObject with
  | none => .error .nullPointerDereferenced
  | some map => .ok (map.lookup key)

def getJsonObjectFrom (jsonObject : Option ObjectMap) (key : List UInt8) :
    Responding (Option ObjectMap) := do
  let entry ← find jsonObject key
  return entry.bind asObject

def getJsonStringFrom (jsonObject : Option ObjectMap) (key : List UInt8) :
    Responding (Option (List UInt8)) := do
  let entry ← find jsonObject key
  return entry.bind asString

def getJsonNumberFrom (jsonObject : Option ObjectMap) (key : List UInt8) :
    Responding (Option JsonNumberValue) := do
  let entry ← find jsonObject key
  return entry.bind asNumber

/-- A number of an object is given to the builder. -/
def applyNumber (key : List UInt8) (apply : ResponseAttributes → JsonNumberValue → ResponseAttributes)
    (builder : ResponseAttributes) (jsonObject : Option ObjectMap) : Responding ResponseAttributes := do
  match ← getJsonNumberFrom jsonObject key with
  | none => return builder
  | some numberValue => return apply builder numberValue

/-- A string of an object is given to the builder. -/
def applyString (key : List UInt8) (apply : ResponseAttributes → UTF8String → ResponseAttributes)
    (builder : ResponseAttributes) (jsonObject : Option ObjectMap) : Responding ResponseAttributes := do
  match ← getJsonStringFrom jsonObject key with
  | none => return builder
  | some value => return apply builder (UTF8String.validateString value)

/-- Some functions in a row. -/
def applyAll (steps : List (ResponseAttributes → Option ObjectMap → Responding ResponseAttributes))
    (builder : ResponseAttributes) (jsonObject : Option ObjectMap) : Responding ResponseAttributes :=
  steps.foldlM (fun builder step => step builder jsonObject) builder

/-- A configuration object, if it is there. -/
def applyConfiguration (key : List UInt8)
    (steps : List (ResponseAttributes → Option ObjectMap → Responding ResponseAttributes))
    (builder : ResponseAttributes) (rootObject : Option ObjectMap) : Responding ResponseAttributes := do
  match ← getJsonObjectFrom rootObject key with
  | none => return builder
  | some configObject => applyAll steps builder (some configObject)

/-! ## Agent configuration -/

def responseKeyAgentConfig : List UInt8 := (UTF8String.ofAscii "mobileAgentConfig".toList).data

def responseKeyMaxBeaconSizeInKb : List UInt8 := (UTF8String.ofAscii "maxBeaconSizeKb".toList).data

def responseKeyMaxSessionDurationInMin : List UInt8 :=
  (UTF8String.ofAscii "maxSessionDurationMins".toList).data

def responseKeyMaxEventsPerSession : List UInt8 :=
  (UTF8String.ofAscii "maxEventsPerSession".toList).data

def responseKeySessionTimeoutInSec : List UInt8 := (UTF8String.ofAscii "sessionTimeoutSec".toList).data

def responseKeySendIntervalInSec : List UInt8 := (UTF8String.ofAscii "sendIntervalSec".toList).data

def responseKeyVisitStoreVersion : List UInt8 := (UTF8String.ofAscii "visitStoreVersion".toList).data

def applyBeaconSizeInKb :=
  applyNumber responseKeyMaxBeaconSizeInKb fun builder numberValue =>
    builder.withMaxBeaconSizeInBytes (mulInt32 numberValue.getInt32Value 1024)

def applyMaxSessionDurationInMin :=
  applyNumber responseKeyMaxSessionDurationInMin fun builder numberValue =>
    builder.withMaxSessionDurationInMilliseconds (mulInt32 (mulInt32 numberValue.getInt32Value 60) 1000)

def applyMaxEventsPerSession :=
  applyNumber responseKeyMaxEventsPerSession fun builder numberValue =>
    builder.withMaxEventsPerSession numberValue.getInt32Value

def applySessionTimeoutInSec :=
  applyNumber responseKeySessionTimeoutInSec fun builder numberValue =>
    builder.withSessionTimeoutInMilliseconds (mulInt32 numberValue.getInt32Value 1000)

def applySendIntervalInSec :=
  applyNumber responseKeySendIntervalInSec fun builder numberValue =>
    builder.withSendIntervalInMilliseconds (mulInt32 numberValue.getInt32Value 1000)

def applyVisitStoreVersion :=
  applyNumber responseKeyVisitStoreVersion fun builder numberValue =>
    builder.withVisitStoreVersion numberValue.getInt32Value

def applyAgentConfiguration :=
  applyConfiguration responseKeyAgentConfig
    [applyBeaconSizeInKb, applyMaxSessionDurationInMin, applyMaxEventsPerSession,
      applySessionTimeoutInSec, applySendIntervalInSec, applyVisitStoreVersion]

/-! ## Application configuration -/

def responseKeyAppConfig : List UInt8 := (UTF8String.ofAscii "appConfig".toList).data

def responseKeyCapture : List UInt8 := (UTF8String.ofAscii "capture".toList).data

def responseKeyReportCrashes : List UInt8 := (UTF8String.ofAscii "reportCrashes".toList).data

def responseKeyReportErrors : List UInt8 := (UTF8String.ofAscii "reportErrors".toList).data

def responseKeyTrafficControlPercentage : List UInt8 :=
  (UTF8String.ofAscii "trafficControlPercentage".toList).data

def responseKeyApplicationId : List UInt8 := (UTF8String.ofAscii "applicationId".toList).data

def applyCapture :=
  applyNumber responseKeyCapture fun builder numberValue =>
    builder.withCapture (numberValue.getInt32Value == 1)

def applyReportCrashes :=
  applyNumber responseKeyReportCrashes fun builder numberValue =>
    builder.withCaptureCrashes (numberValue.getInt32Value != 0)

def applyReportErrors :=
  applyNumber responseKeyReportErrors fun builder numberValue =>
    builder.withCaptureErrors (numberValue.getInt32Value != 0)

def applyTrafficControlPercentage :=
  applyNumber responseKeyTrafficControlPercentage fun builder numberValue =>
    builder.withTrafficControlPercentage numberValue.getInt32Value

def applyApplicationId :=
  applyString responseKeyApplicationId fun builder value => builder.withApplicationId value

def applyApplicationConfiguration :=
  applyConfiguration responseKeyAppConfig
    [applyCapture, applyReportCrashes, applyReportErrors, applyTrafficControlPercentage,
      applyApplicationId]

/-! ## Dynamic configuration -/

def responseKeyDynamicConfig : List UInt8 := (UTF8String.ofAscii "dynamicConfig".toList).data

def responseKeyMultiplicity : List UInt8 := (UTF8String.ofAscii "multiplicity".toList).data

def responseKeyServerId : List UInt8 := (UTF8String.ofAscii "serverId".toList).data

def responseKeyStatus : List UInt8 := (UTF8String.ofAscii "status".toList).data

def applyMultiplicity :=
  applyNumber responseKeyMultiplicity fun builder numberValue =>
    builder.withMultiplicity numberValue.getInt32Value

def applyServerId :=
  applyNumber responseKeyServerId fun builder numberValue =>
    builder.withServerId numberValue.getInt32Value

def applyStatus := applyString responseKeyStatus fun builder value => builder.withStatus value

def applyDynamicConfiguration :=
  applyConfiguration responseKeyDynamicConfig [applyMultiplicity, applyServerId, applyStatus]

/-! ## The root -/

def responseKeyTimestampInMillis : List UInt8 := (UTF8String.ofAscii "timestamp".toList).data

def applyRootAttributes :=
  applyNumber responseKeyTimestampInMillis fun builder numberValue =>
    builder.withTimestampInMilliseconds numberValue.getLongValue

/-- The attributes of a response. -/
def parse (jsonResponse : UTF8String) : Responding ResponseAttributes := do
  let parsedValue ← (JsonParser.parse (.new jsonResponse.getStringData)).1.mapError .parsingFault
  let rootObject := parsedValue.asObject
  applyAll
    [applyAgentConfiguration, applyApplicationConfiguration, applyDynamicConfiguration, applyRootAttributes]
    .jsonResponse rootObject

end JsonResponseParser

end OpenKit
