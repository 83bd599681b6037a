import OpenKit.Json.JsonWriter
import OpenKit.Library.Heap
import OpenKit.Library.UnorderedMap
import OpenKit.Objects.BasicBeaconData
import OpenKit.Protocol.BeaconReports

/-!
# The payload of a business event

The payload is an object in JSON with the attributes of the user and those of the beacon. It is built in a map
of its own: the attributes of the user are copied, some keys are overwritten, keys that are reserved are
removed, and some keys get a default if they are not there. At the end, numbers that are not finite are looked
for, at any depth.

The maps are objects by reference, so that the map of the user is another one than that of the builder.

## Main definitions

* `EventValue`: the values of attributes
* `EventPayloadBuilder`: the builder, with its operations on the maps
* `EventPayloads.bizEventPayload`: what `sendBizEvent` does to build the payload
* `EventPayloads.sendBizEvent`: the function of the beacon, with the attributes of a user

## Main results

* `isItemContainingNonFiniteNumericValues_iff`: the search finds the numbers at any depth
-/

namespace OpenKit

open UTF8String

/-! ## Values -/

/-- A number of double precision, by its bits. -/
structure Double where
  bits : UInt64
deriving DecidableEq, Repr

/-- `std::isfinite`: the bits of the exponent are not all ones. -/
def Double.isFinite (d : Double) : Bool := (d.bits >>> 52) &&& 0x7FF != 0x7FF

/-- The value of an attribute, which is no null pointer. An object is given by its members in the order in
which its map lists them. -/
inductive EventValue
  | null
  | boolean (value : Bool)
  | string (value : List UInt8)
  | long (value : ℤ)
  | double (value : Double)
  | array (values : List EventValue)
  | object (map : List (List UInt8 × EventValue))

mutual

def isItemContainingNonFiniteNumericValues : EventValue → Bool
  | .object map => isObjectContainingNonFiniteNumericValues map
  | .array values => isArrayContainingNonFiniteNumericValues values
  | .double value => !value.isFinite
  | _ => false

def isArrayContainingNonFiniteNumericValues : List EventValue → Bool
  | [] => false
  | value :: values =>
    isItemContainingNonFiniteNumericValues value || isArrayContainingNonFiniteNumericValues values

def isObjectContainingNonFiniteNumericValues : List (List UInt8 × EventValue) → Bool
  | [] => false
  | (_, value) :: map =>
    isItemContainingNonFiniteNumericValues value || isObjectContainingNonFiniteNumericValues map

end

/-- A number is somewhere inside a value. -/
inductive EventValue.Contains (d : Double) : EventValue → Prop
  | double : Contains d (.double d)
  | array {values : List EventValue} {value : EventValue} (h : value ∈ values) (hvalue : Contains d value) :
    Contains d (.array values)
  | object {map : List (List UInt8 × EventValue)} {key : List UInt8} {value : EventValue}
    (h : (key, value) ∈ map) (hvalue : Contains d value) : Contains d (.object map)

/-- **Induction on a value**: on the elements of an array, and on the values of the members of an object. -/
@[elab_as_elim]
theorem EventValue.induction {P : EventValue → Prop} (null : P .null)
    (boolean : ∀ value, P (.boolean value)) (string : ∀ value, P (.string value))
    (long : ∀ value, P (.long value)) (double : ∀ value, P (.double value))
    (array : ∀ values, (∀ value ∈ values, P value) → P (.array values))
    (object : ∀ map, (∀ m ∈ map, P m.2) → P (.object map)) (value : EventValue) : P value :=
  match value with
  | .null => null
  | .boolean value => boolean value
  | .string value => string value
  | .long value => long value
  | .double value => double value
  | .array values =>
    array values fun value _ => induction null boolean string long double array object value
  | .object map => object map fun m _ => induction null boolean string long double array object m.2
termination_by sizeOf value
decreasing_by
  · have hlt := List.sizeOf_lt_of_mem ‹value ∈ values›
    simp only [EventValue.array.sizeOf_spec]
    omega
  · have hlt := List.sizeOf_lt_of_mem ‹m ∈ map›
    obtain ⟨key, value⟩ := m
    simp only [EventValue.object.sizeOf_spec, Prod.mk.sizeOf_spec] at hlt ⊢
    omega

theorem isArrayContainingNonFiniteNumericValues_iff (values : List EventValue) :
    isArrayContainingNonFiniteNumericValues values = true ↔
      ∃ value ∈ values, isItemContainingNonFiniteNumericValues value = true := by
  induction values with
  | nil => exact iff_of_false Bool.false_ne_true (by simp)
  | cons value values ih =>
    rw [isArrayContainingNonFiniteNumericValues, Bool.or_eq_true, ih, List.exists_mem_cons_iff]

theorem isObjectContainingNonFiniteNumericValues_iff (map : List (List UInt8 × EventValue)) :
    isObjectContainingNonFiniteNumericValues map = true ↔
      ∃ m ∈ map, isItemContainingNonFiniteNumericValues m.2 = true := by
  induction map with
  | nil => exact iff_of_false Bool.false_ne_true (by simp)
  | cons m map ih =>
    rw [isObjectContainingNonFiniteNumericValues, Bool.or_eq_true, ih, List.exists_mem_cons_iff]

/-- **The search** finds the numbers at any depth. -/
theorem isItemContainingNonFiniteNumericValues_iff (value : EventValue) :
    isItemContainingNonFiniteNumericValues value = true ↔ ∃ d, value.Contains d ∧ d.isFinite = false := by
  have hnone {value : EventValue} (hvalue : ∀ d, ¬ value.Contains d) :
      false = true ↔ ∃ d, value.Contains d ∧ d.isFinite = false := by
    refine iff_of_false Bool.false_ne_true ?_
    rintro ⟨d, hd, -⟩
    exact hvalue d hd
  induction value using EventValue.induction with
  | null => exact hnone fun d h => by cases h
  | boolean value => exact hnone fun d h => by cases h
  | string value => exact hnone fun d h => by cases h
  | long value => exact hnone fun d h => by cases h
  | double value =>
    rw [isItemContainingNonFiniteNumericValues, Bool.not_eq_true']
    constructor
    · intro h
      exact ⟨value, .double, h⟩
    · rintro ⟨d, hd, hfinite⟩
      cases hd
      exact hfinite
  | array values ih =>
    rw [isItemContainingNonFiniteNumericValues, isArrayContainingNonFiniteNumericValues_iff]
    constructor
    · rintro ⟨value, hvalue, h⟩
      obtain ⟨d, hd, hfinite⟩ := (ih value hvalue).mp h
      exact ⟨d, .array hvalue hd, hfinite⟩
    · rintro ⟨d, hd, hfinite⟩
      cases hd with
      | @array _ value hvalue hd => exact ⟨value, hvalue, (ih value hvalue).mpr ⟨d, hd, hfinite⟩⟩
  | object map ih =>
    rw [isItemContainingNonFiniteNumericValues, isObjectContainingNonFiniteNumericValues_iff]
    constructor
    · rintro ⟨m, hm, h⟩
      obtain ⟨d, hd, hfinite⟩ := (ih m hm).mp h
      exact ⟨d, .object hm hd, hfinite⟩
    · rintro ⟨d, hd, hfinite⟩
      cases hd with
      | @object _ key value hm hd => exact ⟨_, hm, (ih _ hm).mpr ⟨d, hd, hfinite⟩⟩

section Values

-- the text of a finite number of double precision
variable (doubleText : Double → List UInt8)

mutual

/-- The value as it is written: a number that is not finite is written as null. -/
def EventValue.toJsonValue : EventValue → JsonValue
  | .null => .null
  | .boolean value => .boolean value
  | .string value => .string value
  | .long value => .long value
  | .double value => if value.isFinite then .double (doubleText value) else .null
  | .array values => .array (toJsonValues values)
  | .object map => .object (toJsonMembers map)

def toJsonValues : List EventValue → List JsonValue
  | [] => []
  | value :: values => value.toJsonValue :: toJsonValues values

def toJsonMembers : List (List UInt8 × EventValue) → List (List UInt8 × JsonValue)
  | [] => []
  | (key, value) :: map => (key, value.toJsonValue) :: toJsonMembers map

end

end Values

/-! ## The builder -/

/-- `std::hash` of strings is not modelled: no more is used of it than that equal strings have one hash. -/
def stringKeys : UnorderedMap.KeyFunctions (List UInt8) Unit := ⟨fun _ => (), fun k k' => k == k'⟩

theorem stringKeys_views : stringKeys.Views id := ⟨fun _ _ => beq_iff_eq, fun _ _ _ => rfl⟩

abbrev JsonObjectMap : Type := UnorderedMap stringKeys EventValue

/-- The value at a key. -/
def JsonObjectMap.value (map : JsonObjectMap) (key : List UInt8) : Option EventValue :=
  UnorderedMap.valueAt id map key

/-- A builder: the reference to its map. -/
structure EventPayloadBuilder where
  attributes : ℕ

namespace EventPayloadBuilder

variable (b : EventPayloadBuilder)

/-- The constructor makes a map, and inserts the given attributes. -/
def new (attributes : Option ℕ) (maps : Heap JsonObjectMap) : EventPayloadBuilder × Heap JsonObjectMap :=
  (⟨maps.size⟩,
    maps.alloc (match attributes with
      | none => .empty
      | some attributes => UnorderedMap.empty.insertAll (maps.get attributes).entries))

def addOverridableAttribute (key : List UInt8) (value : Option EventValue) (maps : Heap JsonObjectMap) :
    Heap JsonObjectMap :=
  match value with
  | none => maps
  | some value => maps.modify b.attributes fun attributes =>
      if (attributes.find key).isNone then attributes.insert (key, value) else attributes

def addNonOverridableAttribute (key : List UInt8) (value : Option EventValue)
    (maps : Heap JsonObjectMap) : Heap JsonObjectMap :=
  match value with
  | none => maps
  | some value => maps.modify b.attributes fun attributes => attributes.assign key value

/-- `dt`, and what starts with `dt.`, but not what starts with `dt.agent.`. -/
def isReservedInternalKey (key : List UInt8) : Bool :=
  key == (ofAscii ['d', 't']).data ||
    ((ofAscii ['d', 't', '.']).data.isPrefixOf key &&
      !(ofAscii ['d', 't', '.', 'a', 'g', 'e', 'n', 't', '.']).data.isPrefixOf key)

def cleanReservedInternalAttributes (maps : Heap JsonObjectMap) : Heap JsonObjectMap :=
  maps.modify b.attributes fun attributes => attributes.filter fun key => !isReservedInternalKey key

def getAttributes (maps : Heap JsonObjectMap) : JsonObjectMap := maps.get b.attributes

/-- The text of a map. -/
def mapText (doubleText : Double → List UInt8) (attributes : JsonObjectMap) : List UInt8 :=
  (JsonValue.object (toJsonMembers doubleText attributes.entries)).toString id

def build (doubleText : Double → List UInt8) (maps : Heap JsonObjectMap) : List UInt8 :=
  mapText doubleText (b.getAttributes maps)

def isEventContainingNonFiniteNumericValues (maps : Heap JsonObjectMap) : Bool :=
  isObjectContainingNonFiniteNumericValues (b.getAttributes maps).entries

end EventPayloadBuilder

/-! ## What the beacon does -/

/-- What a beacon puts into the payload of an event: the configuration of the instance, its own ids, and the
timestamp in nanoseconds. -/
structure EventSource where
  openKitConfiguration : OpenKitDescription
  deviceID : ℤ
  sessionNumber : ℤ
  timestamp : ℤ

namespace EventPayloads

open EventPayloadBuilder

def keyTimestamp : List UInt8 := (ofAscii ['t', 'i', 'm', 'e', 's', 't', 'a', 'm', 'p']).data

def keyEventType : List UInt8 := (ofAscii ['e', 'v', 'e', 'n', 't', '.', 't', 'y', 'p', 'e']).data

def keyEventKind : List UInt8 := (ofAscii ['e', 'v', 'e', 'n', 't', '.', 'k', 'i', 'n', 'd']).data

def keyEventProvider : List UInt8 :=
  (ofAscii ['e', 'v', 'e', 'n', 't', '.', 'p', 'r', 'o', 'v', 'i', 'd', 'e', 'r']).data

def keyAppVersion : List UInt8 :=
  (ofAscii ['a', 'p', 'p', '.', 'v', 'e', 'r', 's', 'i', 'o', 'n']).data

def keyOsName : List UInt8 := (ofAscii ['o', 's', '.', 'n', 'a', 'm', 'e']).data

def keyDeviceManufacturer : List UInt8 :=
  (ofAscii ['d', 'e', 'v', 'i', 'c', 'e', '.', 'm', 'a', 'n', 'u', 'f', 'a', 'c', 't', 'u', 'r', 'e',
    'r']).data

def keyDeviceModelIdentifier : List UInt8 :=
  (ofAscii ['d', 'e', 'v', 'i', 'c', 'e', '.', 'm', 'o', 'd', 'e', 'l', '.', 'i', 'd', 'e', 'n', 't', 'i',
    'f', 'i', 'e', 'r']).data

/-- What the keys of the real user monitoring start with. -/
def keyPrefixRum : List UInt8 := (ofAscii ['d', 't', '.', 'r', 'u', 'm', '.']).data

def keyApplicationID : List UInt8 :=
  keyPrefixRum ++ (ofAscii ['a', 'p', 'p', 'l', 'i', 'c', 'a', 't', 'i', 'o', 'n', '.', 'i', 'd']).data

def keyInstanceID : List UInt8 :=
  keyPrefixRum ++ (ofAscii ['i', 'n', 's', 't', 'a', 'n', 'c', 'e', '.', 'i', 'd']).data

def keySessionID : List UInt8 := keyPrefixRum ++ (ofAscii ['s', 'i', 'd']).data

def keySchemaVersion : List UInt8 :=
  keyPrefixRum ++ (ofAscii ['s', 'c', 'h', 'e', 'm', 'a', '_', 'v', 'e', 'r', 's', 'i', 'o', 'n']).data

def keyCustomAttributesSize : List UInt8 :=
  keyPrefixRum ++ (ofAscii ['c', 'u', 's', 't', 'o', 'm', '_', 'a', 't', 't', 'r', 'i', 'b', 'u', 't', 'e',
    's', '_', 's', 'i', 'z', 'e']).data

def keyHasNfnValues : List UInt8 :=
  keyPrefixRum ++ (ofAscii ['h', 'a', 's', '_', 'n', 'f', 'n', '_', 'v', 'a', 'l', 'u', 'e', 's']).data

def keyEventName : List UInt8 := (ofAscii ['e', 'v', 'e', 'n', 't', '.', 'n', 'a', 'm', 'e']).data

def eventKindRum : List UInt8 := (ofAscii ['R', 'U', 'M', '_', 'E', 'V', 'E', 'N', 'T']).data

def eventKindBiz : List UInt8 := (ofAscii ['B', 'I', 'Z', '_', 'E', 'V', 'E', 'N', 'T']).data

def schemaVersion : List UInt8 := (ofAscii ['1', '.', '3']).data

/-- `JsonStringValue::fromString` of a string. -/
def fromString (s : UTF8String) : Option EventValue := some (.string s.getStringData)

variable (source : EventSource)

/-- The id of the device and the number of the session. -/
def sessionIDText : UTF8String :=
  ((EventData.toInvariantString source.deviceID).concatenate (.ofAscii ['_'])).concatenate
    (EventData.toInvariantString source.sessionNumber)

def generateEventPayload (builder : EventPayloadBuilder) (maps : Heap JsonObjectMap) :
    Heap JsonObjectMap :=
  let openKitConfig := source.openKitConfiguration
  let maps := builder.addOverridableAttribute keyTimestamp (some (.long source.timestamp)) maps
  let maps := builder.addNonOverridableAttribute keyApplicationID (fromString openKitConfig.applicationID) maps
  let maps := builder.addNonOverridableAttribute keyInstanceID
    (fromString (EventData.toInvariantString source.deviceID)) maps
  let maps := builder.addNonOverridableAttribute keySessionID (fromString (sessionIDText source)) maps
  let maps := builder.addNonOverridableAttribute keySchemaVersion (some (.string schemaVersion)) maps
  let maps := builder.addOverridableAttribute keyAppVersion (fromString openKitConfig.applicationVersion) maps
  let maps := builder.addOverridableAttribute keyOsName (fromString openKitConfig.operatingSystem) maps
  let maps := builder.addOverridableAttribute keyDeviceManufacturer
    (fromString openKitConfig.manufacturer) maps
  let maps := builder.addOverridableAttribute keyDeviceModelIdentifier (fromString openKitConfig.modelID) maps
  builder.addOverridableAttribute keyEventProvider (fromString openKitConfig.applicationID) maps

variable (doubleText : Double → List UInt8)

/-- What `sendBizEvent` does with the map of a new builder, up to the search. -/
def addBizEventAttributes (builder : EventPayloadBuilder) (type : UTF8String) (maps : Heap JsonObjectMap) :
    Heap JsonObjectMap :=
  let maps := builder.addNonOverridableAttribute keyEventType (fromString type) maps
  let inputPayload := validateString (builder.build doubleText maps)
  let maps := builder.cleanReservedInternalAttributes maps
  let maps := builder.addNonOverridableAttribute keyCustomAttributesSize
    (some (.long inputPayload.getStringLength)) maps
  let maps := generateEventPayload source builder maps
  builder.addNonOverridableAttribute keyEventKind (some (.string eventKindBiz)) maps

/-- The mark that `sendBizEvent` sets after the search. -/
def markNonFiniteNumericValues (builder : EventPayloadBuilder) (maps : Heap JsonObjectMap) :
    Heap JsonObjectMap :=
  if builder.isEventContainingNonFiniteNumericValues maps then
    builder.addNonOverridableAttribute keyHasNfnValues (some (.boolean true)) maps
  else maps

/-- What `sendBizEvent` does behind its checks, up to the payload. -/
def bizEventPayload (type : UTF8String) (attributes : Option ℕ) (maps : Heap JsonObjectMap) :
    EventPayloadBuilder × Heap JsonObjectMap :=
  let (builder, maps) := EventPayloadBuilder.new attributes maps
  (builder, markNonFiniteNumericValues builder (addBizEventAttributes source doubleText builder type maps))

/-- The text of the payload. -/
def bizEventText (type : UTF8String) (attributes : Option ℕ) (maps : Heap JsonObjectMap) : List UInt8 :=
  (bizEventPayload source doubleText type attributes maps).1.build doubleText
    (bizEventPayload source doubleText type attributes maps).2

/-- `Beacon::sendBizEvent` with the attributes of a user. -/
def sendBizEvent (caller : Caller) (type : UTF8String) (attributes : Option ℕ)
    (maps : Heap JsonObjectMap) : Reporter Unit :=
  BeaconReports.sendBizEvent caller type (bizEventText source doubleText type attributes maps)

/-- What `sendEvent` does behind its checks, up to the payload. No key is removed. -/
def eventPayload (name : UTF8String) (attributes : Option ℕ) (maps : Heap JsonObjectMap) :
    EventPayloadBuilder × Heap JsonObjectMap :=
  let (builder, maps) := EventPayloadBuilder.new attributes maps
  let maps := generateEventPayload source builder maps
  let maps := builder.addNonOverridableAttribute keyEventName (fromString name) maps
  let maps := builder.addOverridableAttribute keyEventKind (some (.string eventKindRum)) maps
  (builder, markNonFiniteNumericValues builder maps)

/-- The text of the payload. -/
def eventText (name : UTF8String) (attributes : Option ℕ) (maps : Heap JsonObjectMap) : List UInt8 :=
  (eventPayload source name attributes maps).1.build doubleText
    (eventPayload source name attributes maps).2

end EventPayloads

end OpenKit
