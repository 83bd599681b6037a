import OpenKit.Objects.EventPayloads
import OpenKit.Protocol.Framing
import OpenKit.Protocol.RecordPairs

/-!
# Which attributes count

The attributes of a payload are in three layers. What the beacon sets is above what the user gives, and the
defaults are below. Each operation of the builder adds to one of the layers, whatever their keys are: to set an
attribute puts it on top, a default goes to the bottom, and the removal of reserved keys is one of the layer in
between. So the order of the operations does not matter, but for the key that is set before the removal.

## Main definitions

* `EventPayloads.precedence`: the value of a key that counts
* `EventPayloads.Layered`: the attributes of a builder are in layers
* `EventPayloads.IsPayload`: what a payload has
* `EventPayloads.CarriesPayload`: a record is the event with some payload

## Main results

* `EventPayloads.exists_run_sendBizEvent`: a business event adds a record with its payload
* `EventPayloads.sendBizEvent_spec`: the payload has the values that count, and the map of the user is as before
-/

namespace OpenKit

open UTF8String EventPayloadBuilder

namespace EventPayloads

/-! ## What a payload has -/

/-- The keys that a user must not give. -/
def IsReserved (key : List UInt8) : Prop :=
  key = (ofAscii ['d', 't']).data ∨
    (ofAscii ['d', 't', '.']).data <+: key ∧
      ¬ (ofAscii ['d', 't', '.', 'a', 'g', 'e', 'n', 't', '.']).data <+: key

instance (key : List UInt8) : Decidable (IsReserved key) := by
  unfold IsReserved
  infer_instance

variable (source : EventSource) (doubleText : Double → List UInt8)

/-- The attributes that nobody can override, by the type and the size of what is given. -/
def nonOverridable (type : UTF8String) (size : ℕ) : List (List UInt8 × EventValue) :=
  [(keyEventKind, .string eventKindBiz),
    (keySchemaVersion, .string schemaVersion),
    (keySessionID, .string (sessionIDText source).data),
    (keyInstanceID, .string (EventData.toInvariantString source.deviceID).data),
    (keyApplicationID, .string source.openKitConfiguration.applicationID.data),
    (keyCustomAttributesSize, .long size),
    (keyEventType, .string type.data)]

/-- The attributes with a default. -/
def overridable : List (List UInt8 × EventValue) :=
  [(keyTimestamp, .long source.timestamp),
    (keyAppVersion, .string source.openKitConfiguration.applicationVersion.data),
    (keyOsName, .string source.openKitConfiguration.operatingSystem.data),
    (keyDeviceManufacturer, .string source.openKitConfiguration.manufacturer.data),
    (keyDeviceModelIdentifier, .string source.openKitConfiguration.modelID.data),
    (keyEventProvider, .string source.openKitConfiguration.applicationID.data)]

/-- What the user gives for a key. -/
def userValue (attributes : Option ℕ) (maps : Heap JsonObjectMap) (key : List UInt8) : Option EventValue :=
  attributes.bind fun attributes => (maps.get attributes).value key

/-- The map of the builder when its size is taken: the attributes of the user, with the type. -/
def sizedAttributes (type : UTF8String) (attributes : Option ℕ) (maps : Heap JsonObjectMap) :
    JsonObjectMap :=
  UnorderedMap.assign (match attributes with
    | none => .empty
    | some attributes => UnorderedMap.empty.insertAll (maps.get attributes).entries)
    keyEventType (.string type.data)

/-- The number of characters that the attributes of the user take, with the type. -/
def customAttributesSize (type : UTF8String) (attributes : Option ℕ) (maps : Heap JsonObjectMap) : ℕ :=
  (validateString (mapText doubleText (sizedAttributes type attributes maps))).getStringLength

/-- **Which value counts**: that of the beacon, that of the user unless the key is reserved, or the default. -/
def precedence (type : UTF8String) (size : ℕ) (user : List UInt8 → Option EventValue) (key : List UInt8) :
    Option EventValue :=
  ((nonOverridable source type size).lookup key).or
    ((if IsReserved key then none else user key).or ((overridable source).lookup key))

/-- Some number inside some values is not finite. -/
def HasNonFinite (values : List UInt8 → Option EventValue) : Prop :=
  ∃ key value d, values key = some value ∧ value.Contains d ∧ d.isFinite = false

/-- **What a payload has**: the values that count, and a mark if some number in them is not finite. -/
structure IsPayload (values : List UInt8 → Option EventValue) (attributes : JsonObjectMap) : Prop where
  value : ∀ key, key ≠ keyHasNfnValues → attributes.value key = values key
  marked : HasNonFinite values → attributes.value keyHasNfnValues = some (.boolean true)
  unmarked : ¬ HasNonFinite values → attributes.value keyHasNfnValues = none

/-! ## Layers -/

/-- The attributes of a builder are in three layers, and all other maps are as they were. -/
structure Layered (b : EventPayloadBuilder) (above : List (List UInt8 × EventValue))
    (user : List UInt8 → Option EventValue) (below : List (List UInt8 × EventValue))
    (old maps : Heap JsonObjectMap) : Prop where
  value : ∀ key, (b.getAttributes maps).value key = (above.lookup key).or ((user key).or (below.lookup key))
  other : ∀ r, r ≠ b.attributes → maps.get r = old.get r

theorem isReservedInternalKey_iff (key : List UInt8) : isReservedInternalKey key = true ↔ IsReserved key := by
  rw [isReservedInternalKey, IsReserved, Bool.or_eq_true, beq_iff_eq, Bool.and_eq_true,
    List.isPrefixOf_iff_prefix, Bool.not_eq_true', ← Bool.not_eq_true, List.isPrefixOf_iff_prefix]

theorem lookup_cons_eq (key k : List UInt8) (v : EventValue) (es : List (List UInt8 × EventValue)) :
    ((k, v) :: es).lookup key = if k = key then some v else es.lookup key := by
  rw [List.lookup_cons]
  by_cases h : k = key
  · rw [if_pos h, h, beq_self_eq_true]
  · rw [if_neg h, beq_eq_false_iff_ne.mpr (Ne.symm h)]

namespace Layered

variable {b : EventPayloadBuilder} {above below : List (List UInt8 × EventValue)}
  {user : List UInt8 → Option EventValue} {old maps : Heap JsonObjectMap}

theorem getAttributes_modify (f : JsonObjectMap → JsonObjectMap) :
    b.getAttributes (maps.modify b.attributes f) = f (b.getAttributes maps) := Heap.get_modify_self

theorem other_modify (h : Layered b above user below old maps) (f : JsonObjectMap → JsonObjectMap) :
    ∀ r, r ≠ b.attributes → (maps.modify b.attributes f).get r = old.get r := by
  intro r hr
  rw [Heap.get_modify_of_ne hr]
  exact h.other r hr

/-- What is set is above all else. -/
theorem addNonOverridable (h : Layered b above user below old maps) (key : List UInt8)
    (value : EventValue) :
    Layered b ((key, value) :: above) user below old
      (b.addNonOverridableAttribute key (some value) maps) := by
  rw [addNonOverridableAttribute]
  refine ⟨fun key' => ?_, h.other_modify _⟩
  rw [getAttributes_modify, JsonObjectMap.value,
    UnorderedMap.valueAt_assign stringKeys_views, lookup_cons_eq]
  by_cases hkey : key = key'
  · rw [if_pos hkey, if_pos (show id key = key' from hkey)]
    rfl
  · rw [if_neg hkey, if_neg (show id key ≠ key' from hkey)]
    exact h.value key'

/-- A default is below all else. -/
theorem addOverridable (h : Layered b above user below old maps) (key : List UInt8) (value : EventValue) :
    Layered b above user (below ++ [(key, value)]) old
      (b.addOverridableAttribute key (some value) maps) := by
  rw [addOverridableAttribute]
  refine ⟨fun key' => ?_, h.other_modify _⟩
  have hinsert (attributes : JsonObjectMap) :
      (if (attributes.find key).isNone then attributes.insert (key, value) else attributes) =
        attributes.insert (key, value) := by
    rw [UnorderedMap.insert]
    by_cases hnone : attributes.find key = none
    · rw [if_pos (Option.isNone_iff_eq_none.mpr hnone)]
    · rw [if_neg (mt Option.isNone_iff_eq_none.mp hnone), dif_neg hnone]
  have hlast : ([(key, value)] : List (List UInt8 × EventValue)).lookup key' =
      if key = key' then some value else none := lookup_cons_eq key' key value []
  rw [getAttributes_modify, hinsert, JsonObjectMap.value,
    UnorderedMap.valueAt_insert stringKeys_views, List.lookup_append, hlast, ← Option.or_assoc,
    ← Option.or_assoc, @Option.or_assoc _ (above.lookup key'), ← h.value key']
  rfl

/-- Reserved keys are removed from what the user gives, while no key above is reserved and nothing is below. -/
theorem clean (h : Layered b above user [] old maps) (habove : ∀ e ∈ above, ¬ IsReserved e.1) :
    Layered b above (fun key => if IsReserved key then none else user key) [] old
      (b.cleanReservedInternalAttributes maps) := by
  refine ⟨fun key => ?_, h.other_modify _⟩
  have hvalue : (b.getAttributes (b.cleanReservedInternalAttributes maps)).value key =
      if !isReservedInternalKey key then (b.getAttributes maps).value key else none := by
    rw [cleanReservedInternalAttributes, getAttributes_modify]
    exact UnorderedMap.valueAt_filter _ key fun k' hk' => by rw [show k' = key from hk']
  rw [hvalue, h.value key]
  by_cases hreserved : IsReserved key
  · have hnone : above.lookup key = none := by
      refine List.lookup_eq_none_iff.mpr fun e he => ?_
      rw [bne_iff_ne]
      rintro rfl
      exact habove e he hreserved
    rw [if_pos hreserved, (isReservedInternalKey_iff key).mpr hreserved, hnone]
    rfl
  · have hkept : isReservedInternalKey key = false := by
      rw [← Bool.not_eq_true, isReservedInternalKey_iff]
      exact hreserved
    rw [if_neg hreserved, hkept]
    rfl

/-- The map of a new builder has what the user gives. -/
theorem new (attributes : Option ℕ) (maps : Heap JsonObjectMap) :
    Layered (EventPayloadBuilder.new attributes maps).1 [] (userValue attributes maps) [] maps
      (EventPayloadBuilder.new attributes maps).2 := by
  refine ⟨fun key => ?_, fun r hr => Function.update_of_ne hr _ _⟩
  cases attributes with
  | none => exact congrArg (fun m : JsonObjectMap => m.value key) Heap.get_alloc_size
  | some attributes =>
    have hcopy := UnorderedMap.valueAt_insertAll stringKeys_views (.empty : JsonObjectMap)
      (maps.get attributes).entries key
    exact (congrArg (fun m : JsonObjectMap => m.value key) Heap.get_alloc_size).trans
      (hcopy.trans Option.or_none.symm)

/-- The attributes that a beacon adds to any payload. -/
theorem generateEventPayload (source : EventSource) (h : Layered b above user [] old maps) :
    Layered b
      ((keySchemaVersion, .string schemaVersion) :: (keySessionID, .string (sessionIDText source).data) ::
        (keyInstanceID, .string (EventData.toInvariantString source.deviceID).data) ::
        (keyApplicationID, .string source.openKitConfiguration.applicationID.data) :: above)
      user (overridable source) old (EventPayloads.generateEventPayload source b maps) := by
  have htop := ((((h.addOverridable keyTimestamp (.long source.timestamp)).addNonOverridable
    keyApplicationID (.string source.openKitConfiguration.applicationID.data)).addNonOverridable
    keyInstanceID (.string (EventData.toInvariantString source.deviceID).data)).addNonOverridable
    keySessionID (.string (sessionIDText source).data)).addNonOverridable
    keySchemaVersion (.string schemaVersion)
  exact ((((htop.addOverridable keyAppVersion _).addOverridable keyOsName _).addOverridable
    keyDeviceManufacturer _).addOverridable keyDeviceModelIdentifier _).addOverridable keyEventProvider _

/-- **The search** is over the values in the layers. -/
theorem isEventContainingNonFiniteNumericValues_iff (h : Layered b above user below old maps) :
    b.isEventContainingNonFiniteNumericValues maps = true ↔
      HasNonFinite fun key => (above.lookup key).or ((user key).or (below.lookup key)) := by
  rw [isEventContainingNonFiniteNumericValues, isObjectContainingNonFiniteNumericValues_iff]
  constructor
  · rintro ⟨m, hm, hitem⟩
    obtain ⟨d, hd, hfinite⟩ := (isItemContainingNonFiniteNumericValues_iff m.2).mp hitem
    refine ⟨m.1, m.2, d, (h.value m.1).symm.trans ?_, hd, hfinite⟩
    exact UnorderedMap.valueAt_of_mem stringKeys_views hm
  · rintro ⟨key, value, d, hvalue, hd, hfinite⟩
    dsimp only at hvalue
    rw [← h.value key] at hvalue
    obtain ⟨m, hm, -, rfl⟩ := UnorderedMap.exists_mem_of_valueIn hvalue
    exact ⟨m, hm, (isItemContainingNonFiniteNumericValues_iff m.2).mpr ⟨d, hd, hfinite⟩⟩

end Layered

/-- Nothing but the search sets the mark. -/
theorem precedence_keyHasNfnValues (type : UTF8String) (size : ℕ) (user : List UInt8 → Option EventValue) :
    precedence source type size user keyHasNfnValues = none := by
  have hreserved : IsReserved keyHasNfnValues := by decide
  rw [precedence, if_pos hreserved]
  rfl

theorem customAttributesSize_eq (type : UTF8String) (attributes : Option ℕ) (maps : Heap JsonObjectMap) :
    let builder := EventPayloadBuilder.new attributes maps
    (validateString (builder.1.build doubleText
      (builder.1.addNonOverridableAttribute keyEventType (fromString type) builder.2))).getStringLength =
      customAttributesSize doubleText type attributes maps := by
  dsimp only
  rw [build, addNonOverridableAttribute.eq_def]
  dsimp only [fromString]
  rw [Layered.getAttributes_modify]
  have hmap : getAttributes (EventPayloadBuilder.new attributes maps).1
      (EventPayloadBuilder.new attributes maps).2 = match attributes with
      | none => .empty
      | some attributes => UnorderedMap.empty.insertAll (maps.get attributes).entries := Heap.get_alloc_size
  rw [hmap]
  rfl

/-- **The map up to the search** has the values that count. -/
theorem Layered.addBizEventAttributes (type : UTF8String) (attributes : Option ℕ)
    (maps : Heap JsonObjectMap) :
    let builder := EventPayloadBuilder.new attributes maps
    Layered builder.1
      (nonOverridable source type (customAttributesSize doubleText type attributes maps))
      (fun key => if IsReserved key then none else userValue attributes maps key)
      (overridable source) maps (addBizEventAttributes source doubleText builder.1 type builder.2) := by
  have htype : ∀ e ∈ [(keyEventType, EventValue.string type.data)], ¬ IsReserved e.1 := by
    have hkey : ¬ IsReserved keyEventType := by decide
    exact List.forall_mem_singleton.mpr hkey
  have hsize := customAttributesSize_eq doubleText type attributes maps
  dsimp only at hsize ⊢
  rw [EventPayloads.addBizEventAttributes, hsize]
  generalize customAttributesSize doubleText type attributes maps = size
  exact (((((Layered.new attributes maps).addNonOverridable keyEventType (.string type.data)).clean
    htype).addNonOverridable keyCustomAttributesSize (.long size)).generateEventPayload
    source).addNonOverridable keyEventKind (.string eventKindBiz)

/-- **The search sets the mark** if there is something to be found. -/
theorem Layered.isPayload_markNonFiniteNumericValues {b : EventPayloadBuilder}
    {above below : List (List UInt8 × EventValue)} {user values : List UInt8 → Option EventValue}
    {old maps : Heap JsonObjectMap} (h : Layered b above user below old maps)
    (hvalues : values = fun key => (above.lookup key).or ((user key).or (below.lookup key)))
    (hnone : values keyHasNfnValues = none) :
    IsPayload values (b.getAttributes (markNonFiniteNumericValues b maps)) ∧
      ∀ r, r ≠ b.attributes → (markNonFiniteNumericValues b maps).get r = old.get r := by
  have hsearch := h.isEventContainingNonFiniteNumericValues_iff
  rw [← hvalues] at hsearch
  have hvalue (key : List UInt8) : (b.getAttributes maps).value key = values key := by
    rw [hvalues]
    exact h.value key
  rw [markNonFiniteNumericValues]
  by_cases hnonFinite : HasNonFinite values
  · have hmarked := h.addNonOverridable keyHasNfnValues (.boolean true)
    rw [if_pos (hsearch.mpr hnonFinite)]
    refine ⟨⟨fun key hkey => ?_, fun _ => ?_, fun h => absurd hnonFinite h⟩, hmarked.other⟩
    · rw [hmarked.value key, lookup_cons_eq, if_neg (Ne.symm hkey), ← h.value key]
      exact hvalue key
    · rw [hmarked.value keyHasNfnValues, lookup_cons_eq, if_pos rfl]
      rfl
  · rw [if_neg (mt hsearch.mp hnonFinite)]
    exact ⟨⟨fun key _ => hvalue key, fun h => absurd h hnonFinite, fun _ => (hvalue _).trans hnone⟩,
      h.other⟩

/-- The map of the builder, in the end. -/
theorem isPayload_bizEventPayload (type : UTF8String) (attributes : Option ℕ) (maps : Heap JsonObjectMap) :
    IsPayload
      (precedence source type (customAttributesSize doubleText type attributes maps)
        (userValue attributes maps))
      ((bizEventPayload source doubleText type attributes maps).1.getAttributes
        (bizEventPayload source doubleText type attributes maps).2) ∧
      ∀ r < maps.size, (bizEventPayload source doubleText type attributes maps).2.get r = maps.get r := by
  have hlayered := Layered.addBizEventAttributes source doubleText type attributes maps
  dsimp only at hlayered
  obtain ⟨hpayload, hother⟩ := hlayered.isPayload_markNonFiniteNumericValues rfl
    (precedence_keyHasNfnValues source type _ (userValue attributes maps))
  exact ⟨hpayload, fun r hr => hother r (Nat.ne_of_lt hr)⟩

/-! ## The record -/

/-- A record is the event with a payload. -/
def CarriesPayload (jsonPayload : List UInt8) (record : BeaconRecord) : Prop :=
  record.kind = .event ∧ (EventData.valuesOf EventData.keyEventPayload record.data).map EventData.urldecodeData =
    [(validateString jsonPayload).data]

/-- **A business event is recorded** while capturing is on, if its payload is not too long. -/
theorem exists_run_sendBizEvent (caller : Caller) {type : UTF8String} {jsonPayload : List UInt8}
    {r : Reporting} (htype : type.isEmpty = false) (hcapture : r.beacon.isDataCapturingEnabled = true)
    (hlength : jsonPayload.length ≤ BeaconReports.eventPayloadBytesLength) :
    ∃ r' record, (BeaconReports.sendBizEvent caller type jsonPayload).run r = (.ok (), r') ∧
      r'.records = r.records ++ [record] ∧ CarriesPayload jsonPayload record := by
  have hkey : EventData.IsKey EventData.keyEventPayload := by decide
  have htype' : EventData.HasValues EventData.keyEventPayload []
      (EventData.addKeyIntPair .nil EventData.keyEventType EventType.event.toInt) :=
    .first hkey (by decide) (by decide) _
  have hvalues := (htype'.add hkey (validateString jsonPayload)).values
  refine ⟨_, _, BeaconReports.run_sendBizEvent hcapture htype hlength, rfl, rfl, ?_⟩
  rw [hvalues, List.nil_append, List.map_singleton, EventData.urldecodeData_urlencode]

/-- **The payload of a business event** is the text of a map with the values that count, and that is what
is recorded. All maps that were there before, that of the user among them, are as they were. -/
theorem sendBizEvent_spec (caller : Caller) (type : UTF8String) (attributes : Option ℕ)
    (maps : Heap JsonObjectMap) :
    ∃ payload : JsonObjectMap,
      IsPayload
        (precedence source type (customAttributesSize doubleText type attributes maps)
          (userValue attributes maps)) payload ∧
      sendBizEvent source doubleText caller type attributes maps =
        BeaconReports.sendBizEvent caller type (mapText doubleText payload) ∧
      (∀ r : Reporting, type.isEmpty = false → r.beacon.isDataCapturingEnabled = true →
        (mapText doubleText payload).length ≤ BeaconReports.eventPayloadBytesLength →
        ∃ r' record, (sendBizEvent source doubleText caller type attributes maps).run r = (.ok (), r') ∧
          r'.records = r.records ++ [record] ∧ CarriesPayload (mapText doubleText payload) record) ∧
      ∀ r < maps.size, (bizEventPayload source doubleText type attributes maps).2.get r = maps.get r := by
  obtain ⟨hpayload, hother⟩ := isPayload_bizEventPayload source doubleText type attributes maps
  exact ⟨_, hpayload, rfl, fun _ => exists_run_sendBizEvent caller, hother⟩

end EventPayloads

end OpenKit
