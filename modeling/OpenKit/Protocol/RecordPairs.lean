import OpenKit.Core.Utf8Characters
import OpenKit.Protocol.NumberTexts

/-!
# The pairs in the text of a record

The text of a record is split at its separators, which stand in no key and are escaped in every value.
So the values of a key in a text are those of the pairs it was built from.

## Main definitions

* `EventData.valuesOf`: the values of a key in a text
* `EventData.sequenceNumbers`: the sequence numbers that a text shows
* `EventData.Shows`: a text of an event type that shows some start and end numbers

## Main results

* `valuesOf_addKeyValuePair`: each pair adds its value to those of its key
* `Shows.addOther`, `Shows.addStart`, `Shows.addEnd`: what a pair adds to the numbers shown
-/

namespace OpenKit

namespace EventData

/-- The value in a pair with the given key. -/
def valueIn (key : UTF8String) (pair : List UInt8) : Option (List UInt8) :=
  if key.data ++ [61] <+: pair then some (pair.drop (key.data.length + 1)) else none

/-- The values of a key in the text of a record. -/
def valuesOf (key text : UTF8String) : List (List UInt8) :=
  (text.data.splitOn 38).filterMap (valueIn key)

/-- The sequence numbers in the text of a record, as they are written. -/
def sequenceNumbers (text : UTF8String) : List (List UInt8) :=
  valuesOf keyStartSequenceNumber text ++ valuesOf keyEndSequenceNumber text

/-- A number as it is written. -/
def decimal (value : ℤ) : List UInt8 := (toInvariantString value).data

/-- A key of two characters, none of them a separator. -/
def IsKey (key : UTF8String) : Prop := key.data.length = 2 ∧ key.stringLength = 2 ∧ 38 ∉ key.data

instance (key : UTF8String) : Decidable (IsKey key) :=
  inferInstanceAs (Decidable (key.data.length = 2 ∧ key.stringLength = 2 ∧ 38 ∉ key.data))

section Pairs

variable {key key' s value : UTF8String}

theorem IsKey.consistent (h : IsKey key) : key.Consistent := by
  intro hlength
  rw [h.2.1] at hlength
  cases hlength

/-- **Values are escaped**: they have ASCII characters only, and none that separates. -/
theorem urlencode_bytes (value : UTF8String) :
    ∀ b ∈ (urlencode value [95]).data,
      b ≠ 0 ∧ UTF8String.getByteWidthOfCharacter b = 1 ∧ b ≠ 38 ∧ b ≠ 61 := by
  have hkept : ∀ b ∈ unreservedCharactersRFC3986,
      b ≠ 0 ∧ UTF8String.getByteWidthOfCharacter b = 1 ∧ b ≠ 38 ∧ b ≠ 61 :=
    List.all_iff_forall_prop.mp (by decide)
  have hescaped : ∀ b : UInt8, ∀ e ∈ [37, hexCharacter (b >>> 4), hexCharacter (b &&& 15)],
      e ≠ 0 ∧ UTF8String.getByteWidthOfCharacter e = 1 ∧ e ≠ 38 ∧ e ≠ 61 := by
    refine UTF8String.forall_byte fun n hn => List.all_iff_forall_prop.mp ?_
    revert n hn
    decide +kernel
  intro e he
  obtain ⟨b, -, hb⟩ := List.mem_flatMap.mp he
  rw [urlencodeByte] at hb
  split at hb
  next h =>
    rw [List.mem_singleton.mp hb]
    exact hkept b h.1
  next => exact hescaped b e hb

theorem ampersand_notMem_urlencode (value : UTF8String) : 38 ∉ (urlencode value [95]).data :=
  fun hmem => (urlencode_bytes value 38 hmem).2.2.1 rfl

theorem consistent_urlencode (value : UTF8String) : (urlencode value [95]).Consistent :=
  fun hlength => List.length_eq_zero_iff.mp hlength

/-- The bytes of a pair. -/
def pairData (key value : UTF8String) : List UInt8 := key.data ++ 61 :: (urlencode value [95]).data

theorem ampersand_notMem_pairData (hkey : 38 ∉ key.data) : 38 ∉ pairData key value := by
  rw [pairData, List.mem_append, List.mem_cons]
  rintro (hmem | hmem | hmem)
  · exact hkey hmem
  · exact absurd hmem (by decide)
  · exact ampersand_notMem_urlencode value hmem

/-- A pair has one key. -/
theorem valueIn_pairData (hkey : IsKey key) (hkey' : IsKey key') : valueIn key' (pairData key value) =
    if key.data = key'.data then some (urlencode value [95]).data else none := by
  have hpair : pairData key value = key.data ++ [61] ++ (urlencode value [95]).data := by
    rw [pairData, List.append_assoc]
    rfl
  have hlength : (key'.data ++ [61]).length = (key.data ++ [61]).length := by
    rw [List.length_append, List.length_append, hkey.1, hkey'.1]
  rw [valueIn]
  by_cases hsame : key.data = key'.data
  · have hdrop : (pairData key value).drop (key'.data.length + 1) = (urlencode value [95]).data := by
      rw [hpair, List.drop_append_of_le_length (by rw [← hlength, List.length_append]; rfl), ← hsame]
      simp
    rw [if_pos hsame, ← hsame, if_pos ⟨_, hpair.symm⟩, hsame, hdrop]
  · rw [if_neg hsame, if_neg]
    intro hprefix
    rw [hpair] at hprefix
    have hkeys := List.prefix_of_prefix_length_le hprefix (List.prefix_append _ _) hlength.le
    exact hsame (List.append_cancel_right (hkeys.eq_of_length hlength)).symm

theorem filterMap_pairData (hkey : IsKey key) (hkey' : IsKey key') :
    [pairData key value].filterMap (valueIn key') =
      if key.data = key'.data then [(urlencode value [95]).data] else [] := by
  rw [List.filterMap_cons, valueIn_pairData hkey hkey']
  by_cases hsame : key.data = key'.data
  · rw [if_pos hsame, if_pos hsame]
    rfl
  · rw [if_neg hsame, if_neg hsame]
    rfl

/-- The first pair. -/
theorem data_addKeyValuePair_nil (hkey : key.Consistent) :
    (addKeyValuePair .nil key value).data = pairData key value := by
  rw [addKeyValuePair, UTF8String.concatenate_data (consistent_urlencode value), appendKey,
    UTF8String.concatenate_data (UTF8String.consistent_ofAscii _),
    UTF8String.concatenate_data hkey, pairData]
  exact List.append_assoc _ _ _

/-- A further pair. -/
theorem data_addKeyValuePair (hs : s.isEmpty = false) (hkey : key.Consistent) :
    (addKeyValuePair s key value).data = s.data ++ 38 :: pairData key value := by
  rw [addKeyValuePair, UTF8String.concatenate_data (consistent_urlencode value), appendKey,
    UTF8String.concatenate_data (UTF8String.consistent_ofAscii _), hs, Bool.not_false, if_pos rfl,
    UTF8String.concatenate_data hkey,
    UTF8String.concatenate_data (UTF8String.consistent_ofAscii _), pairData]
  simp [UTF8String.ofAscii]

theorem valuesOf_addKeyValuePair_nil (hkey : IsKey key) (hkey' : IsKey key') :
    valuesOf key' (addKeyValuePair .nil key value) =
      if key.data = key'.data then [(urlencode value [95]).data] else [] := by
  rw [valuesOf, data_addKeyValuePair_nil hkey.consistent,
    List.splitOn_eq_singleton (ampersand_notMem_pairData hkey.2.2),
    filterMap_pairData hkey hkey']

/-- **Each pair adds its value** to those of its key. -/
theorem valuesOf_addKeyValuePair (hs : s.isEmpty = false) (hkey : IsKey key) (hkey' : IsKey key') :
    valuesOf key' (addKeyValuePair s key value) =
      valuesOf key' s ++ if key.data = key'.data then [(urlencode value [95]).data] else [] := by
  rw [valuesOf, data_addKeyValuePair hs hkey.consistent, List.splitOn_append_cons_self,
    List.filterMap_append, List.splitOn_eq_singleton (ampersand_notMem_pairData hkey.2.2),
    filterMap_pairData hkey hkey']
  rfl

theorem valuesOf_nil (key : UTF8String) : valuesOf key .nil = [] := by
  have hnone : valueIn key [] = none := if_neg fun h => by
    have hlength := h.length_le
    rw [List.length_append, List.length_singleton] at hlength
    exact absurd hlength (Nat.not_succ_le_zero _)
  rw [valuesOf, UTF8String.nil, List.splitOn_nil, List.filterMap_cons_none hnone]
  rfl

/-- **Joined texts** have the values of both. -/
theorem valuesOf_join {t : UTF8String} (ht : t.Consistent) (key s : UTF8String) :
    valuesOf key ((s.concatenate (.ofAscii ['&'])).concatenate t) = valuesOf key s ++ valuesOf key t := by
  have hdata : ((s.concatenate (.ofAscii ['&'])).concatenate t).data = s.data ++ 38 :: t.data := by
    rw [UTF8String.concatenate_data ht, UTF8String.concatenate_data (UTF8String.consistent_ofAscii _),
      List.append_assoc]
    rfl
  rw [valuesOf, hdata, List.splitOn_append_cons_self, List.filterMap_append]
  rfl

end Pairs

/-! ## The values of a key -/

/-- A text with some values of a key. -/
structure HasValues (key : UTF8String) (values : List (List UInt8)) (text : UTF8String) : Prop where
  isEmpty : text.isEmpty = false
  values : valuesOf key text = values

/-- A text with a pair is not empty. -/
theorem isEmpty_addKeyValuePair (text key value : UTF8String) :
    (addKeyValuePair text key value).isEmpty = false := by
  rw [UTF8String.isEmpty_eq_false_iff, addKeyValuePair, appendKey, UTF8String.concatenate_stringLength,
    UTF8String.concatenate_stringLength]
  exact Nat.add_pos_left (Nat.add_pos_right _ Nat.one_pos) _

namespace HasValues

variable {key key' text : UTF8String} {values : List (List UInt8)}

theorem consistent (h : HasValues key values text) : text.Consistent := fun hlength => by
  have hpos := UTF8String.isEmpty_eq_false_iff.mp h.isEmpty
  rw [hlength] at hpos
  exact absurd hpos (lt_irrefl 0)

theorem first (hkey : IsKey key) (hkey' : IsKey key') (hne : key'.data ≠ key.data) (value : UTF8String) :
    HasValues key [] (addKeyValuePair .nil key' value) := by
  refine ⟨isEmpty_addKeyValuePair .nil _ _, ?_⟩
  rw [valuesOf_addKeyValuePair_nil hkey' hkey, if_neg hne]

theorem join {t : UTF8String} {values' : List (List UInt8)} (h : HasValues key values text)
    (ht : HasValues key values' t) :
    HasValues key (values ++ values') ((text.concatenate (.ofAscii ['&'])).concatenate t) := by
  refine ⟨?_, by rw [valuesOf_join ht.consistent, h.values, ht.values]⟩
  rw [UTF8String.isEmpty_eq_false_iff, UTF8String.concatenate_stringLength]
  exact Nat.add_pos_right _ (UTF8String.isEmpty_eq_false_iff.mp ht.isEmpty)

theorem addOther (h : HasValues key values text) (hkey : IsKey key) (hkey' : IsKey key')
    (hne : key'.data ≠ key.data) (value : UTF8String) :
    HasValues key values (addKeyValuePair text key' value) := by
  refine ⟨isEmpty_addKeyValuePair text key' value, ?_⟩
  rw [valuesOf_addKeyValuePair h.isEmpty hkey' hkey, if_neg hne, List.append_nil, h.values]

theorem addOtherIfNotEmpty (h : HasValues key values text) (hkey : IsKey key) (hkey' : IsKey key')
    (hne : key'.data ≠ key.data) (value : UTF8String) :
    HasValues key values (addKeyValuePairIfNotEmpty text key' value) := by
  rw [addKeyValuePairIfNotEmpty]
  split
  · exact h.addOther hkey hkey' hne value
  · exact h

theorem addOtherIfPresent (h : HasValues key values text) (hkey : IsKey key) (hkey' : IsKey key')
    (hne : key'.data ≠ key.data) (value : ℤ) :
    HasValues key values (addKeyIntPairIfPresent text key' value) := by
  rw [addKeyIntPairIfPresent]
  split
  · exact h.addOther hkey hkey' hne _
  · exact h

theorem add (h : HasValues key values text) (hkey : IsKey key) (value : UTF8String) :
    HasValues key (values ++ [(urlencode value [95]).data]) (addKeyValuePair text key value) := by
  refine ⟨isEmpty_addKeyValuePair text key value, ?_⟩
  rw [valuesOf_addKeyValuePair h.isEmpty hkey hkey, if_pos rfl, h.values]

theorem addIfNotEmpty (h : HasValues key [] text) (hkey : IsKey key) (value : UTF8String) :
    HasValues key (if value.getStringLength > 0 then [(urlencode value [95]).data] else [])
      (addKeyValuePairIfNotEmpty text key value) := by
  rw [addKeyValuePairIfNotEmpty]
  split
  · exact h.add hkey value
  · exact h

theorem addIfPresent (h : HasValues key [] text) (hkey : IsKey key) (value : ℤ) :
    HasValues key (if value > -1 then [decimal value] else [])
      (addKeyIntPairIfPresent text key value) := by
  rw [addKeyIntPairIfPresent]
  split
  · have hadded := h.add hkey (toInvariantString value)
    rw [data_urlencode_toInvariantString] at hadded
    exact hadded
  · exact h

end HasValues

/-- What every text starts with has three keys at most. -/
theorem hasValues_createBasicEventData {key : UTF8String} (hkey : IsKey key)
    (hother : key.data ∉ [keyEventType.data, keyThreadID.data, keyName.data]) (threadID : ℤ)
    (eventType : EventType) (eventName : UTF8String) :
    HasValues key [] (createBasicEventData threadID eventType eventName) := by
  have hne (key' : UTF8String) (h : key'.data ∈ [keyEventType.data, keyThreadID.data, keyName.data]) :
      key'.data ≠ key.data := fun hsame => hother (hsame ▸ h)
  have htype : HasValues key [] (addKeyIntPair .nil keyEventType eventType.toInt) :=
    .first hkey (by decide) (hne _ (by decide)) _
  have hthread : HasValues key [] (createBasicEventDataWithoutName threadID eventType) :=
    htype.addOther hkey (by decide) (hne _ (by decide)) _
  rw [createBasicEventData]
  split
  · exact hthread.addOther hkey (by decide) (hne _ (by decide)) _
  · exact hthread

/-! ## The numbers that a text shows -/

/-- A text of an event type that shows some start and end sequence numbers. -/
structure Shows (eventType : EventType) (starts ends : List ℤ) (text : UTF8String) : Prop where
  hasEventType : HasEventType eventType text
  starts : valuesOf keyStartSequenceNumber text = starts.map decimal
  ends : valuesOf keyEndSequenceNumber text = ends.map decimal

/-- A key of no sequence number. -/
def IsOtherKey (key : UTF8String) : Prop :=
  IsKey key ∧ key.data ≠ keyStartSequenceNumber.data ∧ key.data ≠ keyEndSequenceNumber.data

instance (key : UTF8String) : Decidable (IsOtherKey key) :=
  inferInstanceAs (Decidable (IsKey key ∧ key.data ≠ keyStartSequenceNumber.data ∧
    key.data ≠ keyEndSequenceNumber.data))

theorem isKey_start : IsKey keyStartSequenceNumber := by decide

theorem isKey_end : IsKey keyEndSequenceNumber := by decide

theorem Shows.sequenceNumbers {eventType : EventType} {starts ends : List ℤ} {text : UTF8String}
    (h : Shows eventType starts ends text) :
    sequenceNumbers text = (starts ++ ends).map decimal := by
  rw [EventData.sequenceNumbers, h.starts, h.ends, List.map_append]

namespace Shows

variable {eventType : EventType} {starts ends : List ℤ} {text key : UTF8String}

theorem isEmpty (h : Shows eventType starts ends text) : text.isEmpty = false :=
  h.hasEventType.isReportText.isEmpty

/-- Other pairs add no number. -/
theorem addOther (h : Shows eventType starts ends text) (hkey : IsOtherKey key) (value : UTF8String) :
    Shows eventType starts ends (addKeyValuePair text key value) := by
  obtain ⟨hkey, hstart, hend⟩ := hkey
  refine ⟨h.hasEventType.addKeyValuePair key value, ?_, ?_⟩
  · rw [valuesOf_addKeyValuePair h.isEmpty hkey isKey_start, if_neg hstart, List.append_nil, h.starts]
  · rw [valuesOf_addKeyValuePair h.isEmpty hkey isKey_end, if_neg hend, List.append_nil, h.ends]

theorem addOtherIfNotEmpty (h : Shows eventType starts ends text) (hkey : IsOtherKey key)
    (value : UTF8String) :
    Shows eventType starts ends (addKeyValuePairIfNotEmpty text key value) := by
  rw [addKeyValuePairIfNotEmpty]
  split
  · exact h.addOther hkey value
  · exact h

theorem addOtherIfPresent (h : Shows eventType starts ends text) (hkey : IsOtherKey key) (value : ℤ) :
    Shows eventType starts ends (addKeyIntPairIfPresent text key value) := by
  rw [addKeyIntPairIfPresent]
  split
  · exact h.addOther hkey _
  · exact h

/-- The pair of a start number. -/
theorem addStart (h : Shows eventType starts ends text) (value : ℤ) :
    Shows eventType (starts ++ [value]) ends (addKeyIntPair text keyStartSequenceNumber value) := by
  refine ⟨h.hasEventType.addKeyIntPair _ value, ?_, ?_⟩
  · rw [addKeyIntPair, valuesOf_addKeyValuePair h.isEmpty isKey_start isKey_start, if_pos rfl,
      data_urlencode_toInvariantString, h.starts, List.map_append]
    rfl
  · rw [addKeyIntPair, valuesOf_addKeyValuePair h.isEmpty isKey_start isKey_end, if_neg (by decide),
      List.append_nil, h.ends]

/-- The pair of an end number. -/
theorem addEnd (h : Shows eventType starts ends text) (value : ℤ) :
    Shows eventType starts (ends ++ [value]) (addKeyIntPair text keyEndSequenceNumber value) := by
  refine ⟨h.hasEventType.addKeyIntPair _ value, ?_, ?_⟩
  · rw [addKeyIntPair, valuesOf_addKeyValuePair h.isEmpty isKey_end isKey_start, if_neg (by decide),
      List.append_nil, h.starts]
  · rw [addKeyIntPair, valuesOf_addKeyValuePair h.isEmpty isKey_end isKey_end, if_pos rfl,
      data_urlencode_toInvariantString, h.ends, List.map_append]
    rfl

end Shows

/-- The first two pairs of a text show no number. -/
theorem shows_addKeyValuePair_eventType (eventType : EventType) {key : UTF8String}
    (hkey : IsOtherKey key) (value : UTF8String) : Shows eventType [] []
      (addKeyValuePair (addKeyIntPair .nil keyEventType eventType.toInt) key value) := by
  obtain ⟨hkey, hstart, hend⟩ := hkey
  have hfirst : (addKeyIntPair .nil keyEventType eventType.toInt).isEmpty = false :=
    (isReportText_eventType _).isEmpty
  have htype : IsKey keyEventType := by decide
  refine ⟨hasEventType_addKeyValuePair_eventType eventType key value, ?_, ?_⟩
  · rw [valuesOf_addKeyValuePair hfirst hkey isKey_start, if_neg hstart, addKeyIntPair,
      valuesOf_addKeyValuePair_nil htype isKey_start, if_neg (by decide)]
    rfl
  · rw [valuesOf_addKeyValuePair hfirst hkey isKey_end, if_neg hend, addKeyIntPair,
      valuesOf_addKeyValuePair_nil htype isKey_end, if_neg (by decide)]
    rfl

theorem shows_createBasicEventDataWithoutName (threadID : ℤ) (eventType : EventType) :
    Shows eventType [] [] (createBasicEventDataWithoutName threadID eventType) :=
  shows_addKeyValuePair_eventType eventType (by decide) _

theorem shows_createBasicEventData (threadID : ℤ) (eventType : EventType) (eventName : UTF8String) :
    Shows eventType [] [] (createBasicEventData threadID eventType eventName) := by
  have h := shows_createBasicEventDataWithoutName threadID eventType
  rw [createBasicEventData]
  split
  · exact h.addOther (by decide) _
  · exact h

end EventData

end OpenKit
