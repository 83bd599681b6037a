import OpenKit.Objects.SessionCreator
import OpenKit.Protocol.Framing

/-!
# The fields of a tag

A web request tag is split at its underscores. No number has one, and the application id is escaped with
the underscore counted as reserved. The sequence number of a session stands behind a hyphen that is no
sign, as it is not at the beginning of its field.

## Main definitions

* `SessionObject.TagComponents`: what a tag is made of
* `SessionObject.tagFields`, `readTag`: the fields of a tag, and the components that are read from them

## Main results

* `SessionObject.data_createTag`: a tag is its nine fields with underscores between them
* `SessionObject.readTag_createTag`: the components are read from a tag as they went into it
-/

namespace OpenKit

open EventData

namespace SessionObject

/-- What a tag is made of. The sequence number of the session is left out in the first version of the
visit store. -/
structure TagComponents where
  serverId : ℤ
  deviceID : ℤ
  sessionNumber : ℤ
  sessionSequenceNumber : Option ℤ
  applicationID : UTF8String
  parentActionID : ℤ
  threadID : ℤ
  sequenceNumber : ℤ
deriving DecidableEq, Repr

/-- Whether the tags of a session have its sequence number. -/
def hasSequenceNumber (o : SessionObject) : Bool :=
  o.beaconConfiguration.getServerConfiguration.visitStoreVersion > 1

def tagComponents (o : SessionObject) (threadID parentActionID sequenceNumber : ℤ) : TagComponents where
  serverId := o.beaconConfiguration.getServerConfiguration.serverId
  deviceID := o.deviceID
  sessionNumber := o.sessionNumber
  sessionSequenceNumber := if o.hasSequenceNumber then some o.beaconKey.beaconSequenceNumber else none
  applicationID := o.openKitConfiguration.applicationID
  parentActionID := parentActionID
  threadID := threadID
  sequenceNumber := sequenceNumber

/-! ## Reading -/

/-- What a tag is split into. -/
def tagFields (tag : UTF8String) : List (List UInt8) := tag.data.splitOn 95

/-- The number of a session ends at the first hyphen that is not a sign. -/
def sessionNumberIn : List UInt8 → List UInt8
  | [] => []
  | sign :: digits => sign :: digits.takeWhile (· ≠ 45)

/-- The sequence number of a session stands behind this hyphen. -/
def sequenceNumberIn (field : List UInt8) : List UInt8 := (field.tail.dropWhile (· ≠ 45)).drop 1

/-- The components that are read from the fields of a tag. -/
def readTag (hasSequenceNumber : Bool) (tag : UTF8String) : Option TagComponents :=
  match tagFields tag with
  | [_, _, serverId, deviceID, session, applicationID, parentActionID, threadID, sequenceNumber] =>
    some
      { serverId := readNumber serverId
        deviceID := readNumber deviceID
        sessionNumber :=
          readNumber (if hasSequenceNumber then sessionNumberIn session else session)
        sessionSequenceNumber :=
          if hasSequenceNumber then some (readNumber (sequenceNumberIn session)) else none
        applicationID := urldecode (.validateString applicationID)
        parentActionID := readNumber parentActionID
        threadID := readNumber threadID
        sequenceNumber := readNumber sequenceNumber }
  | _ => none

/-! ## Fields -/

/-- The field of a session. -/
def sessionField (sessionNumber : ℤ) : Option ℤ → List UInt8
  | none => decimal sessionNumber
  | some sessionSequenceNumber => decimal sessionNumber ++ 45 :: decimal sessionSequenceNumber

/-- The nine fields of a tag. -/
def fieldsOf (c : TagComponents) : List (List UInt8) :=
  [[77, 84], decimal protocolVersion, decimal c.serverId, decimal c.deviceID,
    sessionField c.sessionNumber c.sessionSequenceNumber, (urlencode c.applicationID [95]).data,
    decimal c.parentActionID, decimal c.threadID, decimal c.sequenceNumber]

/-- A number has a first character, and no hyphen behind it. -/
theorem decimal_eq_cons (value : ℤ) : ∃ sign digits, decimal value = sign :: digits ∧ 45 ∉ digits := by
  have hdigits (n : ℕ) : 45 ∉ (UTF8String.ofAscii n.repr.toList).data := by
    intro hmem
    obtain ⟨c, hc, hbyte⟩ := List.mem_map.mp hmem
    rw [Nat.toList_repr] at hc
    obtain ⟨hzero, hnine⟩ := Char.isDigit_iff_toNat.mp
      (Nat.isDigit_of_mem_toDigits (by decide) (by decide) hc)
    have hcode := UTF8String.toNat_toUInt8 (c := c) (hnine.trans_lt (by decide))
    rw [hbyte] at hcode
    exact absurd (hcode ▸ hzero) (by decide)
  rw [decimal, toInvariantString, Int.toString_eq_repr, Int.repr_eq_if]
  split
  · rcases hcs : value.toNat.repr.toList with _ | ⟨c, cs⟩
    · rw [Nat.toList_repr] at hcs
      exact absurd hcs Nat.toDigits_ne_nil
    · have hnone := hdigits value.toNat
      rw [hcs] at hnone
      exact ⟨_, _, rfl, List.not_mem_of_not_mem_cons hnone⟩
  · rw [String.toList_append]
    exact ⟨45, _, rfl, hdigits _⟩

/-- An escaped value has no underscore. -/
theorem underscore_notMem_urlencode (value : UTF8String) : 95 ∉ (urlencode value [95]).data := by
  have hescaped : ∀ b : UInt8, 95 ∉ [37, hexCharacter (b >>> 4), hexCharacter (b &&& 15)] :=
    UTF8String.forall_byte (by decide +kernel)
  intro hmem
  obtain ⟨b, -, hb⟩ := List.mem_flatMap.mp hmem
  rw [urlencodeByte] at hb
  split at hb
  next h =>
    rw [← List.mem_singleton.mp hb] at h
    exact h.2 List.mem_cons_self
  next => exact hescaped b hb

theorem underscore_notMem_sessionField (sessionNumber : ℤ) (sessionSequenceNumber : Option ℤ) :
    95 ∉ sessionField sessionNumber sessionSequenceNumber := by
  cases sessionSequenceNumber with
  | none => exact underscore_notMem_toInvariantString sessionNumber
  | some sessionSequenceNumber =>
    intro hmem
    rcases List.mem_append.mp hmem with hmem | hmem
    · exact underscore_notMem_toInvariantString sessionNumber hmem
    · rcases List.mem_cons.mp hmem with hhyphen | hmem
      · exact absurd hhyphen (by decide)
      · exact underscore_notMem_toInvariantString sessionSequenceNumber hmem

/-- **A tag is split** into its nine fields. -/
theorem splitOn_fieldsOf (c : TagComponents) : ([95].intercalate (fieldsOf c)).splitOn 95 = fieldsOf c := by
  have hnumber := underscore_notMem_toInvariantString
  refine List.splitOn_intercalate 95 ?_ (List.cons_ne_nil _ _)
  refine List.forall_mem_cons.mpr ⟨by decide, List.forall_mem_cons.mpr ⟨hnumber _,
    List.forall_mem_cons.mpr ⟨hnumber _, List.forall_mem_cons.mpr ⟨hnumber _,
      List.forall_mem_cons.mpr ⟨underscore_notMem_sessionField _ _, List.forall_mem_cons.mpr
        ⟨underscore_notMem_urlencode _, ?_⟩⟩⟩⟩⟩⟩
  exact List.forall_mem_cons.mpr ⟨hnumber _, List.forall_mem_cons.mpr ⟨hnumber _,
    List.forall_mem_singleton.mpr (hnumber _)⟩⟩

/-- The number of a session is read from its field. -/
theorem sessionNumberIn_sessionField (sessionNumber sessionSequenceNumber : ℤ) :
    sessionNumberIn (sessionField sessionNumber (some sessionSequenceNumber)) = decimal sessionNumber ∧
      sequenceNumberIn (sessionField sessionNumber (some sessionSequenceNumber)) =
        decimal sessionSequenceNumber := by
  obtain ⟨sign, digits, hnumber, hdigits⟩ := decimal_eq_cons sessionNumber
  have hpass : ∀ b ∈ digits, (decide (b ≠ 45)) = true :=
    fun b hb => decide_eq_true fun hsame => hdigits (hsame ▸ hb)
  rw [sessionField, hnumber]
  constructor
  · rw [List.cons_append, sessionNumberIn, List.takeWhile_append_of_pos hpass,
      List.takeWhile_cons_of_neg (by simp), List.append_nil]
  · rw [sequenceNumberIn, List.cons_append, List.tail_cons, List.dropWhile_append_of_pos hpass,
      List.dropWhile_cons_of_neg (by simp), List.drop_one, List.tail_cons]

/-- **The components are read** from the fields. -/
theorem readTag_fieldsOf {c : TagComponents} (h : c.applicationID.IsText) {tag : UTF8String}
    (htag : tag.data = [95].intercalate (fieldsOf c)) :
    readTag c.sessionSequenceNumber.isSome tag = some c := by
  have hfields : tagFields tag = fieldsOf c := by rw [tagFields, htag, splitOn_fieldsOf]
  obtain ⟨serverId, deviceID, sessionNumber, sessionSequenceNumber, applicationID, parentActionID,
    threadID, sequenceNumber⟩ := c
  have hdecoded : urldecode (.validateString (urlencode applicationID [95]).data) = applicationID :=
    urldecode_urlencode h
  have hnumber (value : ℤ) : readNumber (decimal value) = value := readNumber_toInvariantString value
  rw [readTag, hfields, fieldsOf]
  simp only [hdecoded, hnumber]
  cases sessionSequenceNumber with
  | none => simp only [Option.isSome_none, Bool.false_eq_true, if_false, sessionField, hnumber]
  | some sessionSequenceNumber =>
    obtain ⟨hsession, hsequence⟩ := sessionNumberIn_sessionField sessionNumber sessionSequenceNumber
    simp only [Option.isSome_some, if_true, hsession, hsequence, hnumber]

/-! ## Tags -/

theorem data_appendTagPart (tag : UTF8String) {part : UTF8String} (hpart : part.Consistent) :
    (appendTagPart tag part).data = tag.data ++ 95 :: part.data := by
  rw [appendTagPart, UTF8String.concatenate_data hpart,
    UTF8String.concatenate_data (UTF8String.consistent_ofAscii _), List.append_assoc]
  rfl

theorem data_tagPrefix (serverId : ℤ) :
    (tagPrefix serverId).data = [77, 84] ++ 95 :: (decimal protocolVersion ++ 95 :: decimal serverId) := by
  have hparts : tagPrefix serverId = appendTagPart (appendTagPart (.ofAscii ['M', 'T'])
    (toInvariantString protocolVersion)) (toInvariantString serverId) := rfl
  have hnumber (value : ℤ) : (toInvariantString value).Consistent := UTF8String.consistent_ofAscii _
  rw [hparts, data_appendTagPart _ (hnumber _), data_appendTagPart _ (hnumber _), List.append_assoc]
  rfl

variable {o o' : SessionObject}

/-- **A tag** is its nine fields with underscores between them. -/
theorem data_createTag
    (hallowed : o.beaconConfiguration.privacyConfiguration.isWebRequestTracingAllowed = true)
    (threadID parentActionID sequenceNumber : ℤ) :
    (o.createTag threadID parentActionID sequenceNumber).data =
      [95].intercalate (fieldsOf (o.tagComponents threadID parentActionID sequenceNumber)) := by
  have hnumber (value : ℤ) : (toInvariantString value).Consistent := UTF8String.consistent_ofAscii _
  rw [createTag, hallowed, Bool.not_true, if_neg Bool.false_ne_true]
  dsimp only
  rw [data_appendTagPart _ (hnumber _), data_appendTagPart _ (hnumber _),
    data_appendTagPart _ (hnumber _), data_appendTagPart _ (consistent_urlencode _)]
  -- the sequence number of the session is a part of its field from the second version on
  have hsession : (if o.beaconConfiguration.getServerConfiguration.visitStoreVersion > 1 then
      ((appendTagPart (appendTagPart (tagPrefix o.beaconConfiguration.getServerConfiguration.serverId)
        (toInvariantString o.deviceID)) (toInvariantString o.sessionNumber)).concatenate
          (.ofAscii ['-'])).concatenate (toInvariantString o.beaconKey.beaconSequenceNumber)
      else appendTagPart (appendTagPart
        (tagPrefix o.beaconConfiguration.getServerConfiguration.serverId)
          (toInvariantString o.deviceID)) (toInvariantString o.sessionNumber)).data =
      (tagPrefix o.beaconConfiguration.getServerConfiguration.serverId).data ++
        95 :: (decimal o.deviceID ++ 95 :: sessionField o.sessionNumber
          (if o.hasSequenceNumber then some o.beaconKey.beaconSequenceNumber else none)) := by
    have hparts : (appendTagPart (appendTagPart
        (tagPrefix o.beaconConfiguration.getServerConfiguration.serverId)
          (toInvariantString o.deviceID)) (toInvariantString o.sessionNumber)).data =
        (tagPrefix o.beaconConfiguration.getServerConfiguration.serverId).data ++
          95 :: (decimal o.deviceID ++ 95 :: decimal o.sessionNumber) := by
      rw [data_appendTagPart _ (hnumber _), data_appendTagPart _ (hnumber _), List.append_assoc]
      rfl
    rw [hasSequenceNumber]
    by_cases hversion : o.beaconConfiguration.getServerConfiguration.visitStoreVersion > 1
    · rw [if_pos hversion, decide_eq_true hversion, if_pos rfl,
        UTF8String.concatenate_data (hnumber _),
        UTF8String.concatenate_data (UTF8String.consistent_ofAscii _), hparts]
      simp [sessionField, decimal, UTF8String.ofAscii]
    · rw [if_neg hversion, decide_eq_false hversion, if_neg Bool.false_ne_true, hparts]
      rfl
  rw [hsession, data_tagPrefix]
  simp [fieldsOf, tagComponents, decimal, List.intercalate_cons_cons]

/-- **Tags are unambiguous**: a tag has nine fields, from which its components are read, so that no tag
with other components is the same. -/
theorem readTag_createTag
    (hallowed : o.beaconConfiguration.privacyConfiguration.isWebRequestTracingAllowed = true)
    (htext : o.openKitConfiguration.applicationID.IsText)
    (threadID parentActionID sequenceNumber : ℤ) :
    (tagFields (o.createTag threadID parentActionID sequenceNumber)).length = 9 ∧
      readTag o.hasSequenceNumber (o.createTag threadID parentActionID sequenceNumber) =
        some (o.tagComponents threadID parentActionID sequenceNumber) ∧
      ∀ (o' : SessionObject) (threadID' parentActionID' sequenceNumber' : ℤ),
        o'.beaconConfiguration.privacyConfiguration.isWebRequestTracingAllowed = true →
        o'.openKitConfiguration.applicationID.IsText → o'.hasSequenceNumber = o.hasSequenceNumber →
        o'.createTag threadID' parentActionID' sequenceNumber' =
          o.createTag threadID parentActionID sequenceNumber →
        o'.tagComponents threadID' parentActionID' sequenceNumber' =
          o.tagComponents threadID parentActionID sequenceNumber := by
  have hread {o : SessionObject} (threadID parentActionID sequenceNumber : ℤ)
      (hallowed : o.beaconConfiguration.privacyConfiguration.isWebRequestTracingAllowed = true)
      (htext : o.openKitConfiguration.applicationID.IsText) :
      readTag o.hasSequenceNumber (o.createTag threadID parentActionID sequenceNumber) =
        some (o.tagComponents threadID parentActionID sequenceNumber) := by
    have hclass : (o.tagComponents threadID parentActionID sequenceNumber).sessionSequenceNumber.isSome =
        o.hasSequenceNumber := by
      rw [tagComponents]
      cases o.hasSequenceNumber <;> rfl
    have hcomponents := readTag_fieldsOf (c := o.tagComponents threadID parentActionID sequenceNumber)
      htext (data_createTag hallowed threadID parentActionID sequenceNumber)
    rwa [hclass] at hcomponents
  refine ⟨?_, hread _ _ _ hallowed htext, ?_⟩
  · rw [tagFields, data_createTag hallowed, splitOn_fieldsOf]
    rfl
  · intro o' threadID' parentActionID' sequenceNumber' hallowed' htext' hclass hsame
    have hread' := hread threadID' parentActionID' sequenceNumber' hallowed' htext'
    rw [hclass, hsame, hread _ _ _ hallowed htext] at hread'
    exact (Option.some.inj hread').symm

/-- A session of an application with an umlaut and an underscore in its id, and with negative numbers. -/
theorem readTag_createTag_umlaut :
    let o := (SessionCreator.new ⟨.validateString (UTF8String.encodeText ['Ä', '_']), -7⟩
      ⟨.userBehavior, .optInCrashes⟩ 1 (-2) ⟨50, 9⟩).createSession 0 10 .nil
    (tagFields (o.createTag 3 (-1) 5)).length = 9 ∧
      readTag false (o.createTag 3 (-1) 5) =
        some ⟨-1, -7, -2, none, .validateString (UTF8String.encodeText ['Ä', '_']), -1, 3, 5⟩ := by
  intro o
  have hread := readTag_createTag (o := o) rfl
    ⟨['Ä', '_'], List.all_iff_forall_prop.mp (by decide), rfl⟩ 3 (-1) 5
  exact ⟨hread.1, hread.2.1⟩

end SessionObject

end OpenKit
