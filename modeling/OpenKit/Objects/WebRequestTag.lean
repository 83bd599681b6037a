import Mathlib.Data.List.Infix
import OpenKit.Objects.SessionCreator
import OpenKit.Protocol.NumberTexts

/-!
# The server that a tag names

A web request tag starts with a prefix, the version of the protocol and the id of a server, with an
underscore behind each. There is no underscore in the digits of a number, so a tag names one server at
most. The id is that of the server configuration of the beacon.

## Main definitions

* `SessionObject.CarriesServerId`: a tag names a server by its id

## Main results

* `carriesServerId_createTag`: a tag names the server of the server configuration
* `CarriesServerId.unique`: it names no other one
-/

namespace OpenKit

/-- A text that ends at the first delimiter is determined by what it is a prefix of. -/
theorem eq_of_prefix_delimited {α : Type} {x : α} {as bs text : List α} (ha : x ∉ as) (hb : x ∉ bs)
    (h : as ++ [x] <+: text) (h' : bs ++ [x] <+: text) : as = bs := by
  induction as generalizing bs text with
  | nil =>
    obtain ⟨rest, rfl⟩ := h
    cases bs with
    | nil => rfl
    | cons b bs =>
      obtain ⟨rfl, -⟩ := List.cons_prefix_cons.mp h'
      exact absurd List.mem_cons_self hb
  | cons a as ih =>
    obtain ⟨rest, rfl⟩ := h
    cases bs with
    | nil =>
      obtain ⟨rfl, -⟩ := List.cons_prefix_cons.mp h'
      exact absurd List.mem_cons_self ha
    | cons b bs =>
      obtain ⟨rfl, hbs⟩ := List.cons_prefix_cons.mp h'
      rw [ih (List.not_mem_of_not_mem_cons ha) (List.not_mem_of_not_mem_cons hb)
        (List.prefix_append _ rest) hbs]

namespace SessionObject

/-! ## Tags -/

/-- A tag names a server by its id, with an underscore behind it. -/
def CarriesServerId (tag : UTF8String) (serverId : ℤ) : Prop :=
  ((tagPrefix serverId).concatenate (.ofAscii ['_'])).HasPrefix tag

/-- The bytes up to the underscore behind the id of the server. -/
theorem data_tagPrefix_concatenate (serverId : ℤ) :
    ((tagPrefix serverId).concatenate (.ofAscii ['_'])).data =
      [77, 84, 95, 51, 95] ++ ((EventData.toInvariantString serverId).data ++ [95]) := by
  have hid : (EventData.toInvariantString serverId).Consistent := UTF8String.consistent_ofAscii _
  rw [UTF8String.concatenate_data (UTF8String.consistent_ofAscii _), tagPrefix,
    UTF8String.concatenate_data hid, List.append_assoc]
  rfl

/-- **A tag names one server.** -/
theorem CarriesServerId.unique {tag : UTF8String} {serverId serverId' : ℤ}
    (h : CarriesServerId tag serverId) (h' : CarriesServerId tag serverId') :
    serverId = serverId' := by
  have hdata := h.1
  have hdata' := h'.1
  rw [data_tagPrefix_concatenate] at hdata hdata'
  obtain ⟨rest, htag⟩ := hdata
  rw [← htag, List.append_assoc, List.prefix_append_right_inj] at hdata'
  exact EventData.toInvariantString_injective (eq_of_prefix_delimited
    (EventData.underscore_notMem_toInvariantString _)
    (EventData.underscore_notMem_toInvariantString _) (List.prefix_append _ rest) hdata')

variable {tag : UTF8String} {serverId : ℤ}

theorem CarriesServerId.appendTagPart (h : CarriesServerId tag serverId) (part : UTF8String) :
    CarriesServerId (appendTagPart tag part) serverId :=
  (h.concatenate _).concatenate part

theorem carriesServerId_appendTagPart_tagPrefix (serverId : ℤ) (part : UTF8String) :
    CarriesServerId (SessionObject.appendTagPart (tagPrefix serverId) part) serverId :=
  (UTF8String.HasPrefix.refl _).concatenate part

/-- **A tag names the server** of the server configuration of the beacon. -/
theorem carriesServerId_createTag {o : SessionObject}
    (hallowed : o.beaconConfiguration.privacyConfiguration.isWebRequestTracingAllowed = true)
    (threadID parentActionID sequenceNumber : ℤ) :
    CarriesServerId (o.createTag threadID parentActionID sequenceNumber)
      o.beaconConfiguration.getServerConfiguration.serverId := by
  rw [createTag, hallowed, Bool.not_true, if_neg Bool.false_ne_true]
  have hnumber := (carriesServerId_appendTagPart_tagPrefix
    o.beaconConfiguration.getServerConfiguration.serverId
    (EventData.toInvariantString o.deviceID)).appendTagPart
      (EventData.toInvariantString o.sessionNumber)
  refine CarriesServerId.appendTagPart (.appendTagPart (.appendTagPart (.appendTagPart ?_ _) _) _) _
  -- the sequence number of the session is a part of the tag only from the second version on
  split
  · exact (hnumber.concatenate _).concatenate _
  · exact hnumber

end SessionObject

end OpenKit
