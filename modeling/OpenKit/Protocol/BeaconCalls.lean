import OpenKit.Core.Utf8Characters
import OpenKit.Protocol.BeaconReports
import OpenKit.Protocol.NumberTexts

/-!
# Texts that are built of pairs

Every text that a beacon reports is built by appending pairs, with keys of the code and with escaped
values. So it has ASCII characters only, whatever the strings were that it was given, and its character
count is the number of its bytes.

## Main definitions

* `UTF8String.IsAscii`: ASCII characters only, as many as bytes
* `EventData.BuiltOfPairs`: a text that pairs were appended to
* `EventData.recordKeys`, `EventData.BuiltOf`: the keys in the texts of records, and a text with these
  only
* `BeaconCall`: the calls of the reporting functions of a beacon

## Main results

* `EventData.BuiltOfPairs.isAscii`: such a text has ASCII characters only
* `BeaconCall.guarantees_perform`: the text of every record that a call adds is built of pairs
-/

namespace OpenKit

open Thread

namespace UTF8String

/-- A string of ASCII characters, whose character count is the number of its bytes. -/
structure IsAscii (s : UTF8String) : Prop where
  bytes : ∀ b ∈ s.data, b < 128
  stringLength : s.stringLength = s.data.length

instance (s : UTF8String) : Decidable s.IsAscii :=
  decidable_of_iff ((s.data.all fun b => b < 128) = true ∧ s.stringLength = s.data.length)
    ⟨fun h => ⟨List.all_iff_forall_prop.mp h.1, h.2⟩,
      fun h => ⟨List.all_iff_forall_prop.mpr h.bytes, h.stringLength⟩⟩

theorem isAscii_nil : IsAscii .nil := ⟨List.forall_mem_nil _, rfl⟩

theorem IsAscii.consistent {s : UTF8String} (h : s.IsAscii) : s.Consistent :=
  fun hlength => List.length_eq_zero_iff.mp (h.stringLength.symm.trans hlength)

/-- Concatenation does not look at the bytes. -/
theorem IsAscii.concatenate {s t : UTF8String} (hs : s.IsAscii) (ht : t.IsAscii) :
    (s.concatenate t).IsAscii := by
  constructor
  · rw [concatenate_data ht.consistent]
    exact List.forall_mem_append.mpr ⟨hs.bytes, ht.bytes⟩
  · rw [concatenate_data ht.consistent, concatenate_stringLength, hs.stringLength, ht.stringLength,
      List.length_append]

end UTF8String

namespace EventData

/-- **Values are escaped.** Whatever the bytes were, those of the encoded value are ASCII characters. -/
theorem isAscii_urlencode (value : UTF8String) (additionalReservedCharacters : List UInt8) :
    (urlencode value additionalReservedCharacters).IsAscii := by
  have hkept : ∀ b ∈ unreservedCharactersRFC3986, b < 128 :=
    List.all_iff_forall_prop.mp (by decide)
  have hescaped : ∀ b : UInt8, ∀ e ∈ [37, hexCharacter (b >>> 4), hexCharacter (b &&& 15)],
      e < 128 := by
    refine UTF8String.forall_byte fun n hn => List.all_iff_forall_prop.mp ?_
    revert n hn
    decide +kernel
  refine ⟨fun e he => ?_, rfl⟩
  obtain ⟨b, -, hb⟩ := List.mem_flatMap.mp he
  rw [urlencodeByte] at hb
  split at hb
  next h =>
    rw [List.mem_singleton.mp hb]
    exact hkept b h.1
  next => exact hescaped b e hb

/-- A text that pairs were appended to, with ASCII keys. -/
inductive BuiltOfPairs : UTF8String → Prop
  | nil : BuiltOfPairs .nil
  | add {s : UTF8String} (h : BuiltOfPairs s) {key : UTF8String} (hkey : key.IsAscii)
      (value : UTF8String) : BuiltOfPairs (addKeyValuePair s key value)

section AddKeyValuePair

variable {s key : UTF8String}

theorem isAscii_addKeyValuePair (hs : s.IsAscii) (hkey : key.IsAscii) (value : UTF8String) :
    (addKeyValuePair s key value).IsAscii := by
  have hdelimiter : (UTF8String.ofAscii ['&']).IsAscii := by decide
  have hequals : (UTF8String.ofAscii ['=']).IsAscii := by decide
  have hstart : (if !s.isEmpty then s.concatenate (.ofAscii ['&']) else s).IsAscii := by
    split
    · exact hs.concatenate hdelimiter
    · exact hs
  exact ((hstart.concatenate hkey).concatenate hequals).concatenate (isAscii_urlencode value [95])

/-- **Texts built of pairs** have ASCII characters only. -/
theorem BuiltOfPairs.isAscii (h : BuiltOfPairs s) : s.IsAscii := by
  induction h with
  | nil => exact UTF8String.isAscii_nil
  | add _ hkey value ih => exact isAscii_addKeyValuePair ih hkey value

theorem BuiltOfPairs.addKeyIntPair (h : BuiltOfPairs s) (hkey : key.IsAscii) (value : ℤ) :
    BuiltOfPairs (addKeyIntPair s key value) :=
  h.add hkey _

theorem BuiltOfPairs.addKeyValuePairIfNotEmpty (h : BuiltOfPairs s) (hkey : key.IsAscii)
    (value : UTF8String) : BuiltOfPairs (addKeyValuePairIfNotEmpty s key value) := by
  rw [EventData.addKeyValuePairIfNotEmpty]
  split
  · exact h.add hkey value
  · exact h

theorem BuiltOfPairs.addKeyIntPairIfPresent (h : BuiltOfPairs s) (hkey : key.IsAscii) (value : ℤ) :
    BuiltOfPairs (addKeyIntPairIfPresent s key value) := by
  rw [EventData.addKeyIntPairIfPresent]
  split
  · exact h.addKeyIntPair hkey value
  · exact h

end AddKeyValuePair

/-! ### The keys of records -/

/-- The keys in the texts of records. -/
def recordKeys : List UTF8String :=
  [keyEventType, keyThreadID, keyName, keyActionID, keyParentActionID, keyStartSequenceNumber, keyTime0,
    keyEndSequenceNumber, keyTime1, keyValue, keyErrorValue, keyErrorReason, keyErrorStacktrace,
    keyErrorTechnologyType, keyWebrequestResponseCode, keyWebrequestBytesSent, keyWebrequestBytesReceived,
    keyEventPayload]

/-- A text that pairs were appended to, with some keys only. -/
inductive BuiltOf (keys : List UTF8String) : UTF8String → Prop
  | nil : BuiltOf keys .nil
  | add {s : UTF8String} (h : BuiltOf keys s) {key : UTF8String} (hkey : key ∈ keys)
      (value : UTF8String) : BuiltOf keys (addKeyValuePair s key value)

namespace BuiltOf

variable {keys : List UTF8String} {s key : UTF8String}

theorem builtOfPairs (h : BuiltOf keys s) (hkeys : ∀ key ∈ keys, key.IsAscii) : BuiltOfPairs s := by
  induction h with
  | nil => exact .nil
  | add _ hkey value ih => exact ih.add (hkeys _ hkey) value

theorem addKeyIntPair (h : BuiltOf keys s) (hkey : key ∈ keys) (value : ℤ) :
    BuiltOf keys (addKeyIntPair s key value) :=
  h.add hkey _

theorem addKeyValuePairIfNotEmpty (h : BuiltOf keys s) (hkey : key ∈ keys) (value : UTF8String) :
    BuiltOf keys (addKeyValuePairIfNotEmpty s key value) := by
  rw [EventData.addKeyValuePairIfNotEmpty]
  split
  · exact h.add hkey value
  · exact h

theorem addKeyIntPairIfPresent (h : BuiltOf keys s) (hkey : key ∈ keys) (value : ℤ) :
    BuiltOf keys (addKeyIntPairIfPresent s key value) := by
  rw [EventData.addKeyIntPairIfPresent]
  split
  · exact h.addKeyIntPair hkey value
  · exact h

end BuiltOf

theorem builtOf_createBasicEventDataWithoutName (threadID : ℤ) (eventType : EventType) :
    BuiltOf recordKeys (createBasicEventDataWithoutName threadID eventType) :=
  (BuiltOf.nil.addKeyIntPair (by decide) _).addKeyIntPair (by decide) _

theorem builtOf_createBasicEventData (threadID : ℤ) (eventType : EventType)
    (eventName : UTF8String) : BuiltOf recordKeys (createBasicEventData threadID eventType eventName) := by
  have h := builtOf_createBasicEventDataWithoutName threadID eventType
  rw [createBasicEventData]
  split
  · exact h.add (by decide) _
  · exact h

end EventData

/-! ## Calls of the reporting functions -/

/-- The calls of the reporting functions of a beacon. -/
inductive BeaconCall
  | startSession
  | endSession
  | reportIntValue (actionID : ℤ) (valueName : UTF8String) (value : ℤ)
  | reportDoubleValue (actionID : ℤ) (valueName value : UTF8String)
  | reportStringValue (actionID : ℤ) (valueName value : UTF8String)
  | reportEvent (actionID : ℤ) (eventName : UTF8String)
  | reportErrorCode (actionID : ℤ) (errorName : UTF8String) (errorCode : ℤ)
  | reportErrorCause (actionID : ℤ)
      (errorName causeName causeDescription causeStackTrace : UTF8String)
  | reportCrash (errorName reason stacktrace : UTF8String)
  | identifyUser (userTag : UTF8String)
  | addAction (action : ActionCommon)
  | addWebRequest (parentActionID : ℤ) (tracer : WebRequestTracer)
  | sendEvent (name : UTF8String) (jsonPayload : List UInt8)
  | sendBizEvent (type : UTF8String) (jsonPayload : List UInt8)

namespace BeaconCall

open BeaconReports EventData

/-- The reporting function of a call. -/
def perform (caller : Caller) : BeaconCall → Reporter Unit
  | startSession => BeaconReports.startSession caller
  | endSession => BeaconReports.endSession caller
  | reportIntValue actionID valueName value =>
    BeaconReports.reportIntValue caller actionID valueName value
  | reportDoubleValue actionID valueName value =>
    BeaconReports.reportDoubleValue caller actionID valueName value
  | reportStringValue actionID valueName value =>
    BeaconReports.reportStringValue caller actionID valueName value
  | reportEvent actionID eventName => BeaconReports.reportEvent caller actionID eventName
  | reportErrorCode actionID errorName errorCode =>
    BeaconReports.reportErrorCode caller actionID errorName errorCode
  | reportErrorCause actionID errorName causeName causeDescription causeStackTrace =>
    BeaconReports.reportErrorCause caller actionID errorName causeName causeDescription causeStackTrace
  | reportCrash errorName reason stacktrace =>
    BeaconReports.reportCrash caller errorName reason stacktrace
  | identifyUser userTag => BeaconReports.identifyUser caller userTag
  | addAction action => BeaconReports.addAction caller action
  | addWebRequest parentActionID tracer => BeaconReports.addWebRequest caller parentActionID tracer
  | sendEvent name jsonPayload => BeaconReports.sendEvent caller name jsonPayload
  | sendBizEvent type jsonPayload => BeaconReports.sendBizEvent caller type jsonPayload

/-- The texts of the records that an action of a report adds are built of pairs. -/
def AddsPairs (s s' : Reporting) : Prop :=
  ∀ record ∈ s'.records, record ∈ s.records ∨ BuiltOf recordKeys record.data

theorem AddsPairs.refl (s : Reporting) : AddsPairs s s := fun _ hrecord => .inl hrecord

theorem AddsPairs.trans {s s' s'' : Reporting} (h : AddsPairs s s') (h' : AddsPairs s' s'') :
    AddsPairs s s'' := by
  intro record hrecord
  rcases h' record hrecord with hold | hnew
  · exact h record hold
  · exact .inr hnew

variable {caller : Caller}

/-- An action that adds no record. -/
theorem guarantees_quiet {α : Type} {f : Reporting → α × Reporting}
    (h : ∀ s, (f s).2.records = s.records) :
    Program.Guarantees AddsPairs (Program.atomic f : Reporter α) := by
  refine Program.guarantees_atomic fun s record hrecord => ?_
  rw [h s] at hrecord
  exact .inl hrecord

theorem guarantees_addData {kind : RecordKind} {timestamp : ℤ} {data : UTF8String}
    (h : BuiltOf recordKeys data) :
    Program.Guarantees AddsPairs (addData kind timestamp data) := by
  refine Program.guarantees_atomic fun s => ?_
  show AddsPairs s (ite _ _ _)
  split
  · intro record hrecord
    rcases List.mem_append.mp hrecord with hold | hnew
    · exact .inl hold
    · rw [List.mem_singleton.mp hnew]
      exact .inr h
  · exact AddsPairs.refl s

theorem guarantees_requireNonEmpty (text : UTF8String) (message : String) :
    Program.Guarantees AddsPairs (requireNonEmpty text message) := by
  rw [requireNonEmpty]
  split
  · trivial
  · trivial

theorem guarantees_report {allowed : PrivacyConfiguration → Bool} {capturing : Beacon → Bool}
    {body : Reporter Unit} (h : Program.Guarantees AddsPairs body) :
    Program.Guarantees AddsPairs (report allowed capturing body) := by
  refine (guarantees_quiet fun _ => rfl).bind fun optedIn => ?_
  split
  · trivial
  · refine (guarantees_quiet fun _ => rfl).bind fun enabled => ?_
    split
    · trivial
    · exact h

/-- The origin is three more pairs. -/
theorem guarantees_addOrigin_bind {eventData : UTF8String} (h : BuiltOf recordKeys eventData)
    (parentActionID time0 : ℤ) {α : Type} {g : UTF8String → Reporter α}
    (hg : ∀ text, BuiltOf recordKeys text → Program.Guarantees AddsPairs (g text)) :
    Program.Guarantees AddsPairs (addOrigin eventData parentActionID time0 >>= g) := by
  rw [addOrigin, bind_assoc]
  refine (guarantees_quiet fun _ => rfl).bind fun startSequenceNumber => hg _ ?_
  exact ((h.addKeyIntPair (by decide) _).addKeyIntPair (by decide) _).addKeyIntPair (by decide) _

theorem guarantees_buildEvent_bind {eventData : UTF8String} (h : BuiltOf recordKeys eventData)
    (parentActionID : ℤ) {g : UTF8String × ℤ → Reporter Unit}
    (hg : ∀ text timestamp, BuiltOf recordKeys text → Program.Guarantees AddsPairs (g (text, timestamp))) :
    Program.Guarantees AddsPairs (buildEvent caller eventData parentActionID >>= g) := by
  rw [buildEvent, bind_assoc]
  refine (guarantees_quiet fun _ => rfl).bind fun eventTimestamp => ?_
  rw [bind_assoc]
  refine (guarantees_quiet fun _ => rfl).bind fun time0 => ?_
  rw [bind_assoc]
  exact guarantees_addOrigin_bind h parentActionID time0 fun text htext =>
    hg text eventTimestamp htext

theorem guarantees_reportValue {eventType : EventType} {addValue : UTF8String → UTF8String}
    (hvalue : ∀ text, BuiltOf recordKeys text → BuiltOf recordKeys (addValue text)) (actionID : ℤ)
    (valueName : UTF8String) :
    Program.Guarantees AddsPairs (reportValue caller eventType addValue actionID valueName) := by
  refine (guarantees_requireNonEmpty _ _).bind fun _ => guarantees_report ?_
  refine guarantees_buildEvent_bind (builtOf_createBasicEventData _ _ _) actionID ?_
  exact fun text timestamp htext => guarantees_addData (hvalue text htext)

/-- The payload of an event is one value. -/
theorem guarantees_sendEventPayload (jsonPayload : List UInt8) :
    Program.Guarantees AddsPairs (sendEventPayload caller jsonPayload) := by
  rw [sendEventPayload]
  split
  · trivial
  · refine (guarantees_quiet fun _ => rfl).bind fun timestamp => guarantees_addData ?_
    exact (BuiltOf.nil.addKeyIntPair (by decide) _).add (by decide) _

/-- **The text of every record** that a call adds is built of pairs. -/
theorem guarantees_perform (call : BeaconCall) :
    Program.Guarantees AddsPairs (call.perform caller) := by
  cases call with
  | startSession =>
    rw [perform, BeaconReports.startSession]
    refine guarantees_report (guarantees_addOrigin_bind
      (builtOf_createBasicEventDataWithoutName _ _) 0 0 fun text htext => ?_)
    exact (guarantees_quiet fun _ => rfl).bind fun _ => guarantees_addData htext
  | endSession =>
    exact guarantees_report (guarantees_buildEvent_bind
      (builtOf_createBasicEventDataWithoutName _ _) 0 fun text timestamp htext =>
        guarantees_addData htext)
  | reportIntValue actionID valueName value =>
    exact guarantees_reportValue (fun text htext => htext.addKeyIntPair (by decide) _) _ _
  | reportDoubleValue actionID valueName value =>
    exact guarantees_reportValue (fun text htext => htext.add (by decide) _) _ _
  | reportStringValue actionID valueName value =>
    exact guarantees_reportValue
      (fun text htext => htext.addKeyValuePairIfNotEmpty (by decide) _) _ _
  | reportEvent actionID eventName =>
    refine (guarantees_requireNonEmpty _ _).bind fun _ => guarantees_report ?_
    exact guarantees_buildEvent_bind (builtOf_createBasicEventData _ _ _) actionID
      fun text timestamp htext => guarantees_addData htext
  | reportErrorCode actionID errorName errorCode =>
    refine (guarantees_requireNonEmpty _ _).bind fun _ => guarantees_report ?_
    refine guarantees_buildEvent_bind (builtOf_createBasicEventData _ _ _) actionID ?_
    intro text timestamp htext
    exact guarantees_addData ((htext.addKeyIntPair (by decide) _).add (by decide) _)
  | reportErrorCause actionID errorName causeName causeDescription causeStackTrace =>
    refine (guarantees_requireNonEmpty _ _).bind fun _ => guarantees_report ?_
    refine guarantees_buildEvent_bind (builtOf_createBasicEventData _ _ _) actionID ?_
    intro text timestamp htext
    refine guarantees_addData (BuiltOf.add ?_ (by decide) _)
    apply BuiltOf.addKeyValuePairIfNotEmpty _ (by decide)
    apply BuiltOf.addKeyValuePairIfNotEmpty _ (by decide)
    exact htext.addKeyValuePairIfNotEmpty (by decide) _
  | reportCrash errorName reason stacktrace =>
    refine (guarantees_requireNonEmpty _ _).bind fun _ => guarantees_report ?_
    refine guarantees_buildEvent_bind (builtOf_createBasicEventData _ _ _) 0 ?_
    intro text timestamp htext
    refine guarantees_addData (BuiltOf.add ?_ (by decide) _)
    apply BuiltOf.addKeyValuePairIfNotEmpty _ (by decide)
    exact htext.addKeyValuePairIfNotEmpty (by decide) _
  | identifyUser userTag =>
    refine guarantees_report (guarantees_buildEvent_bind ?_ 0 fun text timestamp htext =>
      guarantees_addData htext)
    -- an empty user tag is a user without a name
    split
    · exact builtOf_createBasicEventDataWithoutName _ _
    · exact builtOf_createBasicEventData _ _ _
  | addAction action =>
    refine (guarantees_requireNonEmpty _ _).bind fun _ => guarantees_report ?_
    refine (guarantees_quiet fun _ => rfl).bind fun time0 => guarantees_addData ?_
    have hbasic := builtOf_createBasicEventData caller.threadID .action action.name
    exact (((((hbasic.addKeyIntPair (by decide) _).addKeyIntPair (by decide) _).addKeyIntPair
      (by decide) _).addKeyIntPair (by decide) _).addKeyIntPair (by decide) _).addKeyIntPair
        (by decide) _
  | addWebRequest parentActionID tracer =>
    refine (guarantees_requireNonEmpty _ _).bind fun _ => guarantees_report ?_
    refine (guarantees_quiet fun _ => rfl).bind fun time0 => guarantees_addData ?_
    have hbasic := builtOf_createBasicEventData caller.threadID .webRequest tracer.url
    -- the sizes and the response code may be missing
    apply BuiltOf.addKeyIntPairIfPresent _ (by decide)
    apply BuiltOf.addKeyIntPairIfPresent _ (by decide)
    apply BuiltOf.addKeyIntPairIfPresent _ (by decide)
    exact ((((hbasic.addKeyIntPair (by decide) _).addKeyIntPair (by decide) _).addKeyIntPair
      (by decide) _).addKeyIntPair (by decide) _).addKeyIntPair (by decide) _
  | sendEvent name jsonPayload =>
    exact (guarantees_requireNonEmpty _ _).bind fun _ =>
      guarantees_report (guarantees_sendEventPayload jsonPayload)
  | sendBizEvent type jsonPayload =>
    exact (guarantees_requireNonEmpty _ _).bind fun _ =>
      guarantees_report (guarantees_sendEventPayload jsonPayload)

/-- The records of a call. -/
theorem builtOf_of_perform {call : BeaconCall} {session : Session} {numReads : ℕ}
    {record : BeaconRecord}
    (h : record ∈ ((call.perform caller).run ⟨session, numReads, []⟩).2.records) :
    BuiltOf recordKeys record.data := by
  have hadds : AddsPairs ⟨session, numReads, []⟩ ((call.perform caller).run _).2 :=
    (guarantees_perform call).run AddsPairs.refl (fun _ _ _ => AddsPairs.trans) rfl
  exact (hadds record h).resolve_left List.not_mem_nil

end BeaconCall

end OpenKit
