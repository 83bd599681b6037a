import OpenKit.Core.UTF8String

/-!
# The text of a record

A record is reported as a list of key and value pairs. Its first pair is the type of the event, so
that the text of no record is empty.

## Main definitions

* `EventType`: the types of events
* `EventData.addKeyValuePair` and its variants: the pairs, with encoded values
* `EventData.createBasicEventData`, `createBasicEventDataWithoutName`: what every text starts with
* `EventData.IsReportText`: a text that starts with the key of the event type
* `EventData.HasEventType`, `HasEventTypeOf`: a text whose first pair is that of an event type, or of
  one of some types

## Main results

* `hasEventType_createBasicEventData`, `HasEventType.addKeyValuePair`: the texts built are such
* `HasEventType.unique`: a text has one event type
* `IsReportText.getStringData_ne_nil`: no such text is empty
-/

namespace OpenKit

inductive EventType
  | action
  | valueString
  | valueInt
  | valueDouble
  | namedEvent
  | sessionStart
  | sessionEnd
  | webRequest
  | failureError
  | failureException
  | failureCrash
  | identifyUser
  | event
deriving DecidableEq, Repr

/-- The number of an event type. -/
def EventType.toInt : EventType → ℤ
  | action => 1
  | valueString => 11
  | valueInt => 12
  | valueDouble => 13
  | namedEvent => 10
  | sessionStart => 18
  | sessionEnd => 19
  | webRequest => 30
  | failureError => 40
  | failureException => 42
  | failureCrash => 50
  | identifyUser => 60
  | event => 98

/-- All event types. -/
def EventType.all : List EventType :=
  [action, valueString, valueInt, valueDouble, namedEvent, sessionStart, sessionEnd, webRequest,
    failureError, failureException, failureCrash, identifyUser, event]

theorem EventType.mem_all (eventType : EventType) : eventType ∈ all := by
  cases eventType <;> decide

namespace EventData

def maxNameLen : ℕ := 250

def maxReasonLen : ℕ := 1000

def maxStackTraceLen : ℕ := 128000

/-- `toInvariantString` of an integer. -/
def toInvariantString (value : ℤ) : UTF8String := .ofAscii (toString value).toList

def unreservedCharactersRFC3986 : List UInt8 :=
  "ABCDEFGHIJKLMNOPQRSTUVWXYZabcdefghijklmnopqrstuvwxyz0123456789-_.~".toList.map
    fun c => c.toNat.toUInt8

/-- The hexadecimal digit of a value below sixteen. -/
def hexCharacter (n : UInt8) : UInt8 := if n < 10 then 48 + n else 55 + n

/-- A byte of an encoded value: itself, or escaped by three bytes. -/
def urlencodeByte (additionalReservedCharacters : List UInt8) (character : UInt8) : List UInt8 :=
  if character ∈ unreservedCharactersRFC3986 ∧ character ∉ additionalReservedCharacters then
    [character]
  else [37, hexCharacter (character >>> 4), hexCharacter (character &&& 15)]

/-- The encoded value has ASCII characters only. -/
def urlencode (s : UTF8String) (additionalReservedCharacters : List UInt8) : UTF8String :=
  let encoded := s.data.flatMap (urlencodeByte additionalReservedCharacters)
  ⟨encoded, encoded.length⟩

def appendKey (s key : UTF8String) : UTF8String :=
  let s := if !s.isEmpty then s.concatenate (.ofAscii ['&']) else s
  (s.concatenate key).concatenate (.ofAscii ['='])

/-- Appends a pair; the underscore counts as reserved in a value. -/
def addKeyValuePair (s key value : UTF8String) : UTF8String :=
  (appendKey s key).concatenate (urlencode value [95])

def addKeyValuePairIfNotEmpty (s key value : UTF8String) : UTF8String :=
  if value.getStringLength > 0 then addKeyValuePair s key value else s

/-- The pair of an integer. -/
def addKeyIntPair (s key : UTF8String) (value : ℤ) : UTF8String :=
  addKeyValuePair s key (toInvariantString value)

def truncate (s : UTF8String) (length : ℕ) : UTF8String :=
  if s.getStringLength > length then s.substring 0 length else s

def keyEventType : UTF8String := .ofAscii ['e', 't']

def keyName : UTF8String := .ofAscii ['n', 'a']

def keyThreadID : UTF8String := .ofAscii ['i', 't']

def keyActionID : UTF8String := .ofAscii ['c', 'a']

def keyParentActionID : UTF8String := .ofAscii ['p', 'a']

def keyStartSequenceNumber : UTF8String := .ofAscii ['s', '0']

def keyTime0 : UTF8String := .ofAscii ['t', '0']

def keyEndSequenceNumber : UTF8String := .ofAscii ['s', '1']

def keyTime1 : UTF8String := .ofAscii ['t', '1']

def keyValue : UTF8String := .ofAscii ['v', 'l']

def keyErrorValue : UTF8String := .ofAscii ['e', 'v']

def keyErrorReason : UTF8String := .ofAscii ['r', 's']

def keyErrorStacktrace : UTF8String := .ofAscii ['s', 't']

def keyErrorTechnologyType : UTF8String := .ofAscii ['t', 't']

def keyWebrequestResponseCode : UTF8String := .ofAscii ['r', 'c']

def keyWebrequestBytesSent : UTF8String := .ofAscii ['b', 's']

def keyWebrequestBytesReceived : UTF8String := .ofAscii ['b', 'r']

def keyEventPayload : UTF8String := .ofAscii ['p', 'l']

def errorTechnologyType : UTF8String := .ofAscii ['c']

/-- `find_last_of`: the last position of a byte, up to a given one. -/
def findLastOf (data : List UInt8) (byte : UInt8) (pos : ℕ) : Option ℕ :=
  ((List.range (pos + 1)).filter fun i => data[i]? == some byte).getLast?

/-- The length that a stack trace is cut to: at its last line break, if it is too long. -/
def maxStackTraceLength (stackTrace : UTF8String) : ℕ :=
  if stackTrace.getStringLength > maxStackTraceLen then
    (findLastOf stackTrace.getStringData 10 maxStackTraceLen).getD maxStackTraceLen
  else maxStackTraceLen

/-- A pair of a number that is missing below zero. -/
def addKeyIntPairIfPresent (s key : UTF8String) (value : ℤ) : UTF8String :=
  if value > -1 then addKeyIntPair s key value else s

def createBasicEventDataWithoutName (threadID : ℤ) (eventType : EventType) : UTF8String :=
  addKeyIntPair (addKeyIntPair .nil keyEventType eventType.toInt) keyThreadID threadID

def createBasicEventData (threadID : ℤ) (eventType : EventType) (eventName : UTF8String) :
    UTF8String :=
  let eventData := createBasicEventDataWithoutName threadID eventType
  if !eventName.isEmpty then
    addKeyValuePair eventData keyName (truncate eventName maxNameLen)
  else eventData

/-! ## Texts that are reported -/

/-- A text that starts with the key of the event type. -/
def IsReportText (s : UTF8String) : Prop := (UTF8String.ofAscii ['e', 't', '=']).HasPrefix s

/-- The first pair of a text. -/
theorem isReportText_eventType (value : UTF8String) :
    IsReportText (addKeyValuePair .nil keyEventType value) := by
  have h : appendKey .nil keyEventType = .ofAscii ['e', 't', '='] := by decide
  rw [addKeyValuePair, h]
  exact (UTF8String.HasPrefix.refl _).concatenate _

theorem IsReportText.isEmpty {s : UTF8String} (h : IsReportText s) : s.isEmpty = false := by
  have hlen : 3 ≤ s.stringLength := h.2
  rw [UTF8String.isEmpty_eq_false_iff]
  omega

/-- The first pair of the records of an event type, and the separator behind it. -/
def eventTypePrefix (eventType : EventType) : UTF8String :=
  (addKeyIntPair .nil keyEventType eventType.toInt).concatenate (.ofAscii ['&'])

/-- A text whose first pair is that of an event type. -/
def HasEventType (eventType : EventType) (s : UTF8String) : Prop :=
  (eventTypePrefix eventType).HasPrefix s

theorem HasEventType.isReportText {eventType : EventType} {s : UTF8String}
    (h : HasEventType eventType s) : IsReportText s := by
  have hfirst : IsReportText (eventTypePrefix eventType) :=
    (isReportText_eventType _).concatenate _
  exact ⟨hfirst.1.trans h.1, hfirst.2.trans h.2⟩

/-- No first pair with its separator is the beginning of another one. -/
theorem eq_of_eventTypePrefix {eventType eventType' : EventType}
    (h : (eventTypePrefix eventType).data <+: (eventTypePrefix eventType').data) :
    eventType = eventType' := by
  have hall : ∀ t ∈ EventType.all, ∀ t' ∈ EventType.all,
      (eventTypePrefix t).data <+: (eventTypePrefix t').data → t = t' := by decide
  exact hall _ eventType.mem_all _ eventType'.mem_all h

/-- **A text has one event type.** -/
theorem HasEventType.unique {eventType eventType' : EventType} {s : UTF8String}
    (h : HasEventType eventType s) (h' : HasEventType eventType' s) : eventType = eventType' := by
  rcases List.prefix_or_prefix_of_prefix h.1 h'.1 with hprefix | hprefix
  · exact eq_of_eventTypePrefix hprefix
  · exact (eq_of_eventTypePrefix hprefix).symm

section HasEventType

variable {eventType : EventType} {s : UTF8String}

theorem HasEventType.addKeyValuePair (h : HasEventType eventType s) (key value : UTF8String) :
    HasEventType eventType (addKeyValuePair s key value) := by
  have hs : HasEventType eventType (if !s.isEmpty then s.concatenate (.ofAscii ['&']) else s) := by
    split
    · exact h.concatenate _
    · exact h
  exact ((hs.concatenate key).concatenate _).concatenate _

theorem HasEventType.addKeyValuePairIfNotEmpty (h : HasEventType eventType s)
    (key value : UTF8String) :
    HasEventType eventType (addKeyValuePairIfNotEmpty s key value) := by
  rw [EventData.addKeyValuePairIfNotEmpty]
  split
  · exact h.addKeyValuePair key value
  · exact h

theorem HasEventType.addKeyIntPair (h : HasEventType eventType s) (key : UTF8String) (value : ℤ) :
    HasEventType eventType (addKeyIntPair s key value) :=
  h.addKeyValuePair key _

theorem HasEventType.addKeyIntPairIfPresent (h : HasEventType eventType s) (key : UTF8String)
    (value : ℤ) : HasEventType eventType (addKeyIntPairIfPresent s key value) := by
  rw [EventData.addKeyIntPairIfPresent]
  split
  · exact h.addKeyIntPair key value
  · exact h

end HasEventType

/-- Any second pair puts the separator behind the first. -/
theorem hasEventType_addKeyValuePair_eventType (eventType : EventType) (key value : UTF8String) :
    HasEventType eventType
      (addKeyValuePair (addKeyIntPair .nil keyEventType eventType.toInt) key value) := by
  have hsome : (addKeyIntPair .nil keyEventType eventType.toInt).isEmpty = false :=
    (isReportText_eventType _).isEmpty
  rw [addKeyValuePair, appendKey, hsome, Bool.not_false, if_pos rfl]
  exact (((UTF8String.HasPrefix.refl _).concatenate key).concatenate _).concatenate _

theorem hasEventType_createBasicEventDataWithoutName (threadID : ℤ) (eventType : EventType) :
    HasEventType eventType (createBasicEventDataWithoutName threadID eventType) :=
  hasEventType_addKeyValuePair_eventType eventType _ _

theorem hasEventType_createBasicEventData (threadID : ℤ) (eventType : EventType)
    (eventName : UTF8String) :
    HasEventType eventType (createBasicEventData threadID eventType eventName) := by
  have h := hasEventType_createBasicEventDataWithoutName threadID eventType
  rw [createBasicEventData]
  split
  · exact h.addKeyValuePair _ _
  · exact h

/-- A text of one of some event types. -/
def HasEventTypeOf (types : EventType → Prop) (s : UTF8String) : Prop :=
  ∃ eventType, types eventType ∧ HasEventType eventType s

/-- **No reported text is empty.** -/
theorem IsReportText.getStringData_ne_nil {s : UTF8String} (h : IsReportText s) :
    s.getStringData ≠ [] := by
  intro hs
  have hlen : 3 ≤ s.data.length := h.1.length_le
  rw [show s.data = [] from hs] at hlen
  simp at hlen

end EventData

end OpenKit
