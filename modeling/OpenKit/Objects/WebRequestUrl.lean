import Mathlib.Data.List.TakeWhile
import OpenKit.Core.BrokenStrings
import OpenKit.Core.Substring
import OpenKit.Library.RegularText
import OpenKit.Protocol.Framing
import OpenKit.Protocol.ReportNumbers

/-!
# The URL of a web request

A web request is traced if its URL has a scheme. The URL is stored up to its first question mark, which
is searched by characters, and records have the beginning of what is stored. The search stands still at
a byte that belongs to no character, so that it misses the question marks behind it.

## Main definitions

* `WebRequestTracer.isValidURLScheme`, `calculateUrlFrom`: the URL that is stored
* `WebRequestTracer.ReportsNoQuery`: what is stored and reported ends before the first question mark

## Main results

* `namesOnly_addWebRequest`: records have the beginning of the URL of the web request
* `reportsNoQuery_iff`: when no query string is reported
* `isEmpty_of_calculateUrlFrom`: the URL that is stored is not empty
-/

namespace OpenKit

open Thread UTF8String EventData BeaconReports

namespace UTF8String

/-! ## The first characters of any string -/

/-- Behind the first character, the loop of `substring` keeps the start of the string. -/
theorem substringOffsets_start {data : List UInt8} {length rounds byteIndex characterIndex
    characterCounter : ℕ} {byteOffsetEnd : ℤ} (hindex : characterIndex = 0 → byteIndex = 0) :
    (substringOffsets data 0 length rounds byteIndex 0 byteOffsetEnd characterIndex
      characterCounter).1 = 0 := by
  induction rounds generalizing byteIndex byteOffsetEnd characterIndex characterCounter with
  | zero => rfl
  | succ rounds ih =>
    have hstart : (if characterIndex = 0 then byteIndex else 0) = 0 := by
      split
      next h => exact hindex h
      next => rfl
    rw [substringOffsets]
    split
    · dsimp only
      rw [hstart]
      exact ih fun h => absurd h (Nat.succ_ne_zero _)
    · rfl

/-- **The first characters** are a prefix, of any string. -/
theorem substring_zero_prefix (s : UTF8String) (length : ℕ) :
    (s.substring 0 length).data <+: s.data := by
  rw [substring]
  split
  · exact List.nil_prefix
  · have hstart : (substringOffsets s.data 0 length (0 + length) 0 0 0 0 0).1 = 0 :=
      substringOffsets_start fun _ => rfl
    generalize substringOffsets s.data 0 length (0 + length) 0 0 0 0 0 = offsets at hstart ⊢
    obtain ⟨byteOffsetStart, byteOffsetEnd, characterCounter⟩ := offsets
    obtain rfl : byteOffsetStart = 0 := hstart
    dsimp only
    split
    · exact List.take_prefix _ _
    · exact List.nil_prefix

end UTF8String

namespace WebRequestTracer

/-! ## The URL that is stored -/

/-- `[a-zA-Z]` -/
def letters : List UInt8 :=
  (UTF8String.ofAscii "abcdefghijklmnopqrstuvwxyzABCDEFGHIJKLMNOPQRSTUVWXYZ".toList).data

/-- `[a-zA-Z0-9+\-.]` -/
def schemeCharacters : List UInt8 := letters ++ (UTF8String.ofAscii "0123456789+-.".toList).data

/-- `.`, which is no line terminator. -/
def anyCharacters : List UInt8 :=
  ((List.range 256).map UInt8.ofNat).filter fun b => b != 10 && b != 13

/-- `SCHEMA_VALIDATION_PATTERN`: a scheme, a colon and two slashes, and something behind them. -/
def schemaValidationPattern : RegularExpression UInt8 :=
  .oneOf letters * ((RegularExpression.oneOf schemeCharacters).star *
    (.literal [58, 47, 47] * .oneOrMore (.oneOf anyCharacters)))

def isValidURLScheme (url : UTF8String) : Bool := schemaValidationPattern.rmatch url.getStringData

def unknownURL : UTF8String := .ofAscii "<unknown>".toList

/-- The URL without its query. -/
def calculateUrlFrom (url : UTF8String) : Except ReadFault UTF8String :=
  if !isValidURLScheme url then .ok unknownURL
  else do
    let indexOfQuestionMark ← url.getIndexOf [63] 0
    match indexOfQuestionMark with
    | none => return url
    | some i => return url.substring 0 i

/-! ## What records have of it -/

/-- A record has one name, which is the beginning of a URL. -/
def NamesOnly (stored : UTF8String) (record : BeaconRecord) : Prop :=
  ∃ value, valuesOf keyName record.data = [value] ∧ urldecodeData value <+: stored.data

/-- The name of an event, in what its text starts with. -/
theorem hasValues_keyName (threadID : ℤ) (eventType : EventType) {eventName : UTF8String}
    (hname : eventName.isEmpty = false) :
    HasValues keyName [(urlencode (EventData.truncate eventName maxNameLen) [95]).data]
      (createBasicEventData threadID eventType eventName) := by
  have hkey : IsKey keyName := by decide
  have htype : HasValues keyName [] (addKeyIntPair .nil keyEventType eventType.toInt) := by
    refine ⟨isEmpty_addKeyValuePair .nil _ _, ?_⟩
    rw [addKeyIntPair, valuesOf_addKeyValuePair_nil (by decide) hkey, if_neg (by decide)]
  have hthread : HasValues keyName [] (createBasicEventDataWithoutName threadID eventType) :=
    htype.addOther hkey (by decide) (by decide) _
  rw [createBasicEventData, hname, Bool.not_false, if_pos rfl]
  exact hthread.add hkey _

/-- The names in a record are the beginning of what they are taken from. -/
theorem truncate_prefix (s : UTF8String) (length : ℕ) : (EventData.truncate s length).data <+: s.data := by
  rw [EventData.truncate]
  split
  · exact substring_zero_prefix s length
  · exact List.prefix_refl _

/-- **Records** have the beginning of the URL of the web request. -/
theorem namesOnly_addWebRequest {caller : Caller} {r : Reporting} {parentActionID : ℤ}
    {tracer : WebRequestTracer} {record : BeaconRecord}
    (h : record ∈ ((addWebRequest caller parentActionID tracer).run r).2.records.drop r.records.length) :
    NamesOnly tracer.url record := by
  have hnothing (p : Prop) (h : record ∈ r.records.drop r.records.length) : p := by
    rw [List.drop_length] at h
    cases h
  rcases run_requireNonEmpty_bind_snd (r := r) tracer.url _ with hrun | hrun
  · rw [BeaconReports.addWebRequest, hrun] at h
    exact hnothing _ h
  · rw [BeaconReports.addWebRequest, hrun] at h
    rcases run_report_snd (r := r) (·.isWebRequestTracingAllowed) (·.isDataCapturingEnabled) with hrun | hrun
    · rw [hrun] at h
      exact hnothing _ h
    · have htime : (timeSinceSessionStart tracer.startTime).run r =
          (.ok (r.beacon.getTimeSinceSessionStartTime tracer.startTime), r) := rfl
      rw [hrun, Program.run_bind_ok htime] at h
      rw [NamesOnly, mem_drop_addData h]
      have hkey : IsKey keyName := by decide
      have hbase := hasValues_keyName caller.threadID .webRequest tracer.isEmpty_url
      have hother (key : UTF8String) (hkeys : key ∈ [keyParentActionID, keyStartSequenceNumber, keyTime0,
          keyEndSequenceNumber, keyTime1, keyWebrequestBytesSent, keyWebrequestBytesReceived,
          keyWebrequestResponseCode]) : IsKey key ∧ key.data ≠ keyName.data := by
        revert key
        decide
      have hparent := hother keyParentActionID (by simp)
      have hstart := hother keyStartSequenceNumber (by simp)
      have htime0 := hother keyTime0 (by simp)
      have hend := hother keyEndSequenceNumber (by simp)
      have htime1 := hother keyTime1 (by simp)
      have hsent := hother keyWebrequestBytesSent (by simp)
      have hreceived := hother keyWebrequestBytesReceived (by simp)
      have hcode := hother keyWebrequestResponseCode (by simp)
      have hnumbers := ((((hbase.addOther hkey hparent.1 hparent.2
        (toInvariantString parentActionID)).addOther hkey hstart.1 hstart.2
        (toInvariantString tracer.startSequenceNo)).addOther hkey htime0.1 htime0.2
        (toInvariantString (r.beacon.getTimeSinceSessionStartTime tracer.startTime))).addOther hkey
        hend.1 hend.2 (toInvariantString tracer.endSequenceNo)).addOther hkey htime1.1
        htime1.2 (toInvariantString (tracer.endTime - tracer.startTime))
      have hall := ((hnumbers.addOtherIfPresent hkey hsent.1 hsent.2
        (toInt32 tracer.bytesSent)).addOtherIfPresent hkey hreceived.1 hreceived.2
        (toInt32 tracer.bytesReceived)).addOtherIfPresent hkey hcode.1 hcode.2 tracer.responseCode
      refine ⟨_, hall.values, ?_⟩
      rw [urldecodeData_urlencode]
      exact truncate_prefix _ _

/-! ## Query strings -/

/-- **No query string is reported**: what is stored is the part before the first question mark, and records
have no more than that. -/
def ReportsNoQuery (url : UTF8String) : Prop :=
  ∃ stored, calculateUrlFrom url = .ok stored ∧ 63 ∉ stored.data ∧
    stored.data = url.data.takeWhile (· ≠ 63) ∧
    ∀ (caller : Caller) (r : Reporting) (parentActionID : ℤ) (tracer : WebRequestTracer)
      (record : BeaconRecord), tracer.url = stored →
      record ∈ ((addWebRequest caller parentActionID tracer).run r).2.records.drop r.records.length →
      NamesOnly stored record

/-- The search for the question mark comes to it, or stays inside the string. -/
def IsSearchable (url : UTF8String) : Prop :=
  if 63 ∈ url.data then Complete (url.data.takeWhile (· ≠ 63))
  else Complete url.data → url.data.length ≤ url.stringLength + 1

variable {url stored : UTF8String}

/-- What is stored decides. -/
theorem reportsNoQuery_iff_of_ok (h : calculateUrlFrom url = .ok stored) :
    ReportsNoQuery url ↔ stored.data = url.data.takeWhile (· ≠ 63) := by
  constructor
  · rintro ⟨stored', hstored, -, hdata, -⟩
    rw [h] at hstored
    rw [Except.ok.inj hstored, hdata]
  · intro hdata
    refine ⟨stored, h, ?_, hdata, fun caller r parentActionID tracer record htracer hrecord => ?_⟩
    · rw [hdata]
      intro hmem
      simpa using List.mem_takeWhile_imp hmem
    · rw [← htracer]
      exact namesOnly_addWebRequest hrecord

section Search

variable {cs before after : List Utf8Character} {tail : List UInt8} {n : ℕ}

theorem calculateUrlFrom_eq (hvalid : isValidURLScheme url = true) :
    calculateUrlFrom url = (url.getIndexOf [63] 0).map fun
      | none => url
      | some i => url.substring 0 i := by
  rw [calculateUrlFrom, hvalid, Bool.not_true, if_neg Bool.false_ne_true]
  cases url.getIndexOf [63] 0 with
  | error fault => rfl
  | ok index => cases index <;> rfl

/-- The question mark. -/
def questionMark : Utf8Character := .ofAscii 63 (by decide) (by decide)

theorem mem_iff_questionMark_mem : 63 ∈ bytesOf cs ↔ questionMark ∈ cs :=
  mem_bytesOf_ascii (by decide) (by decide)

/-- **Where a question mark is found**, the URL is cut. -/
theorem reportsNoQuery_of_split (hvalid : isValidURLScheme
      ⟨bytesOf (before ++ questionMark :: after) ++ tail, n⟩ = true) (hbefore : questionMark ∉ before) :
    ReportsNoQuery ⟨bytesOf (before ++ questionMark :: after) ++ tail, n⟩ ∧
      IsSearchable ⟨bytesOf (before ++ questionMark :: after) ++ tail, n⟩ := by
  have hfound : (⟨bytesOf (before ++ questionMark :: after) ++ tail, n⟩ : UTF8String).getIndexOf [63] 0 =
      .ok (some before.length) := getIndexOf_first hbefore
  have htake : (bytesOf (before ++ questionMark :: after) ++ tail).takeWhile (· ≠ 63) = bytesOf before :=
    takeWhile_ne_ascii (by decide) (by decide) hbefore
  have hbytes : bytesOf (before ++ questionMark :: after) ++ tail =
      bytesOf before ++ (bytesOf (questionMark :: after) ++ tail) := by
    rw [bytesOf_append, List.append_assoc]
  have hmem : 63 ∈ bytesOf (before ++ questionMark :: after) ++ tail :=
    List.mem_append_left _ (mem_iff_questionMark_mem.mpr (List.mem_append_right _ List.mem_cons_self))
  have hcut : (⟨bytesOf (before ++ questionMark :: after) ++ tail, n⟩ : UTF8String).substring 0
      before.length = ofCharacters before := by
    rw [hbytes]
    exact substring_zero_length _ n
  refine ⟨?_, ?_⟩
  · have hstored := calculateUrlFrom_eq hvalid
    rw [hfound] at hstored
    rw [reportsNoQuery_iff_of_ok hstored, htake]
    exact congrArg UTF8String.data hcut
  · rw [IsSearchable, if_pos hmem, htake]
    exact complete_bytesOf before

end Search

/-- **Query strings**: none is reported of a URL exactly if the search for the first question mark is not
held up before it, and does not read from behind the terminator where there is none. -/
theorem reportsNoQuery_iff {stringData : List UInt8}
    (hvalid : isValidURLScheme (validateString stringData) = true) :
    ReportsNoQuery (validateString stringData) ↔ IsSearchable (validateString stringData) := by
  rcases validateString_cases stringData with ⟨cs, hcs⟩ | ⟨cs, b, rest, n, hcs, hb⟩
  · rw [hcs] at hvalid ⊢
    by_cases hmark : questionMark ∈ cs
    · obtain ⟨before, after, rfl, hbefore⟩ := List.eq_append_cons_of_mem hmark
      rw [ofCharacters, ← List.append_nil (List.flatMap _ _)] at hvalid ⊢
      exact iff_of_true (reportsNoQuery_of_split hvalid hbefore).1
        (reportsNoQuery_of_split hvalid hbefore).2
    · have hnone : 63 ∉ bytesOf cs := mt mem_iff_questionMark_mem.mp hmark
      have hsearch : (ofCharacters cs).getIndexOf [63] 0 =
          if (bytesOf cs).length ≤ cs.length + 1 then .ok none else .error .pastEnd :=
        getIndexOf_complete (by decide) fun j _ hj => hmark (List.mem_of_getElem? hj)
      have hstored := calculateUrlFrom_eq hvalid
      have htake : (bytesOf cs).takeWhile (· ≠ 63) = bytesOf cs := by
        rw [List.takeWhile_eq_self_iff]
        rintro a ha
        exact decide_eq_true fun hsame => hnone (hsame ▸ ha)
      have hsearchable : IsSearchable (ofCharacters cs) ↔ (bytesOf cs).length ≤ cs.length + 1 := by
        rw [IsSearchable, data_ofCharacters, if_neg hnone]
        exact ⟨fun h => h (complete_bytesOf cs), fun h _ => h⟩
      rw [hsearchable]
      rw [hsearch] at hstored
      by_cases hlength : (bytesOf cs).length ≤ cs.length + 1
      · rw [if_pos hlength] at hstored
        exact iff_of_true ((reportsNoQuery_iff_of_ok hstored).mpr htake.symm) hlength
      · rw [if_neg hlength] at hstored
        refine iff_of_false ?_ hlength
        rintro ⟨stored, hok, -⟩
        rw [hstored] at hok
        cases hok
  · rw [hcs] at hvalid ⊢
    by_cases hmark : questionMark ∈ cs
    · obtain ⟨before, after, rfl, hbefore⟩ := List.eq_append_cons_of_mem hmark
      exact iff_of_true (reportsNoQuery_of_split hvalid hbefore).1
        (reportsNoQuery_of_split hvalid hbefore).2
    · -- the search stands still, so that the whole URL is stored
      have hnone : 63 ∉ bytesOf cs := mt mem_iff_questionMark_mem.mp hmark
      have hsearch : (⟨bytesOf cs ++ b :: rest, n⟩ : UTF8String).getIndexOf [63] 0 = .ok none :=
        getIndexOf_broken (by decide) hb fun j _ hj => hmark (List.mem_of_getElem? hj)
      have hstored := calculateUrlFrom_eq hvalid
      rw [hsearch] at hstored
      rw [reportsNoQuery_iff_of_ok hstored]
      have hbefore : ∀ a ∈ bytesOf cs, (decide (a ≠ 63)) = true :=
        fun a ha => decide_eq_true fun hsame => hnone (hsame ▸ ha)
      have hne : b ≠ 63 := by
        rintro rfl
        exact absurd hb (by decide)
      have htake : (bytesOf cs ++ b :: rest).takeWhile (· ≠ 63) =
          bytesOf cs ++ b :: rest.takeWhile (· ≠ 63) := by
        rw [List.takeWhile_append_of_pos hbefore, List.takeWhile_cons_of_pos (by simpa using hne)]
      rw [IsSearchable]
      by_cases hmem : 63 ∈ bytesOf cs ++ b :: rest
      · rw [if_pos hmem]
        refine iff_of_false (fun hdata => ?_) ?_
        · dsimp only at hdata
          rw [hdata] at hmem
          simpa using List.mem_takeWhile_imp hmem
        · rw [htake]
          exact not_complete_of_width hb
      · rw [if_neg hmem]
        refine iff_of_true ?_ fun hcomplete => absurd hcomplete (not_complete_of_width hb)
        refine (List.takeWhile_eq_self_iff.mpr fun a ha => ?_).symm
        exact decide_eq_true fun hsame => hmem (hsame ▸ ha)

/-- A URL with a scheme starts with a letter. -/
theorem exists_letter_of_isValidURLScheme (hvalid : isValidURLScheme url = true) :
    ∃ c ∈ letters, ∃ rest, url.data = c :: rest := by
  rw [isValidURLScheme, RegularExpression.rmatch_iff_matches', schemaValidationPattern,
    RegularExpression.mem_mul] at hvalid
  obtain ⟨u, hu, v, -, hdata⟩ := hvalid
  obtain ⟨c, hc, rfl⟩ := RegularExpression.mem_oneOf.mp hu
  exact ⟨c, hc, v, hdata.symm⟩

/-- **The URL that is stored** is not empty, so that a beacon does not refuse the web request. -/
theorem isEmpty_of_calculateUrlFrom {stringData : List UInt8}
    (hurl : (validateString stringData).isEmpty = false)
    (h : calculateUrlFrom (validateString stringData) = .ok stored) : stored.isEmpty = false := by
  cases hvalid : isValidURLScheme (validateString stringData) with
  | false =>
    rw [calculateUrlFrom, hvalid, Bool.not_false, if_pos rfl] at h
    rw [← Except.ok.inj h]
    rfl
  | true =>
    have hstored := calculateUrlFrom_eq hvalid
    rw [h] at hstored
    have hwhole (hnone : (validateString stringData).getIndexOf [63] 0 = .ok none) :
        stored.isEmpty = false := by
      rw [hnone] at hstored
      rw [Except.ok.inj hstored]
      exact hurl
    have hcut (before after : List Utf8Character) (tail : List UInt8) (n : ℕ) (hbefore : questionMark ∉ before)
        (heq : validateString stringData = ⟨bytesOf (before ++ questionMark :: after) ++ tail, n⟩) :
        stored.isEmpty = false := by
      obtain ⟨c, hc, rest, hdata⟩ := exists_letter_of_isValidURLScheme hvalid
      have hfound : (validateString stringData).getIndexOf [63] 0 = .ok (some before.length) := by
        rw [heq]
        exact getIndexOf_first hbefore
      have hbytes : bytesOf (before ++ questionMark :: after) ++ tail =
          bytesOf before ++ (bytesOf (questionMark :: after) ++ tail) := by
        rw [bytesOf_append, List.append_assoc]
      rw [hfound, heq, hbytes] at hstored
      rw [Except.ok.inj hstored]
      dsimp only
      rw [substring_zero_length]
      -- a URL that starts with a question mark has no scheme
      cases before with
      | nil =>
        rw [heq] at hdata
        obtain rfl : 63 = c := (List.cons.inj hdata).1
        exact absurd hc (by decide)
      | cons first before => rfl
    rcases validateString_cases stringData with ⟨cs, hcs⟩ | ⟨cs, b, rest, n, hcs, hb⟩
    · by_cases hmark : questionMark ∈ cs
      · obtain ⟨before, after, rfl, hbefore⟩ := List.eq_append_cons_of_mem hmark
        rw [ofCharacters, ← List.append_nil (List.flatMap _ _)] at hcs
        exact hcut before after [] _ hbefore hcs
      · have hsearch : (ofCharacters cs).getIndexOf [63] 0 =
            if (bytesOf cs).length ≤ cs.length + 1 then .ok none else .error .pastEnd :=
          getIndexOf_complete (by decide) fun j _ hj => hmark (List.mem_of_getElem? hj)
        rw [← hcs] at hsearch
        split at hsearch
        · exact hwhole hsearch
        · rw [hsearch] at hstored
          cases hstored
    · by_cases hmark : questionMark ∈ cs
      · obtain ⟨before, after, rfl, hbefore⟩ := List.eq_append_cons_of_mem hmark
        exact hcut before after (b :: rest) n hbefore hcs
      · refine hwhole ?_
        rw [hcs]
        exact getIndexOf_broken (by decide) hb fun j _ hj => hmark (List.mem_of_getElem? hj)

/-- A query string behind a letter of two bytes. -/
theorem reportsNoQuery_umlaut :
    isValidURLScheme (validateString [97, 58, 47, 47, 0xC3, 0xA4, 63, 113]) = true ∧
      ReportsNoQuery (validateString [97, 58, 47, 47, 0xC3, 0xA4, 63, 113]) := by
  have hvalid : isValidURLScheme (validateString [97, 58, 47, 47, 0xC3, 0xA4, 63, 113]) = true := by
    decide +kernel
  refine ⟨hvalid, (reportsNoQuery_iff hvalid).mpr ?_⟩
  have hmem : 63 ∈ (validateString [97, 58, 47, 47, 0xC3, 0xA4, 63, 113]).data := by decide
  rw [IsSearchable, if_pos hmem]
  exact ⟨[.ofAscii 97 (by decide) (by decide), .ofAscii 58 (by decide) (by decide),
    .ofAscii 47 (by decide) (by decide), .ofAscii 47 (by decide) (by decide), aUmlaut],
    by decide⟩

/-- A query string behind the sign for the euro, with a byte inside that is no part of any character. -/
theorem not_reportsNoQuery_intruder :
    isValidURLScheme (validateString [97, 58, 47, 47, 0xE2, 0xFF, 0x82, 0xAC, 63, 113]) = true ∧
      ¬ ReportsNoQuery (validateString [97, 58, 47, 47, 0xE2, 0xFF, 0x82, 0xAC, 63, 113]) := by
  have hstored : calculateUrlFrom (validateString [97, 58, 47, 47, 0xE2, 0xFF, 0x82, 0xAC, 63, 113]) =
      .ok (validateString [97, 58, 47, 47, 0xE2, 0xFF, 0x82, 0xAC, 63, 113]) := by decide +kernel
  refine ⟨by decide +kernel, ?_⟩
  rw [reportsNoQuery_iff_of_ok hstored]
  decide

end WebRequestTracer

end OpenKit
