import OpenKit.Core.Substring
import OpenKit.Protocol.Framing
import OpenKit.Protocol.ReportNumbers

/-!
# Stack traces in records

A stack trace that is too long is cut at its last line break. Whether it is too long is a question of
characters, but the line break is looked for among the bytes, and its position is taken for a number of
characters. The substring also ends at bytes that start no character.

## Main definitions

* `UTF8String.IsMadeOf`: a string consists of some pieces
* `EventData.IsTruncation`: what a record should show of a stack trace
* `EventData.CutsAtBreak`: bytes and characters agree on where it is cut
* `StackTraceReport`: the reports with a stack trace

## Main results

* `EventData.data_truncatedStackTrace`: what is left of a stack trace that is truncated
* `StackTraceReport.showsTruncation_iff`: when a record shows what it should
-/

namespace OpenKit

open EventData

namespace UTF8String

/-- A string by the pieces that the constructor has appended. -/
def ofPieces (pieces : List (List UInt8)) : UTF8String := ⟨pieces.flatten, pieces.length⟩

/-- A string consists of some pieces. -/
def IsMadeOf (s : UTF8String) (pieces : List (List UInt8)) : Prop :=
  s = ofPieces pieces ∧ ∀ p ∈ pieces, IsPiece p

/-- Every string that the constructor makes consists of pieces. -/
theorem exists_isMadeOf (stringData : List UInt8) :
    ∃ pieces, (validateString stringData).IsMadeOf pieces := by
  obtain ⟨pieces, hstring, happended, -⟩ := exists_pieces stringData
  exact ⟨pieces, hstring, happended.isPiece⟩

/-- A string of characters consists of them. -/
theorem isMadeOf_bytesOf {cs : List Utf8Character} (h : NoTerminator cs) :
    (validateString (bytesOf cs)).IsMadeOf (cs.map Utf8Character.bytes) := by
  refine ⟨?_, fun p hp => ?_⟩
  · rw [validateString_bytesOf h, ofPieces, List.length_map]
    rfl
  · obtain ⟨c, -, rfl⟩ := List.mem_map.mp hp
    exact .inl ⟨c, rfl⟩

variable {pieces : List (List UInt8)}

theorem isComplete_iff {p : List UInt8} : isComplete p = true ↔ ∃ c : Utf8Character, p = c.bytes := by
  refine ⟨exists_of_isComplete, ?_⟩
  rintro ⟨c, rfl⟩
  rw [Utf8Character.bytes, isComplete, Bool.and_eq_true, Bool.and_eq_true, bne_iff_ne, beq_iff_eq,
    List.all_eq_true]
  exact ⟨⟨c.lead_ne_zero, c.width_lead⟩, c.continues⟩

theorem IsPiece.ne_nil {p : List UInt8} (h : IsPiece p) : p ≠ [] := by
  rcases h with ⟨c, rfl⟩ | ⟨hne, -⟩
  · exact List.cons_ne_nil _ _
  · exact hne

/-- The characters in front of the first piece that is none. -/
def complete (pieces : List (List UInt8)) : List (List UInt8) := pieces.takeWhile isComplete

/-- **What a substring takes** from the start of a string: pieces up to the length, or up to the first one
that is no character. -/
theorem substring_ofPieces (h : ∀ p ∈ pieces, IsPiece p) {length : ℕ} (hlength : length < pieces.length) :
    ((ofPieces pieces).substring 0 length).data =
        (pieces.take (min length (complete pieces).length)).flatten ∧
      (0 < ((ofPieces pieces).substring 0 length).getStringLength ↔
        (pieces.take (min length (complete pieces).length)).flatten ≠ []) := by
  have hcomplete : ∀ p ∈ complete pieces, ∃ c : Utf8Character, p = c.bytes :=
    fun p hp => isComplete_iff.mp (List.all_eq_true.mp List.all_takeWhile p hp)
  obtain ⟨cs, hcs⟩ := exists_characters hcomplete
  have hflat (ds : List Utf8Character) : (ds.map Utf8Character.bytes).flatten = bytesOf ds :=
    List.flatMap_def.symm
  have hsplit : pieces = cs.map Utf8Character.bytes ++ pieces.dropWhile isComplete := by
    rw [← hcs]
    exact List.takeWhile_append_dropWhile.symm
  have hcount : (complete pieces).length = cs.length := by rw [hcs, List.length_map]
  rw [hcount]
  rcases le_or_gt length cs.length with hle | hlt
  · -- the length is reached among the characters
    have htake : pieces.take length = (cs.take length).map Utf8Character.bytes := by
      rw [hsplit, List.take_append_of_le_length (by rwa [List.length_map]), List.map_take]
    have hdata : pieces.flatten = bytesOf (cs.take length) ++ (pieces.drop length).flatten := by
      rw [← hflat, ← htake, ← List.flatten_append, List.take_append_drop]
    have htaken : (cs.take length).length = length := List.length_take_of_le hle
    have hsub : (ofPieces pieces).substring 0 length = ofCharacters (cs.take length) := by
      rw [ofPieces, hdata, ← substring_zero_length, htaken]
    rw [hsub, Nat.min_eq_left hle, htake, hflat]
    refine ⟨rfl, ?_⟩
    rw [getStringLength_ofCharacters, List.length_pos_iff, Ne, Ne, bytesOf_eq_nil_iff]
  · -- a piece that is no character comes before
    obtain ⟨p, rest, hrest⟩ : ∃ p rest, pieces.dropWhile isComplete = p :: rest := by
      refine List.exists_cons_of_ne_nil fun hnil => ?_
      rw [hnil, List.append_nil] at hsplit
      have hsame := congrArg List.length hsplit
      rw [List.length_map] at hsame
      omega
    have hnot : isComplete p = false := by
      have hhead := List.head?_dropWhile_not isComplete pieces
      rw [hrest] at hhead
      simpa using hhead
    have hpiece : IsPiece p := h p (by rw [hsplit, hrest]; simp)
    obtain ⟨b, bs, rfl⟩ := List.exists_cons_of_ne_nil hpiece.ne_nil
    have hwidth : getByteWidthOfCharacter b = 0 := by
      rcases hpiece with hc | ⟨-, hzero⟩
      · rw [isComplete_iff.mpr hc] at hnot
        cases hnot
      · exact hzero b List.mem_cons_self
    have hdata : pieces.flatten = bytesOf cs ++ b :: (bs ++ rest.flatten) := by
      rw [hsplit, hrest, List.flatten_append, hflat]
      rfl
    have hsub : (ofPieces pieces).substring 0 length = if cs = [] then nil else ⟨bytesOf cs, length⟩ := by
      rw [ofPieces, hdata, substring_zero_stuck hwidth _ _ hlt]
    have htake : pieces.take cs.length = cs.map Utf8Character.bytes := by
      rw [hsplit, List.take_append_of_le_length (by rw [List.length_map]), List.take_of_length_le
        (by rw [List.length_map])]
    rw [hsub, Nat.min_eq_right hlt.le, htake, hflat]
    by_cases hnil : cs = []
    · rw [if_pos hnil, hnil]
      exact ⟨rfl, iff_of_false (Nat.lt_irrefl 0) fun hne => hne rfl⟩
    · rw [if_neg hnil]
      refine ⟨rfl, iff_of_true (Nat.zero_lt_of_lt hlt) (mt bytesOf_eq_nil_iff.mp hnil)⟩

end UTF8String

namespace EventData

/-! ## Line breaks -/

/-- The last line break among the first items, one more than a stack trace may have. -/
def IsLastBreak {α : Type} (lineBreak : α) (items : List α) (i : ℕ) : Prop :=
  i ≤ maxStackTraceLen ∧ items[i]? = some lineBreak ∧
    ∀ j, i < j → j ≤ maxStackTraceLen → items[j]? ≠ some lineBreak

theorem IsLastBreak.unique {α : Type} {lineBreak : α} {items : List α} {i j : ℕ}
    (h : IsLastBreak lineBreak items i) (h' : IsLastBreak lineBreak items j) : i = j := by
  rcases Nat.lt_trichotomy i j with hlt | hsame | hlt
  · exact absurd h'.2.1 (h.2.2 j hlt h'.1)
  · exact hsame
  · exact absurd h.2.1 (h'.2.2 i hlt h.1)

/-- The line break that is looked for. -/
theorem findLastOf_eq_some_iff {data : List UInt8} {i : ℕ} :
    findLastOf data 10 maxStackTraceLen = some i ↔ IsLastBreak 10 data i := by
  have hmem (j : ℕ) : j ∈ (List.range (maxStackTraceLen + 1)).filter (fun i => data[i]? == some 10) ↔
      j ≤ maxStackTraceLen ∧ data[j]? = some 10 := by
    rw [List.mem_filter, List.mem_range, Nat.lt_succ_iff, beq_iff_eq]
  have hsorted : ((List.range (maxStackTraceLen + 1)).filter fun i => data[i]? == some 10).Pairwise (· < ·) :=
    List.pairwise_lt_range.filter _
  rw [findLastOf]
  constructor
  · intro h
    obtain ⟨front, hfront⟩ := List.getLast?_eq_some_iff.mp h
    have hi := (hmem i).mp (List.mem_of_getLast? h)
    refine ⟨hi.1, hi.2, fun j hij hj hsame => ?_⟩
    -- the positions are found in order
    have hjmem := (hmem j).mpr ⟨hj, hsame⟩
    rw [hfront] at hjmem hsorted
    rcases List.mem_append.mp hjmem with hbefore | hlast
    · have hlt := (List.pairwise_append.mp hsorted).2.2 j hbefore i (List.mem_singleton.mpr rfl)
      omega
    · rw [List.mem_singleton.mp hlast] at hij
      exact lt_irrefl _ hij
  · rintro ⟨hi, hbreak, hlast⟩
    cases hfound : ((List.range (maxStackTraceLen + 1)).filter fun i => data[i]? == some 10).getLast? with
    | none =>
      have himem := (hmem i).mpr ⟨hi, hbreak⟩
      rw [List.getLast?_eq_none_iff.mp hfound] at himem
      cases himem
    | some k =>
      obtain ⟨front, hfront⟩ := List.getLast?_eq_some_iff.mp hfound
      have hk := (hmem k).mp (List.mem_of_getLast? hfound)
      have himem := (hmem i).mpr ⟨hi, hbreak⟩
      rw [hfront] at himem hsorted
      rcases List.mem_append.mp himem with hbefore | hsame
      · have hlt := (List.pairwise_append.mp hsorted).2.2 i hbefore k (List.mem_singleton.mpr rfl)
        exact absurd hk.2 (hlast k hlt hk.1)
      · rw [List.mem_singleton.mp hsame]

/-- **Where a stack trace is cut** that is too long: at a byte position. -/
theorem maxStackTraceLength_eq_iff {stackTrace : UTF8String} {i : ℕ}
    (h : maxStackTraceLen < stackTrace.getStringLength) :
    maxStackTraceLength stackTrace = i ↔ IsLastBreak 10 stackTrace.data i ∨
      i = maxStackTraceLen ∧ ∀ j, ¬ IsLastBreak 10 stackTrace.data j := by
  rw [maxStackTraceLength, if_pos h, UTF8String.getStringData]
  cases hfound : findLastOf stackTrace.data 10 maxStackTraceLen with
  | none =>
    have hnone (j : ℕ) : ¬ IsLastBreak 10 stackTrace.data j := by
      intro hj
      rw [← findLastOf_eq_some_iff, hfound] at hj
      cases hj
    rw [Option.getD_none]
    constructor
    · exact fun hsame => .inr ⟨hsame.symm, hnone⟩
    · rintro (hi | ⟨hsame, -⟩)
      · exact absurd hi (hnone i)
      · exact hsame.symm
  | some k =>
    have hk := findLastOf_eq_some_iff.mp hfound
    rw [Option.getD_some]
    constructor
    · rintro rfl
      exact .inl hk
    · rintro (hi | ⟨-, hnone⟩)
      · exact hk.unique hi
      · exact absurd hk (hnone k)

theorem maxStackTraceLength_le (stackTrace : UTF8String) :
    maxStackTraceLength stackTrace ≤ maxStackTraceLen := by
  by_cases h : maxStackTraceLen < stackTrace.getStringLength
  · rcases (maxStackTraceLength_eq_iff h).mp rfl with hbreak | ⟨hsame, -⟩
    · exact hbreak.1
    · exact hsame.le
  · rw [maxStackTraceLength, if_neg h]

/-! ## Truncation -/

/-- **What a record should show** of a stack trace. -/
structure IsTruncation (pieces : List (List UInt8)) (shown : List UInt8) : Prop where
  isPrefix : ∃ k ≤ maxStackTraceLen, shown = (pieces.take k).flatten
  unchanged : pieces.length ≤ maxStackTraceLen → shown = pieces.flatten
  beforeBreak : maxStackTraceLen < pieces.length → ∀ i, IsLastBreak [10] pieces i →
    shown = (pieces.take i).flatten

/-- **Bytes and characters agree** on the line break that a stack trace is cut at, or on the largest
length, and there are only characters before it. -/
def CutsAtBreak (pieces : List (List UInt8)) : Prop :=
  ∀ i, IsLastBreak [10] pieces i →
    (IsLastBreak 10 pieces.flatten i ∨ i = maxStackTraceLen ∧ ∀ j, ¬ IsLastBreak 10 pieces.flatten j) ∧
      ∀ p ∈ pieces.take i, ∃ c : Utf8Character, p = c.bytes

/-- The stack trace that is put into a record. -/
def truncatedStackTrace (stackTrace : UTF8String) : UTF8String :=
  truncate stackTrace (maxStackTraceLength stackTrace)

section Pieces

open UTF8String

variable {pieces : List (List UInt8)}

/-- Pieces are not empty, so that some bytes of them are of so many ones. -/
theorem take_flatten_injective (h : ∀ p ∈ pieces, IsPiece p) {k i : ℕ} (hk : k ≤ pieces.length)
    (hi : i ≤ pieces.length) (hsame : (pieces.take k).flatten = (pieces.take i).flatten) : k = i := by
  have hless {k i : ℕ} (hki : k < i) (hi : i ≤ pieces.length) :
      (pieces.take k).flatten ≠ (pieces.take i).flatten := by
    intro hsame
    have htake : pieces.take i = pieces.take k ++ (pieces.drop k).take (i - k) := by
      rw [← List.take_add, Nat.add_sub_cancel' hki.le]
    rw [htake, List.flatten_append] at hsame
    have hnil := List.self_eq_append_right.mp hsame
    have hk : k < pieces.length := hki.trans_le hi
    have hmem : pieces[k] ∈ (pieces.drop k).take (i - k) := by
      rw [List.drop_eq_getElem_cons hk]
      obtain ⟨n, hn⟩ := Nat.exists_eq_add_of_lt hki
      rw [hn, Nat.add_assoc, Nat.add_sub_cancel_left, List.take_succ_cons]
      exact List.mem_cons_self
    exact (h _ (List.getElem_mem hk)).ne_nil (List.flatten_eq_nil_iff.mp hnil _ hmem)
  rcases Nat.lt_trichotomy k i with hlt | heq | hlt
  · exact absurd hsame (hless hlt hi)
  · exact heq
  · exact absurd hsame.symm (hless hlt hk)

/-- The piece behind the first characters is none. -/
theorem isComplete_of_getElem?_length {p : List UInt8} (h : pieces[(complete pieces).length]? = some p) :
    isComplete p = false := by
  have hsplit : complete pieces ++ pieces.dropWhile isComplete = pieces :=
    List.takeWhile_append_dropWhile
  have hhead := List.head?_dropWhile_not isComplete pieces
  rw [← hsplit, List.getElem?_append_right (by rw [hsplit]), hsplit, Nat.sub_self,
    ← List.head?_eq_getElem?] at h
  rw [h] at hhead
  simpa using hhead

/-- **A stack trace that is not too long** stays as it is. -/
theorem truncatedStackTrace_of_le (hlength : pieces.length ≤ maxStackTraceLen) :
    truncatedStackTrace (ofPieces pieces) = ofPieces pieces := by
  have hle : ¬ (ofPieces pieces).getStringLength > maxStackTraceLen := not_lt.mpr hlength
  rw [truncatedStackTrace, maxStackTraceLength, if_neg hle, truncate, if_neg hle]

/-- Some bytes are shown exactly if the string counts a character. -/
theorem data_truncatedStackTrace (h : ∀ p ∈ pieces, IsPiece p) :
    (0 < (truncatedStackTrace (ofPieces pieces)).getStringLength ↔
      (truncatedStackTrace (ofPieces pieces)).data ≠ []) ∧
    (maxStackTraceLen < pieces.length → (truncatedStackTrace (ofPieces pieces)).data =
      (pieces.take (min (maxStackTraceLength (ofPieces pieces)) (complete pieces).length)).flatten) := by
  rcases le_or_gt pieces.length maxStackTraceLen with hle | hlt
  · rw [truncatedStackTrace_of_le hle]
    refine ⟨?_, fun hlt => absurd hle (not_le.mpr hlt)⟩
    show 0 < pieces.length ↔ pieces.flatten ≠ []
    rw [List.length_pos_iff, Ne, Ne, List.flatten_eq_nil_iff]
    refine not_congr ⟨fun hnil => hnil ▸ List.forall_mem_nil _, fun hall => ?_⟩
    exact List.eq_nil_iff_forall_not_mem.mpr fun p hp => (h p hp).ne_nil (hall p hp)
  · have hcut := (maxStackTraceLength_le (ofPieces pieces)).trans_lt hlt
    have hlonger : (ofPieces pieces).getStringLength > maxStackTraceLength (ofPieces pieces) := hcut
    rw [truncatedStackTrace, truncate, if_pos hlonger]
    obtain ⟨hdata, hcount⟩ := substring_ofPieces h hcut
    rw [hdata]
    exact ⟨hcount, fun _ => rfl⟩

/-- **Truncation**: it gives what it should exactly if it cuts at the line break. -/
theorem isTruncation_iff (h : ∀ p ∈ pieces, IsPiece p) :
    IsTruncation pieces (truncatedStackTrace (ofPieces pieces)).data ↔
      pieces.length ≤ maxStackTraceLen ∨ CutsAtBreak pieces := by
  rcases le_or_gt pieces.length maxStackTraceLen with hle | hlt
  · rw [truncatedStackTrace_of_le hle]
    refine iff_of_true ⟨⟨pieces.length, hle, ?_⟩, fun _ => rfl, fun hlt => ?_⟩ (.inl hle)
    · rw [List.take_length]
      rfl
    · exact absurd hle (not_le.mpr hlt)
  · have hcut := maxStackTraceLength_le (ofPieces pieces)
    have hfront : complete pieces = pieces.take (complete pieces).length :=
      List.prefix_iff_eq_take.mp (List.takeWhile_prefix _)
    rw [(data_truncatedStackTrace h).2 hlt, or_iff_right (not_le.mpr hlt)]
    generalize hk : min (maxStackTraceLength (ofPieces pieces)) (complete pieces).length = k
    have hkle : k ≤ maxStackTraceLen := hk ▸ (min_le_left _ _).trans hcut
    have htoo : maxStackTraceLen < (ofPieces pieces).getStringLength := hlt
    constructor
    · intro htruncation i hi
      have hbefore := htruncation.beforeBreak hlt i hi
      obtain rfl := take_flatten_injective h (hkle.trans hlt.le) (hi.1.trans hlt.le) hbefore
      -- a line break is a character, so that it is not what ends the substring
      have hne : (complete pieces).length ≠ k := by
        rintro rfl
        have hnot := isComplete_of_getElem?_length hi.2.1
        cases hnot
      have hsame : maxStackTraceLength (ofPieces pieces) = k := by omega
      refine ⟨(maxStackTraceLength_eq_iff htoo).mp hsame, fun p hp => ?_⟩
      have hmem : p ∈ complete pieces := by
        rw [hfront]
        exact List.take_subset_take_left _ (by omega) hp
      exact isComplete_iff.mp (List.all_eq_true.mp List.all_takeWhile p hmem)
    · intro hcuts
      refine ⟨⟨k, hkle, rfl⟩, fun hle => absurd hle (not_le.mpr hlt), fun _ i hi => ?_⟩
      obtain ⟨hbytes, hall⟩ := hcuts i hi
      have hsame : maxStackTraceLength (ofPieces pieces) = i :=
        (maxStackTraceLength_eq_iff htoo).mpr hbytes
      have hle : i ≤ (complete pieces).length := by
        by_contra hshort
        have hm : (complete pieces).length < pieces.length := by
          have := hi.1
          omega
        have hnot := isComplete_of_getElem?_length (List.getElem?_eq_getElem hm)
        have hmem : pieces[(complete pieces).length] ∈ pieces.take i :=
          List.mem_take_iff_getElem.mpr ⟨_, by omega, rfl⟩
        rw [isComplete_iff.mpr (hall _ hmem)] at hnot
        cases hnot
      rw [← hk, hsame, Nat.min_eq_left hle]

end Pieces

/-! ## Records -/

/-- What a record shows of a stack trace; there is no pair for an empty one. -/
def ShowsStackTrace (shown : List UInt8) (text : UTF8String) : Prop :=
  (valuesOf keyErrorStacktrace text).map urldecodeData = if shown = [] then [] else [shown]

/-- A record shows one stack trace. -/
theorem ShowsStackTrace.unique {shown shown' : List UInt8} {text : UTF8String}
    (h : ShowsStackTrace shown text) (h' : ShowsStackTrace shown' text) : shown = shown' := by
  have hsame : (if shown = [] then [] else [shown]) = if shown' = [] then [] else [shown'] := h.symm.trans h'
  split at hsame
  next hnil =>
    split at hsame
    next hnil' => exact hnil.trans hnil'.symm
    next => cases hsame
  next =>
    split at hsame
    · cases hsame
    · exact (List.cons.inj hsame).1

/-- What is decoded from the pair of a stack trace is what was put into it. -/
theorem showsStackTrace_of_valuesOf {pieces : List (List UInt8)} (h : ∀ p ∈ pieces, UTF8String.IsPiece p)
    {text : UTF8String} (hvalues : valuesOf keyErrorStacktrace text =
      if (truncatedStackTrace (.ofPieces pieces)).getStringLength > 0 then
        [(urlencode (truncatedStackTrace (.ofPieces pieces)) [95]).data] else []) :
    ShowsStackTrace (truncatedStackTrace (.ofPieces pieces)).data text := by
  have hcounts := (data_truncatedStackTrace h).1
  rw [ShowsStackTrace, hvalues]
  split
  next hpos =>
    rw [if_neg (hcounts.mp hpos), List.map_singleton, urldecodeData_urlencode]
  next hnone =>
    rw [if_pos (not_not.mp (mt hcounts.mpr hnone))]
    rfl

end EventData

/-- The reports with a stack trace. -/
inductive StackTraceReport
  | reportError (actionID : ℤ) (errorName causeName causeDescription : UTF8String)
  | reportCrash (errorName reason : UTF8String)

namespace StackTraceReport

open BeaconReports Thread

/-- Reports with a stack trace. -/
def perform (caller : Caller) (stackTrace : UTF8String) : StackTraceReport → Reporter Unit
  | reportError actionID errorName causeName causeDescription =>
    reportErrorCause caller actionID errorName causeName causeDescription stackTrace
  | reportCrash errorName reason => BeaconReports.reportCrash caller errorName reason stackTrace

variable {caller : Caller} {r : Reporting} {record : BeaconRecord}

/-- The records that a report adds. -/
def added (caller : Caller) (stackTrace : UTF8String) (report : StackTraceReport) (r : Reporting) :
    List BeaconRecord :=
  ((report.perform caller stackTrace).run r).2.records.drop r.records.length

/-- The text of an event that is built and added. -/
theorem exists_of_mem_buildEvent (addValue : UTF8String → UTF8String) {eventData : UTF8String}
    {parentActionID : ℤ} {eventName : UTF8String} {message : String}
    {allowed : PrivacyConfiguration → Bool} {capturing : Beacon → Bool}
    (h : record ∈ ((requireNonEmpty eventName message >>= fun _ => report allowed capturing
      (buildEvent caller eventData parentActionID >>= fun built =>
        addEventData built.2 (addValue built.1))).run r).2.records.drop r.records.length) :
    ∃ number time0, record.data = addValue (addKeyIntPair (addKeyIntPair
      (addKeyIntPair eventData keyParentActionID parentActionID) keyStartSequenceNumber number) keyTime0
      time0) := by
  have hnothing (p : Prop) (h : record ∈ r.records.drop r.records.length) : p := by
    rw [List.drop_length] at h
    cases h
  rcases run_requireNonEmpty_bind_snd (r := r) eventName message with hrun | hrun
  · rw [hrun] at h
    exact hnothing _ h
  · rw [hrun] at h
    rcases run_report_snd (r := r) allowed capturing with hrun | hrun
    · rw [hrun] at h
      exact hnothing _ h
    · rw [hrun] at h
      exact ⟨_, _, mem_drop_addData (r := { r.setBeacon
        { r.beacon with sequenceNumber := r.beacon.sequenceNumber + 1 } with
          numReads := r.numReads + 1 }) h⟩

/-- The values of the stack trace in a text. -/
theorem hasValues_stackTrace (threadID : ℤ) (eventType : EventType) (eventName : UTF8String)
    (parentActionID number time0 : ℤ) : HasValues keyErrorStacktrace [] (addKeyIntPair (addKeyIntPair
      (addKeyIntPair (createBasicEventData threadID eventType eventName) keyParentActionID parentActionID)
        keyStartSequenceNumber number) keyTime0 time0) := by
  have hkey : IsKey keyErrorStacktrace := by decide
  exact (((hasValues_createBasicEventData hkey (by decide) _ _ _).addOther hkey (by decide) (by decide)
    _).addOther hkey (by decide) (by decide) _).addOther hkey (by decide) (by decide) _

/-- **The stack trace in a record** is the truncated one. -/
theorem valuesOf_added {report : StackTraceReport} {stackTrace : UTF8String}
    (h : record ∈ report.added caller stackTrace r) : valuesOf keyErrorStacktrace record.data =
      if (truncatedStackTrace stackTrace).getStringLength > 0 then
        [(urlencode (truncatedStackTrace stackTrace) [95]).data] else [] := by
  have hkey : IsKey keyErrorStacktrace := by decide
  cases report with
  | reportError actionID errorName causeName causeDescription =>
    obtain ⟨number, time0, hdata⟩ := exists_of_mem_buildEvent (fun text => addKeyValuePair
      (addKeyValuePairIfNotEmpty (addKeyValuePairIfNotEmpty (addKeyValuePairIfNotEmpty text keyErrorValue
        causeName) keyErrorReason (truncate causeDescription maxReasonLen)) keyErrorStacktrace
        (truncatedStackTrace stackTrace)) keyErrorTechnologyType errorTechnologyType) h
    rw [hdata]
    exact ((((hasValues_stackTrace _ _ _ _ _ _).addOtherIfNotEmpty hkey (by decide) (by decide)
      _).addOtherIfNotEmpty hkey (by decide) (by decide) _).addIfNotEmpty hkey _).addOther hkey (by decide)
        (by decide) _ |>.values
  | reportCrash errorName reason =>
    obtain ⟨number, time0, hdata⟩ := exists_of_mem_buildEvent (fun text => addKeyValuePair
      (addKeyValuePairIfNotEmpty (addKeyValuePairIfNotEmpty text keyErrorReason
        (truncate reason maxReasonLen)) keyErrorStacktrace (truncatedStackTrace stackTrace))
        keyErrorTechnologyType errorTechnologyType) h
    rw [hdata]
    exact (((hasValues_stackTrace _ _ _ _ _ _).addOtherIfNotEmpty hkey (by decide) (by decide)
      _).addIfNotEmpty hkey _).addOther hkey (by decide) (by decide) _ |>.values

/-- A record shows what it should of some pieces exactly if these are not too many, or cut at the last
line break among them. -/
theorem showsTruncation_ofPieces_iff {pieces : List (List UInt8)}
    (h : ∀ p ∈ pieces, UTF8String.IsPiece p) {report : StackTraceReport}
    (hrecord : record ∈ report.added caller (.ofPieces pieces) r) :
    (∃ shown, ShowsStackTrace shown record.data ∧ IsTruncation pieces shown) ↔
      pieces.length ≤ maxStackTraceLen ∨ CutsAtBreak pieces := by
  have hshows := showsStackTrace_of_valuesOf h (valuesOf_added hrecord)
  rw [← isTruncation_iff h]
  constructor
  · rintro ⟨shown, hshown, htruncation⟩
    rw [hshows.unique hshown]
    exact htruncation
  · exact fun htruncation => ⟨_, hshows, htruncation⟩

/-- **A record shows** what it should of a stack trace exactly if that is not too long, or cut at its
last line break. Every stack trace consists of pieces, and this holds for all ways to see it so. -/
theorem showsTruncation_iff (stringData : List UInt8) {report : StackTraceReport}
    (hrecord : record ∈ report.added caller (UTF8String.validateString stringData) r) :
    (∃ pieces, (UTF8String.validateString stringData).IsMadeOf pieces) ∧
      ∀ pieces, (UTF8String.validateString stringData).IsMadeOf pieces →
        ((∃ shown, ShowsStackTrace shown record.data ∧ IsTruncation pieces shown) ↔
          pieces.length ≤ maxStackTraceLen ∨ CutsAtBreak pieces) := by
  refine ⟨UTF8String.exists_isMadeOf stringData, fun pieces hmade => ?_⟩
  obtain ⟨hstring, hpieces⟩ := hmade
  rw [hstring] at hrecord
  exact showsTruncation_ofPieces_iff hpieces hrecord

/-- A session that reports everything. -/
def reportingSession : Reporting := ⟨.new (.new (.new ⟨.userBehavior, .optInCrashes⟩) 0 0 .nil), 0, []⟩

def letter : Utf8Character := .ofAscii 97 (by decide) (by decide)

def lineFeed : Utf8Character := .ofAscii 10 (by decide) (by decide)

/-- As many letters as a stack trace may have, and one more in a line before them. -/
def letterTrace : List Utf8Character := [letter, lineFeed] ++ List.replicate 128000 letter

theorem getElem?_append_replicate {α : Type} {a b : α} {front : List α} {j : ℕ} (hj : front.length ≤ j)
    (hne : a ≠ b) : (front ++ List.replicate 128000 a)[j]? ≠ some b := by
  rw [List.getElem?_append_right hj, List.getElem?_replicate]
  split
  · exact fun hsame => hne (Option.some.inj hsame)
  · nofun

/-- The pieces of that stack trace. -/
theorem letterTrace_pieces : letterTrace.map Utf8Character.bytes =
    [[97], [10]] ++ List.replicate 128000 [97] := by
  rw [letterTrace, List.map_append, List.map_replicate]
  rfl

/-- The line break is the second character, and the second byte. -/
theorem cutsAtBreak_letterTrace : IsLastBreak [10] (letterTrace.map Utf8Character.bytes) 1 ∧
    CutsAtBreak (letterTrace.map Utf8Character.bytes) := by
  have hdata : ([[97], [10]] ++ List.replicate 128000 [97] : List (List UInt8)).flatten =
      [97, 10] ++ List.replicate 128000 97 := by
    rw [List.flatten_append, List.flatten_replicate_singleton]
    rfl
  have hcharacters : IsLastBreak [10] (letterTrace.map Utf8Character.bytes) 1 := by
    rw [letterTrace_pieces]
    exact ⟨by decide, rfl, fun j hj _ => getElem?_append_replicate hj (by decide)⟩
  have hbytes : IsLastBreak 10 (letterTrace.map Utf8Character.bytes).flatten 1 := by
    rw [letterTrace_pieces, hdata]
    exact ⟨by decide, rfl, fun j hj _ => getElem?_append_replicate hj (by decide)⟩
  refine ⟨hcharacters, fun i hi => ?_⟩
  obtain rfl := hi.unique hcharacters
  refine ⟨.inl hbytes, fun p hp => ?_⟩
  obtain ⟨c, -, rfl⟩ := List.mem_map.mp (List.mem_of_mem_take hp)
  exact ⟨c, rfl⟩

/-- A long stack trace is cut at its line break: the line before it is shown. -/
theorem showsTruncation_letterTrace : ∃ record ∈ (reportCrash (.ofAscii ['e']) .nil).added ⟨1, id⟩
      (UTF8String.validateString (UTF8String.bytesOf letterTrace)) reportingSession,
    ShowsStackTrace [97] record.data := by
  have hnone : UTF8String.NoTerminator letterTrace := by
    intro c hc
    rcases List.mem_append.mp hc with hc | hc
    · have hfront : ∀ c ∈ [letter, lineFeed], c.bytes ≠ [0xC0, 0x80] := by decide
      exact hfront c hc
    · rw [List.eq_of_mem_replicate hc]
      decide
  obtain ⟨record, hmem⟩ : ∃ record, record ∈ (reportCrash (.ofAscii ['e']) .nil).added ⟨1, id⟩
      (UTF8String.validateString (UTF8String.bytesOf letterTrace)) reportingSession :=
    ⟨_, List.mem_singleton.mpr rfl⟩
  obtain ⟨hbreak, hcuts⟩ := cutsAtBreak_letterTrace
  have hshows := (showsTruncation_iff _ hmem).2 _ (UTF8String.isMadeOf_bytesOf hnone)
  obtain ⟨shown, hshown, htruncation⟩ := hshows.mpr (.inr hcuts)
  have hlong : maxStackTraceLen < (letterTrace.map Utf8Character.bytes).length := by
    rw [letterTrace_pieces, List.length_append, List.length_replicate]
    decide
  have hline : shown = [97] := by
    rw [htruncation.beforeBreak hlong 1 hbreak, letterTrace_pieces]
    rfl
  exact ⟨record, hmem, hline ▸ hshown⟩

/-- A line break behind a letter of two bytes, and as many letters as a stack trace may have. -/
def umlautTrace : List (List UInt8) := [[0xC3, 0xA4], [10]] ++ List.replicate 128000 [97]

/-- The line break is the second character, but the third byte. -/
theorem isLastBreak_umlautTrace :
    IsLastBreak [10] umlautTrace 1 ∧ IsLastBreak 10 umlautTrace.flatten 2 := by
  have hdata : umlautTrace.flatten = [0xC3, 0xA4, 10] ++ List.replicate 128000 97 := by
    rw [umlautTrace, List.flatten_append, List.flatten_replicate_singleton]
    rfl
  rw [hdata]
  exact ⟨⟨by decide, rfl, fun j hj _ => getElem?_append_replicate hj (by decide)⟩,
    ⟨by decide, rfl, fun j hj _ => getElem?_append_replicate hj (by decide)⟩⟩

/-- The line break itself is shown. -/
theorem not_showsTruncation : ∃ record ∈ (reportCrash (.ofAscii ['e']) .nil).added ⟨1, id⟩
      (.ofPieces umlautTrace) reportingSession,
    ¬ ∃ shown, ShowsStackTrace shown record.data ∧ IsTruncation umlautTrace shown := by
  have hpieces : ∀ p ∈ umlautTrace, UTF8String.IsPiece p := by
    intro p hp
    have hfront : ∀ p ∈ [[0xC3, 0xA4], [10]], UTF8String.isComplete p = true := by decide
    refine .inl (UTF8String.isComplete_iff.mp ?_)
    rcases List.mem_append.mp hp with hp | hp
    · exact hfront p hp
    · rw [List.eq_of_mem_replicate hp]
      decide
  obtain ⟨record, hmem⟩ : ∃ record, record ∈ (reportCrash (.ofAscii ['e']) .nil).added ⟨1, id⟩
      (.ofPieces umlautTrace) reportingSession := ⟨_, List.mem_singleton.mpr rfl⟩
  refine ⟨record, hmem, ?_⟩
  rintro ⟨shown, hshown, htruncation⟩
  have hshows := showsStackTrace_of_valuesOf hpieces (valuesOf_added hmem)
  rw [← hshows.unique hshown, isTruncation_iff hpieces] at htruncation
  obtain ⟨hcharacters, hbytes⟩ := isLastBreak_umlautTrace
  rcases htruncation with hshort | hcuts
  · rw [umlautTrace, List.length_append, List.length_replicate] at hshort
    exact absurd hshort (by decide)
  · rcases (hcuts 1 hcharacters).1 with hone | ⟨hone, -⟩
    · exact absurd (hone.unique hbytes) (by decide)
    · exact absurd hone (by decide)

end StackTraceReport

end OpenKit
