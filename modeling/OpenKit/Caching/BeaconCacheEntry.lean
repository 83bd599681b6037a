import Mathlib.Algebra.BigOperators.Group.List.Basic
import Mathlib.Algebra.Ring.Int.Defs
import OpenKit.Core.UTF8String

/-!
# The records of one beacon

A cache entry holds the records of one beacon in four lists: the active event and action data,
and the event and action data being sent. Sending moves all active records to the lists being
sent, marks those put into a chunk, and either removes the marked ones or moves all of them
back in front of the active ones.

## Main definitions

* `BeaconCacheRecord`: a record, with the mark set when it is put into a chunk
* `BeaconCacheEntry`: the four lists and the byte counter of one beacon
* `BeaconCacheEntry.getChunk`: the next chunk, marking the records put into it
* `BeaconCacheEntry.removeOldestRecords`: eviction from the heads of the active lists

## Main results

* `getNextChunk_fst`, `getNextChunk_snd`: the chunk takes the first records being sent and marks
  exactly these
* `removeOldestFrom_eq`: eviction removes the first records of the merged active lists
* `removeRecordsOlderThan_activeBytes`, `removeOldestRecords_activeBytes`: the bytes evicted
-/

namespace OpenKit

/-- A record of the cache. -/
structure BeaconCacheRecord where
  timestamp : ℤ
  data : UTF8String
  markedForSending : Bool
deriving DecidableEq, Repr

namespace BeaconCacheRecord

/-- The constructor: a new record is not marked. -/
def new (timestamp : ℤ) (data : UTF8String) : BeaconCacheRecord := ⟨timestamp, data, false⟩

/-- The size estimation of a record: the bytes of its data. -/
def getDataSizeInBytes (r : BeaconCacheRecord) : ℤ :=
  if r.data.isEmpty then 0 else r.data.getStringData.length

def markForSending (r : BeaconCacheRecord) : BeaconCacheRecord :=
  { r with markedForSending := true }

def unsetSending (r : BeaconCacheRecord) : BeaconCacheRecord :=
  { r with markedForSending := false }

@[simp] theorem getDataSizeInBytes_markForSending (r : BeaconCacheRecord) :
    r.markForSending.getDataSizeInBytes = r.getDataSizeInBytes := rfl

@[simp] theorem getDataSizeInBytes_unsetSending (r : BeaconCacheRecord) :
    r.unsetSending.getDataSizeInBytes = r.getDataSizeInBytes := rfl

@[simp] theorem unsetSending_markForSending (r : BeaconCacheRecord) :
    r.markForSending.unsetSending = r.unsetSending := rfl

theorem unsetSending_of_unmarked {r : BeaconCacheRecord} (h : r.markedForSending = false) :
    r.unsetSending = r := by
  cases r
  simp_all [unsetSending]

theorem getDataSizeInBytes_nonneg (r : BeaconCacheRecord) : 0 ≤ r.getDataSizeInBytes := by
  unfold getDataSizeInBytes
  split
  · exact le_refl _
  · exact Int.natCast_nonneg _

end BeaconCacheRecord

/-- The sum of the data sizes of some records. -/
def dataSize (rs : List BeaconCacheRecord) : ℤ := (rs.map (·.getDataSizeInBytes)).sum

@[simp] theorem dataSize_nil : dataSize [] = 0 := rfl

@[simp] theorem dataSize_cons (r : BeaconCacheRecord) (rs : List BeaconCacheRecord) :
    dataSize (r :: rs) = r.getDataSizeInBytes + dataSize rs := List.sum_cons

@[simp] theorem dataSize_append (rs rs' : List BeaconCacheRecord) :
    dataSize (rs ++ rs') = dataSize rs + dataSize rs' := by
  unfold dataSize
  rw [List.map_append, List.sum_append]

theorem dataSize_nonneg (rs : List BeaconCacheRecord) : 0 ≤ dataSize rs := by
  induction rs with
  | nil => exact le_refl _
  | cons r rs ih =>
    rw [dataSize_cons]
    exact add_nonneg r.getDataSizeInBytes_nonneg ih

/-- A total of zero means that no record has data. -/
theorem dataSize_eq_zero_iff {rs : List BeaconCacheRecord} :
    dataSize rs = 0 ↔ ∀ r ∈ rs, r.getDataSizeInBytes = 0 := by
  induction rs with
  | nil => simp
  | cons r rs ih =>
    have hr := r.getDataSizeInBytes_nonneg
    have hrs := dataSize_nonneg rs
    rw [dataSize_cons, List.forall_mem_cons, ← ih]
    omega

@[simp] theorem dataSize_map_unsetSending (rs : List BeaconCacheRecord) :
    dataSize (rs.map (·.unsetSending)) = dataSize rs := by
  unfold dataSize
  rw [List.map_map]
  rfl

/-- The two kinds of records, which an entry keeps apart. -/
inductive RecordKind
  | event
  | action
deriving DecidableEq, Repr

/-- An entry of the cache: the records of one beacon. -/
structure BeaconCacheEntry where
  eventData : List BeaconCacheRecord
  actionData : List BeaconCacheRecord
  eventDataBeingSent : List BeaconCacheRecord
  actionDataBeingSent : List BeaconCacheRecord
  totalNumBytes : ℤ
deriving DecidableEq, Repr

namespace BeaconCacheEntry

/-- The default constructor. -/
def new : BeaconCacheEntry := ⟨[], [], [], [], 0⟩

def addEventData (e : BeaconCacheEntry) (record : BeaconCacheRecord) : BeaconCacheEntry :=
  { e with
    eventData := e.eventData ++ [record]
    totalNumBytes := e.totalNumBytes + record.getDataSizeInBytes }

def addActionData (e : BeaconCacheEntry) (record : BeaconCacheRecord) : BeaconCacheEntry :=
  { e with
    actionData := e.actionData ++ [record]
    totalNumBytes := e.totalNumBytes + record.getDataSizeInBytes }

/-- Nothing is being sent and some data is available. -/
def needsDataCopyBeforeSending (e : BeaconCacheEntry) : Bool :=
  e.actionDataBeingSent.isEmpty && e.eventDataBeingSent.isEmpty &&
    (!e.eventData.isEmpty || !e.actionData.isEmpty)

/-- Moves the active records in front of those being sent and clears the counter. -/
def copyDataForSending (e : BeaconCacheEntry) : BeaconCacheEntry :=
  { eventData := []
    actionData := []
    eventDataBeingSent := e.eventData ++ e.eventDataBeingSent
    actionDataBeingSent := e.actionData ++ e.actionDataBeingSent
    totalNumBytes := 0 }

def hasDataToSend (e : BeaconCacheEntry) : Bool :=
  !e.eventDataBeingSent.isEmpty || !e.actionDataBeingSent.isEmpty

/-- Marks the records of a list and appends them to the chunk, as long as the chunk so far has
at most `maxSize` characters. -/
def chunkifyDataList (chunk : UTF8String) (dataBeingSent : List BeaconCacheRecord)
    (maxSize : ℕ) (delimiter : UTF8String) : UTF8String × List BeaconCacheRecord :=
  match dataBeingSent with
  | [] => (chunk, [])
  | r :: rs =>
    if chunk.getStringLength ≤ maxSize then
      let next := chunkifyDataList ((chunk.concatenate delimiter).concatenate r.data) rs
        maxSize delimiter
      (next.1, r.markForSending :: next.2)
    else (chunk, r :: rs)

/-- The prefix, then event data, then action data. -/
def getNextChunk (e : BeaconCacheEntry) (chunkPrefix : UTF8String) (maxSize : ℕ)
    (delimiter : UTF8String) : UTF8String × BeaconCacheEntry :=
  let chunk := UTF8String.nil.concatenate chunkPrefix
  let events := chunkifyDataList chunk e.eventDataBeingSent maxSize delimiter
  let actions := chunkifyDataList events.1 e.actionDataBeingSent maxSize delimiter
  (actions.1, { e with eventDataBeingSent := events.2, actionDataBeingSent := actions.2 })

def getChunk (e : BeaconCacheEntry) (chunkPrefix : UTF8String) (maxSize : ℕ)
    (delimiter : UTF8String) : UTF8String × BeaconCacheEntry :=
  if !e.hasDataToSend then (UTF8String.nil, e) else e.getNextChunk chunkPrefix maxSize delimiter

/-- Removes the marked records. The event loop always ends at the end of its list, so the
action list is always traversed as well. -/
def removeDataMarkedForSending (e : BeaconCacheEntry) : BeaconCacheEntry :=
  if !e.hasDataToSend then e else
    { e with
      eventDataBeingSent := e.eventDataBeingSent.filter (!·.markedForSending)
      actionDataBeingSent := e.actionDataBeingSent.filter (!·.markedForSending) }

/-- Clears the marks, moves the records being sent back in front of the active ones and adds
their bytes. -/
def resetDataMarkedForSending (e : BeaconCacheEntry) : BeaconCacheEntry :=
  if !e.hasDataToSend then e else
    { eventData := e.eventDataBeingSent.map (·.unsetSending) ++ e.eventData
      actionData := e.actionDataBeingSent.map (·.unsetSending) ++ e.actionData
      eventDataBeingSent := []
      actionDataBeingSent := []
      totalNumBytes :=
        e.totalNumBytes + (dataSize e.eventDataBeingSent + dataSize e.actionDataBeingSent) }

def getTotalNumberOfBytes (e : BeaconCacheEntry) : ℤ := e.totalNumBytes

/-- The number of records of a list older than `minTimestamp`, and the others. -/
def removeRecordsOlderThanFrom (records : List BeaconCacheRecord) (minTimestamp : ℤ) :
    ℕ × List BeaconCacheRecord :=
  match records with
  | [] => (0, [])
  | r :: rs =>
    let rest := removeRecordsOlderThanFrom rs minTimestamp
    if r.timestamp < minTimestamp then (rest.1 + 1, rest.2) else (rest.1, r :: rest.2)

def removeRecordsOlderThan (e : BeaconCacheEntry) (minTimestamp : ℤ) : ℕ × BeaconCacheEntry :=
  let events := removeRecordsOlderThanFrom e.eventData minTimestamp
  let actions := removeRecordsOlderThanFrom e.actionData minTimestamp
  (events.1 + actions.1, { e with eventData := events.2, actionData := actions.2 })

/-- Removes up to `n` records from the heads of the two lists, the older head first and the
event on equal timestamps. -/
def removeOldestFrom : ℕ → List BeaconCacheRecord → List BeaconCacheRecord →
    ℕ × List BeaconCacheRecord × List BeaconCacheRecord
  | 0, events, actions => (0, events, actions)
  | _ + 1, [], [] => (0, [], [])
  | n + 1, [], _ :: actions =>
    let rest := removeOldestFrom n [] actions
    (rest.1 + 1, rest.2)
  | n + 1, _ :: events, [] =>
    let rest := removeOldestFrom n events []
    (rest.1 + 1, rest.2)
  | n + 1, event :: events, action :: actions =>
    if action.timestamp < event.timestamp then
      let rest := removeOldestFrom n (event :: events) actions
      (rest.1 + 1, rest.2)
    else
      let rest := removeOldestFrom n events (action :: actions)
      (rest.1 + 1, rest.2)

/-- `numRecords` is an `int32_t`; a negative value removes nothing. -/
def removeOldestRecords (e : BeaconCacheEntry) (numRecords : ℤ) : ℕ × BeaconCacheEntry :=
  let rest := removeOldestFrom numRecords.toNat e.eventData e.actionData
  (rest.1, { e with eventData := rest.2.1, actionData := rest.2.2 })

/-! ## The records of an entry -/

/-- The bytes of the active records. -/
def activeBytes (e : BeaconCacheEntry) : ℤ := dataSize e.eventData + dataSize e.actionData

/-- The records being sent, in the order in which chunks take them. -/
def beingSent (e : BeaconCacheEntry) : List BeaconCacheRecord :=
  e.eventDataBeingSent ++ e.actionDataBeingSent

/-- The entry holds no record, neither active nor being sent. -/
def Recordless (e : BeaconCacheEntry) : Prop :=
  e.eventData = [] ∧ e.actionData = [] ∧ e.beingSent = []

instance (e : BeaconCacheEntry) : Decidable e.Recordless :=
  inferInstanceAs (Decidable (_ ∧ _ ∧ _))

theorem hasDataToSend_eq_false_iff {e : BeaconCacheEntry} :
    e.hasDataToSend = false ↔ e.beingSent = [] := by
  unfold hasDataToSend beingSent
  rw [List.append_eq_nil_iff]
  simp

theorem hasDataToSend_iff {e : BeaconCacheEntry} : e.hasDataToSend = true ↔ e.beingSent ≠ [] := by
  rw [ne_eq, ← hasDataToSend_eq_false_iff, Bool.not_eq_false]

theorem needsDataCopyBeforeSending_iff {e : BeaconCacheEntry} :
    e.needsDataCopyBeforeSending = true ↔
      e.beingSent = [] ∧ (e.eventData ≠ [] ∨ e.actionData ≠ []) := by
  unfold needsDataCopyBeforeSending beingSent
  rw [List.append_eq_nil_iff]
  simp [and_comm]

/-! ## Chunks -/

/-- The text of a chunk: delimiter and data of each record, after what the chunk holds. -/
def appendRecords (chunk delimiter : UTF8String) (rs : List BeaconCacheRecord) : UTF8String :=
  rs.foldl (fun chunk r => (chunk.concatenate delimiter).concatenate r.data) chunk

/-- The number of records of the list put into the chunk. -/
def numChunked (chunk : UTF8String) (rs : List BeaconCacheRecord) (maxSize : ℕ)
    (delimiter : UTF8String) : ℕ :=
  match rs with
  | [] => 0
  | r :: rs =>
    if chunk.getStringLength ≤ maxSize then
      numChunked ((chunk.concatenate delimiter).concatenate r.data) rs maxSize delimiter + 1
    else 0

theorem length_le_appendRecords (chunk delimiter : UTF8String) (rs : List BeaconCacheRecord) :
    chunk.stringLength ≤ (appendRecords chunk delimiter rs).stringLength := by
  induction rs generalizing chunk with
  | nil => exact le_refl _
  | cons r rs ih =>
    have h := ih ((chunk.concatenate delimiter).concatenate r.data)
    simp only [UTF8String.concatenate_stringLength] at h
    exact le_trans (by omega) h

section Chunk

variable {chunk : UTF8String} {rs : List BeaconCacheRecord} {maxSize : ℕ} {delimiter : UTF8String}

/-- Some record is put into the chunk iff there is one and the chunk is not yet over the size. -/
theorem numChunked_pos_iff :
    0 < numChunked chunk rs maxSize delimiter ↔
      rs ≠ [] ∧ chunk.getStringLength ≤ maxSize := by
  cases rs with
  | nil => simp [numChunked]
  | cons r rs =>
    by_cases h : chunk.getStringLength ≤ maxSize
    · simp [numChunked, h]
    · simp [numChunked, h]

/-- The chunk takes an initial segment of the list and marks exactly it. -/
theorem chunkifyDataList_eq :
    chunkifyDataList chunk rs maxSize delimiter =
      (appendRecords chunk delimiter (rs.take (numChunked chunk rs maxSize delimiter)),
        (rs.take (numChunked chunk rs maxSize delimiter)).map (·.markForSending) ++
          rs.drop (numChunked chunk rs maxSize delimiter)) := by
  induction rs generalizing chunk with
  | nil => rfl
  | cons r rs ih =>
    by_cases h : chunk.getStringLength ≤ maxSize
    · simp only [chunkifyDataList, numChunked, h, if_true, List.take_succ_cons,
        List.drop_succ_cons, List.map_cons, List.cons_append, ih]
      rfl
    · simp only [chunkifyDataList, numChunked, h, if_false]
      rfl

/-- Before each record it takes, the chunk has at most `maxSize` characters. -/
theorem length_appendRecords_le {i : ℕ} (h : i < numChunked chunk rs maxSize delimiter) :
    (appendRecords chunk delimiter (rs.take i)).getStringLength ≤ maxSize := by
  induction rs generalizing chunk i with
  | nil => exact absurd h (Nat.not_lt_zero i)
  | cons r rs ih =>
    by_cases hc : chunk.getStringLength ≤ maxSize
    · simp only [numChunked, hc, if_true] at h
      cases i with
      | zero => exact hc
      | succ i => exact ih (Nat.lt_of_succ_lt_succ h)
    · simp only [numChunked, hc, if_false] at h
      exact absurd h (Nat.not_lt_zero i)

/-- Chunking two lists in turn is chunking the one after the other. -/
theorem chunkifyDataList_append (rs' : List BeaconCacheRecord) :
    chunkifyDataList chunk (rs ++ rs') maxSize delimiter =
      let first := chunkifyDataList chunk rs maxSize delimiter
      let second := chunkifyDataList first.1 rs' maxSize delimiter
      (second.1, first.2 ++ second.2) := by
  induction rs generalizing chunk with
  | nil => rfl
  | cons r rs ih =>
    by_cases h : chunk.getStringLength ≤ maxSize
    · simp only [List.cons_append, chunkifyDataList, h, if_true, ih]
    · cases rs' with
      | nil => simp [chunkifyDataList, h]
      | cons r' rs' => simp [chunkifyDataList, h]

end Chunk

/-- The first `n` records marked. -/
def markFirst (n : ℕ) (rs : List BeaconCacheRecord) : List BeaconCacheRecord :=
  (rs.take n).map (·.markForSending) ++ rs.drop n

@[simp] theorem length_markFirst (n : ℕ) (rs : List BeaconCacheRecord) :
    (markFirst n rs).length = rs.length := by
  simp [markFirst]
  omega

theorem markFirst_append (n : ℕ) (rs rs' : List BeaconCacheRecord) :
    markFirst n (rs ++ rs') = markFirst n rs ++ markFirst (n - rs.length) rs' := by
  unfold markFirst
  rcases Nat.le_total n rs.length with h | h
  · have h0 : n - rs.length = 0 := by omega
    rw [List.take_append_of_le_length h, List.drop_append_of_le_length h, h0, List.take_zero,
      List.drop_zero, List.map_nil, List.nil_append, List.append_assoc]
  · rw [List.take_append, List.drop_append, List.take_of_length_le h, List.drop_of_length_le h]
    simp

section GetChunk

variable {e : BeaconCacheEntry} {chunkPrefix : UTF8String} {maxSize : ℕ} {delimiter : UTF8String}

/-- The number of records of the entry that its next chunk takes. -/
def numInChunk (e : BeaconCacheEntry) (chunkPrefix : UTF8String) (maxSize : ℕ)
    (delimiter : UTF8String) : ℕ :=
  numChunked (UTF8String.nil.concatenate chunkPrefix) e.beingSent maxSize delimiter

/-- The chunk is the prefix and the first records being sent. -/
theorem getNextChunk_fst :
    (e.getNextChunk chunkPrefix maxSize delimiter).1 =
      appendRecords (UTF8String.nil.concatenate chunkPrefix) delimiter
        (e.beingSent.take (e.numInChunk chunkPrefix maxSize delimiter)) := by
  have h : chunkifyDataList (UTF8String.nil.concatenate chunkPrefix)
      (e.eventDataBeingSent ++ e.actionDataBeingSent) maxSize delimiter = _ :=
    chunkifyDataList_append e.actionDataBeingSent
  rw [chunkifyDataList_eq] at h
  exact (congrArg Prod.fst h).symm

/-- The records in the chunk are marked; they may reach from the events into the actions. -/
theorem getNextChunk_snd :
    (e.getNextChunk chunkPrefix maxSize delimiter).2 =
      { e with
        eventDataBeingSent :=
          markFirst (e.numInChunk chunkPrefix maxSize delimiter) e.eventDataBeingSent
        actionDataBeingSent :=
          markFirst (e.numInChunk chunkPrefix maxSize delimiter - e.eventDataBeingSent.length)
            e.actionDataBeingSent } := by
  have h : chunkifyDataList (UTF8String.nil.concatenate chunkPrefix)
      (e.eventDataBeingSent ++ e.actionDataBeingSent) maxSize delimiter = _ :=
    chunkifyDataList_append e.actionDataBeingSent
  have hl : markFirst (e.numInChunk chunkPrefix maxSize delimiter) e.beingSent =
      (e.getNextChunk chunkPrefix maxSize delimiter).2.eventDataBeingSent ++
        (e.getNextChunk chunkPrefix maxSize delimiter).2.actionDataBeingSent := by
    rw [chunkifyDataList_eq] at h
    exact congrArg Prod.snd h
  have hlen : (e.getNextChunk chunkPrefix maxSize delimiter).2.eventDataBeingSent.length =
      e.eventDataBeingSent.length := by
    have hev : chunkifyDataList (UTF8String.nil.concatenate chunkPrefix) e.eventDataBeingSent
        maxSize delimiter = _ := chunkifyDataList_eq
    exact (congrArg (fun p => p.2.length) hev).trans (length_markFirst _ _)
  rw [beingSent, markFirst_append] at hl
  obtain ⟨hev, hac⟩ := List.append_inj hl (by rw [hlen, length_markFirst])
  rw [hev, hac]
  rfl

theorem getNextChunk_beingSent :
    (e.getNextChunk chunkPrefix maxSize delimiter).2.beingSent =
      markFirst (e.numInChunk chunkPrefix maxSize delimiter) e.beingSent := by
  rw [getNextChunk_snd]
  exact (markFirst_append _ _ _).symm

end GetChunk

/-! ## Removing and restoring what was sent -/

theorem removeDataMarkedForSending_eq (e : BeaconCacheEntry) :
    e.removeDataMarkedForSending =
      { e with
        eventDataBeingSent := e.eventDataBeingSent.filter (!·.markedForSending)
        actionDataBeingSent := e.actionDataBeingSent.filter (!·.markedForSending) } := by
  unfold removeDataMarkedForSending
  cases h : e.hasDataToSend with
  | true => rfl
  | false =>
    have hs := hasDataToSend_eq_false_iff.mp h
    obtain ⟨hev, hac⟩ := List.append_eq_nil_iff.mp hs
    cases e
    simp_all

theorem resetDataMarkedForSending_eq (e : BeaconCacheEntry) :
    e.resetDataMarkedForSending =
      { eventData := e.eventDataBeingSent.map (·.unsetSending) ++ e.eventData
        actionData := e.actionDataBeingSent.map (·.unsetSending) ++ e.actionData
        eventDataBeingSent := []
        actionDataBeingSent := []
        totalNumBytes :=
          e.totalNumBytes + (dataSize e.eventDataBeingSent + dataSize e.actionDataBeingSent) } := by
  unfold resetDataMarkedForSending
  cases h : e.hasDataToSend with
  | true => rfl
  | false =>
    have hs := hasDataToSend_eq_false_iff.mp h
    obtain ⟨hev, hac⟩ := List.append_eq_nil_iff.mp hs
    cases e
    simp_all

@[simp] theorem removeDataMarkedForSending_beingSent (e : BeaconCacheEntry) :
    e.removeDataMarkedForSending.beingSent = e.beingSent.filter (!·.markedForSending) := by
  rw [removeDataMarkedForSending_eq]
  exact (List.filter_append _ _).symm

/-- Marking and then removing drops the marked records. -/
theorem filter_markFirst {n : ℕ} {rs : List BeaconCacheRecord}
    (h : ∀ r ∈ rs, r.markedForSending = false) :
    (markFirst n rs).filter (!·.markedForSending) = rs.drop n := by
  unfold markFirst
  rw [List.filter_append, List.filter_eq_nil_iff.mpr, List.nil_append, List.filter_eq_self.mpr]
  · intro r hr
    rw [h r (List.mem_of_mem_drop hr)]
    rfl
  · intro r hr
    obtain ⟨r', -, rfl⟩ := List.mem_map.mp hr
    exact Bool.false_ne_true

/-- Marking some record makes the following removal remove one. -/
theorem length_filter_markFirst_lt {n : ℕ} {rs : List BeaconCacheRecord} (hn : 0 < n)
    (hrs : rs ≠ []) : ((markFirst n rs).filter (!·.markedForSending)).length < rs.length := by
  rw [← length_markFirst n rs]
  obtain ⟨r, rs, rfl⟩ := List.exists_cons_of_ne_nil hrs
  obtain ⟨n, rfl⟩ := Nat.exists_eq_succ_of_ne_zero hn.ne'
  refine List.length_filter_lt_length_iff_exists.mpr ⟨r.markForSending, ?_, Bool.false_ne_true⟩
  exact List.mem_append_left _ (List.mem_map_of_mem (List.mem_cons_self))

/-! ## One kind of records

Both kinds are moved alike; only chunks take the events before the actions. -/

def active (e : BeaconCacheEntry) : RecordKind → List BeaconCacheRecord
  | .event => e.eventData
  | .action => e.actionData

def sending (e : BeaconCacheEntry) : RecordKind → List BeaconCacheRecord
  | .event => e.eventDataBeingSent
  | .action => e.actionDataBeingSent

/-- `addEventData` or `addActionData`. -/
def addData (e : BeaconCacheEntry) : RecordKind → BeaconCacheRecord → BeaconCacheEntry
  | .event => e.addEventData
  | .action => e.addActionData

/-- The number of records of a kind among the first `n` records being sent. -/
def kindCount (e : BeaconCacheEntry) (n : ℕ) : RecordKind → ℕ
  | .event => n
  | .action => n - e.eventDataBeingSent.length

theorem beingSent_eq_nil_iff {e : BeaconCacheEntry} :
    e.beingSent = [] ↔ ∀ kind, e.sending kind = [] := by
  rw [beingSent, List.append_eq_nil_iff]
  constructor
  · rintro ⟨hev, hac⟩ (_ | _)
    · exact hev
    · exact hac
  · intro h
    exact ⟨h .event, h .action⟩

theorem mem_beingSent_iff {e : BeaconCacheEntry} {r : BeaconCacheRecord} :
    r ∈ e.beingSent ↔ ∃ kind, r ∈ e.sending kind := by
  rw [beingSent, List.mem_append]
  constructor
  · rintro (h | h)
    · exact ⟨.event, h⟩
    · exact ⟨.action, h⟩
  · rintro ⟨_ | _, h⟩
    · exact .inl h
    · exact .inr h

theorem active_eq_nil_iff {e : BeaconCacheEntry} :
    (∀ kind, e.active kind = []) ↔ e.eventData = [] ∧ e.actionData = [] := by
  constructor
  · intro h
    exact ⟨h .event, h .action⟩
  · rintro ⟨hev, hac⟩ (_ | _)
    · exact hev
    · exact hac

@[simp] theorem active_new (kind : RecordKind) : BeaconCacheEntry.new.active kind = [] := by
  cases kind <;> rfl

@[simp] theorem sending_new (kind : RecordKind) : BeaconCacheEntry.new.sending kind = [] := by
  cases kind <;> rfl

section Kinds

variable (e : BeaconCacheEntry) (kind kind' : RecordKind)

theorem active_addData (r : BeaconCacheRecord) :
    (e.addData kind r).active kind' =
      if kind' = kind then e.active kind' ++ [r] else e.active kind' := by
  cases kind <;> cases kind' <;> rfl

@[simp] theorem sending_addData (r : BeaconCacheRecord) :
    (e.addData kind r).sending kind' = e.sending kind' := by
  cases kind <;> cases kind' <;> rfl

@[simp] theorem active_copyDataForSending : e.copyDataForSending.active kind = [] := by
  cases kind <;> rfl

@[simp] theorem sending_copyDataForSending :
    e.copyDataForSending.sending kind = e.active kind ++ e.sending kind := by
  cases kind <;> rfl

variable (chunkPrefix : UTF8String) (maxSize : ℕ) (delimiter : UTF8String)

@[simp] theorem active_getChunk :
    (e.getChunk chunkPrefix maxSize delimiter).2.active kind = e.active kind := by
  rw [getChunk]
  split
  · rfl
  · cases kind <;> rfl

/-- A chunk marks the first records of each kind. -/
theorem sending_getChunk :
    (e.getChunk chunkPrefix maxSize delimiter).2.sending kind =
      markFirst (e.kindCount (e.numInChunk chunkPrefix maxSize delimiter) kind)
        (e.sending kind) := by
  rw [getChunk]
  split
  next h =>
    have hs := hasDataToSend_eq_false_iff.mp (by simpa using h)
    rw [beingSent_eq_nil_iff.mp hs kind]
    simp [markFirst]
  next =>
    rw [getNextChunk_snd]
    cases kind <;> rfl

@[simp] theorem active_removeDataMarkedForSending :
    e.removeDataMarkedForSending.active kind = e.active kind := by
  rw [removeDataMarkedForSending_eq]
  cases kind <;> rfl

@[simp] theorem sending_removeDataMarkedForSending :
    e.removeDataMarkedForSending.sending kind =
      (e.sending kind).filter (!·.markedForSending) := by
  rw [removeDataMarkedForSending_eq]
  cases kind <;> rfl

@[simp] theorem active_resetDataMarkedForSending :
    e.resetDataMarkedForSending.active kind =
      (e.sending kind).map (·.unsetSending) ++ e.active kind := by
  rw [resetDataMarkedForSending_eq]
  cases kind <;> rfl

@[simp] theorem sending_resetDataMarkedForSending :
    e.resetDataMarkedForSending.sending kind = [] := by
  rw [resetDataMarkedForSending_eq]
  cases kind <;> rfl

end Kinds

/-- The marks do not matter once they are cleared. -/
@[simp] theorem map_unsetSending_markFirst (n : ℕ) (rs : List BeaconCacheRecord) :
    (markFirst n rs).map (·.unsetSending) = rs.map (·.unsetSending) := by
  rw [markFirst, List.map_append, List.map_map]
  change (rs.take n).map (·.unsetSending) ++ _ = _
  rw [← List.map_append, List.take_append_drop]

theorem map_unsetSending_of_unmarked {rs : List BeaconCacheRecord}
    (h : ∀ r ∈ rs, r.markedForSending = false) : rs.map (·.unsetSending) = rs := by
  conv_rhs => rw [← List.map_id rs]
  exact List.map_congr_left fun r hr => BeaconCacheRecord.unsetSending_of_unmarked (h r hr)

/-! ## Eviction -/

theorem removeRecordsOlderThanFrom_eq (rs : List BeaconCacheRecord) (minTimestamp : ℤ) :
    removeRecordsOlderThanFrom rs minTimestamp =
      (rs.countP (·.timestamp < minTimestamp), rs.filter (minTimestamp ≤ ·.timestamp)) := by
  induction rs with
  | nil => rfl
  | cons r rs ih =>
    by_cases h : r.timestamp < minTimestamp
    · simp [removeRecordsOlderThanFrom, ih, h, not_le.mpr h]
    · simp [removeRecordsOlderThanFrom, ih, h, not_lt.mp h]

/-- The active records in the order in which eviction takes them: the older head first, and the
event on equal timestamps. -/
def oldestFirst (events actions : List BeaconCacheRecord) : List BeaconCacheRecord :=
  List.merge events actions fun event action => event.timestamp ≤ action.timestamp

/-- Eviction removes the first records of the merged active lists. -/
theorem removeOldestFrom_eq (n : ℕ) (events actions : List BeaconCacheRecord) :
    (removeOldestFrom n events actions).1 = min n (events.length + actions.length) ∧
      oldestFirst (removeOldestFrom n events actions).2.1 (removeOldestFrom n events actions).2.2 =
        (oldestFirst events actions).drop n := by
  unfold oldestFirst
  fun_induction removeOldestFrom n events actions with
  | case1 events actions => simp
  | case2 n => simp
  | case3 n action actions rest ih => simp_all [rest]
  | case4 n event events rest ih => simp_all [rest]
  | case5 n event events action actions h rest ih =>
    have hle : ¬ event.timestamp ≤ action.timestamp := not_le.mpr h
    simp_all [rest]
    omega
  | case6 n event events action actions h rest ih =>
    simp_all [rest]
    omega

theorem dataSize_perm {rs rs' : List BeaconCacheRecord} (h : rs.Perm rs') :
    dataSize rs = dataSize rs' :=
  (h.map _).sum_eq

theorem dataSize_oldestFirst (events actions : List BeaconCacheRecord) :
    dataSize (oldestFirst events actions) = dataSize events + dataSize actions := by
  rw [← dataSize_append]
  exact dataSize_perm (List.merge_perm_append _)

/-- The active records that eviction by age removes. -/
def olderThan (e : BeaconCacheEntry) (minTimestamp : ℤ) : List BeaconCacheRecord :=
  (e.eventData ++ e.actionData).filter (·.timestamp < minTimestamp)

/-- The active records that eviction by number removes. -/
def oldest (e : BeaconCacheEntry) (numRecords : ℤ) : List BeaconCacheRecord :=
  (oldestFirst e.eventData e.actionData).take numRecords.toNat

theorem dataSize_filter_add (rs : List BeaconCacheRecord) (minTimestamp : ℤ) :
    dataSize (rs.filter (·.timestamp < minTimestamp)) +
      dataSize (rs.filter (minTimestamp ≤ ·.timestamp)) = dataSize rs := by
  induction rs with
  | nil => rfl
  | cons r rs ih =>
    by_cases h : r.timestamp < minTimestamp
    · simp only [List.filter_cons, h, not_le.mpr h, decide_true, decide_false, if_true,
        Bool.false_eq_true, if_false, dataSize_cons]
      omega
    · simp only [List.filter_cons, h, not_lt.mp h, decide_true, decide_false, if_true,
        Bool.false_eq_true, if_false, dataSize_cons]
      omega

theorem removeRecordsOlderThan_activeBytes (e : BeaconCacheEntry) (minTimestamp : ℤ) :
    (e.removeRecordsOlderThan minTimestamp).2.activeBytes =
      e.activeBytes - dataSize (e.olderThan minTimestamp) := by
  have hev := dataSize_filter_add e.eventData minTimestamp
  have hac := dataSize_filter_add e.actionData minTimestamp
  simp only [removeRecordsOlderThan, removeRecordsOlderThanFrom_eq, activeBytes, olderThan,
    List.filter_append, dataSize_append]
  omega

/-- Eviction does not touch the counter of the entry. -/
@[simp] theorem removeOldestRecords_totalNumBytes (e : BeaconCacheEntry) (numRecords : ℤ) :
    (e.removeOldestRecords numRecords).2.totalNumBytes = e.totalNumBytes := rfl

theorem removeOldestRecords_activeBytes (e : BeaconCacheEntry) (numRecords : ℤ) :
    (e.removeOldestRecords numRecords).2.activeBytes =
      e.activeBytes - dataSize (e.oldest numRecords) := by
  have h := (removeOldestFrom_eq numRecords.toNat e.eventData e.actionData).2
  have hdrop := congrArg dataSize h
  have hall := congrArg dataSize
    (List.take_append_drop numRecords.toNat (oldestFirst e.eventData e.actionData))
  rw [dataSize_oldestFirst] at hdrop
  rw [dataSize_append, dataSize_oldestFirst, ← hdrop] at hall
  simp only [removeOldestRecords, activeBytes, oldest]
  omega

end BeaconCacheEntry

end OpenKit
