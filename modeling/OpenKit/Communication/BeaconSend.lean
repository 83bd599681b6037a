import OpenKit.Communication.World

/-!
# Sending the data of a beacon

`Beacon::send` prepares the cached data of a beacon for sending and then sends one chunk after
the other, until nothing is left or a request fails. What was sent is removed from the cache after a
successful answer, and restored after any other.

## Main definitions

* `BeaconSend.send`: `Beacon::send`, with a bound on the rounds of its loop
* `BeaconSend.sendChunk`: a round of its loop
-/

namespace OpenKit

open Thread

namespace BeaconSend

variable (env : Environment)

/-- `BEACON_DATA_DELIMITER`. -/
def beaconDataDelimiter : UTF8String := .ofAscii ['&']

/-- The prefix of a chunk: the immutable data of the beacon, then that of the moment. -/
def beaconPrefix (session : Session) (mutableBeaconData : UTF8String) : UTF8String :=
  (session.beacon.immutableBasicBeaconData.concatenate beaconDataDelimiter).concatenate
    mutableBeaconData

/-- The size that the chunks of a session are limited to. -/
def maxChunkSize (session : Session) : ℤ :=
  session.beacon.beaconConfiguration.getServerConfiguration.beaconSizeInBytes - 1024

/-- The prefix of the next chunk, which is built anew for each. -/
def chunkPrefix (k : BeaconKey) (w : World) : UTF8String :=
  beaconPrefix (w.session k) (env.mutableBeaconData k w.numRequests)

def prepareDataForSending (k : BeaconKey) : Sender Unit :=
  .write fun w => w.setCache (w.cache.prepareDataForSending k)

def hasDataForSending (k : BeaconKey) : Sender Bool :=
  .read fun w => w.cache.hasDataForSending k

/-- The next chunk. It is returned with the entry of the cache it is taken from. -/
def getNextBeaconChunk (k : BeaconKey) (chunkPrefix : UTF8String) (maxSize : ℤ) :
    Sender BeaconChunk :=
  .atomic fun w =>
    let chunk := w.cache.getNextBeaconChunk k chunkPrefix maxSize beaconDataDelimiter
    (⟨k, w.cache.entryAt k, chunkPrefix, maxSize, beaconDataDelimiter, chunk.1⟩,
      w.setCache chunk.2)

/-- The request for a chunk and its answer. -/
def sendBeaconRequest (chunk : BeaconChunk) : Sender (Option Answer) :=
  .atomic fun w =>
    let answer := (env.response w.numRequests).map (Answer.mk w.numRequests)
    (answer,
      { w with numRequests := w.numRequests + 1 }.write (.requested w.phase chunk answer))

/-- Removes the chunk from the cache: it is acknowledged. -/
def removeChunkedData (k : BeaconKey) (chunk : BeaconChunk) : Sender Unit :=
  .write fun w => (w.setCache (w.cache.removeChunkedData k)).write (.acknowledged chunk)

def resetChunkedData (k : BeaconKey) : Sender Unit :=
  .write fun w => w.setCache (w.cache.resetChunkedData k)

/-- A round of the loop of `send`; the loop variable is the last response. -/
def sendChunk (k : BeaconKey) (response : Option Answer) :
    Sender (ForInStep (Option Answer)) := do
  if !(← hasDataForSending k) then
    return .done response
  let chunkPrefix ← Program.read (chunkPrefix env k)
  let maxSize ← Program.read fun w => maxChunkSize (w.session k)
  let chunk ← getNextBeaconChunk k chunkPrefix maxSize
  if chunk.text.isEmpty then
    return .done response
  let response ← sendBeaconRequest env chunk
  if BeaconSendingResponseUtil.isSuccessfulResponse response then
    removeChunkedData k chunk
    return .yield response
  else
    resetChunkedData k
    return .done response

/-- `Beacon::send`. -/
def send (rounds : ℕ) (k : BeaconKey) : Sender (Option Answer) := do
  prepareDataForSending k
  Program.loop .outOfRounds (sendChunk env k) rounds none

/-! ## A round run alone -/

/-- The chunk that a round sends from `w`. -/
def chunkAt (k : BeaconKey) (w : World) : BeaconChunk :=
  ⟨k, w.cache.entryAt k, chunkPrefix env k w, maxChunkSize (w.session k), beaconDataDelimiter,
    (w.cache.getNextBeaconChunk k (chunkPrefix env k w) (maxChunkSize (w.session k))
      beaconDataDelimiter).1⟩

/-- The answer to the next request. -/
def answerAt (w : World) : Option Answer :=
  (env.response w.numRequests).map (Answer.mk w.numRequests)

/-- The world after the request of a round. -/
def afterRequest (k : BeaconKey) (w : World) : World :=
  { w.setCache (w.cache.getNextBeaconChunk k (chunkPrefix env k w) (maxChunkSize (w.session k))
      beaconDataDelimiter).2 with
    numRequests := w.numRequests + 1 }.write (.requested w.phase (chunkAt env k w) (answerAt env w))

/-- The world after a round that found data to send. -/
def afterRound (k : BeaconKey) (w : World) : World :=
  let w' := afterRequest env k w
  if BeaconSendingResponseUtil.isSuccessfulResponse (answerAt env w) then
    (w'.setCache (w'.cache.removeChunkedData k)).write (.acknowledged (chunkAt env k w))
  else w'.setCache (w'.cache.resetChunkedData k)

variable {env} {k : BeaconKey} {w : World}

/-- The prefix holds at least the delimiter between its parts. -/
theorem chunkPrefix_pos : 0 < (chunkPrefix env k w).stringLength := by
  simp only [chunkPrefix, beaconPrefix, UTF8String.concatenate_stringLength]
  have h : beaconDataDelimiter.stringLength = 1 := rfl
  omega

/-- The chunk of a beacon with data to send is not empty. -/
theorem getNextBeaconChunk_isEmpty {c : BeaconCache} {chunkPrefix : UTF8String} {maxSize : ℤ}
    (hp : 0 < chunkPrefix.stringLength) (h : c.hasDataForSending k = true) :
    (c.getNextBeaconChunk k chunkPrefix maxSize beaconDataDelimiter).1.isEmpty = false := by
  rw [BeaconCache.hasDataForSending_eq] at h
  rw [BeaconCache.getNextBeaconChunk_fst, BeaconCacheEntry.getChunk, h]
  simp only [Bool.not_true, Bool.false_eq_true, if_false]
  rw [BeaconCacheEntry.getNextChunk_fst, UTF8String.isEmpty_eq_false_iff]
  refine lt_of_lt_of_le ?_ (BeaconCacheEntry.length_le_appendRecords _ _ _)
  rw [UTF8String.concatenate_stringLength]
  omega

theorem run_sendChunk_of_no_data {response : Option Answer}
    (h : w.cache.hasDataForSending k = false) :
    (sendChunk env k response).run w = (.ok (.done response), w) := by
  rw [sendChunk, hasDataForSending, Program.run_bind_ok (Program.run_read _ w), h]
  rfl

/-- A round with data to send makes one request and removes or restores what it sent. -/
theorem run_sendChunk_of_data {response : Option Answer}
    (h : w.cache.hasDataForSending k = true) :
    (sendChunk env k response).run w =
      (.ok (if BeaconSendingResponseUtil.isSuccessfulResponse (answerAt env w) then
          .yield (answerAt env w)
        else .done (answerAt env w)), afterRound env k w) := by
  have htext : (w.cache.getNextBeaconChunk k (chunkPrefix env k w) (maxChunkSize (w.session k))
      beaconDataDelimiter).1.isEmpty = false := getNextBeaconChunk_isEmpty chunkPrefix_pos h
  rw [sendChunk, hasDataForSending, Program.run_bind_ok (Program.run_read _ w), h]
  simp only [Bool.not_true, Bool.false_eq_true, if_false]
  rw [Program.run_bind_ok (Program.run_read _ w), Program.run_bind_ok (Program.run_read _ w),
    getNextBeaconChunk, Program.run_bind_ok (Program.run_atomic _ w)]
  simp only [htext, Bool.false_eq_true, if_false]
  rw [sendBeaconRequest, Program.run_bind_ok (Program.run_atomic _ _)]
  by_cases hs : BeaconSendingResponseUtil.isSuccessfulResponse (answerAt env w)
  · simp only [afterRound, hs, if_true]
    simp only [answerAt] at hs
    simp only [World.setCache, hs, if_true]
    rfl
  · simp only [afterRound, hs, Bool.false_eq_true, if_false]
    simp only [answerAt] at hs
    simp only [World.setCache, hs, Bool.false_eq_true, if_false]
    rfl

end BeaconSend

end OpenKit
