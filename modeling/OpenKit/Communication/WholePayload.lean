import OpenKit.Communication.RequestTexts
import OpenKit.Objects.BasicBeaconData

/-!
# The whole payload is transmitted

The client compresses as many bytes of a chunk as the chunk counts characters, and a chunk is cut where
it has too many characters. Both are meant in bytes. They are, as all texts that a chunk is put together
from have ASCII characters only: the basic data of the beacon and the records are built of pairs with
escaped values.

## Main definitions

* `HTTPClient.compressedData`: the bytes of a chunk that are compressed
* `BeaconChunk.Whole`: a chunk of ASCII characters, which is compressed as a whole
* `PayloadStep`: the steps of the threads of the application and of the eviction
* `Transmittable`: the invariant

## Main results

* `whole_of_getNextBeaconChunk`: a chunk that is taken from ASCII texts
* `BeaconSend.whole_of_reaches`: every chunk requested is such, whatever was reported
-/

namespace OpenKit

open Thread

/-- The bytes that `compressMemory` is given: as many as the chunk counts characters. -/
def HTTPClient.compressedData (beaconData : UTF8String) : List UInt8 :=
  beaconData.getStringData.take beaconData.getStringLength

namespace BeaconChunk

/-- The text of a chunk after some of its records: what the limit is compared with. -/
def textAfter (c : BeaconChunk) (numRecords : ℕ) : UTF8String :=
  BeaconCacheEntry.appendRecords (UTF8String.nil.concatenate c.chunkPrefix) c.delimiter
    (c.entry.beingSent.take numRecords)

/-- A chunk that is compressed as a whole, and limited by its number of bytes. -/
structure Whole (c : BeaconChunk) : Prop where
  ascii : ∀ b ∈ c.text.getStringData, b < 128
  getStringLength : c.text.getStringLength = c.text.getStringData.length
  compressed : HTTPClient.compressedData c.text = c.text.getStringData
  limited : ∀ numRecords,
    (c.textAfter numRecords).getStringLength = (c.textAfter numRecords).getStringData.length

theorem Whole.of_isAscii {c : BeaconChunk} (htext : c.text.IsAscii)
    (hlimited : ∀ numRecords, (c.textAfter numRecords).IsAscii) : c.Whole := by
  refine ⟨htext.bytes, htext.stringLength, ?_, fun numRecords => (hlimited numRecords).stringLength⟩
  rw [HTTPClient.compressedData, UTF8String.getStringLength, htext.stringLength]
  exact List.take_length

end BeaconChunk

/-! ## Chunks of ASCII texts -/

theorem isAscii_appendRecords {chunk delimiter : UTF8String} (hchunk : chunk.IsAscii)
    (hdelimiter : delimiter.IsAscii) {rs : List BeaconCacheRecord} (hrs : ∀ r ∈ rs, r.data.IsAscii) :
    (BeaconCacheEntry.appendRecords chunk delimiter rs).IsAscii := by
  induction rs generalizing chunk with
  | nil => exact hchunk
  | cons r rs ih =>
    obtain ⟨hr, hrs⟩ := List.forall_mem_cons.mp hrs
    exact ih ((hchunk.concatenate hdelimiter).concatenate hr) hrs

/-- **A chunk of ASCII texts** is compressed as a whole. -/
theorem whole_of_getNextBeaconChunk {c : BeaconCache} (hc : c.AllTexts UTF8String.IsAscii)
    {chunkPrefix : UTF8String} (hchunkPrefix : chunkPrefix.IsAscii) (k : BeaconKey) (maxSize : ℤ) :
    BeaconChunk.Whole ⟨k, c.entryAt k, chunkPrefix, maxSize, BeaconSend.beaconDataDelimiter,
      (c.getNextBeaconChunk k chunkPrefix maxSize BeaconSend.beaconDataDelimiter).1⟩ := by
  have hdelimiter : BeaconSend.beaconDataDelimiter.IsAscii := by decide
  have htexts (numRecords : ℕ) : (BeaconCacheEntry.appendRecords
      (UTF8String.nil.concatenate chunkPrefix) BeaconSend.beaconDataDelimiter
      ((c.entryAt k).beingSent.take numRecords)).IsAscii := by
    refine isAscii_appendRecords (UTF8String.isAscii_nil.concatenate hchunkPrefix) hdelimiter ?_
    exact fun r hr => (hc k).beingSent r (List.mem_of_mem_take hr)
  refine .of_isAscii ?_ htexts
  simp only [BeaconCache.getNextBeaconChunk_fst, BeaconCacheEntry.getChunk]
  split
  · exact UTF8String.isAscii_nil
  · rw [BeaconCacheEntry.getNextChunk_fst]
    exact htexts _

/-! ## Steps of the other threads -/

/-- A step of a thread of the application or of the eviction thread. A call of a reporting function adds
its records one at a time, for whatever state the session has then. Every session has a beacon that was
constructed, and what happens to a session does not change the immutable data of its beacon. -/
inductive PayloadStep (isValidIP : UTF8String → Bool) : World → World → Prop
  | report (w : World) (k : BeaconKey) (caller : Caller) (call : BeaconCall) (session : Session)
      (numReads : ℕ) (record : BeaconRecord)
      (h : record ∈ ((call.perform caller).run ⟨session, numReads, []⟩).2.records) :
      PayloadStep isValidIP w (w.addData k record.kind record.timestamp record.data)
  | create (w : World) (k : BeaconKey) (openKitConfiguration : OpenKitDescription)
      (beaconConfiguration : BeaconConfiguration) (initializer : BeaconInitializer) :
      PayloadStep isValidIP w
        { w.updateSession k fun _ =>
            .new (.construct isValidIP openKitConfiguration beaconConfiguration initializer) with
          created := w.created ++ [k]
          context := w.context.addSession k }
  | change (w : World) (k : BeaconKey) (session : Session)
      (h : session.beacon.immutableBasicBeaconData =
        (w.session k).beacon.immutableBasicBeaconData) :
      PayloadStep isValidIP w (w.updateSession k fun _ => session)
  | evictByAge (w : World) (k : BeaconKey) (minTimestamp : ℤ) :
      PayloadStep isValidIP w (w.setCache (w.cache.evictRecordsByAge k minTimestamp).2)
  | evictByNumber (w : World) (k : BeaconKey) (numRecords : ℕ) :
      PayloadStep isValidIP w (w.setCache (w.cache.evictRecordsByNumber k numRecords).2)
  | clear (w : World) (phase : Phase) (k : BeaconKey) :
      PayloadStep isValidIP w
        ((w.setCache (w.cache.deleteCacheEntry k)).write (.cleared phase k))
  | setContext (w : World) (context : BeaconSendingContext) :
      PayloadStep isValidIP w (w.setContext context)
  | tick (w : World) (currentTime : ℤ) :
      PayloadStep isValidIP w { w with currentTime := currentTime }

/-- The invariant: all texts have ASCII characters only, and all chunks requested are whole. -/
structure Transmittable (w : World) : Prop where
  cached : w.cache.AllTexts UTF8String.IsAscii
  immutable : ∀ k, (w.session k).beacon.immutableBasicBeaconData.IsAscii
  requested : ∀ request ∈ requests w.log, request.1.Whole

namespace PayloadStep

variable {isValidIP : UTF8String → Bool} {w w' : World}

/-- The texts that are added are built of pairs, with the keys of records. -/
theorem cached {R : UTF8String → Prop} (hstep : PayloadStep isValidIP w w')
    (hR : ∀ text, EventData.BuiltOf EventData.recordKeys text → R text) (h : w.cache.AllTexts R) :
    w'.cache.AllTexts R := by
  cases hstep with
  | report k caller call session numReads record hrecord =>
    exact h.addData k record.kind record.timestamp (hR _ (BeaconCall.builtOf_of_perform hrecord))
  | create k openKitConfiguration beaconConfiguration initializer => exact h
  | change k session hsame => exact h
  | evictByAge k minTimestamp => exact h.evictRecordsByAge k minTimestamp
  | evictByNumber k numRecords => exact h.evictRecordsByNumber k numRecords
  | clear phase k => exact h.deleteCacheEntry k
  | setContext context => exact h
  | tick currentTime => exact h

/-- Nothing is requested. -/
theorem requests_eq (hstep : PayloadStep isValidIP w w') : requests w'.log = requests w.log := by
  have hwrite {t : World} {event : Event} (hevent : requests [event] = []) :
      requests (t.write event).log = requests t.log := by
    rw [World.log_write, requests_append, hevent, List.append_nil]
  cases hstep with
  | report k caller call session numReads record hrecord => exact hwrite rfl
  | create k openKitConfiguration beaconConfiguration initializer => rfl
  | change k session hsame => rfl
  | evictByAge k minTimestamp => rfl
  | evictByNumber k numRecords => rfl
  | clear phase k => exact hwrite rfl
  | setContext context => rfl
  | tick currentTime => rfl

/-- The immutable data stays the same, but for a beacon that is constructed. -/
theorem immutable_cases (hstep : PayloadStep isValidIP w w') (k : BeaconKey) :
    (w'.session k).beacon.immutableBasicBeaconData = (w.session k).beacon.immutableBasicBeaconData ∨
      w'.created ≠ w.created ∧ ∃ openKitConfiguration beaconConfiguration initializer,
        (w'.session k).beacon =
          .construct isValidIP openKitConfiguration beaconConfiguration initializer := by
  cases hstep with
  | create k' openKitConfiguration beaconConfiguration initializer =>
    have hsession : (w.updateSession k' fun _ => .new (.construct isValidIP openKitConfiguration
        beaconConfiguration initializer)).session k = _ := World.session_updateSession ..
    split at hsession
    · refine .inr ⟨by simp, openKitConfiguration, beaconConfiguration, initializer, ?_⟩
      exact congrArg Session.beacon hsession
    · exact .inl (congrArg (fun t : Session => t.beacon.immutableBasicBeaconData) hsession)
  | change k' session hsame =>
    refine .inl ?_
    rw [World.session_updateSession]
    split
    next hk => rw [hsame, hk]
    next => rfl
  | report k' caller call session numReads record hrecord => exact .inl rfl
  | evictByAge k' minTimestamp => exact .inl rfl
  | evictByNumber k' numRecords => exact .inl rfl
  | clear phase k' => exact .inl rfl
  | setContext context => exact .inl rfl
  | tick currentTime => exact .inl rfl

end PayloadStep

namespace Transmittable

variable {isValidIP : UTF8String → Bool} {w w' : World}

theorem iff_requestTexts : Transmittable w ↔
    RequestTexts UTF8String.IsAscii (fun _ => UTF8String.IsAscii) BeaconChunk.Whole w :=
  ⟨fun h => ⟨h.cached, h.immutable, h.requested⟩, fun h => ⟨h.cached, h.immutable, h.requested⟩⟩

/-- **The other threads** keep the invariant. -/
theorem step (h : Transmittable w) (hstep : PayloadStep isValidIP w w') : Transmittable w' := by
  refine ⟨hstep.cached (fun text htext => ?_) h.cached, fun k => ?_, hstep.requests_eq ▸ h.requested⟩
  · exact (htext.builtOfPairs (List.all_iff_forall_prop.mp (by decide))).isAscii
  · rcases hstep.immutable_cases k with hsame | ⟨-, _, _, _, hnew⟩
    · rw [hsame]
      exact h.immutable k
    · rw [hnew]
      exact (builtOfPairs_createImmutableBeaconData _ _ _ _ _ _).isAscii

theorem stable : Stable (PayloadStep isValidIP) (RequestTexts UTF8String.IsAscii
    (fun _ => UTF8String.IsAscii) BeaconChunk.Whole) := fun _ _ hstep h =>
  iff_requestTexts.mp ((iff_requestTexts.mpr h).step hstep)

end Transmittable

/-! ## Sending -/

namespace BeaconSend

variable {env : Environment}

/-- The chunks that are taken from ASCII texts are whole. -/
theorem takesChunks_whole (hmutable : ∀ k n, (env.mutableBeaconData k n).IsAscii) :
    TakesChunks UTF8String.IsAscii (fun _ => UTF8String.IsAscii) BeaconChunk.Whole env := by
  have hdelimiter : beaconDataDelimiter.IsAscii := by decide
  rintro c k _ maxSize hcached ⟨basicData, n, hbasic, rfl⟩ -
  exact whole_of_getNextBeaconChunk hcached
    ((hbasic.concatenate hdelimiter).concatenate (hmutable k n)) k maxSize

/-- **The whole payload is transmitted.** Whatever is configured and reported, and whatever happens
between the steps of sending, each chunk that is requested has ASCII characters only, all of its bytes
are compressed, and it was limited by its number of bytes. -/
theorem whole_of_reaches (isValidIP : UTF8String → Bool) (response : ℕ → Option StatusResponse)
    (input : BeaconKey → ℕ → MutableBeaconInput) (openKitConfiguration : BeaconKey → OpenKitDescription)
    (beaconConfiguration : BeaconKey → BeaconConfiguration)
    (initializer : BeaconKey → BeaconInitializer) (context : BeaconSendingContext) (rounds : ℕ)
    (ks : List BeaconKey) {w : World} {p : Sender (ForInStep (Option Answer))}
    (h : Program.Reaches (PayloadStep isValidIP)
      (sendEach ⟨response, fun k n => getMutableBeaconData (input k n)⟩ rounds ks,
        World.new (fun k => .new (.construct isValidIP (openKitConfiguration k)
          (beaconConfiguration k) (initializer k))) context) (p, w)) :
    ∀ request ∈ requests w.log, request.1.Whole := by
  have hchunks : TakesChunks UTF8String.IsAscii (fun _ => UTF8String.IsAscii) BeaconChunk.Whole
      ⟨response, fun k n => getMutableBeaconData (input k n)⟩ :=
    takesChunks_whole fun k n => isAscii_getMutableBeaconData _
  refine ((sat_sendEach_requestTexts Transmittable.stable hchunks rounds ks
    (RequestTexts.new fun k => ?_)).invariant h).requested
  exact (builtOfPairs_createImmutableBeaconData _ _ _ _ _ _).isAscii

/-- An event with a name of two bytes is reported by a beacon with such an application id, and sent. -/
theorem whole_of_multibyteEvent :
    let k : BeaconKey := ⟨1, 0⟩
    let umlaut : UTF8String := ⟨[0xC3, 0xA4], 1⟩
    let openKitConfiguration : OpenKitDescription := ⟨⟨umlaut, 7⟩, .nil, umlaut, .nil, .nil⟩
    let beaconConfiguration : BeaconConfiguration := .new ⟨.userBehavior, .optInCrashes⟩
    let initializer : BeaconInitializer := ⟨false, .nil, 1, 0, 0, 5, 10⟩
    let input : MutableBeaconInput :=
      ⟨beaconConfiguration.getServerConfiguration, 0, 20, 10, umlaut, .nil, .unset, true, false, false⟩
    let env : Environment :=
      ⟨fun _ => some ⟨.undefined, 200, 0⟩, fun _ _ => getMutableBeaconData input⟩
    let session : Session := .new (.construct (fun _ => false) openKitConfiguration
      beaconConfiguration initializer)
    let w := World.new (fun _ => session) (.new ⟨1, .nil⟩)
    let record : BeaconRecord := ⟨.event, 15,
      (((BeaconCall.reportEvent 0 umlaut).perform ⟨3, fun _ => 15⟩).run
        ⟨session, 0, []⟩).2.records.head?.elim .nil (·.data)⟩
    let w' := ((sendEach env 2 [k]).run (w.addData k .event 15 record.data)).2
    requests w'.log ≠ [] ∧ ∀ request ∈ requests w'.log, request.1.Whole := by
  intro k umlaut openKitConfiguration beaconConfiguration initializer input env session w record w'
  have hrecord : record ∈ (((BeaconCall.reportEvent 0 umlaut).perform ⟨3, fun _ => 15⟩).run
      ⟨session, 0, []⟩).2.records := by decide
  have hok : ((sendEach env 2 [k]).run (w.addData k .event 15 record.data)).1.isOk = true := by
    decide
  refine ⟨by decide, ?_⟩
  rcases hrun : (sendEach env 2 [k]).run (w.addData k .event 15 record.data) with ⟨r, t⟩
  have ht : w' = t := congrArg Prod.snd hrun
  rw [hrun] at hok
  cases r with
  | error e => exact absurd hok Bool.false_ne_true
  | ok r =>
    rw [ht]
    exact whole_of_reaches (fun _ => false) _ (fun _ _ => input) (fun _ => openKitConfiguration)
      (fun _ => beaconConfiguration) (fun _ => initializer) (.new ⟨1, .nil⟩) 2 [k]
      (.head (.other _ (.report w k ⟨3, fun _ => 15⟩ (.reportEvent 0 umlaut) session 0 record hrecord))
        (Program.reaches_of_run hrun))

end BeaconSend

end OpenKit
