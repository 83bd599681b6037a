import OpenKit.Caching.CachedTexts
import OpenKit.Communication.Delivery

/-!
# The texts of requests

A chunk is put together from the immutable data of a beacon, the data of the moment, and the texts in the
cache. So what is known of these, and kept by the other threads, is known of every chunk that is
requested.

## Main definitions

* `RequestTexts`: what is known of the texts in the cache, of the immutable data and of the chunks
* `BeaconSend.TakesChunks`: chunks that are taken from such texts are such

## Main results

* `BeaconSend.sat_sendEach_requestTexts`: sending keeps what is known
-/

namespace OpenKit

open Thread

/-- What is known of the texts in the cache, of the immutable data of the beacons, and of the chunks
requested. -/
structure RequestTexts (R : UTF8String → Prop) (B : BeaconKey → UTF8String → Prop)
    (C : BeaconChunk → Prop) (w : World) : Prop where
  cached : w.cache.AllTexts R
  immutable : ∀ k, B k (w.session k).beacon.immutableBasicBeaconData
  requested : ∀ request ∈ requests w.log, C request.1

section

variable {R : UTF8String → Prop} {B : BeaconKey → UTF8String → Prop} {C : BeaconChunk → Prop}
  {E : World → World → Prop} {env : Environment} {w : World}

namespace RequestTexts

theorem setCache (h : RequestTexts R B C w) {cache : BeaconCache} (hcache : cache.AllTexts R) :
    RequestTexts R B C (w.setCache cache) :=
  ⟨hcache, h.immutable, h.requested⟩

/-- An entry of the log that is no request. -/
theorem write (h : RequestTexts R B C w) {event : Event} (hevent : requests [event] = []) :
    RequestTexts R B C (w.write event) := by
  refine ⟨h.cached, h.immutable, ?_⟩
  rw [World.log_write, requests_append, hevent, List.append_nil]
  exact h.requested

/-- Nothing was requested yet. -/
theorem new {session : BeaconKey → Session} {context : BeaconSendingContext}
    (h : ∀ k, B k (session k).beacon.immutableBasicBeaconData) :
    RequestTexts R B C (World.new session context) :=
  ⟨BeaconCache.allTexts_empty, h, List.forall_mem_nil _⟩

end RequestTexts

namespace BeaconSend

/-- The prefix of a chunk of a beacon with immutable data that something is known of. -/
def HasPrefix (B : BeaconKey → UTF8String → Prop) (env : Environment) (k : BeaconKey)
    (chunkPrefix : UTF8String) : Prop :=
  ∃ basicData n, B k basicData ∧
    chunkPrefix = (basicData.concatenate beaconDataDelimiter).concatenate (env.mutableBeaconData k n)

/-- **What is taken from such texts** is such a chunk, if it is not empty. -/
def TakesChunks (R : UTF8String → Prop) (B : BeaconKey → UTF8String → Prop) (C : BeaconChunk → Prop)
    (env : Environment) : Prop :=
  ∀ (c : BeaconCache) k chunkPrefix (maxSize : ℤ), c.AllTexts R → HasPrefix B env k chunkPrefix →
    (c.getNextBeaconChunk k chunkPrefix maxSize beaconDataDelimiter).1.isEmpty = false →
      C ⟨k, c.entryAt k, chunkPrefix, maxSize, beaconDataDelimiter,
        (c.getNextBeaconChunk k chunkPrefix maxSize beaconDataDelimiter).1⟩

/-- A read that nothing is known of. -/
theorem sat_any {α : Type} (hE : Stable E (RequestTexts R B C)) (f : World → α)
    (h : RequestTexts R B C w) :
    Program.Sat E (RequestTexts R B C) (Program.read f : Sender α) (fun _ _ => True) w :=
  Program.sat_read (P := fun _ => True) hE (.const True) (fun _ => .const True)
    (fun _ _ _ => trivial) h trivial

/-- An action on the cache. -/
theorem sat_onCache (hE : Stable E (RequestTexts R B C)) {f : World → World}
    (hf : ∀ t, RequestTexts R B C t → RequestTexts R B C (f t)) (h : RequestTexts R B C w) :
    Program.Sat E (RequestTexts R B C) (Program.write f : Sender Unit) (fun _ _ => True) w :=
  Program.sat_write (P := fun _ => True) hE (.const True) (fun _ => .const True)
    (fun t ht _ => ⟨hf t ht, trivial⟩) h trivial

/-- **A round** requests such chunks only. -/
theorem sat_sendChunk_requestTexts (hE : Stable E (RequestTexts R B C))
    (hchunks : TakesChunks R B C env) (k : BeaconKey) (response : Option Answer)
    (h : RequestTexts R B C w) :
    Program.Sat E (RequestTexts R B C) (sendChunk env k response)
      (Program.Round (fun _ _ => True) fun _ _ => True) w := by
  have htrue : Stable E fun _ => True := .const True
  have hret (r : ForInStep (Option Answer)) {t : World} (ht : RequestTexts R B C t) :
      Program.Sat E (RequestTexts R B C) (Program.ret r : Sender _)
        (Program.Round (fun _ _ => True) fun _ _ => True) t := by
    refine Program.sat_ret hE (Program.Round.stable (fun _ => htrue) (fun _ => htrue) r) ht ?_
    cases r <;> trivial
  refine (sat_any hE _ h).seq fun hasData w h _ => ?_
  cases hasData with
  | false => exact hret _ h
  | true =>
    -- the prefix stays what it is, whatever else changes until the chunk is taken
    refine (Program.sat_read (P := fun _ => True)
      (Q := fun (chunkPrefix : UTF8String) _ => HasPrefix B env k chunkPrefix) hE htrue
      (fun _ => .const _) (fun t ht _ => ⟨_, _, ht.immutable k, rfl⟩) h trivial).seq
      fun chunkPrefix w h hchunkPrefix => ?_
    refine (sat_any hE _ h).seq fun maxSize w h _ => ?_
    refine (Program.sat_atomic (P := fun _ => True)
      (Q := fun (chunk : BeaconChunk) _ => chunk.text.isEmpty = false → C chunk) hE htrue (fun _ => .const _)
      (fun t ht _ => ?_) h trivial).seq fun chunk w h hchunk => ?_
    · exact ⟨ht.setCache (ht.cached.getNextBeaconChunk k _ _ _),
        hchunks _ k chunkPrefix maxSize ht.cached hchunkPrefix⟩
    split
    next => exact hret _ h
    next hne =>
      have hchunk := hchunk (Bool.eq_false_of_not_eq_true hne)
      refine (Program.sat_atomic (P := fun _ => True) (Q := fun (_ : Option Answer) _ => True)
        hE htrue (fun _ => htrue) (fun t ht _ => ⟨⟨ht.cached, ht.immutable, ?_⟩, trivial⟩) h
          trivial).seq fun answer w h _ => ?_
      · rw [World.log_write, requests_append]
        exact List.forall_mem_append.mpr ⟨ht.requested, List.forall_mem_singleton.mpr hchunk⟩
      · split
        · refine (sat_onCache hE (fun t ht => ?_) h).seq fun _ w h _ => hret _ h
          exact (ht.setCache (ht.cached.removeChunkedData k)).write rfl
        · refine (sat_onCache hE (fun t ht => ?_) h).seq fun _ w h _ => hret _ h
          exact ht.setCache (ht.cached.resetChunkedData k)

/-- So does a send. -/
theorem sat_send_requestTexts (hE : Stable E (RequestTexts R B C)) (hchunks : TakesChunks R B C env)
    (rounds : ℕ) (k : BeaconKey) (h : RequestTexts R B C w) :
    Program.Sat E (RequestTexts R B C) (send env rounds k) (fun _ _ => True) w := by
  refine (sat_onCache hE (fun t ht => ht.setCache (ht.cached.prepareDataForSending k)) h).seq
    fun _ w h _ => ?_
  exact Program.sat_loop (J := fun _ _ => True) hE (fun _ => .const True)
    (fun response t ht _ => sat_sendChunk_requestTexts hE hchunks k response ht) rounds h trivial

/-- **Sending** keeps what is known, for any number of beacons. -/
theorem sat_sendEach_requestTexts (hE : Stable E (RequestTexts R B C))
    (hchunks : TakesChunks R B C env) (rounds : ℕ) (ks : List BeaconKey) (h : RequestTexts R B C w) :
    Program.Sat E (RequestTexts R B C) (sendEach env rounds ks)
      (Program.Round (fun _ _ => True) fun _ _ => True) w := by
  refine Program.sat_forEach (J := fun _ _ _ => True) (Q := fun _ _ => True) hE
    (fun _ => .const True) (fun _ => .const True) (fun k _ _ w h _ => ?_) h trivial
  refine (sat_send_requestTexts hE hchunks rounds k h).seq fun _ w h _ => ?_
  exact Program.sat_ret hE (.const True) h trivial

end BeaconSend

end

end OpenKit
