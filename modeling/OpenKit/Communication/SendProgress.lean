import OpenKit.Communication.BeaconSend

/-!
# Progress of sending

A round of `Beacon::send` puts a record into its chunk only if the prefix of the chunk is not longer
than the size limit, the configured beacon size less 1024. If every prefix fits, each successful
round sends some record and the loop ends. If one does not, its round sends no record at all, and
goes on doing so as long as the server answers.

## Main definitions

* `MakesProgress`: what sending is to achieve, for every cache and every sequence of answers
* `PrefixesFit`: no prefix is longer than the size limit

## Main results

* `length_beingSent_afterRound`: a successful round whose prefix fits lowers the number of records
  being sent
* `makesProgress_iff`: sending makes progress iff all prefixes fit
-/

namespace OpenKit

open Thread

namespace BeaconSend

/-- Whatever the cache and the answers: a round that goes on lowers the number of records being
sent, sending returns, and it makes no more requests than there are records to send, each with some
record in it. -/
def MakesProgress (mutableBeaconData : BeaconKey → ℕ → UTF8String) (k : BeaconKey)
    (session : Session) : Prop :=
  ∀ (response : ℕ → Option StatusResponse) (w : World), w.session k = session →
    let env : Environment := ⟨response, mutableBeaconData⟩
    (∀ r r' t, (sendChunk env k r).run w = (.ok (.yield r'), t) →
      (t.cache.entryAt k).beingSent.length < (w.cache.entryAt k).beingSent.length) ∧
    (∃ rounds r t, (send env rounds k).run w = (.ok r, t)) ∧
    ∀ rounds r t, (send env rounds k).run w = (r, t) → ∃ new, t.log = w.log ++ new ∧
      (requests new).length ≤
        ((w.cache.prepareDataForSending k).entryAt k).beingSent.length ∧
      ∀ request ∈ requests new, 0 < request.1.numRecords

/-- The prefixes of all chunks fit into the size that chunks are limited to. -/
def PrefixesFit (mutableBeaconData : BeaconKey → ℕ → UTF8String) (k : BeaconKey)
    (session : Session) : Prop :=
  ∀ n, (beaconPrefix session (mutableBeaconData k n)).getStringLength ≤
    toSizeT (maxChunkSize session)

variable {env : Environment} {k : BeaconKey} {w : World}

/-! ## One round -/

@[simp] theorem session_afterRound (k' : BeaconKey) :
    (afterRound env k w).session k' = w.session k' := by
  rw [afterRound]
  split <;> rfl

theorem requests_log_afterRound (env : Environment) (k : BeaconKey) (w : World) :
    ∃ new, (afterRound env k w).log = w.log ++ new ∧
      requests new = [(chunkAt env k w, answerAt env w)] := by
  rw [afterRound]
  split
  · exact ⟨[.requested w.phase (chunkAt env k w) (answerAt env w),
      .acknowledged (chunkAt env k w)], List.append_assoc _ _ _, rfl⟩
  · exact ⟨[.requested w.phase (chunkAt env k w) (answerAt env w)], rfl, rfl⟩

/-- The chunk of a round takes some record iff there is one to send and the prefix fits. -/
theorem numRecords_chunkAt_pos_iff :
    0 < (chunkAt env k w).numRecords ↔ (w.cache.entryAt k).beingSent ≠ [] ∧
      (chunkPrefix env k w).getStringLength ≤ toSizeT (maxChunkSize (w.session k)) := by
  rw [BeaconChunk.numRecords, BeaconCacheEntry.numInChunk, BeaconCacheEntry.numChunked_pos_iff,
    UTF8String.getStringLength_concatenate]
  simp [chunkAt, UTF8String.nil, UTF8String.getStringLength]

theorem entryAt_afterRound
    (hs : BeaconSendingResponseUtil.isSuccessfulResponse (answerAt env w) = true) :
    (afterRound env k w).cache.entryAt k =
      (chunkAt env k w).entryAfter.removeDataMarkedForSending := by
  simp only [afterRound, hs, if_true]
  change (BeaconCache.removeChunkedData _ k).entryAt k = _
  rw [BeaconCache.entryAt_removeChunkedData, if_pos rfl]
  change (BeaconCache.entryAt (BeaconCache.getNextBeaconChunk _ k _ _ _).2 k).removeDataMarkedForSending
    = _
  rw [BeaconCache.entryAt_getNextBeaconChunk, if_pos rfl]
  rfl

/-- A successful round removes the records that its chunk took. -/
theorem beingSent_afterRound (hdata : (w.cache.entryAt k).beingSent ≠ [])
    (hs : BeaconSendingResponseUtil.isSuccessfulResponse (answerAt env w) = true) :
    ((afterRound env k w).cache.entryAt k).beingSent =
      (BeaconCacheEntry.markFirst (chunkAt env k w).numRecords
        (w.cache.entryAt k).beingSent).filter (!·.markedForSending) := by
  have hd : (w.cache.entryAt k).hasDataToSend = true := BeaconCacheEntry.hasDataToSend_iff.mpr hdata
  have hget : (chunkAt env k w).entryAfter.beingSent =
      BeaconCacheEntry.markFirst (chunkAt env k w).numRecords (w.cache.entryAt k).beingSent := by
    rw [BeaconChunk.entryAfter, BeaconCacheEntry.getChunk]
    simp only [chunkAt, hd, Bool.not_true, Bool.false_eq_true, if_false]
    exact BeaconCacheEntry.getNextChunk_beingSent
  rw [entryAt_afterRound hs, BeaconCacheEntry.removeDataMarkedForSending_beingSent, hget]

/-- **A successful round** whose chunk takes some record lowers the number of records being
sent. -/
theorem length_beingSent_afterRound (hn : 0 < (chunkAt env k w).numRecords)
    (hs : BeaconSendingResponseUtil.isSuccessfulResponse (answerAt env w) = true) :
    ((afterRound env k w).cache.entryAt k).beingSent.length <
      (w.cache.entryAt k).beingSent.length := by
  have hdata := (numRecords_chunkAt_pos_iff.mp hn).1
  rw [beingSent_afterRound hdata hs]
  exact BeaconCacheEntry.length_filter_markFirst_lt hn hdata

/-! ## All rounds -/

section Fit

variable {mutableBeaconData : BeaconKey → ℕ → UTF8String} {session : Session}
  {response : ℕ → Option StatusResponse}

theorem PrefixesFit.numRecords_pos (hfit : PrefixesFit mutableBeaconData k session)
    (hw : w.session k = session) (h : w.cache.hasDataForSending k = true) :
    0 < (chunkAt ⟨response, mutableBeaconData⟩ k w).numRecords := by
  rw [BeaconCache.hasDataForSending_eq] at h
  refine numRecords_chunkAt_pos_iff.mpr ⟨BeaconCacheEntry.hasDataToSend_iff.mp h, ?_⟩
  rw [chunkPrefix, hw]
  exact hfit w.numRequests

/-- A round that goes on was answered successfully and lowers the number of records. -/
theorem PrefixesFit.lt_of_yield (hfit : PrefixesFit mutableBeaconData k session)
    (hw : w.session k = session) {r r' : Option Answer} {t : World}
    (h : (sendChunk ⟨response, mutableBeaconData⟩ k r).run w = (.ok (.yield r'), t)) :
    t.session k = session ∧
      (t.cache.entryAt k).beingSent.length < (w.cache.entryAt k).beingSent.length := by
  cases hd : w.cache.hasDataForSending k with
  | false =>
    rw [run_sendChunk_of_no_data hd] at h
    simp at h
  | true =>
    have hn : 0 < (chunkAt ⟨response, mutableBeaconData⟩ k w).numRecords :=
      hfit.numRecords_pos hw hd
    rw [run_sendChunk_of_data hd] at h
    obtain ⟨hr, rfl⟩ := Prod.mk.inj h
    split at hr
    next hs => exact ⟨(session_afterRound k).trans hw, length_beingSent_afterRound hn hs⟩
    next => simp at hr

/-- The rounds of a loop make no more requests than there are records being sent, and each of the
requests carries some record. -/
theorem PrefixesFit.requests_loop (hfit : PrefixesFit mutableBeaconData k session) (rounds : ℕ)
    (hw : w.session k = session) {r : Option Answer} {x : Except SendFault (Option Answer)}
    {t : World}
    (h : (Program.loop .outOfRounds (sendChunk ⟨response, mutableBeaconData⟩ k) rounds r).run w =
      (x, t)) :
    ∃ new, t.log = w.log ++ new ∧
      (requests new).length ≤ (w.cache.entryAt k).beingSent.length ∧
      ∀ request ∈ requests new, 0 < request.1.numRecords := by
  induction rounds generalizing w r with
  | zero =>
    obtain ⟨-, rfl⟩ := Prod.mk.inj h
    exact ⟨[], (List.append_nil _).symm, Nat.zero_le _, List.forall_mem_nil _⟩
  | succ rounds ih =>
    cases hd : w.cache.hasDataForSending k with
    | false =>
      rw [Program.run_loop_done (run_sendChunk_of_no_data hd)] at h
      obtain ⟨-, rfl⟩ := Prod.mk.inj h
      exact ⟨[], (List.append_nil _).symm, Nat.zero_le _, List.forall_mem_nil _⟩
    | true =>
      have hn : 0 < (chunkAt ⟨response, mutableBeaconData⟩ k w).numRecords :=
        hfit.numRecords_pos hw hd
      have hrun : (sendChunk ⟨response, mutableBeaconData⟩ k r).run w = _ :=
        run_sendChunk_of_data hd
      obtain ⟨new, hlog, hnew⟩ := requests_log_afterRound ⟨response, mutableBeaconData⟩ k w
      have hpos : 1 ≤ (w.cache.entryAt k).beingSent.length :=
        List.length_pos_of_ne_nil (numRecords_chunkAt_pos_iff.mp hn).1
      by_cases hs : BeaconSendingResponseUtil.isSuccessfulResponse
          (answerAt ⟨response, mutableBeaconData⟩ w)
      · rw [if_pos hs] at hrun
        rw [Program.run_loop_yield hrun] at h
        obtain ⟨new', hlog', hlen', hall'⟩ := ih ((session_afterRound k).trans hw) h
        have hlt := length_beingSent_afterRound hn hs
        refine ⟨new ++ new', ?_, ?_, ?_⟩
        · rw [hlog', hlog, List.append_assoc]
        · rw [requests_append, hnew, List.length_append, List.length_singleton]
          omega
        · rw [requests_append, hnew]
          exact List.forall_mem_cons.mpr ⟨hn, hall'⟩
      · rw [if_neg hs] at hrun
        rw [Program.run_loop_done hrun] at h
        obtain ⟨-, rfl⟩ := Prod.mk.inj h
        refine ⟨new, hlog, ?_, ?_⟩
        · rw [hnew]
          exact hpos
        · rw [hnew]
          exact List.forall_mem_singleton.mpr hn

/-- The loop returns, given more rounds than there are records being sent. -/
theorem PrefixesFit.loop_returns (hfit : PrefixesFit mutableBeaconData k session)
    (response : ℕ → Option StatusResponse) (hw : w.session k = session) :
    ∃ r t, (Program.loop .outOfRounds (sendChunk ⟨response, mutableBeaconData⟩ k)
      ((w.cache.entryAt k).beingSent.length + 1) none).run w = (.ok r, t) := by
  have hbody (r : Option Answer) (w : World) (hw : w.session k = session) :
      ∃ x t, (sendChunk ⟨response, mutableBeaconData⟩ k r).run w = (.ok x, t) ∧
        Program.Round (fun _ t => t.session k = session ∧
          (t.cache.entryAt k).beingSent.length < (w.cache.entryAt k).beingSent.length)
          (fun _ _ => True) x t := by
    cases hd : w.cache.hasDataForSending k with
    | false => exact ⟨_, w, run_sendChunk_of_no_data hd, trivial⟩
    | true =>
      refine ⟨_, _, run_sendChunk_of_data hd, ?_⟩
      split
      next hs =>
        have hn : 0 < (chunkAt ⟨response, mutableBeaconData⟩ k w).numRecords :=
        hfit.numRecords_pos hw hd
        exact ⟨(session_afterRound k).trans hw, length_beingSent_afterRound hn hs⟩
      next => trivial
  obtain ⟨r, t, hrun, -⟩ := Program.run_loop_of_variant (e := SendFault.outOfRounds)
    (J := fun _ (w : World) => w.session k = session)
    (fun _ w => (w.cache.entryAt k).beingSent.length) hbody (a := none) hw (Nat.lt_succ_self _)
  exact ⟨r, t, hrun⟩

/-- Prefixes that fit let sending make progress. -/
theorem PrefixesFit.makesProgress (hfit : PrefixesFit mutableBeaconData k session) :
    MakesProgress mutableBeaconData k session := by
  intro response w hw
  have hprepared : (w.setCache (w.cache.prepareDataForSending k)).session k = session := hw
  refine ⟨fun r r' t h => (hfit.lt_of_yield hw h).2, ?_, fun rounds r t h => ?_⟩
  · obtain ⟨r, t, hrun⟩ := hfit.loop_returns response hprepared
    exact ⟨_, r, t, (Program.run_bind_ok (Program.run_write _ w)).trans hrun⟩
  · rw [send, prepareDataForSending, Program.run_bind_ok (Program.run_write _ w)] at h
    exact hfit.requests_loop rounds hprepared h

end Fit

/-- A prefix that does not fit sends a request without any record. -/
theorem not_makesProgress_of_lt {mutableBeaconData : BeaconKey → ℕ → UTF8String}
    {session : Session} {n : ℕ}
    (h : toSizeT (maxChunkSize session) <
      (beaconPrefix session (mutableBeaconData k n)).getStringLength) :
    ¬ MakesProgress mutableBeaconData k session := by
  intro hprogress
  -- a cache with one record, and the request whose prefix does not fit
  let w : World :=
    { cache := BeaconCache.empty.addEventData k 0 (.ofAscii ['a'])
      sessions := fun _ => session
      created := [k]
      context := .new ⟨1, .nil⟩
      currentTime := 0
      numRequests := n
      phase := .finishedSessions
      log := [] }
  let env : Environment := ⟨fun _ => none, mutableBeaconData⟩
  let w' := w.setCache (w.cache.prepareDataForSending k)
  have hentry : (w'.cache.entryAt k).eventDataBeingSent = [.new 0 (.ofAscii ['a'])] := by
    change ((BeaconCache.prepareDataForSending _ k).entryAt k).eventDataBeingSent = _
    rw [BeaconCache.entryAt_prepareDataForSending, if_pos rfl, BeaconCache.entryAt_addEventData,
      if_pos rfl]
    rfl
  have hdata : w'.cache.hasDataForSending k = true := by
    rw [BeaconCache.hasDataForSending_eq, BeaconCacheEntry.hasDataToSend, hentry]
    rfl
  have hrun : (send env 1 k).run w = (.ok none, afterRound env k w') :=
    (Program.run_bind_ok (Program.run_write _ w)).trans
      (Program.run_loop_done (run_sendChunk_of_data hdata))
  obtain ⟨new, hlog, -, hall⟩ := (hprogress (fun _ => none) w rfl).2.2 1 _ _ hrun
  obtain ⟨new', hlog', hnew'⟩ := requests_log_afterRound env k w'
  obtain rfl : new = new' := List.append_cancel_left (hlog.symm.trans hlog')
  have hn := hall _ (hnew' ▸ List.mem_singleton_self _)
  exact absurd (numRecords_chunkAt_pos_iff.mp hn).2 (not_le.mpr h)

/-- **Progress of sending**: for every cache and every sequence of answers sending makes progress
iff every prefix of the beacon fits into the size that its chunks are limited to. -/
theorem makesProgress_iff (mutableBeaconData : BeaconKey → ℕ → UTF8String) (k : BeaconKey)
    (session : Session) :
    MakesProgress mutableBeaconData k session ↔ PrefixesFit mutableBeaconData k session := by
  constructor
  · intro hprogress n
    by_contra h
    exact not_makesProgress_of_lt (not_le.mp h) hprogress
  · exact PrefixesFit.makesProgress

/-- A session that was configured with a beacon size of one kilobyte. -/
def oneKilobyteSession : Session := .new
  (.new ((BeaconConfiguration.new ⟨.userBehavior, .optInCrashes⟩).updateServerConfiguration
      (some (.ofAttributes (ResponseAttributes.jsonResponse.withMaxBeaconSizeInBytes 1024)))).1
    0 0 (.ofAscii ['v', 'v', '=', '3']))

/-- With a beacon size of one kilobyte no character is left for the prefix. -/
theorem not_makesProgress :
    ¬ ∀ mutableBeaconData k session, MakesProgress mutableBeaconData k session := by
  intro h
  let multiplicityData : UTF8String := .ofAscii ['m', 'p', '=', '1']
  refine not_makesProgress_of_lt (n := 0) ?_
    (h (fun _ _ => multiplicityData) ⟨1, 0⟩ oneKilobyteSession)
  decide

end BeaconSend

end OpenKit
